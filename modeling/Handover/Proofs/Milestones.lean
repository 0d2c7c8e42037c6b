import Handover.Proofs.Account
import Handover.Proofs.Handshake

/-! # Milestones of a transfer

A transfer comes to its states one after the other, each at the end of a leg of its own: the calls of the leg are made
first, and only when they have all succeeded the move to the state is noted. So the moves that are noted say how far the
calls have got, whichever of them fails.
-/
namespace Handover

open Transfer (State)

def Event.move? : Event → Option (State × State)
  | .moved before after => some (before, after)
  | _ => none

def Event.Plain (event : Event) : Prop := event.move? = none ∧ event ≠ .handedOver

/-- The call has been made and has had its outcome. -/
def CarriedOut (records : List Record) (exchange : Exchange) : Prop :=
  ∃ live, Record.call exchange.1 live exchange.2 ∈ records

namespace Attempted

variable {plan : List Exchange} {records : List Record} {failed : Failure}

theorem mem_of_stop (h : Attempted plan records (some failed)) : failed.call ∈ plan.map Prod.fst := by
  generalize hs : some failed = stop at h
  induction h with
  | nil => simp at hs
  | granted _ ih => exact List.mem_cons_of_mem _ (ih hs)
  | refused =>
    obtain rfl := Option.some.inj hs
    exact List.mem_cons_self ..

/-- The call that fails is not carried out, as a plan has each call once. -/
theorem not_carriedOut (h : Attempted plan records (some failed)) (hn : (plan.map Prod.fst).Nodup)
    (ho : ∀ exchange ∈ plan, ∀ e, exchange.2 ≠ .failed e) {outcome : Outcome} (hm : (failed.call, outcome) ∈ plan) :
    ¬ CarriedOut records (failed.call, outcome) := by
  induction plan generalizing records with
  | nil => simp at hm
  | cons exchange plan ih =>
    rintro ⟨live, hl⟩
    cases h with
    | granted hr =>
      obtain ⟨hfirst, hrest⟩ := List.nodup_cons.mp hn
      have hlater : failed.call ∈ plan.map Prod.fst := hr.mem_of_stop
      rcases List.mem_cons.mp hm with he | hm
      · exact hfirst ((Prod.mk.inj he).1 ▸ hlater)
      · rcases List.mem_cons.mp hl with he | hl
        · exact hfirst ((Record.call.inj he).1 ▸ hlater)
        · exact ih hr hrest (fun e he => ho e (List.mem_cons_of_mem _ he)) hm ⟨live, hl⟩
    | refused =>
      have he := (Record.call.inj (List.mem_singleton.mp hl)).2.2
      exact ho _ hm _ he

end Attempted

namespace Account

/-- A state and what has to be done to reach it. -/
abbrev Leg := State × Account

def journey : State → List Leg → Account
  | _, [] => [.note .handedOver]
  | state, (next, leg) :: legs => leg ++ .note (.moved state next) :: journey next legs

/-- The legs `done` of a journey have been made and the legs `rest` have not: in the first of these a call has failed. -/
structure Travelled (state : State) (done rest : List Leg) (records : List Record) (events : List Event)
    (stop : Option Failure) : Prop where
  moves : events.filterMap Event.move? = (state :: done.map Prod.fst).zip (done.map Prod.fst)
  handedOver : .handedOver ∈ events ↔ stop = none
  carriedOut : ∀ leg ∈ done, ∀ exchange ∈ calls leg.2, CarriedOut records exchange
  stopped : rest = [] ∧ stop = none ∨
    ∃ leg later failed, rest = leg :: later ∧ stop = some failed ∧ failed.call ∈ (calls leg.2).map Prod.fst

section Travelling

variable {records : List Record} {drops : List Descriptor} {events : List Event} {stop : Option Failure}

theorem filterMap_move?_eq_nil (h : ∀ event ∈ events, event.Plain) : events.filterMap Event.move? = [] :=
  List.filterMap_eq_nil_iff.mpr fun event he => (h event he).1

theorem handedOver_not_mem (h : ∀ event ∈ events, event.Plain) : .handedOver ∉ events :=
  fun hm => (h _ hm).2 rfl

/-- However a journey goes, it gets to the end of some of its legs, and the moves that are noted are theirs. -/
theorem Told.travelled {legs : List Leg} {state : State} (h : Told (journey state legs) records drops events stop)
    (hp : ∀ leg ∈ legs, ∀ event ∈ notes leg.2, event.Plain) :
    ∃ done rest, legs = done ++ rest ∧ Travelled state done rest records events stop := by
  induction legs generalizing state records events with
  | nil =>
    cases h with
    | noted h =>
      cases h
      refine ⟨[], [], rfl, rfl, ?_, by simp, Or.inl ⟨rfl, rfl⟩⟩
      simp
  | cons leg legs ih =>
    obtain ⟨next, items⟩ := leg
    obtain ⟨hplain, hlegs⟩ := List.forall_mem_cons.mp hp
    rcases h.of_append with ⟨failed, rfl, hleg⟩ | ⟨first, later, front, back, rfl, rfl, hleg, hrest⟩
    · have hnone : ∀ event ∈ events, event.Plain := fun event he => hplain event (hleg.notes_prefix.subset he)
      refine ⟨[], (next, items) :: legs, rfl, filterMap_move?_eq_nil hnone, ?_, by simp, Or.inr ?_⟩
      · simpa using handedOver_not_mem hnone
      · exact ⟨_, legs, failed, rfl, rfl, hleg.attempted.mem_of_stop⟩
    · have hnone : ∀ event ∈ front, event.Plain := fun event he => hplain event (hleg.notes_prefix.subset he)
      cases hrest with
      | noted hrest =>
        obtain ⟨done, rest, rfl, ht⟩ := ih hrest hlegs
        refine ⟨(next, items) :: done, rest, rfl, ?_, ?_, ?_, ht.stopped⟩
        · rw [List.filterMap_append, filterMap_move?_eq_nil hnone, List.nil_append]
          exact congrArg ((state, next) :: ·) ht.moves
        · simpa [handedOver_not_mem hnone] using ht.handedOver
        · intro leg hl exchange he
          rcases List.mem_cons.mp hl with rfl | hl
          · obtain ⟨live, hr⟩ := hleg.attempted.exists_record he
            exact ⟨live, List.mem_append_left _ hr⟩
          · obtain ⟨live, hr⟩ := ht.carriedOut leg hl exchange he
            exact ⟨live, List.mem_append_right _ hr⟩

theorem Travelled.le_iff {state : State} {done rest : List Leg} {plan : List Exchange}
    (ht : Travelled state done rest records events stop) (ha : Attempted plan records stop)
    (hplan : plan = (done ++ rest).flatMap fun leg => calls leg.2) (hn : (plan.map Prod.fst).Nodup)
    (ho : ∀ exchange ∈ plan, ∀ e, exchange.2 ≠ .failed e) {n : Nat} (hle : n ≤ (done ++ rest).length) :
    n ≤ done.length ↔ ∀ exchange ∈ ((done ++ rest).take n).flatMap fun leg => calls leg.2, CarriedOut records exchange := by
  constructor
  · intro hn exchange he
    rw [List.take_append_of_le_length hn] at he
    obtain ⟨leg, hl, he⟩ := List.mem_flatMap.mp he
    exact ht.carriedOut leg (List.mem_of_mem_take hl) exchange he
  · intro hall
    by_contra hlt
    rcases ht.stopped with ⟨rfl, -⟩ | ⟨leg, later, failed, rfl, rfl, hfailed⟩
    · rw [List.append_nil] at hle
      exact hlt hle
    · obtain ⟨⟨made, outcome⟩, he, hmade⟩ := List.mem_map.mp hfailed
      obtain rfl : made = failed.call := hmade
      have hleg : leg ∈ (done ++ leg :: later).take n := by
        rw [List.take_append, List.mem_append]
        obtain ⟨m, hm⟩ : ∃ m, n - done.length = m + 1 := ⟨n - done.length - 1, by omega⟩
        rw [hm, List.take_succ_cons]
        exact Or.inr (List.mem_cons_self ..)
      have hmem : (failed.call, outcome) ∈ plan := by
        rw [hplan]
        exact List.mem_flatMap.mpr ⟨leg, List.mem_of_mem_take hleg, he⟩
      exact ha.not_carriedOut hn ho hmem (hall _ (List.mem_flatMap.mpr ⟨leg, hleg, he⟩))

end Travelling

end Account

/-! ## The transfer -/

/-- How many calls of a transfer have to succeed for it to reach the state. -/
def Transfer.State.callsBefore : State → Nat
  | .listening => 0
  | .accepted => 1
  | .unlinked => 3
  | .sent => 4
  | .closed => 7

def Transfer.State.path : List (State × State) :=
  [(.listening, .accepted), (.accepted, .unlinked), (.unlinked, .sent), (.sent, .closed)]

theorem exists_state_of_rank {n : Nat} (hn : n ≤ 4) : ∃ state : State, state.rank = n := by
  interval_cases n
  · exact ⟨.listening, rfl⟩
  · exact ⟨.accepted, rfl⟩
  · exact ⟨.unlinked, rfl⟩
  · exact ⟨.sent, rfl⟩
  · exact ⟨.closed, rfl⟩

section Transfers

open Account (Leg Told Recounts journey calls notes Settles)

variable {script : Script}

/-- To each state after the first, with what is known about the other end of the connection `conn`. -/
def transferLegs (dir : PrivateDirectory) (data pass : Listener) (conn : Descriptor) (peer : Event) : List Leg :=
  [(.accepted, [.note (.waiting pass.path),
      .call (.accept pass.handle, .issued conn) [pass.handle, data.handle, dir.handle]]),
    (.unlinked, [.note peer,
      .call (.close "passsock" pass.handle, .finished) [conn, data.handle, dir.handle],
      .call (.unlink dir.handle pass.name, .finished) [conn, data.handle, dir.handle]]),
    (.sent, [.call (.send conn data.handle, .finished) [conn, data.handle, dir.handle]]),
    (.closed, [.call (.close "connsock" conn, .finished) [data.handle, dir.handle],
      .call (.close "datasock" data.handle, .finished) [dir.handle],
      .call (.close "dirfd" dir.handle, .finished) []])]

theorem serveOnce_recounts (dir : PrivateDirectory) (data pass : Listener) (l : Ledger) :
    Recounts (script.platform.serveOnce dir data pass) l
      (journey .listening (transferLegs dir data pass l.next (Account.peerEvent script l.next))) .closed := by
  refine Recounts.log_bind ?_
  refine Recounts.call_bind fun _ => Recounts.advance_bind ?_
  refine Recounts.logPeer_bind ?_
  refine Recounts.call_bind fun _ => ?_
  refine Recounts.call_bind fun _ => Recounts.advance_bind ?_
  refine Recounts.call_bind fun _ => Recounts.advance_bind ?_
  refine Recounts.call_bind fun _ => ?_
  refine Recounts.call_bind fun _ => ?_
  rw [← script.platform.holding_nil (script.platform.perform (.close "dirfd" dir.handle))]
  refine Recounts.call_bind fun _ => Recounts.advance_bind ?_
  exact Recounts.log_bind Recounts.pure

variable (dir : PrivateDirectory) (data pass : Listener) (conn : Descriptor) (peer : Event)

theorem take_callsBefore (state : State) :
    (handingOver pass.name dir.handle data.handle pass.handle conn).take state.callsBefore =
      ((transferLegs dir data pass conn peer).take state.rank).flatMap fun leg => calls leg.2 := by
  cases state <;> rfl

/-- Each of the four handles is closed by the last call that needs it, or let go if that call is not reached. -/
theorem transfer_settles : Settles [pass.handle, data.handle, dir.handle]
    (journey .listening (transferLegs dir data pass conn peer)) := by
  have refl := fun held : List Descriptor => List.Perm.refl held
  have hswap : [conn, pass.handle, data.handle, dir.handle].Perm [pass.handle, conn, data.handle, dir.handle] :=
    List.Perm.swap _ _ _
  exact ⟨refl _, hswap, refl _, refl _, refl _, refl _, refl _, rfl⟩

theorem peerEvent_plain (script : Script) (conn : Descriptor) : (Account.peerEvent script conn).Plain := by
  unfold Account.peerEvent
  cases script.peer conn <;> simp [Event.Plain, Event.move?]

theorem transferLegs_plain (h : peer.Plain) :
    ∀ leg ∈ transferLegs dir data pass conn peer, ∀ event ∈ notes leg.2, event.Plain := by
  simp only [transferLegs, List.mem_cons, List.not_mem_nil, or_false]
  rintro leg (rfl | rfl | rfl | rfl) <;> simp [notes, Account.Item.event?, h]
  simp [Event.Plain, Event.move?]

theorem handingOver_nodup (name : String) (dir data pass conn : Descriptor) :
    ((handingOver name dir data pass conn).map Prod.fst).Nodup := by
  simp [handingOver]

theorem handingOver_succeeds (name : String) (dir data pass conn : Descriptor) :
    ∀ exchange ∈ handingOver name dir data pass conn, ∀ cause, exchange.2 ≠ .failed cause := by
  simp [handingOver]

/-- The legs that have been made lead to one state, along the way. -/
theorem exists_reached {done rest : List Leg} (hlegs : transferLegs dir data pass conn peer = done ++ rest) :
    ∃ reached : State, reached.rank = done.length ∧
      (State.listening :: done.map Prod.fst).zip (done.map Prod.fst) = State.path.take reached.rank := by
  have hlength : 4 = done.length + rest.length := by simpa [transferLegs] using congrArg List.length hlegs
  have hdone : done.map Prod.fst = [State.accepted, .unlinked, .sent, .closed].take done.length := by
    have hstates : [State.accepted, .unlinked, .sent, .closed] = done.map Prod.fst ++ rest.map Prod.fst := by
      simpa [transferLegs] using congrArg (List.map Prod.fst) hlegs
    rw [hstates, ← List.length_map Prod.fst, List.take_left]
  obtain ⟨reached, hr⟩ : ∃ reached : State, reached.rank = done.length := exists_state_of_rank (by omega)
  refine ⟨reached, hr, ?_⟩
  rw [hdone, ← hr]
  cases reached <;> rfl

theorem rank_le_iff {done rest : List Leg} {records : List Record} {events : List Event} {stop : Option Failure}
    (hlegs : transferLegs dir data pass conn peer = done ++ rest)
    (ht : Account.Travelled .listening done rest records events stop)
    (ha : Attempted (handingOver pass.name dir.handle data.handle pass.handle conn) records stop) (state : State) :
    state.rank ≤ done.length ↔
      ∀ exchange ∈ (handingOver pass.name dir.handle data.handle pass.handle conn).take state.callsBefore,
        CarriedOut records exchange := by
  have hplan : handingOver pass.name dir.handle data.handle pass.handle conn =
      (done ++ rest).flatMap fun leg => calls leg.2 := by
    rw [← hlegs]
    rfl
  have hle : state.rank ≤ (done ++ rest).length := by
    have hlast : state.rank ≤ 4 := by cases state <;> decide
    simpa [← hlegs, transferLegs] using hlast
  rw [take_callsBefore dir data pass conn peer state, hlegs]
  exact ht.le_iff ha hplan (handingOver_nodup _ _ _ _ _) (handingOver_succeeds _ _ _ _ _) hle

end Transfers

theorem Transfer.State.rank_of_mem_path {move : State × State} (h : move ∈ path) : move.2.rank = move.1.rank + 1 := by
  have hall : ∀ move ∈ path, move.2.rank = move.1.rank + 1 := by decide
  exact hall move h

/-- A transfer makes its calls in order, up to the first one that fails, whose error it returns, or all seven, and then it
says so. It notes a beginning of the way through its states; how far it gets on that way says exactly which of its calls
have succeeded. Whatever happens, the three handles and the connection are let go, each once, and then nothing is open but
what others hold. -/
theorem a_transfer_tells_how_far_it_got (script : Script) (dir : PrivateDirectory) (data pass : Listener) (l : Ledger) :
    let plan := handingOver pass.name dir.handle data.handle pass.handle l.next
    let serve := script.platform.serveOnce dir data pass
    ∃ (l' : Ledger) (records : List Record) (drops : List Descriptor) (events : List Event) (reached : State),
      l'.history = l.history ++ (records ++ drops.map Record.release) ∧ l'.events = l.events ++ events ∧
      ((Attempted plan records none ∧ drops = [] ∧ serve l = .ok .closed l') ∨
        ∃ failed, Attempted plan records (some failed) ∧ serve l = .error failed.error l') ∧
      events.filterMap Event.move? = Transfer.State.path.take reached.rank ∧
      (∀ before after, .moved before after ∈ events → after.rank = before.rank + 1) ∧
      (∀ state : State, state.rank ≤ reached.rank ↔
        ∀ exchange ∈ plan.take state.callsBefore, CarriedOut records exchange) ∧
      (.handedOver ∈ events ↔ serve l = .ok .closed l') ∧
      (History.closed (records ++ drops.map Record.release)).Perm
        ([pass.handle, data.handle, dir.handle] ++ History.issued records) ∧
      ∀ frame, l.Holds ([pass.handle, data.handle, dir.handle] ++ frame) → l'.Holds frame := by
  intro plan serve
  have hrecounts : Account.Recounts serve l (Account.journey .listening (transferLegs dir data pass l.next
      (Account.peerEvent script l.next))) .closed := serveOnce_recounts dir data pass l
  obtain ⟨told, result, history, noted⟩ := hrecounts
  rename_i l' records drops events stop
  have attempt : Attempted plan records stop := told.attempted
  obtain ⟨done, rest, hlegs, ht⟩ := told.travelled (transferLegs_plain dir data pass l.next _ (peerEvent_plain script _))
  obtain ⟨reached, hreached, hpath⟩ := exists_reached _ _ _ _ _ hlegs
  have hmoves : events.filterMap Event.move? = Transfer.State.path.take reached.rank := ht.moves.trans hpath
  refine ⟨l', records, drops, events, reached, history, noted, ?_, hmoves, ?_, ?_, ?_, ?_, ?_⟩
  · cases stop with
    | none => exact Or.inl ⟨attempt, told.drops_eq_nil, result⟩
    | some failed => exact Or.inr ⟨failed, attempt, result⟩
  · intro before after hm
    have hmem : (before, after) ∈ events.filterMap Event.move? := List.mem_filterMap.mpr ⟨_, hm, rfl⟩
    rw [hmoves] at hmem
    exact Transfer.State.rank_of_mem_path (List.mem_of_mem_take hmem)
  · intro state
    rw [hreached]
    exact rank_le_iff _ _ _ _ _ hlegs ht attempt state
  · rw [ht.handedOver]
    cases stop with
    | none => exact iff_of_true rfl result
    | some failed =>
      have herror : serve l = .error failed.error l' := result
      exact iff_of_false (by simp) (by simp [herror])
  · exact told.settled (transfer_settles dir data pass l.next _)
  · intro frame hl
    cases stop with
    | none => exact (owns_serveOnce dir data pass).of_ok hl result
    | some failed => exact (owns_serveOnce dir data pass).of_error hl result

end Handover
