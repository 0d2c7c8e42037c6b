import Handover.Proofs.Extension

/-! # The hand-over is one-shot

A listener is accepted on once at most, and a socket is sent once at most, whatever else goes on and whatever fails.
Only transfers accept, unlink and send. What one step adds to the history holds at most one transfer, of which the
listener, the socket and the connection are gone when the step is over; handles do not come back, so no later step can
use them again.
-/
namespace Handover

namespace Call

def acceptsOn? : Call → Option Descriptor
  | .accept listener => some listener
  | _ => none

def sends? : Call → Option Descriptor
  | .send _ data => some data
  | _ => none

def sendsOver? : Call → Option Descriptor
  | .send connection _ => some connection
  | _ => none

end Call

section Transfers

/-- The consumer `conn` has come in on `pass`, and `pass` is closed. -/
def Admitted (records : List Record) (pass conn : Descriptor) : Prop :=
  ∃ live live', records =
    [.call (.accept pass) live (.issued conn), .call (.close "passsock" pass) live' .finished]

/-- Then the entry `name` of `dir` has been removed. -/
def SealedOff (records : List Record) (name : String) (dir pass conn : Descriptor) : Prop :=
  ∃ front live, records = front ++ [.call (.unlink dir name) live .finished] ∧ Admitted front pass conn

variable {name entry : String} {dir data pass conn place socket link : Descriptor} {live : List Descriptor}
  {outcome : Outcome} {front back : List Record} {stop : Option Failure}

theorem admitted_of_unlink (h : Attempted (handingOver name dir data pass conn)
    (front ++ .call (.unlink place entry) live outcome :: back) stop) : entry = name ∧ Admitted front pass conn := by
  obtain ⟨rfl, rfl⟩ : place = dir ∧ entry = name := by simpa [handingOver] using h.mem_calls
  have hdone : Attempted [(.accept pass, .issued conn), (.close "passsock" pass, .finished)] front none :=
    h.before_record (by simp) (by simp)
  cases hdone with
  | granted hdone => cases hdone with
    | granted hdone =>
      cases hdone
      exact ⟨rfl, _, _, rfl⟩

theorem sealedOff_of_send (h : Attempted (handingOver name dir data pass conn)
    (front ++ .call (.send link socket) live outcome :: back) stop) :
    link = conn ∧ socket = data ∧ SealedOff front name dir pass conn := by
  obtain ⟨rfl, rfl⟩ : link = conn ∧ socket = data := by simpa [handingOver] using h.mem_calls
  have hdone : Attempted [(.accept pass, .issued link), (.close "passsock" pass, .finished),
      (.unlink dir name, .finished)] front none :=
    h.before_record (by simp) (by simp)
  cases hdone with
  | granted hdone => cases hdone with
    | granted hdone => cases hdone with
      | granted hdone =>
        cases hdone
        exact ⟨rfl, rfl, [_, _], _, rfl, _, _, rfl⟩

/-- A listener that nobody comes in on ends its transfer at once. -/
theorem served_of_refused {listener : Descriptor} {error : Error} {served : List Record}
    (h : Attempted (handingOver name dir data pass conn) served stop)
    (hm : .call (.accept listener) live (.failed error) ∈ served) :
    served = [.call (.accept listener) live (.failed error)] := by
  cases h with
  | refused => exact congrArg (fun r => [r]) (List.mem_singleton.mp hm).symm
  | granted hrest =>
    rcases List.mem_cons.mp hm with hm | hm
    · simp at hm
    · have hc := hrest.calls_prefix.subset (List.mem_filterMap.mpr ⟨_, hm, rfl⟩)
      simp at hc

theorem Admitted.not_mem_live (h : Admitted front pass conn) (before : List Record) :
    pass ∉ History.live (before ++ front) := by
  obtain ⟨accepting, closing, rfl⟩ := h
  rw [List.append_cons, History.live_snoc]
  simp [Record.after, Record.closes, Call.closes, Record.issued?]

theorem SealedOff.not_mem_live (h : SealedOff front name dir pass conn) (before : List Record) :
    pass ∉ History.live (before ++ front) := by
  obtain ⟨admitting, unlinking, rfl, hadmitted⟩ := h
  have hclosed := hadmitted.not_mem_live before
  rw [← List.append_assoc, History.live_snoc]
  simp [Record.after, Record.issued?, hclosed]

end Transfers

section Blocks

variable {before block pre post : List Record} {names : String → Prop} {live : List Descriptor} {outcome : Outcome}

theorem Adds.of_record {call : Call} (h : Adds before names block) (hc : call.handsOver = true)
    (hb : block = pre ++ .call call live outcome :: post) :
    ∃ (lead front back : List Record) (name : String) (dir data pass conn : Descriptor) (stop : Option Failure),
      pre = lead ++ front ∧ names name ∧ Named (before ++ lead) pass name ∧
      Attempted (handingOver name dir data pass conn) (front ++ .call call live outcome :: back) stop := by
  cases h with
  | quiet hq =>
    have hn : Record.call call live outcome ∉ block := hq.not_mem hc
    rw [hb] at hn
    exact absurd (List.mem_append_right _ (List.mem_cons_self ..)) hn
  | transfer hlead hrest hnamed hname hserved hgone =>
    rw [List.append_assoc] at hb
    obtain ⟨front, hpre, hb⟩ := split_right hb (hlead.not_mem hc)
    obtain ⟨back, rfl⟩ := split_left hb (hrest.not_mem hc)
    exact ⟨_, front, back, _, _, _, _, _, _, hpre, hname, hnamed, hserved⟩

/-- An unlink comes directly after a consumer was admitted, and removes the entry of the listener it came in on. -/
theorem Adds.of_unlink {place : Descriptor} {entry : String} (h : Adds before names block)
    (hb : block = pre ++ .call (.unlink place entry) live outcome :: post) :
    names entry ∧ ∃ lead front pass conn, pre = lead ++ front ∧ Named (before ++ lead) pass entry ∧
      Admitted front pass conn := by
  obtain ⟨lead, front, back, name, dir, data, pass, conn, stop, hpre, hname, hnamed, hserved⟩ := h.of_record rfl hb
  obtain ⟨rfl, hadmitted⟩ := admitted_of_unlink hserved
  exact ⟨hname, lead, front, pass, conn, hpre, hnamed, hadmitted⟩

theorem Adds.of_send {link socket : Descriptor} (h : Adds before names block)
    (hb : block = pre ++ .call (.send link socket) live outcome :: post) :
    ∃ lead front name dir pass, pre = lead ++ front ∧ Named (before ++ lead) pass name ∧
      SealedOff front name dir pass link ∧ pass ∉ History.live (before ++ pre) := by
  obtain ⟨lead, front, back, name, dir, data, pass, conn, stop, hpre, -, hnamed, hserved⟩ := h.of_record rfl hb
  obtain ⟨rfl, -, hsealed⟩ := sealedOff_of_send hserved
  refine ⟨lead, front, name, dir, pass, hpre, hnamed, hsealed, ?_⟩
  rw [hpre, ← List.append_assoc]
  exact hsealed.not_mem_live _

theorem Adds.no_unlink_of_refused {listener place : Descriptor} {entry : String} {error : Error}
    {live' : List Descriptor} (h : Adds before names block)
    (hm : Record.call (.accept listener) live' (.failed error) ∈ block) :
    Record.call (.unlink place entry) live outcome ∉ block := by
  cases h with
  | quiet hq => exact absurd hm (hq.not_mem rfl)
  | transfer hlead hrest hnamed hname hserved hgone =>
    have hs := (List.mem_append.mp ((List.mem_append.mp hm).resolve_right (hrest.not_mem rfl))).resolve_left
      (hlead.not_mem rfl)
    rw [served_of_refused hserved hs]
    intro hu
    have hu' := (List.mem_append.mp ((List.mem_append.mp hu).resolve_right (hrest.not_mem rfl))).resolve_left
      (hlead.not_mem rfl)
    simp at hu'

end Blocks

section Keys

variable {key : Call → Option Descriptor} {history before block : List Record}

/-- What the calls of a history have been made with, as far as `key` is concerned. -/
def History.keys (key : Call → Option Descriptor) (history : List Record) : List Descriptor :=
  (history.filterMap Record.call?).filterMap key

theorem History.keys_append (key : Call → Option Descriptor) (before more : List Record) :
    keys key (before ++ more) = keys key before ++ keys key more := by
  simp [keys]

theorem Quiet.keys {records : List Record} (hq : Quiet records) (hk : ∀ call, call.handsOver = false → key call = none) :
    History.keys key records = [] :=
  List.filterMap_eq_nil_iff.mpr fun call hc => hk call (hq call hc)

/-- A key picks one of the handles that a transfer uses up. -/
structure OncePerTransfer (key : Call → Option Descriptor) : Prop where
  operand : ∀ call, ∀ h ∈ key call, h ∈ call.operands
  quiet : ∀ call, call.handsOver = false → key call = none
  once : ∀ name dir data pass conn, ∃ h ∈ [pass, data, conn],
    ((handingOver name dir data pass conn).map Prod.fst).filterMap key = [h]

theorem acceptsOn_oncePerTransfer : OncePerTransfer Call.acceptsOn? := by
  refine ⟨fun call h hm => ?_, fun call hc => ?_, fun name dir data pass conn => ⟨pass, by simp, rfl⟩⟩
  · cases call <;> simp_all [Call.acceptsOn?, Call.operands]
  · cases call <;> simp_all [Call.acceptsOn?, Call.handsOver]

theorem sends_oncePerTransfer : OncePerTransfer Call.sends? := by
  refine ⟨fun call h hm => ?_, fun call hc => ?_, fun name dir data pass conn => ⟨data, by simp, rfl⟩⟩
  · cases call <;> simp_all [Call.sends?, Call.operands]
  · cases call <;> simp_all [Call.sends?, Call.handsOver]

theorem sendsOver_oncePerTransfer : OncePerTransfer Call.sendsOver? := by
  refine ⟨fun call h hm => ?_, fun call hc => ?_, fun name dir data pass conn => ⟨conn, by simp, rfl⟩⟩
  · cases call <;> simp_all [Call.sendsOver?, Call.operands]
  · cases call <;> simp_all [Call.sendsOver?, Call.handsOver]

/-- One step uses at most one key, and it is gone after it. -/
theorem Adds.keys {names : String → Prop} (h : Adds before names block) (hk : OncePerTransfer key) :
    History.keys key block = [] ∨ ∃ h, History.keys key block = [h] ∧ h ∉ History.live (before ++ block) := by
  cases h with
  | quiet hq => exact Or.inl (hq.keys hk.quiet)
  | transfer hlead hrest hnamed hname hserved hgone =>
    rename_i lead served rest name dir data pass conn stop
    obtain ⟨h, hm, hone⟩ := hk.once name dir data pass conn
    have hp : History.keys key served <+: [h] := hone ▸ hserved.calls_prefix.filterMap key
    rw [History.keys_append, History.keys_append, hlead.keys hk.quiet, hrest.keys hk.quiet, List.nil_append,
      List.append_nil]
    rcases List.prefix_cons_iff.mp hp with hnil | ⟨tail, htail, hp⟩
    · exact Or.inl hnil
    · rw [List.prefix_nil.mp hp] at htail
      exact Or.inr ⟨h, htail, hgone h hm⟩

theorem exists_live_of_mem_keys (ho : History.Orderly (before ++ block)) (hk : OncePerTransfer key) {h : Descriptor}
    (hm : h ∈ History.keys key block) : ∃ pre post, block = pre ++ post ∧ h ∈ History.live (before ++ pre) := by
  obtain ⟨call, hc, hkey⟩ := List.mem_filterMap.mp hm
  obtain ⟨r, hr, hcall⟩ := List.mem_filterMap.mp hc
  obtain ⟨pre, post, rfl⟩ := List.append_of_mem hr
  cases r with
  | release handle => simp [Record.call?] at hcall
  | call made live outcome =>
    obtain rfl : made = call := Option.some.inj hcall
    have hf := ho (before ++ pre) (.call made live outcome) post (by simp)
    exact ⟨pre, _, rfl, hf.uses_live h (hk.operand made h hkey)⟩

theorem issued_of_mem_keys (ho : History.Orderly history) (hk : OncePerTransfer key) {h : Descriptor}
    (hm : h ∈ History.keys key history) : h ∈ History.issued history := by
  have hh : History.Orderly ([] ++ history) := ho
  obtain ⟨pre, post, rfl, hlive⟩ := exists_live_of_mem_keys hh hk hm
  have hpre : History.Orderly pre := ho.of_append
  rw [History.issued_append]
  exact List.mem_append_left _ (hpre.live_subset_issued hlive)

/-- Every key has been used once, and is gone. -/
structure Spent (key : Call → Option Descriptor) (history : List Record) : Prop where
  nodup : (History.keys key history).Nodup
  gone : ∀ h ∈ History.keys key history, h ∉ History.live history

theorem Spent.append {names : String → Prop} (hs : Spent key before) (hk : OncePerTransfer key)
    (ho : History.Orderly (before ++ block)) (hb : Adds before names block) : Spent key (before ++ block) := by
  have hissued : ∀ h ∈ History.keys key before, h ∈ History.issued before := fun h hm =>
    issued_of_mem_keys ho.of_append hk hm
  have hold : ∀ h ∈ History.keys key before, h ∉ History.live (before ++ block) := fun h hm =>
    ho.not_mem_live_append (hissued h hm) (hs.gone h hm)
  rcases hb.keys hk with hnone | ⟨h, hone, hgone⟩
  · refine ⟨?_, ?_⟩
    · rw [History.keys_append, hnone, List.append_nil]
      exact hs.nodup
    · rw [History.keys_append, hnone, List.append_nil]
      exact hold
  · have hnew : h ∉ History.keys key before := by
      intro hm
      obtain ⟨pre, post, rfl, hlive⟩ := exists_live_of_mem_keys ho hk (hone ▸ List.mem_singleton_self h)
      rw [← List.append_assoc] at ho
      exact ho.of_append.not_mem_live_append (hissued h hm) (hs.gone h hm) hlive
    have hkeys : History.keys key (before ++ block) = History.keys key before ++ [h] := by
      rw [History.keys_append, hone]
    refine ⟨?_, fun g hm => ?_⟩
    · rw [hkeys, List.nodup_append]
      exact ⟨hs.nodup, List.nodup_singleton h, fun a ha b hb hab => hnew (List.mem_singleton.mp hb ▸ hab ▸ ha)⟩
    · rw [hkeys, List.mem_append] at hm
      rcases hm with hm | hm
      · exact hold g hm
      · rw [List.mem_singleton.mp hm]
        exact hgone

end Keys

namespace Course

theorem follow_spent (script : Script) (moves : List (Config × Step)) {key : Call → Option Descriptor}
    (hk : OncePerTransfer key) : Spent key (start.follow script.platform moves).state.history := by
  induction moves using List.reverseRecOn with
  | nil => exact ⟨List.nodup_nil, fun h hm => absurd hm (List.not_mem_nil)⟩
  | append_singleton moves move ih =>
    have ho := (follow_owned script (moves ++ [move])).sound.orderly
    obtain ⟨block, hh, hb, -⟩ := follow_extends script moves move.1 move.2
    rw [follow_snoc] at ho ⊢
    rw [hh] at ho ⊢
    exact ih.append hk ho hb

/-- After any steps, whatever has failed in them, no listener has been accepted on twice, no socket sent twice and no
connection used for two sends. In each further step a send comes directly after a consumer has come in over that
connection, its listener was closed and the entry of that listener removed; an unlink only removes the entry of a
listener that was closed after somebody had come in, for a session that is `pass`, and none is made if nobody comes
in. -/
theorem hand_over_is_one_shot (script : Script) (moves : List (Config × Step)) :
    let c := start.follow script.platform moves
    (c.state.calls.filterMap Call.acceptsOn?).Nodup ∧ (c.state.calls.filterMap Call.sends?).Nodup ∧
      (c.state.calls.filterMap Call.sendsOver?).Nodup ∧
      ∀ (config : Config) (next : Step), ∃ block,
        (c.step script.platform config next).2.state.history = c.state.history ++ block ∧
        (∀ pre post link socket live outcome, block = pre ++ .call (.send link socket) live outcome :: post →
          ∃ lead front name dir pass, pre = lead ++ front ∧ Named (c.state.history ++ lead) pass name ∧
            SealedOff front name dir pass link ∧ pass ∉ History.live (c.state.history ++ pre)) ∧
        (∀ pre post place entry live outcome, block = pre ++ .call (.unlink place entry) live outcome :: post →
          next.Transfers entry ∧ ∃ lead front pass conn, pre = lead ++ front ∧
            Named (c.state.history ++ lead) pass entry ∧ Admitted front pass conn) ∧
        ∀ listener error live, .call (.accept listener) live (.failed error) ∈ block →
          ∀ place entry live' outcome, .call (.unlink place entry) live' outcome ∉ block := by
  intro c
  have honce : ∀ key, OncePerTransfer key → (c.state.calls.filterMap key).Nodup := fun key hk =>
    (follow_spent script moves hk).nodup
  refine ⟨honce _ acceptsOn_oncePerTransfer, honce _ sends_oncePerTransfer, honce _ sendsOver_oncePerTransfer,
    fun config next => ?_⟩
  obtain ⟨block, hh, hb, -⟩ := follow_extends script moves config next
  refine ⟨block, hh, ?_, ?_, ?_⟩
  · intro pre post link socket live outcome hs
    exact hb.of_send hs
  · intro pre post place entry live outcome hs
    exact hb.of_unlink hs
  · intro listener error live hm place entry live' outcome
    exact hb.no_unlink_of_refused hm

end Course

end Handover
