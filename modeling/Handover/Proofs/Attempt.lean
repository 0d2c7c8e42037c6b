import Handover.Proofs.Recording
import Handover.Session

/-! # Plans, and how far they get

A plan lists calls with the outcomes that they have when they succeed. An action follows a plan when it makes its calls
in order and goes on only after a success: it either gets through with a value of its own, or stops at the first call
that fails with that call's error, after which it makes no call at all and only releases handles.
-/
namespace Handover

abbrev Exchange := Call × Outcome

/-- A plan carried out up to its first failure, if there is one. -/
inductive Attempted : List Exchange → List Record → Option Failure → Prop where
  | nil : Attempted [] [] none
  | granted {call : Call} {outcome : Outcome} {live : List Descriptor} {plan : List Exchange} {records : List Record}
      {stop : Option Failure} : Attempted plan records stop →
      Attempted ((call, outcome) :: plan) (.call call live outcome :: records) stop
  | refused {call : Call} {outcome : Outcome} {live : List Descriptor} {fault : call.Fault} {plan : List Exchange} :
      Attempted ((call, outcome) :: plan) [.call call live (.failed (call.failure fault))] (some ⟨call, fault⟩)

namespace Attempted

variable {plan more : List Exchange} {records later : List Record} {stop : Option Failure}

theorem append (h : Attempted plan records none) (hm : Attempted more later stop) :
    Attempted (plan ++ more) (records ++ later) stop := by
  induction plan generalizing records with
  | nil =>
    cases h
    exact hm
  | cons exchange plan ih =>
    cases h with
    | granted hr => exact granted (ih hr)

theorem append_right {failed : Failure} (h : Attempted plan records (some failed)) (more : List Exchange) :
    Attempted (plan ++ more) records (some failed) := by
  induction plan generalizing records with
  | nil => cases h
  | cons exchange plan ih =>
    cases h with
    | granted hr => exact granted (ih hr)
    | refused => exact refused

theorem calls_prefix (h : Attempted plan records stop) : records.filterMap Record.call? <+: plan.map Prod.fst := by
  induction h with
  | nil => exact List.prefix_refl _
  | granted _ ih => exact (List.prefix_cons_inj _).mpr ih
  | refused => exact (List.prefix_cons_inj _).mpr (List.nil_prefix)

theorem exists_record (h : Attempted plan records none) {exchange : Exchange} (hm : exchange ∈ plan) :
    ∃ live, Record.call exchange.1 live exchange.2 ∈ records := by
  induction plan generalizing records with
  | nil => simp at hm
  | cons first plan ih =>
    cases h with
    | granted hr =>
      rcases List.mem_cons.mp hm with rfl | hm
      · exact ⟨_, List.mem_cons_self ..⟩
      · obtain ⟨live, hl⟩ := ih hr hm
        exact ⟨live, List.mem_cons_of_mem _ hl⟩

theorem of_append (h : Attempted (plan ++ more) records stop) :
    (∃ failed, stop = some failed ∧ Attempted plan records stop) ∨
      ∃ first later, records = first ++ later ∧ Attempted plan first none ∧ Attempted more later stop := by
  induction plan generalizing records with
  | nil => exact Or.inr ⟨[], records, rfl, .nil, h⟩
  | cons exchange plan ih =>
    cases h with
    | granted hr =>
      rcases ih hr with ⟨failed, hs, ha⟩ | ⟨first, later, rfl, ha, hl⟩
      · exact Or.inl ⟨failed, hs, .granted ha⟩
      · exact Or.inr ⟨_, later, rfl, .granted ha, hl⟩
    | refused => exact Or.inl ⟨_, rfl, .refused⟩

/-- Before the record of a call the exchanges before it have been carried out. -/
theorem of_record {call : Call} {live : List Descriptor} {outcome : Outcome} {pre post : List Record}
    (h : Attempted plan (pre ++ .call call live outcome :: post) stop) :
    ∃ done planned rest, plan = done ++ (call, planned) :: rest ∧ Attempted done pre none := by
  induction pre generalizing plan with
  | nil =>
    cases h with
    | granted hr => exact ⟨[], _, _, rfl, .nil⟩
    | refused => exact ⟨[], _, _, rfl, .nil⟩
  | cons r pre ih =>
    generalize hrecords : r :: pre ++ Record.call call live outcome :: post = records at h
    cases h with
    | nil => simp at hrecords
    | granted hr =>
      obtain ⟨rfl, rfl⟩ := List.cons.inj hrecords
      obtain ⟨done, planned, rest, rfl, hd⟩ := ih hr
      exact ⟨_ :: done, planned, rest, rfl, .granted hd⟩
    | refused => simp at hrecords

theorem mem_calls {call : Call} {live : List Descriptor} {outcome : Outcome} {pre post : List Record}
    (h : Attempted plan (pre ++ .call call live outcome :: post) stop) : call ∈ plan.map Prod.fst := by
  refine h.calls_prefix.subset (List.mem_filterMap.mpr ⟨.call call live outcome, ?_, rfl⟩)
  exact List.mem_append_right _ (List.mem_cons_self ..)

/-- A call that a plan has once is made when all that the plan has before it has been carried out. -/
theorem before_record {call : Call} {planned outcome : Outcome} {live : List Descriptor} {lead rest : List Exchange}
    {pre post : List Record}
    (h : Attempted (lead ++ (call, planned) :: rest) (pre ++ .call call live outcome :: post) stop)
    (hl : call ∉ lead.map Prod.fst) (hr : call ∉ rest.map Prod.fst) : Attempted lead pre none := by
  obtain ⟨done, expected, after, hplan, hdone⟩ := h.of_record
  rcases List.append_eq_append_iff.mp hplan with ⟨middle, rfl, hs⟩ | ⟨middle, rfl, hs⟩
  · cases middle with
    | nil => rwa [List.append_nil] at hdone
    | cons exchange middle =>
      have hm : (call, expected) ∈ rest := by
        rw [(List.cons.inj hs).2]
        exact List.mem_append_right _ (List.mem_cons_self ..)
      exact absurd (List.mem_map_of_mem hm) hr
  · cases middle with
    | nil => rwa [List.append_nil]
    | cons exchange middle =>
      have hm : (call, expected) ∈ done ++ exchange :: middle := by
        rw [(List.cons.inj hs).1]
        exact List.mem_append_right _ (List.mem_cons_self ..)
      exact absurd (List.mem_map_of_mem hm) hl

end Attempted

def issues (plan : List Exchange) : Nat := plan.countP fun exchange => exchange.2 matches .issued _

section Following

variable {script : Script} {α β : Type}

inductive Follows (action : Action Ledger α) (l : Ledger) (plan : List Exchange) (a : α) : Prop where
  | completed {l' : Ledger} {records : List Record} (result : action l = .ok a l') (attempt : Attempted plan records none)
      (history : l'.history = l.history ++ records) (next : l'.next = l.next + issues plan)
  | stopped {l' : Ledger} {failed : Failure} {records : List Record} (drops : List Descriptor)
      (result : action l = .error failed.error l') (attempt : Attempted plan records (some failed))
      (history : l'.history = l.history ++ (records ++ drops.map Record.release))

theorem Follows.pure {l : Ledger} {a : α} : Follows (pure a : Action Ledger α) l [] a :=
  .completed rfl .nil (List.append_nil _).symm (by simp [issues])

theorem Follows.bind {action : Action Ledger α} {next : α → Action Ledger β} {l : Ledger} {plan more : List Exchange}
    {a : α} {b : β} (ha : Follows action l plan a)
    (hn : ∀ l', l'.next = l.next + issues plan → Follows (next a) l' more b) :
    Follows (action >>= next) l (plan ++ more) b := by
  cases ha with
  | stopped drops result attempt history =>
    refine .stopped drops ?_ (attempt.append_right more) history
    simp only [Bind.bind, EStateM.bind, result]
  | completed result attempt history hnext =>
    rename_i l' records
    have hb : (action >>= next) l = next a l' := by simp only [Bind.bind, EStateM.bind, result]
    cases hn l' hnext with
    | completed result' attempt' history' hnext' =>
      refine .completed (hb.trans result') (attempt.append attempt') ?_ ?_
      · rw [history', history, List.append_assoc]
      · rw [hnext', hnext, issues, issues, issues, List.countP_append, Nat.cast_add, add_assoc]
    | stopped drops result' attempt' history' =>
      refine .stopped drops (hb.trans result') (attempt.append attempt') ?_
      rw [history', history, List.append_assoc, List.append_assoc]

theorem Follows.cons {action : Action Ledger α} {next : α → Action Ledger β} {l : Ledger} {exchange : Exchange}
    {plan : List Exchange} {a : α} {b : β} (ha : Follows action l [exchange] a)
    (hn : ∀ l', l'.next = l.next + issues [exchange] → Follows (next a) l' plan b) :
    Follows (action >>= next) l (exchange :: plan) b :=
  ha.bind hn

/-- What is only logged is in no plan. -/
theorem Follows.log_bind {event : Event} {next : Unit → Action Ledger β} {l : Ledger} {plan : List Exchange} {b : β}
    (h : Follows (next ()) (l.note event) plan b) : Follows (script.platform.log event >>= next) l plan b := by
  cases h with
  | completed result attempt history hnext => exact .completed result attempt history hnext
  | stopped drops result attempt history => exact .stopped drops result attempt history

theorem Follows.advance_bind {state state' : Transfer.State} {next : Transfer.State → Action Ledger β} {l : Ledger}
    {plan : List Exchange} {b : β} (h : Follows (next state') (l.note (.moved state state')) plan b) :
    Follows (script.platform.advance state state' >>= next) l plan b := by
  rw [Platform.advance_bind]
  exact Follows.log_bind h

theorem Follows.logPeer_bind {connection : Descriptor} {next : Unit → Action Ledger β} {l : Ledger}
    {plan : List Exchange} {b : β} (h : ∀ event, Follows (next ()) (l.note event) plan b) :
    Follows (script.platform.logPeer connection >>= next) l plan b := by
  have hp : ∃ event, script.platform.logPeer connection l = .ok () (l.note event) := by
    simp only [Platform.logPeer]
    cases script.platform.peer connection l with
    | ok peer => exact ⟨_, rfl⟩
    | error cause => exact ⟨_, rfl⟩
  obtain ⟨event, hp⟩ := hp
  have hb : (script.platform.logPeer connection >>= next) l = next () (l.note event) := by
    simp only [Bind.bind, EStateM.bind, hp]
  cases h event with
  | completed result attempt history hnext => exact .completed (hb.trans result) attempt history hnext
  | stopped drops result attempt history => exact .stopped drops (hb.trans result) attempt history

theorem Follows.ofExcept_bind {a : α} {next : α → Action Ledger β} {l : Ledger} {plan : List Exchange} {b : β}
    (h : Follows (next a) l plan b) : Follows (Action.ofExcept (.ok a) >>= next) l plan b := h

theorem Ledger.history_releaseAll (l : Ledger) (handles : List Descriptor) :
    (script.platform.releaseAll handles l).history = l.history ++ handles.map Record.release := by
  induction handles generalizing l with
  | nil => simp
  | cons handle handles ih =>
    rw [Platform.releaseAll_cons, ih]
    simp [Script.platform, Ledger.release]

theorem Follows.holding {handles : List Descriptor} {action : Action Ledger α} {l : Ledger} {plan : List Exchange} {a : α}
    (h : Follows action l plan a) : Follows (script.platform.holding handles action) l plan a := by
  cases h with
  | completed result attempt history hnext => exact .completed (Platform.holding_ok _ result) attempt history hnext
  | stopped drops result attempt history =>
    refine .stopped (drops ++ handles) (Platform.holding_error _ result) attempt ?_
    rw [Ledger.history_releaseAll, history, List.map_append, List.append_assoc, List.append_assoc]

theorem Follows.perform {call : Call} {l : Ledger} :
    Follows (script.platform.perform call) l [(call, call.outcome (script.answer l call))] (script.answer l call) := by
  cases hf : script.fault l.history call with
  | some fault =>
    have hr : script.platform.perform call l =
        .error (Failure.mk call fault).error (l.record (Script.refused l call fault)) := Script.perform_of_fault hf
    exact .stopped [] hr .refused rfl
  | none =>
    refine .completed (Script.perform_of_no_fault hf) (.granted .nil) rfl ?_
    cases call <;> rfl

end Following

end Handover
