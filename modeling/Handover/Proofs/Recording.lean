import Handover.Proofs.History

/-! # What a ledger does

Whatever a scripted platform is asked, its ledger does one thing: it adds a record, and what is open and which handle
comes next follow from the record. A call adds its record with the answer or with the failure that the script decides
on; a release adds its own. So a ledger stays sound, in the sense that its books follow from its history and that the
history is orderly, as long as nobody uses a handle that is not open.
-/
namespace Handover

def Call.outcome : (call : Call) → call.Answer → Outcome
  | .makeDirectory _, path => .made path
  | .openDirectory _, handle => .issued handle
  | .listen _ _ _, handle => .issued handle
  | .publish _, _ => .finished
  | .accept _, handle => .issued handle
  | .unlink _ _, _ => .finished
  | .send _ _, _ => .finished
  | .close _ _, _ => .finished

/-- The handle that an answer brings, if it brings one. -/
def Call.given (call : Call) (answer : call.Answer) : List Descriptor :=
  (Record.call call [] (call.outcome answer)).issued?.toList

namespace Ledger

def record (l : Ledger) (r : Record) : Ledger :=
  { l with next := l.next + r.issued?.toList.length, live := r.after l.live, history := l.history ++ [r] }

@[simp] theorem record_history (l : Ledger) (r : Record) : (l.record r).history = l.history ++ [r] := rfl

@[simp] theorem record_next (l : Ledger) (r : Record) : (l.record r).next = l.next + r.issued?.toList.length := rfl

@[simp] theorem record_live (l : Ledger) (r : Record) : (l.record r).live = r.after l.live := rfl

@[simp] theorem note_history (l : Ledger) (event : Event) : (l.note event).history = l.history := rfl

@[simp] theorem note_next (l : Ledger) (event : Event) : (l.note event).next = l.next := rfl

theorem enter_eq_record (l : Ledger) (call : Call) {outcome : Outcome} (h : ∀ handle, outcome ≠ .issued handle) :
    l.enter call outcome = l.record (.call call l.live outcome) := by
  cases outcome with
  | issued handle => exact absurd rfl (h handle)
  | failed error => simp [enter, record, Record.after_call, Record.issued?]
  | made path => simp [enter, record, Record.after_call, Record.issued?]
  | finished => simp [enter, record, Record.after_call, Record.issued?]

theorem issue_eq_record (l : Ledger) (call : Call) :
    l.issue call = .ok l.next (l.record (.call call l.live (.issued l.next))) := by
  simp [issue, enter, record, Record.after_call, Record.issued?]

theorem release_eq_record (l : Ledger) (handle : Descriptor) : l.release handle = l.record (.release handle) := by
  simp [release, record, Record.after_release, Record.issued?]

/-- The books follow from an orderly history, and the next handle is above all that were handed out. -/
structure Sound (l : Ledger) : Prop where
  orderly : History.Orderly l.history
  live_eq : l.live = History.live l.history
  below : ∀ h ∈ History.issued l.history, h < l.next

theorem sound_empty : Sound empty := by
  refine ⟨History.orderly_nil, rfl, fun h hm => ?_⟩
  simp [empty] at hm

theorem Sound.live_nodup {l : Ledger} (hl : l.Sound) : l.live.Nodup := by
  rw [hl.live_eq]
  exact hl.orderly.balanced.live_nodup

theorem Sound.live_subset_issued {l : Ledger} (hl : l.Sound) : l.live ⊆ History.issued l.history := by
  rw [hl.live_eq]
  exact hl.orderly.live_subset_issued

theorem Sound.next_not_mem {l : Ledger} (hl : l.Sound) : l.next ∉ l.live := by
  intro hm
  exact lt_irrefl _ (hl.below _ (hl.live_subset_issued hm))

theorem Sound.note {l : Ledger} (hl : l.Sound) (event : Event) : (l.note event).Sound :=
  ⟨hl.orderly, hl.live_eq, hl.below⟩

/-- A record that uses open handles and hands out the next one keeps a ledger sound. -/
theorem Sound.record {l : Ledger} (hl : l.Sound) {r : Record} (hu : r.uses ⊆ l.live)
    (hi : ∀ h ∈ r.issued?, h = l.next) : (l.record r).Sound := by
  have hf : History.Fits l.history r := by
    refine ⟨fun h hm => hl.live_eq ▸ hu hm, fun h hm hold => ?_⟩
    have hlt := hl.below h hold
    rw [hi h hm] at hlt
    exact lt_irrefl _ hlt
  refine ⟨hl.orderly.snoc hf, ?_, ?_⟩
  · rw [record_live, record_history, History.live_snoc, hl.live_eq]
  · intro h hm
    rw [record_history, History.issued_append, History.issued_singleton, List.mem_append] at hm
    rw [record_next]
    rcases hm with hm | hm
    · have hlt : h < l.next := hl.below h hm
      exact lt_add_of_lt_of_nonneg hlt (Int.natCast_nonneg _)
    · have he : h = l.next := hi h (Option.mem_toList.mp hm)
      have hpos := List.length_pos_of_mem hm
      rw [he]
      exact lt_add_of_pos_right _ (Int.natCast_pos.mpr hpos)

end Ledger

namespace Script

def answer (script : Script) (l : Ledger) : (call : Call) → call.Answer
  | .makeDirectory template => script.directory l.history template
  | .openDirectory _ => l.next
  | .listen _ _ _ => l.next
  | .publish _ => ()
  | .accept _ => l.next
  | .unlink _ _ => ()
  | .send _ _ => ()
  | .close _ _ => ()

def granted (script : Script) (l : Ledger) (call : Call) : Record :=
  .call call l.live (call.outcome (script.answer l call))

theorem issued_granted (script : Script) (l : Ledger) (call : Call) :
    (script.granted l call).issued?.toList = call.given (script.answer l call) := by
  cases call <;> rfl

theorem grant_eq_record (script : Script) (l : Ledger) (call : Call) :
    script.grant l call = .ok (script.answer l call) (l.record (script.granted l call)) := by
  cases call with
  | makeDirectory template => exact congrArg (EStateM.Result.ok _) (l.enter_eq_record _ (by simp))
  | openDirectory path => exact l.issue_eq_record _
  | listen directory name address => exact l.issue_eq_record _
  | publish announcement => exact congrArg (EStateM.Result.ok _) (l.enter_eq_record _ (by simp))
  | accept listener => exact l.issue_eq_record _
  | unlink directory name => exact congrArg (EStateM.Result.ok _) (l.enter_eq_record _ (by simp))
  | send connection data => exact congrArg (EStateM.Result.ok _) (l.enter_eq_record _ (by simp))
  | close label descriptor => exact congrArg (EStateM.Result.ok _) (l.enter_eq_record _ (by simp))

def refused (l : Ledger) (call : Call) (fault : call.Fault) : Record := .call call l.live (.failed (call.failure fault))

theorem perform_of_fault {script : Script} {l : Ledger} {call : Call} {fault : call.Fault}
    (h : script.fault l.history call = some fault) :
    script.platform.perform call l = .error (call.failure fault) (l.record (refused l call fault)) := by
  simp only [platform, perform, h]
  exact congrArg (EStateM.Result.error _) (l.enter_eq_record _ (by simp))

theorem perform_of_no_fault {script : Script} {l : Ledger} {call : Call} (h : script.fault l.history call = none) :
    script.platform.perform call l = .ok (script.answer l call) (l.record (script.granted l call)) := by
  simp only [platform, perform, h]
  exact script.grant_eq_record l call

theorem issued_of_mem_granted {script : Script} {l : Ledger} {call : Call} {h : Descriptor}
    (hm : h ∈ (script.granted l call).issued?) : h = l.next := by
  cases call <;> simp_all [granted, Call.outcome, answer, Record.issued?]

end Script

end Handover
