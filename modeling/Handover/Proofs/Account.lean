import Handover.Proofs.Attempt

/-! # Accounts

A plan has the calls of an action; an account has all that the action does, in order: its calls, each with the handles
that are let go if it fails, and between them the events that are noted. It is told up to the first call that fails, so
the records and the events that an action leaves cannot get out of step with each other.
-/
namespace Handover

inductive Account.Item where
  | call (exchange : Exchange) (held : List Descriptor)
  | note (event : Event)

abbrev Account := List Account.Item

def Outcome.issued? : Outcome → Option Descriptor
  | .issued handle => some handle
  | _ => none

theorem Record.issued?_call (call : Call) (live : List Descriptor) (outcome : Outcome) :
    (Record.call call live outcome).issued? = outcome.issued? := by
  cases outcome <;> rfl

namespace Account

def Item.exchange? : Item → Option Exchange
  | .call exchange _ => some exchange
  | .note _ => none

def Item.event? : Item → Option Event
  | .call _ _ => none
  | .note event => some event

def calls (account : Account) : List Exchange := account.filterMap Item.exchange?

def notes (account : Account) : List Event := account.filterMap Item.event?

/-- The account told up to its first failure, if there is one: what is recorded, let go and noted. -/
inductive Told : Account → List Record → List Descriptor → List Event → Option Failure → Prop where
  | nil : Told [] [] [] [] none
  | noted {event : Event} {account : Account} {records : List Record} {drops : List Descriptor} {events : List Event}
      {stop : Option Failure} : Told account records drops events stop →
      Told (.note event :: account) records drops (event :: events) stop
  | granted {call : Call} {outcome : Outcome} {held live : List Descriptor} {account : Account} {records : List Record}
      {drops : List Descriptor} {events : List Event} {stop : Option Failure} :
      Told account records drops events stop →
      Told (.call (call, outcome) held :: account) (.call call live outcome :: records) drops events stop
  | refused {call : Call} {outcome : Outcome} {held live : List Descriptor} {fault : call.Fault} {account : Account} :
      Told (.call (call, outcome) held :: account) [.call call live (.failed (call.failure fault))] held []
        (some ⟨call, fault⟩)

section Telling

variable {account more : Account} {records : List Record} {drops : List Descriptor} {events : List Event}
  {stop : Option Failure}

theorem Told.attempted (h : Told account records drops events stop) : Attempted (calls account) records stop := by
  induction h with
  | nil => exact .nil
  | noted _ ih => exact ih
  | granted _ ih => exact .granted ih
  | refused => exact .refused

theorem Told.drops_eq_nil (h : Told account records drops events none) : drops = [] := by
  generalize hs : (none : Option Failure) = stop at h
  induction h with
  | nil => rfl
  | noted _ ih => exact ih hs
  | granted _ ih => exact ih hs
  | refused => simp at hs

theorem Told.notes_prefix (h : Told account records drops events stop) : events <+: notes account := by
  induction h with
  | nil => exact List.prefix_refl _
  | noted _ ih => exact (List.prefix_cons_inj _).mpr ih
  | granted _ ih => exact ih
  | refused => exact List.nil_prefix

theorem Told.of_append (h : Told (account ++ more) records drops events stop) :
    (∃ failed, stop = some failed ∧ Told account records drops events stop) ∨
      ∃ first later front back, records = first ++ later ∧ events = front ++ back ∧ Told account first [] front none ∧
        Told more later drops back stop := by
  induction account generalizing records events with
  | nil => exact Or.inr ⟨[], records, [], events, rfl, rfl, .nil, h⟩
  | cons item account ih =>
    cases h with
    | noted hr =>
      rcases ih hr with ⟨failed, hs, ha⟩ | ⟨first, later, front, back, rfl, rfl, ha, hl⟩
      · exact Or.inl ⟨failed, hs, .noted ha⟩
      · exact Or.inr ⟨first, later, _, back, rfl, rfl, .noted ha, hl⟩
    | granted hr =>
      rcases ih hr with ⟨failed, hs, ha⟩ | ⟨first, later, front, back, rfl, rfl, ha, hl⟩
      · exact Or.inl ⟨failed, hs, .granted ha⟩
      · exact Or.inr ⟨_, later, front, back, rfl, rfl, .granted ha, hl⟩
    | refused => exact Or.inl ⟨_, rfl, .refused⟩

end Telling

/-! ## What is let go -/

section Settling

/-- Starting with these handles in hand, at each call the ones that it does not close are let go if it fails, and in the
end none is left. -/
def Settles : List Descriptor → Account → Prop
  | held, [] => held = []
  | held, .note _ :: account => Settles held account
  | held, .call (call, outcome) left :: account =>
    held.Perm (call.closes ++ left) ∧ Settles (outcome.issued?.toList ++ left) account

variable {account : Account} {records : List Record} {drops : List Descriptor} {events : List Event}
  {stop : Option Failure} {held : List Descriptor}

theorem Told.settled (h : Told account records drops events stop) (hs : Settles held account) :
    (History.closed (records ++ drops.map Record.release)).Perm (held ++ History.issued records) := by
  induction h generalizing held with
  | nil =>
    obtain rfl : held = [] := hs
    exact List.Perm.refl _
  | noted _ ih => exact ih hs
  | granted _ ih =>
    rename_i call outcome left live account records drops events stop _
    obtain ⟨hp, hs⟩ := hs
    have hrest := ih hs
    have hissued : History.issued (.call call live outcome :: records) =
        outcome.issued?.toList ++ History.issued records := by
      rw [← List.singleton_append, History.issued_append, History.issued_singleton, Record.issued?_call]
    have hclosed : History.closed (.call call live outcome :: records ++ drops.map Record.release) =
        call.closes ++ History.closed (records ++ drops.map Record.release) := rfl
    rw [hissued, hclosed]
    calc
      (call.closes ++ History.closed (records ++ drops.map Record.release)).Perm
          (call.closes ++ (outcome.issued?.toList ++ left ++ History.issued records)) :=
        hrest.append_left _
      List.Perm _ (call.closes ++ (left ++ (outcome.issued?.toList ++ History.issued records))) := by
        rw [← List.append_assoc left]
        exact (List.perm_append_comm.append_right _).append_left _
      List.Perm _ (held ++ (outcome.issued?.toList ++ History.issued records)) := by
        rw [← List.append_assoc]
        exact hp.symm.append_right _
  | refused =>
    rename_i call outcome left live fault account
    have hclosed : History.closed ([.call call live (.failed (call.failure fault))] ++ left.map Record.release) =
        call.closes ++ left := by
      rw [History.closed_append, History.closed_singleton]
      simp [Record.closes, History.closed, List.flatMap_map]
    have hissued : History.issued [.call call live (.failed (call.failure fault))] = [] := rfl
    rw [hclosed, hissued, List.append_nil]
    exact hs.1.symm

end Settling

/-! ## The accounts of actions -/

section Recounting

variable {script : Script} {α β : Type}

/-- The result of an action that stops there, or else has the value `a`. -/
def conclude (a : α) (l : Ledger) : Option Failure → EStateM.Result Error Ledger α
  | none => .ok a l
  | some failed => .error failed.error l

/-- On the ledger `l` the action does what the account says, and its value is `a`. -/
inductive Recounts (action : Action Ledger α) (l : Ledger) (account : Account) (a : α) : Prop where
  | intro {l' : Ledger} {records : List Record} {drops : List Descriptor} {events : List Event}
      {stop : Option Failure} (told : Told account records drops events stop)
      (result : action l = conclude a l' stop) (history : l'.history = l.history ++ (records ++ drops.map Record.release))
      (noted : l'.events = l.events ++ events)

theorem Recounts.pure {l : Ledger} {a : α} : Recounts (pure a : Action Ledger α) l [] a :=
  .intro .nil rfl (List.append_nil _).symm (List.append_nil _).symm

theorem Recounts.note_bind {action : Action Ledger Unit} {next : Unit → Action Ledger β} {event : Event} {l : Ledger}
    {account : Account} {b : β} (ha : action l = .ok () (l.note event))
    (h : Recounts (next ()) (l.note event) account b) : Recounts (action >>= next) l (.note event :: account) b := by
  obtain ⟨told, result, history, noted⟩ := h
  refine .intro (.noted told) ?_ history (noted.trans (List.append_assoc _ _ _))
  simp only [Bind.bind, EStateM.bind, ha, result]

theorem Recounts.log_bind {event : Event} {next : Unit → Action Ledger β} {l : Ledger} {account : Account} {b : β}
    (h : Recounts (next ()) (l.note event) account b) :
    Recounts (script.platform.log event >>= next) l (.note event :: account) b :=
  h.note_bind rfl

theorem Recounts.advance_bind {state state' : Transfer.State} {next : Transfer.State → Action Ledger β} {l : Ledger}
    {account : Account} {b : β} (h : Recounts (next state') (l.note (.moved state state')) account b) :
    Recounts (script.platform.advance state state' >>= next) l (.note (.moved state state') :: account) b := by
  rw [Platform.advance_bind]
  exact h.log_bind

def peerEvent (script : Script) (connection : Descriptor) : Event :=
  match script.peer connection with
  | .ok peer => .connected connection peer
  | .error cause => .peerUnknown connection cause

theorem logPeer_eq (script : Script) (connection : Descriptor) (l : Ledger) :
    script.platform.logPeer connection l = .ok () (l.note (peerEvent script connection)) := by
  have hp : script.platform.peer connection l = script.peer connection := rfl
  rw [Platform.logPeer, peerEvent, hp]
  cases script.peer connection <;> rfl

theorem Recounts.logPeer_bind {connection : Descriptor} {next : Unit → Action Ledger β} {l : Ledger}
    {account : Account} {b : β} (h : Recounts (next ()) (l.note (peerEvent script connection)) account b) :
    Recounts (script.platform.logPeer connection >>= next) l (.note (peerEvent script connection) :: account) b :=
  h.note_bind (logPeer_eq script connection l)

theorem events_releaseAll (l : Ledger) (handles : List Descriptor) :
    (script.platform.releaseAll handles l).events = l.events := by
  induction handles generalizing l with
  | nil => rfl
  | cons handle handles ih =>
    rw [Platform.releaseAll_cons, ih]
    rfl

theorem Recounts.call_bind {call : Call} {handles : List Descriptor} {next : call.Answer → Action Ledger β} {l : Ledger}
    {account : Account} {b : β} (h : ∀ l', Recounts (next (script.answer l call)) l' account b) :
    Recounts (script.platform.holding handles (script.platform.perform call) >>= next) l
      (.call (call, call.outcome (script.answer l call)) handles :: account) b := by
  cases hf : script.fault l.history call with
  | some fault =>
    have hp : script.platform.holding handles (script.platform.perform call) l = .error (call.failure fault) _ :=
      Platform.holding_error _ (Script.perform_of_fault hf)
    have told : Told (.call (call, call.outcome (script.answer l call)) handles :: account) [Script.refused l call fault]
        handles [] (some ⟨call, fault⟩) := .refused
    have result : (script.platform.holding handles (script.platform.perform call) >>= next) l =
        conclude b (script.platform.releaseAll handles (l.record (Script.refused l call fault))) (some ⟨call, fault⟩) := by
      simp only [Bind.bind, EStateM.bind, hp, conclude, Failure.error]
    refine .intro told result ?_ ?_
    · rw [Ledger.history_releaseAll, Ledger.record_history, List.append_assoc]
    · rw [events_releaseAll, List.append_nil]
      rfl
  | none =>
    have hp : script.platform.holding handles (script.platform.perform call) l = .ok (script.answer l call) _ :=
      Platform.holding_ok _ (Script.perform_of_no_fault hf)
    obtain ⟨told, result, history, noted⟩ := h (l.record (script.granted l call))
    rename_i l' records drops events stop
    have told' : Told (.call (call, call.outcome (script.answer l call)) handles :: account)
        (script.granted l call :: records) drops events stop := .granted told
    refine .intro told' ?_ ?_ noted
    · simp only [Bind.bind, EStateM.bind, hp, result]
    · rw [history, Ledger.record_history, List.append_assoc]
      rfl

end Recounting

end Account

end Handover
