import Handover.Proofs.Handshake

/-! # What one step adds to the history

Only transfers accept, unlink and send, and a step holds at most one of them. So what a step adds is either quiet, or
quiet up to a transfer that gets as far as it gets, and then only releases. The listener of the transfer is known by the
name it was set up under, and nothing of the transfer is open when the step is over.
-/
namespace Handover

namespace Call

def handsOver : Call → Bool
  | .accept _ | .unlink _ _ | .send _ _ => true
  | _ => false

end Call

def Quiet (records : List Record) : Prop := ∀ call ∈ records.filterMap Record.call?, call.handsOver = false

theorem quiet_append {records more : List Record} : Quiet (records ++ more) ↔ Quiet records ∧ Quiet more := by
  simp only [Quiet, List.filterMap_append, List.mem_append]
  exact ⟨fun h => ⟨fun c hc => h c (Or.inl hc), fun c hc => h c (Or.inr hc)⟩, fun h c hc => hc.elim (h.1 c) (h.2 c)⟩

theorem calls_drops (drops : List Descriptor) : (drops.map Record.release).filterMap Record.call? = [] := by
  simp [Record.call?]

theorem quiet_drops (drops : List Descriptor) : Quiet (drops.map Record.release) := by
  intro call hc
  rw [calls_drops] at hc
  simp at hc

theorem Attempted.quiet {plan : List Exchange} {records : List Record} {stop : Option Failure}
    (h : Attempted plan records stop) (hp : ∀ exchange ∈ plan, exchange.1.handsOver = false) : Quiet records := by
  intro call hc
  obtain ⟨exchange, he, rfl⟩ := List.mem_map.mp (h.calls_prefix.subset hc)
  exact hp exchange he

theorem Attempted.quiet_append_drops {plan : List Exchange} {records : List Record} {stop : Option Failure}
    (h : Attempted plan records stop) (hp : ∀ exchange ∈ plan, exchange.1.handsOver = false) (drops : List Descriptor) :
    Quiet (records ++ drops.map Record.release) :=
  quiet_append.mpr ⟨h.quiet hp, quiet_drops drops⟩

theorem Quiet.not_mem {records : List Record} (h : Quiet records) {call : Call} {live : List Descriptor}
    {outcome : Outcome} (hc : call.handsOver = true) : Record.call call live outcome ∉ records := by
  intro hm
  have hq := h call (List.mem_filterMap.mpr ⟨_, hm, rfl⟩)
  rw [hc] at hq
  exact Bool.noConfusion hq

/-- The listener `handle` was set up under this name. -/
def Named (history : List Record) (handle : Descriptor) (name : String) : Prop :=
  ∃ dir address live, Record.call (.listen dir name address) live (.issued handle) ∈ history

theorem Named.append {history : List Record} {handle : Descriptor} {name : String} (h : Named history handle name)
    (more : List Record) : Named (history ++ more) handle name := by
  obtain ⟨dir, address, live, hm⟩ := h
  exact ⟨dir, address, live, List.mem_append_left _ hm⟩

/-- What one step adds after `before`: nothing that hands over, or one transfer as far as it gets, of a listener whose
name is in `names`, with nothing of its own left open. -/
inductive Adds (before : List Record) (names : String → Prop) : List Record → Prop where
  | quiet {block : List Record} : Quiet block → Adds before names block
  | transfer {lead served rest : List Record} {name : String} {dir data pass conn : Descriptor}
      {stop : Option Failure} : Quiet lead → Quiet rest → Named (before ++ lead) pass name → names name →
      Attempted (handingOver name dir data pass conn) served stop →
      (∀ h ∈ [pass, data, conn], h ∉ History.live (before ++ (lead ++ served ++ rest))) →
      Adds before names (lead ++ served ++ rest)

/-- The listeners that are held are known by their names, the `pass` of a session by its own. -/
structure Holdings.Documented (h : Holdings) (history : List Record) : Prop where
  sessions : ∀ s, some s ∈ h.sessions → s.pass.name = "pass" ∧ Named history s.pass.handle s.pass.name
  sockets : ∀ listener, some listener ∈ h.sockets → Named history listener.handle listener.name

theorem mem_of_getElem?_join {α : Type} {items : List (Option α)} {i : Nat} {a : α} (h : (items[i]?).join = some a) :
    some a ∈ items :=
  List.mem_of_getElem? (Option.join_eq_some_iff.mp h)

theorem mem_of_mem_set_none {α : Type} {items : List (Option α)} {i : Nat} {a : α} (h : some a ∈ items.set i none) :
    some a ∈ items :=
  (List.mem_or_eq_of_mem_set h).resolve_right (by simp)

namespace Holdings

theorem documented_empty : Documented empty [] := by
  constructor
  · intro s hs
    simp [empty] at hs
  · intro listener hm
    simp [empty] at hm

theorem Documented.append {h : Holdings} {history : List Record} (hd : h.Documented history) (more : List Record) :
    h.Documented (history ++ more) :=
  ⟨fun s hs => ⟨(hd.sessions s hs).1, (hd.sessions s hs).2.append more⟩, fun x hx => (hd.sockets x hx).append more⟩

theorem Documented.of_subset {h rest : Holdings} {history : List Record} (hd : h.Documented history)
    (hs : ∀ s, some s ∈ rest.sessions → some s ∈ h.sessions) (hx : ∀ x, some x ∈ rest.sockets → some x ∈ h.sockets) :
    rest.Documented history :=
  ⟨fun s h => hd.sessions s (hs s h), fun x h => hd.sockets x (hx x h)⟩

theorem Documented.takeSession {h : Holdings} {history : List Record} (hd : h.Documented history) (i : Nat) :
    (h.takeSession i).Documented history :=
  hd.of_subset (fun _ hs => mem_of_mem_set_none hs) fun _ hx => hx

theorem Documented.putSession {h : Holdings} {history : List Record} (hd : h.Documented history) (i : Nat) {s : Session}
    (hs : s.pass.name = "pass" ∧ Named history s.pass.handle s.pass.name) : (h.putSession i s).Documented history := by
  refine ⟨fun t ht => ?_, hd.sockets⟩
  rcases List.mem_or_eq_of_mem_set ht with hm | hm
  · have hold : some t ∈ h.sessions :=
      (List.mem_append.mp hm).resolve_right fun hpad => Option.some_ne_none t (List.eq_of_mem_replicate hpad)
    exact hd.sessions t hold
  · exact Option.some.inj hm ▸ hs

theorem Documented.takeDirectory {h : Holdings} {history : List Record} (hd : h.Documented history) (i : Nat) :
    (h.takeDirectory i).Documented history :=
  hd.of_subset (fun _ hs => hs) fun _ hx => hx

theorem Documented.takeSocket {h : Holdings} {history : List Record} (hd : h.Documented history) (i : Nat) :
    (h.takeSocket i).Documented history :=
  hd.of_subset (fun _ hs => hs) fun _ hx => mem_of_mem_set_none hx

theorem Documented.of_session? {h : Holdings} {history : List Record} (hd : h.Documented history) {i : Nat} {s : Session}
    (hs : h.session? i = some s) : s.pass.name = "pass" ∧ Named history s.pass.handle s.pass.name :=
  hd.sessions s (mem_of_getElem?_join hs)

theorem Documented.of_socket? {h : Holdings} {history : List Record} (hd : h.Documented history) {i : Nat}
    {listener : Listener} (hs : h.socket? i = some listener) : Named history listener.handle listener.name :=
  hd.sockets listener (mem_of_getElem?_join hs)

end Holdings

end Handover
