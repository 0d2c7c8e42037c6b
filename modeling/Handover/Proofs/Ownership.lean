import Handover.Proofs.Recording
import Handover.Session

/-! # Who owns the open handles

The handles that an action is given are its own: it uses no others, it keeps some of them and of those it is handed, and
lets all the rest go, whatever it is that fails on the way. `Owns` says so for one action with the handles of everybody
else as a frame, and the rules below it carry the statement from the calls of a platform to a whole handover.
-/
namespace Handover

/-- Sound books, and these handles are the open ones. -/
structure Ledger.Holds (l : Ledger) (handles : List Descriptor) : Prop where
  sound : l.Sound
  live_perm : l.live.Perm handles

namespace Ledger

theorem Holds.perm {l : Ledger} {handles others : List Descriptor} (h : l.Holds handles) (hp : handles.Perm others) :
    l.Holds others :=
  ⟨h.sound, h.live_perm.trans hp⟩

theorem Holds.nodup {l : Ledger} {handles : List Descriptor} (h : l.Holds handles) : handles.Nodup :=
  h.live_perm.nodup_iff.mp h.sound.live_nodup

theorem Holds.note {l : Ledger} {handles : List Descriptor} (h : l.Holds handles) (event : Event) :
    (l.note event).Holds handles :=
  ⟨h.sound.note event, h.live_perm⟩

/-- A record whose handles are held moves the held handles as it says. -/
theorem Holds.record {l : Ledger} {rest frame : List Descriptor} {r : Record} (h : l.Holds (r.closes ++ rest ++ frame))
    (hu : r.uses ⊆ r.closes ++ rest) (hi : ∀ d ∈ r.issued?, d = l.next) :
    (l.record r).Holds (r.issued?.toList ++ rest ++ frame) := by
  have hul : r.uses ⊆ l.live := fun d hd => h.live_perm.mem_iff.mpr (List.mem_append_left _ (hu hd))
  refine ⟨h.sound.record hul hi, ?_⟩
  have hn := h.nodup
  rw [List.append_assoc, List.nodup_append] at hn
  have hkeep : (rest ++ frame).filter (· ∉ r.closes) = rest ++ frame := by
    refine List.filter_eq_self.mpr fun d hd => ?_
    exact decide_eq_true fun hc => hn.2.2 d hc d hd rfl
  have hgone : r.closes.filter (· ∉ r.closes) = [] := by
    refine List.filter_eq_nil_iff.mpr fun d hd => ?_
    simpa using hd
  have hl : (l.live.filter (· ∉ r.closes)).Perm (rest ++ frame) := by
    have hp := h.live_perm.filter (· ∉ r.closes)
    rwa [List.append_assoc, List.filter_append, hgone, hkeep, List.nil_append] at hp
  rw [record_live, Record.after, List.append_assoc]
  exact List.perm_append_comm.trans (hl.append_left _)

theorem Holds.release {l : Ledger} {handle : Descriptor} {rest : List Descriptor} (h : l.Holds (handle :: rest)) :
    (l.release handle).Holds rest := by
  rw [release_eq_record]
  have hh : l.Holds ((Record.release handle).closes ++ [] ++ rest) := by simpa [Record.closes] using h
  have hr := hh.record (List.subset_append_left _ []) (by simp [Record.issued?])
  simpa [Record.issued?] using hr

theorem Holds.releaseAll {script : Script} {l : Ledger} {handles rest : List Descriptor}
    (h : l.Holds (handles ++ rest)) : (script.platform.releaseAll handles l).Holds rest := by
  induction handles generalizing l with
  | nil => exact h
  | cons handle handles ih => exact ih (Holds.release h)

end Ledger

section Ownership

variable {script : Script} {α β : Type}

/-- An action that is given the handles `held` and whatever else is open leaves the rest alone; of its own it keeps
`kept` when it succeeds and `left` when it fails. -/
def Owns (held : List Descriptor) (action : Action Ledger α) (kept : α → List Descriptor) (left : List Descriptor) :
    Prop :=
  ∀ (l : Ledger) (frame : List Descriptor), l.Holds (held ++ frame) →
    match action l with
    | .ok a l' => l'.Holds (kept a ++ frame)
    | .error _ l' => l'.Holds (left ++ frame)

theorem Owns.of_ok {held left frame : List Descriptor} {action : Action Ledger α} {kept : α → List Descriptor}
    {l l' : Ledger} {a : α} (h : Owns held action kept left) (hl : l.Holds (held ++ frame)) (hr : action l = .ok a l') :
    l'.Holds (kept a ++ frame) := by
  have ha := h l frame hl
  rw [hr] at ha
  exact ha

theorem Owns.of_error {held left frame : List Descriptor} {action : Action Ledger α} {kept : α → List Descriptor}
    {l l' : Ledger} {e : Error} (h : Owns held action kept left) (hl : l.Holds (held ++ frame))
    (hr : action l = .error e l') : l'.Holds (left ++ frame) := by
  have ha := h l frame hl
  rw [hr] at ha
  exact ha

theorem Owns.perm {held others left : List Descriptor} {action : Action Ledger α} {kept : α → List Descriptor}
    (h : Owns held action kept left) (hp : others.Perm held) : Owns others action kept left :=
  fun l frame hl => h l frame (hl.perm (hp.append_right frame))

theorem Owns.pure {held left : List Descriptor} {a : α} {kept : α → List Descriptor} (h : held.Perm (kept a)) :
    Owns held (pure a : Action Ledger α) kept left :=
  fun _ frame hl => hl.perm (h.append_right frame)

theorem Owns.bind {held left : List Descriptor} {action : Action Ledger α} {next : α → Action Ledger β}
    {kept : α → List Descriptor} {kept' : β → List Descriptor} (ha : Owns held action kept left)
    (hn : ∀ a, Owns (kept a) (next a) kept' left) : Owns held (action >>= next) kept' left := by
  intro l frame hl
  have hal := ha l frame hl
  change match EStateM.bind action next l with
    | .ok b l' => l'.Holds (kept' b ++ frame)
    | .error _ l' => l'.Holds (left ++ frame)
  rw [EStateM.bind]
  cases hr : action l with
  | ok a l' =>
    rw [hr] at hal
    exact hn a l' frame hal
  | error e l' =>
    rw [hr] at hal
    exact hal

theorem Owns.log {held left : List Descriptor} {event : Event} :
    Owns held (script.platform.log event) (fun _ => held) left :=
  fun _ _ hl => hl.note event

theorem Owns.advance {held left : List Descriptor} {state next : Transfer.State} :
    Owns held (script.platform.advance state next) (fun _ => held) left :=
  Owns.bind Owns.log fun _ => Owns.pure .rfl

theorem Owns.logPeer {held left : List Descriptor} {connection : Descriptor} :
    Owns held (script.platform.logPeer connection) (fun _ => held) left := by
  intro l frame hl
  simp only [Platform.logPeer]
  cases script.platform.peer connection l with
  | ok peer => exact hl.note _
  | error cause => exact hl.note _

/-- What is released on failure is exactly what the failed action has left. -/
theorem Owns.holding {held left : List Descriptor} {action : Action Ledger α} {kept : α → List Descriptor}
    (h : Owns held action kept left) : Owns held (script.platform.holding left action) kept [] := by
  intro l frame hl
  have ha := h l frame hl
  simp only [Platform.holding]
  cases hr : action l with
  | ok a l' =>
    rw [hr] at ha
    exact ha
  | error e l' =>
    rw [hr] at ha
    exact ha.releaseAll

/-- A call uses handles of its owner, takes what it closes from them however it ends, and adds what it answers. -/
theorem Owns.perform {call : Call} {held rest : List Descriptor} (hp : held.Perm (call.closes ++ rest))
    (hu : call.operands ⊆ held) :
    Owns held (script.platform.perform call) (fun answer => call.given answer ++ rest) rest := by
  intro l frame hl
  have hl' : l.Holds (call.closes ++ rest ++ frame) := hl.perm (hp.append_right frame)
  have hu' : call.operands ⊆ call.closes ++ rest := fun d hd => hp.mem_iff.mp (hu hd)
  cases hf : script.fault l.history call with
  | some fault =>
    rw [Script.perform_of_fault hf]
    have hr : (Script.refused l call fault).issued? = none := rfl
    exact Ledger.Holds.record hl' hu' (by simp [hr])
  | none =>
    have hr : (l.record (script.granted l call)).Holds ((script.granted l call).issued?.toList ++ rest ++ frame) :=
      hl'.record hu' fun d hd => Script.issued_of_mem_granted hd
    rw [Script.issued_granted] at hr
    rw [Script.perform_of_no_fault hf]
    exact hr

theorem Owns.ofExcept {held : List Descriptor} {outcome : Except Error α} :
    Owns held (Action.ofExcept outcome) (fun _ => held) held := by
  intro l frame hl
  cases outcome with
  | ok a => exact hl
  | error e => exact hl

end Ownership

/-! ## The operations of a handover -/

section Operations

variable {script : Script}

theorem owns_createDirectory (config : Config) {held : List Descriptor} :
    Owns held (script.platform.createDirectory config) (fun dir => dir.handle :: held) held := by
  refine Owns.bind Owns.log fun _ => ?_
  refine Owns.bind (Owns.perform (List.Perm.refl held) (List.nil_subset _)) fun path => ?_
  refine Owns.bind (Owns.perform (List.Perm.refl held) (List.nil_subset _)) fun handle => ?_
  exact Owns.bind Owns.log fun _ => Owns.pure .rfl

theorem owns_listen {dir : PrivateDirectory} (name : String) {held : List Descriptor} (hd : dir.handle ∈ held) :
    Owns held (script.platform.listen dir name) (fun listener => listener.handle :: held) held := by
  refine Owns.bind (Owns.perform (List.Perm.refl held) (by simpa [Call.operands] using hd)) fun handle => ?_
  exact Owns.bind Owns.log fun _ => Owns.pure .rfl

theorem owns_announce (dir : PrivateDirectory) (data pass : Listener) {held : List Descriptor} :
    Owns held (script.platform.announce dir data pass) (fun _ => held) held := by
  refine Owns.bind Owns.ofExcept fun announcement => ?_
  refine Owns.bind (Owns.perform (List.Perm.refl held) (List.nil_subset _)) fun _ => ?_
  exact Owns.bind Owns.log fun _ => Owns.pure .rfl

/-- The three handles that a transfer is given, and the connection that it accepts, are all gone in the end. -/
theorem owns_serveOnce (dir : PrivateDirectory) (data pass : Listener) :
    Owns [pass.handle, data.handle, dir.handle] (script.platform.serveOnce dir data pass) (fun _ => []) [] := by
  have refl := fun held : List Descriptor => List.Perm.refl held
  refine Owns.bind Owns.log fun _ => ?_
  refine Owns.bind (Owns.holding (Owns.perform (refl _) (by simp [Call.operands]))) fun (conn : Descriptor) => ?_
  refine Owns.bind Owns.advance fun _ => Owns.bind Owns.logPeer fun _ => ?_
  have hswap : [conn, pass.handle, data.handle, dir.handle].Perm [pass.handle, conn, data.handle, dir.handle] :=
    List.Perm.swap _ _ _
  refine Owns.bind (Owns.holding (Owns.perform hswap (by simp [Call.operands]))) fun _ => ?_
  refine Owns.bind (Owns.holding (Owns.perform (refl _) (by simp [Call.operands]))) fun _ => ?_
  refine Owns.bind Owns.advance fun _ => ?_
  refine Owns.bind (Owns.holding (Owns.perform (refl _) (by simp [Call.operands]))) fun _ => ?_
  refine Owns.bind Owns.advance fun _ => ?_
  refine Owns.bind (Owns.holding (Owns.perform (refl _) (by simp [Call.operands]))) fun _ => ?_
  refine Owns.bind (Owns.holding (Owns.perform (refl _) (by simp [Call.operands]))) fun _ => ?_
  refine Owns.bind (Owns.perform (refl _) (by simp [Call.operands])) fun _ => ?_
  exact Owns.bind Owns.advance fun _ => Owns.bind Owns.log fun _ => Owns.pure .rfl

theorem Session.handles_perm (s : Session) : s.handles.Perm [s.pass.handle, s.data.handle, s.directory.handle] :=
  (List.reverse_perm _).symm

theorem owns_establish (config : Config) :
    Owns [] (script.platform.establish config) Session.handles [] := by
  refine Owns.bind (owns_createDirectory config) fun dir => ?_
  refine Owns.bind (Owns.holding (owns_listen dataName (List.mem_singleton_self _))) fun data => ?_
  refine Owns.bind (Owns.holding (owns_listen passName (by simp))) fun pass => ?_
  exact Owns.pure (Session.handles_perm ⟨dir, data, pass⟩).symm

theorem owns_publish (s : Session) :
    Owns s.handles (script.platform.publish s) (fun _ => s.handles) s.handles :=
  owns_announce s.directory s.data s.pass

theorem owns_serve (s : Session) : Owns s.handles (script.platform.serve s) (fun _ => []) [] :=
  (owns_serveOnce s.directory s.data s.pass).perm s.handles_perm

theorem owns_run (config : Config) : Owns [] (script.platform.run config) (fun _ => []) [] := by
  refine Owns.bind (owns_establish config) fun session => ?_
  refine Owns.bind (Owns.holding (owns_publish session)) fun _ => ?_
  exact owns_serve session

end Operations

end Handover
