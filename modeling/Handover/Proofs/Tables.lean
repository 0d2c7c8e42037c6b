import Handover.Host.Platform
import Mathlib

/-! # Descriptors that are installed and removed

The lowest free number is free, since there are more candidates than slots, and no number below it is; so what has been
installed can be removed again without a trace. On the host a process that gives up a descriptor removes it from its
table and changes no other slot, whatever becomes of the sockets that are swept away then.
-/
namespace Handover.Host

namespace DescriptorTable

variable {t : DescriptorTable} {d : Descriptor}

def opened (t : DescriptorTable) : List Descriptor := t.slots.map Slot.descriptor

theorem isOpen_iff : t.isOpen d = true ↔ d ∈ t.opened := by
  simp [isOpen, slot?, opened, List.find?_isSome]

theorem lowestFree_not_mem (t : DescriptorTable) : t.lowestFree ∉ t.opened := by
  unfold lowestFree
  split
  · rename_i n hn
    have hfree := List.find?_some hn
    rw [← isOpen_iff]
    simpa using hfree
  · rename_i hnone
    have hall : (List.range (t.slots.length + 1)).map (fun n : Nat => (n : Int)) ⊆ t.opened := by
      intro d hd
      obtain ⟨n, hn, rfl⟩ := List.mem_map.mp hd
      simpa [isOpen_iff] using List.find?_eq_none.mp hnone n hn
    have hdistinct : ((List.range (t.slots.length + 1)).map (fun n : Nat => (n : Int))).Nodup :=
      List.nodup_range.map Int.ofNat_injective
    have hle := (List.subperm_of_subset hdistinct hall).length_le
    simp [opened] at hle

theorem lowestFree_nonneg (t : DescriptorTable) : (0 : Int) ≤ t.lowestFree := by
  unfold lowestFree
  split
  · exact Int.natCast_nonneg _
  · exact Int.add_nonneg (Int.natCast_nonneg _) (by decide)

theorem lowestFree_le {n : Nat} (hn : (n : Int) ∉ t.opened) : (t.lowestFree : Int) ≤ n := by
  have hclosed : t.isOpen n = false := Bool.eq_false_iff.mpr (mt isOpen_iff.mp hn)
  unfold lowestFree
  split
  · rename_i k hk
    have hbefore := (List.find?_range_eq_some.mp hk).2.2
    refine Int.ofNat_le.mpr (Nat.le_of_not_lt fun hlt => ?_)
    simpa [hclosed] using hbefore n hlt
  · rename_i hnone
    refine Int.ofNat_le.mpr (Nat.le_of_not_lt fun hlt => ?_)
    simpa [hclosed] using List.find?_eq_none.mp hnone n (List.mem_range.mpr hlt)

theorem mem_opened_remove {e : Descriptor} : d ∈ (t.remove e).opened ↔ d ∈ t.opened ∧ d ≠ e := by
  simp only [opened, remove, List.mem_map, List.mem_filter, decide_eq_true_eq]
  constructor
  · rintro ⟨slot, ⟨hs, hne⟩, rfl⟩
    exact ⟨⟨slot, hs, rfl⟩, hne⟩
  · rintro ⟨⟨slot, hs, rfl⟩, hne⟩
    exact ⟨slot, ⟨hs, hne⟩, rfl⟩

theorem opened_install (t : DescriptorTable) (object : Object) (closeOnExec : Bool) :
    (t.install object closeOnExec).2.opened = t.opened ++ [t.lowestFree] := by
  simp [opened, install]

def removeAll (t : DescriptorTable) (ds : List Descriptor) : DescriptorTable := ds.foldl remove t

theorem slots_removeAll (t : DescriptorTable) (ds : List Descriptor) :
    (t.removeAll ds).slots = t.slots.filter fun slot => decide (slot.descriptor ∉ ds) := by
  induction ds generalizing t with
  | nil => simp [removeAll]
  | cons d ds ih =>
    have hrest := ih (t.remove d)
    simp only [removeAll, List.foldl_cons, remove, List.filter_filter] at hrest ⊢
    rw [hrest]
    refine List.filter_congr fun slot _ => ?_
    simp [Bool.and_comm]

theorem installAll_snoc (t : DescriptorTable) (objects : List Object) (object : Object) (closeOnExec : Bool) :
    t.installAll (objects ++ [object]) closeOnExec =
      ((t.installAll objects closeOnExec).1 ++ [(t.installAll objects closeOnExec).2.lowestFree],
        ((t.installAll objects closeOnExec).2.install object closeOnExec).2) := by
  simp [installAll, install]

theorem length_installAll (t : DescriptorTable) (objects : List Object) (closeOnExec : Bool) :
    (t.installAll objects closeOnExec).1.length = objects.length := by
  induction objects using List.reverseRecOn with
  | nil => rfl
  | append_singleton objects object ih => rw [installAll_snoc, List.length_append, List.length_append, ih]; rfl

theorem installAll_eq_singleton {objects : List Object} {closeOnExec : Bool}
    (h : (t.installAll objects closeOnExec).1 = [d]) : ∃ object, objects = [object] ∧ d = t.lowestFree := by
  have hlength : objects.length = 1 := by rw [← t.length_installAll objects closeOnExec, h]; rfl
  obtain ⟨object, rfl⟩ := List.length_eq_one_iff.mp hlength
  exact ⟨object, rfl, (List.singleton_inj.mp h).symm⟩

/-- What has been installed is removed without a trace. -/
theorem removeAll_installAll (t : DescriptorTable) (objects : List Object) (closeOnExec : Bool) :
    (t.installAll objects closeOnExec).2.removeAll (t.installAll objects closeOnExec).1 = t := by
  induction objects using List.reverseRecOn with
  | nil => rfl
  | append_singleton objects object ih =>
    rw [installAll_snoc]
    generalize t.installAll objects closeOnExec = installed at ih ⊢
    obtain ⟨ds, t'⟩ := installed
    have hnew : ∀ slot ∈ t'.slots, slot.descriptor ≠ t'.lowestFree := fun slot hs he =>
      t'.lowestFree_not_mem (he ▸ List.mem_map_of_mem hs)
    have hold : t'.slots.filter (fun slot => decide (slot.descriptor ∉ ds ++ [t'.lowestFree])) =
        t'.slots.filter fun slot => decide (slot.descriptor ∉ ds) := by
      refine List.filter_congr fun slot hs => ?_
      simp [hnew slot hs]
    have hslots : ((t'.install object closeOnExec).2.removeAll (ds ++ [t'.lowestFree])).slots = t.slots := by
      rw [slots_removeAll, install, List.filter_append, hold, ← slots_removeAll, ih]
      simp
    exact congrArg DescriptorTable.mk hslots

theorem remove_install (t : DescriptorTable) (object : Object) (closeOnExec : Bool) :
    (t.install object closeOnExec).2.remove t.lowestFree = t :=
  t.removeAll_installAll [object] closeOnExec

theorem slot?_install_other (object : Object) (closeOnExec : Bool) (h : d ≠ t.lowestFree) :
    (t.install object closeOnExec).2.slot? d = t.slot? d := by
  rw [← slot?_remove_other _ h, remove_install]

theorem slot?_install_self (t : DescriptorTable) (object : Object) (closeOnExec : Bool) :
    (t.install object closeOnExec).2.slot? t.lowestFree = some ⟨t.lowestFree, object, closeOnExec⟩ := by
  have hfree : t.slot? t.lowestFree = none := by
    simpa [isOpen] using mt isOpen_iff.mp t.lowestFree_not_mem
  simp only [slot?, install] at hfree ⊢
  rw [List.find?_append, hfree]
  simp

theorem remove_of_object?_none (h : t.object? d = none) : t.remove d = t := by
  have hslot : t.slots.find? (fun slot => decide (slot.descriptor = d)) = none := by simpa [object?, slot?] using h
  refine congrArg DescriptorTable.mk (List.filter_eq_self.mpr fun slot hs => ?_)
  simpa using List.find?_eq_none.mp hslot slot hs

end DescriptorTable

/-! ## The tables of processes -/

namespace Machine

theorem processes_hangUp (m : Machine) (dead : Socket) (wasPending : Bool) :
    (m.hangUp dead wasPending).processes = m.processes := by
  unfold hangUp
  split <;> rfl

theorem processes_sweep (m : Machine) : m.sweep.processes = m.processes := by
  have hfold : ∀ (dead : List Socket) (waiting : List Nat) (m : Machine),
      (dead.foldl (fun m s => m.hangUp s (decide (s.id ∈ waiting))) m).processes = m.processes := by
    intro dead waiting m
    induction dead generalizing m with
    | nil => rfl
    | cons s dead ih => rw [List.foldl_cons, ih, processes_hangUp]
  exact hfold _ _ m

theorem descriptors_congr {m m' : Machine} (h : m'.processes = m.processes) (pid : Nat) :
    m'.descriptors pid = m.descriptors pid := by
  rw [descriptors, descriptors, process?, process?, h]

theorem process?_setDescriptors (m : Machine) (pid : Nat) (t : DescriptorTable) :
    (m.setDescriptors pid t).process? pid = (m.process? pid).map fun p => { p with descriptors := t } := by
  have hcomp : ((fun p : Process => decide (p.id = pid)) ∘ fun p => if p.id = pid then { p with descriptors := t } else p) =
      fun p => decide (p.id = pid) := by
    funext p
    by_cases hp : p.id = pid <;> simp [hp]
  unfold setDescriptors updateProcess process?
  rw [List.find?_map, hcomp]
  cases hp : m.processes.find? fun p => decide (p.id = pid) with
  | none => rfl
  | some p =>
    have hpid : p.id = pid := by simpa using List.find?_some hp
    simp [hpid]

theorem descriptors_setDescriptors {m : Machine} {pid : Nat} {p : Process} (h : m.process? pid = some p)
    (t : DescriptorTable) : (m.setDescriptors pid t).descriptors pid = t := by
  rw [descriptors, process?_setDescriptors, h]
  rfl

theorem exists_process_of_object? {m : Machine} {pid : Nat} {d : Descriptor} {object : Object}
    (h : (m.descriptors pid).object? d = some object) : ∃ p, m.process? pid = some p := by
  cases hp : m.process? pid with
  | some p => exact ⟨p, rfl⟩
  | none =>
    have hempty : m.descriptors pid = DescriptorTable.empty := by rw [descriptors, hp]; rfl
    rw [hempty] at h
    simp [DescriptorTable.empty, DescriptorTable.object?, DescriptorTable.slot?] at h

theorem exists_process_of_mem_opened {m : Machine} {pid : Nat} {d : Descriptor}
    (h : d ∈ (m.descriptors pid).opened) : ∃ p, m.process? pid = some p := by
  have hopen := DescriptorTable.isOpen_iff.mpr h
  obtain ⟨slot, hs⟩ := Option.isSome_iff_exists.mp hopen
  have ho : (m.descriptors pid).object? d = some slot.object := by rw [DescriptorTable.object?, hs]; rfl
  exact exists_process_of_object? ho

end Machine

theorem Kernel.object_of_none {pid : Nat} {d : Descriptor} {m : Machine} (h : (m.descriptors pid).object? d = none) :
    Kernel.object pid d m = .error .badDescriptor m := by
  simp only [Kernel.object, Bind.bind, EStateM.bind, get, getThe, MonadStateOf.get, EStateM.get, h]
  rfl

theorem descriptors_release (pid : Nat) (d : Descriptor) (m : Machine) :
    ((platform pid).release d m).descriptors pid = (m.descriptors pid).remove d := by
  have hrun : (platform pid).release d m = run (Kernel.close pid d) m := rfl
  rw [hrun]
  cases ho : (m.descriptors pid).object? d with
  | none =>
    have hclose : Kernel.close pid d m = .error .badDescriptor m := by
      simp only [Kernel.close, Bind.bind, EStateM.bind, Kernel.object_of_none ho]
    rw [run, hclose, DescriptorTable.remove_of_object?_none ho]
  | some object =>
    have hclose : Kernel.close pid d m = .ok () (m.setDescriptors pid ((m.descriptors pid).remove d)).sweep := by
      simp only [Kernel.close, Kernel.object, Bind.bind, EStateM.bind, get, getThe, MonadStateOf.get, EStateM.get, ho]
      rfl
    obtain ⟨p, hp⟩ := Machine.exists_process_of_object? ho
    rw [run, hclose]
    change (Machine.sweep _).descriptors pid = _
    rw [Machine.descriptors_congr (Machine.processes_sweep _), Machine.descriptors_setDescriptors hp]

theorem descriptors_releaseAll (pid : Nat) (ds : List Descriptor) (m : Machine) :
    ((platform pid).releaseAll ds m).descriptors pid = (m.descriptors pid).removeAll ds := by
  induction ds generalizing m with
  | nil => rfl
  | cons d ds ih =>
    rw [Platform.releaseAll_cons, ih, descriptors_release]
    rfl

end Handover.Host
