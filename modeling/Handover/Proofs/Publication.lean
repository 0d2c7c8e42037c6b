import Handover.Proofs.Receiving

/-! # What stands in for the standard output

A publication closes the standard output and opens the null device, so that its number is not handed out again. A new
descriptor gets the lowest number that is free: this is the number of the standard output if zero is in use, and
otherwise it is zero, which is given back, so that the number of the standard output is free from then on. No other
descriptor is touched in either case. A publication that fails leaves the table as it was, as the null device of the host
can always be opened.
-/
namespace Handover.Host

namespace DescriptorTable

variable {t u : DescriptorTable} {d : Descriptor}

theorem lowestFree_eq_zero (h : 0 ∉ t.opened) : t.lowestFree = 0 :=
  Int.le_antisymm (lowestFree_le (n := 0) h) t.lowestFree_nonneg

theorem lowestFree_eq_one (h0 : 0 ∈ t.opened) (h1 : 1 ∉ t.opened) : t.lowestFree = 1 := by
  have hle : (t.lowestFree : Int) ≤ 1 := lowestFree_le (n := 1) h1
  have hne : (t.lowestFree : Int) ≠ 0 := fun he => t.lowestFree_not_mem (he ▸ h0)
  have hpos := t.lowestFree_nonneg
  exact Int.le_antisymm hle (hpos.lt_of_ne hne.symm)

theorem retireOutput_of_closed (h : standardOutput ∉ t.opened) : t.retireOutput = .error .badDescriptor := by
  rw [← isOpen_iff] at h
  simp [retireOutput, h]

/-- The null device stays only where the standard output was. -/
theorem retireOutput_of_open (h : standardOutput ∈ t.opened) :
    t.retireOutput = .ok (if (t.remove standardOutput).lowestFree = standardOutput then
      ((t.remove standardOutput).install (.device .null) true).2 else t.remove standardOutput) := by
  simp only [retireOutput, isOpen_iff.mpr h, if_true]
  refine congrArg Except.ok ?_
  change (if (t.remove standardOutput).lowestFree = standardOutput then _ else
    ((t.remove standardOutput).install (.device .null) true).2.remove (t.remove standardOutput).lowestFree) = _
  rw [remove_install]

/-- With zero in use, the null device takes the place of the standard output. -/
theorem retireOutput_of_zero_open (h : standardOutput ∈ t.opened) (h0 : 0 ∈ t.opened) :
    (t.remove standardOutput).lowestFree = standardOutput ∧
      t.retireOutput = .ok ((t.remove standardOutput).install (.device .null) true).2 := by
  have hfree : (t.remove standardOutput).lowestFree = standardOutput :=
    lowestFree_eq_one (mem_opened_remove.mpr ⟨h0, by decide⟩) fun hm => (mem_opened_remove.mp hm).2 rfl
  exact ⟨hfree, by rw [retireOutput_of_open h, if_pos hfree]⟩

/-- With zero free, the null device lands there and is dropped. -/
theorem retireOutput_of_zero_free (h : standardOutput ∈ t.opened) (h0 : 0 ∉ t.opened) :
    (t.remove standardOutput).lowestFree = 0 ∧ t.retireOutput = .ok (t.remove standardOutput) := by
  have hfree : (t.remove standardOutput).lowestFree = 0 :=
    lowestFree_eq_zero fun hm => h0 (mem_opened_remove.mp hm).1
  exact ⟨hfree, by rw [retireOutput_of_open h, if_neg (by rw [hfree]; decide)]⟩

theorem mem_opened_of_retireOutput (h : t.retireOutput = .ok u) : standardOutput ∈ t.opened := by
  by_contra hn
  rw [retireOutput_of_closed hn] at h
  simp at h

theorem slot?_of_retireOutput (h : t.retireOutput = .ok u) (hd : d ≠ standardOutput) : u.slot? d = t.slot? d := by
  have hopen := mem_opened_of_retireOutput h
  by_cases h0 : 0 ∈ t.opened
  · obtain ⟨hfree, hr⟩ := retireOutput_of_zero_open hopen h0
    obtain rfl := Except.ok.inj (hr.symm.trans h)
    rw [slot?_install_other _ _ (by rwa [hfree]), slot?_remove_other _ hd]
  · obtain rfl := Except.ok.inj ((retireOutput_of_zero_free hopen h0).2.symm.trans h)
    exact slot?_remove_other _ hd

theorem slot?_output_of_retireOutput (h : t.retireOutput = .ok u) (h0 : 0 ∈ t.opened) :
    u.slot? standardOutput = some ⟨standardOutput, .device .null, true⟩ := by
  obtain ⟨hfree, hr⟩ := retireOutput_of_zero_open (mem_opened_of_retireOutput h) h0
  obtain rfl := Except.ok.inj (hr.symm.trans h)
  have hself := (t.remove standardOutput).slot?_install_self (.device .null) true
  rwa [hfree] at hself

theorem output_not_mem_of_retireOutput (h : t.retireOutput = .ok u) (h0 : 0 ∉ t.opened) :
    standardOutput ∉ u.opened ∧ u.lowestFree = 0 := by
  obtain ⟨hfree, hr⟩ := retireOutput_of_zero_free (mem_opened_of_retireOutput h) h0
  obtain rfl := Except.ok.inj (hr.symm.trans h)
  exact ⟨fun hm => (mem_opened_remove.mp hm).2 rfl, hfree⟩

/-- Once zero is taken again, the standard output is next. -/
theorem lowestFree_install_eq_output (h : standardOutput ∉ t.opened) (h0 : t.lowestFree = 0) (object : Object)
    (closeOnExec : Bool) : (t.install object closeOnExec).2.lowestFree = standardOutput := by
  have hopened : (t.install object closeOnExec).2.opened = t.opened ++ [0] := by rw [opened_install, h0]
  refine lowestFree_eq_one ?_ ?_
  · rw [hopened]
    exact List.mem_append_right _ (List.mem_singleton_self _)
  · rw [hopened]
    exact fun hm => (List.mem_append.mp hm).elim h (by decide)

/-- What a process does to its table as long as it does not close the standard output: it opens anything, and closes
anything else. -/
inductive Goes : DescriptorTable → DescriptorTable → Prop where
  | on (t : DescriptorTable) : Goes t t
  | opens {t u : DescriptorTable} (object : Object) (closeOnExec : Bool) :
      Goes t u → Goes t (u.install object closeOnExec).2
  | closes {t u : DescriptorTable} {d : Descriptor} : d ≠ standardOutput → Goes t u → Goes t (u.remove d)

theorem Goes.output_open (hg : Goes t u) (h : standardOutput ∈ t.opened) : standardOutput ∈ u.opened := by
  induction hg with
  | on => exact h
  | opens object closeOnExec _ ih =>
    rw [opened_install]
    exact List.mem_append_left _ ih
  | closes hne _ ih => exact mem_opened_remove.mpr ⟨ih, hne.symm⟩

/-- Nothing that is opened gets the number of a standard output that is open. -/
theorem Goes.lowestFree_ne (hg : Goes t u) (h : standardOutput ∈ t.opened) : u.lowestFree ≠ standardOutput := fun he =>
  u.lowestFree_not_mem (he ▸ hg.output_open h)

end DescriptorTable

/-! ## Publishing on the host -/

namespace Kernel

variable {α : Type}

/-- A step that is made only under a condition, and the rest. -/
theorem KeepsProcesses.guarded {p : Prop} [Decidable p] {step : Kernel PUnit} {rest : PUnit → Kernel α}
    (hs : KeepsProcesses step) (hr : ∀ r, KeepsProcesses (rest r)) :
    KeepsProcesses (if p then step >>= rest else rest ⟨⟩) := by
  split
  · exact .bind hs hr
  · exact hr _

theorem keepsProcesses_mapM_object (pid : Nat) (ds : List Descriptor) : KeepsProcesses (ds.mapM (object pid)) := by
  induction ds with
  | nil => exact .pure
  | cons d ds ih =>
    rw [List.mapM_cons]
    exact .bind (keepsProcesses_object pid d) fun _ => .bind ih fun _ => .pure

theorem keepsProcesses_send (pid : Nat) (d : Descriptor) (payload : Bytes) (rights : List Descriptor) :
    KeepsProcesses (send pid d payload rights) := by
  refine .bind (keepsProcesses_socket pid d) fun s => .guarded .throw fun _ => ?_
  refine .bind (keepsProcesses_mapM_object pid rights) fun objects => ?_
  split
  · exact .throw
  · exact .guarded .throw fun _ => .guarded (.modify fun _ => rfl) fun _ => .pure

theorem keepsProcesses_write (pid : Nat) (d : Descriptor) (bytes : Bytes) : KeepsProcesses (write pid d bytes) := by
  refine .bind (keepsProcesses_object pid d) fun object => ?_
  cases object with
  | socket id => exact keepsProcesses_send pid d bytes []
  | directory inode => exact .throw
  | device device => cases device with
    | null => exact .pure
    | full => exact .throw
  | file inode =>
    refine .bind .get fun m => ?_
    split
    · exact .bind (.modify fun _ => rfl) fun _ => .pure
    · exact .throw

end Kernel

theorem writeOutput_processes (pid : Nat) (bytes : Bytes) : Kernel.KeepsProcesses (writeOutput pid bytes) := by
  intro m
  have hw := Kernel.keepsProcesses_write pid DescriptorTable.standardOutput bytes m
  unfold writeOutput
  cases hr : Kernel.write pid DescriptorTable.standardOutput bytes m with
  | ok n m' =>
    rw [hr] at hw
    exact hw
  | error cause m' =>
    rw [hr] at hw
    by_cases hc : cause = .badDescriptor
    · simpa [hc] using hw
    · simpa [hc] using hw

theorem retireOutput_table (pid : Nat) (m : Machine) :
    match retireOutput pid m with
    | .ok () m' => (m.descriptors pid).retireOutput = .ok (m'.descriptors pid)
    | .error _ m' => m' = m := by
  cases ht : (m.descriptors pid).retireOutput with
  | error cause =>
    have hr : retireOutput pid m = .error cause m := by
      simp only [retireOutput, Bind.bind, EStateM.bind, get, getThe, MonadStateOf.get, EStateM.get, ht]
      rfl
    rw [hr]
  | ok t =>
    have hr : retireOutput pid m = .ok () (m.setDescriptors pid t).sweep := by
      simp only [retireOutput, Bind.bind, EStateM.bind, get, getThe, MonadStateOf.get, EStateM.get, ht]
      rfl
    obtain ⟨p, hp⟩ := Machine.exists_process_of_mem_opened (DescriptorTable.mem_opened_of_retireOutput ht)
    rw [hr]
    change Except.ok t = Except.ok ((Machine.sweep _).descriptors pid)
    rw [Machine.descriptors_congr (Machine.processes_sweep _), Machine.descriptors_setDescriptors hp]

theorem publish_table (pid : Nat) (announcement : Announcement) (m : Machine) :
    match publish pid announcement m with
    | .ok () m' => (m.descriptors pid).retireOutput = .ok (m'.descriptors pid)
    | .error _ m' => m'.descriptors pid = m.descriptors pid := by
  have hw := writeOutput_processes pid announcement.wire m
  cases hwrite : writeOutput pid announcement.wire m with
  | error cause after =>
    have hp : publish pid announcement m = .error (.publish (.system cause)) after := by
      simp only [publish, Bind.bind, EStateM.bind, attempt, hwrite]
    rw [hwrite] at hw
    rw [hp]
    exact Machine.descriptors_congr hw pid
  | ok u after =>
    rw [hwrite] at hw
    have hsame := Machine.descriptors_congr hw pid
    have hr := retireOutput_table pid after
    cases hretire : retireOutput pid after with
    | error cause after' =>
      have hp : publish pid announcement m = .error (.cleanup "close" "stdout" cause) after' := by
        simp only [publish, Bind.bind, EStateM.bind, attempt, hwrite, hretire]
      rw [hretire] at hr
      obtain rfl : after' = after := hr
      rw [hp]
      exact hsame
    | ok u after' =>
      have hp : publish pid announcement m = .ok () after' := by
        simp only [publish, Bind.bind, EStateM.bind, attempt, hwrite, hretire]
      rw [hretire] at hr
      rw [hp, ← hsame]
      exact hr

/-- A publication never touches another descriptor. It keeps the number of the standard output in use from then on if
zero was in use; if zero was free, that number is the next but one to be handed out. -/
theorem publishing_keeps_the_output_in_use_above_an_input (pid : Nat) (announcement : Announcement) (m : Machine) :
    match publish pid announcement m with
    | .ok () m' =>
      let before := m.descriptors pid
      let after := m'.descriptors pid
      DescriptorTable.standardOutput ∈ before.opened ∧
        (∀ d, d ≠ DescriptorTable.standardOutput → after.slot? d = before.slot? d) ∧
        (0 ∈ before.opened →
          after.slot? DescriptorTable.standardOutput = some ⟨DescriptorTable.standardOutput, .device .null, true⟩ ∧
            ∀ t, after.Goes t → t.lowestFree ≠ DescriptorTable.standardOutput) ∧
        (0 ∉ before.opened →
          DescriptorTable.standardOutput ∉ after.opened ∧ after.lowestFree = 0 ∧ ∀ object closeOnExec,
            (after.install object closeOnExec).2.lowestFree = DescriptorTable.standardOutput)
    | .error _ m' => m'.descriptors pid = m.descriptors pid := by
  have ht := publish_table pid announcement m
  cases hr : publish pid announcement m with
  | error e m' =>
    rw [hr] at ht
    exact ht
  | ok u m' =>
    rw [hr] at ht
    refine ⟨DescriptorTable.mem_opened_of_retireOutput ht, fun d => DescriptorTable.slot?_of_retireOutput ht,
      fun h0 => ?_, fun h0 => ?_⟩
    · have hself := DescriptorTable.slot?_output_of_retireOutput ht h0
      have hopen : DescriptorTable.standardOutput ∈ (m'.descriptors pid).opened :=
        DescriptorTable.isOpen_iff.mp (by rw [DescriptorTable.isOpen, hself]; rfl)
      exact ⟨hself, fun t ht => ht.lowestFree_ne hopen⟩
    · obtain ⟨hclosed, hfree⟩ := DescriptorTable.output_not_mem_of_retireOutput ht h0
      exact ⟨hclosed, hfree, DescriptorTable.lowestFree_install_eq_output hclosed hfree⟩

/-- Without an input, the publication succeeds and the output stays closed: the second descriptor that is opened after it
gets its number. -/
theorem publishing_without_an_input_loses_the_output :
    let table : DescriptorTable := ⟨[⟨1, .device .null, false⟩, ⟨2, .device .null, false⟩]⟩
    let m : Machine := ⟨FileTree.empty, [], 0, [⟨1, table, FileTree.root, Environment.empty, .free, none⟩], 2, 0⟩
    DescriptorTable.standardOutput ∈ (m.descriptors 1).opened ∧
      ∃ m', publish 1 (Announcement.layout ⟨[47, 120]⟩) m = .ok () m' ∧
        DescriptorTable.standardOutput ∉ (m'.descriptors 1).opened ∧
        ((m'.descriptors 1).installAll [.device .null, .device .null] true).1 = [0, DescriptorTable.standardOutput] := by
  intro table m
  exact ⟨by decide, _, rfl, by decide, by decide⟩

end Handover.Host
