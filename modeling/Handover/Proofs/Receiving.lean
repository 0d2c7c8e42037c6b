import Handover.Proofs.Tables

/-! # What a receive leaves open

Whoever receives takes exactly one descriptor. What is installed beside it is closed before an error is returned, with
one exception: if some of the descriptors did not fit, the error is found before those that did are looked at, and they
stay open. The first part says so for every outcome of the call, the second one for the host, whose descriptor tables are
otherwise left as they were.
-/
namespace Handover

namespace Receipt

variable {connection d : Descriptor} {m : ReceivedMessage}

theorem ofOutcome_truncated (ht : m.truncated = true) :
    ofOutcome connection (.ok m) = ⟨.error (.receive connection .noBuffers), []⟩ := by
  simp [ofOutcome, ht]

theorem ofOutcome_one (ht : m.truncated = false) (hi : m.installed = [d]) : ofOutcome connection (.ok m) = ⟨.ok d, []⟩ := by
  simp [ofOutcome, ht, hi]

theorem ofOutcome_other (ht : m.truncated = false) (hi : ∀ d, m.installed ≠ [d]) :
    ∃ e, ofOutcome connection (.ok m) = ⟨.error e, m.installed⟩ := by
  simp only [ofOutcome, ht]
  cases hm : m.installed with
  | nil => exact ⟨_, rfl⟩
  | cons d rest =>
    cases rest with
    | nil => exact absurd hm (hi d)
    | cons d' rest => exact ⟨_, rfl⟩

theorem leftOpen_of_nil {r : Receipt} (h : r.closed = []) : r.leftOpen m = m.installed := by
  simp [leftOpen, h]

theorem leftOpen_of_installed {r : Receipt} (h : r.closed = m.installed) : r.leftOpen m = [] := by
  simp [leftOpen, h]

theorem result_eq_ok_iff (connection : Descriptor) (outcome : Except Errno ReceivedMessage) (d : Descriptor) :
    (ofOutcome connection outcome).result = .ok d ↔
      ∃ m, outcome = .ok m ∧ m.truncated = false ∧ m.installed = [d] := by
  refine ⟨fun h => ?_, ?_⟩
  · cases outcome with
    | error cause => simp [ofOutcome] at h
    | ok m =>
      refine ⟨m, rfl, ?_⟩
      cases ht : m.truncated with
      | true => simp [ofOutcome_truncated ht] at h
      | false =>
        by_cases hi : ∃ d, m.installed = [d]
        · obtain ⟨d', hi⟩ := hi
          obtain rfl : d' = d := by simpa [ofOutcome_one ht hi] using h
          exact ⟨rfl, hi⟩
        · obtain ⟨e, he⟩ : ∃ e, ofOutcome connection (.ok m) = ⟨.error e, m.installed⟩ :=
            ofOutcome_other ht (not_exists.mp hi)
          simp [he] at h
  · rintro ⟨m, rfl, ht, hi⟩
    rw [ofOutcome_one ht hi]

theorem leftOpen_of_error {e : Error} (h : (ofOutcome connection (.ok m)).result = .error e) :
    (m.truncated = true ∧ e = .receive connection .noBuffers ∧ (ofOutcome connection (.ok m)).leftOpen m = m.installed) ∨
      (m.truncated = false ∧ (ofOutcome connection (.ok m)).closed = m.installed ∧
        (ofOutcome connection (.ok m)).leftOpen m = []) := by
  cases ht : m.truncated with
  | true =>
    rw [ofOutcome_truncated ht] at h ⊢
    have he : Error.receive connection .noBuffers = e := by simpa using h
    exact Or.inl ⟨rfl, he.symm, leftOpen_of_nil rfl⟩
  | false =>
    have hi : ∀ d, m.installed ≠ [d] := by
      intro d hd
      rw [ofOutcome_one ht hd] at h
      simp at h
    obtain ⟨e', he⟩ : ∃ e, ofOutcome connection (.ok m) = ⟨.error e, m.installed⟩ := ofOutcome_other ht hi
    rw [he]
    exact Or.inr ⟨rfl, rfl, leftOpen_of_installed rfl⟩

/-- A receive succeeds exactly if nothing was cut off and one descriptor has arrived over all control messages, and
returns that one. When it fails, all that was installed has been closed, unless something was cut off: then nothing has
been closed, and all that was installed stays open. -/
theorem a_receive_closes_what_it_does_not_return (connection : Descriptor) (outcome : Except Errno ReceivedMessage) :
    let receipt := ofOutcome connection outcome
    (∀ d, receipt.result = .ok d ↔ ∃ m, outcome = .ok m ∧ m.truncated = false ∧ m.installed = [d]) ∧
      (∀ cause, outcome = .error cause → receipt.result = .error (.receive connection cause) ∧ receipt.closed = []) ∧
      ∀ m e, outcome = .ok m → receipt.result = .error e →
        (m.truncated = true ∧ e = .receive connection .noBuffers ∧ receipt.leftOpen m = m.installed) ∨
          (m.truncated = false ∧ receipt.closed = m.installed ∧ receipt.leftOpen m = []) := by
  intro receipt
  refine ⟨result_eq_ok_iff connection outcome, fun cause h => ?_, fun m e h he => ?_⟩
  · subst h
    exact ⟨rfl, rfl⟩
  · subst h
    exact leftOpen_of_error he

/-- Two descriptors of three that were sent stay open behind the error. -/
theorem what_was_cut_off_leaves_two_open :
    let m : ReceivedMessage := ⟨[.rights [6, 7]], true⟩
    (ofOutcome 5 (.ok m)).result = .error (.receive 5 .noBuffers) ∧ (ofOutcome 5 (.ok m)).leftOpen m = [6, 7] := by
  decide

end Receipt

/-! ## Receiving on the host -/

namespace Host

namespace Kernel

variable {α β : Type}

/-- However the call ends, the processes are as they were. -/
def KeepsProcesses (call : Kernel α) : Prop :=
  ∀ m, match call m with
    | .ok _ m' | .error _ m' => m'.processes = m.processes

theorem KeepsProcesses.pure {a : α} : KeepsProcesses (pure a : Kernel α) := fun _ => rfl

theorem KeepsProcesses.throw {cause : Errno} : KeepsProcesses (throw cause : Kernel α) := fun _ => rfl

theorem KeepsProcesses.get : KeepsProcesses (get : Kernel Machine) := fun _ => rfl

theorem KeepsProcesses.modify {f : Machine → Machine} (hf : ∀ m, (f m).processes = m.processes) :
    KeepsProcesses (modify f : Kernel PUnit) := hf

theorem KeepsProcesses.bind {call : Kernel α} {next : α → Kernel β} (hc : KeepsProcesses call)
    (hn : ∀ a, KeepsProcesses (next a)) : KeepsProcesses (call >>= next) := by
  intro m
  have hcm := hc m
  change match EStateM.bind call next m with
    | .ok _ m' | .error _ m' => m'.processes = m.processes
  rw [EStateM.bind]
  cases hr : call m with
  | ok a m' =>
    rw [hr] at hcm
    have hnm := hn a m'
    simp only [hcm] at hnm
    exact hnm
  | error cause m' =>
    rw [hr] at hcm
    exact hcm

theorem keepsProcesses_object (pid : Nat) (d : Descriptor) : KeepsProcesses (object pid d) := by
  refine .bind .get fun m => ?_
  split
  · exact .pure
  · exact .throw

theorem keepsProcesses_socket (pid : Nat) (d : Descriptor) : KeepsProcesses (socket pid d) := by
  refine .bind (keepsProcesses_object pid d) fun object => ?_
  split
  · refine .bind .get fun m => ?_
    split
    · exact .pure
    · exact .throw
  · exact .throw

theorem keepsProcesses_receive (pid : Nat) (d : Descriptor) (n : Nat) : KeepsProcesses (receive pid d n) := by
  refine .bind (keepsProcesses_socket pid d) fun s => ?_
  split
  · exact .throw
  · exact .bind (.modify fun _ => rfl) fun _ => .throw
  · split
    · exact .pure
    · exact .throw
  · exact .bind (.modify fun _ => rfl) fun _ => .pure

theorem exists_process_of_receive {pid : Nat} {d : Descriptor} {n : Nat} {m m' : Machine} {taken : Packet}
    (h : receive pid d n m = .ok taken m') : ∃ p, m.process? pid = some p := by
  cases ho : (m.descriptors pid).object? d with
  | some object => exact Machine.exists_process_of_object? ho
  | none =>
    have hreceive : receive pid d n m = .error .badDescriptor m := by
      simp only [receive, socket, Bind.bind, EStateM.bind, object_of_none ho]
    rw [hreceive] at h
    simp at h

end Kernel

theorem receiveMessage_of_error {pid : Nat} {d : Descriptor} {m m' : Machine} {cause : Errno}
    (h : Kernel.receive pid d 1 m = .error cause m') : Kernel.receiveMessage pid d m = .error cause m' := by
  simp only [Kernel.receiveMessage, Bind.bind, EStateM.bind, h]

theorem receiveMessage_of_ok {pid : Nat} {d : Descriptor} {m m' : Machine} {taken : Packet}
    (h : Kernel.receive pid d 1 m = .ok taken m') :
    ∃ message m'', Kernel.receiveMessage pid d m = .ok message m'' ∧
      message.installed = ((m.descriptors pid).installAll (taken.rights.take Kernel.controlCapacity) true).1 ∧
      message.truncated = decide (Kernel.controlCapacity < taken.rights.length) ∧
      m''.descriptors pid = ((m.descriptors pid).installAll (taken.rights.take Kernel.controlCapacity) true).2 := by
  obtain ⟨p, hp⟩ := Kernel.exists_process_of_receive h
  have hprocesses : m'.processes = m.processes := by
    have hkeeps := Kernel.keepsProcesses_receive pid d 1 m
    rw [h] at hkeeps
    exact hkeeps
  have hp' : m'.process? pid = some p := by rw [← hp, Machine.process?, Machine.process?, hprocesses]
  have htable := Machine.descriptors_congr hprocesses pid
  rw [← htable]
  generalize hi : (m'.descriptors pid).installAll (taken.rights.take Kernel.controlCapacity) true = installed
  refine ⟨⟨if installed.1 = [] then [] else [.rights installed.1], decide (Kernel.controlCapacity < taken.rights.length)⟩,
    (m'.setDescriptors pid installed.2).sweep, ?_, ?_, rfl, ?_⟩
  · simp only [Kernel.receiveMessage, Bind.bind, EStateM.bind, h]
    simp only [Kernel.installAll, Bind.bind, EStateM.bind, get, getThe, MonadStateOf.get, EStateM.get, hi]
    rfl
  · by_cases he : installed.1 = [] <;> simp [ReceivedMessage.installed, ControlMessage.descriptors, he]
  · rw [Machine.descriptors_congr (Machine.processes_sweep _), Machine.descriptors_setDescriptors hp']

section Conclusion

variable {pid : Nat} {connection d : Descriptor} {m m' : Machine} {message : ReceivedMessage} {closed : List Descriptor}

theorem receiveDescriptor_of_ok (hm : Kernel.receiveMessage pid connection m = .ok message m')
    (hr : Receipt.ofOutcome connection (.ok message) = ⟨.ok d, closed⟩) :
    receiveDescriptor pid connection m = .ok d ((platform pid).releaseAll closed m') := by
  simp only [receiveDescriptor, hm, hr]

theorem receiveDescriptor_of_error {e : Error} (hm : Kernel.receiveMessage pid connection m = .ok message m')
    (hr : Receipt.ofOutcome connection (.ok message) = ⟨.error e, closed⟩) :
    receiveDescriptor pid connection m = .error e ((platform pid).releaseAll closed m') := by
  simp only [receiveDescriptor, hm, hr]

end Conclusion

/-- On the host a receive gives the process one descriptor that was free, or leaves its table as it was; only if more was
sent than there is room for does the table keep what fitted, although the receive fails. -/
theorem receiveDescriptor_table (pid : Nat) (connection : Descriptor) (m : Machine) :
    match receiveDescriptor pid connection m with
    | .ok d m' => d ∉ (m.descriptors pid).opened ∧
        ∃ object, m'.descriptors pid = ⟨(m.descriptors pid).slots ++ [⟨d, object, true⟩]⟩
    | .error e m' => m'.descriptors pid = m.descriptors pid ∨
        (e = .receive connection .noBuffers ∧ ∃ taken after, Kernel.receive pid connection 1 m = .ok taken after ∧
          Kernel.controlCapacity < taken.rights.length ∧ m'.descriptors pid =
            ((m.descriptors pid).installAll (taken.rights.take Kernel.controlCapacity) true).2) := by
  have hkeeps := Kernel.keepsProcesses_receive pid connection 1 m
  cases hr : Kernel.receive pid connection 1 m with
  | error cause after =>
    rw [hr] at hkeeps
    have hfailed : receiveDescriptor pid connection m = .error (.receive connection cause) after := by
      simp only [receiveDescriptor, receiveMessage_of_error hr]
      rfl
    rw [hfailed]
    exact Or.inl (Machine.descriptors_congr hkeeps pid)
  | ok taken after =>
    obtain ⟨message, m', hm, hinstalled, htruncated, htable⟩ := receiveMessage_of_ok hr
    cases ht : message.truncated with
    | true =>
      have hmore : Kernel.controlCapacity < taken.rights.length := by simpa [ht] using htruncated.symm
      rw [receiveDescriptor_of_error hm (Receipt.ofOutcome_truncated ht)]
      exact Or.inr ⟨rfl, taken, after, rfl, hmore, htable⟩
    | false =>
      by_cases hi : ∃ d, message.installed = [d]
      · obtain ⟨d, hi⟩ := hi
        obtain ⟨object, hone, rfl⟩ := DescriptorTable.installAll_eq_singleton (hinstalled.symm.trans hi)
        rw [receiveDescriptor_of_ok hm (Receipt.ofOutcome_one ht hi)]
        refine ⟨DescriptorTable.lowestFree_not_mem _, object, ?_⟩
        change m'.descriptors pid = _
        rw [htable, hone]
        rfl
      · obtain ⟨e, he⟩ : ∃ e, Receipt.ofOutcome connection (.ok message) = ⟨.error e, message.installed⟩ :=
          Receipt.ofOutcome_other ht (not_exists.mp hi)
        rw [receiveDescriptor_of_error hm he]
        refine Or.inl ?_
        rw [descriptors_releaseAll, htable, hinstalled, DescriptorTable.removeAll_installAll]

end Host

end Handover
