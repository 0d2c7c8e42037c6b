import Handover.Consumer.Connection
import Handover.Proofs.Readback

/-! # Sockets are addressed apart

The address of a socket is the number of an open directory and a name. The numeral ends at the slash, so it can be read
back, and the name is all that follows, slashes included: nothing about the directory but its handle enters an address,
and no two names in open directories share one. The numeral of a descriptor has at most ten digits, so what an address
adds to the name is bounded however long the path of the directory is. A call on the host fails in one of its own ways
only, and neither side of a handover is refused for the address.
-/
namespace Handover

open Bytes (nul slash ofString)
open Text (EndsRun decimal isNumeral decimal_append_inj decimal_eq_repr isNumeral_of_mem_decimal utf8ByteSize_repr_le)

/-- Descriptors are signed numbers of 32 bits. -/
def largestDescriptor : Descriptor := 2147483647

section Address

variable {directory other : Descriptor} {m n : String}

theorem bytes_socketAddress (directory : Descriptor) (m : String) :
    (socketAddress directory m).bytes = ofString "/proc/self/fd/" ++ ofString directory.repr ++ [slash] ++ ofString m := by
  have happend : ∀ s t : String, ofString (s ++ t) = ofString s ++ ofString t := fun s t => by
    simp [ofString, String.toByteArray_append]
  have hslash : ofString "/" = [slash] := by decide
  rw [← decimal_eq_repr, ← hslash]
  simp only [socketAddress, descriptorDirectory, Path.ofString, happend, List.append_assoc]

theorem socketAddress_inj : socketAddress directory m = socketAddress other n ↔ directory = other ∧ m = n := by
  refine ⟨fun h => ?_, fun h => by rw [h.1, h.2]⟩
  have htext := Bytes.ofString_inj.mp (congrArg Path.bytes h)
  rw [String.append_assoc, String.append_assoc, String.append_assoc, String.append_assoc] at htext
  have hends : ∀ x : String, EndsRun isNumeral ("/" ++ x) := fun x => EndsRun.append ⟨'/', rfl, rfl⟩ x
  obtain ⟨hd, hname⟩ := decimal_append_inj (hends _) (hends _) ((String.append_right_inj descriptorDirectory).mp htext)
  exact ⟨hd, (String.append_right_inj "/").mp hname⟩

theorem length_socketAddress_le (h0 : 0 ≤ directory) (hd : directory ≤ largestDescriptor) :
    (socketAddress directory m).bytes.length ≤ 25 + m.utf8ByteSize := by
  obtain ⟨n, rfl⟩ := Int.eq_ofNat_of_zero_le h0
  have hn : n < 10 ^ 10 := by
    have hd : (n : Int) ≤ 2147483647 := hd
    omega
  have hdigits : n.repr.utf8ByteSize ≤ 10 := utf8ByteSize_repr_le (by decide) hn
  have hparts : (socketAddress n m).bytes.length = 14 + n.repr.utf8ByteSize + 1 + m.utf8ByteSize := by
    rw [bytes_socketAddress]
    simp only [List.length_append, Bytes.length_ofString]
    rfl
  omega

theorem socketAddress_ne_ofString (directory : Descriptor) (m : String) : socketAddress directory m ≠ Path.ofString m := by
  intro h
  have hlength := congrArg (List.length ∘ Path.bytes) h
  simp only [Function.comp_apply, bytes_socketAddress, Path.ofString, List.length_append, List.length_singleton] at hlength
  omega

theorem Path.join_absolute {d : Path} {name : Bytes} (h : (Path.mk name).isAbsolute = true) : d.join name = ⟨name⟩ := by
  simp [join, h]

end Address

/-- The sockets of two directories have the same address exactly if the handles of the directories and the names of the
sockets are the same, wherever the directories are. An address is a fixed text with the handle's numeral, a slash and the
name behind it, also for an absolute name, which would have replaced the path of its directory. With any descriptor there
is room for the names `data` and `pass`. -/
theorem sockets_are_addressed_apart (d e : PrivateDirectory) (m n : String) :
    (socketAddress d.handle m = socketAddress e.handle n ↔ d.handle = e.handle ∧ m = n) ∧
      (socketAddress d.handle m).bytes =
        ofString "/proc/self/fd/" ++ ofString d.handle.repr ++ [slash] ++ ofString m ∧
      ((Path.ofString m).isAbsolute = true →
        d.path.join (ofString m) = Path.ofString m ∧ socketAddress d.handle m ≠ Path.ofString m) ∧
      (0 ≤ d.handle → d.handle ≤ largestDescriptor →
        (socketAddress d.handle m).bytes.length ≤ 25 + (ofString m).length ∧
        ∀ name ∈ [dataName, passName], (socketAddress d.handle name).bytes.length < Host.addressLimit) := by
  refine ⟨socketAddress_inj, bytes_socketAddress d.handle m, fun h => ⟨Path.join_absolute h, socketAddress_ne_ofString _ _⟩,
    fun h0 hd => ⟨length_socketAddress_le h0 hd, fun name hname => ?_⟩⟩
  have hlength : name.utf8ByteSize = 4 := by
    rcases List.mem_pair.mp hname with rfl | rfl <;> rfl
  have hle := length_socketAddress_le (m := name) h0 hd
  have hlimit : Host.addressLimit = 108 := rfl
  omega

/-! ## The host and the consumer -/

theorem Bytes.ofString_eq_flatMap (s : String) : ofString s = s.toList.flatMap String.utf8EncodeChar := by
  have hencoded : s.toByteArray = (s.toList.flatMap String.utf8EncodeChar).toByteArray := by
    conv => lhs; rw [← String.ofList_toList (s := s), String.toByteArray_ofList]
    rfl
  simp [ofString, hencoded]

theorem nul_not_mem_utf8EncodeChar {c : Char} (h : isNumeral c = true) : nul ∉ String.utf8EncodeChar c := by
  have hrange : 0 < c.toNat ∧ c.toNat ≤ 127 := by
    simp only [isNumeral, Char.isDigit, Bool.or_eq_true, Bool.and_eq_true, decide_eq_true_eq] at h
    rcases h with ⟨hlow, hhigh⟩ | rfl
    · have hlow : 48 ≤ c.toNat := UInt32.le_iff_toNat_le.mp hlow
      have hhigh : c.toNat ≤ 57 := UInt32.le_iff_toNat_le.mp hhigh
      omega
    · decide
  have hone : String.utf8EncodeChar c = [UInt8.ofNat c.toNat] := if_pos hrange.2
  rw [hone, List.mem_singleton]
  intro hnul
  have hzero : 0 = c.toNat % 256 := by simpa [nul] using congrArg UInt8.toNat hnul
  omega

theorem nul_not_mem_socketAddress {name : String} (directory : Descriptor) (hn : nul ∉ ofString name) :
    nul ∉ (socketAddress directory name).bytes := by
  have hfront : nul ∉ ofString "/proc/self/fd/" := by decide
  have hslash : nul ∉ [slash] := by decide
  have hnumeral : nul ∉ ofString directory.repr := by
    rw [← decimal_eq_repr, Bytes.ofString_eq_flatMap, List.mem_flatMap]
    rintro ⟨c, hc, hnul⟩
    exact nul_not_mem_utf8EncodeChar (isNumeral_of_mem_decimal hc) hnul
  simp only [bytes_socketAddress, List.mem_append, not_or]
  exact ⟨⟨⟨hfront, hnumeral⟩, hslash⟩, hn⟩

section Refusal

variable {pid : Nat} {directory : Descriptor} {name : String} {m m' : Host.Machine} {e : Error}

theorem attempt_error {α : Type} {call : Host.Kernel α} {failure : Errno → Error}
    (h : Host.attempt call failure m = .error e m') : ∃ cause, e = failure cause := by
  unfold Host.attempt at h
  cases hc : call m with
  | ok a after => simp [hc] at h
  | error cause after =>
    rw [hc] at h
    exact ⟨cause, (EStateM.Result.error.inj h).1.symm⟩

/-- Whatever goes wrong with a call on the host, the error is that of the call. -/
theorem exists_fault_of_error {call : Call} (h : Host.perform pid call m = .error e m') :
    ∃ fault : call.Fault, e = call.failure fault := by
  cases call with
  | makeDirectory template => exact attempt_error h
  | openDirectory path =>
    simp only [Host.perform, Host.openDirectory] at h
    split at h
    · exact ⟨.nulInFileName, (EStateM.Result.error.inj h).1.symm⟩
    · obtain ⟨cause, he⟩ := attempt_error h
      exact ⟨.system cause, he⟩
  | listen directory name address =>
    simp only [Host.perform, Host.listenAt] at h
    split at h
    · exact ⟨(.address, .invalid), (EStateM.Result.error.inj h).1.symm⟩
    split at h
    · exact ⟨(.address, .nameTooLong), (EStateM.Result.error.inj h).1.symm⟩
    obtain hbind | ⟨entry, bound, -, h⟩ := Action.error_of_bind h
    · obtain ⟨cause, he⟩ := attempt_error hbind
      exact ⟨(.bind, cause), he⟩
    obtain hlisten | ⟨handle, listening, -, h⟩ := Action.error_of_bind h
    · obtain ⟨cause, he⟩ := attempt_error hlisten
      exact ⟨(.listen, cause), he⟩
    · cases h
  | publish announcement =>
    obtain hwrite | ⟨_, written, -, hclose⟩ := Action.error_of_bind h
    · obtain ⟨cause, he⟩ := attempt_error hwrite
      exact ⟨.stream (.system cause), he⟩
    · obtain ⟨cause, he⟩ := attempt_error hclose
      exact ⟨.closing cause, he⟩
  | accept listener => exact attempt_error h
  | unlink directory name => exact attempt_error h
  | send connection data =>
    obtain hsend | ⟨_, sent, -, h⟩ := Action.error_of_bind h
    · exact attempt_error hsend
    · cases h
  | close label descriptor => exact attempt_error h

theorem listenAt_error (hn : nul ∉ (socketAddress directory name).bytes)
    (hl : (socketAddress directory name).bytes.length < Host.addressLimit)
    (h : Host.listenAt pid directory name (socketAddress directory name) m = .error e m') :
    ∃ step ∈ [SetupStep.bind, .listen], ∃ cause, e = .socketSetup step name directory cause := by
  simp only [Host.listenAt, hn, if_false, Nat.not_le_of_lt hl] at h
  obtain hbind | ⟨entry, bound, -, h⟩ := Action.error_of_bind h
  · obtain ⟨cause, he⟩ := attempt_error hbind
    exact ⟨.bind, by decide, cause, he⟩
  obtain hlisten | ⟨handle, listening, -, h⟩ := Action.error_of_bind h
  · obtain ⟨cause, he⟩ := attempt_error hlisten
    exact ⟨.listen, by decide, cause, he⟩
  · cases h

theorem connectTo_error {failure : IoError → Error} (hn : nul ∉ (socketAddress directory name).bytes)
    (hl : (socketAddress directory name).bytes.length < Host.addressLimit)
    (h : Consumer.connectTo pid (socketAddress directory name) failure m = .error e m') :
    ∃ cause, e = failure (.system cause) := by
  simp only [Consumer.connectTo, hn, if_false, Nat.not_le_of_lt hl] at h
  exact attempt_error h

/-- Whatever becomes of a listener or a connection, it does not fail for an address that is made from a descriptor and a
short name. -/
theorem neither_side_is_refused_for_the_address (h0 : 0 ≤ directory) (hd : directory ≤ largestDescriptor)
    (hn : nul ∉ ofString name) (hl : name.utf8ByteSize ≤ 82) :
    (∀ e m', Host.listenAt pid directory name (socketAddress directory name) m = .error e m' →
        ∃ step ∈ [SetupStep.bind, .listen], ∃ cause, e = .socketSetup step name directory cause) ∧
      ∀ failure e m', Consumer.connectTo pid (socketAddress directory name) failure m = .error e m' →
        ∃ cause, e = failure (.system cause) := by
  have hnul := nul_not_mem_socketAddress directory hn
  have hlength : (socketAddress directory name).bytes.length < Host.addressLimit := by
    have hle := length_socketAddress_le (m := name) h0 hd
    have hlimit : Host.addressLimit = 108 := rfl
    omega
  exact ⟨fun e m' h => listenAt_error hnul hlength h, fun failure e m' h => connectTo_error hnul hlength h⟩

end Refusal

end Handover
