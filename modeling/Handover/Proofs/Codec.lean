import Handover.Proofs.Deliveries
import Handover.Proofs.Spelling
import Handover.Proofs.Writing

/-! # What is read back

A stream is accepted exactly if its lines are a directory, its two sockets in any of their spellings and the closing
word; what is read is then the announcement of that directory, however the sockets were spelt. An announcement of an
absolute directory is such a stream itself, so it is read back as it was written, and the directory can be told from the
stream.
-/
namespace Handover.Announcement

open Bytes (newline slash ofString)

section Lines

variable {directory data pass closing line : Bytes}

theorem defect?_first_eq_none_iff : defect? [] line = none ↔ line ≠ [] ∧ line.head? = some slash := by
  by_cases hl : line = []
  · simp [hl, defect?_nil]
  · simp [defect?, hl, Path.isAbsolute]

theorem defect?_second_eq_none_iff :
    defect? [directory] line = none ↔ line ≠ [] ∧ (Path.mk line).Same ((Path.mk directory).join (ofString dataName)) := by
  by_cases hl : line = []
  · simp [hl, defect?_nil]
  · by_cases hs : (Path.mk line).Same ((Path.mk directory).join (ofString dataName)) <;> simp_all [defect?, dataName]

theorem defect?_third_eq_none_iff :
    defect? [directory, data] line = none ↔
      line ≠ [] ∧ (Path.mk line).Same ((Path.mk directory).join (ofString passName)) := by
  by_cases hl : line = []
  · simp [hl, defect?_nil]
  · by_cases hs : (Path.mk line).Same ((Path.mk directory).join (ofString passName)) <;> simp_all [defect?, passName]

theorem defect?_fourth_eq_none_iff : defect? [directory, data, pass] line = none ↔ line = ofString doneToken := by
  by_cases hl : line = []
  · subst hl
    simp only [defect?_nil, reduceCtorEq, false_iff]
    decide
  · simp [defect?, hl, doneToken]

theorem fine_iff :
    Fine [directory, data, pass, closing] ↔
      (∀ line ∈ [directory, data, pass], line ≠ [] ∧ newline ∉ line) ∧ directory.head? = some slash ∧
        (Path.mk data).Same ((Path.mk directory).join (ofString dataName)) ∧
        (Path.mk pass).Same ((Path.mk directory).join (ofString passName)) ∧ closing = ofString doneToken := by
  constructor
  · intro h
    obtain ⟨hnd, hd⟩ := h [] directory [data, pass, closing] rfl
    obtain ⟨hna, ha⟩ := h [directory] data [pass, closing] rfl
    obtain ⟨hnp, hp⟩ := h [directory, data] pass [closing] rfl
    obtain ⟨-, hc⟩ := h [directory, data, pass] closing [] rfl
    rw [defect?_first_eq_none_iff] at hd
    rw [defect?_second_eq_none_iff] at ha
    rw [defect?_third_eq_none_iff] at hp
    exact ⟨forall_mem_triple.mpr ⟨⟨hd.1, hnd⟩, ⟨ha.1, hna⟩, hp.1, hnp⟩, hd.2, ha.2, hp.2, defect?_fourth_eq_none_iff.mp hc⟩
  · rintro ⟨hlines, hroot, hdata, hpass, rfl⟩
    obtain ⟨⟨hd, hnd⟩, ⟨ha, hna⟩, hp, hnp⟩ := forall_mem_triple.mp hlines
    have hone := fine_nil.snoc hnd (defect?_first_eq_none_iff.mpr ⟨hd, hroot⟩)
    have htwo := hone.snoc hna (defect?_second_eq_none_iff.mpr ⟨ha, hdata⟩)
    have hthree := htwo.snoc hnp (defect?_third_eq_none_iff.mpr ⟨hp, hpass⟩)
    have hnc : newline ∉ ofString doneToken := by decide
    exact hthree.snoc hnc (defect?_fourth_eq_none_iff.mpr rfl)

theorem judge_eq_complete_iff {stream : Bytes} {lines : List Bytes} :
    judge stream = .complete lines ↔ lines.length = 4 ∧ Fine lines ∧ stream = Bytes.ofLines lines := by
  constructor
  · intro h
    obtain ⟨found, hlen, hf, rfl⟩ := complete_iff.mpr ⟨lines, h⟩
    obtain rfl : found = lines := Verdict.complete.inj ((judge_ofLines hf hlen).symm.trans h)
    exact ⟨hlen, hf, rfl⟩
  · rintro ⟨hlen, hf, rfl⟩
    exact judge_ofLines hf hlen

theorem Verdict.conclude_eq_ok_iff {verdict : Verdict} {a : Announcement} :
    verdict.conclude none = .ok a ↔ ∃ lines, verdict = .complete lines ∧ a = layout ⟨lines.headD []⟩ := by
  cases verdict with
  | flawed n defect => simp [conclude]
  | begun n rest => simp [conclude]
  | complete lines => simp [conclude, eq_comm]

theorem ofBytes_eq_ok_iff {stream : Bytes} {a : Announcement} :
    ofBytes stream = .ok a ↔
      ∃ lines, (lines.length = 4 ∧ Fine lines ∧ stream = Bytes.ofLines lines) ∧ a = layout ⟨lines.headD []⟩ := by
  rw [ofBytes_eq, Verdict.conclude_eq_ok_iff]
  simp only [judge_eq_complete_iff]

end Lines

section Wire

variable {d : Path}

theorem newline_not_mem_join {name : Bytes} (hd : newline ∉ d.bytes) (hn : newline ∉ name) :
    newline ∉ (d.join name).bytes := by
  unfold Path.join
  split
  · exact hn
  · simp only [List.mem_append, not_or]
    exact ⟨⟨hd, Path.newline_not_mem_separator d.bytes⟩, hn⟩

theorem newline_not_mem_lines (hd : newline ∉ d.bytes) : ∀ line ∈ (layout d).lines, newline ∉ line := by
  have hdata : newline ∉ ofString dataName := by decide
  have hpass : newline ∉ ofString passName := by decide
  have hdone : newline ∉ ofString doneToken := by decide
  refine List.forall_mem_cons.mpr ⟨hd, forall_mem_triple.mpr ⟨?_, ?_, hdone⟩⟩
  · exact newline_not_mem_join hd hdata
  · exact newline_not_mem_join hd hpass

theorem wire_eq (d : Path) : (layout d).wire = Bytes.ofLines (layout d).lines := rfl

theorem count_newline_wire (hd : newline ∉ d.bytes) : (layout d).wire.count newline = 4 :=
  Bytes.count_newline_ofLines (newline_not_mem_lines hd)

theorem fine_lines (hd : newline ∉ d.bytes) (hroot : d.bytes.head? = some slash) : Fine (layout d).lines := by
  have hlines := newline_not_mem_lines hd
  have hne : d.bytes ≠ [] := by
    intro hnil
    simp [hnil] at hroot
  have hjoin : ∀ name : Bytes, (Path.mk name).isAbsolute = false → (d.join name).bytes ≠ [] := by
    intro name hname
    rw [Path.join_of_relative hname]
    exact List.append_ne_nil_of_left_ne_nil (List.append_ne_nil_of_left_ne_nil hne _) _
  obtain ⟨hdata, hpass, -⟩ := forall_mem_triple.mp (List.forall_mem_cons.mp hlines).2
  refine fine_iff.mpr ⟨?_, hroot, Path.same_refl _, Path.same_refl _, rfl⟩
  exact forall_mem_triple.mpr ⟨⟨hne, hd⟩, ⟨hjoin _ rfl, hdata⟩, hjoin _ rfl, hpass⟩

theorem ofBytes_wire (hd : newline ∉ d.bytes) (hroot : d.bytes.head? = some slash) :
    ofBytes (layout d).wire = .ok (layout d) :=
  ofBytes_eq_ok_iff.mpr ⟨(layout d).lines, ⟨rfl, fine_lines hd hroot, rfl⟩, rfl⟩

end Wire

/-- The lines of a stream that announces `directory`. The sockets may be spelt in any way. -/
structure Grammatical (directory data pass stream : Bytes) : Prop where
  stream_eq : stream =
    directory ++ [newline] ++ data ++ [newline] ++ pass ++ [newline] ++ ofString "done" ++ [newline]
  lines : ∀ line ∈ [directory, data, pass], line ≠ [] ∧ newline ∉ line
  rooted : directory.head? = some slash
  data_spelt : Path.Respelled data ((Path.mk directory).join (ofString "data")).bytes
  pass_spelt : Path.Respelled pass ((Path.mk directory).join (ofString "pass")).bytes

theorem grammatical_iff {directory data pass stream : Bytes} :
    Grammatical directory data pass stream ↔
      Fine [directory, data, pass, ofString doneToken] ∧
        stream = Bytes.ofLines [directory, data, pass, ofString doneToken] := by
  have hs : Bytes.ofLines [directory, data, pass, ofString doneToken] =
      directory ++ [newline] ++ data ++ [newline] ++ pass ++ [newline] ++ ofString "done" ++ [newline] := by
    simp [doneToken]
  rw [fine_iff, hs]
  constructor
  · rintro ⟨hstream, hlines, hroot, hdata, hpass⟩
    exact ⟨⟨hlines, hroot, Path.same_iff_respelled.mpr hdata, Path.same_iff_respelled.mpr hpass, rfl⟩, hstream⟩
  · rintro ⟨⟨hlines, hroot, hdata, hpass, -⟩, hstream⟩
    exact ⟨hstream, hlines, hroot, Path.same_iff_respelled.mp hdata, Path.same_iff_respelled.mp hpass⟩

/-- A stream is accepted exactly if it is grammatical. The announcement that is read is that of the directory in the
first line, byte for byte, whatever the spelling of the sockets; written again it is read back as it is. -/
theorem accepted_streams_are_the_grammatical_ones (stream : Bytes) :
    ((∃ a, ofBytes stream = .ok a) ↔ ∃ directory data pass, Grammatical directory data pass stream) ∧
      ∀ directory data pass, Grammatical directory data pass stream →
        ∃ a, ofDirectory ⟨directory⟩ = .ok a ∧ ofBytes stream = .ok a ∧ a.directory.bytes = directory ∧
          a.dataSocket = (Path.mk directory).join (ofString "data") ∧
          a.passSocket = (Path.mk directory).join (ofString "pass") ∧
          (∀ w : Writer, w.Willing → w.HasRoom a.wire.length → w.flushFailure = none → (a.writeTo w).1 = .ok ()) ∧
          ∀ w : Writer, (a.writeTo w).1 = .ok () →
            ∃ again, (a.writeTo w).2.written = w.written ++ again ∧ ofBytes again = .ok a := by
  have haccepted : ∀ {directory data pass}, Grammatical directory data pass stream →
      ofBytes stream = .ok (layout ⟨directory⟩) := by
    intro directory data pass h
    obtain ⟨hf, hs⟩ := grammatical_iff.mp h
    exact ofBytes_eq_ok_iff.mpr ⟨_, ⟨rfl, hf, hs⟩, rfl⟩
  refine ⟨⟨?_, ?_⟩, ?_⟩
  · rintro ⟨a, ha⟩
    obtain ⟨lines, ⟨hlen, hf, hs⟩, -⟩ := ofBytes_eq_ok_iff.mp ha
    obtain ⟨directory, data, pass, closing, rfl⟩ := List.length_eq_four.mp hlen
    obtain rfl : closing = ofString doneToken := (fine_iff.mp hf).2.2.2.2
    exact ⟨directory, data, pass, grammatical_iff.mpr ⟨hf, hs⟩⟩
  · rintro ⟨directory, data, pass, h⟩
    exact ⟨_, haccepted h⟩
  · intro directory data pass h
    have hd : newline ∉ directory := (forall_mem_triple.mp h.lines).1.2
    refine ⟨layout ⟨directory⟩, ofDirectory_eq_ok_iff.mpr ⟨hd, rfl⟩, haccepted h, rfl, rfl, rfl, ?_, ?_⟩
    · intro w hw hr hf
      exact writeTo_of_room _ hw hr hf
    · intro w hw
      exact ⟨_, written_of_writeTo hw, ofBytes_wire hd h.rooted⟩

/-- The sockets are spelt with a slash too many at the end and with a needless `.`. -/
example : ofBytes (ofString "/a\n/a/data/\n/a/./pass\ndone\n") = .ok (layout (Path.ofString "/a")) := by
  decide

theorem wire_eq_directory_append (d : Path) : ∃ tail, (layout d).wire = d.bytes ++ newline :: tail :=
  ⟨_, (wire_eq d).trans (Bytes.ofLines_cons _ _)⟩

theorem bytes_eq_of_wire_eq {d other : Path} (hd : newline ∉ d.bytes) (ho : newline ∉ other.bytes)
    (h : (layout other).wire = (layout d).wire) : other.bytes = d.bytes := by
  obtain ⟨tail, ht⟩ := wire_eq_directory_append d
  obtain ⟨tail', ht'⟩ := wire_eq_directory_append other
  have hfirst := congrArg Bytes.breakLine h
  rw [ht, ht', Bytes.breakLine_line hd, Bytes.breakLine_line ho] at hfirst
  exact (Prod.mk.inj (Option.some.inj hfirst)).1

/-- A directory with something wrong about it is rejected in the first line. -/
theorem ofBytes_wire_of_defect {d : Path} {defect : Defect} (hd : newline ∉ d.bytes)
    (h : defect? [] d.bytes = some defect) : ofBytes (layout d).wire = .error (malformed 1 defect) := by
  obtain ⟨tail, ht⟩ := wire_eq_directory_append d
  have hf : Flawed (layout d).wire 1 defect := ht ▸ .line fine_nil (by decide) hd h
  exact hf.ofBytes_eq

theorem ofBytes_wire_isOk_iff {d : Path} (hd : newline ∉ d.bytes) :
    (∃ a, ofBytes (layout d).wire = .ok a) ↔ d.bytes.head? = some slash := by
  constructor
  · rintro ⟨a, ha⟩
    by_contra hroot
    have hdefect : ∃ defect, defect? [] d.bytes = some defect := by
      refine Option.ne_none_iff_exists'.mp fun hn => hroot ?_
      exact (defect?_first_eq_none_iff.mp hn).2
    obtain ⟨defect, h⟩ := hdefect
    rw [ofBytes_wire_of_defect hd h] at ha
    simp at ha
  · intro hroot
    exact ⟨_, ofBytes_wire hd hroot⟩

/-- A directory can be announced exactly if its path has no newline. What is written for it has four, and is read back
as the same announcement exactly if the directory is absolute; otherwise the first line is at fault. Different
directories are announced differently. -/
theorem announcements_are_read_back (d : Path) :
    ((∃ e, ofDirectory d = .error e) ↔ newline ∈ d.bytes) ∧
      (∀ e, ofDirectory d = .error e → e = .unannounceablePath d) ∧
      (newline ∉ d.bytes → ∃ a, ofDirectory d = .ok a ∧
        (∀ w : Writer, w.Willing → w.HasRoom a.wire.length → w.flushFailure = none → (a.writeTo w).1 = .ok ()) ∧
        (∀ w : Writer, (a.writeTo w).1 = .ok () → (a.writeTo w).2.written = w.written ++ a.wire) ∧
        a.wire.count newline = 4 ∧
        ((∃ b, ofBytes a.wire = .ok b) ↔ d.bytes.head? = some slash) ∧
        (∀ b, ofBytes a.wire = .ok b →
          b.directory.bytes = a.directory.bytes ∧ b.dataSocket.bytes = a.dataSocket.bytes ∧
            b.passSocket.bytes = a.passSocket.bytes) ∧
        (d.bytes = [] → ofBytes a.wire = .error (.malformedAnnouncement 1 "empty line")) ∧
        (d.bytes ≠ [] → d.bytes.head? ≠ some slash →
          ofBytes a.wire = .error (.malformedAnnouncement 1 "directory is not an absolute path")) ∧
        ∀ other b, ofDirectory other = .ok b → b.wire = a.wire → other.bytes = d.bytes) := by
  have herror : ∀ e, ofDirectory d = .error e → newline ∈ d.bytes ∧ e = .unannounceablePath d := fun e he =>
    ofDirectory_eq_error_iff.mp he
  refine ⟨⟨fun ⟨e, he⟩ => (herror e he).1, fun hd => ⟨_, ofDirectory_eq_error_iff.mpr ⟨hd, rfl⟩⟩⟩,
    fun e he => (herror e he).2, fun hd => ?_⟩
  refine ⟨layout d, ofDirectory_eq_ok_iff.mpr ⟨hd, rfl⟩, fun w => writeTo_of_room _, fun w => written_of_writeTo,
    count_newline_wire hd, ofBytes_wire_isOk_iff hd, ?_, ?_, ?_, ?_⟩
  · intro b hb
    have hroot := (ofBytes_wire_isOk_iff hd).mp ⟨b, hb⟩
    obtain rfl : layout d = b := Except.ok.inj ((ofBytes_wire hd hroot).symm.trans hb)
    exact ⟨rfl, rfl, rfl⟩
  · intro hnil
    have hdefect : defect? [] d.bytes = some .empty := by rw [hnil, defect?_nil]
    exact ofBytes_wire_of_defect hd hdefect
  · intro hne hroot
    have hdefect : defect? [] d.bytes = some .relativeDirectory := by simp [defect?, hne, Path.isAbsolute, hroot]
    exact ofBytes_wire_of_defect hd hdefect
  · intro other b hb hwire
    obtain ⟨ho, rfl⟩ := ofDirectory_eq_ok_iff.mp hb
    exact bytes_eq_of_wire_eq hd ho hwire

end Handover.Announcement
