import Handover.Proofs.Codec

/-! # Announcements that are cut off or run on

A stream that stops within an announcement has some of its lines and a beginning of the next one. The lines are fine, so
the reader gets as far as that beginning and misses its end there; no cut leaves four lines, and a byte too many is
noticed after them. So a reader never takes for an announcement what is only a part of one, or more than one.
-/
namespace Handover

namespace Bytes

/-- A cut through lines goes through one of them, or comes right before its newline. -/
theorem exists_of_ofLines_eq_append {lines : List Bytes} {reached missing : Bytes}
    (h : ofLines lines = reached ++ missing) (hm : missing ≠ []) :
    ∃ earlier later start rest, lines = earlier ++ (start ++ rest) :: later ∧ reached = ofLines earlier ++ start := by
  induction lines generalizing reached with
  | nil =>
    obtain ⟨-, rfl⟩ := List.append_eq_nil_iff.mp h.symm
    exact absurd rfl hm
  | cons line lines ih =>
    rw [ofLines_cons] at h
    rcases List.append_eq_append_iff.mp h with ⟨after, rfl, hafter⟩ | ⟨rest, rfl, -⟩
    · cases after with
      | nil => exact ⟨[], lines, line, [], by simp, by simp⟩
      | cons b after =>
        obtain ⟨rfl, hlines⟩ := List.cons.inj hafter
        obtain ⟨earlier, later, start, rest, rfl, rfl⟩ := ih hlines
        exact ⟨line :: earlier, later, start, rest, rfl, by simp⟩
    · exact ⟨[], lines, reached, rest, rfl, rfl⟩

theorem ofLines_eq_nil_or_getLast? (lines : List Bytes) :
    ofLines lines = [] ∨ (ofLines lines).getLast? = some newline := by
  rcases List.eq_nil_or_concat lines with rfl | ⟨lines, line, rfl⟩
  · exact Or.inl rfl
  · refine Or.inr ?_
    rw [List.concat_eq_append, ofLines_append, ofLines_cons, ofLines_nil, ← List.append_assoc]
    exact List.getLast?_concat

theorem ends_with_line_iff {lines : List Bytes} {start : Bytes} (hs : newline ∉ start) :
    ofLines lines ++ start = [] ∨ (ofLines lines ++ start).getLast? = some newline ↔ start = [] := by
  constructor
  · rintro (h | h)
    · exact (List.append_eq_nil_iff.mp h).2
    · by_contra hne
      rw [List.getLast?_append_of_ne_nil _ hne] at h
      exact hs (List.mem_of_getLast? h)
  · rintro rfl
    rw [List.append_nil]
    exact ofLines_eq_nil_or_getLast? lines

end Bytes

namespace Announcement

open Bytes (newline slash ofString)

theorem Fine.of_append {lines more : List Bytes} (h : Fine (lines ++ more)) : Fine lines := by
  rintro before line after rfl
  exact h before line (after ++ more) (by simp)

theorem judge_begun {earlier : List Bytes} {start : Bytes} (hf : Fine earlier) (hlen : earlier.length < 4)
    (hs : newline ∉ start) : judge (Bytes.ofLines earlier ++ start) = .begun (earlier.length + 1) start := by
  have hleft : 3 - earlier.length + 1 + earlier.length = 4 := by omega
  rw [judge_fine hf hleft, judgeAfter, Bytes.breakLine_eq_none_iff.mpr hs]

theorem ofBytes_of_cut {lines : List Bytes} {reached missing : Bytes} (hf : Fine lines) (hlen : lines.length = 4)
    (h : Bytes.ofLines lines = reached ++ missing) (hm : missing ≠ []) :
    ofBytes reached = .error (malformed (1 + reached.count newline)
      (if reached = [] ∨ reached.getLast? = some newline then .endOfStream else .unterminated)) := by
  obtain ⟨earlier, later, start, rest, rfl, rfl⟩ := Bytes.exists_of_ofLines_eq_append h hm
  have hearlier : Fine earlier := hf.of_append
  have hline : newline ∉ start ++ rest := hf.newline_not_mem _ (by simp)
  have hstart : newline ∉ start := fun hn => hline (List.mem_append_left _ hn)
  have hlt : earlier.length < 4 := by
    rw [List.length_append, List.length_cons] at hlen
    omega
  have hcount : 1 + (Bytes.ofLines earlier ++ start).count newline = earlier.length + 1 := by
    rw [List.count_append, hearlier.count_newline, List.count_eq_zero.mpr hstart]
    omega
  rw [ofBytes_eq, judge_begun hearlier hlt hstart, hcount, if_congr (Bytes.ends_with_line_iff hstart) rfl rfl]
  rfl

theorem ofBytes_of_more {lines : List Bytes} {more : Bytes} (hf : Fine lines) (hlen : lines.length = 4)
    (hm : more ≠ []) : ofBytes (Bytes.ofLines lines ++ more) = .error (malformed 5 .trailing) := by
  cases more with
  | nil => exact absurd rfl hm
  | cons b more => exact (Flawed.trailing hf hlen).ofBytes_eq

/-- Whatever a writer does, a beginning of the announcement reaches the stream, and writing succeeds exactly if that is
all of it and the stream can be flushed. A proper beginning is rejected in the line in which it stops, and anything that
follows the announcement in the fifth. So the only stream to be accepted that begins with an announcement is the
announcement. -/
theorem no_part_passes_for_the_whole {d : Path} {a : Announcement} (ha : ofDirectory d = .ok a)
    (hroot : d.bytes.head? = some slash) :
    (∀ w : Writer, ∃ reached missing, a.wire = reached ++ missing ∧
      (a.writeTo w).2.written = w.written ++ reached ∧
      ((a.writeTo w).1 = .ok () ↔ missing = [] ∧ w.flushFailure = none)) ∧
      (∀ reached missing, a.wire = reached ++ missing → missing ≠ [] →
        ofBytes reached = .error (.malformedAnnouncement (1 + reached.count newline)
          (if reached = [] ∨ reached.getLast? = some newline then "unexpected end of announcement"
            else "line is not newline-terminated"))) ∧
      (∀ more, more ≠ [] →
        ofBytes (a.wire ++ more) = .error (.malformedAnnouncement 5 "unexpected data after announcement")) ∧
      ∀ stream b, a.wire <+: stream → ofBytes stream = .ok b → stream = a.wire := by
  obtain ⟨hd, rfl⟩ := ofDirectory_eq_ok_iff.mp ha
  have hf : Fine (layout d).lines := fine_lines hd hroot
  have hmore : ∀ more, more ≠ [] → ofBytes ((layout d).wire ++ more) = .error (malformed 5 .trailing) := fun _ hm =>
    ofBytes_of_more hf rfl hm
  refine ⟨fun w => ?_, fun reached missing hw hm => ?_, hmore, ?_⟩
  · obtain ⟨reached, missing, hwire, hwritten, -, hok, -⟩ := (layout d).writeTo_written w
    exact ⟨reached, missing, hwire, hwritten, hok⟩
  · have hcut := ofBytes_of_cut hf rfl hw hm
    rw [malformed, apply_ite Defect.text] at hcut
    exact hcut
  · rintro stream b ⟨more, rfl⟩ hb
    by_contra hne
    have hm : more ≠ [] := fun he => hne (by rw [he, List.append_nil])
    rw [hmore more hm] at hb
    simp at hb

/-- The closing word lacks a letter, or only its newline; or nothing has come of the third line. -/
theorem no_part_of_run_x_passes :
    ofDirectory (Path.ofString "/run/x") = .ok (layout (Path.ofString "/run/x")) ∧
      (Path.ofString "/run/x").bytes.head? = some slash ∧
      ofBytes (ofString "/run/x\n/run/x/data\n/run/x/pass\ndon") =
        .error (.malformedAnnouncement 4 "line is not newline-terminated") ∧
      ofBytes (ofString "/run/x\n/run/x/data\n/run/x/pass\ndone") =
        .error (.malformedAnnouncement 4 "line is not newline-terminated") ∧
      ofBytes (ofString "/run/x\n/run/x/data\n") =
        .error (.malformedAnnouncement 3 "unexpected end of announcement") := by
  have ha : ofDirectory (Path.ofString "/run/x") = .ok (layout (Path.ofString "/run/x")) := by decide
  have hroot : (Path.ofString "/run/x").bytes.head? = some slash := by decide
  obtain ⟨-, hcut, -⟩ := no_part_passes_for_the_whole ha hroot
  exact ⟨ha, hroot, hcut _ (ofString "e\n") (by decide) (by decide), hcut _ (ofString "\n") (by decide) (by decide),
    hcut _ (ofString "/run/x/pass\ndone\n") (by decide) (by decide)⟩

end Announcement

end Handover
