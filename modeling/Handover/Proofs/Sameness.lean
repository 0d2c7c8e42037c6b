import Handover.Proofs.Codec

/-! # When two announcements are the same

Announcements are compared by their three paths. Since the sockets are names below the directory, each of these
comparisons says the same as the one of the directories: no two spellings of one directory are told apart by a socket,
and no two directories are mixed up. What is written may differ all the same, as it keeps the spelling.
-/
namespace Handover.Announcement

open Bytes (newline slash ofString)

theorem dataName_isEntry : Path.IsEntry (ofString dataName) := by decide

theorem passName_isEntry : Path.IsEntry (ofString passName) := by decide

theorem same_equivalence : Equivalence Same where
  refl _ := ⟨Path.same_refl _, Path.same_refl _, Path.same_refl _⟩
  symm h := ⟨Path.same_symm h.1, Path.same_symm h.2.1, Path.same_symm h.2.2⟩
  trans h h' := ⟨Path.same_trans h.1 h'.1, Path.same_trans h.2.1 h'.2.1, Path.same_trans h.2.2 h'.2.2⟩

theorem layout_same_iff {a b : Path} : (layout a).Same (layout b) ↔ a.Same b := by
  constructor
  · intro h
    exact h.1
  · intro h
    exact ⟨h, (Path.same_join_iff dataName_isEntry).mpr h, (Path.same_join_iff passName_isEntry).mpr h⟩

/-- Only the empty path has no other spelling. -/
theorem exists_other_spelling {d : Path} (hn : newline ∉ d.bytes) (hd : d.bytes ≠ []) :
    ∃ other, newline ∉ other.bytes ∧ d.Same other ∧ other.bytes ≠ d.bytes := by
  have hnewline : newline ∉ [slash] := by decide
  refine ⟨⟨d.bytes ++ [slash]⟩, ?_, ?_, ?_⟩
  · simp only [List.mem_append, not_or]
    exact ⟨hn, hnewline⟩
  · exact Path.same_symm (Path.Shortens.finalSlash hd).respelled.same
  · simp

/-- Two announcements are the same exactly if their directories are spellings of one path, and so are the sockets `data`
below them, and so are the sockets `pass`. It is an equivalence, and a directory with bytes in its path has another
announcement that is the same and goes over the stream as something else. -/
theorem announcements_are_the_same_for_one_directory {a b : Path} (ha : newline ∉ a.bytes) (hb : newline ∉ b.bytes) :
    Equivalence Same ∧ ∃ x y, ofDirectory a = .ok x ∧ ofDirectory b = .ok y ∧
      (x.dataSocket = a.join (ofString "data") ∧ x.passSocket = a.join (ofString "pass") ∧
        y.dataSocket = b.join (ofString "data") ∧ y.passSocket = b.join (ofString "pass")) ∧
      (x.Same y ↔ a.Same b) ∧ (x.Same y ↔ Path.Respelled a.bytes b.bytes) ∧
      (x.Same y ↔ x.dataSocket.Same y.dataSocket) ∧ (x.Same y ↔ x.passSocket.Same y.passSocket) ∧
      (a.bytes ≠ [] → ∃ other z, ofDirectory other = .ok z ∧ x.Same z ∧ z.wire ≠ x.wire) := by
  have hsame : (layout a).Same (layout b) ↔ a.Same b := layout_same_iff
  refine ⟨same_equivalence, layout a, layout b, ofDirectory_eq_ok_iff.mpr ⟨ha, rfl⟩,
    ofDirectory_eq_ok_iff.mpr ⟨hb, rfl⟩, ⟨rfl, rfl, rfl, rfl⟩, hsame, hsame.trans Path.same_iff_respelled,
    hsame.trans (Path.same_join_iff dataName_isEntry).symm, hsame.trans (Path.same_join_iff passName_isEntry).symm,
    fun hne => ?_⟩
  obtain ⟨other, ho, hspelt, hdiffers⟩ := exists_other_spelling ha hne
  refine ⟨other, layout other, ofDirectory_eq_ok_iff.mpr ⟨ho, rfl⟩, layout_same_iff.mpr hspelt, fun hwire => ?_⟩
  exact hdiffers (bytes_eq_of_wire_eq ha ho hwire)

/-- Slashes and dots that do not count, at every place where there can be some. -/
theorem announcements_of_run_x_are_the_same :
    let a := Path.ofString "/run/x"
    let b := Path.ofString "//run/.//x/."
    newline ∉ a.bytes ∧ newline ∉ b.bytes ∧ ∃ x y, ofDirectory a = .ok x ∧ ofDirectory b = .ok y ∧ x.Same y := by
  intro a b
  have ha : newline ∉ a.bytes := by decide
  have hb : newline ∉ b.bytes := by decide
  have hab : a.Same b := by decide
  obtain ⟨-, x, y, hx, hy, -, hsame, -⟩ := announcements_are_the_same_for_one_directory ha hb
  exact ⟨ha, hb, x, y, hx, hy, hsame.mpr hab⟩

/-- A dot at the start of a relative path counts, and so do two dots wherever they are. -/
example : ¬ (layout (Path.ofString "./a")).Same (layout (Path.ofString "a")) ∧
    ¬ (layout (Path.ofString ".")).Same (layout (Path.ofString "")) ∧
    ¬ (layout (Path.ofString "a/..")).Same (layout (Path.ofString "")) ∧
    (layout (Path.ofString "a/.")).Same (layout (Path.ofString "a")) ∧
    (layout (Path.ofString "///")).Same (layout (Path.ofString "/")) := by
  decide

end Handover.Announcement
