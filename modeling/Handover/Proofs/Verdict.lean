import Handover.Announcement.Reader
import Handover.Proofs.Splits

/-! # What a stream says by itself

Each line of a stream is judged by those before it. A stream is flawed when a line that is wrong has come to its end, or
when something follows the fourth line; more bytes do not mend that. It is complete when it is four fine lines and
nothing else. Going through its lines one by one decides which of the two it is, if any.
-/
namespace Handover

namespace Bytes

theorem breakLine_line {line : Bytes} (hl : newline ∉ line) (tail : Bytes) :
    breakLine (line ++ newline :: tail) = some (line, tail) :=
  breakLine_eq_some_iff.mpr ⟨rfl, hl⟩

def ofLines (lines : List Bytes) : Bytes := lines.flatMap (· ++ [newline])

@[simp] theorem ofLines_nil : ofLines [] = [] := rfl

@[simp] theorem ofLines_cons (line : Bytes) (lines : List Bytes) :
    ofLines (line :: lines) = line ++ newline :: ofLines lines := by
  simp [ofLines]

@[simp] theorem ofLines_append (lines more : List Bytes) : ofLines (lines ++ more) = ofLines lines ++ ofLines more :=
  List.flatMap_append

theorem count_newline_ofLines {lines : List Bytes} (h : ∀ line ∈ lines, newline ∉ line) :
    (ofLines lines).count newline = lines.length := by
  induction lines with
  | nil => rfl
  | cons line lines ih =>
    have hline : line.count newline = 0 := List.count_eq_zero.mpr (h line (List.mem_cons_self ..))
    have hlines := ih fun other hm => h other (List.mem_cons_of_mem _ hm)
    rw [ofLines_cons, List.count_append, List.count_cons_self, hlines, hline, List.length_cons]
    omega

end Bytes

namespace Announcement

def defect? (earlier : List Bytes) (line : Bytes) : Option Defect :=
  if line = [] then some .empty
  else match earlier with
    | [] => if (Path.mk line).isAbsolute then none else some .relativeDirectory
    | [directory] =>
      let expected := (Path.mk directory).join (Bytes.ofString "data")
      if (Path.mk line).Same expected then none else some (.otherPath expected)
    | [directory, _] =>
      let expected := (Path.mk directory).join (Bytes.ofString "pass")
      if (Path.mk line).Same expected then none else some (.otherPath expected)
    | _ => if line = Bytes.ofString "done" then none else some .notDone

theorem defect?_nil (earlier : List Bytes) : defect? earlier [] = some .empty := by
  simp [defect?]

def Fine (lines : List Bytes) : Prop :=
  ∀ before line after, lines = before ++ line :: after → Bytes.newline ∉ line ∧ defect? before line = none

theorem fine_nil : Fine [] := by
  intro before line after h
  simp at h

theorem Fine.snoc {lines : List Bytes} {line : Bytes} (h : Fine lines) (hl : Bytes.newline ∉ line)
    (hd : defect? lines line = none) : Fine (lines ++ [line]) :=
  forall_split_snoc h ⟨hl, hd⟩

theorem Fine.newline_not_mem {lines : List Bytes} (h : Fine lines) : ∀ line ∈ lines, Bytes.newline ∉ line := by
  intro line hm
  obtain ⟨before, after, hs⟩ := List.append_of_mem hm
  exact (h before line after hs).1

theorem Fine.count_newline {lines : List Bytes} (h : Fine lines) :
    (Bytes.ofLines lines).count Bytes.newline = lines.length :=
  Bytes.count_newline_ofLines h.newline_not_mem

/-- Four fine lines and nothing else. -/
def Complete (stream : Bytes) : Prop := ∃ lines, lines.length = 4 ∧ Fine lines ∧ stream = Bytes.ofLines lines

/-- The first line that is wrong, and what is wrong with it. A fifth line is wrong from its first byte on, the others
when they have ended. -/
inductive Flawed : Bytes → Nat → Defect → Prop where
  | line {earlier : List Bytes} {line tail : Bytes} {defect : Defect} : Fine earlier → earlier.length < 4 →
      Bytes.newline ∉ line → defect? earlier line = some defect →
      Flawed (Bytes.ofLines earlier ++ (line ++ Bytes.newline :: tail)) (earlier.length + 1) defect
  | trailing {earlier : List Bytes} {b : UInt8} {tail : Bytes} : Fine earlier → earlier.length = 4 →
      Flawed (Bytes.ofLines earlier ++ b :: tail) 5 .trailing

/-- Nothing mends a flaw. -/
theorem Flawed.append {stream : Bytes} {n : Nat} {defect : Defect} (h : Flawed stream n defect) (more : Bytes) :
    Flawed (stream ++ more) n defect := by
  cases h with
  | line hf hlt hl hd =>
    rw [List.append_assoc, List.append_assoc, List.cons_append]
    exact .line hf hlt hl hd
  | trailing hf hlen =>
    rw [List.append_assoc, List.cons_append]
    exact .trailing hf hlen

inductive Verdict where
  | flawed (line : Nat) (defect : Defect)
  /-- Fine up to the line that has this beginning and no end. -/
  | begun (line : Nat) (rest : Bytes)
  | complete (lines : List Bytes)

/-- Judges what comes after `earlier`, where there are `left` more lines to come. -/
def judgeAfter : Nat → List Bytes → Bytes → Verdict
  | 0, earlier, [] => .complete earlier
  | 0, earlier, _ :: _ => .flawed (earlier.length + 1) .trailing
  | left + 1, earlier, rest => match rest.breakLine with
    | none => .begun (earlier.length + 1) rest
    | some (line, tail) => match defect? earlier line with
      | some defect => .flawed (earlier.length + 1) defect
      | none => judgeAfter left (earlier ++ [line]) tail

def judge (stream : Bytes) : Verdict := judgeAfter 4 [] stream

theorem judgeAfter_line {left : Nat} {earlier : List Bytes} {line : Bytes} (hl : Bytes.newline ∉ line) (tail : Bytes) :
    judgeAfter (left + 1) earlier (line ++ Bytes.newline :: tail) =
      match defect? earlier line with
      | some defect => .flawed (earlier.length + 1) defect
      | none => judgeAfter left (earlier ++ [line]) tail := by
  rw [judgeAfter, Bytes.breakLine_line hl]

theorem judgeAfter_fine {left : Nat} {earlier more : List Bytes} {rest : Bytes} (h : Fine (earlier ++ more)) :
    judgeAfter (left + more.length) earlier (Bytes.ofLines more ++ rest) = judgeAfter left (earlier ++ more) rest := by
  induction more generalizing earlier with
  | nil => simp
  | cons line more ih =>
    obtain ⟨hl, hd⟩ := h earlier line more rfl
    have hf : Fine (earlier ++ [line] ++ more) := by rwa [List.append_assoc, List.singleton_append]
    rw [List.length_cons, Bytes.ofLines_cons, List.append_assoc, List.cons_append, ← Nat.add_assoc, judgeAfter_line hl,
      hd]
    exact (ih hf).trans (by rw [List.append_assoc, List.singleton_append])

theorem judge_fine {left : Nat} {lines : List Bytes} {rest : Bytes} (h : Fine lines) (hlen : left + lines.length = 4) :
    judge (Bytes.ofLines lines ++ rest) = judgeAfter left lines rest := by
  have hf : Fine ([] ++ lines) := h
  rw [judge, ← hlen]
  exact judgeAfter_fine hf

theorem judge_ofLines {lines : List Bytes} (h : Fine lines) (hlen : lines.length = 4) :
    judge (Bytes.ofLines lines) = .complete lines := by
  have hj : judge (Bytes.ofLines lines ++ []) = judgeAfter 0 lines [] := judge_fine h ((Nat.zero_add _).trans hlen)
  rwa [List.append_nil] at hj

theorem Complete.judge_eq {stream : Bytes} (h : Complete stream) : ∃ lines, judge stream = .complete lines := by
  obtain ⟨lines, hlen, hf, rfl⟩ := h
  exact ⟨lines, judge_ofLines hf hlen⟩

theorem Flawed.judge_eq {stream : Bytes} {n : Nat} {defect : Defect} (h : Flawed stream n defect) :
    judge stream = .flawed n defect := by
  cases h with
  | line hf hlt hl hd =>
    rename_i earlier line tail
    have hlen : 3 - earlier.length + 1 + earlier.length = 4 := by omega
    rw [judge_fine hf hlen, judgeAfter_line hl, hd]
  | trailing hf hlen =>
    rename_i earlier b tail
    rw [judge_fine hf ((Nat.zero_add _).trans hlen), judgeAfter, hlen]

/-- A verdict on the rest is one on the whole. -/
theorem judgeAfter_sound {left : Nat} {earlier : List Bytes} (rest : Bytes) (hf : Fine earlier)
    (hlen : left + earlier.length = 4) :
    (∀ lines, judgeAfter left earlier rest = .complete lines → Complete (Bytes.ofLines earlier ++ rest)) ∧
      ∀ n defect, judgeAfter left earlier rest = .flawed n defect →
        Flawed (Bytes.ofLines earlier ++ rest) n defect := by
  induction left generalizing earlier rest with
  | zero =>
    have hfour : earlier.length = 4 := by omega
    cases rest with
    | nil =>
      refine ⟨fun lines _ => ⟨earlier, hfour, hf, List.append_nil _⟩, fun n defect hj => ?_⟩
      simp [judgeAfter] at hj
    | cons b tail =>
      refine ⟨fun lines hj => ?_, fun n defect hj => ?_⟩
      · simp [judgeAfter] at hj
      · obtain ⟨rfl, rfl⟩ : earlier.length + 1 = n ∧ Defect.trailing = defect := by simpa [judgeAfter] using hj
        rw [hfour]
        exact .trailing hf hfour
  | succ left ih =>
    cases hb : rest.breakLine with
    | none => simp [judgeAfter, hb]
    | some found =>
      obtain ⟨line, tail⟩ := found
      obtain ⟨rfl, hl⟩ := Bytes.breakLine_eq_some_iff.mp hb
      rw [judgeAfter_line hl]
      cases hd : defect? earlier line with
      | some wrong =>
        refine ⟨fun lines hj => by simp at hj, fun n defect hj => ?_⟩
        obtain ⟨rfl, rfl⟩ : earlier.length + 1 = n ∧ wrong = defect := by simpa using hj
        exact .line hf (by omega) hl hd
      | none =>
        have hnext := ih tail (hf.snoc hl hd) (by simp; omega)
        have hs : Bytes.ofLines (earlier ++ [line]) ++ tail =
            Bytes.ofLines earlier ++ (line ++ Bytes.newline :: tail) := by simp
        rwa [hs] at hnext

theorem complete_iff {stream : Bytes} : Complete stream ↔ ∃ lines, judge stream = .complete lines :=
  ⟨Complete.judge_eq, fun ⟨lines, hj⟩ => (judgeAfter_sound stream fine_nil rfl).1 lines hj⟩

theorem flawed_iff {stream : Bytes} {n : Nat} {defect : Defect} :
    Flawed stream n defect ↔ judge stream = .flawed n defect :=
  ⟨Flawed.judge_eq, fun hj => (judgeAfter_sound stream fine_nil rfl).2 n defect hj⟩

instance (stream : Bytes) : Decidable (Complete stream) :=
  match h : judge stream with
  | .complete lines => isTrue (complete_iff.mpr ⟨lines, h⟩)
  | .flawed n defect => isFalse fun hc => by
    obtain ⟨lines, hl⟩ := complete_iff.mp hc
    exact Verdict.noConfusion (h.symm.trans hl)
  | .begun n rest => isFalse fun hc => by
    obtain ⟨lines, hl⟩ := complete_iff.mp hc
    exact Verdict.noConfusion (h.symm.trans hl)

end Announcement

end Handover
