import Handover.Proofs.Codec

/-! # The first fault of a stream

Whether a line of a stream is at fault can be said without reading the others, the directory in the first one apart. The
reader reports the first line that is at fault, and a stream in which none is, is accepted. A line that is missing or cut
off may be mended by what follows; any other fault shows as soon as the line has ended, or with the first byte after the
fourth, and then nothing that follows is looked at.
-/
namespace Handover

open Bytes (newline)

namespace Bytes

def afterLines : Nat → Bytes → Bytes
  | 0, s => s
  | n + 1, s => afterLines n (s.dropWhile (· ≠ newline)).tail

/-- The first `n` lines, without the newlines that end them. -/
def firstLines : Nat → Bytes → List Bytes
  | 0, _ => []
  | n + 1, s => s.takeWhile (· ≠ newline) :: firstLines n (s.dropWhile (· ≠ newline)).tail

section Lines

variable {line : Bytes} {lines : List Bytes}

theorem takeWhile_line (hl : newline ∉ line) (tail : Bytes) :
    (line ++ newline :: tail).takeWhile (· ≠ newline) = line := by
  have hall : ∀ b ∈ line, decide (b ≠ newline) = true := fun b hb => decide_eq_true fun he => hl (he ▸ hb)
  rw [List.takeWhile_append_of_pos hall]
  simp

theorem dropWhile_line (hl : newline ∉ line) (tail : Bytes) :
    (line ++ newline :: tail).dropWhile (· ≠ newline) = newline :: tail := by
  have hall : ∀ b ∈ line, decide (b ≠ newline) = true := fun b hb => decide_eq_true fun he => hl (he ▸ hb)
  rw [List.dropWhile_append_of_pos hall]
  simp

theorem afterLines_ofLines (hl : ∀ line ∈ lines, newline ∉ line) (rest : Bytes) :
    afterLines lines.length (ofLines lines ++ rest) = rest := by
  induction lines with
  | nil => rfl
  | cons line lines ih =>
    have hline : newline ∉ line := hl line (List.mem_cons_self ..)
    have hlines := ih fun other hm => hl other (List.mem_cons_of_mem _ hm)
    rw [List.length_cons, afterLines, ofLines_cons, List.append_assoc, List.cons_append, dropWhile_line hline]
    exact hlines

theorem firstLines_ofLines (hl : ∀ line ∈ lines, newline ∉ line) (rest : Bytes) :
    firstLines lines.length (ofLines lines ++ rest) = lines := by
  induction lines with
  | nil => rfl
  | cons line lines ih =>
    have hline : newline ∉ line := hl line (List.mem_cons_self ..)
    have hlines := ih fun other hm => hl other (List.mem_cons_of_mem _ hm)
    rw [List.length_cons, firstLines, ofLines_cons, List.append_assoc, List.cons_append, dropWhile_line hline,
      takeWhile_line hline]
    exact congrArg (line :: ·) hlines

end Lines

end Bytes

namespace Announcement

/-- What is wrong after `n` lines: a fifth line must not have a byte, and each of the others must be there, have an end
and be what the lines before it ask for. -/
def fault? (stream : Bytes) (n : Nat) : Option Defect :=
  let rest := stream.afterLines n
  if n = 4 then if rest = [] then none else some .trailing
  else if rest = [] then some .endOfStream
  else if newline ∉ rest then some .unterminated
  else defect? (stream.firstLines n) (rest.takeWhile (· ≠ newline))

structure FirstFault (stream : Bytes) (n : Nat) (defect : Defect) : Prop where
  le_four : n ≤ 4
  fault : fault? stream n = some defect
  none_before : ∀ m < n, fault? stream m = none

theorem FirstFault.unique {stream : Bytes} {n m : Nat} {defect other : Defect} (h : FirstFault stream n defect)
    (h' : FirstFault stream m other) : n = m ∧ defect = other := by
  obtain hlt | rfl | hlt := lt_trichotomy n m
  · have hnone := h'.none_before n hlt
    simp [h.fault] at hnone
  · exact ⟨rfl, Option.some.inj (h.fault.symm.trans h'.fault)⟩
  · have hnone := h.none_before m hlt
    simp [h'.fault] at hnone

section Faults

variable {earlier : List Bytes} {line start rest tail : Bytes} {defect : Defect}

theorem fault?_line (he : ∀ line ∈ earlier, newline ∉ line) (hlen : earlier.length < 4) (hl : newline ∉ line)
    (tail : Bytes) :
    fault? (Bytes.ofLines earlier ++ (line ++ newline :: tail)) earlier.length = defect? earlier line := by
  simp only [fault?, Bytes.afterLines_ofLines he, Bytes.firstLines_ofLines he, Bytes.takeWhile_line hl]
  simp [hlen.ne]

theorem fault?_start (he : ∀ line ∈ earlier, newline ∉ line) (hlen : earlier.length < 4) (hs : newline ∉ start) :
    fault? (Bytes.ofLines earlier ++ start) earlier.length =
      some (if start = [] then .endOfStream else .unterminated) := by
  simp only [fault?, Bytes.afterLines_ofLines he]
  by_cases hnil : start = []
  · simp [hlen.ne, hnil]
  · simp [hlen.ne, hnil, hs]

theorem fault?_rest (he : ∀ line ∈ earlier, newline ∉ line) (hlen : earlier.length = 4) :
    fault? (Bytes.ofLines earlier ++ rest) 4 = if rest = [] then none else some .trailing := by
  have hrest := Bytes.afterLines_ofLines he rest
  rw [hlen] at hrest
  simp only [fault?, hrest, if_true]

theorem Fine.fault?_eq_none (hf : Fine earlier) (hlen : earlier.length ≤ 4) {m : Nat} (hm : m < earlier.length) :
    fault? (Bytes.ofLines earlier ++ rest) m = none := by
  have hsplit : earlier = earlier.take m ++ earlier[m] :: earlier.drop (m + 1) := by
    rw [← List.drop_eq_getElem_cons hm, List.take_append_drop]
  obtain ⟨hl, hd⟩ := hf _ _ _ hsplit
  have htake : (earlier.take m).length = m := List.length_take_of_le hm.le
  have hbefore : ∀ line ∈ earlier.take m, newline ∉ line := fun line h =>
    hf.newline_not_mem line (List.mem_of_mem_take h)
  have hstream : Bytes.ofLines earlier ++ rest =
      Bytes.ofLines (earlier.take m) ++ (earlier[m] ++ newline :: (Bytes.ofLines (earlier.drop (m + 1)) ++ rest)) := by
    have happ := congrArg (Bytes.ofLines · ++ rest) hsplit
    rw [Bytes.ofLines_append, Bytes.ofLines_cons, List.append_assoc, List.append_assoc, List.cons_append] at happ
    exact happ
  have hfault := fault?_line hbefore (by omega) hl (Bytes.ofLines (earlier.drop (m + 1)) ++ rest)
  rw [← hstream, htake, hd] at hfault
  exact hfault

theorem Fine.firstFault (hf : Fine earlier) (hlen : earlier.length ≤ 4)
    (h : fault? (Bytes.ofLines earlier ++ rest) earlier.length = some defect) :
    FirstFault (Bytes.ofLines earlier ++ rest) earlier.length defect :=
  ⟨hlen, h, fun _ hm => hf.fault?_eq_none hlen hm⟩

theorem firstFault_start (hf : Fine earlier) (hlen : earlier.length < 4) (hs : newline ∉ start) :
    FirstFault (Bytes.ofLines earlier ++ start) earlier.length (if start = [] then .endOfStream else .unterminated) :=
  hf.firstFault hlen.le (fault?_start hf.newline_not_mem hlen hs)

theorem Flawed.firstFault {stream : Bytes} {k : Nat} (h : Flawed stream k defect) :
    ∃ n, k = n + 1 ∧ FirstFault stream n defect := by
  cases h with
  | line hf hlen hl hd =>
    rename_i earlier line tail
    have hfault := fault?_line hf.newline_not_mem hlen hl tail
    exact ⟨earlier.length, rfl, hf.firstFault hlen.le (hfault.trans hd)⟩
  | trailing hf hlen =>
    rename_i earlier b tail
    have hfault : fault? (Bytes.ofLines earlier ++ b :: tail) earlier.length = some .trailing := by
      rw [hlen, fault?_rest hf.newline_not_mem hlen, if_neg (List.cons_ne_nil b tail)]
    exact ⟨4, rfl, hlen ▸ hf.firstFault hlen.le hfault⟩

theorem exists_fine_of_begun {left n : Nat} (hf : Fine earlier) (hlen : left + earlier.length = 4)
    (hj : judgeAfter left earlier rest = .begun n start) :
    ∃ more, Fine (earlier ++ more) ∧ (earlier ++ more).length < 4 ∧ newline ∉ start ∧
      rest = Bytes.ofLines more ++ start ∧ n = (earlier ++ more).length + 1 := by
  induction left generalizing earlier rest with
  | zero => cases rest <;> simp [judgeAfter] at hj
  | succ left ih =>
    cases hb : rest.breakLine with
    | none =>
      obtain ⟨rfl, rfl⟩ : earlier.length + 1 = n ∧ rest = start := by simpa [judgeAfter, hb] using hj
      refine ⟨[], by simpa using hf, by simp; omega, Bytes.breakLine_eq_none_iff.mp hb, by simp, by simp⟩
    | some found =>
      obtain ⟨line, tail⟩ := found
      obtain ⟨rfl, hl⟩ := Bytes.breakLine_eq_some_iff.mp hb
      rw [judgeAfter_line hl] at hj
      cases hd : defect? earlier line with
      | some defect => simp [hd] at hj
      | none =>
        rw [hd] at hj
        obtain ⟨more, hfine, hmore, hs, rfl, rfl⟩ := ih (hf.snoc hl hd) (by simp; omega) hj
        have hlines : earlier ++ line :: more = earlier ++ [line] ++ more := by simp
        exact ⟨line :: more, hlines ▸ hfine, hlines ▸ hmore, hs, by simp, by rw [hlines]⟩

end Faults

section Streams

variable {stream : Bytes} {n : Nat} {defect : Defect}

/-- Either a line is at fault, and the first such line is reported, or none is and the stream is accepted. -/
theorem ofBytes_of_firstFault_or (stream : Bytes) :
    (∃ n defect, FirstFault stream n defect ∧ ofBytes stream = .error (malformed (n + 1) defect)) ∨
      (∀ n ≤ 4, fault? stream n = none) ∧ ∃ a, ofBytes stream = .ok a := by
  have hread := ofBytes_eq stream
  cases hj : judge stream with
  | flawed k defect =>
    obtain ⟨n, rfl, hfirst⟩ := (flawed_iff.mpr hj).firstFault
    rw [hj] at hread
    exact Or.inl ⟨n, defect, hfirst, hread⟩
  | begun k start =>
    obtain ⟨more, hf, hlen, hs, rfl, rfl⟩ := exists_fine_of_begun fine_nil rfl hj
    rw [hj] at hread
    exact Or.inl ⟨_, _, firstFault_start hf hlen hs, hread⟩
  | complete lines =>
    obtain ⟨hlen, hf, rfl⟩ := judge_eq_complete_iff.mp hj
    rw [hj] at hread
    refine Or.inr ⟨fun n hn => ?_, _, hread⟩
    have hnone : ∀ m, m ≤ 4 → fault? (Bytes.ofLines lines ++ []) m = none := by
      intro m hm
      obtain hlt | rfl := Nat.lt_or_eq_of_le hm
      · exact hf.fault?_eq_none hlen.le (hlen.symm ▸ hlt)
      · exact fault?_rest hf.newline_not_mem hlen
    simpa using hnone n hn

theorem FirstFault.ofBytes_eq (h : FirstFault stream n defect) : ofBytes stream = .error (malformed (n + 1) defect) := by
  rcases ofBytes_of_firstFault_or stream with ⟨m, other, h', hread⟩ | ⟨hnone, -⟩
  · obtain ⟨rfl, rfl⟩ := h.unique h'
    exact hread
  · have hn := hnone n h.le_four
    simp [h.fault] at hn

theorem FirstFault.flawed (h : FirstFault stream n defect) (he : defect ≠ .endOfStream) (hu : defect ≠ .unterminated) :
    Flawed stream (n + 1) defect := by
  cases hj : judge stream with
  | flawed k other =>
    have hflawed : Flawed stream k other := flawed_iff.mpr hj
    obtain ⟨m, rfl, h'⟩ := hflawed.firstFault
    obtain ⟨rfl, rfl⟩ := h.unique h'
    exact hflawed
  | begun k start =>
    obtain ⟨more, hf, hlen, hs, rfl, rfl⟩ := exists_fine_of_begun fine_nil rfl hj
    obtain ⟨-, rfl⟩ := h.unique (firstFault_start hf hlen hs)
    split at he
    · exact absurd rfl he
    · split at hu
      · contradiction
      · exact absurd rfl hu
  | complete lines =>
    have hread := h.ofBytes_eq
    rw [Announcement.ofBytes_eq, hj] at hread
    simp [Verdict.conclude] at hread

end Streams

/-- The second line is empty and the third is not that of `pass`; only the first of the two is reported. -/
example : ofBytes (Bytes.ofString "/a\n\n/b/pass\ndone\n") = .error (malformed 2 .empty) := by
  decide

end Announcement

end Handover
