import Handover.Announcement.Writer
import Handover.Proofs.Splits

/-! # What reaches a writer

However a writer cuts what it is offered, it takes a beginning of it and leaves the rest, and it leaves nothing exactly
if it does not fail. A writer that takes something whenever it answers leaves something only when it is full. One write
after another is like one write of both, so this holds of an announcement as a whole.
-/
namespace Handover

namespace Writer

def Willing (w : Writer) : Prop := ∀ n, 0 < (w.turns n).room

def HasRoom (w : Writer) (n : Nat) : Prop := ∀ capacity, w.capacity = some capacity → n ≤ capacity

/-- Of what it was `offered` the writer `w` took the first part and left the second, with this result. -/
structure Took (w : Writer) (offered taken left : Bytes) (result : Except IoError Unit × Writer) : Prop where
  offered_eq : offered = taken ++ left
  ok_iff : result.1 = .ok () ↔ left = []
  written : result.2.written = w.written ++ taken
  capacity : result.2.capacity = w.capacity.map (· - taken.length)
  turns : result.2.turns = w.turns
  whenFull : result.2.whenFull = w.whenFull
  flushFailure : result.2.flushFailure = w.flushFailure
  flushes : result.2.flushes = w.flushes
  full : w.Willing → left ≠ [] →
    result.2.capacity = some 0 ∧ result.1 = .error (w.whenFull.getD IoError.nothingWritten)

section Took

variable {w w' : Writer} {offered taken left : Bytes} {cause : IoError} {result : Except IoError Unit × Writer}

theorem took_nothing (w : Writer) : w.Took [] [] [] (.ok (), w) where
  offered_eq := rfl
  ok_iff := by simp
  written := by simp
  capacity := by simp
  turns := rfl
  whenFull := rfl
  flushFailure := rfl
  flushes := rfl
  full := fun _ h => absurd rfl h

theorem took_accept (w : Writer) (bytes : Bytes) : w.Took bytes bytes [] (.ok (), w.accept bytes) where
  offered_eq := (List.append_nil bytes).symm
  ok_iff := by simp
  written := rfl
  capacity := rfl
  turns := rfl
  whenFull := rfl
  flushFailure := rfl
  flushes := rfl
  full := fun _ h => absurd rfl h

theorem Took.of_interrupt (h : w.interrupt.Took offered taken left result) : w.Took offered taken left result := by
  obtain ⟨offered_eq, ok_iff, written, capacity, turns, whenFull, flushFailure, flushes, full⟩ := h
  exact ⟨offered_eq, ok_iff, written, capacity, turns, whenFull, flushFailure, flushes, full⟩

/-- A refusal leaves everything. A willing writer refuses only when it is full. -/
theorem took_refused (ho : offered ≠ [])
    (hfull : w.Willing → w.capacity = some 0 ∧ cause = w.whenFull.getD IoError.nothingWritten) :
    w.Took offered [] offered (.error cause, w.nextTurn) where
  offered_eq := rfl
  ok_iff := by simp [ho]
  written := (List.append_nil _).symm
  capacity := by simp [nextTurn]
  turns := rfl
  whenFull := rfl
  flushFailure := rfl
  flushes := rfl
  full := fun hw _ => ⟨(hfull hw).1, congrArg Except.error (hfull hw).2⟩

/-- What is offered when the first part is taken might have been offered with it. -/
theorem Took.append {first : Bytes} (h : w.Took first first [] (.ok (), w'))
    (h' : w'.Took offered taken left result) : w.Took (first ++ offered) (first ++ taken) left result where
  offered_eq := by rw [h'.offered_eq, List.append_assoc]
  ok_iff := h'.ok_iff
  written := by rw [h'.written, h.written, List.append_assoc]
  capacity := by
    rw [h'.capacity, h.capacity, Option.map_map, List.length_append]
    exact congrArg (w.capacity.map ·) (funext fun n => Nat.sub_sub n _ _)
  turns := h'.turns.trans h.turns
  whenFull := h'.whenFull.trans h.whenFull
  flushFailure := h'.flushFailure.trans h.flushFailure
  flushes := h'.flushes.trans h.flushes
  full := by
    intro hw hl
    have hw' : w'.Willing := fun n => h.turns.symm ▸ hw n
    have hwhen : w'.whenFull = w.whenFull := h.whenFull
    rw [← hwhen]
    exact h'.full hw' hl

theorem Took.append_left (h : w.Took offered taken left (.error cause, w')) (rest : Bytes) :
    w.Took (offered ++ rest) taken (left ++ rest) (.error cause, w') := by
  have hl : left ≠ [] := fun he => by simpa using h.ok_iff.mpr he
  refine ⟨?_, ?_, h.written, h.capacity, h.turns, h.whenFull, h.flushFailure, h.flushes, fun hw _ => h.full hw hl⟩
  · rw [h.offered_eq, List.append_assoc]
  · simp [hl]

theorem Took.taken_eq (h : w.Took offered taken left (.ok (), w')) : left = [] ∧ taken = offered := by
  obtain rfl : left = [] := h.ok_iff.mp rfl
  exact ⟨rfl, by rw [h.offered_eq, List.append_nil]⟩

theorem Took.left_eq_nil (h : w.Took offered taken left result) (hw : w.Willing) (hr : w.HasRoom offered.length) :
    left = [] := by
  by_contra hl
  have hfull := (h.full hw hl).1
  rw [h.capacity] at hfull
  obtain ⟨capacity, hc, hzero⟩ := Option.map_eq_some_iff.mp hfull
  have hroom : offered.length ≤ capacity := hr capacity hc
  have hlen : offered.length = taken.length + left.length := by rw [h.offered_eq, List.length_append]
  have hpos : 0 < left.length := List.length_pos_iff.mpr hl
  omega

end Took

theorem takes_pos {w : Writer} {n : Nat} (hw : w.Willing) (hf : w.isFull = false) (hn : 0 < n) : 0 < w.takes n := by
  have hroom := hw w.turn
  unfold takes
  cases hc : w.capacity with
  | none => simp only [lt_min_iff]; exact ⟨hroom, hn⟩
  | some capacity =>
    have hpos : capacity ≠ 0 := by
      rintro rfl
      simp [isFull, hc] at hf
    simp only [lt_min_iff]
    exact ⟨Nat.pos_of_ne_zero hpos, hroom, hn⟩

theorem writeAll_took (w : Writer) (bytes : Bytes) : ∃ taken left, w.Took bytes taken left (w.writeAll bytes) := by
  induction w, bytes using writeAll.induct with
  | case1 w =>
    rw [writeAll, if_pos rfl]
    exact ⟨[], [], took_nothing w⟩
  | case2 w bytes hb hi ih =>
    obtain ⟨taken, left, h⟩ := ih
    rw [writeAll, if_neg hb, dif_pos hi]
    exact ⟨taken, left, h.of_interrupt⟩
  | case3 w bytes hb hi hf =>
    have hc : w.capacity = some 0 := by simpa [isFull] using hf
    rw [writeAll, if_neg hb, dif_neg hi, if_pos hf]
    exact ⟨[], bytes, took_refused hb fun _ => ⟨hc, rfl⟩⟩
  | case4 w bytes hb hi hf ht =>
    rw [writeAll, if_neg hb, dif_neg hi, if_neg hf, dif_pos ht]
    refine ⟨[], bytes, took_refused hb fun hw => ?_⟩
    have hpos := takes_pos hw (Bool.eq_false_of_not_eq_true hf) (List.length_pos_iff.mpr hb)
    exact absurd ht hpos.ne'
  | case5 w bytes hb hi hf ht ih =>
    obtain ⟨taken, left, h⟩ := ih
    have hall := (w.took_accept (bytes.take (w.takes bytes.length))).append h
    rw [List.take_append_drop] at hall
    rw [writeAll, if_neg hb, dif_neg hi, if_neg hf, dif_neg ht]
    exact ⟨_, left, hall⟩

theorem writeEach_took (w : Writer) (pieces : List Bytes) :
    ∃ taken left, w.Took pieces.flatten taken left (w.writeEach pieces) := by
  induction pieces generalizing w with
  | nil => exact ⟨[], [], took_nothing w⟩
  | cons piece pieces ih =>
    obtain ⟨taken, left, h⟩ := w.writeAll_took piece
    rw [writeEach, List.flatten_cons]
    rcases hr : w.writeAll piece with ⟨result, w'⟩
    rw [hr] at h
    cases result with
    | error cause => exact ⟨taken, left ++ pieces.flatten, h.append_left _⟩
    | ok done =>
      obtain ⟨rfl, rfl⟩ := h.taken_eq
      obtain ⟨taken', left', h'⟩ := ih w'
      exact ⟨taken ++ taken', left', h.append h'⟩

end Writer

namespace Announcement

/-- A beginning of the announcement reaches the writer, and the stream is flushed if that is all of it. A willing writer
with room enough leaves nothing. -/
theorem writeTo_written (a : Announcement) (w : Writer) :
    ∃ taken left, a.wire = taken ++ left ∧ (a.writeTo w).2.written = w.written ++ taken ∧
      (a.writeTo w).2.flushes = w.flushes + (if left = [] then 1 else 0) ∧
      ((a.writeTo w).1 = .ok () ↔ left = [] ∧ w.flushFailure = none) ∧
      (w.Willing → w.HasRoom a.wire.length → left = []) := by
  obtain ⟨taken, left, h⟩ := w.writeEach_took a.pieces
  rw [a.flatten_pieces] at h
  have hroom : w.Willing → w.HasRoom a.wire.length → left = [] := h.left_eq_nil
  refine ⟨taken, left, h.offered_eq, ?_⟩
  unfold writeTo
  rcases hr : w.writeEach a.pieces with ⟨result, w'⟩
  rw [hr] at h
  cases result with
  | error cause =>
    have hl : left ≠ [] := fun he => by simpa using h.ok_iff.mpr he
    refine ⟨h.written, ?_, by simp [hl], hroom⟩
    rw [if_neg hl]
    exact h.flushes
  | ok done =>
    obtain ⟨rfl, -⟩ := h.taken_eq
    have hff : w'.flushFailure = w.flushFailure := h.flushFailure
    have hflushes : w'.flushes = w.flushes := h.flushes
    refine ⟨h.written, congrArg (· + 1) hflushes, ?_, hroom⟩
    simp only [Writer.flush, hff, true_and]
    cases w.flushFailure <;> simp

theorem writeTo_of_room (a : Announcement) {w : Writer} (hw : w.Willing) (hr : w.HasRoom a.wire.length)
    (hf : w.flushFailure = none) : (a.writeTo w).1 = .ok () := by
  obtain ⟨taken, left, -, -, -, hok, hroom⟩ := a.writeTo_written w
  exact hok.mpr ⟨hroom hw hr, hf⟩

theorem written_of_writeTo {a : Announcement} {w : Writer} (h : (a.writeTo w).1 = .ok ()) :
    (a.writeTo w).2.written = w.written ++ a.wire := by
  obtain ⟨taken, left, hwire, hwritten, -, hok, -⟩ := a.writeTo_written w
  obtain rfl : left = [] := (hok.mp h).1
  rw [hwritten, hwire, List.append_nil]

end Announcement

end Handover
