import Handover.Proofs.Codec

/-! # How much a writer takes

What a writer with a limit has taken and what still fits it make up the same number all the time, since it never takes
more than fits. A writer that takes something whenever it answers stops only when nothing fits any more. So of an
announcement it gets as much as fits, whatever the chunks and however often it is interrupted, and only the limit decides
whether the stream is flushed and what the writing comes to.
-/
namespace Handover

namespace Writer

def fits (w : Writer) (n : Nat) : Nat := w.capacity.elim n (min n)

/-- Where the limit is, counted from the first byte that was ever written. -/
def extent (w : Writer) : Option Nat := w.capacity.map (w.written.length + ·)

/-- Takes something whenever it answers and has room, and does not put a write off when it is full: an interruption would
only have the write made again. -/
structure Definite (w : Writer) : Prop where
  willing : w.Willing
  refuses : ∀ cause, w.whenFull = some cause → cause.isInterrupted = false

/-- The same limit, refusal, flush and past; chunks and interruptions may differ. -/
structure Alike (w other : Writer) : Prop where
  capacity : other.capacity = w.capacity
  whenFull : other.whenFull = w.whenFull
  flushFailure : other.flushFailure = w.flushFailure
  written : other.written = w.written
  flushes : other.flushes = w.flushes

theorem Alike.fits {w other : Writer} (h : w.Alike other) (n : Nat) : other.fits n = w.fits n := by
  unfold Writer.fits
  rw [h.capacity]

theorem Alike.hasRoom_iff {w other : Writer} (h : w.Alike other) (n : Nat) : other.HasRoom n ↔ w.HasRoom n := by
  unfold HasRoom
  rw [h.capacity]

theorem fits_of_hasRoom {w : Writer} {n : Nat} (h : w.HasRoom n) : w.fits n = n := by
  unfold fits
  cases hc : w.capacity with
  | none => rfl
  | some capacity => exact min_eq_left (h capacity hc)

theorem hasRoom_takes (w : Writer) (n : Nat) : w.HasRoom (w.takes n) := by
  intro capacity hc
  simp only [takes, hc]
  exact min_le_left _ _

section Extent

theorem extent_accept {w : Writer} {bytes : Bytes} (h : w.HasRoom bytes.length) :
    (w.accept bytes).extent = w.extent := by
  unfold extent accept
  cases hc : w.capacity with
  | none => rfl
  | some capacity =>
    have hfit : bytes.length ≤ capacity := h capacity hc
    simp only [Option.map_some, List.length_append, Option.some.injEq]
    omega

theorem extent_writeAll (w : Writer) (bytes : Bytes) : (w.writeAll bytes).2.extent = w.extent := by
  induction w, bytes using writeAll.induct with
  | case1 w => rw [writeAll, if_pos rfl]
  | case2 w bytes hb hi ih =>
    rw [writeAll, if_neg hb, dif_pos hi]
    exact ih
  | case3 w bytes hb hi hf =>
    rw [writeAll, if_neg hb, dif_neg hi, if_pos hf]
    rfl
  | case4 w bytes hb hi hf ht =>
    rw [writeAll, if_neg hb, dif_neg hi, if_neg hf, dif_pos ht]
    rfl
  | case5 w bytes hb hi hf ht ih =>
    have hroom : w.HasRoom (bytes.take (w.takes bytes.length)).length := by
      intro capacity hc
      exact (List.length_take_le _ _).trans (w.hasRoom_takes _ capacity hc)
    rw [writeAll, if_neg hb, dif_neg hi, if_neg hf, dif_neg ht]
    exact ih.trans (extent_accept hroom)

theorem extent_writeEach (w : Writer) (pieces : List Bytes) : (w.writeEach pieces).2.extent = w.extent := by
  induction pieces generalizing w with
  | nil => rfl
  | cons piece pieces ih =>
    have hpiece := w.extent_writeAll piece
    rw [writeEach]
    rcases hr : w.writeAll piece with ⟨result, w'⟩
    rw [hr] at hpiece
    cases result with
    | ok done => exact (ih w').trans hpiece
    | error cause => exact hpiece

end Extent

section Taken

variable {w : Writer} {offered taken left : Bytes} {result : Except IoError Unit × Writer}

theorem Took.hasRoom_taken (h : w.Took offered taken left result) (he : result.2.extent = w.extent) :
    w.HasRoom taken.length := by
  intro capacity hc
  have hsum := he
  simp only [extent, h.written, h.capacity, hc, Option.map_some, List.length_append, Option.some.injEq] at hsum
  omega

theorem Took.taken_eq_take (h : w.Took offered taken left result) (hw : w.Willing)
    (he : result.2.extent = w.extent) : taken = offered.take (w.fits offered.length) := by
  have hroom := h.hasRoom_taken he
  by_cases hl : left = []
  · have htaken : offered = taken := by rw [h.offered_eq, hl, List.append_nil]
    rw [← htaken] at hroom ⊢
    rw [fits_of_hasRoom hroom, List.take_length]
  · have hfull := (h.full hw hl).1
    rw [h.capacity] at hfull
    obtain ⟨capacity, hc, hzero⟩ := Option.map_eq_some_iff.mp hfull
    have hle : taken.length ≤ capacity := hroom capacity hc
    have hlen : w.fits offered.length = taken.length := by
      simp only [fits, hc, Option.elim_some, h.offered_eq, List.length_append]
      omega
    rw [hlen, h.offered_eq, List.take_left]

theorem Took.left_eq_nil_iff (h : w.Took offered taken left result) (hw : w.Willing)
    (he : result.2.extent = w.extent) : left = [] ↔ w.HasRoom offered.length := by
  refine ⟨fun hl => ?_, h.left_eq_nil hw⟩
  have hroom := h.hasRoom_taken he
  rwa [h.offered_eq, hl, List.append_nil]

end Taken

end Writer

namespace Announcement

open Bytes (newline ofString)

variable {w : Writer}

theorem written_eq_take (a : Announcement) (hw : w.Willing) :
    (a.writeTo w).2.written = w.written ++ a.wire.take (w.fits a.wire.length) := by
  obtain ⟨taken, left, h⟩ := w.writeEach_took a.pieces
  have ht := h.taken_eq_take hw (w.extent_writeEach a.pieces)
  rw [a.flatten_pieces] at ht
  rw [← ht, ← h.written]
  unfold writeTo
  rcases w.writeEach a.pieces with ⟨_ | _, w'⟩ <;> rfl

theorem writeTo_of_hasRoom (a : Announcement) (hw : w.Willing) (hr : w.HasRoom a.wire.length) :
    (a.writeTo w).1 = w.flushFailure.elim (.ok ()) .error ∧ (a.writeTo w).2.flushes = w.flushes + 1 := by
  obtain ⟨taken, left, h⟩ := w.writeEach_took a.pieces
  have hoffered : w.HasRoom a.pieces.flatten.length := a.flatten_pieces ▸ hr
  obtain rfl : left = [] := h.left_eq_nil hw hoffered
  have hok := h.ok_iff.mpr rfl
  have hff := h.flushFailure
  have hflushes := h.flushes
  unfold writeTo
  rcases hresult : w.writeEach a.pieces with ⟨result, w'⟩
  rw [hresult] at hok hff hflushes
  obtain rfl : result = .ok () := hok
  refine ⟨?_, congrArg (· + 1) hflushes⟩
  simp only [Writer.flush]
  rw [hff]
  cases w.flushFailure <;> rfl

theorem writeTo_of_not_hasRoom (a : Announcement) (hw : w.Willing) (hr : ¬w.HasRoom a.wire.length) :
    (a.writeTo w).1 = .error (w.whenFull.getD IoError.nothingWritten) ∧ (a.writeTo w).2.flushes = w.flushes := by
  obtain ⟨taken, left, h⟩ := w.writeEach_took a.pieces
  have hiff := h.left_eq_nil_iff hw (w.extent_writeEach a.pieces)
  rw [a.flatten_pieces] at hiff
  have hrefused := (h.full hw fun hl => hr (hiff.mp hl)).2
  have hflushes := h.flushes
  unfold writeTo
  rcases hresult : w.writeEach a.pieces with ⟨result, w'⟩
  rw [hresult] at hrefused hflushes
  obtain rfl : result = _ := hrefused
  exact ⟨rfl, hflushes⟩

theorem writeTo_alike {other : Writer} (a : Announcement) (hw : w.Willing) (ho : other.Willing) (h : w.Alike other) :
    (a.writeTo other).1 = (a.writeTo w).1 ∧ (a.writeTo other).2.written = (a.writeTo w).2.written ∧
      (a.writeTo other).2.flushes = (a.writeTo w).2.flushes := by
  have hwritten : (a.writeTo other).2.written = (a.writeTo w).2.written := by
    rw [written_eq_take a ho, written_eq_take a hw, h.fits, h.written]
  by_cases hr : w.HasRoom a.wire.length
  · obtain ⟨hresult, hflushes⟩ := writeTo_of_hasRoom a hw hr
    obtain ⟨hresult', hflushes'⟩ := writeTo_of_hasRoom a ho ((h.hasRoom_iff _).mpr hr)
    rw [hresult, hresult', hflushes, hflushes', h.flushFailure, h.flushes]
    exact ⟨rfl, hwritten, rfl⟩
  · obtain ⟨hresult, hflushes⟩ := writeTo_of_not_hasRoom a hw hr
    obtain ⟨hresult', hflushes'⟩ := writeTo_of_not_hasRoom a ho fun hr' => hr ((h.hasRoom_iff _).mp hr')
    rw [hresult, hresult', hflushes, hflushes', h.whenFull, h.flushes]
    exact ⟨rfl, hwritten, rfl⟩

/-- Of the four lines a definite writer gets as much as fits, in order and nothing twice. If that is all, the stream is
flushed once and the result is that of the flush, which is not made again; otherwise it is not flushed and the result is
the writer's refusal. Two writers that differ only in their chunks and interruptions end alike. -/
theorem a_writer_gets_what_fits {d : Path} (hd : newline ∉ d.bytes) (hw : w.Definite) :
    let text := d.bytes ++ [newline] ++ (d.join (ofString "data")).bytes ++ [newline] ++
      (d.join (ofString "pass")).bytes ++ [newline] ++ ofString "done" ++ [newline]
    ∃ a, ofDirectory d = .ok a ∧ (a.writeTo w).2.written = w.written ++ text.take (w.fits text.length) ∧
      ((a.writeTo w).1 = .ok () ↔ w.HasRoom text.length ∧ w.flushFailure = none) ∧
      (w.HasRoom text.length → (a.writeTo w).2.flushes = w.flushes + 1 ∧
        ∀ cause, w.flushFailure = some cause → (a.writeTo w).1 = .error cause) ∧
      (¬w.HasRoom text.length → (a.writeTo w).2.flushes = w.flushes ∧
        (a.writeTo w).1 = .error (w.whenFull.getD (.custom .writeZero "failed to write whole buffer"))) ∧
      ∀ other : Writer, other.Definite → w.Alike other →
        (a.writeTo other).1 = (a.writeTo w).1 ∧ (a.writeTo other).2.written = (a.writeTo w).2.written ∧
          (a.writeTo other).2.flushes = (a.writeTo w).2.flushes := by
  intro text
  have hlayout : ofDirectory d = .ok (layout d) := ofDirectory_eq_ok_iff.mpr ⟨hd, rfl⟩
  have htext : (layout d).wire = text := by
    simp [wire, lines, layout, dataName, passName, doneToken, text]
  rw [← htext]
  refine ⟨layout d, hlayout, written_eq_take _ hw.willing, ?_, fun hr => ?_, fun hr => ?_,
    fun other ho h => writeTo_alike _ hw.willing ho.willing h⟩
  · by_cases hr : w.HasRoom (layout d).wire.length
    · rw [(writeTo_of_hasRoom _ hw.willing hr).1]
      cases w.flushFailure <;> simp [hr]
    · rw [(writeTo_of_not_hasRoom _ hw.willing hr).1]
      simp [hr]
  · obtain ⟨hresult, hflushes⟩ := writeTo_of_hasRoom (layout d) hw.willing hr
    refine ⟨hflushes, fun cause hc => ?_⟩
    rw [hresult, hc]
    rfl
  · obtain ⟨hresult, hflushes⟩ := writeTo_of_not_hasRoom (layout d) hw.willing hr
    exact ⟨hflushes, hresult⟩

/-- Two bytes at a time, each after an interruption: with room for two lines the third is refused; without a limit the
flush is interrupted. -/
theorem a_writer_of_two_lines_gets_them :
    let a := layout (Path.ofString "/a")
    let w (capacity : Option Nat) : Writer :=
      ⟨fun _ => ⟨1, 2⟩, 0, 0, capacity, none, some (.plain .interrupted), [], 0⟩
    newline ∉ (Path.ofString "/a").bytes ∧ (w (some 11)).Definite ∧ (w none).Definite ∧
      (a.writeTo (w (some 11))).2.written = ofString "/a\n/a/data\n" ∧
      (a.writeTo (w (some 11))).1 = .error (.custom .writeZero "failed to write whole buffer") ∧
      (a.writeTo (w (some 11))).2.flushes = 0 ∧
      (a.writeTo (w none)).2.written = ofString "/a\n/a/data\n/a/pass\ndone\n" ∧
      (a.writeTo (w none)).1 = .error (.plain .interrupted) ∧ (a.writeTo (w none)).2.flushes = 1 := by
  intro a w
  have hd : newline ∉ (Path.ofString "/a").bytes := by decide
  have hdefinite : ∀ capacity, (w capacity).Definite := fun capacity =>
    ⟨fun _ => Nat.two_pos, fun _ hc => by simp [w] at hc⟩
  obtain ⟨b, hb, hsome, -, -, hfull, -⟩ := a_writer_gets_what_fits hd (hdefinite (some 11))
  obtain ⟨b', hb', hnone, -, hroom, -⟩ := a_writer_gets_what_fits hd (hdefinite none)
  obtain rfl : b = layout (Path.ofString "/a") := (ofDirectory_eq_ok_iff.mp hb).2
  obtain rfl : b' = layout (Path.ofString "/a") := (ofDirectory_eq_ok_iff.mp hb').2
  have hlimited := hfull fun hr => absurd (hr 11 rfl) (by decide)
  have hunlimited := hroom fun capacity hc => by simp [w] at hc
  exact ⟨hd, hdefinite _, hdefinite _, hsome.trans (by decide), hlimited.2, hlimited.1, hnone.trans (by decide),
    hunlimited.2 _ rfl, hunlimited.1⟩

end Announcement

end Handover
