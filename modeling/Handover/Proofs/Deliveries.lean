import Handover.Proofs.Verdict

/-! # Only the bytes count

A reader hears the bytes of its deliveries up to an event: an end of the stream, a failure, or an interruption that finds
the announcement complete. Any other interruption is passed over, and so it makes no difference how the bytes were cut,
what came between them, or what would have come after the event. What was heard decides the result alone.
-/
namespace Handover

namespace Delivery

def bytes : Delivery → Bytes
  | .chunk bytes => bytes
  | .failure _ => []

def failure? : Delivery → Option IoError
  | .chunk _ => none
  | .failure cause => some cause

/-- After `seen`, nothing is read beyond this delivery. -/
def Ends (seen : Bytes) : Delivery → Prop
  | .chunk bytes => bytes = []
  | .failure cause => cause.isInterrupted = true → Announcement.Complete seen

theorem ends_chunk {seen bytes : Bytes} : (chunk bytes).Ends seen ↔ bytes = [] := Iff.rfl

theorem ends_failure {seen : Bytes} {cause : IoError} :
    (failure cause).Ends seen ↔ (cause.isInterrupted = true → Announcement.Complete seen) := Iff.rfl

instance (seen : Bytes) : (delivery : Delivery) → Decidable (delivery.Ends seen)
  | .chunk bytes => inferInstanceAs (Decidable (bytes = []))
  | .failure cause => inferInstanceAs (Decidable (cause.isInterrupted = true → Announcement.Complete seen))

end Delivery

/-- The bytes up to the event, after `seen`, and the failure if the event is one. -/
def heard (seen : Bytes) : List Delivery → Bytes × Option IoError
  | [] => (seen, none)
  | delivery :: rest =>
    if delivery.Ends seen then (seen, delivery.failure?) else heard (seen ++ delivery.bytes) rest

theorem heard_of_ends {seen : Bytes} {delivery : Delivery} (h : delivery.Ends seen) (rest : List Delivery) :
    heard seen (delivery :: rest) = (seen, delivery.failure?) :=
  if_pos h

theorem heard_of_not_ends {seen : Bytes} {delivery : Delivery} (h : ¬delivery.Ends seen) (rest : List Delivery) :
    heard seen (delivery :: rest) = heard (seen ++ delivery.bytes) rest :=
  if_neg h

theorem prefix_heard (seen : Bytes) (deliveries : List Delivery) : seen <+: (heard seen deliveries).1 := by
  induction deliveries generalizing seen with
  | nil => exact List.prefix_refl _
  | cons delivery rest ih =>
    by_cases h : delivery.Ends seen
    · rw [heard_of_ends h]
    · rw [heard_of_not_ends h]
      exact (List.prefix_append _ _).trans (ih _)

section Lines

variable {used seen buffered rest line tail : Bytes} {pending : List Delivery} {ending : Option IoError}

theorem heard_of_end {more : List Delivery} : heard seen (.chunk [] :: more) = (seen, none) :=
  heard_of_ends (Delivery.ends_chunk.mpr rfl) more

theorem heard_of_chunk {b : UInt8} {chunk : Bytes} {more : List Delivery} :
    heard seen (.chunk (b :: chunk) :: more) = heard (seen ++ b :: chunk) more :=
  heard_of_not_ends (fun h => List.cons_ne_nil b chunk (Delivery.ends_chunk.mp h)) more

theorem heard_of_failure {cause : IoError} {more : List Delivery} (hi : ¬cause.isInterrupted = true) :
    heard seen (.failure cause :: more) = (seen, some cause) :=
  heard_of_ends (Delivery.ends_failure.mpr fun h => absurd h hi) more

/-- Within an announcement an interruption is passed over. -/
theorem heard_of_interruption {cause : IoError} {more : List Delivery} (hi : cause.isInterrupted = true)
    (hc : seen.count Bytes.newline < 4) : heard seen (.failure cause :: more) = heard seen more := by
  have hn : ¬(Delivery.failure cause).Ends seen := by
    intro he
    obtain ⟨lines, hlen, hf, rfl⟩ := Delivery.ends_failure.mp he hi
    rw [hf.count_newline, hlen] at hc
    exact lt_irrefl _ hc
  rw [heard_of_not_ends hn]
  exact congrArg (heard · more) (List.append_nil seen)

example : heard [] [.chunk [47, 10], .failure (.plain .interrupted), .chunk [1], .chunk [], .chunk [2]] =
    ([47, 10, 1], none) := by
  decide

theorem count_append_lt (hu : used.count Bytes.newline < 4) (hs : Bytes.newline ∉ seen) :
    (used ++ seen).count Bytes.newline < 4 := by
  rw [List.count_append, List.count_eq_zero.mpr hs]
  exact hu

/-- What collecting a line comes to when `rest` is still to be heard, up to the `ending`. -/
def Gathers (used rest : Bytes) (ending : Option IoError) (result : Except IoError RawLine × Source) : Prop :=
  match rest.breakLine with
  | some (line, _) => result.1 = .ok (.terminated line) ∧
      heard (used ++ (line ++ Bytes.newline :: result.2.buffered)) result.2.pending = (used ++ rest, ending)
  | none => result.1 = ending.elim (.ok (.cut rest)) .error

theorem gathers_of_no_line {result : Except IoError RawLine × Source} (hn : Bytes.newline ∉ rest)
    (hr : result.1 = ending.elim (.ok (.cut rest)) .error) : Gathers used rest ending result := by
  rw [Gathers, Bytes.breakLine_eq_none_iff.mpr hn]
  exact hr

/-- A line is found if what is heard has one, wherever it is cut. -/
theorem gather_gathers (hu : used.count Bytes.newline < 4) (hs : Bytes.newline ∉ seen)
    (hh : heard (used ++ (seen ++ buffered)) pending = (used ++ rest, ending)) :
    Gathers used rest ending (Source.gather seen buffered pending) := by
  have hmore : ∀ {seen buffered : Bytes}, Bytes.newline ∉ seen → buffered.breakLine = none →
      Bytes.newline ∉ seen ++ buffered := by
    intro seen buffered hs hb hm
    rcases List.mem_append.mp hm with hm | hm
    · exact hs hm
    · exact Bytes.breakLine_eq_none_iff.mp hb hm
  induction seen, buffered, pending using Source.gather.induct with
  | case1 pending seen buffered found after hfound =>
    obtain ⟨rfl, hf⟩ := Bytes.breakLine_eq_some_iff.mp hfound
    have hp := prefix_heard (used ++ (seen ++ (found ++ Bytes.newline :: after))) pending
    rw [hh] at hp
    obtain ⟨more, rfl⟩ := (List.prefix_append_right_inj used).mp hp
    have hline : Bytes.newline ∉ seen ++ found := by
      simp only [List.mem_append, not_or]
      exact ⟨hs, hf⟩
    have hb : (seen ++ (found ++ Bytes.newline :: after) ++ more).breakLine = some (seen ++ found, after ++ more) := by
      rw [← Bytes.breakLine_line hline]
      simp
    have hg : Source.gather seen (found ++ Bytes.newline :: after) pending =
        (.ok (.terminated (seen ++ found)), ⟨after, pending⟩) := by
      unfold Source.gather
      rw [hfound]
    rw [Gathers, hb, hg]
    refine ⟨rfl, ?_⟩
    rw [← hh, List.append_assoc seen]
  | case2 seen buffered hnone =>
    obtain ⟨hrest, rfl⟩ := Prod.mk.inj hh
    obtain rfl := List.append_cancel_left hrest
    refine gathers_of_no_line (hmore hs hnone) ?_
    rw [Source.gather, hnone]
    rfl
  | case3 seen buffered hnone pending =>
    rw [heard_of_end] at hh
    obtain ⟨hrest, rfl⟩ := Prod.mk.inj hh
    obtain rfl := List.append_cancel_left hrest
    refine gathers_of_no_line (hmore hs hnone) ?_
    rw [Source.gather, hnone]
    rfl
  | case4 seen buffered hnone b chunk pending ih =>
    rw [heard_of_chunk, List.append_assoc] at hh
    rw [Source.gather, hnone]
    exact ih (hmore hs hnone) hh
  | case5 seen buffered hnone cause pending hi ih =>
    rw [heard_of_interruption hi (count_append_lt hu (hmore hs hnone))] at hh
    rw [Source.gather, hnone]
    simp only [hi, if_true]
    refine ih (hmore hs hnone) ?_
    rwa [List.append_nil]
  | case6 seen buffered hnone cause pending hi =>
    rw [heard_of_failure hi] at hh
    obtain ⟨hrest, rfl⟩ := Prod.mk.inj hh
    obtain rfl := List.append_cancel_left hrest
    refine gathers_of_no_line (hmore hs hnone) ?_
    rw [Source.gather, hnone]
    simp only [hi]
    rfl

end Lines

namespace Announcement

def outcome {α : Type} (action : Reading α) (s : Source) : Except Error α :=
  match action s with
  | .ok a _ => .ok a
  | .error e _ => .error e

def Verdict.conclude (ending : Option IoError) : Verdict → Except Error Announcement
  | .flawed n defect => .error (malformed n defect)
  | .begun n rest =>
    .error (ending.elim (malformed n (if rest = [] then .endOfStream else .unterminated)) .readAnnouncement)
  | .complete lines => ending.elim (.ok (layout ⟨lines.headD []⟩)) fun cause => .error (.readAnnouncement cause)

/-- The lines `earlier` have been read, and `rest` is still to be heard. -/
def Awaits (earlier : List Bytes) (rest : Bytes) (ending : Option IoError) (s : Source) : Prop :=
  heard (Bytes.ofLines earlier ++ s.buffered) s.pending = (Bytes.ofLines earlier ++ rest, ending)

section Reading

variable {earlier : List Bytes} {rest : Bytes} {ending : Option IoError} {s : Source} {n left : Nat}

theorem Awaits.gathers (h : Awaits earlier rest ending s) (hf : Fine earlier) (hlen : earlier.length < 4) :
    Gathers (Bytes.ofLines earlier) rest ending s.rawLine := by
  have hu : (Bytes.ofLines earlier).count Bytes.newline < 4 := by rwa [hf.count_newline]
  exact gather_gathers hu (List.not_mem_nil) h

theorem outcome_bind {α β : Type} (action : Reading α) (next : α → Reading β) (s : Source) :
    outcome (action >>= next) s = match action s with
      | .ok a s' => outcome (next a) s'
      | .error e _ => .error e := by
  simp only [outcome, Bind.bind, EStateM.bind]
  cases action s <;> rfl

theorem outcome_readLine_bind {next : Bytes → Reading Announcement} (h : Awaits earlier rest ending s)
    (hf : Fine earlier) (hlen : left + 1 + earlier.length = 4) (hn : n = earlier.length + 1)
    (hnext : ∀ line tail s', line ≠ [] → Bytes.newline ∉ line → Awaits (earlier ++ [line]) tail ending s' →
      outcome (next line) s' = (match defect? earlier line with
        | some defect => Verdict.flawed n defect
        | none => judgeAfter left (earlier ++ [line]) tail).conclude ending) :
    outcome (readLine n >>= next) s = (judgeAfter (left + 1) earlier rest).conclude ending := by
  have hg := h.gathers hf (by omega)
  rw [outcome_bind]
  rcases hr : s.rawLine with ⟨found, s'⟩
  rw [hr] at hg
  cases hb : rest.breakLine with
  | none =>
    rw [Gathers, hb] at hg
    rw [judgeAfter, hb, ← hn]
    cases ending with
    | some cause =>
      obtain rfl : found = .error cause := hg
      simp [readLine, hr, Verdict.conclude]
    | none =>
      obtain rfl : found = .ok (.cut rest) := hg
      cases rest with
      | nil => simp [readLine, hr, RawLine.content, Verdict.conclude]
      | cons b tail => simp [readLine, hr, RawLine.content, Verdict.conclude]
  | some split =>
    obtain ⟨line, tail⟩ := split
    obtain ⟨rfl, hl⟩ := Bytes.breakLine_eq_some_iff.mp hb
    rw [Gathers, hb] at hg
    obtain ⟨rfl, hheard⟩ : found = .ok (.terminated line) ∧ _ := hg
    rw [judgeAfter_line hl, ← hn]
    cases line with
    | nil => simp [readLine, hr, RawLine.content, Verdict.conclude, defect?_nil]
    | cons b line =>
      have hread : readLine n s = .ok (b :: line) s' := by simp [readLine, hr, RawLine.content]
      have hs' : Awaits (earlier ++ [b :: line]) tail ending s' := by
        simpa [Awaits] using hheard
      rw [hread]
      exact hnext _ tail s' (List.cons_ne_nil b line) hl hs'

theorem outcome_require_bind {defect : Defect} {holds : Bool} {next : Unit → Reading Announcement} :
    outcome (require n defect holds >>= next) s =
      if holds then outcome (next ()) s else .error (malformed n defect) := by
  cases holds <;> rfl

theorem outcome_line {defect : Defect} {check : Bytes → Bool} {next : Bytes → Reading Announcement}
    (h : Awaits earlier rest ending s) (hf : Fine earlier) (hlen : left + 1 + earlier.length = 4)
    (hn : n = earlier.length + 1)
    (hcheck : ∀ line, line ≠ [] → defect? earlier line = if check line then none else some defect)
    (hnext : ∀ line tail s', Fine (earlier ++ [line]) → Awaits (earlier ++ [line]) tail ending s' →
      outcome (next line) s' = (judgeAfter left (earlier ++ [line]) tail).conclude ending) :
    outcome (readLine n >>= fun line => require n defect (check line) >>= fun _ => next line) s =
      (judgeAfter (left + 1) earlier rest).conclude ending := by
  refine outcome_readLine_bind h hf hlen hn fun line tail s' hne hl h' => ?_
  rw [outcome_require_bind, hcheck line hne]
  by_cases hc : check line = true
  · have hd : defect? earlier line = none := by rw [hcheck line hne, if_pos hc]
    simp only [hc, if_true]
    exact hnext line tail s' (hf.snoc hl hd) h'
  · simp only [hc]
    rfl

/-- A byte that is there when the lines have been read is too much. -/
theorem judge_of_more {lines : List Bytes} {b : UInt8} {more : Bytes} {pending : List Delivery} (hlen : lines.length = 4)
    (h : heard (Bytes.ofLines lines ++ b :: more) pending = (Bytes.ofLines lines ++ rest, ending)) :
    judgeAfter 0 lines rest = .flawed 5 .trailing := by
  have hp := prefix_heard (Bytes.ofLines lines ++ b :: more) pending
  rw [h] at hp
  obtain ⟨tail, rfl⟩ := (List.prefix_append_right_inj _).mp hp
  rw [List.cons_append, judgeAfter, hlen]

theorem outcome_readEnd_bind {lines : List Bytes} {a : Announcement} (h : Awaits lines rest ending s) (hf : Fine lines)
    (hlen : lines.length = 4) (ha : a = layout ⟨lines.headD []⟩) :
    outcome (readEnd >>= fun _ => pure a) s = (judgeAfter 0 lines rest).conclude ending := by
  rw [outcome_bind, ha]
  have hstop : ∀ e, (Bytes.ofLines lines ++ [], e) = (Bytes.ofLines lines ++ rest, ending) →
      (judgeAfter 0 lines rest).conclude ending = Verdict.conclude e (.complete lines) := by
    intro e he
    obtain ⟨hrest, rfl⟩ := Prod.mk.inj he
    rw [← List.append_cancel_left hrest, judgeAfter]
  obtain ⟨_ | ⟨b, more⟩, pending⟩ := s
  · cases pending with
    | nil => rw [hstop none h]; rfl
    | cons delivery pending =>
      unfold Awaits at h
      cases delivery with
      | failure cause =>
        have hc : Complete (Bytes.ofLines lines ++ []) := ⟨lines, hlen, hf, List.append_nil _⟩
        rw [heard_of_ends (Delivery.ends_failure.mpr fun _ => hc)] at h
        rw [hstop _ h]
        rfl
      | chunk bytes =>
        cases bytes with
        | nil =>
          rw [heard_of_end] at h
          rw [hstop _ h]
          rfl
        | cons b more =>
          rw [heard_of_chunk, List.append_nil] at h
          rw [judge_of_more hlen h]
          rfl
  · rw [judge_of_more hlen h]
    rfl

theorem outcome_read (h : Awaits [] rest ending s) : outcome read s = (judge rest).conclude ending := by
  unfold read
  refine outcome_line h fine_nil rfl rfl ?_ fun directory tail s hf h => ?_
  · intro line hl
    simp [defect?, hl]
  have hd : ofDirectory ⟨directory⟩ = .ok (layout ⟨directory⟩) :=
    ofDirectory_eq_ok_iff.mpr ⟨hf.newline_not_mem directory (by simp), rfl⟩
  rw [hd]
  refine outcome_line h hf rfl rfl ?_ fun data tail s hf h => ?_
  · intro line hl
    by_cases hs : (Path.mk line).Same ((Path.mk directory).join (Bytes.ofString "data")) <;>
      simp [defect?, hl, layout, dataName, hs]
  refine outcome_line h hf rfl rfl ?_ fun pass tail s hf h => ?_
  · intro line hl
    by_cases hs : (Path.mk line).Same ((Path.mk directory).join (Bytes.ofString "pass")) <;>
      simp [defect?, hl, layout, passName, hs]
  refine outcome_line h hf rfl rfl ?_ fun done tail s hf h => ?_
  · intro line hl
    have hdone : Bytes.ofString "done" ≠ [] := by decide
    by_cases hs : line = Bytes.ofString "done" <;> simp [defect?, hl, doneToken, hs, hdone]
  exact outcome_readEnd_bind h hf rfl rfl

end Reading

theorem ofDeliveries_eq (deliveries : List Delivery) :
    ofDeliveries deliveries = (judge (heard [] deliveries).1).conclude (heard [] deliveries).2 := by
  have h : Awaits [] (heard [] deliveries).1 (heard [] deliveries).2 (Source.ofDeliveries deliveries) := rfl
  rw [← outcome_read h]
  unfold ofDeliveries outcome
  cases read (Source.ofDeliveries deliveries) <;> rfl

theorem heard_contiguous (stream : Bytes) : heard [] [.chunk stream] = (stream, none) := by
  cases stream with
  | nil => exact heard_of_end
  | cons b rest => exact heard_of_chunk

theorem ofBytes_eq (stream : Bytes) : ofBytes stream = (judge stream).conclude none := by
  rw [ofBytes, ofDeliveries_eq, heard_contiguous]

theorem Flawed.ofBytes_eq {stream : Bytes} {n : Nat} {defect : Defect} (h : Flawed stream n defect) :
    ofBytes stream = .error (malformed n defect) := by
  rw [Announcement.ofBytes_eq, h.judge_eq]
  rfl

theorem ofDeliveries_of_failure {deliveries : List Delivery} {stream : Bytes} {cause : IoError}
    (h : heard [] deliveries = (stream, some cause)) :
    (∃ n defect, Flawed stream n defect ∧ ofDeliveries deliveries = .error (malformed n defect)) ∨
      (∀ n defect, ¬Flawed stream n defect) ∧ ofDeliveries deliveries = .error (.readAnnouncement cause) := by
  rw [ofDeliveries_eq, h]
  cases hj : judge stream with
  | flawed n defect => exact Or.inl ⟨n, defect, flawed_iff.mpr hj, rfl⟩
  | begun n rest =>
    refine Or.inr ⟨fun n' defect hf => ?_, rfl⟩
    exact Verdict.noConfusion (hj.symm.trans hf.judge_eq)
  | complete lines =>
    refine Or.inr ⟨fun n' defect hf => ?_, rfl⟩
    exact Verdict.noConfusion (hj.symm.trans hf.judge_eq)

/-- The second line is empty, and that comes before the failure. -/
example : ofDeliveries [.chunk [47, 10], .failure (.plain .interrupted), .chunk [10], .failure (.plain .brokenPipe)] =
    .error (malformed 2 .empty) := by
  decide

/-- After the event it makes no difference what comes. -/
theorem heard_of_event {seen : Bytes} {before : List Delivery} {event : Delivery}
    (h : event.Ends (seen ++ before.flatMap Delivery.bytes)) (after others : List Delivery) :
    heard seen (before ++ event :: after) = heard seen (before ++ event :: others) := by
  induction before generalizing seen with
  | nil =>
    have he : event.Ends seen := by simpa using h
    exact (heard_of_ends he after).trans (heard_of_ends he others).symm
  | cons delivery before ih =>
    rw [List.cons_append, List.cons_append]
    by_cases hd : delivery.Ends seen
    · rw [heard_of_ends hd, heard_of_ends hd]
    · rw [heard_of_not_ends hd, heard_of_not_ends hd]
      refine ih ?_
      rwa [List.append_assoc]

theorem heard_of_cut {seen x y : Bytes} {before after : List Delivery} (hx : x ≠ []) (hy : y ≠ []) :
    heard seen (before ++ .chunk (x ++ y) :: after) = heard seen (before ++ .chunk x :: .chunk y :: after) := by
  induction before generalizing seen with
  | nil =>
    have hxy : ¬(Delivery.chunk (x ++ y)).Ends seen := fun h => hx (List.append_eq_nil_iff.mp h).1
    have hx' : ¬(Delivery.chunk x).Ends seen := hx
    have hy' : ¬(Delivery.chunk y).Ends (seen ++ x) := hy
    rw [List.nil_append, List.nil_append, heard_of_not_ends hxy, heard_of_not_ends hx']
    exact (congrArg (heard · after) (List.append_assoc seen x y).symm).trans (heard_of_not_ends hy' after).symm
  | cons delivery before ih =>
    rw [List.cons_append, List.cons_append]
    by_cases hd : delivery.Ends seen
    · rw [heard_of_ends hd, heard_of_ends hd]
    · rw [heard_of_not_ends hd, heard_of_not_ends hd, ih]

/-- An announcement is read as its bytes alone say when the stream ends. When it fails, that is reported unless the bytes
are flawed already, which no others would mend. So an announcement is only read from a stream that ends, and neither the
cuts between the bytes, nor interruptions that are passed over, nor what would come after the event count. -/
theorem read_depends_on_what_is_heard (deliveries : List Delivery) :
    let stream := (heard [] deliveries).1
    let ending := (heard [] deliveries).2
    (ending = none → ofDeliveries deliveries = ofBytes stream) ∧
      (∀ cause, ending = some cause →
        (∃ n defect, Flawed stream n defect ∧ ofDeliveries deliveries = .error (malformed n defect)) ∨
        (∀ n defect, ¬Flawed stream n defect) ∧ ofDeliveries deliveries = .error (.readAnnouncement cause)) ∧
      (∀ n defect, Flawed stream n defect → ∀ more, ofBytes (stream ++ more) = .error (malformed n defect)) ∧
      (∀ announcement, ofDeliveries deliveries = .ok announcement → ending = none) ∧
      (∀ others, heard [] others = heard [] deliveries → ofDeliveries others = ofDeliveries deliveries) ∧
      (∀ before x y after, deliveries = before ++ .chunk (x ++ y) :: after → x ≠ [] → y ≠ [] →
        ofDeliveries (before ++ .chunk x :: .chunk y :: after) = ofDeliveries deliveries) ∧
      ∀ before event after others, deliveries = before ++ event :: after →
        event.Ends (before.flatMap Delivery.bytes) →
        ofDeliveries (before ++ event :: others) = ofDeliveries deliveries := by
  intro stream ending
  have hfailure : ∀ cause, ending = some cause → _ := fun cause hc =>
    ofDeliveries_of_failure (Prod.ext rfl hc : heard [] deliveries = (stream, some cause))
  have hsame : ∀ others, heard [] others = heard [] deliveries → ofDeliveries others = ofDeliveries deliveries := by
    intro others ho
    rw [ofDeliveries_eq, ofDeliveries_eq, ho]
  refine ⟨fun hend => ?_, hfailure, fun n defect hf more => (hf.append more).ofBytes_eq, fun a ha => ?_, hsame, ?_, ?_⟩
  · rw [ofDeliveries_eq, ofBytes_eq]
    exact congrArg (fun e => Verdict.conclude e (judge stream)) hend
  · by_contra hn
    obtain ⟨cause, hc⟩ := Option.ne_none_iff_exists'.mp hn
    rcases hfailure cause hc with ⟨n, defect, -, he⟩ | ⟨-, he⟩
    · simp [ha] at he
    · simp [ha] at he
  · rintro before x y after rfl hx hy
    exact hsame _ (heard_of_cut hx hy).symm
  · rintro before event after others rfl he
    exact hsame _ (heard_of_event he others after)

end Announcement

end Handover
