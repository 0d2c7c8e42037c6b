import Handover.Consumer.Ward
import Handover.Proofs.Deliveries

/-! # No helper outlives its holder

The flag of a helper mirrors whether its child has been waited for: each look keeps that, whatever it finds and even if
it fails, so any number of looks do. A holder that lets go therefore kills the child exactly if it has never been told
how it ended, never signals a number that may have a new bearer, and has waited for the child in the end. If the output
of the child is refused, the holder is told of the child's own failure before it is told what is wrong with the output.
-/
namespace Handover

theorem Announcement.ne_helperFailed_of_read {deliveries : List Delivery} {e : Error}
    (h : ofDeliveries deliveries = .error e) (status : WaitStatus) : e ≠ .helperFailed status := by
  rintro rfl
  rw [ofDeliveries_eq] at h
  cases hj : judge (heard [] deliveries).1 <;> cases hh : (heard [] deliveries).2 <;>
    simp [hj, hh, Verdict.conclude, malformed] at h

theorem WaitStatus.isFailureExit_iff {status : WaitStatus} :
    status.isFailureExit = true ↔ ∃ code, status.code? = some code ∧ code ≠ 0 := by
  unfold isFailureExit
  cases status.code? <;> simp

/-- The status of a child that has ended, by exiting or by a signal, as opposed to one that was stopped or goes on. -/
inductive WaitStatus.IsEnd : WaitStatus → Prop where
  | exited {code : Nat} : code < 256 → IsEnd (.exited code)
  | killed {signal : Nat} : 1 ≤ signal → signal ≤ 126 → IsEnd (.killed signal)
  | dumped {signal : Nat} : 1 ≤ signal → signal ≤ 126 → IsEnd ⟨BitVec.ofNat 32 (128 + signal)⟩

theorem WaitStatus.IsEnd.bits_eq_zero_iff {status : WaitStatus} (h : status.IsEnd) :
    status.bits = 0 ↔ status.code? = some 0 := by
  have hzero : status.bits = 0 ↔ status.bits.toNat = 0 := by simp [BitVec.toNat_eq]
  rw [hzero, code?]
  cases h with
  | exited hlt => simp [WaitStatus.exited]; omega
  | killed hpos hle => simp [WaitStatus.killed]; omega
  | dumped hpos hle => simp; omega

theorem Helper.refusal_eq_helperFailed_iff {e : Error} (he : ∀ status, e ≠ .helperFailed status)
    (answer : Except IoError WaitStatus) (status : WaitStatus) :
    refusal e answer.toOption = .helperFailed status ↔
      answer = .ok status ∧ ∃ code, status.code? = some code ∧ code ≠ 0 := by
  rw [← WaitStatus.isFailureExit_iff]
  cases answer with
  | error cause => simp [Except.toOption, refusal, he]
  | ok found =>
    cases hf : found.isFailureExit with
    | true =>
      simp only [Except.toOption, refusal, hf, if_true, Error.helperFailed.injEq, Except.ok.injEq]
      exact ⟨fun h => ⟨h, h ▸ hf⟩, And.left⟩
    | false =>
      simp only [Except.toOption, refusal, hf, Bool.false_eq_true, if_false, he, Except.ok.injEq, false_iff]
      rintro ⟨rfl, ht⟩
      simp [hf] at ht

theorem Helper.refusal_eq_or (e : Error) (found : Option WaitStatus) :
    refusal e found = e ∨ ∃ status, refusal e found = .helperFailed status := by
  cases found with
  | none => exact Or.inl rfl
  | some status => cases hf : status.isFailureExit <;> simp [refusal, hf]

namespace Ward

variable {w : Ward} {status : WaitStatus}

/-- What has been done about a child once its holder has let go: it has been killed exactly if its holder was never told
how it ended, nobody else was hit, and it has been waited for, unless that failed after it was killed. -/
structure LetGo (told : Prop) (w : Ward) : Prop where
  killed_iff : .killed ∈ w.history ↔ ¬told
  not_strayed : .strayed ∉ w.history
  settled : (∃ status, w.condition = .reaped status) ∨
    ∃ status cause, w.condition = .killed status ∧ w.history.getLast? = some (.waited (.error cause))

theorem wait_of_killed (hc : w.condition = .killed status) :
    w.wait = match w.life.waitFault w.moment with
      | some cause => .error cause (w.enter (.waited (.error cause)))
      | none => .ok status ((w.become (.reaped status)).enter (.waited (.ok status))) := by
  have hw : w.wait = w.waitUnreaped := by simp [wait, hc]
  have hl : w.lastStatus? = some status := by simp [lastStatus?, hc]
  rw [hw, waitUnreaped, hl]
  cases w.life.waitFault w.moment <;> rfl

/-- Giving up a child that nobody has waited for. -/
theorem reap_of_running (hc : w.condition = .running) :
    ∃ w', supervisor.reap w.life.number w = ((w.life.answerIfKilled w.moment).toOption, w') ∧
      w'.history = w.history ++ [.killed, .waited (w.life.answerIfKilled w.moment)] ∧
      w'.condition = match w.life.answerIfKilled w.moment with
        | .ok status => .reaped status
        | .error _ => .killed (w.life.statusIfKilled w.moment) := by
  have hk : w.kill = (w.become (.killed (w.life.statusIfKilled w.moment))).enter .killed := by simp [kill, hc]
  have hm : w.kill.moment = w.moment + 1 := by simp [hk, moment, enter, become]
  have hlife : w.kill.life = w.life := by rw [hk]; rfl
  have hkilled : w.kill.condition = .killed (w.life.statusIfKilled w.moment) := by rw [hk]; rfl
  have hw := wait_of_killed hkilled
  rw [hm, hlife] at hw
  unfold Supervisor.reap Life.answerIfKilled
  simp only [supervisor, hlife, if_true, hw]
  cases w.life.waitFault (w.moment + 1) with
  | some cause => exact ⟨_, rfl, by simp [hk, enter, become], hkilled⟩
  | none => exact ⟨_, rfl, by simp [hk, enter, become], rfl⟩

end Ward

namespace Helper

/-! ## Looking -/

section Looking

variable {σ : Type} (S : Supervisor σ)

def look (h : Helper) (s : σ) : Except Error (Option WaitStatus) × Helper × σ :=
  match h.poll S s with
  | .ok (status, h) s => (.ok status, h, s)
  | .error e s => (.error e, h, s)

/-- So many looks one after the other, and what they found. -/
def looks : Nat → Helper → σ → List (Except Error (Option WaitStatus)) × Helper × σ
  | 0, h, s => ([], h, s)
  | n + 1, h, s =>
    let (answer, h, s) := h.look S s
    let (answers, h, s) := looks n h s
    (answer :: answers, h, s)

theorem length_looks (n : Nat) (h : Helper) (s : σ) : (looks S n h s).1.length = n := by
  induction n generalizing h s with
  | zero => rfl
  | succ n ih => simpa [looks] using ih _ _

theorem looks_succ (n : Nat) (h : Helper) (s : σ) :
    (looks S (n + 1) h s).1 =
      (looks S n h s).1 ++ [((looks S n h s).2.1.look S (looks S n h s).2.2).1] := by
  induction n generalizing h s with
  | zero => rfl
  | succ n ih => exact congrArg (_ :: ·) (ih _ _)

end Looking

/-- Some look has told how the child ended. -/
def Told (answers : List (Except Error (Option WaitStatus))) : Prop := ∃ status, .ok (some status) ∈ answers

/-- The flag of the helper and the answers so far say whether the child has been waited for. -/
structure InCare (answers : List (Except Error (Option WaitStatus))) (h : Helper) (w : Ward) : Prop where
  number : h.child = w.life.number
  mirrored : (h.reaped = false ∧ w.condition = .running ∧ ¬Told answers) ∨
    (h.reaped = true ∧ ∃ status, w.condition = .reaped status ∧ .ok (some status) ∈ answers ∧
      ∀ other, .ok (some other) ∈ answers → other = status)
  not_killed : .killed ∉ w.history
  not_strayed : .strayed ∉ w.history

variable {answers : List (Except Error (Option WaitStatus))} {h : Helper} {w : Ward}

theorem InCare.enter (hc : InCare answers h w) (deed : Deed) (hk : .killed ≠ deed) (hs : .strayed ≠ deed) :
    InCare answers h (w.enter deed) := by
  refine ⟨hc.number, hc.mirrored, ?_, ?_⟩
  · simpa [Ward.enter, hk] using hc.not_killed
  · simpa [Ward.enter, hs] using hc.not_strayed

theorem InCare.unanswered (hc : InCare answers h w) {answer : Except Error (Option WaitStatus)}
    (ha : ∀ status, answer ≠ .ok (some status)) : InCare (answers ++ [answer]) h w := by
  have hm : ∀ status, .ok (some status) ∈ answers ++ [answer] ↔ .ok (some status) ∈ answers := by
    intro status
    simp [(ha status).symm]
  refine ⟨hc.number, ?_, hc.not_killed, hc.not_strayed⟩
  simpa only [Told, hm] using hc.mirrored

theorem InCare.told (hc : InCare answers h w) (hr : h.reaped = false) (status : WaitStatus) :
    InCare (answers ++ [.ok (some status)]) { h with reaped := true } (w.become (.reaped status)) := by
  rcases hc.mirrored with ⟨-, -, hnone⟩ | ⟨ht, -⟩
  · refine ⟨hc.number, Or.inr ⟨rfl, status, rfl, by simp, fun other ho => ?_⟩, hc.not_killed, hc.not_strayed⟩
    rcases List.mem_append.mp ho with ho | ho
    · exact absurd ⟨other, ho⟩ hnone
    · simpa using ho
  · simp [hr] at ht

/-- A look keeps the flag true to the child, whatever it finds. -/
theorem look_inCare (hc : InCare answers h w) :
    InCare (answers ++ [(h.look Ward.supervisor w).1]) (h.look Ward.supervisor w).2.1 (h.look Ward.supervisor w).2.2 ∧
      (h.look Ward.supervisor w).2.2.life = w.life := by
  have hpoll : Ward.supervisor.poll h.child w = w.poll := if_pos hc.number
  unfold look Helper.poll
  rw [hpoll]
  rcases hc.mirrored with ⟨hr, hrun, -⟩ | ⟨hr, status, hreaped, hm, hsame⟩
  · have hw : w.poll = w.pollUnreaped := by simp [Ward.poll, hrun]
    rw [hw, Ward.pollUnreaped]
    cases w.life.pollFault w.moment with
    | some cause => exact ⟨(hc.enter _ (by simp) (by simp)).unanswered (by simp), rfl⟩
    | none =>
      cases w.status? with
      | none => exact ⟨(hc.enter _ (by simp) (by simp)).unanswered (by simp), rfl⟩
      | some status => exact ⟨(hc.told hr status).enter _ (by simp) (by simp), rfl⟩
  · have hw : w.poll = .ok (some status) (w.enter (.polled (.ok (some status)))) := by simp [Ward.poll, hreaped]
    rw [hw]
    have he := hc.enter (.polled (.ok (some status))) (by simp) (by simp)
    refine ⟨⟨he.number, Or.inr ⟨rfl, status, hreaped, by simp, fun other ho => ?_⟩, he.not_killed, he.not_strayed⟩, rfl⟩
    rcases List.mem_append.mp ho with ho | ho
    · exact hsame other ho
    · simpa using ho

/-- What a look finds is what the child has come to by then, unless it has been told before. -/
def Finds (answers : List (Except Error (Option WaitStatus))) (w : Ward) (answer : Except Error (Option WaitStatus)) :
    Prop :=
  (∀ status, .ok (some status) ∈ answers → answer = .ok (some status)) ∧
    (¬Told answers → answer = match w.life.pollFault w.moment with
      | some cause => .error (.wait cause)
      | none => .ok (w.life.statusAt? w.moment))

theorem look_finds (hc : InCare answers h w) :
    Finds answers w (h.look Ward.supervisor w).1 ∧ (h.look Ward.supervisor w).2.2.moment = w.moment + 1 := by
  have hpoll : Ward.supervisor.poll h.child w = w.poll := if_pos hc.number
  unfold look Helper.poll
  rw [hpoll]
  rcases hc.mirrored with ⟨-, hrun, hnone⟩ | ⟨-, status, hreaped, hm, hsame⟩
  · have hw : w.poll = w.pollUnreaped := by simp [Ward.poll, hrun]
    have hs : w.status? = w.life.statusAt? w.moment := by simp [Ward.status?, hrun]
    refine ⟨⟨fun status hm => absurd ⟨status, hm⟩ hnone, fun _ => ?_⟩, ?_⟩
    · rw [hw, Ward.pollUnreaped, hs]
      cases w.life.pollFault w.moment <;> cases w.life.statusAt? w.moment <;> rfl
    · rw [hw, Ward.pollUnreaped, hs]
      cases w.life.pollFault w.moment <;> cases w.life.statusAt? w.moment <;> simp [Ward.moment, Ward.enter, Ward.become]
  · have hw : w.poll = .ok (some status) (w.enter (.polled (.ok (some status)))) := by simp [Ward.poll, hreaped]
    rw [hw]
    refine ⟨⟨fun other ho => ?_, fun hn => absurd ⟨status, hm⟩ hn⟩, by simp [Ward.moment, Ward.enter]⟩
    rw [hsame other ho]

theorem looks_inCare (n : Nat) (hc : InCare answers h w) :
    InCare (answers ++ (looks Ward.supervisor n h w).1) (looks Ward.supervisor n h w).2.1
        (looks Ward.supervisor n h w).2.2 ∧
      (looks Ward.supervisor n h w).2.2.life = w.life ∧ (looks Ward.supervisor n h w).2.2.moment = w.moment + n := by
  induction n generalizing answers h w with
  | zero => exact ⟨by simpa [looks] using hc, rfl, rfl⟩
  | succ n ih =>
    obtain ⟨hone, hlife⟩ := look_inCare hc
    obtain ⟨hrest, hlife', hmoment⟩ := ih hone
    have hnext := (look_finds hc).2
    refine ⟨?_, hlife'.trans hlife, hmoment.trans (by omega)⟩
    rwa [List.append_assoc] at hrest

/-! ## Letting go -/

theorem InCare.letGo_of_reaped (hc : InCare answers h w) (hr : h.reaped = true) {told : Prop} (ht : told) :
    w.LetGo told := by
  rcases hc.mirrored with ⟨hf, -⟩ | ⟨-, status, hreaped, -⟩
  · simp [hr] at hf
  · exact ⟨by simpa [ht] using hc.not_killed, hc.not_strayed, Or.inl ⟨status, hreaped⟩⟩

/-- A helper that is given up has been seen to end, or is killed and waited for. -/
theorem InCare.letGo_abandon (hc : InCare answers h w) : (h.abandon Ward.supervisor w).LetGo (Told answers) := by
  rcases hc.mirrored with ⟨hr, hrun, hnone⟩ | ⟨hr, status, hreaped, hm, -⟩
  · obtain ⟨w', hreap, hhistory, hcondition⟩ := Ward.reap_of_running hrun
    have ha : h.abandon Ward.supervisor w = w' := by simp [abandon, hr, hc.number, hreap]
    rw [ha]
    refine ⟨by simp [hhistory, hnone], ?_, ?_⟩
    · simpa [hhistory] using hc.not_strayed
    · cases hanswer : w.life.answerIfKilled w.moment with
      | ok status => exact Or.inl ⟨status, by rw [hcondition, hanswer]⟩
      | error cause => exact Or.inr ⟨_, cause, by rw [hcondition, hanswer], by simp [hhistory, hanswer]⟩
  · rw [abandon_of_reaped Ward.supervisor hr]
    exact hc.letGo_of_reaped hr ⟨status, hm⟩

theorem abandon_awaited (hn : h.child = w.life.number) (ha : w.condition = .awaited) :
    h.abandon Ward.supervisor w = w := by
  cases hr : h.reaped with
  | true => exact abandon_of_reaped Ward.supervisor hr w
  | false =>
    have hk : w.kill = w := by simp [Ward.kill, ha]
    have hw : w.wait = .error (.system .again) w := by simp [Ward.wait, ha]
    simp [abandon, hr, Supervisor.reap, Ward.supervisor, hn, hk, hw]

theorem wait_of_ok {w' : Ward} {status : WaitStatus} (hw : Ward.supervisor.wait h.child w = .ok status w') :
    h.wait Ward.supervisor w = if status.bits = 0 then .ok () w' else .error (.helperFailed status) w' := by
  unfold Helper.wait
  rw [hw]
  by_cases hs : status.bits = 0 <;> simp [WaitStatus.isSuccess, hs]

/-- The ways in which a wait can go, for a holder that has or has not been told before how the child ended. -/
inductive WaitGoes (told : Prop) (h : Helper) (w : Ward) : Prop where
  /-- The wait succeeds exactly if the child exits with zero, and nothing is killed. -/
  | answered (status : WaitStatus) (w' : Ward) (reaped : w'.condition = .reaped status) (letGo : w'.LetGo True)
      (result : h.wait Ward.supervisor w = if status.bits = 0 then .ok () w' else .error (.helperFailed status) w')
      (success : status.IsEnd → (status.bits = 0 ↔ status.code? = some 0))
  /-- The wait fails, and the child is given up. -/
  | failed (cause : IoError) (w' : Ward) (fault : w.life.waitFault w.moment = some cause) (untold : ¬told)
      (letGo : w'.LetGo told) (result : h.wait Ward.supervisor w = .error (.wait cause) w')
  /-- The child runs until it is killed, so the wait never returns. -/
  | never (e : Error) (w' : Ward) (immortal : w.life.ending = none) (untold : ¬told) (awaited : w'.condition = .awaited)
      (history : w'.history = w.history) (result : h.wait Ward.supervisor w = .error e w')

theorem InCare.waitGoes (hc : InCare answers h w) : WaitGoes (Told answers) h w := by
  have hwait : Ward.supervisor.wait h.child w = w.wait := if_pos hc.number
  rcases hc.mirrored with ⟨hr, hrun, hnone⟩ | ⟨hr, status, hreaped, -⟩
  · have hw : w.wait = w.waitUnreaped := by simp [Ward.wait, hrun]
    have hl : w.lastStatus? = w.life.ending.map Prod.snd := by simp [Ward.lastStatus?, hrun]
    rw [hw, Ward.waitUnreaped, hl] at hwait
    cases hf : w.life.waitFault w.moment with
    | some cause =>
      rw [hf] at hwait
      have hgo := (hc.enter (.waited (.error cause)) (by simp) (by simp)).letGo_abandon
      exact .failed cause _ hf hnone hgo (by simp [Helper.wait, hwait])
    | none =>
      cases he : w.life.ending with
      | none =>
        rw [hf, he] at hwait
        have ha := abandon_awaited (h := h) (w := w.become .awaited) hc.number rfl
        exact .never (.wait (.system .again)) (w.become .awaited) he hnone rfl rfl (by simp [Helper.wait, hwait, ha])
      | some last =>
        rw [hf, he] at hwait
        have hgo := ((hc.told hr last.2).enter (.waited (.ok last.2)) (by simp) (by simp)).letGo_of_reaped rfl trivial
        exact .answered last.2 _ rfl hgo (wait_of_ok hwait) WaitStatus.IsEnd.bits_eq_zero_iff
  · have hw : w.wait = .ok status (w.enter (.waited (.ok status))) := by simp [Ward.wait, hreaped]
    have hgo := (hc.enter (.waited (.ok status)) (by simp) (by simp)).letGo_of_reaped hr trivial
    exact .answered status (w.enter (.waited (.ok status))) hreaped hgo (wait_of_ok (hwait.trans hw))
      WaitStatus.IsEnd.bits_eq_zero_iff

/-! ## From launch to parting -/

theorem inCare_launched (life : Life) (announcement : Announcement) :
    InCare [] ⟨life.number, announcement, false⟩ ((Ward.born life).enter .hungUp) := by
  refine ⟨rfl, Or.inl ⟨rfl, rfl, ?_⟩, ?_, ?_⟩ <;> simp [Told, Ward.born, Ward.enter]

/-- A launched helper is never left to itself, whatever its child writes, when and how it ends and which calls about it
fail. If its output is refused, the launch fails once the child has been killed and waited for: the child's own failure
is reported if it exited with one, and otherwise what is wrong with the output. If its output is accepted, the holder may
look as often as it likes: each look finds whether and how the child has ended by then, and the flag of the helper stays
true to the child. Whoever then drops it has killed it exactly
if no look had told how it ended, and has waited for it in any case. Whoever waits for it succeeds exactly if the child
exits with zero. -/
theorem no_helper_outlives_its_holder (life : Life) (l : Launch) :
    match Announcement.ofDeliveries life.output with
    | .error e => ∃ e' w answer, launch Ward.supervisor l (Ward.born life) = .error e' w ∧
        w.history = [.hungUp, .killed, .waited answer] ∧ answer = life.answerIfKilled 1 ∧
        (w.condition = match answer with
          | .ok status => .reaped status
          | .error _ => .killed (life.statusIfKilled 1)) ∧
        (∀ status, e' = .helperFailed status ↔ answer = .ok status ∧ ∃ code, status.code? = some code ∧ code ≠ 0) ∧
        (e' = e ∨ ∃ status, e' = .helperFailed status)
    | .ok announcement => ∃ h w, launch Ward.supervisor l (Ward.born life) = .ok h w ∧ h.announcement = announcement ∧
        ∀ n, ∃ answers h' w', looks Ward.supervisor n h w = (answers, h', w') ∧ answers.length = n ∧ w'.life = life ∧
          w'.moment = n + 1 ∧ InCare answers h' w' ∧
          (∃ answer, (looks Ward.supervisor (n + 1) h w).1 = answers ++ [answer] ∧ Finds answers w' answer) ∧
          (h'.abandon Ward.supervisor w').LetGo (Told answers) ∧ WaitGoes (Told answers) h' w' := by
  cases hread : Announcement.read (Source.ofDeliveries life.output) with
  | error e rest =>
    have hd : Announcement.ofDeliveries life.output = .error e := by simp [Announcement.ofDeliveries, hread]
    obtain ⟨w, hreap, hhistory, hcondition⟩ := Ward.reap_of_running (w := (Ward.born life).enter .hungUp) rfl
    rw [hd]
    refine ⟨refusal e (life.answerIfKilled 1).toOption, w, life.answerIfKilled 1, ?_, hhistory, rfl, hcondition,
      refusal_eq_helperFailed_iff (Announcement.ne_helperFailed_of_read hd) _, refusal_eq_or e _⟩
    have hstart : Ward.supervisor.start l (Ward.born life) = .ok ⟨life.number, life.output⟩ (Ward.born life) := rfl
    have hangUp : Ward.supervisor.hangUp life.number rest.pending.length (Ward.born life) =
        (Ward.born life).enter .hungUp := rfl
    have hreap' : Ward.supervisor.reap life.number ((Ward.born life).enter .hungUp) = _ := hreap
    simp only [launch, hstart, hread, hangUp, hreap']
    rfl
  | ok announcement rest =>
    have hd : Announcement.ofDeliveries life.output = .ok announcement := by simp [Announcement.ofDeliveries, hread]
    rw [hd]
    refine ⟨⟨life.number, announcement, false⟩, (Ward.born life).enter .hungUp, ?_, rfl, fun n => ?_⟩
    · simp [launch, Ward.supervisor, hread, Ward.born]
    · obtain ⟨hcare, hlife, hmoment⟩ := looks_inCare n (inCare_launched life announcement)
      exact ⟨_, _, _, rfl, length_looks _ _ _ _, hlife, hmoment.trans (Nat.add_comm 1 n), hcare,
        ⟨_, looks_succ _ _ _ _, (look_finds hcare).1⟩, hcare.letGo_abandon, hcare.waitGoes⟩

end Helper

end Handover
