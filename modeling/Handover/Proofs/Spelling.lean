import Handover.Path
import Handover.Proofs.Splits

/-! # Spellings of a path

One path has many spellings. A slash may be repeated or stand at the end, and a `.` may stand after any slash; leaving
such a part out gives a shorter spelling of the same path. Two strings of bytes have the same components exactly if a
chain of these changes, made or taken back, leads from one to the other: each of them can be shortened to the plain
spelling of its components. A name put below a path is one component more, so it leaves paths apart that are apart.
-/
namespace Handover.Path

open Bytes (slash dot)

/-- The first spelling has one slash or one `.` more than the second, and it does not count. A slash that is all there
is counts, and so does a `.` that no slash precedes. -/
inductive Shortens : Bytes → Bytes → Prop where
  | repeatedSlash (a b : Bytes) : Shortens (a ++ slash :: slash :: b) (a ++ slash :: b)
  | innerDot (a b : Bytes) : Shortens (a ++ slash :: dot :: slash :: b) (a ++ slash :: b)
  | finalDot (a : Bytes) : Shortens (a ++ [slash, dot]) (a ++ [slash])
  | finalSlash {a : Bytes} : a ≠ [] → Shortens (a ++ [slash]) a

/-- The two are spellings of one path. -/
def Respelled : Bytes → Bytes → Prop := Relation.EqvGen Shortens

theorem respelled_refl (s : Bytes) : Respelled s s := Relation.EqvGen.refl s

theorem Respelled.symm {s t : Bytes} (h : Respelled s t) : Respelled t s := Relation.EqvGen.symm _ _ h

theorem Respelled.trans {s t u : Bytes} (h : Respelled s t) (h' : Respelled t u) : Respelled s u :=
  Relation.EqvGen.trans _ _ _ h h'

theorem Shortens.respelled {s t : Bytes} (h : Shortens s t) : Respelled s t := Relation.EqvGen.rel _ _ h

section Components

theorem segments_eq_splitOn (s : Bytes) : segments s = s.splitOn slash := by
  induction s with
  | nil => rfl
  | cons b rest ih =>
    simp only [List.splitOn] at ih ⊢
    rw [segments, ih, List.splitOnP_cons_eq_if_modifyHead]
    by_cases hb : b = slash
    · simp [hb]
    · simp only [hb, if_false, beq_iff_eq]
      cases hs : List.splitOnP (· == slash) rest with
      | nil => exact absurd hs (List.splitOnP_ne_nil _ rest)
      | cons run runs => rfl

theorem segments_append_slash (a b : Bytes) : segments (a ++ slash :: b) = segments a ++ segments b := by
  simp only [segments_eq_splitOn, List.splitOn]
  exact List.splitOnP_append_cons a b (beq_self_eq_true slash)

theorem intercalate_segments (s : Bytes) : [slash].intercalate (segments s) = s := by
  rw [segments_eq_splitOn]
  exact List.intercalate_splitOn slash

theorem isSignificant_eq_false_iff {run : Bytes} : isSignificant run = false ↔ run = [] ∨ run = [dot] := by
  simp only [isSignificant, decide_eq_false_iff_not, ne_eq, not_and_or, not_not]

theorem significant_append {runs more : List Bytes} (h : runs ≠ []) :
    significant (runs ++ more) = significant runs ++ more.filter isSignificant := by
  cases runs with
  | nil => exact absurd rfl h
  | cons run runs =>
    simp only [List.cons_append, significant, List.filter_append]
    split <;> rfl

/-- What stands before a slash tells whether the path begins with one. -/
theorem components_append_slash (a b : Bytes) :
    components ⟨a ++ slash :: b⟩ =
      ⟨(Path.mk (a ++ [slash])).isAbsolute, significant (segments a) ++ (segments b).filter isSignificant⟩ := by
  have hroot : (Path.mk (a ++ slash :: b)).isAbsolute = (Path.mk (a ++ [slash])).isAbsolute := by
    simp [isAbsolute, List.head?_append]
  rw [components, hroot, segments_append_slash, significant_append (segments_ne_nil a)]

theorem Shortens.components_eq {s t : Bytes} (h : Shortens s t) : components ⟨s⟩ = components ⟨t⟩ := by
  cases h with
  | repeatedSlash a b =>
    have hb : segments (slash :: b) = [] :: segments b := segments_append_slash [] b
    rw [components_append_slash, components_append_slash, hb]
    rfl
  | innerDot a b =>
    have hb : segments (dot :: slash :: b) = [dot] :: segments b := segments_append_slash [dot] b
    rw [components_append_slash, components_append_slash, hb]
    rfl
  | finalDot a =>
    rw [components_append_slash, components_append_slash]
    rfl
  | finalSlash ha =>
    have hroot : (Path.mk (t ++ [slash])).isAbsolute = (Path.mk t).isAbsolute := by
      simp [isAbsolute, List.head?_append_of_ne_nil t ha]
    have hnone : (segments []).filter isSignificant = [] := rfl
    rw [components_append_slash, hroot, hnone, List.append_nil]
    rfl

theorem Respelled.same {s t : Bytes} (h : Respelled s t) : Same ⟨s⟩ ⟨t⟩ := by
  induction h with
  | rel s t h => exact h.components_eq
  | refl s => exact same_refl _
  | symm s t _ ih => exact same_symm ih
  | trans s t u _ _ ih ih' => exact same_trans ih ih'

end Components

section Plain

/-- The shortest spelling of a path with these components. -/
def Components.plain (c : Components) : Bytes :=
  if c.rooted then slash :: [slash].intercalate c.names else [slash].intercalate c.names

/-- What runs of bytes add to a path when each is put below the one before. -/
def below (runs : List Bytes) : Bytes := runs.flatMap (slash :: ·)

@[simp] theorem below_nil : below [] = [] := rfl

@[simp] theorem below_cons (run : Bytes) (runs : List Bytes) : below (run :: runs) = slash :: (run ++ below runs) := by
  simp [below]

theorem intercalate_eq_append_below (run : Bytes) (runs : List Bytes) :
    [slash].intercalate (run :: runs) = run ++ below runs := by
  induction runs generalizing run with
  | nil => simp
  | cons next runs ih => rw [List.intercalate_cons_cons, ih, below_cons, List.append_assoc, List.singleton_append]

theorem respelled_skip (a : Bytes) {run : Bytes} (h : isSignificant run = false) (rest : Bytes) :
    Respelled (a ++ slash :: (run ++ slash :: rest)) (a ++ slash :: rest) := by
  rcases isSignificant_eq_false_iff.mp h with rfl | rfl
  · exact (Shortens.repeatedSlash a rest).respelled
  · exact (Shortens.innerDot a rest).respelled

theorem respelled_skip_last (a : Bytes) {run : Bytes} (h : isSignificant run = false) :
    Respelled (a ++ slash :: run) (a ++ [slash]) := by
  rcases isSignificant_eq_false_iff.mp h with rfl | rfl
  · exact respelled_refl _
  · exact (Shortens.finalDot a).respelled

/-- Below a path that is not empty only the significant runs count. -/
theorem respelled_below {a : Bytes} (ha : a ≠ []) (runs : List Bytes) :
    Respelled (a ++ below runs) (a ++ below (runs.filter isSignificant)) := by
  induction runs generalizing a with
  | nil => exact respelled_refl _
  | cons run runs ih =>
    by_cases hrun : isSignificant run = true
    · have hnext := @ih (a ++ slash :: run) (List.append_ne_nil_of_left_ne_nil ha _)
      rw [List.filter_cons_of_pos hrun]
      simpa using hnext
    · have hnone : isSignificant run = false := Bool.eq_false_of_not_eq_true hrun
      rw [List.filter_cons_of_neg hrun, below_cons]
      cases runs with
      | nil =>
        have hlast := (respelled_skip_last a hnone).trans (Shortens.finalSlash ha).respelled
        simpa using hlast
      | cons next runs =>
        rw [below_cons]
        exact (respelled_skip a hnone _).trans (ih ha)

theorem respelled_below_root (run : Bytes) (runs : List Bytes) :
    Respelled (below (run :: runs)) (slash :: [slash].intercalate ((run :: runs).filter isSignificant)) := by
  induction runs generalizing run with
  | nil =>
    by_cases hrun : isSignificant run = true
    · rw [List.filter_cons_of_pos hrun]
      simpa using respelled_refl (slash :: run)
    · rw [List.filter_cons_of_neg hrun]
      simpa using respelled_skip_last [] (Bool.eq_false_of_not_eq_true hrun)
  | cons next runs ih =>
    by_cases hrun : isSignificant run = true
    · have hbelow := respelled_below (List.cons_ne_nil slash run) (next :: runs)
      rw [List.filter_cons_of_pos hrun, intercalate_eq_append_below]
      simpa using hbelow
    · have hskip := respelled_skip [] (Bool.eq_false_of_not_eq_true hrun) (next ++ below runs)
      rw [List.filter_cons_of_neg hrun, below_cons, below_cons]
      exact hskip.trans (below_cons next runs ▸ ih next)

theorem respelled_plain (s : Bytes) : Respelled s (components ⟨s⟩).plain := by
  have hs := intercalate_segments s
  cases hruns : segments s with
  | nil => exact absurd hruns (segments_ne_nil s)
  | cons run runs =>
    rw [hruns, intercalate_eq_append_below] at hs
    rw [components, hruns, Components.plain, significant]
    cases run with
    | cons b run =>
      have hb : b ≠ slash := by
        rintro rfl
        rw [← hs, List.cons_append] at hruns
        exact absurd (List.cons.inj hruns).1 (by simp)
      have habs : (Path.mk s).isAbsolute = false := by simp [isAbsolute, ← hs, hb]
      rw [habs, if_neg (List.cons_ne_nil b run), if_neg Bool.false_ne_true, intercalate_eq_append_below, ← hs]
      exact respelled_below (List.cons_ne_nil b run) runs
    | nil =>
      rw [if_pos rfl, ← hs, List.nil_append]
      cases runs with
      | nil => exact respelled_refl _
      | cons next runs => exact respelled_below_root next runs

end Plain

theorem same_iff_respelled {p q : Path} : p.Same q ↔ Respelled p.bytes q.bytes := by
  refine ⟨fun h => ?_, Respelled.same⟩
  have hq := respelled_plain q.bytes
  rw [← show components p = components q from h] at hq
  exact (respelled_plain p.bytes).trans hq.symm

section Entries

variable {d e : Path} {name : Bytes}

/-- A name for one thing in a directory: one run that counts. -/
def IsEntry (name : Bytes) : Prop := isSignificant name = true ∧ slash ∉ name

instance (name : Bytes) : Decidable (IsEntry name) := inferInstanceAs (Decidable (_ ∧ _))

theorem IsEntry.segments_eq (h : IsEntry name) : segments name = [name] := by
  have hn : ∀ b ∈ name, (b == slash) = false := by
    intro b hb
    exact beq_eq_false_iff_ne.mpr fun he => h.2 (he ▸ hb)
  rw [segments_eq_splitOn]
  exact List.splitOnP_eq_singleton hn

theorem IsEntry.isAbsolute_eq_false (h : IsEntry name) : (Path.mk name).isAbsolute = false := by
  refine Bool.eq_false_of_not_eq_true fun ha => h.2 ?_
  exact List.mem_of_head? (isAbsolute_iff.mp ha)

/-- Put below a path, a name comes after all its components, whatever the path ends in. -/
theorem components_join (h : IsEntry name) :
    (d.join name).components = ⟨d.components.rooted, d.components.names ++ [name]⟩ := by
  have hsig : [name].filter isSignificant = [name] := by simp [h.1]
  have hjoin : d.join name = ⟨d.bytes ++ separator d.bytes ++ name⟩ :=
    congrArg Path.mk (join_of_relative h.isAbsolute_eq_false)
  obtain ⟨bytes⟩ := d
  rw [hjoin]
  rcases List.eq_nil_or_concat bytes with rfl | ⟨front, last, rfl⟩
  · have hne : name ≠ [] := (decide_eq_true_iff.mp h.1).1
    simpa [components, separator, h.segments_eq, significant, hne, isAbsolute, segments] using h.isAbsolute_eq_false
  · rw [List.concat_eq_append]
    by_cases hlast : last = slash
    · subst hlast
      have hnone : (segments []).filter isSignificant = [] := rfl
      have hsep : separator (front ++ [slash]) = [] := by simp [separator]
      rw [hsep, List.append_nil, List.append_assoc, List.singleton_append, components_append_slash,
        components_append_slash, h.segments_eq, hsig, hnone, List.append_nil]
    · have hsep : separator (front ++ [last]) = [slash] := by simp [separator, hlast]
      have hroot : (Path.mk (front ++ [last] ++ [slash])).isAbsolute = (Path.mk (front ++ [last])).isAbsolute := by
        simp [isAbsolute, List.head?_append]
      rw [hsep, List.append_assoc _ [slash], List.singleton_append, components_append_slash, h.segments_eq, hsig, hroot]
      rfl

/-- Two directories are the same exactly if what has one name in them is. -/
theorem same_join_iff (h : IsEntry name) : (d.join name).Same (e.join name) ↔ d.Same e := by
  unfold Same
  rw [components_join h, components_join h, Components.mk.injEq, List.append_left_inj, ← Components.mk.injEq]

end Entries

end Handover.Path
