import Mathlib

/-! # Where a list splits

Histories and streams grow at their end, and what holds of each of their elements is said of it together with all that
comes before it.
-/
namespace Handover

variable {α : Type}

theorem forall_mem_triple {P : α → Prop} {a b c : α} : (∀ x ∈ [a, b, c], P x) ↔ P a ∧ P b ∧ P c := by
  simp

/-- A further element has only itself to answer for. -/
theorem forall_split_snoc {P : List α → α → Prop} {items : List α} {last : α}
    (h : ∀ before a after, items = before ++ a :: after → P before a) (hl : P items last) :
    ∀ before a after, items ++ [last] = before ++ a :: after → P before a := by
  intro before a after hs
  rcases List.eq_nil_or_concat after with rfl | ⟨after, b, rfl⟩
  · obtain ⟨rfl, ha⟩ := List.append_inj' hs rfl
    obtain rfl := List.singleton_inj.mp ha
    exact hl
  · rw [List.concat_eq_append, ← List.cons_append, ← List.append_assoc] at hs
    exact h before a after (List.append_inj' hs rfl).1

theorem split_right {lead items pre post : List α} {a : α} (h : lead ++ items = pre ++ a :: post)
    (hl : a ∉ lead) : ∃ front, pre = lead ++ front ∧ items = front ++ a :: post := by
  rcases List.append_eq_append_iff.mp h with ⟨front, hp, hi⟩ | ⟨middle, rfl, hs⟩
  · exact ⟨front, hp, hi⟩
  · cases middle with
    | nil => exact ⟨[], by simp, hs.symm⟩
    | cons b middle =>
      obtain rfl : a = b := (List.cons.inj hs).1
      exact absurd (List.mem_append_right _ (List.mem_cons_self ..)) hl

theorem split_left {items rest front post : List α} {a : α} (h : items ++ rest = front ++ a :: post)
    (hr : a ∉ rest) : ∃ back, items = front ++ a :: back := by
  rcases List.append_eq_append_iff.mp h with ⟨middle, -, rfl⟩ | ⟨middle, rfl, hs⟩
  · exact absurd (List.mem_append_right _ (List.mem_cons_self ..)) hr
  · cases middle with
    | nil =>
      have hm : a ∈ rest := by
        rw [← List.nil_append rest, ← hs]
        exact List.mem_cons_self ..
      exact absurd hm hr
    | cons b back =>
      obtain rfl : a = b := (List.cons.inj hs).1
      exact ⟨back, rfl⟩

end Handover
