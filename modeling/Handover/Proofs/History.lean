import Handover.Ledger
import Handover.Proofs.Splits

/-! # Histories and their open handles

A history says by itself which handles are open after it: those that were handed out and not closed since. It is orderly
when each record speaks of handles that are open just before it and hands out only new ones. In an orderly history every
handle that was handed out is open or has been closed, once and not both.
-/
namespace Handover

namespace Record

def uses : Record → List Descriptor
  | .call c _ _ => c.operands
  | .release handle => [handle]

theorem closes_subset_uses (r : Record) : r.closes ⊆ r.uses := by
  cases r with
  | call c live outcome => cases c <;> simp [closes, uses, Call.closes, Call.operands]
  | release handle => simp [closes, uses]

theorem closes_nodup (r : Record) : r.closes.Nodup := by
  cases r with
  | call c live outcome => cases c <;> simp [closes, Call.closes]
  | release handle => simp [closes]

/-- What is open after a record, given what is open before it. -/
def after (live : List Descriptor) (r : Record) : List Descriptor := live.filter (· ∉ r.closes) ++ r.issued?.toList

theorem after_call (live noted : List Descriptor) (c : Call) (outcome : Outcome) :
    (call c noted outcome).after live = live.filter (· ∉ c.closes) ++ (call c noted outcome).issued?.toList := rfl

theorem after_release (live : List Descriptor) (handle : Descriptor) :
    (release handle).after live = live.filter (· ≠ handle) := by
  simp [after, closes, issued?]

end Record

namespace History

def live (history : List Record) : List Descriptor := history.foldl Record.after []

def issued (history : List Record) : List Descriptor := history.filterMap Record.issued?

def closed (history : List Record) : List Descriptor := history.flatMap Record.closes

@[simp] theorem live_nil : live [] = [] := rfl

@[simp] theorem live_snoc (history : List Record) (r : Record) : live (history ++ [r]) = r.after (live history) := by
  simp [live]

@[simp] theorem issued_nil : issued [] = [] := rfl

@[simp] theorem issued_append (history more : List Record) : issued (history ++ more) = issued history ++ issued more :=
  List.filterMap_append

theorem issued_singleton (r : Record) : issued [r] = r.issued?.toList := by
  cases h : r.issued? <;> simp [issued, h]

@[simp] theorem closed_nil : closed [] = [] := rfl

@[simp] theorem closed_append (history more : List Record) : closed (history ++ more) = closed history ++ closed more :=
  List.flatMap_append

theorem closed_singleton (r : Record) : closed [r] = r.closes := by
  simp [closed]

structure Fits (before : List Record) (r : Record) : Prop where
  uses_live : ∀ h ∈ r.uses, h ∈ live before
  issues_new : ∀ h ∈ r.issued?, h ∉ issued before

def Orderly (history : List Record) : Prop := ∀ before r later, history = before ++ r :: later → Fits before r

theorem orderly_nil : Orderly [] := by
  intro before r later h
  simp at h

theorem Orderly.snoc {history : List Record} {r : Record} (ho : Orderly history) (hr : Fits history r) :
    Orderly (history ++ [r]) :=
  forall_split_snoc ho hr

theorem Orderly.of_snoc {history : List Record} {r : Record} (h : Orderly (history ++ [r])) :
    Orderly history ∧ Fits history r := by
  refine ⟨fun before s later hs => ?_, h history r [] rfl⟩
  exact h before s (later ++ [r]) (by simp [hs])

/-- Every handle handed out in an orderly history is open or closed, and that once. -/
structure Balanced (history : List Record) : Prop where
  issued_nodup : (issued history).Nodup
  live_nodup : (live history).Nodup
  accounts : (issued history).Perm (live history ++ closed history)

/-- Taking some different elements out of a list and putting them behind it changes the order only. -/
private theorem filter_append_perm_of_subset {live gone : List Descriptor} (hl : live.Nodup) (hg : gone.Nodup)
    (hs : gone ⊆ live) : (live.filter (· ∉ gone) ++ gone).Perm live := by
  have hd : (live.filter (· ∉ gone) ++ gone).Nodup := by
    refine (hl.filter _).append hg fun h hf hm => ?_
    have hn := (List.mem_filter.mp hf).2
    simp only [decide_eq_true_eq] at hn
    exact hn hm
  refine (List.perm_ext_iff_of_nodup hd hl).mpr fun h => ?_
  rw [List.mem_append, List.mem_filter, decide_eq_true_eq]
  constructor
  · rintro (hm | hm)
    · exact hm.1
    · exact hs hm
  · intro hm
    by_cases hg : h ∈ gone
    · exact Or.inr hg
    · exact Or.inl ⟨hm, hg⟩

theorem Balanced.snoc {history : List Record} {r : Record} (hb : Balanced history) (hr : Fits history r) :
    Balanced (history ++ [r]) := by
  have hc : (live history).Perm ((live history).filter (· ∉ r.closes) ++ r.closes) :=
    (filter_append_perm_of_subset hb.live_nodup r.closes_nodup
      fun h hm => hr.uses_live h (r.closes_subset_uses hm)).symm
  have ha : (issued (history ++ [r])).Perm (live (history ++ [r]) ++ closed (history ++ [r])) := by
    rw [issued_append, issued_singleton, live_snoc, closed_append, closed_singleton, Record.after]
    have hm : (r.closes ++ (closed history ++ r.issued?.toList)).Perm
        (r.issued?.toList ++ (closed history ++ r.closes)) := by
      refine List.perm_append_comm.trans ?_
      rw [List.append_assoc]
      exact List.perm_append_comm_assoc _ _ _
    calc
      (issued history ++ r.issued?.toList).Perm (live history ++ closed history ++ r.issued?.toList) :=
        hb.accounts.append_right _
      List.Perm _ ((live history).filter (· ∉ r.closes) ++ r.closes ++ closed history ++ r.issued?.toList) :=
        (hc.append_right _).append_right _
      _ = (live history).filter (· ∉ r.closes) ++ (r.closes ++ (closed history ++ r.issued?.toList)) := by
        simp only [List.append_assoc]
      List.Perm _ ((live history).filter (· ∉ r.closes) ++ (r.issued?.toList ++ (closed history ++ r.closes))) :=
        hm.append_left _
      _ = (live history).filter (· ∉ r.closes) ++ r.issued?.toList ++ (closed history ++ r.closes) := by
        simp only [List.append_assoc]
  have hn : (issued (history ++ [r])).Nodup := by
    rw [issued_append, issued_singleton]
    refine hb.issued_nodup.append (Option.toList_nodup _) fun h hm hr' => ?_
    exact hr.issues_new h (Option.mem_toList.mp hr') hm
  exact ⟨hn, (List.nodup_append.mp (ha.nodup_iff.mp hn)).1, ha⟩

theorem Orderly.balanced {history : List Record} (h : Orderly history) : Balanced history := by
  induction history using List.reverseRecOn with
  | nil => exact ⟨List.nodup_nil, List.nodup_nil, List.Perm.refl _⟩
  | append_singleton history r ih =>
    obtain ⟨ho, hr⟩ := h.of_snoc
    exact (ih ho).snoc hr

theorem Orderly.live_subset_issued {history : List Record} (h : Orderly history) : live history ⊆ issued history :=
  fun _ hm => h.balanced.accounts.mem_iff.mpr (List.mem_append_left _ hm)

theorem Orderly.of_append {history more : List Record} (h : Orderly (history ++ more)) : Orderly history :=
  fun before r later hs => h before r (later ++ more) (by simp [hs])

/-- A handle that was let go is never open again. -/
theorem Orderly.not_mem_live_append {history more : List Record} (ho : Orderly (history ++ more)) {h : Descriptor}
    (hi : h ∈ issued history) (hl : h ∉ live history) : h ∉ live (history ++ more) := by
  induction more using List.reverseRecOn with
  | nil => simpa using hl
  | append_singleton more r ih =>
    rw [← List.append_assoc] at ho ⊢
    obtain ⟨hprev, hr⟩ := ho.of_snoc
    rw [live_snoc, Record.after, List.mem_append]
    rintro (hm | hm)
    · exact ih hprev (List.mem_filter.mp hm).1
    · have hnew := hr.issues_new h (Option.mem_toList.mp hm)
      rw [issued_append] at hnew
      exact hnew (List.mem_append_left _ hi)

end History

end Handover
