import Handover.Bytes

/-! # Environments

An environment gives each variable that is set its value. Setting a variable hides its earlier value and no other. A
process is handed its variables as texts `name=value`, in the order of the names, and finds under a name what follows in
the first text that begins with the name and `=`. So a name that itself holds `=` is not found as it was meant: what it
is bound to may be found under the part before the `=`.
-/
namespace Handover

abbrev Environment := Bytes → Option Bytes

namespace Environment

def empty : Environment := fun _ => none

def set (e : Environment) (key value : Bytes) : Environment := fun k => if k = key then some value else e k

/-- The bindings are set in order, so the last one of a key counts. -/
def setAll (e : Environment) (bindings : List (Bytes × Bytes)) : Environment :=
  bindings.foldl (fun e binding => e.set binding.1 binding.2) e

def unset (e : Environment) (key : Bytes) : Environment := fun k => if k = key then none else e k

def goesOn (key name : Bytes) : Bool := (key ++ [Bytes.equalsSign]).isPrefixOf name

def firstName (names : List Bytes) : Option Bytes := (names.mergeSort fun a b => decide (a ≤ b)).head?

/-- A name that a process can look up and be sure to find what it was bound to. -/
def IsName (key : Bytes) : Prop := key ≠ [] ∧ Bytes.equalsSign ∉ key

instance (key : Bytes) : Decidable (IsName key) := inferInstanceAs (Decidable (_ ∧ _))

/-- What is found under a name by a process that is handed `e`, where of all that is bound only some in `names` hold `=`.
A name stands before those that go on from it. -/
def handedOver (e : Environment) (names : List Bytes) : Environment := fun key =>
  (e key).or <| (firstName (names.filter (goesOn key))).bind fun name =>
    (e name).map fun value => name.drop (key.length + 1) ++ Bytes.equalsSign :: value

@[simp] theorem set_same (e : Environment) (key value : Bytes) : e.set key value key = some value := by simp [set]

theorem set_other (e : Environment) {key k : Bytes} (value : Bytes) (h : k ≠ key) : e.set key value k = e k := by
  simp [set, h]

@[simp] theorem setAll_nil (e : Environment) : e.setAll [] = e := rfl

@[simp] theorem setAll_cons (e : Environment) (key value : Bytes) (bindings : List (Bytes × Bytes)) :
    e.setAll ((key, value) :: bindings) = (e.set key value).setAll bindings := rfl

theorem setAll_append (e : Environment) (bindings more : List (Bytes × Bytes)) :
    e.setAll (bindings ++ more) = (e.setAll bindings).setAll more := List.foldl_append

@[simp] theorem unset_same (e : Environment) (key : Bytes) : e.unset key key = none := by simp [unset]

theorem unset_other (e : Environment) {key k : Bytes} (h : k ≠ key) : e.unset key k = e k := by simp [unset, h]

theorem mem_of_firstName {names : List Bytes} {name : Bytes} (h : firstName names = some name) : name ∈ names :=
  List.mem_mergeSort.mp (List.mem_of_head? h)

theorem firstName_le {names : List Bytes} {name other : Bytes} (h : firstName names = some name) (ho : other ∈ names) :
    name ≤ other := by
  have hsorted : (names.mergeSort fun a b => decide (a ≤ b)).Pairwise fun a b => decide (a ≤ b) = true :=
    List.pairwise_mergeSort
      (fun a b c hab hbc => by simpa using List.le_trans (of_decide_eq_true hab) (of_decide_eq_true hbc))
      (fun a b => by simpa using List.le_total a b) names
  have hm : other ∈ names.mergeSort fun a b => decide (a ≤ b) := List.mem_mergeSort.mpr ho
  unfold firstName at h
  cases hs : names.mergeSort fun a b => decide (a ≤ b) with
  | nil => simp [hs] at h
  | cons first rest =>
    rw [hs] at h hm hsorted
    obtain rfl : first = name := by simpa using h
    rcases List.mem_cons.mp hm with rfl | hm
    · exact List.le_refl _
    · simpa using (List.pairwise_cons.mp hsorted).1 other hm

theorem goesOn_eq_false {name : Bytes} (h : Bytes.equalsSign ∉ name) (key : Bytes) : goesOn key name = false := by
  refine Bool.eq_false_iff.mpr fun hp => h ((List.isPrefixOf_iff_prefix.mp hp).subset ?_)
  exact List.mem_append_right key (List.mem_singleton_self _)

theorem handedOver_congr {names others : List Bytes}
    (h : ∀ key, names.filter (goesOn key) = others.filter (goesOn key)) (e : Environment) :
    e.handedOver names = e.handedOver others := by
  funext key
  rw [handedOver, handedOver, h]

theorem handedOver_of_some {e : Environment} {key value : Bytes} (h : e key = some value) (names : List Bytes) :
    e.handedOver names key = some value := by
  simp [handedOver, h]

theorem handedOver_of_plain (e : Environment) {names : List Bytes} {key : Bytes}
    (h : ∀ name ∈ names, goesOn key name = false) : e.handedOver names key = e key := by
  have hnone : names.filter (goesOn key) = [] := List.filter_eq_nil_iff.mpr fun name hn => by simp [h name hn]
  simp [handedOver, hnone, firstName]

/-- Under a name that is not bound is found what the text of the first longer one goes on with. -/
theorem handedOver_of_none {e : Environment} {names : List Bytes} {key value : Bytes} (h : e key = none)
    (hf : e.handedOver names key = some value) :
    ∃ name ∈ names, ∃ bound, e name = some bound ∧
      name ++ Bytes.equalsSign :: bound = key ++ Bytes.equalsSign :: value ∧
      ∀ other ∈ names, goesOn key other = true → name ≤ other := by
  simp only [handedOver, h, Option.none_or, Option.bind_eq_some_iff, Option.map_eq_some_iff] at hf
  obtain ⟨name, hfirst, bound, hbound, rfl⟩ := hf
  obtain ⟨hname, hgoes⟩ := List.mem_filter.mp (mem_of_firstName hfirst)
  obtain ⟨rest, rfl⟩ := List.isPrefixOf_iff_prefix.mp hgoes
  refine ⟨_, hname, bound, hbound, by simp [List.drop_append], fun other hother hon => ?_⟩
  exact firstName_le hfirst (List.mem_filter.mpr ⟨hother, hon⟩)

end Environment

end Handover
