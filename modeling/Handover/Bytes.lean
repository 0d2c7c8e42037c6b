/-! # Byte strings

Paths, variables and stream contents are strings of arbitrary bytes. Text enters as its UTF-8 encoding.
-/
namespace Handover

abbrev Bytes := List UInt8

namespace Bytes

def nul : UInt8 := 0

def newline : UInt8 := 10

def dot : UInt8 := 46

def slash : UInt8 := 47

def equalsSign : UInt8 := 61

def ofString (s : String) : Bytes := s.toUTF8.data.toList

theorem ofString_inj {s t : String} : ofString s = ofString t ↔ s = t := by
  refine ⟨fun h => String.toByteArray_inj.mp ?_, congrArg _⟩
  exact ByteArray.ext (Array.toList_inj.mp h)

theorem length_ofString (s : String) : (ofString s).length = s.utf8ByteSize := by
  rfl

/-- The bytes before the first newline and those after it, if there is one. -/
def breakLine : Bytes → Option (Bytes × Bytes)
  | [] => none
  | b :: rest => if b = newline then some ([], rest) else (breakLine rest).map fun (line, tail) => (b :: line, tail)

theorem breakLine_eq_none_iff {s : Bytes} : breakLine s = none ↔ newline ∉ s := by
  induction s with
  | nil => simp [breakLine]
  | cons b rest ih =>
    by_cases hb : b = newline
    · simp [breakLine, hb]
    · simp [breakLine, hb, ih, Ne.symm hb]

theorem breakLine_eq_some_iff {s line tail : Bytes} :
    breakLine s = some (line, tail) ↔ s = line ++ newline :: tail ∧ newline ∉ line := by
  induction s generalizing line with
  | nil => simp [breakLine]
  | cons b rest ih =>
    by_cases hb : b = newline
    · subst hb
      cases line with
      | nil => simp [breakLine]
      | cons c line => simp only [breakLine, if_true, Option.some.injEq, Prod.mk.injEq, List.cons_append,
          List.cons.injEq, List.mem_cons]; grind
    · simp only [breakLine, hb, if_false, Option.map_eq_some_iff]
      cases line with
      | nil => simp [hb]
      | cons c line =>
        simp only [Prod.exists, Prod.mk.injEq, List.cons_append, List.cons.injEq, List.mem_cons]
        constructor
        · rintro ⟨l, t, h, ⟨rfl, rfl⟩, rfl⟩
          exact ⟨⟨rfl, (ih.mp h).1⟩, fun hn => hn.elim (fun he => hb he.symm) (ih.mp h).2⟩
        · rintro ⟨⟨rfl, h⟩, hn⟩
          exact ⟨line, tail, ih.mpr ⟨h, fun hm => hn (Or.inr hm)⟩, ⟨rfl, rfl⟩, rfl⟩

end Bytes

end Handover
