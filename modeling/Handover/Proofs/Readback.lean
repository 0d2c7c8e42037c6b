import Handover.Text.Decimal
import Handover.Text.Quoted
import Mathlib

/-! # Reading printed text back

What is printed into the middle of a text can be read back if the text tells where it ends. A numeral ends where
something other than a digit or a sign follows. A quotation ends by itself: an escape shows from its beginning how far it
goes, and none begins with the quote that ends the quotation.
-/
namespace Handover.Text

variable {α : Type}

/-- Printed values show where they end: texts that begin with two of them are the same only if the values are the same
and the texts go on in the same way. -/
def SelfDelimiting (print : α → List Char) : Prop :=
  ∀ ⦃a b : α⦄ ⦃x y : List Char⦄, print a ++ x = print b ++ y → a = b ∧ x = y

theorem SelfDelimiting.enclosed {print : α → List Char} {quote : Char} (hp : SelfDelimiting print)
    (hq : ∀ a x y, print a ++ x ≠ quote :: y) : SelfDelimiting fun items : List α => items.flatMap print ++ [quote] := by
  intro items others x y h
  rw [List.append_assoc, List.append_assoc, List.singleton_append, List.singleton_append] at h
  induction items generalizing others with
  | nil =>
    cases others with
    | nil => exact ⟨rfl, (List.cons.inj h).2⟩
    | cons b others =>
      rw [List.flatMap_cons, List.append_assoc] at h
      exact absurd h.symm (hq b _ _)
  | cons a items ih =>
    rw [List.flatMap_cons, List.append_assoc] at h
    cases others with
    | nil => exact absurd h (hq a _ _)
    | cons b others =>
      rw [List.flatMap_cons, List.append_assoc] at h
      obtain ⟨rfl, hrest⟩ := hp h
      obtain ⟨rfl, hxy⟩ := ih hrest
      exact ⟨rfl, hxy⟩

/-- The text begins with a character that is not of the kind `p`. -/
def EndsRun (p : Char → Bool) (s : String) : Prop := ∃ c ∈ s.toList.head?, p c = false

theorem EndsRun.append {p : Char → Bool} {s : String} (h : EndsRun p s) (t : String) : EndsRun p (s ++ t) := by
  obtain ⟨c, hc, hp⟩ := h
  refine ⟨c, ?_, hp⟩
  rw [String.toList_append, List.head?_append, Option.mem_def.mp hc]
  rfl

theorem EndsRun.takeWhile_append {p : Char → Bool} {s x : String} (hs : ∀ c ∈ s.toList, p c = true)
    (hx : EndsRun p x) : (s ++ x).toList.takeWhile p = s.toList := by
  obtain ⟨c, hc, hp⟩ := hx
  obtain ⟨rest, hrest⟩ := List.head?_eq_some_iff.mp hc
  rw [String.toList_append, List.takeWhile_append_of_pos hs, hrest, List.takeWhile_cons_of_neg (by simp [hp]),
    List.append_nil]

/-- A run of characters of one kind is over where a character of another kind follows. -/
theorem append_inj_of_endsRun {p : Char → Bool} {s t x y : String} (hs : ∀ c ∈ s.toList, p c = true)
    (ht : ∀ c ∈ t.toList, p c = true) (hx : EndsRun p x) (hy : EndsRun p y) (h : s ++ x = t ++ y) : s = t ∧ x = y := by
  have hst : s = t := by
    rw [← String.toList_inj, ← EndsRun.takeWhile_append hs hx, h, EndsRun.takeWhile_append ht hy]
  subst hst
  exact ⟨rfl, (String.append_right_inj s).mp h⟩

/-! ## Numerals -/

def isNumeral (c : Char) : Bool := c.isDigit || decide (c = '-')

theorem decimal_eq_repr (n : Int) : decimal n = n.repr := by
  cases n <;> rfl

theorem isNumeral_of_mem_repr {n : Nat} {c : Char} (h : c ∈ n.repr.toList) : isNumeral c = true := by
  rw [Nat.repr_eq_ofList_toDigits, String.toList_ofList] at h
  simp [isNumeral, Nat.isDigit_of_mem_toDigits (by decide) le_rfl h]

theorem isNumeral_of_mem_decimal {n : Int} {c : Char} (h : c ∈ (decimal n).toList) : isNumeral c = true := by
  cases n with
  | ofNat n => exact isNumeral_of_mem_repr h
  | negSucc n =>
    rw [decimal, String.toList_append, List.mem_append] at h
    rcases h with h | h
    · obtain rfl : c = '-' := List.mem_singleton.mp h
      rfl
    · exact isNumeral_of_mem_repr h

theorem decimal_append_inj {m n : Int} {x y : String} (hx : EndsRun isNumeral x) (hy : EndsRun isNumeral y)
    (h : decimal m ++ x = decimal n ++ y) : m = n ∧ x = y := by
  obtain ⟨hmn, hxy⟩ := append_inj_of_endsRun (fun _ => isNumeral_of_mem_decimal) (fun _ => isNumeral_of_mem_decimal) hx hy h
  rw [decimal_eq_repr, decimal_eq_repr, Int.repr_inj] at hmn
  exact ⟨hmn, hxy⟩

theorem utf8ByteSize_repr_le {n e : Nat} (he : 0 < e) (h : n < 10 ^ e) : n.repr.utf8ByteSize ≤ e := by
  induction e generalizing n with
  | zero => exact absurd he (lt_irrefl 0)
  | succ e ih =>
    have hdigit : ∀ d < 10, (Nat.digitChar d).utf8Size = 1 := by decide
    by_cases hn : n < 10
    · rw [Nat.repr_of_lt hn, String.utf8ByteSize_singleton, hdigit n hn]
      omega
    · have hn : 10 ≤ n := not_lt.mp hn
      have he : 0 < e := by
        by_contra h0
        obtain rfl : e = 0 := by omega
        omega
      have hrest : (n / 10).repr.utf8ByteSize ≤ e := ih he (Nat.div_lt_of_lt_mul (by rwa [pow_succ'] at h))
      rw [Nat.repr_of_ge hn, String.utf8ByteSize_append, String.utf8ByteSize_singleton,
        hdigit _ (Nat.mod_lt _ (by decide))]
      omega

/-! ## Numbers in base sixteen -/

theorem digitChar_injective {m n : Nat} (hm : m < 16) (hn : n < 16) (h : m.digitChar = n.digitChar) : m = n := by
  have hall : ∀ m < 16, ∀ n < 16, Nat.digitChar m = Nat.digitChar n → m = n := by decide
  exact hall m hm n hn h

theorem toDigits_sixteen_injective {m n : Nat} (h : Nat.toDigits 16 m = Nat.toDigits 16 n) : m = n := by
  induction m using Nat.strong_induction_on generalizing n with
  | _ m ih =>
    rw [Nat.toDigits_eq_if (by decide), Nat.toDigits_eq_if (b := 16) (n := n) (by decide)] at h
    have hmod : ∀ k : Nat, k % 16 < 16 := fun k => Nat.mod_lt k (by decide)
    split at h
    · rename_i hm
      split at h
      · rename_i hn
        exact digitChar_injective hm hn (List.singleton_inj.mp h)
      · have hl := congrArg List.length h
        simp at hl
    · split at h
      · have hl := congrArg List.length h
        simp at hl
      · obtain ⟨hdiv, hdigit⟩ := List.append_inj' h rfl
        have hq : m / 16 = n / 16 := ih (m / 16) (by omega) hdiv
        have hr : m % 16 = n % 16 := digitChar_injective (hmod m) (hmod n) (List.singleton_inj.mp hdigit)
        omega

theorem brace_not_mem_toDigits (n : Nat) : '\x7d' ∉ Nat.toDigits 16 n := by
  induction n using Nat.strong_induction_on with
  | _ n ih =>
    rw [Nat.toDigits_eq_if (by decide)]
    split
    · simp
    · simpa using ih (n / 16) (by omega)

theorem toDigits_append_brace_inj {m n : Nat} {x y : List Char}
    (h : Nat.toDigits 16 m ++ ('\x7d' :: x) = Nat.toDigits 16 n ++ ('\x7d' :: y)) : m = n ∧ x = y := by
  have hdigits : ∀ {k : Nat} {z : List Char},
      (Nat.toDigits 16 k ++ ('\x7d' :: z)).takeWhile (fun c => decide (c ≠ '\x7d')) = Nat.toDigits 16 k := by
    intro k z
    have hplain : ∀ c ∈ Nat.toDigits 16 k, decide (c ≠ '\x7d') = true :=
      fun c hc => decide_eq_true (ne_of_mem_of_not_mem hc (brace_not_mem_toDigits k))
    rw [List.takeWhile_append_of_pos hplain]
    simp
  have hmn : Nat.toDigits 16 m = Nat.toDigits 16 n := by rw [← hdigits, h, hdigits]
  obtain rfl := toDigits_sixteen_injective hmn
  exact ⟨rfl, (List.cons.inj (List.append_cancel_left h)).2⟩

/-! ## Quotations -/

namespace Quoted

/-- The characters that have a letter of their own behind the backslash. -/
def letters : List (Char × Char) :=
  [('\x00', '0'), ('\t', 't'), ('\r', 'r'), ('\n', 'n'), ('"', '"'), ('\\', '\\')]

/-- The ways in which a character can stand in a quotation. -/
inductive Escaped : Char → List Char → Prop where
  | letter {c k : Char} : (c, k) ∈ letters → Escaped c ['\\', k]
  | codePoint (c : Char) : Escaped c (codePoint c)
  | plain {c : Char} : c ≠ '"' → c ≠ '\\' → Escaped c [c]

theorem escaped_escape (c : Char) : Escaped c (escape c) := by
  unfold escape
  split_ifs with h0 ht hr hn hq hb
  · exact h0 ▸ .letter (by decide)
  · exact ht ▸ .letter (by decide)
  · exact hr ▸ .letter (by decide)
  · exact hn ▸ .letter (by decide)
  · subst hq
    exact .letter (by decide)
  · subst hb
    exact .letter (by decide)
  · exact .codePoint c
  · exact .plain hq hb
  · exact .codePoint c

theorem letters_unique {c d k : Char} (hc : (c, k) ∈ letters) (hd : (d, k) ∈ letters) : c = d := by
  have hall : ∀ p ∈ letters, ∀ q ∈ letters, p.2 = q.2 → p.1 = q.1 := by decide
  exact hall _ hc _ hd rfl

theorem letter_ne_u {c k : Char} (h : (c, k) ∈ letters) : k ≠ 'u' := by
  have hall : ∀ p ∈ letters, p.2 ≠ 'u' := by decide
  exact hall _ h

theorem Escaped.unique {c d : Char} {u v x y : List Char} (hc : Escaped c u) (hd : Escaped d v) (h : u ++ x = v ++ y) :
    c = d ∧ x = y := by
  cases hc with
  | letter hc =>
    cases hd with
    | letter hd =>
      obtain ⟨rfl, rfl⟩ : _ ∧ x = y := by simpa using h
      exact ⟨letters_unique hc hd, rfl⟩
    | codePoint =>
      simp only [Quoted.codePoint, List.cons_append, List.cons.injEq] at h
      exact absurd h.2.1 (letter_ne_u hc)
    | plain _ hb => exact absurd (List.cons.inj h).1.symm hb
  | codePoint =>
    cases hd with
    | letter hd =>
      simp only [Quoted.codePoint, List.cons_append, List.cons.injEq] at h
      exact absurd h.2.1.symm (letter_ne_u hd)
    | codePoint =>
      simp only [Quoted.codePoint, List.cons_append, List.append_assoc, List.cons.injEq, true_and] at h
      obtain ⟨hn, hxy⟩ := toDigits_append_brace_inj h
      exact ⟨Char.toNat_inj.mp hn, hxy⟩
    | plain _ hb => exact absurd (List.cons.inj h).1.symm hb
  | plain _ hb =>
    cases hd with
    | letter => exact absurd (List.cons.inj h).1 hb
    | codePoint => exact absurd (List.cons.inj h).1 hb
    | plain => exact List.cons.inj h

theorem escape_selfDelimiting : SelfDelimiting escape :=
  fun c d _ _ h => (escaped_escape c).unique (escaped_escape d) h

theorem escape_ne_quote (c : Char) (x y : List Char) : escape c ++ x ≠ '"' :: y := by
  intro h
  have hc := escaped_escape c
  generalize escape c = u at h hc
  cases hc with
  | letter => exact absurd (List.cons.inj h).1 (by decide)
  | codePoint => exact absurd (List.cons.inj h).1 (by decide)
  | plain hq => exact hq (List.cons.inj h).1

end Quoted

theorem quoted_append_inj {s t x y : String} (h : quoted s ++ x = quoted t ++ y) : s = t ∧ x = y := by
  have henclosed := Quoted.escape_selfDelimiting.enclosed Quoted.escape_ne_quote
  rw [← String.toList_inj, String.toList_append, String.toList_append] at h
  simp only [quoted, Quoted.enclose, String.toList_ofList, List.cons_append, List.cons.injEq, true_and] at h
  obtain ⟨hst, hxy⟩ := henclosed h
  exact ⟨String.toList_inj.mp hst, String.toList_inj.mp hxy⟩

end Handover.Text
