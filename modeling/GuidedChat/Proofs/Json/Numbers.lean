import GuidedChat.Json.Number
import Mathlib.Data.List.TakeWhile

/-! # Whole numbers

A literal stands for a natural number exactly if it has digits alone and they spell a number of
64 bits (`value?_eq_natural_iff`). Its digits are taken in from the left, and as long as what has
been taken in fits, it is the number that they spell (`foldl_append`). -/

namespace GuidedChat.Json.Number

theorem le_ofDigitChars (cs : List Char) (n : Nat) : n ≤ Nat.ofDigitChars 10 cs n := by
  rw [Nat.ofDigitChars_eq_ofDigitChars_zero]
  have hpower : 0 < 10 ^ cs.length := Nat.pow_pos (by decide)
  have hscale : n ≤ 10 ^ cs.length * n := Nat.le_mul_of_pos_left n hpower
  omega

theorem foldl_append_full (cs : List Char) {s : Scaled} (h : s.full = true) :
    (cs.foldl (Scaled.append · · true) s).full = true := by
  induction cs generalizing s with
  | nil => exact h
  | cons c cs ih =>
    apply ih
    simp [Scaled.append, h]

/-- Once digits have been taken in, either all fit and are the number, or they no longer do. -/
theorem foldl_append (cs : List Char) {s : Scaled} (hfull : s.full = false)
    (hfits : s.digits < UInt64.size) :
    let all := cs.foldl (Scaled.append · · true) s
    let n := Nat.ofDigitChars 10 cs s.digits
    all.full = false ∧ all.digits = n ∧ n < UInt64.size ∨
      all.full = true ∧ UInt64.size ≤ n := by
  induction cs generalizing s with
  | nil => exact .inl ⟨hfull, rfl, hfits⟩
  | cons c cs ih =>
    rw [List.foldl_cons, Nat.ofDigitChars_cons, Nat.mul_comm 10 s.digits]
    by_cases hnext : s.digits * 10 + (c.toNat - '0'.toNat) < UInt64.size
    · have happend : s.append c true =
          { s with digits := s.digits * 10 + (c.toNat - '0'.toNat) } := by
        simp only [Scaled.append, hfull, Bool.false_or, decide_eq_true_eq, if_true]
        rw [if_neg (by omega)]
      rw [happend]
      exact ih hfull hnext
    · have happend : (s.append c true).full = true := by
        simp only [Scaled.append, hfull, Bool.false_or, decide_eq_true_eq, if_true]
        rw [if_pos (by omega)]
      exact .inr ⟨foldl_append_full cs happend,
        Nat.le_trans (by omega) (le_ofDigitChars cs _)⟩

theorem map_real_ne_natural (x : Option Float) (k : Nat) :
    x.map Value.real ≠ some (.natural k) := by
  cases x <;> simp

section Literal

variable {n : Number} {k : Nat}

theorem value?_ne_natural_of_minus (h : n.literal.head? = some '-') :
    n.value? ≠ some (.natural k) := by
  have hsign : (n.literal.head? == some '-') = true := by simp [h]
  simp only [value?, hsign, if_true, Bool.not_true]
  split
  · exact map_real_ne_natural _ _
  · split
    · exact map_real_ne_natural _ _
    · rw [if_neg Bool.false_ne_true]
      split
      · simp
      · exact map_real_ne_natural _ _
  · exact map_real_ne_natural _ _

/-- A literal that goes on after its digits, with a point or an exponent, is no natural number. -/
theorem value?_ne_natural_of_dropWhile (hminus : n.literal.head? ≠ some '-')
    (h : n.literal.dropWhile Char.isDigit ≠ []) : n.value? ≠ some (.natural k) := by
  have hsign : (n.literal.head? == some '-') = false := by simp [hminus]
  simp only [value?, hsign, Bool.false_eq_true, if_false]
  split
  · exact map_real_ne_natural _ _
  · rename_i hnil
    exact absurd hnil h
  · exact map_real_ne_natural _ _

/-- Digits alone are the natural number that they spell, if it has 64 bits at most. -/
theorem value?_of_digits (hminus : n.literal.head? ≠ some '-')
    (h : ∀ c ∈ n.literal, c.isDigit = true) :
    n.value? = some (.natural k) ↔ Nat.ofDigitChars 10 n.literal 0 = k ∧ k < UInt64.size := by
  have hsign : (n.literal.head? == some '-') = false := by simp [hminus]
  have hdrop : n.literal.dropWhile Char.isDigit = [] := List.dropWhile_eq_nil_iff.mpr h
  have htake : n.literal.takeWhile Char.isDigit = n.literal := List.takeWhile_eq_self_iff.mpr h
  simp only [value?, hsign, Bool.false_eq_true, if_false, hdrop, htake, Bool.not_false, if_true]
  rcases foldl_append n.literal (s := {}) rfl (by decide) with
    ⟨hfull, hall, hfits⟩ | ⟨hfull, hlarge⟩
  · rw [hfull, if_neg Bool.false_ne_true, hall]
    constructor
    · intro heq
      cases heq
      exact ⟨rfl, hfits⟩
    · rintro ⟨rfl, -⟩
      rfl
  · rw [hfull, if_pos rfl]
    refine iff_of_false (map_real_ne_natural _ _) ?_
    rintro ⟨rfl, hfits⟩
    exact absurd hlarge (Nat.not_le.mpr hfits)

/-- A literal stands for a natural number if it is digits that spell one of 64 bits. -/
theorem value?_eq_natural_iff :
    n.value? = some (.natural k) ↔
      (∀ c ∈ n.literal, c.isDigit = true) ∧ Nat.ofDigitChars 10 n.literal 0 = k ∧
        k < UInt64.size := by
  by_cases hminus : n.literal.head? = some '-'
  · have hmem : '-' ∈ n.literal := List.mem_of_head? hminus
    exact iff_of_false (value?_ne_natural_of_minus hminus) fun h => absurd (h.1 _ hmem) (by decide)
  · by_cases hdigits : ∀ c ∈ n.literal, c.isDigit = true
    · rw [value?_of_digits hminus hdigits, and_iff_right hdigits]
    · have hdrop : n.literal.dropWhile Char.isDigit ≠ [] := mt List.dropWhile_eq_nil_iff.mp hdigits
      exact iff_of_false (value?_ne_natural_of_dropWhile hminus hdrop) fun h => hdigits h.1

end Literal

end GuidedChat.Json.Number
