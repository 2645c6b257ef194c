import ApiClient.Text.Units

/-!
Reading back the code units of a text gives the text.
-/

set_option autoImplicit false

namespace ApiClient.Text

/-- A character is no surrogate. -/
theorem toNat_notSurrogate (c : Char) :
    c.toNat < 0xD800 ∨ 0xE000 ≤ c.toNat ∧ c.toNat < 0x110000 := by
  have valid : c.toNat.isValidChar := c.valid
  simp only [Nat.isValidChar] at valid
  omega

theorem units_of_lt {c : Char} (small : c.toNat < 0x10000) : units c = [c.toNat] := if_pos small

theorem units_of_le {c : Char} (large : 0x10000 ≤ c.toNat) :
    units c = [0xD800 + (c.toNat - 0x10000) / 0x400, 0xDC00 + (c.toNat - 0x10000) % 0x400] :=
  if_neg (by omega)

theorem units_lt {c : Char} {n : Nat} (member : n ∈ units c) : n < 0x10000 := by
  rcases Nat.lt_or_ge c.toNat 0x10000 with small | large
  · simp only [units_of_lt small, List.mem_singleton] at member
    omega
  · have bound := toNat_notSurrogate c
    simp only [units_of_le large, List.mem_cons, List.not_mem_nil, or_false] at member
    omega

theorem ofUnits_cons_of_not_high {n : Nat} (alone : isHighSurrogate n = false) (rest : List Nat) :
    ofUnits (n :: rest) = unitChar n :: ofUnits rest := by
  cases rest with
  | nil => rfl
  | cons low rest => rw [ofUnits, alone, Bool.false_and, if_neg Bool.false_ne_true]

theorem ofUnits_units_append (c : Char) (rest : List Nat) :
    ofUnits (units c ++ rest) = c :: ofUnits rest := by
  have bound := toNat_notSurrogate c
  rcases Nat.lt_or_ge c.toNat 0x10000 with small | large
  · have high : isHighSurrogate c.toNat = false := by simp [isHighSurrogate]; omega
    have low : isLowSurrogate c.toNat = false := by simp [isLowSurrogate]; omega
    rw [units_of_lt small, List.singleton_append, ofUnits_cons_of_not_high high, unitChar, high,
      low, Bool.or_self, if_neg Bool.false_ne_true, Char.ofNat_toNat]
  · let n := c.toNat - 0x10000
    have high : isHighSurrogate (0xD800 + n / 0x400) = true := by
      simp only [isHighSurrogate, Bool.and_eq_true, decide_eq_true_eq]
      omega
    have low : isLowSurrogate (0xDC00 + n % 0x400) = true := by
      simp only [isLowSurrogate, Bool.and_eq_true, decide_eq_true_eq]
      omega
    have joined : 0x10000 + (0xD800 + n / 0x400 - 0xD800) * 0x400 + (0xDC00 + n % 0x400 - 0xDC00)
        = c.toNat := by omega
    rw [units_of_le large, List.cons_append, List.singleton_append, ofUnits, high, low]
    rw [Bool.and_self, if_pos rfl, joined, Char.ofNat_toNat]

theorem ofUnits_flatMap_units (cs : List Char) : ofUnits (cs.flatMap units) = cs := by
  induction cs with
  | nil => rfl
  | cons c rest ih => rw [List.flatMap_cons, ofUnits_units_append, ih]

end ApiClient.Text
