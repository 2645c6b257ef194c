import ApiClient.Json.Reader
import ApiClient.Json.Writer
import ApiClient.Proofs.Text.Units
import Mathlib.Tactic.SplitIfs

/-!
A string written as JSON is read back.

Each character is written as its code units, as itself or escaped, and these are read wherever they
stand.
-/

set_option autoImplicit false

namespace ApiClient

theorem Text.hexDigits_four (n : Nat) :
    hexDigits 4 n
      = [hexDigit (n / 16 / 16 / 16 % 16), hexDigit (n / 16 / 16 % 16), hexDigit (n / 16 % 16),
        hexDigit (n % 16)] := rfl

namespace Json

open Text

theorem hexValue?_hexDigit : ∀ n < 16, hexValue? (hexDigit n) = some n := by decide +kernel

/-- What is read of a string when some code units stand in front. -/
def prepend (us : List Nat) (x : Option (List Nat × List Char)) : Option (List Nat × List Char) :=
  x.map fun (vs, after) => (us ++ vs, after)

theorem prepend_prepend (us vs : List Nat) (x : Option (List Nat × List Char)) :
    prepend us (prepend vs x) = prepend (us ++ vs) x := by
  cases x <;> simp [prepend]

theorem stringUnits_unitEscape {n : Nat} (small : n < 0x10000) (cs : List Char) :
    stringUnits (unitEscape n ++ cs) = prepend [n] (stringUnits cs) := by
  have value : ((n / 16 / 16 / 16 % 16 * 16 + n / 16 / 16 % 16) * 16 + n / 16 % 16) * 16 + n % 16
      = n := by omega
  simp only [unitEscape, hexDigits_four, List.cons_append, List.nil_append, stringUnits,
    hexValue?_hexDigit _ (Nat.mod_lt _ (by decide)), value, Option.bind_eq_bind, Option.bind_some]
  cases stringUnits cs <;> rfl

theorem stringUnits_flatMap_unitEscape {us : List Nat} (small : ∀ n ∈ us, n < 0x10000)
    (cs : List Char) :
    stringUnits (us.flatMap unitEscape ++ cs) = prepend us (stringUnits cs) := by
  induction us with
  | nil => cases given : stringUnits cs <;> simp [given, prepend]
  | cons n rest ih =>
    rw [List.forall_mem_cons] at small
    rw [List.flatMap_cons, List.append_assoc, stringUnits_unitEscape small.1, ih small.2,
      prepend_prepend, List.singleton_append]

/-- A letter after a backslash is read as the character that it stands for. -/
theorem stringUnits_escaped {c e : Char} (noCode : c ≠ 'u') (stands : escaped? c = some e)
    (cs : List Char) : stringUnits ('\\' :: c :: cs) = prepend [e.toNat] (stringUnits cs) := by
  rw [stringUnits]
  · rw [stands]
    cases stringUnits cs <;> rfl
  -- only a code takes more than one letter
  · rintro a b c' d rest rfl
    exact absurd rfl noCode

theorem stringUnits_plain {c : Char} (quote : c ≠ '\x22') (escape : c ≠ '\\')
    (shown : 0x20 ≤ c.toNat) (cs : List Char) :
    stringUnits (c :: cs) = prepend (units c) (stringUnits cs) := by
  rw [stringUnits]
  · simp only [beq_iff_eq, quote, escape, Bool.or_eq_true, decide_eq_true_eq, false_or, if_false]
    rw [if_neg (by omega)]
    cases stringUnits cs <;> rfl
  · exact fun _ _ _ _ _ same => absurd same escape
  · exact fun _ _ same => absurd same escape

/-- A character of ASCII that is no control character. -/
def IsShown (c : Char) : Prop := 0x20 ≤ c.toNat ∧ c.toNat ≤ 0x7E

instance (c : Char) : Decidable (IsShown c) := inferInstanceAs (Decidable (_ ∧ _))

theorem isShown_hexDigit : ∀ n < 16, IsShown (hexDigit n) := by decide +kernel

theorem isShown_of_mem_unitEscape {n : Nat} {d : Char} (member : d ∈ unitEscape n) :
    IsShown d := by
  simp only [unitEscape, hexDigits_four, List.mem_cons, List.not_mem_nil, or_false] at member
  rcases member with rfl | rfl | rfl | rfl | rfl | rfl
  · decide
  · decide
  all_goals exact isShown_hexDigit _ (Nat.mod_lt _ (by decide))

/-- How a character is written inside a string: with a letter, as itself, or with its code. -/
inductive Writes (c : Char) : List Char → Prop
  | letter (l : Char) (noCode : l ≠ 'u') (shown : IsShown l) (stands : escaped? l = some c)
    (small : c.toNat < 0x10000) : Writes c ['\\', l]
  | plain (quote : c ≠ '\x22') (escape : c ≠ '\\') (shown : IsShown c) : Writes c [c]
  | code : Writes c ((units c).flatMap unitEscape)

theorem writes_stringChar (c : Char) : Writes c (stringChar c) := by
  unfold stringChar
  simp only [Bool.or_eq_true, Bool.and_eq_true, decide_eq_true_eq, beq_iff_eq]
  split_ifs with special lineFeed lineEnd tab page back shown
  · rcases special with rfl | rfl
    · exact .letter _ (by decide) (by decide) rfl (by decide)
    · exact .letter _ (by decide) (by decide) rfl (by decide)
  · exact lineFeed ▸ .letter 'n' (by decide) (by decide) rfl (by decide)
  · exact lineEnd ▸ .letter 'r' (by decide) (by decide) rfl (by decide)
  · exact tab ▸ .letter 't' (by decide) (by decide) rfl (by decide)
  · exact page ▸ .letter 'f' (by decide) (by decide) rfl (by decide)
  · exact back ▸ .letter 'b' (by decide) (by decide) rfl (by decide)
  · obtain ⟨quote, escape⟩ := not_or.mp special
    exact .plain quote escape shown
  · exact .code

theorem stringUnits_stringChar (c : Char) (cs : List Char) :
    stringUnits (stringChar c ++ cs) = prepend (units c) (stringUnits cs) := by
  have written := writes_stringChar c
  generalize stringChar c = text at written ⊢
  cases written with
  | letter l noCode _ stands small =>
    rw [List.cons_append, List.singleton_append, stringUnits_escaped noCode stands,
      units_of_lt small]
  | plain quote escape shown => exact stringUnits_plain quote escape shown.1 cs
  | code => exact stringUnits_flatMap_unitEscape (fun _ => units_lt) cs

/-- What stands between the quotes of a written string is read back, and nothing behind it. -/
theorem string?_flatMap_stringChar (s : String) (after : List Char) :
    string? (s.toList.flatMap stringChar ++ '\x22' :: after) = some (s, after) := by
  have read : ∀ cs : List Char, stringUnits (cs.flatMap stringChar ++ '\x22' :: after)
      = some (cs.flatMap units, after) := by
    intro cs
    induction cs with
    | nil => rfl
    | cons c rest ih =>
      rw [List.flatMap_cons, List.append_assoc, stringUnits_stringChar, ih]
      rfl
  simp only [string?, read, Option.map_some, ofUnits_flatMap_units, String.ofList_toList]

theorem isShown_of_mem_stringChar {c d : Char} (member : d ∈ stringChar c) : IsShown d := by
  have written := writes_stringChar c
  generalize stringChar c = text at written member
  cases written with
  | letter l _ shown =>
    simp only [List.mem_cons, List.not_mem_nil, or_false] at member
    rcases member with rfl | rfl
    · decide
    · exact shown
  | plain _ _ shown =>
    obtain rfl := List.mem_singleton.mp member
    exact shown
  | code =>
    obtain ⟨n, -, escape⟩ := List.mem_flatMap.mp member
    exact isShown_of_mem_unitEscape escape

theorem toList_stringText (s : String) :
    (stringText s).toList = '\x22' :: (s.toList.flatMap stringChar ++ ['\x22']) :=
  String.toList_ofList

theorem isShown_of_mem_stringText {s : String} {d : Char} (member : d ∈ (stringText s).toList) :
    IsShown d := by
  rw [toList_stringText, List.mem_cons, List.mem_append, List.mem_singleton] at member
  rcases member with rfl | inside | rfl
  · decide
  · obtain ⟨c, -, written⟩ := List.mem_flatMap.mp inside
    exact isShown_of_mem_stringChar written
  · decide

end Json

end ApiClient
