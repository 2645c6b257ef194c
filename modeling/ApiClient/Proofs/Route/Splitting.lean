import ApiClient.Route.Template
import Mathlib.Data.List.Basic

/-!
Cutting a text at the separators outside its brackets.

A step of the cut either ends a part, at a separator at depth zero, or adds a character to the
first part. Brackets need not match: an opening one counts alike whichever it is, and a closing
one without an opening one counts for nothing. Main statement: the parts joined again are the
text, none of them is cut further, and there is one more of them than separators at depth zero.
-/

set_option autoImplicit false

namespace ApiClient.Route

/-- The depth of brackets after one more character; it never falls below zero. -/
def nest (d : Nat) (c : Char) : Nat :=
  if c = '(' ∨ c = '{' then d + 1 else if c = ')' ∨ c = '}' then d - 1 else d

def nesting (d : Nat) (cs : List Char) : Nat := cs.foldl nest d

/-- The number of separators of a text at depth zero, when it starts at a depth. -/
def separatorCount (separator : Char) (d : Nat) (cs : List Char) : Nat :=
  (List.range cs.length).countP fun n => cs[n]? == some separator && nesting d (cs.take n) == 0

/-- The parts of a text that starts outside brackets. -/
def topLevelParts (separator : Char) (text : List Char) : List (List Char) :=
  (splitTopLevel separator 0 text).1 :: (splitTopLevel separator 0 text).2

variable {separator : Char}

theorem separatorCount_cons (d : Nat) (c : Char) (cs : List Char) :
    separatorCount separator d (c :: cs)
      = separatorCount separator (nest d c) cs + if c = separator ∧ d = 0 then 1 else 0 := by
  unfold separatorCount
  rw [List.length_cons, List.range_succ_eq_map, List.countP_cons, List.countP_map]
  simp [Function.comp_def, nesting]

/-! ## Steps of the cut -/

theorem splitTopLevel_cut (plain : separator ∉ ['(', ')', '{', '}']) (cs : List Char) :
    splitTopLevel separator 0 (separator :: cs)
      = ([], (splitTopLevel separator 0 cs).1 :: (splitTopLevel separator 0 cs).2) := by
  simp only [List.mem_cons, List.not_mem_nil, or_false, not_or] at plain
  obtain ⟨notOpening, notClosing, notOpening', notClosing'⟩ := plain
  have opens : ¬(separator = '(' ∨ separator = '{') := not_or.mpr ⟨notOpening, notOpening'⟩
  rw [splitTopLevel, if_neg opens, if_neg fun shuts => Nat.lt_irrefl 0 shuts.2, if_pos ⟨rfl, rfl⟩]

theorem splitTopLevel_keep {d : Nat} {c : Char} (kept : ¬(c = separator ∧ d = 0))
    (cs : List Char) :
    splitTopLevel separator d (c :: cs)
      = (c :: (splitTopLevel separator (nest d c) cs).1,
        (splitTopLevel separator (nest d c) cs).2) := by
  by_cases opens : c = '(' ∨ c = '{'
  · have deeper : nest d c = d + 1 := if_pos opens
    rw [splitTopLevel, if_pos opens, deeper]
  · by_cases shuts : c = ')' ∨ c = '}'
    · have outer : nest d c = d - 1 := by simp [nest, opens, shuts]
      rw [outer]
      cases d with
      | zero =>
        -- a closing bracket at depth zero is text like any other
        rw [splitTopLevel, if_neg opens, if_neg fun h => Nat.lt_irrefl 0 h.2, if_neg kept]
      | succ d => rw [splitTopLevel, if_neg opens, if_pos ⟨shuts, Nat.succ_pos d⟩]
    · have level : nest d c = d := by simp [nest, opens, shuts]
      rw [splitTopLevel, if_neg opens, if_neg fun h => shuts h.1, if_neg kept, level]

/-! ## What the parts are -/

theorem intercalate_cons_cons_head (sep : List Char) (c : Char) (first : List Char)
    (others : List (List Char)) :
    sep.intercalate ((c :: first) :: others) = c :: sep.intercalate (first :: others) := by
  cases others with
  | nil => simp
  | cons part others => simp [List.intercalate_cons_cons]

theorem intercalate_splitTopLevel (plain : separator ∉ ['(', ')', '{', '}']) (d : Nat)
    (cs : List Char) :
    [separator].intercalate ((splitTopLevel separator d cs).1 :: (splitTopLevel separator d cs).2)
      = cs := by
  induction cs generalizing d with
  | nil => simp [splitTopLevel]
  | cons c cs ih =>
    by_cases cut : c = separator ∧ d = 0
    · obtain ⟨rfl, rfl⟩ := cut
      rw [splitTopLevel_cut plain, List.intercalate_cons_cons, ih]
      rfl
    · rw [splitTopLevel_keep cut, intercalate_cons_cons_head, ih]

/-- The first part is not cut again at the depth it starts at. -/
theorem splitTopLevel_first (plain : separator ∉ ['(', ')', '{', '}']) (d : Nat)
    (cs : List Char) :
    splitTopLevel separator d (splitTopLevel separator d cs).1
      = ((splitTopLevel separator d cs).1, []) := by
  induction cs generalizing d with
  | nil => rfl
  | cons c cs ih =>
    by_cases cut : c = separator ∧ d = 0
    · obtain ⟨rfl, rfl⟩ := cut
      rw [splitTopLevel_cut plain]
      rfl
    · rw [splitTopLevel_keep cut]
      dsimp only
      rw [splitTopLevel_keep cut, ih]

/-- The other parts start at depth zero, and are not cut again from there. -/
theorem splitTopLevel_others (plain : separator ∉ ['(', ')', '{', '}']) {d : Nat}
    {cs part : List Char} (member : part ∈ (splitTopLevel separator d cs).2) :
    splitTopLevel separator 0 part = (part, []) := by
  induction cs generalizing d with
  | nil => simp [splitTopLevel] at member
  | cons c cs ih =>
    by_cases cut : c = separator ∧ d = 0
    · obtain ⟨rfl, rfl⟩ := cut
      rw [splitTopLevel_cut plain] at member
      rcases List.mem_cons.mp member with rfl | later
      · exact splitTopLevel_first plain 0 cs
      · exact ih later
    · rw [splitTopLevel_keep cut] at member
      exact ih member

theorem length_splitTopLevel (plain : separator ∉ ['(', ')', '{', '}']) (d : Nat)
    (cs : List Char) :
    (splitTopLevel separator d cs).2.length = separatorCount separator d cs := by
  induction cs generalizing d with
  | nil => rfl
  | cons c cs ih =>
    rw [separatorCount_cons]
    by_cases cut : c = separator ∧ d = 0
    · obtain ⟨rfl, rfl⟩ := cut
      have level : nest 0 c = 0 := by
        simp only [List.mem_cons, List.not_mem_nil, or_false, not_or] at plain
        simp [nest, plain]
      rw [splitTopLevel_cut plain, List.length_cons, ih, level, if_pos ⟨rfl, rfl⟩]
    · rw [splitTopLevel_keep cut, ih, if_neg cut, Nat.add_zero]

/--
The parts of a text joined by the separator are the text, each of them is a part of its own, and
there is one more of them than separators outside brackets.
-/
theorem topLevelParts_divide (plain : separator ∉ ['(', ')', '{', '}']) (text : List Char) :
    [separator].intercalate (topLevelParts separator text) = text
      ∧ (∀ part ∈ topLevelParts separator text, topLevelParts separator part = [part])
      ∧ (topLevelParts separator text).length = separatorCount separator 0 text + 1 := by
  refine ⟨intercalate_splitTopLevel plain 0 text, ?_, ?_⟩
  · intro part member
    have whole : splitTopLevel separator 0 part = (part, []) := by
      rcases List.mem_cons.mp member with rfl | later
      · exact splitTopLevel_first plain 0 text
      · exact splitTopLevel_others plain later
    rw [topLevelParts, whole]
  · rw [topLevelParts, List.length_cons, length_splitTopLevel plain]

/-- Brackets that do not match: closed without an opening one, by the other kind, and never. -/
theorem topLevelParts_divide_unmatched :
    ':' ∉ ['(', ')', '{', '}']
      ∧ [':'].intercalate (topLevelParts ':' "id:a):b(:c\x7d)):(d:".toList)
        = "id:a):b(:c\x7d)):(d:".toList
      ∧ (∀ part ∈ topLevelParts ':' "id:a):b(:c\x7d)):(d:".toList,
        topLevelParts ':' part = [part])
      ∧ topLevelParts ':' "id:a):b(:c\x7d)):(d:".toList
        = ["id".toList, "a)".toList, "b(:c\x7d))".toList, "(d:".toList]
      ∧ separatorCount ':' 0 "id:a):b(:c\x7d)):(d:".toList = 3 := by
  have plain : ':' ∉ ['(', ')', '{', '}'] := by decide
  obtain ⟨joined, whole, counted⟩ := topLevelParts_divide plain "id:a):b(:c\x7d)):(d:".toList
  have parts : topLevelParts ':' "id:a):b(:c\x7d)):(d:".toList
      = ["id".toList, "a)".toList, "b(:c\x7d))".toList, "(d:".toList] := by decide +kernel
  refine ⟨plain, joined, whole, parts, ?_⟩
  rw [parts] at counted
  exact (Nat.succ.inj counted).symm

end ApiClient.Route
