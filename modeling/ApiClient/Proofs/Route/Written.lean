import ApiClient.Proofs.Text.Trim
import ApiClient.Route.Template
import Mathlib.Algebra.BigOperators.Group.List.Basic
import Mathlib.Algebra.Ring.Int.Defs

/-!
Templates put together from literals and written placeholders.

Three scanners cut a template, each with a depth of its own: braces around placeholders, then
brackets of both kinds around defaults, then again around constraints. A text that is balanced for
a scanner passes it whole. Main statement: a template written from literals and placeholders is
read back as these placeholders, and rendered with the same literals.
-/

set_option autoImplicit false

namespace ApiClient.Route

open Text

/-! ## Written templates -/

/-- What a character adds to the depth of braces. -/
def braceStep (c : Char) : Int := if c = '{' then 1 else if c = '}' then -1 else 0

/-- What a character adds to the depth of parentheses and braces. -/
def bracketStep (c : Char) : Int :=
  if c = '(' ∨ c = '{' then 1 else if c = ')' ∨ c = '}' then -1 else 0

/-- The depth behind a text. -/
def depth (step : Char → Int) (cs : List Char) : Int := (cs.map step).sum

/-- A text whose depth never falls below zero, and is zero at its end. -/
structure IsBalanced (step : Char → Int) (cs : List Char) : Prop where
  nonneg : ∀ n ≤ cs.length, 0 ≤ depth step (cs.take n)
  ends : depth step cs = 0

/-- A constraint: trimmed, balanced, with no colon or equals sign outside brackets. -/
structure IsConstraint (cs : List Char) : Prop where
  trimmed : IsTrimmed isBlank cs
  brackets : IsBalanced bracketStep cs
  braces : IsBalanced braceStep cs
  separators : ∀ n < cs.length, cs[n]? = some ':' ∨ cs[n]? = some '=' →
    depth bracketStep (cs.take n) ≠ 0

/-- The parts that a placeholder is written of. -/
structure Placeholder where
  stars : Nat
  name : List Char
  constraints : List (List Char)
  isMarked : Bool
  default : Option (List Char)

namespace Placeholder

/-- The constraints as written, each behind a colon. -/
def constraintText (p : Placeholder) : List Char := p.constraints.flatMap (':' :: ·)

/-- What stands before the default, `name:constraint:constraint?`. -/
def head (p : Placeholder) : List Char :=
  p.name ++ p.constraintText ++ if p.isMarked then ['?'] else []

/-- A default as written, behind an equals sign. -/
def defaultText : Option (List Char) → List Char
  | none => []
  | some d => '=' :: d

/-- The text between the braces, `*name:constraint:constraint?=default`. -/
def body (p : Placeholder) : List Char :=
  List.replicate p.stars '*' ++ p.head ++ defaultText p.default

/-- What a placeholder says. -/
def segment (p : Placeholder) : Segment :=
  { name := String.ofList p.name
    constraints := p.constraints.map String.ofList
    optional := p.isMarked || p.default.isSome }

/--
A placeholder whose parts can be told apart: its name has no sign of the notation, a last
constraint no question mark at its end, and a default closes the braces that it opens.
-/
structure IsProper (p : Placeholder) : Prop where
  trimmed : IsTrimmed isBlank p.name
  unstarred : p.name.head? ≠ some '*'
  plain : ∀ c ∈ p.name, c ∉ ['{', '}', '(', ')', ':', '=', '?']
  constraints : ∀ c ∈ p.constraints, IsConstraint c
  unmarked : ∀ c ∈ p.constraints.getLast?, c.getLast? ≠ some '?'
  default : ∀ d ∈ p.default, IsBalanced braceStep d

end Placeholder

/-- The interpolation of a member. -/
def interpolation (name : List Char) : List Char := "$\x7bthis.".toList ++ name ++ ['}']

/-- A part of a written template. -/
inductive Item
  | literal (text : List Char)
  | placeholder (p : Placeholder)

namespace Item

def source : Item → List Char
  | literal text => text
  | placeholder p => '{' :: p.body ++ ['}']

def segment? : Item → Option Segment
  | literal _ => none
  | placeholder p => some p.segment

/-- A literal as it is, and a placeholder as an interpolation of the member it names. -/
def rendered : Item → List Char
  | literal text => text
  | placeholder p => interpolation p.name

def IsProper : Item → Prop
  | literal text => '{' ∉ text ∧ '}' ∉ text
  | placeholder p => p.IsProper

end Item

/-- A property of texts that nothing has, and two texts together when each of them has it. -/
structure IsKept (P : List Char → Prop) : Prop where
  nil : P []
  append : ∀ {cs cs' : List Char}, P cs → P cs' → P (cs ++ cs')

namespace IsKept

variable {P : List Char → Prop}

theorem replicate (kept : IsKept P) {c : Char} (single : P [c]) (n : Nat) :
    P (List.replicate n c) := by
  induction n with
  | zero => exact kept.nil
  | succ n ih => exact kept.append single ih

theorem constraints (kept : IsKept P) {cs : List (List Char)} (constraint : ∀ c ∈ cs, P c)
    (colon : P [':']) : P (cs.flatMap (':' :: ·)) := by
  induction cs with
  | nil => exact kept.nil
  | cons c cs ih =>
    have first := kept.append colon (constraint c List.mem_cons_self)
    exact kept.append first (ih fun c' member => constraint c' (List.mem_cons_of_mem c member))

/-- What its name, its constraints and the signs between them have, a head has. -/
theorem head (kept : IsKept P) {p : Placeholder} (name : P p.name)
    (constraint : ∀ c ∈ p.constraints, P c) (colon : P [':']) (mark : P ['?']) : P p.head := by
  have marked : P (if p.isMarked then ['?'] else []) := by
    split
    · exact mark
    · exact kept.nil
  exact kept.append (kept.append name (kept.constraints constraint colon)) marked

end IsKept

/-! ## Scanning for braces -/

theorem depth_cons (step : Char → Int) (c : Char) (cs : List Char) :
    depth step (c :: cs) = step c + depth step cs := List.sum_cons

/-- What a depth that never falls below zero says from the second character on. -/
theorem nonneg_tail {step : Char → Int} {c : Char} {cs : List Char} {d : Int}
    (nonneg : ∀ n ≤ (c :: cs).length, 0 ≤ d + depth step ((c :: cs).take n)) :
    0 ≤ d + step c ∧ ∀ n ≤ cs.length, 0 ≤ d + step c + depth step (cs.take n) := by
  have later : ∀ n ≤ cs.length, 0 ≤ d + step c + depth step (cs.take n) := by
    intro n bounded
    have shifted := nonneg (n + 1) (Nat.succ_le_succ bounded)
    rw [List.take_succ_cons, depth_cons] at shifted
    omega
  refine ⟨?_, later⟩
  have first := later 0 (Nat.zero_le _)
  rw [List.take_zero] at first
  simpa [depth] using first

/-- A depth that can be left is the one inside of another. -/
theorem exists_outer {d : Nat} (nonneg : 0 ≤ (d : Int) + -1) :
    ∃ outer : Nat, d = outer + 1 ∧ (d : Int) + -1 = outer :=
  ⟨d - 1, by omega, by omega⟩

/-- Inside a placeholder a text goes to the body, as long as its braces do not close it. -/
theorem scan_append {d d' : Nat} {cs : List Char}
    (nonneg : ∀ n ≤ cs.length, 0 ≤ (d : Int) + depth braceStep (cs.take n))
    (ends : (d : Int) + depth braceStep cs = d') (text body rest : List Char) :
    scan (d + 1) text body (cs ++ rest) = scan (d' + 1) text (body ++ cs) rest := by
  induction cs generalizing d body with
  | nil =>
    obtain rfl : d = d' := Int.ofNat_inj.mp (by simpa [depth] using ends)
    simp
  | cons c cs ih =>
    obtain ⟨first, later⟩ := nonneg_tail nonneg
    rw [depth_cons, ← Int.add_assoc] at ends
    by_cases opens : c = '{'
    · have up : (d : Int) + braceStep c = (d + 1 : Nat) := by simp [braceStep, opens]
      rw [up] at later ends
      rw [List.cons_append, scan, if_pos opens, ih later ends]
      simp
    · by_cases shuts : c = '}'
      · -- the depth stays at zero or above, so this brace closes one inside the body
        have down : braceStep c = -1 := by simp [braceStep, shuts]
        rw [down] at first later ends
        obtain ⟨outer, rfl, back⟩ := exists_outer first
        rw [back] at later ends
        rw [List.cons_append, scan, if_neg opens, if_pos shuts, if_neg (Nat.succ_ne_zero outer),
          ih later ends]
        simp
      · have flat : braceStep c = 0 := by simp [braceStep, opens, shuts]
        rw [flat, Int.add_zero] at later ends
        rw [List.cons_append, scan, if_neg opens, if_neg shuts, ih later ends]
        simp

theorem isBalanced_of_forall {step : Char → Int} {cs : List Char} (flat : ∀ c ∈ cs, step c = 0) :
    IsBalanced step cs := by
  have level : ∀ n, depth step (cs.take n) = 0 := by
    intro n
    apply List.sum_eq_zero
    intro x member
    obtain ⟨c, taken, rfl⟩ := List.mem_map.mp member
    exact flat c (List.mem_of_mem_take taken)
  constructor
  · intro n _
    exact Int.le_of_eq (level n).symm
  · simpa using level cs.length

/-- A text that goes to the body of a placeholder whole. -/
def Fits (cs : List Char) : Prop :=
  ∀ text body rest, scan 1 text body (cs ++ rest) = scan 1 text (body ++ cs) rest

theorem fits_of_isBalanced {cs : List Char} (balanced : IsBalanced braceStep cs) : Fits cs := by
  refine @scan_append 0 0 cs ?_ ?_
  · simpa using balanced.nonneg
  · simpa using balanced.ends

theorem fits_of_forall {cs : List Char} (flat : ∀ c ∈ cs, c ≠ '{' ∧ c ≠ '}') : Fits cs := by
  refine fits_of_isBalanced (isBalanced_of_forall ?_)
  intro c member
  obtain ⟨noOpening, noClosing⟩ := flat c member
  simp [braceStep, noOpening, noClosing]

theorem isKept_fits : IsKept Fits where
  nil := fits_of_forall nofun
  append := by
    intro cs cs' left right text body rest
    rw [List.append_assoc, left, right, List.append_assoc]

theorem fits_body {p : Placeholder} (proper : p.IsProper) : Fits p.body := by
  have sign : ∀ c, c ≠ '{' ∧ c ≠ '}' → Fits [c] := fun c plain =>
    fits_of_forall (List.forall_mem_singleton.mpr plain)
  have name : Fits p.name := by
    apply fits_of_forall
    intro c member
    have plain := proper.plain c member
    simp only [List.mem_cons, not_or] at plain
    exact ⟨plain.1, plain.2.1⟩
  have constraint : ∀ c ∈ p.constraints, Fits c := fun c member =>
    fits_of_isBalanced (proper.constraints c member).braces
  have head := isKept_fits.head name constraint (sign ':' (by decide)) (sign '?' (by decide))
  have stars := isKept_fits.replicate (sign '*' (by decide)) p.stars
  have default : Fits (Placeholder.defaultText p.default) := by
    cases given : p.default with
    | none => exact isKept_fits.nil
    | some d =>
      have balanced := fits_of_isBalanced (proper.default d given)
      exact isKept_fits.append (sign '=' (by decide)) balanced
  exact isKept_fits.append (isKept_fits.append stars head) default

/-! ## Cutting at separators -/

/-- A text with no separator at depth zero stays in the first part. -/
theorem splitTopLevel_append {separator : Char} {d d' : Nat} {cs : List Char}
    (nonneg : ∀ n ≤ cs.length, 0 ≤ (d : Int) + depth bracketStep (cs.take n))
    (ends : (d : Int) + depth bracketStep cs = d')
    (inside : ∀ n < cs.length, cs[n]? = some separator →
      (d : Int) + depth bracketStep (cs.take n) ≠ 0) (rest : List Char) :
    splitTopLevel separator d (cs ++ rest)
      = (cs ++ (splitTopLevel separator d' rest).1, (splitTopLevel separator d' rest).2) := by
  induction cs generalizing d with
  | nil =>
    obtain rfl : d = d' := Int.ofNat_inj.mp (by simpa [depth] using ends)
    rfl
  | cons c cs ih =>
    obtain ⟨first, later⟩ := nonneg_tail nonneg
    have inside' : ∀ n < cs.length, cs[n]? = some separator →
        (d : Int) + bracketStep c + depth bracketStep (cs.take n) ≠ 0 := by
      intro n bounded found
      have shifted := inside (n + 1) (Nat.succ_lt_succ bounded) found
      rwa [List.take_succ_cons, depth_cons, ← Int.add_assoc] at shifted
    rw [depth_cons, ← Int.add_assoc] at ends
    by_cases opens : c = '(' ∨ c = '{'
    · have up : (d : Int) + bracketStep c = (d + 1 : Nat) := by simp [bracketStep, opens]
      rw [up] at later ends inside'
      rw [List.cons_append, splitTopLevel, if_pos opens, ih later ends inside']
      rfl
    · by_cases shuts : c = ')' ∨ c = '}'
      · have down : bracketStep c = -1 := by simp [bracketStep, opens, shuts]
        rw [down] at first later ends inside'
        obtain ⟨outer, rfl, back⟩ := exists_outer first
        rw [back] at later ends inside'
        rw [List.cons_append, splitTopLevel, if_neg opens, if_pos ⟨shuts, Nat.succ_pos outer⟩,
          Nat.succ_sub_one, ih later ends inside']
        rfl
      · have flat : bracketStep c = 0 := by simp [bracketStep, opens, shuts]
        rw [flat, Int.add_zero] at later ends inside'
        have kept : ¬(c = separator ∧ d = 0) := by
          rintro ⟨rfl, rfl⟩
          exact inside 0 (Nat.succ_pos _) rfl (by simp [depth])
        rw [List.cons_append, splitTopLevel, if_neg opens, if_neg fun h => shuts h.1,
          if_neg kept, ih later ends inside']
        rfl

/-- A text that is never cut at a separator. -/
def Holds (separator : Char) (cs : List Char) : Prop :=
  ∀ rest, splitTopLevel separator 0 (cs ++ rest)
    = (cs ++ (splitTopLevel separator 0 rest).1, (splitTopLevel separator 0 rest).2)

theorem holds_of_isConstraint {separator : Char} {cs : List Char} (isConstraint : IsConstraint cs)
    (cuts : separator = ':' ∨ separator = '=') : Holds separator cs := by
  refine @splitTopLevel_append separator 0 0 cs ?_ ?_ ?_
  · simpa using isConstraint.brackets.nonneg
  · simpa using isConstraint.brackets.ends
  · intro n bounded found
    have outside := isConstraint.separators n bounded (by
      rcases cuts with rfl | rfl
      · exact .inl found
      · exact .inr found)
    simpa using outside

theorem holds_of_forall {separator : Char} {cs : List Char}
    (flat : ∀ c ∈ cs, c ∉ ['(', ')', '{', '}', separator]) : Holds separator cs := by
  have balanced : IsBalanced bracketStep cs := by
    apply isBalanced_of_forall
    intro c member
    have plain := flat c member
    simp only [List.mem_cons, not_or] at plain
    simp [bracketStep, plain]
  refine @splitTopLevel_append separator 0 0 cs ?_ ?_ ?_
  · simpa using balanced.nonneg
  · simpa using balanced.ends
  · intro n _ found
    have absent := flat separator (List.mem_of_getElem? found)
    simp at absent

theorem isKept_holds (separator : Char) : IsKept (Holds separator) where
  nil := holds_of_forall nofun
  append := by
    intro cs cs' left right rest
    rw [List.append_assoc, left, right, List.append_assoc]

/-- Constraints are cut apart at the colons before them. -/
theorem splitTopLevel_constraintText {constraints : List (List Char)}
    (isConstraint : ∀ c ∈ constraints, IsConstraint c) :
    splitTopLevel ':' 0 (constraints.flatMap (':' :: ·)) = ([], constraints) := by
  induction constraints with
  | nil => rfl
  | cons c constraints ih =>
    have whole := holds_of_isConstraint (isConstraint c List.mem_cons_self) (.inl rfl)
    have others := ih fun c' member => isConstraint c' (List.mem_cons_of_mem c member)
    rw [List.flatMap_cons, List.cons_append, splitTopLevel, if_neg (by decide), if_neg (by decide),
      if_pos ⟨rfl, rfl⟩, whole, others, List.append_nil]

namespace Placeholder

variable {p : Placeholder}

theorem IsProper.holds_name {separator : Char} (proper : p.IsProper)
    (sign : separator = ':' ∨ separator = '=') : Holds separator p.name := by
  apply holds_of_forall
  intro c member
  have plain := proper.plain c member
  simp only [List.mem_cons, List.not_mem_nil, or_false, not_or] at plain ⊢
  obtain ⟨noOpening, noClosing, noOpening', noClosing', noColon, noEquals, -⟩ := plain
  refine ⟨noOpening', noClosing', noOpening, noClosing, ?_⟩
  rcases sign with rfl | rfl
  · exact noColon
  · exact noEquals

theorem IsProper.holds_head (proper : p.IsProper) : Holds '=' p.head := by
  have sign : ∀ c, c ∉ ['(', ')', '{', '}', '='] → Holds '=' [c] := fun c plain =>
    holds_of_forall (List.forall_mem_singleton.mpr plain)
  have constraint : ∀ c ∈ p.constraints, Holds '=' c := fun c member =>
    holds_of_isConstraint (proper.constraints c member) (.inr rfl)
  exact (isKept_holds '=').head (proper.holds_name (.inr rfl)) constraint
    (sign ':' (by decide)) (sign '?' (by decide))

/-- A default is cut off, whatever it says. -/
theorem IsProper.splitTopLevel_default (proper : p.IsProper) (default : Option (List Char)) :
    ∃ pieces, splitTopLevel '=' 0 (p.head ++ defaultText default) = (p.head, pieces)
      ∧ pieces.isEmpty = !default.isSome := by
  rw [proper.holds_head]
  cases default with
  | none => exact ⟨[], by simp [defaultText, splitTopLevel], rfl⟩
  | some d =>
    rw [defaultText, splitTopLevel, if_neg (by decide), if_neg (by decide), if_pos ⟨rfl, rfl⟩]
    exact ⟨_, by rw [List.append_nil], rfl⟩

/-- A name with its constraints ends in no question mark. -/
theorem IsProper.getLast?_ne (proper : p.IsProper) :
    (p.name ++ p.constraintText).getLast? ≠ some '?' := by
  intro last
  rcases List.eq_nil_or_concat p.constraints with none | ⟨others, c, split⟩
  · have member : '?' ∈ p.name := List.mem_of_getLast? (by simpa [constraintText, none] using last)
    exact absurd (by decide) (proper.plain '?' member)
  · rw [List.concat_eq_append] at split
    rw [constraintText, split, List.flatMap_append, ← List.append_assoc, List.getLast?_append,
      List.flatMap_singleton, List.getLast?_cons, Option.some_or, Option.some.injEq] at last
    have unmarked := proper.unmarked c (by simp [split])
    cases ending : c.getLast? with
    | none => simp [ending] at last
    | some d =>
      rw [ending, Option.getD_some] at last
      exact unmarked (last ▸ ending)

theorem IsProper.dropMark_head (proper : p.IsProper) :
    dropMark p.head = (p.name ++ p.constraintText, p.isMarked) := by
  unfold dropMark head
  cases p.isMarked with
  | true => simp
  | false => simpa using proper.getLast?_ne

theorem isKept_isTrimmed : IsKept (IsTrimmed isBlank) where
  nil := by decide
  append := IsTrimmed.append

theorem IsProper.isTrimmed_head (proper : p.IsProper) :
    IsTrimmed isBlank (List.replicate p.stars '*' ++ p.head) := by
  have constraint : ∀ c ∈ p.constraints, IsTrimmed isBlank c := fun c member =>
    (proper.constraints c member).trimmed
  have head := isKept_isTrimmed.head proper.trimmed constraint (by decide) (by decide)
  exact isKept_isTrimmed.append (isKept_isTrimmed.replicate (by decide) p.stars) head

/-- Trimming a body only shortens the default. -/
theorem IsProper.trim_body (proper : p.IsProper) :
    trim p.body = List.replicate p.stars '*' ++ p.head
      ++ defaultText (p.default.map (dropEndWhile isBlank)) := by
  unfold trim body
  cases p.default with
  | none =>
    rw [defaultText, List.append_nil, proper.isTrimmed_head.trimWhile_eq]
    simp [defaultText]
  | some d =>
    have equals : IsTrimmed isBlank ['='] := by decide
    have behind := (proper.isTrimmed_head.append equals).trimWhile_append (by simp) d
    simpa [defaultText] using behind

/-- Behind the stars there is a name, or where it is empty a sign of the notation. -/
theorem IsProper.head?_ne_star (proper : p.IsProper) (default : Option (List Char)) :
    (p.head ++ defaultText default).head? ≠ some '*' := by
  unfold head constraintText
  cases named : p.name with
  | cons c name =>
    have unstarred := proper.unstarred
    rw [named] at unstarred
    exact unstarred
  | nil =>
    cases p.constraints with
    | cons c constraints => simp
    | nil =>
      cases p.isMarked with
      | true => simp
      | false => cases default <;> simp [defaultText]

theorem IsProper.dropWhile_stars (proper : p.IsProper) (default : Option (List Char)) :
    (List.replicate p.stars '*' ++ p.head ++ defaultText default).dropWhile (· == '*')
      = p.head ++ defaultText default := by
  rw [List.append_assoc]
  apply dropWhile_append_of_stops
  · intro c member
    simp [List.eq_of_mem_replicate member]
  · intro c start
    rw [beq_eq_false_iff_ne]
    rintro rfl
    exact proper.head?_ne_star default start

theorem IsProper.segmentOf_body (proper : p.IsProper) : segmentOf p.body = p.segment := by
  obtain ⟨pieces, cut, default⟩ :=
    proper.splitTopLevel_default (p.default.map (dropEndWhile isBlank))
  have parts : splitTopLevel ':' 0 (p.name ++ p.constraintText) = (p.name, p.constraints) := by
    rw [proper.holds_name (.inl rfl), constraintText,
      splitTopLevel_constraintText proper.constraints, List.append_nil]
  have constraints : p.constraints.map (fun c => String.ofList (trim c))
      = p.constraints.map String.ofList := by
    apply List.map_congr_left
    intro c member
    rw [trim, (proper.constraints c member).trimmed.trimWhile_eq]
  unfold segmentOf
  simp only [proper.trim_body, proper.dropWhile_stars, cut, proper.dropMark_head, parts,
    constraints, default]
  rw [trim, proper.trimmed.trimWhile_eq, segment, Bool.not_not, Option.isSome_map, Bool.or_comm]

end Placeholder

/-! ## Whole templates -/

theorem render_placeholder (body : List Char) :
    Piece.render (.placeholder body) = interpolation (segmentOf body).name.toList := by
  -- unfolded by hand, since an equation for this case would evaluate the text in it
  delta Piece.render interpolation
  dsimp only

theorem scan_literal {cs : List Char} (noOpening : '{' ∉ cs) (text rest : List Char) :
    scan 0 text [] (cs ++ rest) = scan 0 (text ++ cs) [] rest := by
  induction cs generalizing text with
  | nil => simp
  | cons c cs ih =>
    simp only [List.mem_cons, not_or] at noOpening
    rw [List.cons_append, scan, if_neg (Ne.symm noOpening.1), ih noOpening.2]
    simp

theorem scan_placeholder {p : Placeholder} (proper : p.IsProper) (text rest : List Char) :
    scan 0 text [] ('{' :: p.body ++ ['}'] ++ rest)
      = .literal text :: .placeholder p.body :: scan 0 [] [] rest := by
  rw [List.append_assoc, List.cons_append, scan, if_pos rfl, fits_body proper,
    List.singleton_append, scan, if_neg (by decide), if_pos rfl, if_pos rfl, List.nil_append]

/-- The pieces of a template say what its items say, and are rendered as they are. -/
theorem pieces_items {items : List Item} (proper : ∀ i ∈ items, i.IsProper) (text : List Char) :
    (scan 0 text [] (items.flatMap Item.source)).filterMap Piece.segment?
        = items.filterMap Item.segment?
      ∧ (scan 0 text [] (items.flatMap Item.source)).flatMap Piece.render
        = text ++ items.flatMap Item.rendered := by
  induction items generalizing text with
  | nil =>
    rw [List.flatMap_nil, scan, List.flatMap_singleton, List.flatMap_nil, List.append_nil]
    exact ⟨rfl, rfl⟩
  | cons item items ih =>
    have first := proper item List.mem_cons_self
    have others := ih fun i member => proper i (List.mem_cons_of_mem item member)
    rw [List.flatMap_cons, List.flatMap_cons]
    cases item with
    | literal cs =>
      obtain ⟨segments, rendered⟩ := others (text ++ cs)
      rw [Item.source, scan_literal first.1, segments, rendered, List.append_assoc]
      exact ⟨rfl, rfl⟩
    | placeholder p =>
      obtain ⟨segments, rendered⟩ := others []
      rw [List.nil_append] at rendered
      have read := Placeholder.IsProper.segmentOf_body first
      have written : Piece.render (.placeholder p.body) = Item.rendered (.placeholder p) := by
        rw [render_placeholder, read, Placeholder.segment, String.toList_ofList, Item.rendered]
      rw [Item.source, scan_placeholder first]
      constructor
      · have segment : Piece.segment? (.placeholder p.body) = some p.segment := congrArg some read
        have segment' : Item.segment? (.placeholder p) = some p.segment := rfl
        rw [List.filterMap_cons_none rfl, List.filterMap_cons_some segment,
          List.filterMap_cons_some segment', segments]
      · rw [List.flatMap_cons, List.flatMap_cons, rendered, written]
        rfl

/--
A template written of literals without braces and of proper placeholders is read as one segment
for each placeholder, in order, and rendered with each placeholder as an interpolation.
-/
theorem segments_render_source (items : List Item) (proper : ∀ i ∈ items, i.IsProper) :
    segments (String.ofList (items.flatMap Item.source)) = items.filterMap Item.segment?
      ∧ render (String.ofList (items.flatMap Item.source))
        = String.ofList (items.flatMap Item.rendered) := by
  obtain ⟨segments, rendered⟩ := pieces_items proper []
  constructor
  · rw [Route.segments, String.toList_ofList]
    exact segments
  · rw [Route.render, String.toList_ofList]
    exact congrArg String.ofList rendered

/-- A placeholder with each of its parts, `{*stamp:regex(^\d{2}:\d{2}$)?=00:00}`. -/
def stamp : Placeholder :=
  ⟨1, "stamp".toList, ["regex(^\\d\x7b2\x7d:\\d\x7b2\x7d$)".toList], true, some "00:00".toList⟩

theorem isProper_stamp : stamp.IsProper := by
  have plain : stamp.name.all (· ∉ ['{', '}', '(', ')', ':', '=', '?']) = true := by
    decide +kernel
  refine ⟨by decide +kernel, by decide +kernel, by simpa using plain, ?_, by decide +kernel, ?_⟩
  · intro c member
    obtain rfl := List.mem_singleton.mp member
    refine ⟨?_, ⟨?_, ?_⟩, ⟨?_, ?_⟩, ?_⟩ <;> decide +kernel
  · intro d given
    obtain rfl := Option.some.inj given
    refine ⟨?_, ?_⟩ <;> decide +kernel

theorem segments_render_source_stamp :
    (∀ i ∈ [Item.literal "at/".toList, .placeholder stamp], i.IsProper)
      ∧ segments "at/\x7b*stamp:regex(^\\d\x7b2\x7d:\\d\x7b2\x7d$)?=00:00\x7d"
        = [⟨"stamp", ["regex(^\\d\x7b2\x7d:\\d\x7b2\x7d$)"], true⟩]
      ∧ render "at/\x7b*stamp:regex(^\\d\x7b2\x7d:\\d\x7b2\x7d$)?=00:00\x7d"
        = "at/$\x7bthis.stamp\x7d" := by
  have proper : ∀ i ∈ [Item.literal "at/".toList, .placeholder stamp], i.IsProper := by
    intro i member
    simp only [List.mem_cons, List.not_mem_nil, or_false] at member
    rcases member with rfl | rfl
    · exact ⟨by decide +kernel, by decide +kernel⟩
    · exact isProper_stamp
  have source : String.ofList ([Item.literal "at/".toList, .placeholder stamp].flatMap Item.source)
      = "at/\x7b*stamp:regex(^\\d\x7b2\x7d:\\d\x7b2\x7d$)?=00:00\x7d" := by decide +kernel
  have segment : [Item.literal "at/".toList, .placeholder stamp].filterMap Item.segment?
      = [⟨"stamp", ["regex(^\\d\x7b2\x7d:\\d\x7b2\x7d$)"], true⟩] := by decide +kernel
  have rendered : String.ofList
      ([Item.literal "at/".toList, .placeholder stamp].flatMap Item.rendered)
      = "at/$\x7bthis.stamp\x7d" := by decide +kernel
  obtain ⟨read, written⟩ := segments_render_source _ proper
  rw [source] at read written
  exact ⟨proper, read.trans segment, written.trans rendered⟩

end ApiClient.Route
