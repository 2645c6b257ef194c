import ApiClient.Proofs.Text.Trim
import ApiClient.TypeRef.Parser

/-!
The grammar of type names, and reading against it.

`Derives` says which texts are types and lists of arguments, each with what it stands for and with
what follows it. Main statement: reading a text gives a reference exactly when the grammar derives
the text for that reference, refuses every other text, and never depends on the fuel it is given.
-/

set_option autoImplicit false

namespace ApiClient.TypeRef.Parser

open Text

/-- A name: not empty, of name characters alone, with no dot at either end. -/
structure IsName (name : List Char) : Prop where
  nonempty : name ≠ []
  chars : ∀ c ∈ name, isNameChar c = true
  start : name.head? ≠ some '.'
  finish : name.getLast? ≠ some '.'

/-- Whether a name that stands before a text ends there. -/
def EndsName (rest : List Char) : Prop := ∀ c, rest.head? = some c → isNameChar c = false

def IsBlanks (cs : List Char) : Prop := ∀ c ∈ cs, isBlank c = true

/-- Array suffixes, `[]` as many times. -/
def suffixes : Nat → List Char
  | 0 => []
  | n + 1 => '[' :: ']' :: suffixes n

/-- A reference wrapped into an array as many times. -/
def arrays : Nat → TypeRef → TypeRef
  | 0, r => r
  | n + 1, r => arrays n r.array

/-- What a stretch of a type name stands for. -/
inductive Phrase
  | type (r : TypeRef)
  | arguments (rs : List TypeRef)

/--
`Derives phrase text rest`: the text is a phrase where `rest` follows it.

    type      ::=  blank* name [ '<' arguments '>' ] ( '[]' )*
    arguments ::=  type blank* ( ',' type blank* )*

The rest counts because a name is a run of name characters that does not go on behind it.
-/
inductive Derives : Phrase → List Char → List Char → Prop
  | named {blanks name rest : List Char} {n : Nat} (blank : IsBlanks blanks)
      (isName : IsName name) (ends : EndsName (suffixes n ++ rest)) :
      Derives (.type (arrays n (.plain (String.ofList name)))) (blanks ++ name ++ suffixes n) rest
  | closed {blanks name text rest : List Char} {args : List TypeRef} {n : Nat}
      (blank : IsBlanks blanks) (isName : IsName name)
      (inner : Derives (.arguments args) text ('>' :: (suffixes n ++ rest))) :
      Derives (.type (arrays n (.generic (String.ofList name) args)))
        (blanks ++ name ++ '<' :: text ++ '>' :: suffixes n) rest
  | last {r : TypeRef} {text blanks rest : List Char}
      (first : Derives (.type r) text (blanks ++ rest)) (blank : IsBlanks blanks) :
      Derives (.arguments [r]) (text ++ blanks) rest
  | more {r : TypeRef} {rs : List TypeRef} {text blanks others rest : List Char}
      (first : Derives (.type r) text (blanks ++ ',' :: (others ++ rest)))
      (blank : IsBlanks blanks) (next : Derives (.arguments rs) others rest) :
      Derives (.arguments (r :: rs)) (text ++ blanks ++ ',' :: others) rest

/-- A whole text that is a type, with blanks at its end: `text ::= type blank*`. -/
def IsWritten (r : TypeRef) (cs : List Char) : Prop :=
  ∃ text blanks, cs = text ++ blanks ∧ IsBlanks blanks ∧ Derives (.type r) text blanks

/-! Blanks, names and suffixes, each by itself. -/

theorem toNat_of_isNameChar {c : Char} (named : isNameChar c = true) :
    0x21 ≤ c.toNat ∧ c.toNat ≤ 0x7E := by
  -- opened down to comparisons of code points
  delta isNameChar Char.isAlphanum Char.isAlpha Char.isUpper Char.isLower Char.isDigit at named
  simp only [Bool.or_eq_true, Bool.and_eq_true, decide_eq_true_eq, beq_iff_eq, UInt32.le_iff_toNat_le,
    ge_iff_le, Char.toNat_val] at named
  rcases named with
    (((((((upper | lower) | digit) | rfl) | rfl) | rfl) | rfl) | rfl) | rfl
  · exact ⟨Nat.le_trans (by decide) upper.1, Nat.le_trans upper.2 (by decide)⟩
  · exact ⟨Nat.le_trans (by decide) lower.1, Nat.le_trans lower.2 (by decide)⟩
  · exact ⟨Nat.le_trans (by decide) digit.1, Nat.le_trans digit.2 (by decide)⟩
  all_goals decide

theorem isBlank_eq_false_of_isNameChar {c : Char} (named : isNameChar c = true) :
    isBlank c = false := by
  have range := toNat_of_isNameChar named
  simp only [isBlank, isSpace, Bool.or_eq_false_iff, Bool.and_eq_false_iff, decide_eq_false_iff_not,
    beq_eq_false_iff_ne]
  omega

theorem isBlanks_takeWhile (cs : List Char) : IsBlanks (cs.takeWhile isBlank) :=
  fun _ member => List.mem_takeWhile_imp member

theorem nameFault?_eq_none_iff {run : List Char} :
    nameFault? run = none
      ↔ run ≠ [] ∧ run.head? ≠ some '.' ∧ run.getLast? ≠ some '.' := by
  unfold nameFault?
  cases run with
  | nil => simp
  | cons c run => simp

theorem name_eq_ok_iff {cs n rest : List Char} :
    name cs = .ok (n, rest) ↔ cs = n ++ rest ∧ IsName n ∧ EndsName rest := by
  unfold name
  constructor
  · intro ok
    cases fault : nameFault? (cs.takeWhile isNameChar) with
    | some fault' => simp [fault] at ok
    | none =>
      simp only [fault, Except.ok.injEq, Prod.mk.injEq] at ok
      obtain ⟨rfl, rfl⟩ := ok
      obtain ⟨nonempty, start, finish⟩ := nameFault?_eq_none_iff.mp fault
      refine ⟨List.takeWhile_append_dropWhile.symm, ?_, ?_⟩
      · exact ⟨nonempty, fun c member => List.mem_takeWhile_imp member, start, finish⟩
      · intro c first
        have stopped := List.head?_dropWhile_not isNameChar cs
        rw [first] at stopped
        exact stopped
  · rintro ⟨rfl, isName, ends⟩
    have left := dropWhile_append_of_stops isName.chars ends
    have run : (n ++ rest).takeWhile isNameChar = n := by
      have both := List.takeWhile_append_dropWhile (p := isNameChar) (l := n ++ rest)
      rw [left] at both
      exact List.append_cancel_right both
    have faultless := nameFault?_eq_none_iff.mpr ⟨isName.nonempty, isName.start, isName.finish⟩
    simp only [run, left, faultless]

theorem head?_of_isName {n : List Char} (isName : IsName n) (rest : List Char) :
    ∃ c, (n ++ rest).head? = some c ∧ isNameChar c = true := by
  cases n with
  | nil => exact absurd rfl isName.nonempty
  | cons c n => exact ⟨c, rfl, isName.chars c List.mem_cons_self⟩

theorem dropWhile_blanks_name {blanks n : List Char} (blank : IsBlanks blanks)
    (isName : IsName n) (rest : List Char) :
    (blanks ++ (n ++ rest)).dropWhile isBlank = n ++ rest := by
  apply dropWhile_append_of_stops blank
  intro c first
  obtain ⟨d, first', named⟩ := head?_of_isName isName rest
  rw [first'] at first
  obtain rfl := Option.some.inj first
  exact isBlank_eq_false_of_isNameChar named

/-- Reading suffixes takes a number of them off, until no further one follows. -/
theorem exists_arraySuffixes (r : TypeRef) (cs : List Char) :
    ∃ n rest, cs = suffixes n ++ rest ∧ arraySuffixes r cs = (arrays n r, rest)
      ∧ ∀ tail, rest ≠ '[' :: ']' :: tail := by
  induction r, cs using arraySuffixes.induct with
  | case1 r rest ih =>
    obtain ⟨n, rest', split, read, stops⟩ := ih
    refine ⟨n + 1, rest', ?_, ?_, stops⟩
    · rw [split]
      rfl
    · rw [arraySuffixes, read]
      rfl
  | case2 r cs other => exact ⟨0, cs, rfl, arraySuffixes.eq_2 r cs other, other⟩

theorem arraySuffixes_suffixes (r : TypeRef) (n : Nat) {rest : List Char}
    (stops : ∀ tail, rest ≠ '[' :: ']' :: tail) :
    arraySuffixes r (suffixes n ++ rest) = (arrays n r, rest) := by
  induction n generalizing r with
  | zero => exact arraySuffixes.eq_2 r rest stops
  | succ n ih => exact ih r.array

/-- A text that may follow a type inside a type name. -/
def Follows (rest : List Char) : Prop :=
  ∀ c, rest.head? = some c → isBlank c = true ∨ c = ',' ∨ c = '>'

theorem Follows.ne_cons {rest : List Char} (follows : Follows rest) {c : Char}
    (differs : isBlank c = false ∧ c ≠ ',' ∧ c ≠ '>') (tail : List Char) : rest ≠ c :: tail := by
  rintro rfl
  obtain ⟨visible, notComma, notClosing⟩ := differs
  rcases follows c rfl with blank | comma | closing
  · rw [visible] at blank
    exact absurd blank nofun
  · exact notComma comma
  · exact notClosing closing

theorem follows_blanks {blanks rest : List Char} (blank : IsBlanks blanks)
    (follows : Follows rest) : Follows (blanks ++ rest) := by
  cases blanks with
  | nil => exact follows
  | cons b blanks => exact forall_head?_cons (.inl (blank b List.mem_cons_self)) (blanks ++ rest)

/-! What one call does. -/

variable {fuel : Nat} {cs rest : List Char}

/-- A type that was read is a name behind blanks, with or without arguments, and suffixes. -/
theorem type_succ_ok {r : TypeRef} (ok : type (fuel + 1) cs = .ok (r, rest)) :
    ∃ blanks n after count, cs = blanks ++ (n ++ after) ∧ IsBlanks blanks ∧ IsName n
      ∧ (∀ tail, rest ≠ '[' :: ']' :: tail)
      ∧ ((EndsName after ∧ after = suffixes count ++ rest ∧ (∀ inner, after ≠ '<' :: inner)
          ∧ r = arrays count (.plain (String.ofList n)))
        ∨ ∃ args inner, after = '<' :: inner
          ∧ arguments fuel inner = .ok (args, suffixes count ++ rest)
          ∧ r = arrays count (.generic (String.ofList n) args)) := by
  have split : cs = cs.takeWhile isBlank ++ cs.dropWhile isBlank :=
    List.takeWhile_append_dropWhile.symm
  rw [type] at ok
  cases named : name (cs.dropWhile isBlank) with
  | error stop => simp [named] at ok
  | ok read =>
    obtain ⟨n, after⟩ := read
    obtain ⟨whole, isName, ends⟩ := name_eq_ok_iff.mp named
    rw [whole] at split
    rw [named] at ok
    split at ok
    · exact absurd ok nofun
    · next n' inner same =>
      obtain ⟨rfl, rfl⟩ := Prod.mk.inj (Except.ok.inj same)
      cases read : arguments fuel inner with
      | error stop => simp [read] at ok
      | ok found =>
        obtain ⟨args, behind⟩ := found
        obtain ⟨count, rest', suffixed, wrapped, stops⟩ :=
          exists_arraySuffixes (.generic (String.ofList n) args) behind
        simp only [read, wrapped, Except.ok.injEq, Prod.mk.injEq] at ok
        obtain ⟨rfl, rfl⟩ := ok
        refine ⟨_, n, _, count, split, isBlanks_takeWhile cs, isName, stops, .inr ?_⟩
        exact ⟨args, inner, rfl, by rw [read, suffixed], rfl⟩
    · next n' after' other same =>
      obtain ⟨rfl, rfl⟩ := Prod.mk.inj (Except.ok.inj same)
      obtain ⟨count, rest', suffixed, wrapped, stops⟩ :=
        exists_arraySuffixes (.plain (String.ofList n)) after
      simp only [wrapped, Except.ok.injEq, Prod.mk.injEq] at ok
      obtain ⟨rfl, rfl⟩ := ok
      have unclosed : ∀ inner, after ≠ '<' :: inner := by
        rintro inner rfl
        exact other inner rfl
      exact ⟨_, n, after, count, split, isBlanks_takeWhile cs, isName, stops,
        .inl ⟨ends, suffixed, unclosed, rfl⟩⟩

/-- Arguments that were read are a type, then the closing bracket, or a comma and arguments. -/
theorem arguments_succ_ok {rs : List TypeRef} (ok : arguments (fuel + 1) cs = .ok (rs, rest)) :
    ∃ r after blanks, type fuel cs = .ok (r, after) ∧ IsBlanks blanks
      ∧ ((after = blanks ++ '>' :: rest ∧ rs = [r])
        ∨ ∃ others inner, after = blanks ++ ',' :: inner
          ∧ arguments fuel inner = .ok (others, rest) ∧ rs = r :: others) := by
  rw [arguments] at ok
  cases first : type fuel cs with
  | error stop => simp [first] at ok
  | ok read =>
    obtain ⟨r, after⟩ := read
    have split : after = after.takeWhile isBlank ++ after.dropWhile isBlank :=
      List.takeWhile_append_dropWhile.symm
    simp only [first] at ok
    refine ⟨r, after, after.takeWhile isBlank, rfl, isBlanks_takeWhile after, ?_⟩
    split at ok
    · next behind closes =>
      simp only [Except.ok.injEq, Prod.mk.injEq] at ok
      obtain ⟨rfl, rfl⟩ := ok
      exact .inl ⟨by rw [← closes]; exact split, rfl⟩
    · next inner goesOn =>
      cases next : arguments fuel inner with
      | error stop => simp [next] at ok
      | ok found =>
        obtain ⟨others, behind⟩ := found
        simp only [next, Except.ok.injEq, Prod.mk.injEq] at ok
        obtain ⟨rfl, rfl⟩ := ok
        exact .inr ⟨others, inner, by rw [← goesOn]; exact split, next, rfl⟩
    · exact absurd ok nofun

theorem type_named {blanks n after : List Char} (blank : IsBlanks blanks) (isName : IsName n)
    (ends : EndsName after) (unclosed : ∀ inner, after ≠ '<' :: inner) :
    type (fuel + 1) (blanks ++ (n ++ after))
      = .ok (arraySuffixes (.plain (String.ofList n)) after) := by
  have named := name_eq_ok_iff.mpr ⟨rfl, isName, ends⟩
  rw [type, dropWhile_blanks_name blank isName, named]
  split
  · next same => exact absurd same nofun
  · next inner same => exact absurd (Prod.mk.inj (Except.ok.inj same)).2 (unclosed inner)
  · next same =>
    obtain ⟨rfl, rfl⟩ := Prod.mk.inj (Except.ok.inj same)
    rfl

theorem type_closed {blanks n inner after : List Char} {args : List TypeRef}
    (blank : IsBlanks blanks) (isName : IsName n)
    (read : arguments fuel inner = .ok (args, after)) :
    type (fuel + 1) (blanks ++ (n ++ '<' :: inner))
      = .ok (arraySuffixes (.generic (String.ofList n) args) after) := by
  have ends : EndsName ('<' :: inner) := forall_head?_cons (by decide) inner
  have named := name_eq_ok_iff.mpr ⟨rfl, isName, ends⟩
  rw [type, dropWhile_blanks_name blank isName, named]
  simp only [read]

theorem arguments_last {r : TypeRef} {blanks : List Char} (blank : IsBlanks blanks)
    (read : type fuel cs = .ok (r, blanks ++ '>' :: rest)) :
    arguments (fuel + 1) cs = .ok ([r], rest) := by
  have closes : (blanks ++ '>' :: rest).dropWhile isBlank = '>' :: rest :=
    dropWhile_append_of_stops blank (forall_head?_cons (by decide) rest)
  rw [arguments, read]
  simp only [closes]

theorem arguments_more {r : TypeRef} {others : List TypeRef} {blanks inner : List Char}
    (blank : IsBlanks blanks) (read : type fuel cs = .ok (r, blanks ++ ',' :: inner))
    (next : arguments fuel inner = .ok (others, rest)) :
    arguments (fuel + 1) cs = .ok (r :: others, rest) := by
  have goesOn : (blanks ++ ',' :: inner).dropWhile isBlank = ',' :: inner :=
    dropWhile_append_of_stops blank (forall_head?_cons (by decide) inner)
  rw [arguments, read]
  simp only [goesOn, next]

/-! Whole runs. -/

/-- What was read is derived: by induction on the fuel, for types and arguments at once. -/
theorem derives_of_read (fuel : Nat) :
    (∀ cs r rest, type fuel cs = .ok (r, rest) →
      ∃ text, cs = text ++ rest ∧ Derives (.type r) text rest)
    ∧ ∀ cs rs rest, arguments fuel cs = .ok (rs, rest) →
      ∃ text, cs = text ++ '>' :: rest ∧ Derives (.arguments rs) text ('>' :: rest) := by
  induction fuel with
  | zero => exact ⟨fun _ _ _ ok => by simp [type] at ok, fun _ _ _ ok => by simp [arguments] at ok⟩
  | succ fuel ih =>
    obtain ⟨typeSound, argumentsSound⟩ := ih
    constructor
    · intro cs r rest ok
      obtain ⟨blanks, n, after, count, rfl, blank, isName, -, shape⟩ := type_succ_ok ok
      rcases shape with ⟨ends, rfl, -, rfl⟩ | ⟨args, inner, rfl, read, rfl⟩
      · exact ⟨blanks ++ n ++ suffixes count, by simp, .named blank isName ends⟩
      · obtain ⟨text, rfl, derived⟩ := argumentsSound inner args _ read
        exact ⟨blanks ++ n ++ '<' :: text ++ '>' :: suffixes count, by simp,
          .closed blank isName derived⟩
    · intro cs rs rest ok
      obtain ⟨r, after, blanks, read, blank, shape⟩ := arguments_succ_ok ok
      obtain ⟨text, rfl, derived⟩ := typeSound cs r after read
      rcases shape with ⟨rfl, rfl⟩ | ⟨others, inner, rfl, next, rfl⟩
      · exact ⟨text ++ blanks, by simp, .last derived blank⟩
      · obtain ⟨text', rfl, derived'⟩ := argumentsSound inner others rest next
        refine ⟨text ++ blanks ++ ',' :: text', by simp, .more ?_ blank derived'⟩
        simpa using derived

theorem Follows.suffixes_ne {rest : List Char} (follows : Follows rest) (n : Nat)
    (inner : List Char) : suffixes n ++ rest ≠ '<' :: inner := by
  cases n with
  | zero => exact follows.ne_cons (by decide) inner
  | succ n => exact fun same => absurd (List.cons.inj same).1 (by decide)

/-- Whether a text is read as a phrase before `rest`, with as much fuel as its length asks for. -/
def IsRead : Phrase → List Char → List Char → Prop
  | .type r, text, rest =>
    Follows rest → ∀ fuel, 2 * (text ++ rest).length < fuel →
      type fuel (text ++ rest) = .ok (r, rest)
  | .arguments rs, text, rest =>
    ∀ behind, rest = '>' :: behind → ∀ fuel, 2 * (text ++ rest).length + 1 < fuel →
      arguments fuel (text ++ rest) = .ok (rs, behind)

/-- What is derived is read. -/
theorem isRead_of_derives {phrase : Phrase} {text rest : List Char}
    (derived : Derives phrase text rest) : IsRead phrase text rest := by
  -- each phrase takes at least one character and one call, which pays for the fuel of its parts
  induction derived with
  | @named blanks n rest count blank isName ends =>
    intro follows fuel enough
    obtain ⟨fuel, rfl⟩ := Nat.exists_eq_succ_of_ne_zero (Nat.ne_zero_of_lt enough)
    have read := @type_named fuel _ _ _ blank isName ends (follows.suffixes_ne count)
    rw [arraySuffixes_suffixes _ _ fun tail => follows.ne_cons (by decide) _] at read
    simpa using read
  | @closed blanks n text rest args count blank isName inner ih =>
    intro follows fuel enough
    obtain ⟨fuel, rfl⟩ := Nat.exists_eq_succ_of_ne_zero (Nat.ne_zero_of_lt enough)
    have nonempty := List.length_pos_iff.mpr isName.nonempty
    have read := type_closed blank isName (ih _ rfl fuel (by simp at enough ⊢; omega))
    rw [arraySuffixes_suffixes _ _ fun tail => follows.ne_cons (by decide) _] at read
    simpa using read
  | @last r text blanks rest first blank ih =>
    rintro behind rfl fuel enough
    obtain ⟨fuel, rfl⟩ := Nat.exists_eq_succ_of_ne_zero (Nat.ne_zero_of_lt enough)
    have follows : Follows ('>' :: behind) := forall_head?_cons (.inr (.inr rfl)) behind
    have read := ih (follows_blanks blank follows) fuel (by simp at enough ⊢; omega)
    simpa using arguments_last blank read
  | @more r rs text blanks others rest first blank next ihFirst ihNext =>
    rintro behind rfl fuel enough
    obtain ⟨fuel, rfl⟩ := Nat.exists_eq_succ_of_ne_zero (Nat.ne_zero_of_lt enough)
    have follows : Follows (',' :: (others ++ '>' :: behind)) :=
      forall_head?_cons (.inr (.inl rfl)) _
    have read := ihFirst (follows_blanks blank follows) fuel (by simp at enough ⊢; omega)
    have behind' := ihNext behind rfl fuel (by simp at enough ⊢; omega)
    simpa using arguments_more blank read behind'

theorem length_lt_of_type_ok {fuel : Nat} {cs rest : List Char} {r : TypeRef}
    (ok : type fuel cs = .ok (r, rest)) : rest.length < cs.length := by
  cases fuel with
  | zero => simp [type] at ok
  | succ fuel =>
    obtain ⟨blanks, n, after, count, rfl, -, isName, -, shape⟩ := type_succ_ok ok
    have nonempty := List.length_pos_iff.mpr isName.nonempty
    rcases shape with ⟨-, rfl, -⟩ | ⟨args, inner, rfl, read, -⟩
    · simp
      omega
    · obtain ⟨text, rfl, -⟩ := (derives_of_read fuel).2 inner args _ read
      simp
      omega

/-- Fuel beyond what the length of a text allows for changes nothing: it never runs out. -/
theorem read_more_fuel (fuel more : Nat) :
    (∀ cs : List Char, 2 * cs.length < fuel → type (fuel + more) cs = type fuel cs)
    ∧ ∀ cs : List Char, 2 * cs.length + 1 < fuel →
      arguments (fuel + more) cs = arguments fuel cs := by
  induction fuel with
  | zero => exact ⟨fun _ enough => absurd enough (Nat.not_lt_zero _),
      fun _ enough => absurd enough (Nat.not_lt_zero _)⟩
  | succ fuel ih =>
    obtain ⟨typeSame, argumentsSame⟩ := ih
    rw [Nat.succ_add]
    constructor
    · intro cs enough
      have sameInner : ∀ n inner, name (cs.dropWhile isBlank) = .ok (n, '<' :: inner) →
          arguments (fuel + more) inner = arguments fuel inner := by
        intro n inner named
        obtain ⟨whole, isName, -⟩ := name_eq_ok_iff.mp named
        have nonempty := List.length_pos_iff.mpr isName.nonempty
        have shorter := List.length_dropWhile_le isBlank cs
        rw [whole, List.length_append, List.length_cons] at shorter
        exact argumentsSame inner (by omega)
      rw [type, type]
      split
      · rfl
      · next n inner named => rw [sameInner n inner named]
      · rfl
    · intro cs enough
      rw [arguments, arguments, typeSame cs (by omega)]
      split
      · rfl
      · next r after read =>
        have shorter := length_lt_of_type_ok read
        have shorter' := List.length_dropWhile_le isBlank after
        split
        · rfl
        · next inner goesOn =>
          rw [goesOn, List.length_cons] at shorter'
          rw [argumentsSame inner (by omega)]
        · rfl

theorem whole_eq_ok_iff {cs : List Char} {r : TypeRef} : whole cs = .ok r ↔ IsWritten r cs := by
  unfold whole
  constructor
  · intro ok
    cases read : type (2 * cs.length + 1) cs with
    | error stop => simp [read] at ok
    | ok found =>
      obtain ⟨r', rest⟩ := found
      obtain ⟨text, rfl, derived⟩ := (derives_of_read _).1 cs r' rest read
      simp only [read] at ok
      split at ok
      · next blank =>
        obtain rfl := Except.ok.inj ok
        exact ⟨text, rest, rfl, List.dropWhile_eq_nil_iff.mp blank, derived⟩
      · exact absurd ok nofun
  · rintro ⟨text, blanks, rfl, blank, derived⟩
    have follows : Follows (blanks ++ []) := follows_blanks blank nofun
    rw [List.append_nil] at follows
    have read := isRead_of_derives derived follows _ (Nat.lt_succ_self _)
    have none : blanks.dropWhile isBlank = [] := List.dropWhile_eq_nil_iff.mpr blank
    simp only [read, none]

theorem parse_eq_ok_iff {text : String} {r : TypeRef} :
    TypeRef.parse text = .ok r ↔ IsWritten r text.toList := by
  rw [← whole_eq_ok_iff]
  unfold TypeRef.parse
  cases whole text.toList with
  | ok r' => simp
  | error stop => simp

/--
A text is read exactly as the grammar derives it, and any other text is refused. No refusal comes
from the fuel, since more of it changes nothing.
-/
theorem parse_iff_isWritten (text : String) :
    (∀ r, TypeRef.parse text = .ok r ↔ IsWritten r text.toList)
      ∧ ((∃ e, TypeRef.parse text = .error e) ↔ ¬ ∃ r, IsWritten r text.toList)
      ∧ ∀ more, type (2 * text.toList.length + 1 + more) text.toList
        = type (2 * text.toList.length + 1) text.toList := by
  refine ⟨fun r => parse_eq_ok_iff, ?_, ?_⟩
  · constructor
    · rintro ⟨e, refused⟩ ⟨r, written⟩
      rw [parse_eq_ok_iff.mpr written] at refused
      exact absurd refused nofun
    · intro underivable
      cases read : TypeRef.parse text with
      | ok r => exact absurd ⟨r, parse_eq_ok_iff.mp read⟩ underivable
      | error e => exact ⟨e, rfl⟩
  · intro more
    exact (read_more_fuel _ more).1 text.toList (Nat.lt_succ_self _)

end ApiClient.TypeRef.Parser
