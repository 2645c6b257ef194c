import ApiClient.Proofs.TypeRef.Grammar

/-!
Where the reading of a type name stops.

`Stops` says beside the grammar where a text is refused, and for what. What was read up to there can
be completed to a type name, and the text with one more character cannot, unless that is an opening
bracket of a suffix that is broken off. Main statement: so the column of a refusal stands right
behind the longest stretch that can be completed.
-/

set_option autoImplicit false

namespace ApiClient.TypeRef.Parser

open Text

/-- What is being read when a text is refused. -/
inductive Part
  | whole
  | type
  | arguments

/-- A type that was read ends here: no suffix follows it, and no arguments follow its bare name. -/
structure EndsType (text rest : List Char) : Prop where
  suffix : ∀ tail, rest ≠ '[' :: ']' :: tail
  arguments : ∀ tail, rest = '<' :: tail → ∀ c, text.getLast? = some c → isNameChar c = false

/-- `Stops part before fault rest`: reading a part is given up between `before` and `rest`. -/
inductive Stops : Part → List Char → TypeNameFault → List Char → Prop
  | misnamed {blanks run rest : List Char} {fault : TypeNameFault} (blank : IsBlanks blanks)
      (chars : ∀ c ∈ run, isNameChar c = true) (ends : EndsName rest)
      (visible : ∀ c, (run ++ rest).head? = some c → isBlank c = false)
      (faulty : nameFault? run = some fault) : Stops .type (blanks ++ run) fault rest
  | inside {blanks name before rest : List Char} {fault : TypeNameFault}
      (blank : IsBlanks blanks) (isName : IsName name)
      (inner : Stops .arguments before fault rest) :
      Stops .type (blanks ++ name ++ '<' :: before) fault rest
  | first {before rest : List Char} {fault : TypeNameFault}
      (inner : Stops .type before fault rest) : Stops .arguments before fault rest
  | unclosed {r : TypeRef} {text blanks rest : List Char}
      (read : Derives (.type r) text (blanks ++ rest)) (ends : EndsType text (blanks ++ rest))
      (blank : IsBlanks blanks)
      (other : ∀ c, rest.head? = some c → isBlank c = false ∧ c ≠ ',' ∧ c ≠ '>') :
      Stops .arguments (text ++ blanks) .closingExpected rest
  | later {r : TypeRef} {text blanks before rest : List Char} {fault : TypeNameFault}
      (read : Derives (.type r) text (blanks ++ ',' :: (before ++ rest)))
      (blank : IsBlanks blanks) (inner : Stops .arguments before fault rest) :
      Stops .arguments (text ++ blanks ++ ',' :: before) fault rest
  | only {before rest : List Char} {fault : TypeNameFault}
      (inner : Stops .type before fault rest) : Stops .whole before fault rest
  | trailing {r : TypeRef} {text blanks tail : List Char} {c : Char}
      (read : Derives (.type r) text (blanks ++ c :: tail))
      (ends : EndsType text (blanks ++ c :: tail)) (blank : IsBlanks blanks)
      (visible : isBlank c = false) : Stops .whole (text ++ blanks) (.unexpected c) (c :: tail)

/-! Names that are none, and types that end. -/

theorem name_run_append {run rest : List Char} (chars : ∀ c ∈ run, isNameChar c = true)
    (ends : EndsName rest) :
    name (run ++ rest) = match nameFault? run with
      | some fault => .error (fault, rest)
      | none => .ok (run, rest) := by
  have left : (run ++ rest).dropWhile isNameChar = rest := dropWhile_append_of_stops chars ends
  have taken : (run ++ rest).takeWhile isNameChar = run := by
    have both := List.takeWhile_append_dropWhile (p := isNameChar) (l := run ++ rest)
    rw [left] at both
    exact List.append_cancel_right both
  cases faulty : nameFault? run with
  | none => simp only [name, left, taken, faulty]
  | some fault => simp only [name, left, taken, faulty]

theorem exists_of_name_error {cs rest : List Char} {fault : TypeNameFault}
    (error : name cs = .error (fault, rest)) :
    ∃ run, cs = run ++ rest ∧ (∀ c ∈ run, isNameChar c = true) ∧ EndsName rest
      ∧ nameFault? run = some fault := by
  have chars : ∀ c ∈ cs.takeWhile isNameChar, isNameChar c = true :=
    fun c member => List.mem_takeWhile_imp member
  have ends : EndsName (cs.dropWhile isNameChar) := by
    intro c first
    have stopped := List.head?_dropWhile_not isNameChar cs
    rw [first] at stopped
    exact stopped
  have read := name_run_append chars ends
  rw [List.takeWhile_append_dropWhile, error] at read
  cases faulty : nameFault? (cs.takeWhile isNameChar) with
  | none =>
    rw [faulty] at read
    cases read
  | some other =>
    rw [faulty] at read
    cases read
    exact ⟨_, List.takeWhile_append_dropWhile.symm, chars, ends, faulty⟩

theorem isNameChar_eq_false_of_isBlank {c : Char} (blank : isBlank c = true) :
    isNameChar c = false := by
  by_contra named
  rw [Bool.not_eq_false] at named
  rw [isBlank_eq_false_of_isNameChar named] at blank
  cases blank

theorem endsName_cons {c : Char} (other : isNameChar c = false) (rest : List Char) :
    EndsName (c :: rest) :=
  forall_head?_cons other rest

theorem endsName_blanks {blanks rest : List Char} (blank : IsBlanks blanks)
    (ends : EndsName rest) : EndsName (blanks ++ rest) := by
  cases blanks with
  | nil => exact ends
  | cons b blanks =>
    exact endsName_cons (isNameChar_eq_false_of_isBlank (blank b List.mem_cons_self)) _

theorem endsName_suffixes {n : Nat} {rest rest' : List Char}
    (kept : EndsName rest → EndsName rest') (ends : EndsName (suffixes n ++ rest)) :
    EndsName (suffixes n ++ rest') := by
  cases n with
  | zero => exact kept ends
  | succ n => exact endsName_cons (by decide) _

/-- What follows a phrase may change as long as it ends a name that was ended before. -/
theorem Derives.change {phrase : Phrase} {text rest rest' : List Char}
    (derived : Derives phrase text rest) (kept : EndsName rest → EndsName rest') :
    Derives phrase text rest' := by
  induction derived generalizing rest' with
  | named blank isName ends => exact .named blank isName (endsName_suffixes kept ends)
  | closed blank isName inner ih =>
    exact .closed blank isName (ih fun _ => endsName_cons (by decide) _)
  | last first blank ih =>
    refine .last (ih fun ends => ?_) blank
    rename_i blanks rest
    cases blanks with
    | nil => exact kept ends
    | cons b blanks =>
      exact endsName_cons (isNameChar_eq_false_of_isBlank (blank b List.mem_cons_self)) _
  | more first blank next ihFirst ihNext =>
    refine .more (ihFirst fun _ => ?_) blank (ihNext kept)
    exact endsName_blanks blank (endsName_cons (by decide) _)

theorem endsType_of_follows {text rest : List Char} (follows : Follows rest) :
    EndsType text rest := by
  constructor
  · intro tail
    exact follows.ne_cons (by decide) _
  · intro tail same
    exact absurd same (follows.ne_cons (by decide) tail)

/-- A text that ends with suffixes behind another character than one of names ends with such. -/
theorem isNameChar_getLast?_suffixes {c d : Char} (other : isNameChar c = false)
    (front : List Char) (n : Nat) (last : (front ++ c :: suffixes n).getLast? = some d) :
    isNameChar d = false := by
  induction n generalizing front c with
  | zero =>
    have same : c = d := by simpa [suffixes] using last
    rw [← same, other]
  | succ n ih =>
    have last' : (front ++ [c, '['] ++ ']' :: suffixes n).getLast? = some d := by
      simpa [suffixes] using last
    exact ih (by decide) (front ++ [c, '[']) last'

/-- A type that was read is derived, and it ended where reading it did. -/
theorem derives_of_type_ok {fuel : Nat} {cs rest : List Char} {r : TypeRef}
    (ok : type fuel cs = .ok (r, rest)) :
    ∃ text, cs = text ++ rest ∧ Derives (.type r) text rest ∧ EndsType text rest := by
  cases fuel with
  | zero => simp [type] at ok
  | succ fuel =>
    obtain ⟨blanks, n, after, count, rfl, blank, isName, stops, shape⟩ := type_succ_ok ok
    rcases shape with ⟨ends, rfl, unclosed, rfl⟩ | ⟨args, inner, rfl, read, rfl⟩
    · refine ⟨blanks ++ n ++ suffixes count, by simp, .named blank isName ends, stops, ?_⟩
      rintro tail rfl c last
      cases count with
      | zero => exact absurd rfl (unclosed tail)
      | succ count =>
        refine isNameChar_getLast?_suffixes (c := ']') (by decide) (blanks ++ n ++ ['[']) count ?_
        simpa [suffixes] using last
    · obtain ⟨text, rfl, derived⟩ := (derives_of_read fuel).2 inner args _ read
      refine ⟨blanks ++ n ++ '<' :: text ++ '>' :: suffixes count, by simp,
        .closed blank isName derived, stops, ?_⟩
      rintro tail rfl c last
      exact isNameChar_getLast?_suffixes (by decide) _ count last

/-- A type that is derived and ends there is read. -/
theorem type_of_derives {fuel : Nat} {text rest : List Char} {r : TypeRef}
    (derived : Derives (.type r) text rest) (ends : EndsType text rest)
    (enough : 2 * (text ++ rest).length < fuel) : type fuel (text ++ rest) = .ok (r, rest) := by
  obtain ⟨fuel, rfl⟩ := Nat.exists_eq_succ_of_ne_zero (Nat.ne_zero_of_lt enough)
  cases derived with
  | @named blanks n _ count blank isName endsName =>
    have unclosed : ∀ inner, suffixes count ++ rest ≠ '<' :: inner := by
      intro inner same
      cases count with
      | zero =>
        -- the bare name is all of the text, so its last character is one of names
        obtain ⟨c, last⟩ : ∃ c, n.getLast? = some c :=
          Option.isSome_iff_exists.mp (by simpa using isName.nonempty)
        have named := isName.chars c (List.mem_of_getLast? last)
        have other := ends.arguments inner same c (by simp [suffixes, last])
        rw [named] at other
        cases other
      | succ count => exact absurd (List.cons.inj same).1 (by decide)
    have read : type (fuel + 1) (blanks ++ (n ++ (suffixes count ++ rest))) = _ :=
      type_named blank isName endsName unclosed
    rw [arraySuffixes_suffixes _ _ ends.suffix] at read
    simpa using read
  | @closed blanks n inner _ args count blank isName derived =>
    have nonempty := List.length_pos_iff.mpr isName.nonempty
    have inside := isRead_of_derives derived _ rfl fuel (by simp at enough ⊢; omega)
    have read := type_closed blank isName inside
    rw [arraySuffixes_suffixes _ _ ends.suffix] at read
    simpa using read

/-! A refusal is a stop. -/

section Refused

variable {fuel : Nat} {cs rest : List Char} {fault : TypeNameFault}

theorem isBlank_eq_false_of_dropWhile {c : Char} (first : (cs.dropWhile isBlank).head? = some c) :
    isBlank c = false := by
  have stopped := List.head?_dropWhile_not isBlank cs
  rw [first] at stopped
  exact stopped

/-- A type is refused for its name, or inside its arguments. -/
theorem type_succ_error (error : type (fuel + 1) cs = .error (fault, rest)) :
    ∃ blanks after, cs = blanks ++ after ∧ IsBlanks blanks
      ∧ ((∃ run, after = run ++ rest ∧ (∀ c ∈ run, isNameChar c = true) ∧ EndsName rest
          ∧ (∀ c, (run ++ rest).head? = some c → isBlank c = false)
          ∧ nameFault? run = some fault)
        ∨ ∃ n inner, after = n ++ '<' :: inner ∧ IsName n
          ∧ arguments fuel inner = .error (fault, rest)) := by
  refine ⟨_, _, List.takeWhile_append_dropWhile.symm, isBlanks_takeWhile cs, ?_⟩
  rw [type] at error
  split at error
  · next stop named =>
    cases error
    obtain ⟨run, whole, chars, ends, faulty⟩ := exists_of_name_error named
    refine .inl ⟨run, whole, chars, ends, fun c first => ?_, faulty⟩
    rw [← whole] at first
    exact isBlank_eq_false_of_dropWhile first
  · next n inner named =>
    obtain ⟨whole, isName, -⟩ := name_eq_ok_iff.mp named
    refine .inr ⟨n, inner, whole, isName, ?_⟩
    cases read : arguments fuel inner with
    | ok found =>
      rw [read] at error
      cases error
    | error stop =>
      rw [read] at error
      cases error
      rfl
  · cases error

/-- Arguments are refused in the first one, or behind it, or in a later one. -/
theorem arguments_succ_error (error : arguments (fuel + 1) cs = .error (fault, rest)) :
    type fuel cs = .error (fault, rest)
      ∨ ∃ r after blanks, type fuel cs = .ok (r, after) ∧ IsBlanks blanks
        ∧ ((after = blanks ++ rest ∧ fault = .closingExpected
            ∧ ∀ c, rest.head? = some c → isBlank c = false ∧ c ≠ ',' ∧ c ≠ '>')
          ∨ ∃ inner, after = blanks ++ ',' :: inner
            ∧ arguments fuel inner = .error (fault, rest)) := by
  rw [arguments] at error
  cases read : type fuel cs with
  | error stop =>
    rw [read] at error
    cases error
    exact .inl rfl
  | ok found =>
    obtain ⟨r, after⟩ := found
    have split : after = after.takeWhile isBlank ++ after.dropWhile isBlank :=
      List.takeWhile_append_dropWhile.symm
    simp only [read] at error
    refine .inr ⟨r, after, after.takeWhile isBlank, rfl, isBlanks_takeWhile after, ?_⟩
    split at error
    · cases error
    · next inner goesOn =>
      refine .inr ⟨inner, by rw [← goesOn]; exact split, ?_⟩
      cases next : arguments fuel inner with
      | ok found =>
        rw [next] at error
        cases error
      | error stop =>
        rw [next] at error
        cases error
        rfl
    · next notClosing notComma =>
      cases error
      refine .inl ⟨split, rfl, fun c first => ?_⟩
      obtain ⟨tail, left⟩ : ∃ tail, after.dropWhile isBlank = c :: tail := by
        cases left : after.dropWhile isBlank with
        | nil =>
          rw [left] at first
          cases first
        | cons d tail =>
          rw [left] at first
          obtain rfl := Option.some.inj first
          exact ⟨tail, rfl⟩
      refine ⟨isBlank_eq_false_of_dropWhile first, ?_, ?_⟩
      · rintro rfl
        exact notComma tail left
      · rintro rfl
        exact notClosing tail left

/-- Whether a text is given up, while a part of it is read, before the given rest. -/
def IsStopped (part : Part) (cs : List Char) (fault : TypeNameFault) (rest : List Char) : Prop :=
  ∃ before, cs = before ++ rest ∧ Stops part before fault rest

/-- With enough fuel each refusal is a stop: by induction on the fuel, for types and arguments. -/
theorem isStopped_of_error (fuel : Nat) :
    (∀ cs, 2 * cs.length < fuel → ∀ fault rest, type fuel cs = .error (fault, rest) →
      IsStopped .type cs fault rest)
    ∧ ∀ cs, 2 * cs.length + 1 < fuel → ∀ fault rest, arguments fuel cs = .error (fault, rest) →
      IsStopped .arguments cs fault rest := by
  induction fuel with
  | zero => exact ⟨fun _ enough => absurd enough (Nat.not_lt_zero _),
      fun _ enough => absurd enough (Nat.not_lt_zero _)⟩
  | succ fuel ih =>
    obtain ⟨typeStops, argumentsStop⟩ := ih
    constructor
    · intro cs enough fault rest error
      obtain ⟨blanks, after, rfl, blank, misnamed | inside⟩ := type_succ_error error
      · obtain ⟨run, rfl, chars, ends, visible, faulty⟩ := misnamed
        exact ⟨blanks ++ run, by simp, .misnamed blank chars ends visible faulty⟩
      · obtain ⟨n, inner, rfl, isName, error'⟩ := inside
        have shorter : 2 * inner.length + 1 < fuel := by
          have nonempty := List.length_pos_iff.mpr isName.nonempty
          simp at enough
          omega
        obtain ⟨before, rfl, stops⟩ := argumentsStop inner shorter fault rest error'
        exact ⟨blanks ++ n ++ '<' :: before, by simp, .inside blank isName stops⟩
    · intro cs enough fault rest error
      rcases arguments_succ_error error with error' | ⟨r, after, blanks, read, blank, shape⟩
      · obtain ⟨before, rfl, stops⟩ := typeStops cs (by omega) fault rest error'
        exact ⟨before, rfl, .first stops⟩
      · obtain ⟨text, rfl, derived, ends⟩ := derives_of_type_ok read
        rcases shape with ⟨rfl, rfl, other⟩ | ⟨inner, rfl, error'⟩
        · exact ⟨text ++ blanks, by simp, .unclosed derived ends blank other⟩
        · have shorter : 2 * inner.length + 1 < fuel := by
            simp at enough
            omega
          obtain ⟨before, rfl, stops⟩ := argumentsStop inner shorter fault rest error'
          exact ⟨text ++ blanks ++ ',' :: before, by simp, .later derived blank stops⟩

theorem isStopped_of_whole_error (error : whole cs = .error (fault, rest)) :
    IsStopped .whole cs fault rest := by
  unfold whole at error
  cases read : type (2 * cs.length + 1) cs with
  | error stop =>
    rw [read] at error
    cases error
    obtain ⟨before, split, stops⟩ :=
      (isStopped_of_error _).1 cs (Nat.lt_succ_self _) fault rest read
    exact ⟨before, split, .only stops⟩
  | ok found =>
    obtain ⟨r, after⟩ := found
    obtain ⟨text, rfl, derived, ends⟩ := derives_of_type_ok read
    have split : after = after.takeWhile isBlank ++ after.dropWhile isBlank :=
      List.takeWhile_append_dropWhile.symm
    simp only [read] at error
    split at error
    · cases error
    · next c tail left =>
      cases error
      have first : (after.dropWhile isBlank).head? = some c := by rw [left, List.head?_cons]
      have visible : isBlank c = false := isBlank_eq_false_of_dropWhile first
      rw [left] at split
      have blank := isBlanks_takeWhile after
      generalize after.takeWhile isBlank = blanks at split blank
      subst split
      exact ⟨text ++ blanks, by simp, .trailing derived ends blank visible⟩

end Refused

/-! What a stop says of texts with the same start. -/

/-- Whether a stretch of a text can be completed to what a part is read as. -/
def Completes : Part → List Char → Prop
  | .whole, before => ∃ more r, IsWritten r (before ++ more)
  | .type, before => ∃ more r, ∀ rest, EndsName rest → Derives (.type r) (before ++ more) rest
  | .arguments, before =>
    ∃ more rs, ∀ rest, EndsName rest → Derives (.arguments rs) (before ++ more) rest

theorem isName_append_letter {run : List Char} {fault : TypeNameFault}
    (chars : ∀ c ∈ run, isNameChar c = true) (faulty : nameFault? run = some fault)
    (undotted : ∀ n, fault = .malformedName n → n.head? ≠ some '.') : IsName (run ++ ['a']) := by
  refine ⟨by simp, ?_, ?_, by simp⟩
  · intro c member
    rcases List.mem_append.mp member with inside | last
    · exact chars c inside
    · rw [List.mem_singleton.mp last]
      decide
  · cases run with
    | nil => simp
    | cons c run =>
      have malformed : fault = .malformedName (c :: run) := by
        simp only [nameFault?, List.isEmpty_cons, Bool.false_eq_true, if_false] at faulty
        split at faulty
        · exact (Option.some.inj faulty).symm
        · cases faulty
      simpa using undotted _ malformed

/-- What was read before a stop can be completed, unless the stop is for a name with a dot first. -/
theorem Stops.completes {part : Part} {before rest : List Char} {fault : TypeNameFault}
    (stops : Stops part before fault rest)
    (undotted : ∀ n, fault = .malformedName n → n.head? ≠ some '.') : Completes part before := by
  induction stops with
  | @misnamed blanks run rest fault blank chars ends visible faulty =>
    have isName := isName_append_letter chars faulty undotted
    refine ⟨['a'], .plain (String.ofList (run ++ ['a'])), fun rest ends => ?_⟩
    have derived : Derives _ (blanks ++ (run ++ ['a']) ++ suffixes 0) rest :=
      .named blank isName ends
    simpa [suffixes, arrays] using derived
  | @inside blanks n before rest fault blank isName inner ih =>
    obtain ⟨more, args, derives⟩ := ih undotted
    refine ⟨more ++ ['>'], .generic (String.ofList n) args, fun rest ends => ?_⟩
    have inside := derives ('>' :: (suffixes 0 ++ rest)) (endsName_cons (by decide) _)
    simpa [suffixes, arrays] using Derives.closed blank isName inside
  | first inner ih =>
    obtain ⟨more, r, derives⟩ := ih undotted
    refine ⟨more, [r], fun rest ends => ?_⟩
    have derived : Derives (.arguments [r]) _ rest := .last (derives ([] ++ rest) ends) nofun
    simpa using derived
  | @unclosed r text blanks rest read ends blank other =>
    refine ⟨[], [r], fun rest' ends' => ?_⟩
    have derived : Derives (.arguments [r]) _ rest' :=
      .last (read.change fun _ => endsName_blanks blank ends') blank
    simpa using derived
  | @later r text blanks before rest fault read blank inner ih =>
    obtain ⟨more, rs, derives⟩ := ih undotted
    refine ⟨more, r :: rs, fun rest' ends' => ?_⟩
    have comma : ∀ others, EndsName (blanks ++ ',' :: others) :=
      fun others => endsName_blanks blank (endsName_cons (by decide) others)
    have derived := Derives.more (read.change fun _ => comma (before ++ more ++ rest')) blank
      (derives rest' ends')
    simpa using derived
  | @only before rest fault inner ih =>
    obtain ⟨more, r, derives⟩ := ih undotted
    exact ⟨more, r, before ++ more, [], by simp, nofun, derives [] nofun⟩
  | @trailing r text blanks tail c read ends blank visible =>
    refine ⟨[], r, text, blanks, by simp, blank, ?_⟩
    refine read.change fun _ => ?_
    have ended : EndsName (blanks ++ []) := endsName_blanks blank nofun
    simpa using ended

theorem head?_append_cons (front : List Char) (c : Char) (tail tail' : List Char) :
    (front ++ c :: tail').head? = (front ++ c :: tail).head? := by
  cases front <;> rfl

theorem endsName_of_head? {rest rest' : List Char} (same : rest'.head? = rest.head?)
    (ends : EndsName rest) : EndsName rest' := by
  intro c first
  rw [same] at first
  exact ends c first

section Change

variable {c : Char} {tail : List Char} (whole : c = '[' → ∃ others, tail = ']' :: others)
include whole

theorem EndsType.change {text blanks : List Char} (ends : EndsType text (blanks ++ c :: tail))
    (blank : IsBlanks blanks) (tail' : List Char) : EndsType text (blanks ++ c :: tail') := by
  constructor
  · intro others same
    cases blanks with
    | nil =>
      obtain ⟨rfl, -⟩ := List.cons.inj same
      obtain ⟨others', rfl⟩ := whole rfl
      exact ends.suffix others' rfl
    | cons b blanks =>
      have bracket : b = '[' := (List.cons.inj same).1
      have blank' := blank b List.mem_cons_self
      rw [bracket] at blank'
      exact absurd blank' (by decide)
  · intro others same d last
    cases blanks with
    | nil =>
      obtain ⟨rfl, -⟩ := List.cons.inj same
      exact ends.arguments tail rfl d last
    | cons b blanks =>
      obtain ⟨rfl, -⟩ := List.cons.inj same
      exact ends.arguments (blanks ++ c :: tail) rfl d last

/-- A stop stays where it is when the text behind its first character changes, unless that is the
bracket of a suffix which is broken off. -/
theorem Stops.change {part : Part} {before : List Char} {fault : TypeNameFault}
    (stops : Stops part before fault (c :: tail)) (tail' : List Char) :
    Stops part before fault (c :: tail') := by
  generalize here : c :: tail = rest at stops
  induction stops with
  | @misnamed blanks run rest fault blank chars ends visible faulty =>
    subst here
    refine .misnamed blank chars (endsName_of_head? rfl ends) ?_ faulty
    rwa [head?_append_cons run c tail tail']
  | inside blank isName inner ih => exact .inside blank isName (ih here)
  | first inner ih => exact .first (ih here)
  | @unclosed r text blanks rest read ends blank other =>
    subst here
    have kept := endsName_of_head? (head?_append_cons blanks c tail tail')
    exact .unclosed (read.change kept) (ends.change whole blank tail') blank other
  | @later r text blanks before rest fault read blank inner ih =>
    subst here
    have comma : EndsName (blanks ++ ',' :: (before ++ c :: tail')) :=
      endsName_blanks blank (endsName_cons (by decide) _)
    exact .later (read.change fun _ => comma) blank (ih rfl)
  | only inner ih => exact .only (ih here)
  | @trailing r text blanks rest d read ends blank visible =>
    obtain ⟨rfl, rfl⟩ := List.cons.inj here
    have kept := endsName_of_head? (head?_append_cons blanks c tail tail')
    exact .trailing (read.change kept) (ends.change whole blank tail') blank visible

end Change

/-- Whether reading a part of a text is refused there, with as much fuel as the length asks for. -/
def IsRefused : Part → List Char → TypeNameFault → List Char → Prop
  | .whole, before, fault, rest => whole (before ++ rest) = .error (fault, rest)
  | .type, before, fault, rest => ∀ fuel, 2 * (before ++ rest).length < fuel →
      type fuel (before ++ rest) = .error (fault, rest)
  | .arguments, before, fault, rest => ∀ fuel, 2 * (before ++ rest).length + 1 < fuel →
      arguments fuel (before ++ rest) = .error (fault, rest)

/-- A stop is a refusal. -/
theorem Stops.isRefused {part : Part} {before rest : List Char} {fault : TypeNameFault}
    (stops : Stops part before fault rest) : IsRefused part before fault rest := by
  induction stops with
  | @misnamed blanks run rest fault blank chars ends visible faulty =>
    intro fuel enough
    obtain ⟨fuel, rfl⟩ := Nat.exists_eq_succ_of_ne_zero (Nat.ne_zero_of_lt enough)
    have left : (blanks ++ (run ++ rest)).dropWhile isBlank = run ++ rest :=
      dropWhile_append_of_stops blank visible
    rw [List.append_assoc, type, left, name_run_append chars ends, faulty]
  | @inside blanks n before rest fault blank isName inner ih =>
    intro fuel enough
    obtain ⟨fuel, rfl⟩ := Nat.exists_eq_succ_of_ne_zero (Nat.ne_zero_of_lt enough)
    have nonempty := List.length_pos_iff.mpr isName.nonempty
    have refused := ih fuel (by simp at enough ⊢; omega)
    have ends : EndsName ('<' :: (before ++ rest)) := endsName_cons (by decide) _
    have named := name_eq_ok_iff.mpr ⟨rfl, isName, ends⟩
    have split : blanks ++ n ++ '<' :: before ++ rest
        = blanks ++ (n ++ '<' :: (before ++ rest)) := by simp
    rw [split, type, dropWhile_blanks_name blank isName, named]
    simp only [refused]
  | @first before rest fault inner ih =>
    intro fuel enough
    obtain ⟨fuel, rfl⟩ := Nat.exists_eq_succ_of_ne_zero (Nat.ne_zero_of_lt enough)
    rw [arguments, ih fuel (by omega)]
  | @unclosed r text blanks rest read ends blank other =>
    intro fuel enough
    obtain ⟨fuel, rfl⟩ := Nat.exists_eq_succ_of_ne_zero (Nat.ne_zero_of_lt enough)
    rw [List.append_assoc] at enough ⊢
    have first : type fuel (text ++ (blanks ++ rest)) = .ok (r, blanks ++ rest) :=
      type_of_derives read ends (by omega)
    have left : (blanks ++ rest).dropWhile isBlank = rest :=
      dropWhile_append_of_stops blank fun c first => (other c first).1
    rw [arguments, first]
    simp only [left]
    split
    · exact absurd rfl (other '>' rfl).2.2
    · exact absurd rfl (other ',' rfl).2.1
    · rfl
  | @later r text blanks before rest fault read blank inner ih =>
    intro fuel enough
    obtain ⟨fuel, rfl⟩ := Nat.exists_eq_succ_of_ne_zero (Nat.ne_zero_of_lt enough)
    have split : text ++ blanks ++ ',' :: before ++ rest
        = text ++ (blanks ++ ',' :: (before ++ rest)) := by simp
    rw [split] at enough ⊢
    have follows : Follows (',' :: (before ++ rest)) := forall_head?_cons (.inr (.inl rfl)) _
    have ends : EndsType text (blanks ++ ',' :: (before ++ rest)) :=
      endsType_of_follows (follows_blanks blank follows)
    have first : type fuel (text ++ (blanks ++ ',' :: (before ++ rest)))
        = .ok (r, blanks ++ ',' :: (before ++ rest)) :=
      type_of_derives read ends (by omega)
    have goesOn : (blanks ++ ',' :: (before ++ rest)).dropWhile isBlank = ',' :: (before ++ rest) :=
      dropWhile_append_of_stops blank (forall_head?_cons (by decide) _)
    have refused := ih fuel (by simp at enough ⊢; omega)
    rw [arguments, first]
    simp only [goesOn, refused]
  | @only before rest fault inner ih =>
    have refused := ih (2 * (before ++ rest).length + 1) (Nat.lt_succ_self _)
    simp only [IsRefused, whole, refused]
  | @trailing r text blanks tail c read ends blank visible =>
    have first : type (2 * (text ++ (blanks ++ c :: tail)).length + 1)
        (text ++ (blanks ++ c :: tail)) = .ok (r, blanks ++ c :: tail) :=
      type_of_derives read ends (Nat.lt_succ_self _)
    have left : (blanks ++ c :: tail).dropWhile isBlank = c :: tail :=
      dropWhile_append_of_stops blank (forall_head?_cons visible tail)
    simp only [IsRefused, List.append_assoc, whole, first, left]

/-- A text is refused exactly at its stop. -/
theorem whole_eq_error_iff {cs rest : List Char} {fault : TypeNameFault} :
    whole cs = .error (fault, rest) ↔ IsStopped .whole cs fault rest := by
  constructor
  · exact isStopped_of_whole_error
  · rintro ⟨before, rfl, stops⟩
    exact stops.isRefused

/-- Whether a stretch of text is the start of a type name. -/
def IsCompletable (cs : List Char) : Prop :=
  ∃ more r, TypeRef.parse (String.ofList (cs ++ more)) = .ok r

theorem isCompletable_iff {cs : List Char} : IsCompletable cs ↔ Completes .whole cs := by
  simp only [IsCompletable, Completes, parse_eq_ok_iff, String.toList_ofList]

theorem IsCompletable.of_prefix {cs cs' : List Char} (completable : IsCompletable cs')
    (front : cs <+: cs') : IsCompletable cs := by
  obtain ⟨rest, rfl⟩ := front
  obtain ⟨more, r, read⟩ := completable
  exact ⟨rest ++ more, r, by rw [← List.append_assoc, read]⟩

/-- No completion has a stop in it, apart from that of a suffix. -/
theorem not_isCompletable_of_stops {before tail : List Char} {c : Char} {fault : TypeNameFault}
    (stops : Stops .whole before fault (c :: tail))
    (suffix : c = '[' → ∃ others, tail = ']' :: others) : ¬ IsCompletable (before ++ [c]) := by
  rw [isCompletable_iff]
  rintro ⟨more, r, written⟩
  have split : before ++ [c] ++ more = before ++ c :: more := by simp
  have refused := (stops.change suffix more).isRefused
  rw [split, ← whole_eq_ok_iff, refused] at written
  cases written

theorem exists_stop_of_parse_error {text : String} {e : TypeNameError}
    (refused : TypeRef.parse text = .error e) :
    ∃ before rest, text.toList = before ++ rest ∧ Stops .whole before e.fault rest
      ∧ e.column = before.length + 1 := by
  unfold TypeRef.parse at refused
  cases read : whole text.toList with
  | ok r =>
    rw [read] at refused
    cases refused
  | error stop =>
    obtain ⟨fault, rest⟩ := stop
    rw [read] at refused
    obtain rfl := Except.error.inj refused
    obtain ⟨before, split, stops⟩ := whole_eq_error_iff.mp read
    refine ⟨before, rest, split, stops, ?_⟩
    change text.toList.length - rest.length + 1 = before.length + 1
    rw [split, List.length_append, Nat.add_sub_cancel]

/-- A bracket at a column that is not followed by the one which closes a suffix. -/
def IsOpenSuffix (cs : List Char) (column : Nat) : Prop :=
  cs[column - 1]? = some '[' ∧ cs[column]? ≠ some ']'

/-- The stretches that can be completed are those up to the longest one. -/
theorem isCompletable_take_iff {cs : List Char} {n k : Nat} (longest : IsCompletable (cs.take n))
    (beyond : n < cs.length → ¬ IsCompletable (cs.take (n + 1))) (within : k ≤ cs.length) :
    IsCompletable (cs.take k) ↔ k < n + 1 := by
  constructor
  · intro completable
    by_contra far
    have front : cs.take (n + 1) <+: cs.take k := List.take_prefix_take_left (by omega)
    exact beyond (by omega) (completable.of_prefix front)
  · intro near
    exact longest.of_prefix (List.take_prefix_take_left (by omega))

/--
The column of a refusal lies in the text or right behind it, and what stands before it can be
completed to a type name, if the refusal is not for a name with a dot first. With the character at
the column it cannot, unless the text ends there or a suffix is broken off: so apart from these the
column stands right behind the longest stretch that can be completed.
-/
theorem column_of_parse_error {text : String} {e : TypeNameError}
    (refused : TypeRef.parse text = .error e)
    (undotted : ∀ n, e.fault = .malformedName n → n.head? ≠ some '.') :
    1 ≤ e.column ∧ e.column ≤ text.length + 1
      ∧ IsCompletable (text.toList.take (e.column - 1))
      ∧ (e.column = text.length + 1 ∨ ¬ IsCompletable (text.toList.take e.column)
        ∨ IsOpenSuffix text.toList e.column)
      ∧ (IsOpenSuffix text.toList e.column ∨ ∀ k ≤ text.length,
        IsCompletable (text.toList.take k) ↔ k < e.column) := by
  obtain ⟨before, rest, split, stops, column⟩ := exists_stop_of_parse_error refused
  have length : text.length = before.length + rest.length := by
    rw [← String.length_toList, split, List.length_append]
  have completable : IsCompletable before := isCompletable_iff.mpr (stops.completes undotted)
  have taken : (before ++ rest).take before.length = before := List.take_left
  rw [column, split, Nat.add_sub_cancel, taken]
  refine ⟨by omega, by omega, completable, ?_⟩
  cases rest with
  | nil =>
    have ends : text.length = before.length := length
    refine ⟨.inl (by omega), .inr fun k within => ?_⟩
    refine isCompletable_take_iff (by simpa using completable) ?_ (by simpa [ends] using within)
    intro inside
    simp at inside
  | cons c tail =>
    have next : (before ++ c :: tail).take (before.length + 1) = before ++ [c] := by
      have parted : before ++ c :: tail = before ++ [c] ++ tail := by simp
      rw [parted]
      exact List.take_left' (by simp)
    by_cases suffix : c = '[' → ∃ others, tail = ']' :: others
    · have stuck := not_isCompletable_of_stops stops suffix
      refine ⟨.inr (.inl (by rwa [next])), .inr fun k within => ?_⟩
      refine isCompletable_take_iff (by rwa [taken]) (fun _ => by rwa [next]) ?_
      simpa [length] using within
    · obtain ⟨rfl, broken⟩ := Classical.not_imp.mp suffix
      have bracket : IsOpenSuffix (before ++ '[' :: tail) (before.length + 1) := by
        constructor
        · simp
        · intro closes
          cases tail with
          | nil => simp at closes
          | cons d others =>
            have same : d = ']' := by simpa [List.getElem?_append] using closes
            exact broken ⟨others, by rw [same]⟩
      exact ⟨.inr (.inr bracket), .inl bracket⟩

/-- The refusal of a text in which two lists of arguments are open. -/
def nestedRefusal : TypeNameError := ⟨"Map<A, List<B C", 15, .closingExpected⟩

theorem column_of_parse_error_nested :
    TypeRef.parse "Map<A, List<B C" = .error nestedRefusal
      ∧ (∀ n, nestedRefusal.fault = .malformedName n → n.head? ≠ some '.')
      ∧ 1 ≤ nestedRefusal.column ∧ nestedRefusal.column ≤ "Map<A, List<B C".length + 1
      ∧ IsCompletable ("Map<A, List<B C".toList.take (nestedRefusal.column - 1))
      ∧ (nestedRefusal.column = "Map<A, List<B C".length + 1
        ∨ ¬ IsCompletable ("Map<A, List<B C".toList.take nestedRefusal.column)
        ∨ IsOpenSuffix "Map<A, List<B C".toList nestedRefusal.column)
      ∧ (IsOpenSuffix "Map<A, List<B C".toList nestedRefusal.column
        ∨ ∀ k ≤ "Map<A, List<B C".length,
          IsCompletable ("Map<A, List<B C".toList.take k) ↔ k < nestedRefusal.column) := by
  have evaluated : (match TypeRef.parse "Map<A, List<B C" with
      | .error e => decide (e = nestedRefusal)
      | .ok _ => false) = true := by decide +kernel
  have refused : TypeRef.parse "Map<A, List<B C" = .error nestedRefusal := by
    split at evaluated
    · next e read => rw [read, of_decide_eq_true evaluated]
    · cases evaluated
  have undotted : ∀ n, nestedRefusal.fault = .malformedName n → n.head? ≠ some '.' := by
    intro n same
    cases same
  exact ⟨refused, undotted, column_of_parse_error refused undotted⟩

end ApiClient.TypeRef.Parser
