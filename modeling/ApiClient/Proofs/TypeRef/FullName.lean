import ApiClient.Proofs.TypeRef.Grammar

/-!
Reading a type name and writing a reference undo each other.

Written references have no blanks. Main statement: what is read is written as the text without its
blanks, and a reference of the form that reading gives is read back from what it is written as.
-/

set_option autoImplicit false

namespace ApiClient

namespace TypeRef

/--
A reference of the form that reading gives. Outside arrays the name is a name; an array has no
arguments and is named as it is written; and no flag of a value type is set, at any depth.
-/
inductive IsRegular : TypeRef → Prop
  | named {name : String} {arguments : List TypeRef} (isName : Parser.IsName name.toList)
      (regular : ∀ a ∈ arguments, IsRegular a) : IsRegular ⟨name, arguments, none, false⟩
  | array {element : TypeRef} (regular : IsRegular element) :
      IsRegular ⟨element.fullName ++ "[]", [], some element, false⟩

end TypeRef

namespace TypeRef.Parser

open Text

theorem isRegular_arrays {r : TypeRef} (regular : r.IsRegular) (n : Nat) :
    (arrays n r).IsRegular := by
  induction n generalizing r with
  | zero => exact regular
  | succ n ih => exact ih (.array regular)

theorem arrays_array (n : Nat) (r : TypeRef) : arrays n r.array = (arrays n r).array := by
  induction n generalizing r with
  | zero => rfl
  | succ n ih => exact ih r.array

theorem suffixes_append_pair (n : Nat) (rest : List Char) :
    suffixes n ++ '[' :: ']' :: rest = suffixes (n + 1) ++ rest := by
  induction n with
  | zero => rfl
  | succ n ih =>
    rw [suffixes, List.cons_append, List.cons_append, ih]
    rfl

theorem toList_fullName_arrays (n : Nat) (r : TypeRef) :
    (arrays n r).fullName.toList = r.fullName.toList ++ suffixes n := by
  induction n generalizing r with
  | zero => simp [arrays, suffixes]
  | succ n ih =>
    rw [arrays, ih, TypeRef.array, TypeRef.fullName]
    simp [suffixes]

namespace Phrase

/-- What a phrase is written as; arguments have commas between them. -/
def written : Phrase → List Char
  | type r => r.fullName.toList
  | arguments [] => []
  | arguments (r :: rs) => r.fullName.toList ++ (fullNameTail rs).toList

def IsRegular : Phrase → Prop
  | type r => r.IsRegular
  | arguments rs => rs ≠ [] ∧ ∀ r ∈ rs, r.IsRegular

end Phrase

theorem toList_fullName_generic {name : String} {args : List TypeRef} (closed : args ≠ []) :
    (TypeRef.generic name args).fullName.toList
      = name.toList ++ '<' :: (Phrase.arguments args).written ++ ['>'] := by
  cases args with
  | nil => exact absurd rfl closed
  | cons first rest => simp [TypeRef.generic, TypeRef.fullName, Phrase.written]

theorem isRegular_of_derives {phrase : Phrase} {text rest : List Char}
    (derived : Derives phrase text rest) : phrase.IsRegular := by
  induction derived with
  | @named blanks name rest n blank isName ends =>
    apply isRegular_arrays
    exact .named (by rwa [String.toList_ofList]) nofun
  | @closed blanks name text rest args n blank isName inner ih =>
    apply isRegular_arrays
    exact .named (by rwa [String.toList_ofList]) ih.2
  | last first blank ih =>
    refine ⟨nofun, ?_⟩
    intro r member
    obtain rfl := List.mem_singleton.mp member
    exact ih
  | more first blank next ihFirst ihNext =>
    refine ⟨nofun, ?_⟩
    intro r member
    rcases List.mem_cons.mp member with rfl | later
    · exact ihFirst
    · exact ihNext.2 r later

/-- The characters of a text that are no blanks. -/
def visible (cs : List Char) : List Char := cs.filter fun c => !isBlank c

theorem visible_append (cs cs' : List Char) : visible (cs ++ cs') = visible cs ++ visible cs' :=
  List.filter_append ..

theorem visible_blanks {blanks : List Char} (blank : IsBlanks blanks) : visible blanks = [] := by
  apply List.filter_eq_nil_iff.mpr
  intro c member
  simp [blank c member]

theorem visible_name {name : List Char} (isName : IsName name) : visible name = name := by
  apply List.filter_eq_self.mpr
  intro c member
  simp [isBlank_eq_false_of_isNameChar (isName.chars c member)]

theorem visible_cons {c : Char} (kept : isBlank c = false) (cs : List Char) :
    visible (c :: cs) = c :: visible cs :=
  List.filter_cons_of_pos (by simp [kept])

theorem visible_suffixes (n : Nat) : visible (suffixes n) = suffixes n := by
  induction n with
  | zero => rfl
  | succ n ih => rw [suffixes, visible_cons (by decide), visible_cons (by decide), ih]

/-- A phrase is written as the text that it was derived from, without the blanks. -/
theorem written_of_derives {phrase : Phrase} {text rest : List Char}
    (derived : Derives phrase text rest) : phrase.written = visible text := by
  induction derived with
  | @named blanks name rest n blank isName ends =>
    rw [Phrase.written, toList_fullName_arrays, visible_append, visible_append,
      visible_blanks blank, visible_name isName, visible_suffixes]
    simp [TypeRef.plain, TypeRef.fullName]
  | @closed blanks name text rest args n blank isName inner ih =>
    have closed : args ≠ [] := (isRegular_of_derives inner).1
    rw [Phrase.written, toList_fullName_arrays, toList_fullName_generic closed, ih]
    have cut : visible (blanks ++ name ++ '<' :: text ++ '>' :: suffixes n)
        = name ++ '<' :: visible text ++ '>' :: suffixes n := by
      rw [visible_append, visible_append, visible_append, visible_cons (by decide),
        visible_cons (by decide), visible_blanks blank, visible_name isName, visible_suffixes,
        List.nil_append]
    rw [cut]
    simp
  | @last r text blanks rest first blank ih =>
    rw [visible_append, visible_blanks blank, ← ih]
    simp [Phrase.written, fullNameTail]
  | @more r rs text blanks others rest first blank next ihFirst ihNext =>
    rw [visible_append, visible_append, visible_cons (by decide), visible_blanks blank, ← ihFirst,
      ← ihNext]
    cases rs with
    | nil => exact absurd rfl (isRegular_of_derives next).1
    | cons r' rs => simp [Phrase.written, fullNameTail]

/-! Deriving what is written. -/

theorem Derives.array {r : TypeRef} {text rest : List Char}
    (derived : Derives (.type r) text ('[' :: ']' :: rest)) :
    Derives (.type r.array) (text ++ ['[', ']']) rest := by
  cases derived with
  | @named blanks name _ n blank isName ends =>
    rw [suffixes_append_pair] at ends
    rw [← arrays_array, List.append_assoc, suffixes_append_pair, List.append_nil]
    exact .named blank isName ends
  | @closed blanks name text _ args n blank isName inner =>
    rw [suffixes_append_pair] at inner
    rw [← arrays_array, List.append_assoc, List.cons_append, suffixes_append_pair, List.append_nil]
    exact .closed blank isName inner

/-- Arguments that can each be derived, from what they are written as, can be derived together. -/
theorem derives_arguments {first : TypeRef} {others : List TypeRef}
    (derives : ∀ r ∈ first :: others, ∀ {rest : List Char}, EndsName rest →
      Derives (.type r) r.fullName.toList rest) (rest : List Char) :
    Derives (.arguments (first :: others)) (Phrase.arguments (first :: others)).written
      ('>' :: rest) := by
  induction others generalizing first with
  | nil =>
    have ends : EndsName ('>' :: rest) := forall_head?_cons (by decide) rest
    have last := derives first List.mem_cons_self ends
    have derived := @Derives.last first _ [] _ last nofun
    simpa [Phrase.written, fullNameTail] using derived
  | cons second others ih =>
    have next := ih fun r member => derives r (List.mem_cons_of_mem _ member)
    have ends : EndsName (',' :: ((Phrase.arguments (second :: others)).written ++ '>' :: rest)) :=
      forall_head?_cons (by decide) _
    have before := derives first List.mem_cons_self ends
    have derived := @Derives.more first _ _ [] _ _ before nofun next
    simpa [Phrase.written, fullNameTail] using derived

theorem derives_of_isRegular {r : TypeRef} (regular : r.IsRegular) {rest : List Char}
    (ends : EndsName rest) : Derives (.type r) r.fullName.toList rest := by
  induction regular generalizing rest with
  | @named name arguments isName regular ih =>
    cases arguments with
    | nil =>
      have derived := @Derives.named [] _ rest 0 nofun isName ends
      simpa [arrays, suffixes, TypeRef.plain, TypeRef.fullName] using derived
    | cons first others =>
      have inner := derives_arguments ih rest
      have derived := @Derives.closed [] _ _ rest _ 0 nofun isName inner
      simpa [arrays, suffixes, TypeRef.generic, TypeRef.fullName, Phrase.written] using derived
  | @array element regular ih =>
    have start : EndsName ('[' :: ']' :: rest) := forall_head?_cons (by decide) _
    have derived := (ih start).array
    simpa [TypeRef.array, TypeRef.fullName] using derived

theorem isWritten_fullName {r : TypeRef} (regular : r.IsRegular) :
    IsWritten r r.fullName.toList :=
  ⟨r.fullName.toList, [], (List.append_nil _).symm, nofun, derives_of_isRegular regular nofun⟩

theorem IsWritten.isRegular {r : TypeRef} {cs : List Char} (written : IsWritten r cs) :
    r.IsRegular := by
  obtain ⟨text, blanks, -, -, derived⟩ := written
  exact isRegular_of_derives derived

theorem IsWritten.toList_fullName {r : TypeRef} {cs : List Char} (written : IsWritten r cs) :
    r.fullName.toList = visible cs := by
  obtain ⟨text, blanks, rfl, blank, derived⟩ := written
  rw [visible_append, visible_blanks blank, List.append_nil]
  exact written_of_derives derived

end TypeRef.Parser

namespace TypeRef

/--
What is read from a text is regular and is written as the text without its blanks, and what is
regular is read back from what it is written as.
-/
theorem parse_fullName :
    (∀ text r, TypeRef.parse text = .ok r →
      r.fullName = String.ofList (text.toList.filter fun c => !Text.isBlank c) ∧ r.IsRegular)
      ∧ ∀ r : TypeRef, r.IsRegular → TypeRef.parse r.fullName = .ok r := by
  constructor
  · intro text r read
    have written := Parser.parse_eq_ok_iff.mp read
    refine ⟨?_, written.isRegular⟩
    rw [← String.toList_inj, String.toList_ofList]
    exact written.toList_fullName
  · intro r regular
    exact Parser.parse_eq_ok_iff.mpr (Parser.isWritten_fullName regular)

theorem parse_fullName_pair :
    ∃ r, TypeRef.parse " Pair`2<Acme.Node , Acme.Color[]>[]" = .ok r ∧ r.IsRegular
      ∧ r.fullName = "Pair`2<Acme.Node,Acme.Color[]>[]"
      ∧ TypeRef.parse "Pair`2<Acme.Node,Acme.Color[]>[]" = .ok r := by
  have accepted : (TypeRef.parse " Pair`2<Acme.Node , Acme.Color[]>[]").toOption.isSome = true := by
    decide +kernel
  have kept : String.ofList
      (" Pair`2<Acme.Node , Acme.Color[]>[]".toList.filter fun c => !Text.isBlank c)
      = "Pair`2<Acme.Node,Acme.Color[]>[]" := by decide +kernel
  cases read : TypeRef.parse " Pair`2<Acme.Node , Acme.Color[]>[]" with
  | error e =>
    rw [read] at accepted
    exact absurd accepted nofun
  | ok r =>
    obtain ⟨written, regular⟩ := parse_fullName.1 _ _ read
    rw [kept] at written
    exact ⟨r, rfl, regular, written, written ▸ parse_fullName.2 r regular⟩

end TypeRef

end ApiClient
