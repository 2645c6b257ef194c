import ApiClient.Proofs.Generation

/-!
References that hold arguments or an element inside their wrappers.

The wrappers are one `Nullable`, then one array or collection, and under that one more `Nullable`.
Main statement: unless a forced type matches, a reference that is still an array or has arguments
inside its wrappers is refused under its whole name, but for one case: the store has an
enumeration under the open name of what is inside, and then the rest is lost.
-/

set_option autoImplicit false

namespace ApiClient

namespace TypeRef

/-- A `Nullable` of one argument. -/
def IsNullableOf (r argument : TypeRef) : Prop :=
  r.name = nullableType ∧ r.arguments = [argument]

/-- An array of an element, or else a collection of one argument. -/
def IsItemsOf (r item : TypeRef) : Prop :=
  r.element = some item
    ∨ r.element = none ∧ r.name ∈ collectionTypes ∧ r.arguments = [item]

/-- What one layer leaves: what it is around, or the reference itself where there is none. -/
inductive Unwraps (layer : TypeRef → TypeRef → Prop) (r : TypeRef) : TypeRef → Prop
  | bare (unwrapped : ∀ inner, ¬ layer r inner) : Unwraps layer r r
  | layered {inner : TypeRef} (around : layer r inner) : Unwraps layer r inner

/-- What the wrappers of a reference leave. -/
inductive IsCore (r : TypeRef) : TypeRef → Prop
  | single {core : TypeRef} (outer : Unwraps IsNullableOf r core)
      (noItems : ∀ item, ¬ IsItemsOf core item) : IsCore r core
  | items {middle item core : TypeRef} (outer : Unwraps IsNullableOf r middle)
      (items : IsItemsOf middle item) (inner : Unwraps IsNullableOf item core) : IsCore r core

variable {r core item : TypeRef}

theorem withoutNullable_of_isNullableOf (around : IsNullableOf r core) :
    r.withoutNullable = core := by
  obtain ⟨name, arguments⟩ := around
  simp [withoutNullable, name, arguments]

theorem withoutNullable_eq_self (unwrapped : ∀ argument, ¬ IsNullableOf r argument) :
    r.withoutNullable = r := by
  unfold withoutNullable
  split
  · next argument arguments => exact if_neg fun name => unwrapped argument ⟨name, arguments⟩
  · rfl

theorem unwraps_nullable_iff : Unwraps IsNullableOf r core ↔ r.withoutNullable = core := by
  constructor
  · intro unwraps
    cases unwraps with
    | bare unwrapped => exact withoutNullable_eq_self unwrapped
    | layered around => exact withoutNullable_of_isNullableOf around
  · rintro rfl
    by_cases wrapped : ∃ argument, IsNullableOf r argument
    · obtain ⟨argument, around⟩ := wrapped
      rw [withoutNullable_of_isNullableOf around]
      exact .layered around
    · have unwrapped : ∀ argument, ¬ IsNullableOf r argument := not_exists.mp wrapped
      rw [withoutNullable_eq_self unwrapped]
      exact .bare unwrapped

theorem isItemsOf_iff : IsItemsOf r item ↔ r.item? = some item := by
  unfold IsItemsOf item?
  split
  · next element held => simp [held]
  · next argument held arguments =>
    by_cases known : r.name ∈ collectionTypes
    · simp [held, arguments, known]
    · simp [held, arguments, known]
  · next held others =>
    have several : r.arguments ≠ [item] := others item
    simp [held, several]

theorem isCore_iff : IsCore r core ↔ r.core = core := by
  constructor
  · intro isCore
    cases isCore with
    | single outer noItems =>
      obtain rfl := unwraps_nullable_iff.mp outer
      have none : r.withoutNullable.item? = none := by
        refine Option.eq_none_iff_forall_ne_some.mpr fun item held => ?_
        exact noItems item (isItemsOf_iff.mpr held)
      simp only [TypeRef.core, none]
    | items outer items inner =>
      obtain rfl := unwraps_nullable_iff.mp outer
      obtain rfl := unwraps_nullable_iff.mp inner
      simp only [TypeRef.core, isItemsOf_iff.mp items]
  · rintro rfl
    unfold TypeRef.core
    split
    · next item held =>
      exact .items (unwraps_nullable_iff.mpr rfl) (isItemsOf_iff.mpr held)
        (unwraps_nullable_iff.mpr rfl)
    · next none =>
      refine .single (unwraps_nullable_iff.mpr rfl) fun item items => ?_
      rw [isItemsOf_iff.mp items] at none
      cases none

/-- A reference that holds arguments or an element is written with a bracket at its end. -/
theorem getLast?_fullName (closed : r.isArray = true ∨ r.isGeneric = true) :
    r.fullName.toList.getLast? = some ']' ∨ r.fullName.toList.getLast? = some '>' := by
  obtain ⟨name, arguments, element, flag⟩ := r
  cases element with
  | some element =>
    left
    rw [fullName, String.toList_append, List.getLast?_append]
    rfl
  | none =>
    cases arguments with
    | nil => simp [isArray, isGeneric] at closed
    | cons first rest =>
      right
      rw [fullName, String.toList_append, List.getLast?_append]
      rfl

end TypeRef

namespace Scope

variable {s : Scope} {r core : TypeRef} {parameter : Option Parameter} {constraints : List String}

/-- No known primitive is written with a bracket at its end. -/
theorem primitiveTypes_lookup_of_closed (closed : core.isArray = true ∨ core.isGeneric = true) :
    primitiveTypes.lookup core.fullName = none := by
  have plain : ∀ entry ∈ primitiveTypes,
      entry.1.toList.getLast? ≠ some ']' ∧ entry.1.toList.getLast? ≠ some '>' := by
    decide +kernel
  refine List.lookup_eq_none_iff.mpr fun entry member => ?_
  obtain ⟨noBracket, noAngle⟩ := plain entry member
  rw [bne_iff_ne]
  intro same
  rw [← same] at noBracket noAngle
  rcases TypeRef.getLast?_fullName closed with bracket | angle
  · exact noBracket bracket
  · exact noAngle angle

/-- Of all rules only that for enumerations looks past arguments and elements. -/
theorem resolve?_of_closed (unforced : s.findMapping? r parameter constraints = none)
    (closed : r.core.isArray = true ∨ r.core.isGeneric = true) :
    s.resolve? r parameter constraints
      = ((s.store.find? r.core.name).filter TypeDescriptor.isEnum).map (s.ofEnum r.wrapsItems) := by
  cases resolved : s.resolve? r parameter constraints with
  | some res =>
    cases rule_of_resolve? resolved with
    | forced m matched => simp [unforced] at matched
    | enum d _ found isEnum => simp [found, isEnum, Option.filter]
    | primitive name _ _ known => simp [primitiveTypes_lookup_of_closed closed] at known
    -- the rule for classes and interfaces has the guards that the one for enumerations lacks
    | object d _ _ _ _ notGeneric notArray => simp [notGeneric, notArray] at closed
  | none =>
    cases enum : (s.store.find? r.core.name).filter TypeDescriptor.isEnum with
    | none => rfl
    | some d =>
      obtain ⟨found, isEnum⟩ := Option.filter_eq_some_iff.mp enum
      have rule := Rule.enum d unforced found isEnum
      rw [rule.resolve?] at resolved
      cases resolved

/--
A reference that holds arguments or an element inside its wrappers is refused under its whole
name just when the store has no enumeration under the open name of what is inside; otherwise it
resolves to that enumeration, as one of its items or as a list of them.
-/
theorem refuses_closed_iff (unforced : s.findMapping? r parameter constraints = none)
    (isCore : r.IsCore core) (closed : core.isArray = true ∨ core.isGeneric = true) :
    (s.resolve r parameter constraints none
        = .error (.unsupportedType r.fullName (parameter.map Parameter.name) .unresolved)
      ↔ ∀ d, s.store.find? core.name = some d → d.isEnum = false)
    ∧ ∀ d, s.store.find? core.name = some d → d.isEnum = true →
      s.resolve r parameter constraints none = .ok (s.ofEnum r.wrapsItems d) := by
  obtain rfl := TypeRef.isCore_iff.mp isCore
  have decided := resolve?_of_closed unforced closed
  unfold resolve
  rw [decided]
  cases found : s.store.find? r.core.name with
  | none => simp
  | some d =>
    cases isEnum : d.isEnum with
    | false => simp [isEnum, Option.filter]
    | true => simp [isEnum, Option.filter]

end Scope

/-! A list in a list, an enumeration inside a type with an argument, and an array in a list that is
named as its element. -/

namespace Sample

def list (argument : TypeRef) : TypeRef :=
  .generic "System.Collections.Generic.List`1" [argument]

def boxColor : TypeDescriptor :=
  ⟨"Acme.Box`1/Color", .enumType, false, none, [], [], [], [⟨"Red", 0⟩]⟩

/-- The classes of the store are named as the collection and as the type around. -/
def boxes : Scope :=
  ⟨⟨[boxColor, color, classOf "System.Collections.Generic.List`1" none [],
    classOf "Acme.Box`1" none []], []⟩, settings true "Endpoints"⟩

def colorRows : TypeRef := list (list (.plain "Acme.Color"))

def closedColor : TypeRef := .generic "Acme.Box`1/Color" [.plain "System.Int32"]

def colorRow : TypeRef := ⟨"Acme.Color", [], some (.plain "Acme.Color"), false⟩

theorem not_isNullableOf {r : TypeRef} (named : r.name ≠ nullableType) (argument : TypeRef) :
    ¬ r.IsNullableOf argument :=
  fun around => named around.1

theorem isItemsOf_list (item : TypeRef) : (list item).IsItemsOf item :=
  .inr ⟨rfl, by simp [list, TypeRef.generic, collectionTypes], rfl⟩

/-- The core of a list is its item, where that is no `Nullable`. -/
theorem isCore_list {item : TypeRef} (named : item.name ≠ nullableType) :
    (list item).IsCore item := by
  have outer : (list item).name ≠ nullableType := by
    simp [list, TypeRef.generic, nullableType]
  exact .items (.bare (not_isNullableOf outer)) (isItemsOf_list item)
    (.bare (not_isNullableOf named))

theorem isCore_closedColor : closedColor.IsCore closedColor := by
  refine .single (.bare (not_isNullableOf (by decide))) ?_
  rintro item (element | ⟨-, known, -⟩)
  · cases element
  · exact absurd known (by decide)

end Sample

namespace Scope

theorem refuses_closed_iff_rows :
    Sample.boxes.findMapping? Sample.colorRows none [] = none
      ∧ Sample.colorRows.IsCore (Sample.list (.plain "Acme.Color"))
      ∧ Sample.boxes.resolve Sample.colorRows none [] none
        = .error (.unsupportedType Sample.colorRows.fullName none .unresolved) := by
  have isCore : Sample.colorRows.IsCore (Sample.list (.plain "Acme.Color")) :=
    Sample.isCore_list (by decide)
  have found : Sample.boxes.store.find? (Sample.list (.plain "Acme.Color")).name
      = some (Sample.classOf "System.Collections.Generic.List`1" none []) := by cbv
  have unforced : Sample.boxes.findMapping? Sample.colorRows none [] = none := by cbv
  have closed : (Sample.list (.plain "Acme.Color")).isGeneric = true := by cbv
  have decided := refuses_closed_iff unforced isCore (.inr closed)
  refine ⟨unforced, isCore, decided.1.mpr fun d held => ?_⟩
  rw [found] at held
  obtain rfl := Option.some.inj held
  rfl

/-- An argument is lost, and one of two dimensions. -/
theorem closed_resolved :
    (Sample.boxes.findMapping? Sample.closedColor none [] = none
      ∧ Sample.closedColor.IsCore Sample.closedColor ∧ Sample.closedColor.isGeneric = true
      ∧ Sample.boxes.resolve Sample.closedColor none [] none
        = .ok ⟨⟨"Enums.Color", false, true, false, none⟩, [.enum "Acme.Box`1/Color"]⟩)
    ∧ Sample.boxes.findMapping? (Sample.list Sample.colorRow) none [] = none
      ∧ (Sample.list Sample.colorRow).IsCore Sample.colorRow ∧ Sample.colorRow.isArray = true
      ∧ Sample.boxes.resolve (Sample.list Sample.colorRow) none [] none
        = .ok ⟨⟨"Enums.Color", false, true, true, none⟩, [.enum "Acme.Color"]⟩ := by
  have unforced : ∀ r : TypeRef, Sample.boxes.findMapping? r none [] = none := fun _ => rfl
  refine ⟨⟨unforced _, Sample.isCore_closedColor, rfl, ?_⟩, unforced _,
    Sample.isCore_list (by decide), rfl, ?_⟩
  · decide +kernel
  · decide +kernel

end Scope

end ApiClient
