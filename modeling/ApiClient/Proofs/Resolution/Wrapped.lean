import ApiClient.Proofs.Resolution.Closed

/-!
References inside wrappers against bare ones.

A wrapping is a `Nullable`, or an array or collection with a `Nullable` around it, under it, both
or neither. Main statement: unless a forced type matches one of the two, a bare reference and a
wrapping of it resolve alike, except that the wrapping is a list just when it holds items.
-/

set_option autoImplicit false

namespace ApiClient

namespace TypeRef

/-- A reference that is no wrapper: no array, and no collection or `Nullable` of one argument. -/
structure IsBare (r : TypeRef) : Prop where
  noArray : r.element = none
  noCollection : ¬ (r.name ∈ collectionTypes ∧ r.arguments.length = 1)
  noNullable : ¬ (r.name = nullableType ∧ r.arguments.length = 1)

/-- An array named as it is written, or a collection of one argument. -/
inductive IsListOf (r item : TypeRef) : Prop
  | array (written : r.name = item.fullName ++ "[]") (bare : r.arguments = [])
      (element : r.element = some item)
  | collection (known : r.name ∈ collectionTypes) (arguments : r.arguments = [item])
      (element : r.element = none)

/-- A wrapping of a reference, and whether an array or a collection is among its layers. -/
inductive IsWrapping (inner : TypeRef) : Bool → TypeRef → Prop
  | nullable {w : TypeRef} (outer : IsNullableOf w inner) : IsWrapping inner false w
  | list {w : TypeRef} (items : IsListOf w inner) : IsWrapping inner true w
  | listOfNullables {w item : TypeRef} (items : IsListOf w item)
      (under : IsNullableOf item inner) : IsWrapping inner true w
  | nullableList {w middle : TypeRef} (outer : IsNullableOf w middle)
      (items : IsListOf middle inner) : IsWrapping inner true w
  | nullableListOfNullables {w middle item : TypeRef} (outer : IsNullableOf w middle)
      (items : IsListOf middle item) (under : IsNullableOf item inner) : IsWrapping inner true w

variable {r w item : TypeRef}

theorem IsBare.not_isNullableOf (bare : IsBare r) (argument : TypeRef) :
    ¬ IsNullableOf r argument := by
  rintro ⟨name, arguments⟩
  exact bare.noNullable ⟨name, by rw [arguments, List.length_singleton]⟩

theorem IsBare.not_isItemsOf (bare : IsBare r) (item : TypeRef) : ¬ IsItemsOf r item := by
  rintro (element | ⟨-, known, arguments⟩)
  · rw [bare.noArray] at element
    cases element
  · exact bare.noCollection ⟨known, by rw [arguments, List.length_singleton]⟩

theorem IsListOf.isItemsOf (items : IsListOf r item) : IsItemsOf r item := by
  cases items with
  | array written bare element => exact .inl element
  | collection known arguments element => exact .inr ⟨element, known, arguments⟩

/-- `Nullable` is looked for first, and an array or a collection is none. -/
theorem IsListOf.not_isNullableOf (items : IsListOf r item) (argument : TypeRef) :
    ¬ IsNullableOf r argument := by
  rintro ⟨name, arguments⟩
  cases items with
  | array written bare element =>
    rw [bare] at arguments
    cases arguments
  | collection known _ element =>
    have apart : nullableType ∉ collectionTypes := by decide
    exact apart (name ▸ known)

theorem wrapsItems_iff :
    r.wrapsItems = true ↔ ∃ middle item, Unwraps IsNullableOf r middle ∧ IsItemsOf middle item := by
  unfold wrapsItems
  rw [Option.isSome_iff_exists]
  constructor
  · rintro ⟨item, held⟩
    exact ⟨_, item, unwraps_nullable_iff.mpr rfl, isItemsOf_iff.mpr held⟩
  · rintro ⟨middle, item, outer, items⟩
    obtain rfl := unwraps_nullable_iff.mp outer
    exact ⟨item, isItemsOf_iff.mp items⟩

theorem wrapsItems_eq_false {middle : TypeRef} (outer : Unwraps IsNullableOf r middle)
    (noItems : ∀ item, ¬ IsItemsOf middle item) : r.wrapsItems = false := by
  rw [← Bool.not_eq_true, wrapsItems_iff]
  rintro ⟨middle', item, outer', items⟩
  obtain rfl := unwraps_nullable_iff.mp outer
  obtain rfl := unwraps_nullable_iff.mp outer'
  exact noItems item items

theorem IsBare.core_eq (bare : IsBare r) : r.core = r ∧ r.wrapsItems = false := by
  have outer : Unwraps IsNullableOf r r := .bare bare.not_isNullableOf
  constructor
  · exact isCore_iff.mp (.single outer bare.not_isItemsOf)
  · exact wrapsItems_eq_false outer bare.not_isItemsOf

/-- What a wrapping leaves is the bare reference in it. -/
theorem IsWrapping.core_eq {holdsItems : Bool} (wrapping : IsWrapping r holdsItems w)
    (bare : IsBare r) : w.core = r ∧ w.wrapsItems = holdsItems := by
  have listed {middle item : TypeRef} (outer : Unwraps IsNullableOf w middle)
      (items : IsListOf middle item) (under : Unwraps IsNullableOf item r) :
      w.core = r ∧ w.wrapsItems = true :=
    ⟨isCore_iff.mp (.items outer items.isItemsOf under),
      wrapsItems_iff.mpr ⟨middle, item, outer, items.isItemsOf⟩⟩
  have unwrapped : Unwraps IsNullableOf r r := .bare bare.not_isNullableOf
  cases wrapping with
  | nullable outer =>
    have single : Unwraps IsNullableOf w r := .layered outer
    exact ⟨isCore_iff.mp (.single single bare.not_isItemsOf),
      wrapsItems_eq_false single bare.not_isItemsOf⟩
  | list items => exact listed (.bare items.not_isNullableOf) items unwrapped
  | listOfNullables items under =>
    exact listed (.bare items.not_isNullableOf) items (.layered under)
  | nullableList outer items => exact listed (.layered outer) items unwrapped
  | nullableListOfNullables outer items under =>
    exact listed (.layered outer) items (.layered under)

end TypeRef

namespace Resolution

/-- A resolution as one of lists, or of single values. -/
def withItems (holdsItems : Bool) (res : Resolution) : Resolution :=
  { res with resolved := { res.resolved with isCollection := holdsItems } }

end Resolution

namespace Scope

open TypeRef (IsBare IsWrapping)

variable {s : Scope} {r w core : TypeRef} {parameter : Option Parameter}
  {constraints : List String} {holdsItems : Bool}

theorem ofEnum_withItems (d : TypeDescriptor) :
    s.ofEnum holdsItems d = (s.ofEnum false d).withItems holdsItems := by
  unfold ofEnum
  split <;> rfl

theorem ofObject_withItems (d : TypeDescriptor) :
    s.ofObject holdsItems d = (s.ofObject false d).withItems holdsItems := by
  unfold ofObject
  split <;> rfl

/-- No rule looks at whether items are held; it only passes that on. -/
theorem ofCore?_withItems :
    s.ofCore? holdsItems core = (s.ofCore? false core).map (Resolution.withItems holdsItems) := by
  unfold ofCore?
  dsimp only
  cases (s.store.find? core.name).filter TypeDescriptor.isEnum with
  | some d => exact congrArg some (ofEnum_withItems d)
  | none =>
    cases primitiveTypes.lookup core.fullName with
    | some name => rfl
    | none =>
      cases (s.store.find? core.name).filter
          fun d => isObject d && !core.isGeneric && !core.isArray with
      | some d => exact congrArg some (ofObject_withItems d)
      | none => rfl

theorem ofFallback_withItems (name : String) :
    ofFallback w name = (ofFallback r name).withItems w.wrapsItems := rfl

theorem resolve?_isCollection (unforced : s.findMapping? r parameter constraints = none)
    {res : Resolution} (resolved : s.resolve? r parameter constraints = some res) :
    res.resolved.isCollection = r.wrapsItems := by
  rw [Scope.resolve?, unforced, ofCore?_withItems] at resolved
  obtain ⟨res', -, rfl⟩ := Option.map_eq_some_iff.mp resolved
  rfl

theorem resolve?_wrapping (bare : r.IsBare) (wrapping : IsWrapping r holdsItems w)
    (unforced : s.findMapping? r parameter constraints = none)
    (unforced' : s.findMapping? w parameter constraints = none) :
    s.resolve? w parameter constraints
      = (s.resolve? r parameter constraints).map (Resolution.withItems holdsItems) := by
  obtain ⟨core, single⟩ := bare.core_eq
  obtain ⟨core', items⟩ := wrapping.core_eq bare
  rw [Scope.resolve?, Scope.resolve?, unforced, unforced']
  dsimp only
  rw [core', items, core, single]
  exact ofCore?_withItems

/--
Where no forced type matches either, a wrapping resolves just when the bare reference in it does,
and to the same but for being a list where it holds items. Otherwise it is refused under its own
name.
-/
theorem resolve_wrapping_iff (bare : r.IsBare) (wrapping : IsWrapping r holdsItems w)
    (unforced : s.findMapping? r parameter constraints = none)
    (unforced' : s.findMapping? w parameter constraints = none) (fallback : Option String) :
    (∀ res', s.resolve w parameter constraints fallback = .ok res'
      ↔ ∃ res, s.resolve r parameter constraints fallback = .ok res
        ∧ res' = res.withItems holdsItems)
    ∧ (∀ res, s.resolve r parameter constraints fallback = .ok res →
      res.resolved.isCollection = false)
    ∧ ((∃ refusal, s.resolve r parameter constraints fallback = .error refusal) →
      s.resolve w parameter constraints fallback
        = .error (.unsupportedType w.fullName (parameter.map Parameter.name) .unresolved)) := by
  have single := bare.core_eq.2
  have items := (wrapping.core_eq bare).2
  have alike := resolve?_wrapping bare wrapping unforced unforced'
  unfold resolve
  rw [alike]
  cases resolved : s.resolve? r parameter constraints with
  | some res =>
    have flag := resolve?_isCollection unforced resolved
    refine ⟨fun res' => by simp [eq_comm], ?_, ?_⟩
    · intro res' given
      obtain rfl := Except.ok.inj given
      exact flag.trans single
    · rintro ⟨refusal, refused⟩
      cases refused
  | none =>
    cases fallback with
    | none =>
      refine ⟨fun res' => by simp, ?_, fun _ => rfl⟩
      intro res' given
      cases given
    | some name =>
      have same : ofFallback w name = (ofFallback r name).withItems holdsItems :=
        items ▸ ofFallback_withItems name
      refine ⟨fun res' => by simp [same, eq_comm], ?_, ?_⟩
      · intro res' given
        obtain rfl := Except.ok.inj given
        exact single
      · rintro ⟨refusal, refused⟩
        cases refused

end Scope

/-! An enumeration that may be absent, in a list that may be absent. -/

namespace Sample

def nullable (argument : TypeRef) : TypeRef := .generic nullableType [argument]

theorem isBare_plain (name : String) : (TypeRef.plain name).IsBare := by
  constructor
  · rfl
  · simp [TypeRef.plain]
  · simp [TypeRef.plain]

def nullableColors : TypeRef := nullable (list (nullable (.plain "Acme.Color")))

theorem isWrapping_nullableColors :
    TypeRef.IsWrapping (.plain "Acme.Color") true nullableColors := by
  refine .nullableListOfNullables ⟨rfl, rfl⟩ (.collection ?_ rfl rfl) ⟨rfl, rfl⟩
  simp [list, TypeRef.generic, collectionTypes]

end Sample

namespace Scope

theorem resolve_wrapping_iff_colors :
    (TypeRef.plain "Acme.Color").IsBare
      ∧ TypeRef.IsWrapping (.plain "Acme.Color") true Sample.nullableColors
      ∧ Sample.boxes.findMapping? (.plain "Acme.Color") none [] = none
      ∧ Sample.boxes.findMapping? Sample.nullableColors none [] = none
      ∧ Sample.boxes.resolve Sample.nullableColors none [] none
        = .ok ⟨⟨"Enums.Color", false, true, true, none⟩, [.enum "Acme.Color"]⟩ := by
  have unforced : ∀ r : TypeRef, Sample.boxes.findMapping? r none [] = none := fun _ => rfl
  have bare := Sample.isBare_plain "Acme.Color"
  have resolved : Sample.boxes.resolve (.plain "Acme.Color") none [] none
      = .ok ⟨⟨"Enums.Color", false, true, false, none⟩, [.enum "Acme.Color"]⟩ := by
    decide +kernel
  have alike := (resolve_wrapping_iff bare Sample.isWrapping_nullableColors (unforced _)
    (unforced _) none).1
  refine ⟨bare, Sample.isWrapping_nullableColors, unforced _, unforced _, ?_⟩
  exact (alike _).mpr ⟨_, resolved, rfl⟩

end Scope

end ApiClient
