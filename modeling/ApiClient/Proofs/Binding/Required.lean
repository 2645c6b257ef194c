import ApiClient.Proofs.Binding.Partition

/-!
Parameters that every call of a constructor gives.

A constructor takes its required parameters first, so a call may leave out optional ones only. Main
statement: a parameter in the path is required just when it is not declared optional and is of a
value type other than `Nullable`. What its placeholder says of being optional is not looked at.
-/

set_option autoImplicit false

namespace ApiClient

open Route (Segment)

namespace Entry

variable {e : Entry} {p : Part}

/-- The numbers of arguments that the constructor takes: all required ones, and at most all. -/
def Accepts (e : Entry) (n : Nat) : Prop :=
  (e.constructorParts.filter fun p => !p.optional).length ≤ n ∧ n ≤ e.constructorParts.length

/-- Every call of the constructor gives a value to a part. -/
def AlwaysGives (e : Entry) (p : Part) : Prop := ∀ n, e.Accepts n → p ∈ e.constructorParts.take n

theorem exists_constructorParts_eq (e : Entry) :
    ∃ required optional, e.constructorParts = required ++ optional
      ∧ e.constructorParts.filter (fun p => !p.optional) = required
      ∧ (∀ p ∈ required, p.optional = false) ∧ ∀ p ∈ optional, p.optional = true := by
  refine ⟨_, _, e.constructorParts_eq, ?_, ?_, ?_⟩
  · simpa using e.divides.stable false
  · intro p member
    simpa using (List.mem_filter.mp member).2
  · intro p member
    exact (List.mem_filter.mp member).2

/-- The shortest call gives the required parts and no others. -/
theorem alwaysGives_iff (member : p ∈ e.constructorParts) :
    e.AlwaysGives p ↔ p.optional = false := by
  obtain ⟨required, optional, parts, filtered, needed, free⟩ := e.exists_constructorParts_eq
  unfold AlwaysGives Accepts
  rw [filtered]
  rw [parts] at member ⊢
  constructor
  · intro gives
    have given := gives required.length ⟨le_rfl, by simp⟩
    rw [List.take_left' rfl] at given
    exact needed p given
  · intro notOptional n accepted
    have among : p ∈ required := by
      rcases List.mem_append.mp member with among | among
      · exact among
      · rw [free p among] at notOptional
        cases notOptional
    rw [List.take_append, List.take_of_length_le accepted.1]
    exact List.mem_append_left _ among

end Entry

theorem TypeDescriptor.isValueType_iff {d : TypeDescriptor} : d.isValueType = true
    ↔ d.kind = .structType ∨ d.kind = .enumType ∨ d.kind = .primitiveType := by
  simp [TypeDescriptor.isValueType, or_assoc]

namespace TypeStore

/-- Values of a type are held directly: by the flag of the reference, by what the store says of the
type, or, without either, as a known one. An array is never held so. -/
inductive HoldsDirectly (store : TypeStore) (r : TypeRef) : Prop
  | flagged (noArray : r.isArray = false) (flag : r.isValueType = true)
  | described {d : TypeDescriptor} (noArray : r.isArray = false)
      (found : store.find? r.name = some d)
      (kind : d.kind = .structType ∨ d.kind = .enumType ∨ d.kind = .primitiveType)
  | known (noArray : r.isArray = false) (absent : store.find? r.name = none)
      (known : r.name ∈ knownValueTypes)

theorem isValueType_iff {store : TypeStore} {r : TypeRef} :
    store.isValueType r = true ↔ store.HoldsDirectly r := by
  unfold isValueType
  constructor
  · intro direct
    split_ifs at direct with array flag
    · exact .flagged (by simpa using array) flag
    · have noArray : r.isArray = false := by simpa using array
      cases found : store.find? r.name with
      | some d =>
        simp only [found] at direct
        exact .described noArray found (TypeDescriptor.isValueType_iff.mp direct)
      | none =>
        simp only [found] at direct
        exact .known noArray found (by simpa using direct)
  · intro direct
    cases direct with
    | flagged noArray flag => simp [noArray, flag]
    | described noArray found kind =>
      have described := TypeDescriptor.isValueType_iff.mpr kind
      simp [noArray, found, described]
    | known noArray absent known => simp [noArray, absent, known]

end TypeStore

namespace Scope

variable {s : Scope} {d : TypeDescriptor}

/-- A parameter that has to be given: not declared optional, and neither of a reference type nor of
`Nullable`. -/
structure IsRequired (s : Scope) (p : Parameter) : Prop where
  undeclared : p.optional = false
  direct : s.store.HoldsDirectly p.type
  notNullable : p.type.name ≠ nullableType

theorem isOptional_eq_false_iff {p : Parameter} : s.isOptional p = false ↔ s.IsRequired p := by
  unfold isOptional
  constructor
  · intro required
    simp only [Bool.or_eq_false_iff, Bool.not_eq_eq_eq_not, Bool.not_false, beq_eq_false_iff_ne]
      at required
    obtain ⟨⟨undeclared, direct⟩, notNullable⟩ := required
    exact ⟨undeclared, TypeStore.isValueType_iff.mp direct, notNullable⟩
  · intro required
    simp [required.undeclared, TypeStore.isValueType_iff.mpr required.direct, required.notNullable]

/-- The placeholder that a part in the path is bound to: the last one of its name, ahead of the
route if there is one, and its constraints are those on the part. -/
inductive Fills (d : TypeDescriptor) (m : Method) (p : Part) (g : Segment) : Prop
  | controller (location : p.location = .controller) (relative : Route.isRooted (routeOf m) = false)
      (placed : lastNamed? (Route.segments (prefixOf d)) p.name = some g)
      (constraints : p.constraints = g.constraints)
  | action (location : p.location = .action) (ahead : ¬ IsPrefixName d m p.name)
      (placed : lastNamed? (Route.segments (routeOf m)) p.name = some g)
      (constraints : p.constraints = g.constraints)

theorem Binds.exists_fills {m : Method} {verb : Verb} {p : Parameter} {part : Part}
    (binds : s.Binds (prefixSegmentsFor (controllerOf d) (routeOf m)) (Route.segments (routeOf m))
      verb p part) (route : part.isRoute = true) : ∃ g, Fills d m part g := by
  have place := binds.place
  have named : part.name = p.name := congrArg Parameter.name binds.parameter
  have ahead := @isPrefixName_iff d m part.name
  unfold placeOf at place
  rw [← named] at place
  cases found : lastNamed? (prefixSegmentsFor (controllerOf d) (routeOf m)) part.name with
  | some g =>
    simp only [found, Prod.mk.injEq] at place
    have relative : Route.isRooted (routeOf m) = false := (ahead.mpr (by simp [found])).1
    rw [prefixSegmentsFor, if_neg (by simp [relative]), segments_controllerOf] at found
    exact ⟨g, .controller place.1 relative found place.2⟩
  | none =>
    have notAhead : ¬ IsPrefixName d m part.name := mt ahead.mp (by simp [found])
    cases found' : lastNamed? (Route.segments (routeOf m)) part.name with
    | some g =>
      simp only [found, found', Prod.mk.injEq] at place
      exact ⟨g, .action place.1 notAhead found' place.2⟩
    | none =>
      simp only [found, found', Prod.mk.injEq] at place
      rcases defaultLocation_cases p verb with query | body
      · simp [Part.isRoute, place.1, query] at route
      · simp [Part.isRoute, place.1, body] at route

/-- A part in the path is bound to a placeholder and given to the constructor, by every call just
when its parameter has to be given. -/
structure IsAskedFor (s : Scope) (d : TypeDescriptor) (m : Method) (e : Entry) (p : Part) :
    Prop where
  placeholder : ∃ g, Fills d m p g
  constructed : p ∈ e.constructorParts
  required : p.optional = false ↔ s.IsRequired p.parameter
  given : e.AlwaysGives p ↔ s.IsRequired p.parameter

/-- Whether calls give a part in the path depends on its parameter, not on its placeholder. -/
theorem routePart_isAskedFor {c : Controller} (ok : (s.bindController d).result = .ok c) :
    ∀ a ∈ c.actions, ∀ e ∈ a.entries, ∀ p ∈ e.routeParts, s.IsAskedFor d a.method e p := by
  intro a action e entry p inPath
  obtain ⟨member, route⟩ := List.mem_filter.mp inPath
  obtain ⟨verb, parameter, binds⟩ := exists_binds_of_part ok action entry member
  have notInBody : p.location ≠ .body := by
    intro body
    simp [Part.isRoute, body] at route
  have constructed : p ∈ e.constructorParts := (e.divides.constructed p member).mpr notInBody
  have required : p.optional = false ↔ s.IsRequired p.parameter := by
    rw [binds.optional, ← binds.parameter]
    exact isOptional_eq_false_iff
  constructor
  case placeholder => exact binds.exists_fills route
  case constructed => exact constructed
  case required => exact required
  case given => exact (Entry.alwaysGives_iff constructed).trans required

end Scope

/-! A route of two placeholders, of which calls may leave out the first. -/

namespace Sample

def getWord : Method :=
  ⟨"GetWord", true, false, false, false,
    [⟨"text", .plain "System.String", false, []⟩, ⟨"page", .plain "System.Int32", false, []⟩],
    [⟨"Route", [.text "{text}/{page}"]⟩]⟩

def words : TypeDescriptor :=
  { classOf "Acme.WordController" (some (.plain TypeStore.apiController)) [] with
    attributes := [⟨"RoutePrefix", [.text "words"]⟩]
    methods := [getWord] }

theorem routePart_isAskedFor_words :
    ∃ c, (mirrored.bindController words).result = .ok c
      ∧ c.entries.map (fun e => partNames e.routeParts) = [["text", "page"]]
      ∧ c.entries.map (fun e => partNames e.constructorParts) = [["page", "text"]]
      ∧ ∀ a ∈ c.actions, ∀ e ∈ a.entries, ∀ p ∈ e.routeParts,
        mirrored.IsAskedFor words a.method e p := by
  have computed : (mirrored.bindController words).result.toOption.map
      (fun c => (c.entries.map (fun e => partNames e.routeParts),
        c.entries.map fun e => partNames e.constructorParts))
      = some ([["text", "page"]], [["page", "text"]]) := by decide +kernel
  obtain ⟨c, ok, names⟩ := exists_ok_of_map_toOption computed
  obtain ⟨inPath, constructed⟩ := Prod.mk.inj names
  exact ⟨c, ok, inPath, constructed, Scope.routePart_isAskedFor ok⟩

/-- A mandatory placeholder, filled by a part that a call may leave out. -/
theorem exists_mandatory_not_alwaysGiven :
    ∃ c, (mirrored.bindController words).result = .ok c
      ∧ ∃ a ∈ c.actions, ∃ e ∈ a.entries, e.unbound = [] ∧ ∃ p ∈ e.routeParts,
        ∃ g, Scope.Fills words a.method p g ∧ g.optional = false
          ∧ p.optional = true ∧ ¬ e.AlwaysGives p := by
  have computed : (mirrored.bindController words).result.toOption.map
      (fun c => c.actions.any fun a => Scope.routeOf a.method == "{text}/{page}"
        && a.entries.any fun e => e.unbound == [] && e.routeParts.any fun p =>
          p.name == "text" && p.location == .action && p.constraints == [] && p.optional)
      = some true := by decide +kernel
  obtain ⟨c, ok, found⟩ := exists_ok_of_map_toOption computed
  simp only [List.any_eq_true, Bool.and_eq_true, beq_iff_eq] at found
  obtain ⟨a, action, route, e, entry, complete, p, part, ⟨⟨name, place⟩, constraints⟩, free⟩ :=
    found
  have notAhead : "text" ∉ (Route.segments (Scope.prefixOf words)).map Segment.name := by
    decide +kernel
  have placed : lastNamed? (Route.segments "{text}/{page}") "text" = some ⟨"text", [], false⟩ := by
    decide +kernel
  have fills : Scope.Fills words a.method p ⟨"text", [], false⟩ := by
    refine .action place ?_ ?_ constraints
    · rw [name]
      exact fun ahead => notAhead ahead.2
    · rw [route, name]
      exact placed
  have constructed : p ∈ e.constructorParts :=
    (e.divides.constructed p (List.mem_filter.mp part).1).mpr (by simp [place])
  refine ⟨c, ok, a, action, e, entry, complete, p, part, _, fills, rfl, free, fun always => ?_⟩
  simp [(Entry.alwaysGives_iff constructed).mp always] at free

end Sample

end ApiClient
