import ApiClient.Proofs.Binding.Partition
import ApiClient.Proofs.Document.Pairing

/-!
The member of an endpoint that writes its query.

A class has the member just when its entry has parts in the query. Main statement: the member holds
one guarded block for each of them, in the order of the parameters, and the block writes a value in
the form that suits what the type of the part resolves to. Values of a collection are never written
as objects.
-/

set_option autoImplicit false

namespace ApiClient

namespace ResolvedType

theorem isScalar_iff {t : ResolvedType} :
    t.isScalar = true ↔ t.isPrimitive = true ∨ t.isEnum = true := by simp [isScalar]

theorem isScalar_eq_false_iff {t : ResolvedType} :
    t.isScalar = false ↔ t.isPrimitive = false ∧ t.isEnum = false := by simp [isScalar]

end ResolvedType

namespace Scope

open ResolvedType (isScalar_eq_false_iff)

variable {s : Scope} {r : TypeRef} {parameter : Option Parameter} {constraints : List String}
  {res : Resolution}

theorem startsWith_haveQueryParams (name : String) :
    Text.startsWith (name ++ ".") haveQueryParams = false := by
  have noDot : '.' ∉ haveQueryParams.toList := by decide
  refine Bool.eq_false_iff.mpr fun starts => noDot ?_
  have front : (name ++ ".").toList <+: haveQueryParams.toList :=
    List.isPrefixOf_iff_prefix.mp starts
  exact front.subset (by simp)

/-- A type is declared as an interface just when it is no scalar, comes from no forced type, and is
named in the namespace of the interfaces. -/
theorem Rule.requested_iff (rule : s.Rule r parameter constraints res) :
    (∃ name, .interface name ∈ res.requests) ↔ res.resolved.isScalar = false
      ∧ res.resolved.mapping.isNone = true
      ∧ Text.startsWith (s.settings.interfaces.namespaceName ++ ".") res.resolved.typeName
        = true := by
  cases rule with
  | forced m matched => simp [ofMapping]
  | enum d unforced found isEnum =>
    unfold ofEnum
    split
    · simp [isScalar_eq_false_iff]
    · simp [isScalar_eq_false_iff]
  | primitive name unforced noEnum known => simp [isScalar_eq_false_iff]
  | object d unforced unknown found object notGeneric notArray =>
    unfold ofObject
    split
    · simp [isScalar_eq_false_iff, Text.startsWith]
    · simp [isScalar_eq_false_iff, startsWith_haveQueryParams]

end Scope

namespace Document

open Code
open ResolvedType (isScalar_iff isScalar_eq_false_iff)

theorem joined_ne_single (name : String) : queryBody .joined name ≠ queryBody .single name := by
  intro same
  simp only [queryBody, List.cons.injEq, statement.injEq, String.append_assoc,
    String.append_right_inj, and_true] at same
  -- both stand behind the same text, and the second one goes on with a call
  have texts := congrArg String.toList same
  simp at texts

theorem queryBody_injective (name : String) :
    Function.Injective fun form => queryBody form name := by
  intro form other same
  cases form <;> cases other
  case joined.single => exact absurd same (joined_ne_single name)
  case single.joined => exact absurd same.symm (joined_ne_single name)
  all_goals simp_all [queryBody]

/-- The form in which values of a resolution are written into a query. -/
inductive Suits (res : Resolution) : QueryForm → Prop
  | joined (scalar : res.resolved.isPrimitive = true ∨ res.resolved.isEnum = true)
      (items : res.resolved.isCollection = true) : Suits res .joined
  | single (scalar : res.resolved.isPrimitive = true ∨ res.resolved.isEnum = true)
      (one : res.resolved.isCollection = false) : Suits res .single
  | ownKeys (name : String) (requested : .interface name ∈ res.requests) : Suits res .ownKeys
  | queryParams (noPrimitive : res.resolved.isPrimitive = false)
      (noEnum : res.resolved.isEnum = false)
      (unrequested : ∀ name, .interface name ∉ res.requests) : Suits res .queryParams

variable {s : Scope} {p : Part} {r : TypeRef} {parameter : Option Parameter}
  {constraints : List String} {res : Resolution} {form : QueryForm}

/-- The form of a part, chosen by the name of its type, is the one that its resolution asks for. -/
theorem queryFormOf_eq_iff_suits (rule : s.Rule r parameter constraints res)
    (same : res.resolved = p.resolved) : queryFormOf s.settings p = form ↔ Suits res form := by
  have requested := rule.requested_iff
  rw [← Bool.and_eq_true] at requested
  unfold queryFormOf
  rw [← same]
  constructor
  · rintro rfl
    split_ifs with scalar items named
    · exact .joined (isScalar_iff.mp scalar) items
    · exact .single (isScalar_iff.mp scalar) (by simpa using items)
    · obtain ⟨name, asked⟩ := requested.mpr ⟨by simpa using scalar, named⟩
      exact .ownKeys name asked
    · obtain ⟨noPrimitive, noEnum⟩ := isScalar_eq_false_iff.mp (Bool.eq_false_iff.mpr scalar)
      exact .queryParams noPrimitive noEnum fun name asked =>
        named (requested.mp ⟨name, asked⟩).2
  · intro suits
    cases suits with
    | joined scalar items => rw [if_pos (isScalar_iff.mpr scalar), if_pos items]
    | single scalar one => rw [if_pos (isScalar_iff.mpr scalar), if_neg (by simp [one])]
    | ownKeys name asked =>
      obtain ⟨noScalar, named⟩ := requested.mp ⟨name, asked⟩
      rw [if_neg (by simp [noScalar]), if_pos named]
    | queryParams noPrimitive noEnum unrequested =>
      have noScalar := isScalar_eq_false_iff.mpr ⟨noPrimitive, noEnum⟩
      rw [if_neg (by simp [noScalar]), if_neg]
      intro named
      obtain ⟨name, asked⟩ := requested.mpr ⟨noScalar, named⟩
      exact unrequested name asked

/-- Objects that declare no interface are given by a forced type, or have to write themselves. -/
theorem writesItself_of_suits (rule : s.Rule r parameter constraints res)
    (suits : Suits res .queryParams) :
    (res.resolved.typeName = haveQueryParams ∧ res.resolved.mapping = none)
      ∨ ∃ m ∈ s.settings.typeMappings,
        res.resolved.mapping = some m ∧ res.resolved.typeName = m.targetName := by
  cases suits with
  | queryParams noPrimitive noEnum unrequested =>
    cases rule with
    | forced m matched => exact .inr ⟨m, List.mem_of_find?_eq_some matched, rfl, rfl⟩
    | enum d unforced found isEnum =>
      unfold Scope.ofEnum at noEnum
      split at noEnum
      · cases noEnum
      · cases noEnum
    | primitive name unforced others known => cases noPrimitive
    | object d unforced unknown found object notGeneric notArray =>
      unfold Scope.ofObject at unrequested ⊢
      split at unrequested
      · exact absurd (List.mem_singleton.mpr rfl) (unrequested d.fullName)
      · next off =>
        rw [if_neg off]
        exact .inl ⟨rfl, rfl⟩

/-- The block that writes a part into a query, by what the type of the part resolves to. -/
structure WritesPart (s : Scope) (p : Part) (res : Resolution) (guard : Code) : Prop where
  resolves : s.resolve p.parameter.type (some p.parameter) p.constraints none = .ok res
  resolved : res.resolved = p.resolved
  frame : guard.frame? = some ⟨"if (this." ++ p.name ++ " != null)", false, ""⟩
  covered : ∃ form, Suits res form
  code : ∀ form, guard.children = queryBody form p.name ↔ Suits res form
  whole : Suits res .ownKeys ∨ Suits res .queryParams → res.resolved.isCollection = false
  itself : Suits res .queryParams →
    (res.resolved.typeName = haveQueryParams ∧ res.resolved.mapping = none)
      ∨ ∃ m ∈ s.settings.typeMappings,
        res.resolved.mapping = some m ∧ res.resolved.typeName = m.targetName

def queryFrame : Frame := ⟨"private getQueryString = (): string =>", false, ""⟩

/-- The members of a class that write a query. -/
def queryMembers (made : Code) : List Code :=
  made.children.filter fun c => c.frame? == some queryFrame

/-- The class of an entry writes the parts in the query, one block each, or has no member for it. -/
structure WritesQuery (s : Scope) (m : Method) (e : Entry) (made : Code) : Prop where
  parameters : e.parts.map Part.parameter = m.parameters
  parts : e.queryParts = e.parts.filter fun p => p.location = .query
  absent : e.queryParts = [] → queryMembers made = []
  blocks : e.queryParts ≠ [] → ∃ guards,
    queryMembers made = [.block queryFrame (.statement "var parameters: string[] = [];" :: (guards
      ++ [plain "if (parameters.length > 0)" [.statement "return '?' + parameters.join('&');"],
        .statement "return '';"]))]
    ∧ List.Forall₂ (fun p guard => ∃ res, WritesPart s p res guard) e.queryParts guards

theorem constructorText_ne (parameters : List TypedName) :
    (⟨constructorText parameters, false, ""⟩ : Frame) ≠ queryFrame := by
  intro same
  have starts := isConstructor_constructorText parameters
  rw [same] at starts
  exact absurd starts (by decide)

theorem queryMembers_entryClass (settings : Settings) (e : Entry) :
    queryMembers (entryClass settings e) = queryStringBlock settings e := by
  have noConstructor : (constructorBlock e).filter (fun c => c.frame? == some queryFrame) = [] := by
    refine List.filter_eq_nil_iff.mpr fun c member isQuery => ?_
    have frame : c.frame? = some queryFrame := by simpa using isQuery
    have among : queryFrame ∈ (constructorBlock e).filterMap frame? :=
      List.mem_filterMap.mpr ⟨c, member, frame⟩
    rw [frames_constructorBlock] at among
    split at among
    · cases among
    · exact constructorText_ne _ (List.mem_singleton.mp among).symm
  have own : (queryStringBlock settings e).filter (fun c => c.frame? == some queryFrame)
      = queryStringBlock settings e := by
    unfold queryStringBlock
    split
    · rfl
    · rfl
  have noAddress : ((toStringBlock e).frame? == some queryFrame) = false := by
    rw [toStringBlock, frame?_plain]
    decide
  simp [queryMembers, entryClass, noConstructor, own, noAddress]

theorem writesPart_queryGuard {prefixSegments routeSegments : List Route.Segment} {verb : Verb}
    {parameter : Parameter} (binds : s.Binds prefixSegments routeSegments verb parameter p)
    (inQuery : p.location = .query) : ∃ res, WritesPart s p res (queryGuard s.settings p) := by
  obtain ⟨res, given, same⟩ := binds.resolved
  rw [← binds.parameter] at given
  have rule := Scope.rule_of_resolve? given
  have chosen : ∀ form, queryFormOf s.settings p = form ↔ Suits res form :=
    fun _ => queryFormOf_eq_iff_suits rule same
  refine ⟨res, ?_⟩
  constructor
  case resolves => exact Scope.resolve_eq_ok_iff.mpr (.inl given)
  case resolved => exact same
  case frame => rfl
  case covered => exact ⟨_, (chosen _).mp rfl⟩
  case code =>
    intro form
    rw [← chosen form]
    exact (queryBody_injective p.name).eq_iff
  case whole =>
    intro object
    have noScalar : res.resolved.isScalar = false := by
      rcases object with suits | suits
      · cases suits with
        | ownKeys name asked => exact (rule.requested_iff.mp ⟨name, asked⟩).1
      · cases suits with
        | queryParams noPrimitive noEnum => exact isScalar_eq_false_iff.mpr ⟨noPrimitive, noEnum⟩
    have placed := binds.placed
    rw [← same] at placed
    simpa [Scope.isMisplaced, inQuery, noScalar] using placed
  case itself => exact writesItself_of_suits rule

end Document

/-! A method with a value of each form in the query. -/

namespace Sample

def search : Method :=
  ⟨"GetNodes", true, false, false, false,
    [⟨"colors", .generic "System.Collections.Generic.List`1" [.plain "Acme.Color"], false, []⟩,
      ⟨"page", .plain "System.Int32", false, []⟩,
      ⟨"text", .plain "System.String", false, []⟩,
      ⟨"node", .plain "Acme.Node", false, []⟩,
      ⟨"span", .plain "Acme.Span", false, []⟩],
    [⟨"Route", [.text "{page}"]⟩]⟩

def searches : TypeDescriptor :=
  { classOf "Acme.SearchController" (some (.plain TypeStore.apiController)) [] with
    methods := [search] }

/-- The module with a forced type, of objects that write themselves. -/
def spanning : Scope :=
  scope { settings true "Endpoints" with
    typeMappings := [⟨"Acme.Span", "Spans.Span", false, false, false⟩] }

end Sample

end ApiClient
