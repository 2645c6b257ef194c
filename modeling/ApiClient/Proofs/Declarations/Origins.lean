import ApiClient.Proofs.Declarations.Names
import ApiClient.Proofs.Resolution.Closed

/-!
Where declared interfaces come from.

The rule for classes takes a reference only when what its wrappers leave holds neither arguments
nor an element; a base type is looked up by its open name, whatever it holds. Main statement: each
declared interface was given itself, or the reference of an addition or of a field leads to it
under that restriction, or it is the base of a declared class; and the restriction holds on all
ways just when no declared class extends a class of the store with arguments or as an array.
-/

set_option autoImplicit false

namespace ApiClient

namespace Scope

/-- The restriction of the rule for classes: the wrappers of a reference leave the name of a type
without arguments and without an element. -/
def NamesPlainly (s : Scope) (r : TypeRef) (d : TypeDescriptor) : Prop :=
  ∃ core, r.IsCore core ∧ core.isGeneric = false ∧ core.isArray = false
    ∧ s.store.find? core.name = some d

variable {s : Scope} {r : TypeRef} {parameter : Option Parameter} {constraints : List String}
  {d : TypeDescriptor}

/-- Only the rule for classes and interfaces requests an interface. -/
theorem namesPlainly_of_resolve? {res : Resolution} {name : String}
    (resolved : s.resolve? r parameter constraints = some res)
    (asked : .interface name ∈ res.requests) (found : s.store.find? name = some d) :
    s.NamesPlainly r d := by
  cases rule_of_resolve? resolved with
  | forced m matched => cases asked
  | enum d' unforced found' isEnum =>
    unfold ofEnum at asked
    split at asked
    · simp at asked
    · cases asked
  | primitive written unforced noEnum known => cases asked
  | object d' unforced unknown found' object notGeneric notArray =>
    unfold ofObject at asked
    split at asked
    · simp only [List.mem_singleton, Request.interface.injEq] at asked
      rw [asked, TypeStore.find?_fullName found'] at found
      obtain rfl := Option.some.inj found
      exact ⟨r.core, TypeRef.isCore_iff.mpr rfl, notGeneric, notArray, found'⟩
    · cases asked

theorem namesPlainly_of_field {f : Field} {name : String}
    (asked : .interface name ∈ (s.fieldResolution f).requests)
    (found : s.store.find? name = some d) : s.NamesPlainly f.type d := by
  unfold fieldResolution at asked
  cases resolved : s.resolve? f.type none [] with
  | some res =>
    rw [resolved] at asked
    exact namesPlainly_of_resolve? resolved asked found
  | none =>
    rw [resolved] at asked
    cases asked

/-- A reference without arguments and element is what its wrappers leave, there being none. -/
theorem namesPlainly_of_plain (notGeneric : r.isGeneric = false) (notArray : r.isArray = false)
    (found : s.store.find? r.name = some d) : s.NamesPlainly r d := by
  obtain ⟨name, arguments, element, flag⟩ := r
  obtain rfl : arguments = [] := by simpa [TypeRef.isGeneric] using notGeneric
  obtain rfl : element = none := by simpa [TypeRef.isArray] using notArray
  exact ⟨_, TypeRef.isCore_iff.mpr rfl, notGeneric, notArray, found⟩

end Scope

/-- What is added: a type itself, or what resolving a reference requests. -/
inductive Supply
  | enum (d : TypeDescriptor)
  | interface (d : TypeDescriptor)
  | reference (r : TypeRef) (parameter : Option Parameter) (constraints : List String)
      (fallback : Option String)

namespace Supply

/-- The addition that is made; a reference that is refused requests nothing. -/
def addition (s : Scope) : Supply → Declarations.Addition
  | enum d => .enum d
  | interface d => .interface d
  | reference r parameter constraints fallback =>
    .requests ((s.resolve r parameter constraints fallback).toOption.elim [] Resolution.requests)

end Supply

namespace Declarations

variable {s : Scope} {supplies : List Supply}

/-- Add types and references in order, from nothing declared on. -/
def supplied (s : Scope) (supplies : List Supply) : Declarations :=
  run s (supplies.map (Supply.addition s))

/-- How a declared class leads to a type: by a field, or as its base by the open name alone. -/
inductive Leads (s : Scope) (d d' : TypeDescriptor) : Prop
  | field {f : Field} (field : f ∈ d.fields) (plain : s.NamesPlainly f.type d')
  | base {r : TypeRef} (base : d.baseType = some r) (found : s.store.find? r.name = some d')
      (kind : d'.kind = .classType)

/-- A type comes in itself, by a reference, or from a class that is declared. -/
inductive Origin (s : Scope) (supplies : List Supply) (t : Declarations) (d : TypeDescriptor) : Prop
  | given (member : .interface d ∈ supplies)
  | reference {r : TypeRef} {parameter : Option Parameter} {constraints : List String}
      {fallback : Option String} (member : .reference r parameter constraints fallback ∈ supplies)
      (plain : s.NamesPlainly r d)
  | declared {e : InterfaceEntry} (member : e ∈ t.interfaces) (leads : Leads s e.descriptor d)

/-- Declared interfaces stand for classes that have an origin, as those requested have. -/
structure Traces (s : Scope) (supplies : List Supply) (requests : List Request)
    (t : Declarations) : Prop where
  stands : ∀ e ∈ t.interfaces, e = s.interfaceOf e.descriptor
  declared : ∀ e ∈ t.interfaces, Origin s supplies t e.descriptor
  requested : ∀ name, .interface name ∈ requests → ∀ d, s.store.find? name = some d →
    Origin s supplies t d

theorem Origin.mono {t t' : Declarations} {d : TypeDescriptor}
    (kept : ∀ e ∈ t.interfaces, e ∈ t'.interfaces) (origin : Origin s supplies t d) :
    Origin s supplies t' d := by
  cases origin with
  | given member => exact .given member
  | reference member plain => exact .reference member plain
  | declared member leads => exact .declared (kept _ member) leads

/-- A class leads to the interfaces that it requests. -/
theorem leads_of_mem_requestsOf {d d' : TypeDescriptor} {name : String}
    (asked : .interface name ∈ s.requestsOf d) (found : s.store.find? name = some d') :
    Leads s d d' := by
  rcases Scope.mem_requestsOf.mp asked with ⟨b, base, same⟩ | ⟨f, field, asked⟩
  · obtain ⟨r, baseType, found', kind⟩ := Scope.baseClass?_eq_some_iff.mp base
    rw [Request.interface.inj same, TypeStore.find?_fullName found'] at found
    obtain rfl := Option.some.inj found
    exact .base baseType found' kind
  · exact .field field (Scope.namesPlainly_of_field asked found)

/-- A class that has an origin is the origin of all that it requests. -/
theorem Traces.push {requests : List Request} {t : Declarations} {d : TypeDescriptor}
    (traces : Traces s supplies requests t) (origin : Origin s supplies t d) :
    Traces s supplies (s.requestsOf d ++ requests) (t.push (s.interfaceOf d)) := by
  have kept : ∀ e ∈ t.interfaces, e ∈ (t.push (s.interfaceOf d)).interfaces :=
    fun e member => List.mem_append_left _ member
  have own : s.interfaceOf d ∈ (t.push (s.interfaceOf d)).interfaces :=
    List.mem_append_right _ (List.mem_singleton_self _)
  constructor
  case stands =>
    intro e member
    rcases List.mem_append.mp member with old | new
    · exact traces.stands e old
    · obtain rfl := List.mem_singleton.mp new
      rfl
  case declared =>
    intro e member
    rcases List.mem_append.mp member with old | new
    · exact (traces.declared e old).mono kept
    · obtain rfl := List.mem_singleton.mp new
      exact origin.mono kept
  case requested =>
    intro name asked d' found
    rcases List.mem_append.mp asked with fresh | later
    · exact .declared own (leads_of_mem_requestsOf fresh found)
    · exact (traces.requested name later d' found).mono kept

theorem Traces.addEnum {requests : List Request} {t : Declarations}
    (traces : Traces s supplies requests t) (d : TypeDescriptor) :
    Traces s supplies requests (t.addEnum d) := by
  have same : (t.addEnum d).interfaces = t.interfaces := by
    unfold Declarations.addEnum
    split <;> rfl
  have kept : ∀ e ∈ t.interfaces, e ∈ (t.addEnum d).interfaces := fun e member => same ▸ member
  constructor
  · exact fun e member => traces.stands e (same ▸ member)
  · exact fun e member => (traces.declared e (same ▸ member)).mono kept
  · exact fun name asked d' found => (traces.requested name asked d' found).mono kept

theorem Traces.tail {q : Request} {requests : List Request} {t : Declarations}
    (traces : Traces s supplies (q :: requests) t) : Traces s supplies requests t :=
  { traces with
    requested := fun name asked => traces.requested name (List.mem_cons_of_mem _ asked) }

theorem FollowStep.traces {requests requests' : List Request} {t t' : Declarations}
    (step : FollowStep s requests t requests' t') (traces : Traces s supplies requests t) :
    Traces s supplies requests' t' := by
  cases step with
  | absent found => exact traces.tail
  | enum found => exact traces.tail.addEnum _
  | known found known => exact traces.tail
  | fresh found fresh => exact traces.tail.push (traces.requested _ List.mem_cons_self _ found)

theorem Traces.follow {requests : List Request} {t : Declarations}
    (traces : Traces s supplies requests t) : Traces s supplies [] (follow s requests t) :=
  follow_invariant (fun _ _ _ _ step => step.traces) traces

theorem Traces.addInterface {t : Declarations} (traces : Traces s supplies [] t)
    {d : TypeDescriptor} (member : .interface d ∈ supplies) :
    Traces s supplies [] (t.addInterface s d) := by
  unfold Declarations.addInterface
  split
  · exact traces
  · have pushed := traces.push (.given member)
    rw [List.append_nil] at pushed
    exact pushed.follow

/-- The interface that resolving a reference requests is one that it names plainly. -/
theorem Traces.reference {t : Declarations} (traces : Traces s supplies [] t) {r : TypeRef}
    {parameter : Option Parameter} {constraints : List String} {fallback : Option String}
    (member : .reference r parameter constraints fallback ∈ supplies) {res : Resolution}
    (resolved : s.resolve r parameter constraints fallback = .ok res) :
    Traces s supplies res.requests t := by
  refine ⟨traces.stands, traces.declared, fun name asked d found => ?_⟩
  rcases Scope.resolve_eq_ok_iff.mp resolved with ruled | ⟨-, written, -, rfl⟩
  · exact .reference member (Scope.namesPlainly_of_resolve? ruled asked found)
  · cases asked

theorem Traces.add {t : Declarations} (traces : Traces s supplies [] t) {supply : Supply}
    (member : supply ∈ supplies) : Traces s supplies [] (add s t (supply.addition s)) := by
  cases supply with
  | enum d => exact traces.addEnum d
  | interface d => exact traces.addInterface member
  | reference r parameter constraints fallback =>
    change Traces s supplies [] (Declarations.follow s _ t)
    cases resolved : s.resolve r parameter constraints fallback with
    | ok res => exact (traces.reference member resolved).follow
    | error refusal =>
      change Traces s supplies [] (Declarations.follow s [] t)
      exact traces.follow

theorem traces_supplied (s : Scope) (supplies : List Supply) :
    Traces s supplies [] (supplied s supplies) := by
  have kept : ∀ later : List Supply, (∀ supply ∈ later, supply ∈ supplies) →
      ∀ t, Traces s supplies [] t →
        Traces s supplies [] ((later.map (Supply.addition s)).foldl (Declarations.add s) t) := by
    intro later
    induction later with
    | nil => exact fun _ _ traces => traces
    | cons supply later ih =>
      intro among t traces
      have first := among supply List.mem_cons_self
      exact ih (fun other rest => among other (List.mem_cons_of_mem _ rest)) _ (traces.add first)
  have start : Traces s supplies [] empty := by
    constructor
    · exact fun e member => (by cases member)
    · exact fun e member => (by cases member)
    · exact fun name asked => (by cases asked)
  exact kept supplies (fun _ member => member) empty start

/-- The references that types are reached by: those added, and those of declared classes. -/
inductive IsSource (supplies : List Supply) (t : Declarations) : TypeRef → Prop
  | supplied {r : TypeRef} {parameter : Option Parameter} {constraints : List String}
      {fallback : Option String} (member : .reference r parameter constraints fallback ∈ supplies) :
      IsSource supplies t r
  | field {e : InterfaceEntry} {f : Field} (declared : e ∈ t.interfaces)
      (field : f ∈ e.descriptor.fields) : IsSource supplies t f.type
  | base {e : InterfaceEntry} {r : TypeRef} (declared : e ∈ t.interfaces)
      (base : e.descriptor.baseType = some r) : IsSource supplies t r

/--
The restriction of the rule for classes holds on all ways: interfaces that were not given
themselves are named plainly by a reference, and what is extended is named so as a base.
-/
structure IsRestricted (s : Scope) (supplies : List Supply) (t : Declarations) : Prop where
  reached : ∀ e ∈ t.interfaces, .interface e.descriptor ∉ supplies →
    ∃ r, IsSource supplies t r ∧ s.NamesPlainly r e.descriptor
  extended : ∀ e ∈ t.interfaces, ∀ name, e.base = some name →
    ∃ r, e.descriptor.baseType = some r ∧ r.isGeneric = false ∧ r.isArray = false

theorem base_interfaceOf {d : TypeDescriptor} {name : String} :
    (s.interfaceOf d).base = some name
      ↔ ∃ r b, d.baseType = some r ∧ s.store.find? r.name = some b ∧ b.kind = .classType
        ∧ b.name = name := by
  unfold Scope.interfaceOf
  rw [Option.map_eq_some_iff]
  constructor
  · rintro ⟨b, base, named⟩
    obtain ⟨r, baseType, found, kind⟩ := Scope.baseClass?_eq_some_iff.mp base
    exact ⟨r, b, baseType, found, kind, named⟩
  · rintro ⟨r, b, baseType, found, kind, named⟩
    exact ⟨b, Scope.baseClass?_eq_some_iff.mpr ⟨r, baseType, found, kind⟩, named⟩

/-- Without arguments and arrays among the bases, every origin is one under the restriction. -/
theorem isRestricted_of_plain {t : Declarations} (traces : Traces s supplies [] t)
    (plain : ∀ e ∈ t.interfaces, ∀ r b, e.descriptor.baseType = some r →
      s.store.find? r.name = some b → b.kind = .classType →
        r.isGeneric = false ∧ r.isArray = false) : IsRestricted s supplies t := by
  constructor
  case reached =>
    intro e member notGiven
    cases traces.declared e member with
    | given given => exact absurd given notGiven
    | reference added named => exact ⟨_, .supplied added, named⟩
    | declared declared leads =>
      cases leads with
      | field field named => exact ⟨_, .field declared field, named⟩
      | base base found kind =>
        obtain ⟨notGeneric, notArray⟩ := plain _ declared _ _ base found kind
        exact ⟨_, .base declared base, Scope.namesPlainly_of_plain notGeneric notArray found⟩
  case extended =>
    intro e member name extended
    rw [traces.stands e member] at extended
    obtain ⟨r, b, base, found, kind, -⟩ := base_interfaceOf.mp extended
    exact ⟨r, base, plain e member r b base found kind⟩

/--
Whatever is added, each declared interface has an origin and extends the class of the store that
its base type names openly; and the restriction of the rule for classes holds on all ways just when
no declared class has a base with arguments, or as an array, that the store has a class for.
-/
theorem supplied_isRestricted_iff (s : Scope) (supplies : List Supply) :
    (∀ e ∈ (supplied s supplies).interfaces,
      Origin s supplies (supplied s supplies) e.descriptor)
    ∧ (∀ e ∈ (supplied s supplies).interfaces, ∀ name, e.base = some name
      ↔ ∃ r b, e.descriptor.baseType = some r ∧ s.store.find? r.name = some b
        ∧ b.kind = .classType ∧ b.name = name)
    ∧ (IsRestricted s supplies (supplied s supplies)
      ↔ ∀ e ∈ (supplied s supplies).interfaces, ∀ r b, e.descriptor.baseType = some r →
        s.store.find? r.name = some b → b.kind = .classType →
          r.isGeneric = false ∧ r.isArray = false) := by
  have traces := traces_supplied s supplies
  have extends_iff : ∀ e ∈ (supplied s supplies).interfaces, ∀ name, e.base = some name
      ↔ ∃ r b, e.descriptor.baseType = some r ∧ s.store.find? r.name = some b
        ∧ b.kind = .classType ∧ b.name = name := by
    intro e member name
    have stands := congrArg InterfaceEntry.base (traces.stands e member)
    rw [stands]
    exact base_interfaceOf
  refine ⟨traces.declared, extends_iff, ?_, isRestricted_of_plain traces⟩
  intro restricted e member r b base found kind
  have extended := (extends_iff e member b.name).mpr ⟨r, b, base, found, kind, rfl⟩
  obtain ⟨r', base', plain⟩ := restricted.extended e member b.name extended
  rw [base] at base'
  exact Option.some.inj base' ▸ plain

end Declarations

/-! A class whose base has an argument, in a store with a class of the open name. -/

namespace Sample

def page : TypeDescriptor := classOf "Acme.Page`1" none []

def nodePage : TypeDescriptor :=
  classOf "Acme.NodePage" (some (.generic "Acme.Page`1" [.plain "Acme.Node"])) []

def pages : Scope := ⟨⟨[nodePage, page], []⟩, settings true "Endpoints"⟩

theorem interfaces_pages :
    (Declarations.supplied pages [.interface nodePage]).interfaces
      = [pages.interfaceOf nodePage, pages.interfaceOf page] := by
  have found : pages.store.find? "Acme.Page`1" = some page := by cbv
  have asked : pages.requestsOf nodePage = [.interface "Acme.Page`1"] := by cbv
  have silent : pages.requestsOf page = [] := by cbv
  have fresh : (Declarations.empty.push (pages.interfaceOf nodePage)).hasInterface page.fullName
      = false := by decide +kernel
  change (Declarations.addInterface pages nodePage .empty).interfaces = _
  rw [Declarations.addInterface, if_neg (by decide), asked, Declarations.follow_interface found,
    if_neg (by simp [fresh]), silent, List.nil_append, Declarations.follow_nil]
  rfl

/-- No reference names the base plainly: the only one that leads to it has an argument. -/
theorem not_namesPlainly_page {r : TypeRef}
    (source : Declarations.IsSource [.interface nodePage]
      (Declarations.supplied pages [.interface nodePage]) r) : ¬ pages.NamesPlainly r page := by
  rintro ⟨core, isCore, notGeneric, -, -⟩
  cases source with
  | supplied member =>
    rcases List.mem_cons.mp member with same | member
    · cases same
    · cases member
  | field declared field =>
    rw [interfaces_pages] at declared
    simp only [List.mem_cons, List.not_mem_nil, or_false] at declared
    rcases declared with rfl | rfl
    · cases field
    · cases field
  | base declared base =>
    rw [interfaces_pages] at declared
    simp only [List.mem_cons, List.not_mem_nil, or_false] at declared
    rcases declared with rfl | rfl
    · obtain rfl := Option.some.inj base
      obtain rfl := TypeRef.isCore_iff.mp isCore
      have generic :
          (TypeRef.generic "Acme.Page`1" [.plain "Acme.Node"]).core.isGeneric = true := by
        decide +kernel
      exact absurd notGeneric (by rw [generic]; decide)
    · cases base

end Sample

namespace Declarations

/-- A class of the open name is declared and extended for a base that has an argument. -/
theorem exists_not_isRestricted :
    ∃ s supplies, ∃ e ∈ (supplied s supplies).interfaces, ∃ e' ∈ (supplied s supplies).interfaces,
      (∃ r, e.descriptor.baseType = some r ∧ r.isGeneric = true)
        ∧ e.base = some e'.descriptor.name ∧ .interface e'.descriptor ∉ supplies
        ∧ (∀ r, IsSource supplies (supplied s supplies) r → ¬ s.NamesPlainly r e'.descriptor)
        ∧ ¬ IsRestricted s supplies (supplied s supplies) := by
  have other : Supply.interface Sample.page ∉ [Supply.interface Sample.nodePage] := by
    intro member
    have same : Sample.page = Sample.nodePage :=
      Supply.interface.inj (List.mem_singleton.mp member)
    exact absurd (congrArg TypeDescriptor.fullName same) (by decide)
  have declared : Sample.pages.interfaceOf Sample.page
      ∈ (supplied Sample.pages [.interface Sample.nodePage]).interfaces := by
    rw [Sample.interfaces_pages]
    exact List.mem_cons_of_mem _ (List.mem_singleton_self _)
  refine ⟨Sample.pages, [.interface Sample.nodePage], Sample.pages.interfaceOf Sample.nodePage, ?_,
    Sample.pages.interfaceOf Sample.page, declared, ⟨_, rfl, rfl⟩, by decide +kernel, other,
    fun r => Sample.not_namesPlainly_page, fun restricted => ?_⟩
  · rw [Sample.interfaces_pages]
    exact List.mem_cons_self
  · obtain ⟨r, source, named⟩ := restricted.reached _ declared other
    exact Sample.not_namesPlainly_page source named

end Declarations

end ApiClient
