import ApiClient.Action
import ApiClient.Route.Address

/-!
Binding the parameters of a controller's methods to the places of a request.

A parameter that a placeholder names travels in the path; any other one where its tag says, else
in the body of a verb that carries one, else in the query. Binding may be refused, and along the
way it collects the types to be declared, also those met before a refusal.
-/

set_option autoImplicit false

namespace ApiClient

/-- A result or a refusal, with the requests made until then. -/
structure Traced (α : Type) where
  requests : List Request
  result : Except Refusal α
deriving Repr

namespace Traced

/-- A result without requests. -/
def done {α : Type} (a : α) : Traced α := ⟨[], .ok a⟩

/-- A refusal. -/
def refuse {α : Type} (r : Refusal) : Traced α := ⟨[], .error r⟩

/-- Go on with a result; a refusal ends the work. -/
def andThen {α β : Type} (x : Traced α) (f : α → Traced β) : Traced β :=
  match x.result with
  | .ok a => ⟨x.requests ++ (f a).requests, (f a).result⟩
  | .error r => ⟨x.requests, .error r⟩

/-- Do the same with each item of a list, in order. -/
def each {α β : Type} (f : α → Traced β) : List α → Traced (List β)
  | [] => done []
  | a :: rest => (f a).andThen fun b => (each f rest).andThen fun bs => done (b :: bs)

@[simp] theorem result_andThen {α β : Type} (x : Traced α) (f : α → Traced β) :
    (x.andThen f).result = x.result.bind fun a => (f a).result := by
  unfold andThen Except.bind
  split <;> simp_all

end Traced

/-- The last placeholder of a name. -/
def lastNamed? (segments : List Route.Segment) (name : String) : Option Route.Segment :=
  segments.reverse.find? fun s => s.name = name

/-- Where a parameter that no placeholder names travels. -/
def defaultLocation (p : Parameter) (verb : Verb) : Location :=
  if hasTag p.attributes fromUriTag then .query
  else if hasTag p.attributes fromBodyTag then .body
  else if verb.carriesBody then .body else .query

/-- Where a parameter travels, and the constraints on it. -/
def placeOf (prefixSegments routeSegments : List Route.Segment) (verb : Verb) (p : Parameter) :
    Location × List String :=
  match lastNamed? prefixSegments p.name with
  | some s => (.controller, s.constraints)
  | none =>
    match lastNamed? routeSegments p.name with
    | some s => (.action, s.constraints)
    | none => (defaultLocation p verb, [])

/-- The number that a name gets when the name alone is taken: the least one from two on. -/
def freeNumber? (used : List String) (name : String) : Option Nat :=
  ((List.range (used.length + 1)).map (· + 2)).find? fun k => !used.contains (name ++ toString k)

/-- A name not in use: the name itself, or the name with the least free number. -/
def freshName (used : List String) (name : String) : String :=
  if used.contains name then
    match freeNumber? used name with
    | some k => name ++ toString k
    | none => name
  else name

/-- Names not in use, one for each given name, all different. -/
def freshNames : List String → List String → List String
  | _, [] => []
  | used, name :: rest => freshName used name :: freshNames (freshName used name :: used) rest

/-- The names wanted for the entries of a method: with the verb when there are several. -/
def wantedNames (m : Method) (verbs : List Verb) : List String :=
  match verbs with
  | [_] => [m.name]
  | _ => verbs.map fun v => m.name ++ v.display

namespace Scope

/-- Whether a value cannot travel where it is bound: objects have no list form in a query. -/
def isMisplaced (location : Location) (t : ResolvedType) : Bool :=
  location == .query && t.isCollection && !t.isScalar

/-- Bind one parameter. -/
def bindParameter (s : Scope) (prefixSegments routeSegments : List Route.Segment) (verb : Verb)
    (p : Parameter) : Traced Part :=
  let (location, constraints) := placeOf prefixSegments routeSegments verb p
  match s.resolve p.type (some p) constraints none with
  | .error r => .refuse r
  | .ok resolution =>
    if isMisplaced location resolution.resolved then
      .refuse (.unsupportedType p.type.fullName (some p.name) .collectionInQuery)
    else
      { requests := resolution.requests
        result := .ok
          { parameter := p
            location := location
            resolved := resolution.resolved
            optional := s.isOptional p
            constraints := constraints } }

/-- The placeholders that no part fills. -/
def unboundNames (segments : List Route.Segment) (parts : List Part) : List String :=
  (segments.map Route.Segment.name).filter fun name => !(parts.map Part.name).contains name

/-- The route of a method. -/
def routeOf (m : Method) : String := (tagText? m.attributes routeTag).getD ""

/-- The placeholders of a controller that count for a route. -/
def prefixSegmentsFor (c : Controller) (route : String) : List Route.Segment :=
  if Route.isRooted route then [] else c.segments

/-- Bind a method under one verb. -/
def bindEntry (s : Scope) (c : Controller) (m : Method) (verb : Verb) (name : String) :
    Traced Entry :=
  let route := routeOf m
  let prefixSegments := prefixSegmentsFor c route
  let routeSegments := Route.segments route
  (Traced.each (s.bindParameter prefixSegments routeSegments verb) m.parameters).andThen
    fun parts => .done
      { controllerName := c.name
        actionName := m.name
        name := name
        verb := verb
        address := Route.render (Route.join c.baseEndpoint route)
        parts := parts
        unbound := unboundNames (prefixSegments ++ routeSegments) parts }

/-- Bind a method under each of its verbs, with names that are not in use. -/
def bindAction (s : Scope) (c : Controller) (used : List String) (m : Method) : Traced Action :=
  match m.areVerbsWritable, m.verbs, isTagWritable m.attributes routeTag with
  | false, _, _ => .refuse .unwritable
  | true, [], _ => .refuse (.missingVerb c.name m.name)
  | true, _, false => .refuse .unwritable
  | true, verbs, true =>
    let names := freshNames used (wantedNames m verbs)
    (Traced.each (fun (verb, name) => s.bindEntry c m verb name) (verbs.zip names)).andThen
      fun entries => .done ⟨m, verbs, routeOf m, entries⟩

/-- Bind methods in order, each with the names before it in use. -/
def bindActions (s : Scope) (c : Controller) : List String → List Method → Traced (List Action)
  | _, [] => .done []
  | used, m :: rest =>
    (s.bindAction c used m).andThen fun action =>
      (bindActions s c (action.entries.map Entry.name ++ used) rest).andThen fun others =>
        .done (action :: others)

/-- A controller before its methods are bound: its name, address and placeholders. -/
def controllerOf (d : TypeDescriptor) : Controller :=
  let name := Text.withoutEnding TypeStore.controllerEnding d.name
  let address := (tagText? d.attributes routePrefixTag).getD ("api/" ++ name)
  { name := name
    fullName := d.fullName
    baseEndpoint := Route.join "" address
    segments := Route.segments address
    actions := [] }

/-- Bind the actions of a controller. -/
def bindController (s : Scope) (d : TypeDescriptor) : Traced Controller :=
  if isTagWritable d.attributes routePrefixTag then
    let c := controllerOf d
    (s.bindActions c [] (d.methods.filter Method.isAction)).andThen fun actions =>
      .done { c with actions := actions }
  else .refuse .unwritable

end Scope

end ApiClient
