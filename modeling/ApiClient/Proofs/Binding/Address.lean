import ApiClient.Proofs.Generation
import ApiClient.Proofs.Route.Joining

/-!
The members that the address of an entry names, against the parameters of its path.

Placeholders are read from the prefix and from the route, each for itself, while the address is
read from the joined text. Main statement: both readings agree just on the routes that are sealed
off from the prefix, and there the address of a complete entry names the parameters of its path
and no others.
-/

set_option autoImplicit false

namespace ApiClient

open Route (Segment Sealed IsClosed)

theorem defaultLocation_cases (p : Parameter) (verb : Verb) :
    defaultLocation p verb = .query ∨ defaultLocation p verb = .body := by
  unfold defaultLocation
  split
  · exact .inl rfl
  · split
    · exact .inr rfl
    · split
      · exact .inr rfl
      · exact .inl rfl

/-- A parameter travels in the path just when a placeholder has its name. -/
theorem placeOf_route_iff (prefixSegments routeSegments : List Segment) (verb : Verb)
    (p : Parameter) :
    (placeOf prefixSegments routeSegments verb p).1 = .controller
        ∨ (placeOf prefixSegments routeSegments verb p).1 = .action
      ↔ p.name ∈ (prefixSegments ++ routeSegments).map Segment.name := by
  rw [List.map_append, List.mem_append, ← lastNamed?_isSome_iff, ← lastNamed?_isSome_iff]
  unfold placeOf
  cases lastNamed? prefixSegments p.name with
  | some g => simp
  | none =>
    cases lastNamed? routeSegments p.name with
    | some g => simp
    | none =>
      rcases defaultLocation_cases p verb with query | body
      · simp [query]
      · simp [body]

namespace Scope

variable {s : Scope}

theorem Binds.isRoute_iff {prefixSegments routeSegments : List Segment} {verb : Verb}
    {p : Parameter} {part : Part} (binds : s.Binds prefixSegments routeSegments verb p part) :
    part.isRoute = true ↔ part.name ∈ (prefixSegments ++ routeSegments).map Segment.name := by
  have location : part.location = (placeOf prefixSegments routeSegments verb p).1 :=
    congrArg Prod.fst binds.place
  have named : part.name = p.name := congrArg Parameter.name binds.parameter
  rw [named, ← placeOf_route_iff prefixSegments routeSegments verb p, ← location]
  simp [Part.isRoute]

/-- The parameters in the path of a complete entry are its placeholders. -/
theorem mem_routeParts_iff {c : Controller} {m : Method} {verb : Verb} {name : String} {e : Entry}
    (ok : (s.bindEntry c m verb name).result = .ok e) (complete : e.unbound = []) (n : String) :
    n ∈ e.routeParts.map Part.name
      ↔ n ∈ (prefixSegmentsFor c (routeOf m) ++ Route.segments (routeOf m)).map Segment.name := by
  obtain ⟨parts, related, rfl, -⟩ := bindEntry_ok ok
  have route : ∀ part ∈ parts, (part.isRoute = true ↔ part.name
      ∈ (prefixSegmentsFor c (routeOf m) ++ Route.segments (routeOf m)).map Segment.name) := by
    intro part member
    obtain ⟨p, -, binds⟩ := exists_related_of_mem related member
    exact binds.isRoute_iff
  constructor
  · intro named
    obtain ⟨part, kept, rfl⟩ := List.mem_map.mp named
    obtain ⟨among, inPath⟩ := List.mem_filter.mp kept
    exact (route part among).mp inPath
  · intro member
    -- no placeholder is unbound, so a part has its name
    have filled := List.filter_eq_nil_iff.mp complete n member
    simp only [Bool.not_eq_true', List.contains_eq_mem, decide_eq_false_iff_not,
      Decidable.not_not] at filled
    obtain ⟨part, among, rfl⟩ := List.mem_map.mp filled
    exact List.mem_map_of_mem (List.mem_filter.mpr ⟨among, (route part among).mpr member⟩)

/-- The text before the routes of a controller, as its tag or its name tells it. -/
def prefixOf (d : TypeDescriptor) : String :=
  (tagText? d.attributes routePrefixTag).getD
    ("api/" ++ Text.withoutEnding TypeStore.controllerEnding d.name)

theorem segments_controllerOf (d : TypeDescriptor) :
    (controllerOf d).segments = Route.segments (prefixOf d) := rfl

theorem segments_of_bindController {d : TypeDescriptor} {c : Controller}
    (ok : (s.bindController d).result = .ok c) : c.segments = Route.segments (prefixOf d) := by
  obtain ⟨actions, rfl, -, -⟩ := bindController_ok ok
  rfl

theorem baseEndpoint_of_bindController {d : TypeDescriptor} {c : Controller}
    (ok : (s.bindController d).result = .ok c) : c.baseEndpoint = Route.join "" (prefixOf d) := by
  obtain ⟨actions, rfl, -, -⟩ := bindController_ok ok
  rfl

/-- The names of the placeholders of the joined address, in order. -/
def addressNames (c : Controller) (route : String) : List String :=
  (Route.segments (Route.join c.baseEndpoint route)).map Segment.name

/-- The names of the placeholders read from the prefix, then from the route. -/
def placeholderNames (c : Controller) (route : String) : List String :=
  (prefixSegmentsFor c route ++ Route.segments route).map Segment.name

theorem placeholderNames_eq (c : Controller) (route : String) :
    placeholderNames c route
      = (if Route.isRooted route then [] else c.segments.map Segment.name)
        ++ Route.names route.toList := by
  unfold placeholderNames prefixSegmentsFor
  rw [List.map_append, Route.map_name_segments]
  by_cases rooted : Route.isRooted route = true
  · simp [rooted]
  · simp [rooted]

/-- Both readings of the placeholders agree just on the routes that are sealed off. -/
theorem addressNames_eq_iff {d : TypeDescriptor} {c : Controller}
    (ok : (s.bindController d).result = .ok c) (route : String) :
    addressNames c route = placeholderNames c route ↔ Sealed c.baseEndpoint route := by
  have own : c.segments.map Segment.name = Route.names c.baseEndpoint.toList := by
    rw [segments_of_bindController ok, baseEndpoint_of_bindController ok,
      Route.map_name_segments, Route.names_join_empty]
  rw [placeholderNames_eq, ← Route.names_join_iff, own]
  unfold addressNames
  rw [Route.map_name_segments]

end Scope

/-! A controller with one method, which has one parameter and the route of its placeholder. -/

namespace Sample

def identifier : Parameter := ⟨"id", .plain "System.Int32", false, []⟩

def getNode : Method :=
  ⟨"GetNode", true, false, false, false, [identifier], [⟨"Route", [.text "\x7bid\x7d"]⟩]⟩

def nodes (address : String) : TypeDescriptor :=
  ⟨"Acme.NodeController", .classType, false, some (.plain TypeStore.apiController),
    [⟨"RoutePrefix", [.text address]⟩], [], [getNode], []⟩

def nodesScope (address : String) : Scope := ⟨⟨[nodes address], []⟩, settings true "Endpoints"⟩

variable {address : String}

theorem prefixOf_nodes : Scope.prefixOf (nodes address) = address := by
  have named : (tagKey "RoutePrefix" == tagKey routePrefixTag) = true := by cbv
  simp [Scope.prefixOf, tagText?, findTag?, nodes, named, Scalar.display]

def identifierPart (address : String) : Part :=
  ⟨identifier, .action, ⟨"number", true, false, false, none⟩,
    (nodesScope address).isOptional identifier, []⟩

theorem bindParameter_nodesScope :
    (nodesScope address).bindParameter [] [⟨"id", [], false⟩] .get identifier
      = ⟨[], .ok (identifierPart address)⟩ := by
  have place : placeOf [] [⟨"id", [], false⟩] .get identifier = (.action, []) := by cbv
  have unforced : (nodesScope address).findMapping? identifier.type (some identifier) [] = none :=
    rfl
  have core : identifier.type.core.name = "System.Int32" := by cbv
  have foreign : (nodesScope address).store.find? "System.Int32" = none := by
    simp [nodesScope, nodes, TypeStore.find?, TypeStore.all]
  have known : primitiveTypes.lookup identifier.type.core.fullName = some "number" := by
    decide +kernel
  have rule := Scope.Rule.primitive "number" unforced (by simp [core, foreign]) known
  have scalar : identifier.type.wrapsItems = false := by cbv
  rw [scalar] at rule
  have resolved : (nodesScope address).resolve identifier.type (some identifier) [] none = .ok _ :=
    Scope.resolve_eq_ok_iff.mpr (.inl rule.resolve?)
  simp [Scope.bindParameter, place, resolved, Scope.isMisplaced, identifierPart]

theorem segments_nodes (plain : Route.segments address = []) :
    (Scope.controllerOf (nodes address)).segments = [] := by
  rw [Scope.segments_controllerOf, prefixOf_nodes, plain]

theorem exists_bindEntry_nodes (plain : Route.segments address = []) :
    ∃ e, ((nodesScope address).bindEntry (Scope.controllerOf (nodes address)) getNode .get
        "GetNode").result = .ok e ∧ e.unbound = [] ∧ e.parts = [identifierPart address] := by
  have route : Scope.routeOf getNode = "\x7bid\x7d" := by decide +kernel
  have routeSegments : Route.segments "\x7bid\x7d" = [⟨"id", [], false⟩] := by decide +kernel
  have relative : Route.isRooted "\x7bid\x7d" = false := by decide +kernel
  have counted :
      Scope.prefixSegmentsFor (Scope.controllerOf (nodes address)) "\x7bid\x7d" = [] := by
    rw [Scope.prefixSegmentsFor, relative, segments_nodes plain]
    rfl
  have parameters : getNode.parameters = [identifier] := rfl
  unfold Scope.bindEntry
  simp only [route, routeSegments, counted, parameters, Traced.each, bindParameter_nodesScope,
    Traced.andThen, Traced.done]
  exact ⟨_, rfl, by simp [Scope.unboundNames, Part.name, identifierPart, identifier], rfl⟩

/-- The parameter is in the path under each prefix that has no placeholder. -/
theorem exists_bindController_nodes (plain : Route.segments address = []) :
    ∃ c a e, ((nodesScope address).bindController (nodes address)).result = .ok c
      ∧ a ∈ c.actions ∧ a.routeTemplate = "\x7bid\x7d" ∧ e ∈ a.entries ∧ e.unbound = []
      ∧ e.routeParts.map Part.name = ["id"] := by
  have named : (tagKey "RoutePrefix" == tagKey routePrefixTag) = true := by cbv
  have written : isTagWritable (nodes address).attributes routePrefixTag = true := by
    simp [isTagWritable, nodes, findTag?, named, Scalar.isWritable]
  have actions : (nodes address).methods.filter Method.isAction = [getNode] := by cbv
  have verbs : getNode.verbs = [.get] := by decide +kernel
  have verbsWritten : getNode.areVerbsWritable = true := by decide +kernel
  have routeWritten : isTagWritable getNode.attributes routeTag = true := by decide +kernel
  have route : Scope.routeOf getNode = "\x7bid\x7d" := by decide +kernel
  obtain ⟨e, bound, unbound, parts⟩ := exists_bindEntry_nodes plain
  obtain ⟨c, made, action⟩ := Scope.exists_bindController_of_single written actions verbs
    verbsWritten routeWritten bound
  refine ⟨c, _, e, made, by rw [action]; exact List.mem_singleton_self _, route,
    List.mem_singleton_self e, unbound, ?_⟩
  rw [Entry.routeParts, parts]
  rfl

end Sample

namespace Controller

open Scope

/--
The address of an entry names the placeholders of the prefix and of the route just when the route
is sealed off, and all routes are so just when the prefix closes what it opens.
-/
theorem addressNames_iff_sealed {s : Scope} {d : TypeDescriptor} {c : Controller}
    (ok : (s.bindController d).result = .ok c) :
    c.segments = Route.segments (prefixOf d)
      ∧ ((∀ route, Sealed c.baseEndpoint route) ↔ IsClosed (prefixOf d).toList)
      ∧ ∀ a ∈ c.actions, ∀ e ∈ a.entries,
        e.address = Route.render (Route.join c.baseEndpoint a.routeTemplate)
          ∧ (addressNames c a.routeTemplate = placeholderNames c a.routeTemplate
            ↔ Sealed c.baseEndpoint a.routeTemplate)
          ∧ (e.unbound = [] →
            (∀ n, n ∈ e.routeParts.map Part.name ↔ n ∈ placeholderNames c a.routeTemplate)
              ∧ (Sealed c.baseEndpoint a.routeTemplate →
                ∀ n, n ∈ addressNames c a.routeTemplate ↔ n ∈ e.routeParts.map Part.name)) := by
  have base := baseEndpoint_of_bindController ok
  have segments := segments_of_bindController ok
  refine ⟨segments, ?_, ?_⟩
  · rw [Route.forall_sealed_iff, base, Route.isClosed_join_empty]
  · intro a action e entry
    obtain ⟨m, verb, name, -, route, bound⟩ := exists_bindEntry ok action entry
    have agree := addressNames_eq_iff ok a.routeTemplate
    refine ⟨?_, agree, ?_⟩
    · obtain ⟨parts, -, rfl, -⟩ := bindEntry_ok bound
      rw [route, base]
      rfl
    · intro complete
      have counted : prefixSegmentsFor (controllerOf d) (routeOf m)
          = prefixSegmentsFor c (routeOf m) := by
        rw [prefixSegmentsFor, prefixSegmentsFor, segments, segments_controllerOf]
      have inPath : ∀ n, n ∈ e.routeParts.map Part.name
          ↔ n ∈ placeholderNames c a.routeTemplate := by
        intro n
        rw [mem_routeParts_iff bound complete, placeholderNames, route, counted]
      refine ⟨inPath, ?_⟩
      intro apart n
      rw [agree.mpr apart, inPath]

theorem addressNames_iff_sealed_nodes :
    ∃ c a e, ((Sample.nodesScope "nodes").bindController (Sample.nodes "nodes")).result = .ok c
      ∧ a ∈ c.actions ∧ e ∈ a.entries ∧ e.unbound = []
      ∧ ((∀ route, Sealed c.baseEndpoint route)
        ↔ IsClosed (prefixOf (Sample.nodes "nodes")).toList)
      ∧ (Sealed c.baseEndpoint a.routeTemplate → ∀ n,
        n ∈ addressNames c a.routeTemplate ↔ n ∈ e.routeParts.map Part.name) := by
  have plain : Route.segments "nodes" = [] := by cbv
  obtain ⟨c, a, e, bound, action, -, entry, unbound, -⟩ :=
    Sample.exists_bindController_nodes plain
  obtain ⟨-, closed, entries⟩ := addressNames_iff_sealed bound
  obtain ⟨-, -, named⟩ := entries a action e entry
  exact ⟨c, a, e, bound, action, entry, unbound, closed, (named unbound).2⟩

/-- Behind a prefix that leaves a brace open, a complete entry loses its parameter. -/
theorem exists_addressNames_ne :
    ∃ s d c, (Scope.bindController s d).result = .ok c ∧ ∃ a ∈ c.actions, ∃ e ∈ a.entries,
      e.unbound = [] ∧ addressNames c a.routeTemplate ≠ placeholderNames c a.routeTemplate
        ∧ e.routeParts.map Part.name = ["id"] ∧ addressNames c a.routeTemplate = [] := by
  have plain : Route.segments "nodes/\x7barea" = [] := by cbv
  obtain ⟨c, a, e, bound, action, route, entry, unbound, parts⟩ :=
    Sample.exists_bindController_nodes plain
  have base := baseEndpoint_of_bindController bound
  have segments := segments_of_bindController bound
  rw [Sample.prefixOf_nodes] at base segments
  have silent : addressNames c a.routeTemplate = [] := by
    unfold addressNames
    rw [route, base]
    decide +kernel
  have one : placeholderNames c a.routeTemplate = ["id"] := by
    unfold placeholderNames Scope.prefixSegmentsFor
    rw [route, segments]
    decide +kernel
  refine ⟨_, _, c, bound, a, action, e, entry, unbound, ?_, parts, silent⟩
  rw [silent, one]
  exact (List.cons_ne_nil "id" []).symm

end Controller

end ApiClient
