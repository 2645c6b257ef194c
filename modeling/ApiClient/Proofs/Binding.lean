import ApiClient.Binding
import ApiClient.Proofs.Resolution
import Mathlib.Data.List.Forall2

/-!
What binding gives when nothing is refused.

Each bound part keeps its parameter, its place and the resolution of its type, and the requests
made on the way are those of the parts, in order.
-/

set_option autoImplicit false

namespace ApiClient

theorem exists_related_of_mem {α β : Type} {R : α → β → Prop} {as : List α} {bs : List β}
    (related : List.Forall₂ R as bs) {b : β} (member : b ∈ bs) : ∃ a ∈ as, R a b := by
  induction related with
  | nil => cases member
  | cons first rest ih =>
    rcases List.mem_cons.mp member with rfl | later
    · exact ⟨_, List.mem_cons_self, first⟩
    · obtain ⟨a, earlier, holds⟩ := ih later
      exact ⟨a, List.mem_cons_of_mem _ earlier, holds⟩

namespace Traced

variable {α β : Type}

theorem andThen_ok {x : Traced α} {f : α → Traced β} {b : β}
    (ok : (x.andThen f).result = .ok b) :
    ∃ a, x.result = .ok a ∧ (f a).result = .ok b
      ∧ (x.andThen f).requests = x.requests ++ (f a).requests := by
  cases first : x.result with
  | error r => simp [andThen, first] at ok
  | ok a =>
    simp only [andThen, first] at ok ⊢
    exact ⟨a, rfl, ok, rfl⟩

theorem each_ok_cons {f : α → Traced β} {a : α} {rest : List α} {bs : List β}
    (ok : (each f (a :: rest)).result = .ok bs) :
    ∃ b others, bs = b :: others ∧ (f a).result = .ok b ∧ (each f rest).result = .ok others
      ∧ (each f (a :: rest)).requests = (f a).requests ++ (each f rest).requests := by
  obtain ⟨b, first, after, requests⟩ := andThen_ok ok
  obtain ⟨others, tail, last, tailRequests⟩ := andThen_ok after
  obtain rfl : b :: others = bs := by simpa [done] using last
  refine ⟨b, others, rfl, first, tail, ?_⟩
  rw [each, requests, tailRequests]
  simp [done]

theorem each_forall₂ {f : α → Traced β} {as : List α} {bs : List β}
    (ok : (each f as).result = .ok bs) :
    List.Forall₂ (fun a b => (f a).result = .ok b) as bs := by
  induction as generalizing bs with
  | nil =>
    obtain rfl : [] = bs := by simpa [each, done] using ok
    exact .nil
  | cons a rest ih =>
    obtain ⟨b, others, rfl, first, tail, -⟩ := each_ok_cons ok
    exact .cons first (ih tail)

/-- The requests of a list are those of its results, when each result tells its own. -/
theorem each_requests {f : α → Traced β} {g : β → List Request} {as : List α} {bs : List β}
    (ok : (each f as).result = .ok bs)
    (asked : ∀ a b, (f a).result = .ok b → (f a).requests = g b) :
    (each f as).requests = bs.flatMap g := by
  induction as generalizing bs with
  | nil =>
    obtain rfl : [] = bs := by simpa [each, done] using ok
    rfl
  | cons a rest ih =>
    obtain ⟨b, others, rfl, first, tail, requests⟩ := each_ok_cons ok
    rw [requests, asked a b first, ih tail, List.flatMap_cons]

end Traced

theorem lastNamed?_isSome_iff {segments : List Route.Segment} {name : String} :
    (lastNamed? segments name).isSome = true ↔ name ∈ segments.map Route.Segment.name := by
  unfold lastNamed?
  simp

namespace Scope

variable {s : Scope}

def partRequests (s : Scope) (p : Part) : List Request :=
  match s.resolve? p.parameter.type (some p.parameter) p.constraints with
  | some resolution => resolution.requests
  | none => []

/-- A part in the place of a parameter, with the type that the parameter resolves to there. -/
structure Binds (s : Scope) (prefixSegments routeSegments : List Route.Segment) (verb : Verb)
    (p : Parameter) (part : Part) : Prop where
  parameter : part.parameter = p
  place : (part.location, part.constraints) = placeOf prefixSegments routeSegments verb p
  resolved : ∃ resolution, s.resolve? p.type (some p) part.constraints = some resolution
    ∧ resolution.resolved = part.resolved
  placed : isMisplaced part.location part.resolved = false
  optional : part.optional = s.isOptional p

theorem bindParameter_ok {prefixSegments routeSegments : List Route.Segment} {verb : Verb}
    {p : Parameter} {part : Part}
    (ok : (s.bindParameter prefixSegments routeSegments verb p).result = .ok part) :
    s.Binds prefixSegments routeSegments verb p part
      ∧ (s.bindParameter prefixSegments routeSegments verb p).requests = s.partRequests part := by
  unfold bindParameter at ok ⊢
  cases place : placeOf prefixSegments routeSegments verb p with
  | mk location constraints =>
    simp only [place] at ok ⊢
    cases resolved : s.resolve p.type (some p) constraints none with
    | error r => simp [resolved, Traced.refuse] at ok
    | ok resolution =>
      have rule : s.resolve? p.type (some p) constraints = some resolution := by
        simpa using resolve_eq_ok_iff.mp resolved
      simp only [resolved] at ok ⊢
      split at ok
      · simp [Traced.refuse] at ok
      · next fits =>
        simp only [Except.ok.injEq] at ok
        subst ok
        rw [if_neg fits]
        refine ⟨⟨rfl, place.symm, ⟨resolution, rule, rfl⟩, by simpa using fits, rfl⟩, ?_⟩
        simp [partRequests, rule]

theorem bindEntry_ok {c : Controller} {m : Method} {verb : Verb} {name : String} {e : Entry}
    (ok : (s.bindEntry c m verb name).result = .ok e) :
    ∃ parts, List.Forall₂
        (s.Binds (prefixSegmentsFor c (routeOf m)) (Route.segments (routeOf m)) verb)
        m.parameters parts
      ∧ e = { controllerName := c.name
              actionName := m.name
              name := name
              verb := verb
              address := Route.render (Route.join c.baseEndpoint (routeOf m))
              parts := parts
              unbound := unboundNames
                (prefixSegmentsFor c (routeOf m) ++ Route.segments (routeOf m)) parts }
      ∧ (s.bindEntry c m verb name).requests = parts.flatMap s.partRequests := by
  obtain ⟨parts, bound, last, requests⟩ := Traced.andThen_ok ok
  simp only [Traced.done, Except.ok.injEq] at last
  have related := Traced.each_forall₂ bound
  have asked := Traced.each_requests bound fun p part given => (bindParameter_ok given).2
  refine ⟨parts, related.imp fun p part given => (bindParameter_ok given).1, last.symm, ?_⟩
  rw [bindEntry, requests, asked]
  simp [Traced.done]

def entryRequests (s : Scope) (e : Entry) : List Request := e.parts.flatMap s.partRequests

theorem bindEntry_requests {c : Controller} {m : Method} {verb : Verb} {name : String}
    {e : Entry} (ok : (s.bindEntry c m verb name).result = .ok e) :
    (s.bindEntry c m verb name).requests = s.entryRequests e := by
  obtain ⟨parts, -, rfl, requests⟩ := bindEntry_ok ok
  exact requests

theorem bindAction_ok {c : Controller} {used : List String} {m : Method} {a : Action}
    (ok : (s.bindAction c used m).result = .ok a) :
    m.verbs ≠ [] ∧ a.method = m ∧ a.verbs = m.verbs ∧ a.routeTemplate = routeOf m
      ∧ List.Forall₂ (fun verbName e => (s.bindEntry c m verbName.1 verbName.2).result = .ok e)
        (m.verbs.zip (freshNames used (wantedNames m m.verbs))) a.entries
      ∧ (s.bindAction c used m).requests = a.entries.flatMap s.entryRequests := by
  unfold bindAction at ok ⊢
  split at ok
  · simp [Traced.refuse] at ok
  · simp [Traced.refuse] at ok
  · simp [Traced.refuse] at ok
  · next verbs _ _ written verbful =>
    obtain ⟨entries, bound, last, requests⟩ := Traced.andThen_ok ok
    simp only [Traced.done, Except.ok.injEq] at last
    subst last
    have asked := Traced.each_requests bound fun verbName e given => bindEntry_requests given
    refine ⟨verbful, rfl, rfl, rfl, Traced.each_forall₂ bound, ?_⟩
    rw [requests, asked]
    simp [Traced.done]

/-- The actions of a controller are those of its methods, each with the names before it in use. -/
theorem bindActions_ok {c : Controller} {used : List String} {methods : List Method}
    {actions : List Action} (ok : (s.bindActions c used methods).result = .ok actions) :
    (∀ a ∈ actions, ∃ m ∈ methods, ∃ before, (s.bindAction c before m).result = .ok a)
      ∧ (s.bindActions c used methods).requests
        = (actions.flatMap Action.entries).flatMap s.entryRequests := by
  induction methods generalizing used actions with
  | nil =>
    obtain rfl : [] = actions := by simpa [bindActions, Traced.done] using ok
    exact ⟨by simp, rfl⟩
  | cons m rest ih =>
    obtain ⟨a, first, after, requests⟩ := Traced.andThen_ok ok
    obtain ⟨others, tail, last, tailRequests⟩ := Traced.andThen_ok after
    obtain rfl : a :: others = actions := by simpa [Traced.done] using last
    obtain ⟨members, asked⟩ := ih tail
    constructor
    · intro b member
      rcases List.mem_cons.mp member with rfl | later
      · exact ⟨m, List.mem_cons_self, used, first⟩
      · obtain ⟨m', member', before, bound⟩ := members b later
        exact ⟨m', List.mem_cons_of_mem m member', before, bound⟩
    · obtain ⟨-, -, -, -, -, own⟩ := bindAction_ok first
      rw [bindActions, requests, tailRequests, asked, own]
      simp [Traced.done]

theorem bindController_ok {d : TypeDescriptor} {c : Controller}
    (ok : (s.bindController d).result = .ok c) :
    ∃ actions, c = { controllerOf d with actions := actions }
      ∧ (s.bindActions (controllerOf d) [] (d.methods.filter Method.isAction)).result
        = .ok actions
      ∧ (s.bindController d).requests = c.entries.flatMap s.entryRequests := by
  unfold bindController at ok ⊢
  split at ok
  · next written =>
    obtain ⟨actions, bound, last, requests⟩ := Traced.andThen_ok ok
    simp only [Traced.done, Except.ok.injEq] at last
    subst last
    refine ⟨actions, rfl, bound, ?_⟩
    rw [if_pos written, requests, (bindActions_ok bound).2]
    simp [Traced.done, Controller.entries]
  · simp [Traced.refuse] at ok

theorem exists_bindController_of_single {d : TypeDescriptor} {m : Method} {verb : Verb} {e : Entry}
    (written : isTagWritable d.attributes routePrefixTag = true)
    (actions : d.methods.filter Method.isAction = [m]) (verbs : m.verbs = [verb])
    (verbsWritten : m.areVerbsWritable = true)
    (routeWritten : isTagWritable m.attributes routeTag = true)
    (bound : (s.bindEntry (controllerOf d) m verb m.name).result = .ok e) :
    ∃ c, (s.bindController d).result = .ok c
      ∧ c.actions = [⟨m, [verb], routeOf m, [e]⟩] := by
  have names : freshNames [] (wantedNames m [verb]) = [m.name] := by
    simp [wantedNames, freshNames, freshName]
  refine ⟨{ controllerOf d with actions := [⟨m, [verb], routeOf m, [e]⟩] }, ?_, rfl⟩
  simp [bindController, written, actions, bindActions, bindAction, verbs, verbsWritten,
    routeWritten, names, Traced.each, bound, Traced.done, Except.bind]

/-- An entry of a bound controller is that of one of its methods under one of its verbs. -/
theorem exists_bindEntry {d : TypeDescriptor} {c : Controller}
    (ok : (s.bindController d).result = .ok c) {a : Action} (action : a ∈ c.actions) {e : Entry}
    (entry : e ∈ a.entries) :
    ∃ m verb name, m ∈ d.methods ∧ a.routeTemplate = routeOf m
      ∧ (s.bindEntry (controllerOf d) m verb name).result = .ok e := by
  obtain ⟨actions, rfl, bound, -⟩ := bindController_ok ok
  obtain ⟨m, method, before, bound⟩ := (bindActions_ok bound).1 a action
  obtain ⟨-, -, -, route, entries, -⟩ := bindAction_ok bound
  obtain ⟨⟨verb, name⟩, -, given⟩ := exists_related_of_mem entries entry
  exact ⟨m, verb, name, List.mem_of_mem_filter method, route, given⟩

end Scope

end ApiClient
