import ApiClient.Proofs.Attribute
import ApiClient.Proofs.Binding.Address
import ApiClient.Proofs.Binding.Refusals

/-!
Where the parameters of a method travel, and which of them an endpoint is constructed and called
with.

The parts of an entry are the parameters of its method, in order, each in the place that
placeholders, tags and the verb leave it. Those outside the body are given to the constructor,
required ones first; those in the body are given to the call when the verb carries a body.
-/

set_option autoImplicit false

namespace ApiClient

open Route (Segment)

theorem forall₂_of_common {α β γ : Type} {R : α → β → Prop} {S : α → γ → Prop} {T : β → γ → Prop}
    (given : ∀ a b c, R a b → S a c → T b c) {as : List α} {bs : List β} {cs : List γ}
    (left : List.Forall₂ R as bs) (right : List.Forall₂ S as cs) : List.Forall₂ T bs cs := by
  induction left generalizing cs with
  | nil =>
    cases right
    exact .nil
  | cons first rest ih =>
    cases right with
    | cons first' rest' => exact .cons (given _ _ _ first first') (ih rest')

namespace Entry

variable (e : Entry)

def outsideParts (e : Entry) : List Part := e.parts.filter fun p => p.location != .body

theorem constructorParts_eq :
    e.constructorParts = e.outsideParts.filter (fun p => !p.optional)
      ++ e.outsideParts.filter fun p => p.optional := rfl

/-- The parts of an entry divide into those for its constructor, and those in the body. -/
structure Divides (e : Entry) : Prop where
  outside : e.constructorParts.Perm e.outsideParts
  requiredFirst : e.constructorParts.Pairwise fun p q => p.optional = true → q.optional = true
  stable : ∀ optional, e.constructorParts.filter (fun p => p.optional == optional)
    = e.outsideParts.filter fun p => p.optional == optional
  constructed : ∀ p ∈ e.parts, p ∈ e.constructorParts ↔ p.location ≠ .body
  called : ∀ p ∈ e.parts,
    p ∈ e.callParts ↔ p.location = .body ∧ (e.verb = .post ∨ e.verb = .put)
  whole : e.verb = .post ∨ e.verb = .put → (e.constructorParts ++ e.callParts).Perm e.parts
  unsent : e.verb = .get ∨ e.verb = .patch ∨ e.verb = .delete →
    e.callParts = [] ∧ (e.constructorParts ++ e.bodyParts).Perm e.parts

theorem constructorParts_perm : e.constructorParts.Perm e.outsideParts := by
  have parted := List.filter_append_perm (fun p : Part => !p.optional) e.outsideParts
  simpa [constructorParts_eq] using parted

theorem constructorParts_append_bodyParts : (e.constructorParts ++ e.bodyParts).Perm e.parts := by
  have parted := List.filter_append_perm (fun p : Part => p.location != .body) e.parts
  refine (e.constructorParts_perm.append_right e.bodyParts).trans ?_
  simpa [outsideParts, bodyParts, partsAt, bne] using parted

theorem callParts_of_carriesBody (carries : e.verb.carriesBody = true) :
    e.callParts = e.bodyParts := if_pos carries

theorem callParts_of_not_carriesBody (silent : e.verb.carriesBody = false) : e.callParts = [] :=
  if_neg (by simp [silent])

theorem divides : e.Divides := by
  have carries : e.verb.carriesBody = true ↔ e.verb = .post ∨ e.verb = .put := by
    simp [Verb.carriesBody]
  constructor
  case outside => exact e.constructorParts_perm
  case requiredFirst =>
    rw [constructorParts_eq, List.pairwise_append]
    refine ⟨List.pairwise_of_forall_mem_list ?_, List.pairwise_of_forall_mem_list ?_, ?_⟩
    · intro p required q _ optional
      simp [optional] at required
    · intro p _ q optional _
      exact (List.mem_filter.mp optional).2
    · intro p _ q optional _
      exact (List.mem_filter.mp optional).2
  case stable =>
    intro optional
    rw [constructorParts_eq, List.filter_append, List.filter_filter, List.filter_filter]
    cases optional with
    | false => simp
    | true => simp
  case constructed =>
    intro p member
    simp [e.constructorParts_perm.mem_iff, outsideParts, member]
  case called =>
    intro p member
    rw [← carries]
    cases sends : e.verb.carriesBody with
    | false => simp [e.callParts_of_not_carriesBody sends]
    | true => simp [e.callParts_of_carriesBody sends, bodyParts, partsAt, member]
  case whole =>
    intro sends
    rw [e.callParts_of_carriesBody (carries.mpr sends)]
    exact e.constructorParts_append_bodyParts
  case unsent =>
    intro silent
    have unsends : e.verb.carriesBody = false := by
      rcases silent with verb | verb | verb
      · rw [verb]; rfl
      · rw [verb]; rfl
      · rw [verb]; rfl
    exact ⟨e.callParts_of_not_carriesBody unsends, e.constructorParts_append_bodyParts⟩

end Entry

namespace Scope

variable {s : Scope} {d : TypeDescriptor} {m : Method} {p : Parameter} {verb : Verb}

/-- A placeholder of the prefix has a name, and the route of a method does not start anew. -/
def IsPrefixName (d : TypeDescriptor) (m : Method) (name : String) : Prop :=
  Route.isRooted (routeOf m) = false ∧ name ∈ (Route.segments (prefixOf d)).map Segment.name

/-- A placeholder of the route of a method has a name. -/
def IsRouteName (m : Method) (name : String) : Prop :=
  name ∈ (Route.segments (routeOf m)).map Segment.name

/-- No placeholder has the name of a parameter. -/
structure IsUnplaced (d : TypeDescriptor) (m : Method) (p : Parameter) : Prop where
  ahead : ¬ IsPrefixName d m p.name
  behind : ¬ IsRouteName m p.name

/-- No tag says where a parameter travels. -/
structure IsUntagged (p : Parameter) : Prop where
  uri : ¬ IsTagged "FromUri" p.attributes
  body : ¬ IsTagged "FromBody" p.attributes

/-- Where a parameter that no placeholder names travels under a verb. -/
inductive TravelsFreely (verb : Verb) (p : Parameter) : Location → Prop
  | fromUri (tagged : IsTagged "FromUri" p.attributes) : TravelsFreely verb p .query
  | fromBody (uri : ¬ IsTagged "FromUri" p.attributes)
      (tagged : IsTagged "FromBody" p.attributes) : TravelsFreely verb p .body
  | payload (untagged : IsUntagged p) (carries : verb = .post ∨ verb = .put) :
      TravelsFreely verb p .body
  | rest (untagged : IsUntagged p) (silent : ¬ (verb = .post ∨ verb = .put)) :
      TravelsFreely verb p .query

/-- Where a parameter of a method travels under a verb. -/
inductive Travels (d : TypeDescriptor) (m : Method) (verb : Verb) (p : Parameter) : Location → Prop
  | controller (named : IsPrefixName d m p.name) : Travels d m verb p .controller
  | action (ahead : ¬ IsPrefixName d m p.name) (named : IsRouteName m p.name) :
      Travels d m verb p .action
  | free {location : Location} (unplaced : IsUnplaced d m p)
      (travels : TravelsFreely verb p location) : Travels d m verb p location

variable {location location' : Location}

theorem travelsFreely_iff : TravelsFreely verb p location ↔ location = defaultLocation p verb := by
  have uri := @hasTag_fromUriTag_iff p.attributes
  have body := @hasTag_fromBodyTag_iff p.attributes
  have carries : verb.carriesBody = true ↔ verb = .post ∨ verb = .put := by
    simp [Verb.carriesBody]
  unfold defaultLocation
  constructor
  · intro travels
    cases travels with
    | fromUri tagged => rw [if_pos (uri.mpr tagged)]
    | fromBody untagged tagged => rw [if_neg (mt uri.mp untagged), if_pos (body.mpr tagged)]
    | payload untagged carried =>
      rw [if_neg (mt uri.mp untagged.uri), if_neg (mt body.mp untagged.body),
        if_pos (carries.mpr carried)]
    | rest untagged silent =>
      rw [if_neg (mt uri.mp untagged.uri), if_neg (mt body.mp untagged.body),
        if_neg (mt carries.mp silent)]
  · rintro rfl
    split_ifs with inUri inBody carried
    · exact .fromUri (uri.mp inUri)
    · exact .fromBody (mt uri.mpr inUri) (body.mp inBody)
    · exact .payload ⟨mt uri.mpr inUri, mt body.mpr inBody⟩ (carries.mp carried)
    · exact .rest ⟨mt uri.mpr inUri, mt body.mpr inBody⟩ (mt carries.mpr carried)

theorem isPrefixName_iff {name : String} :
    IsPrefixName d m name
      ↔ (lastNamed? (prefixSegmentsFor (controllerOf d) (routeOf m)) name).isSome = true := by
  rw [lastNamed?_isSome_iff]
  unfold IsPrefixName prefixSegmentsFor
  cases Route.isRooted (routeOf m) with
  | false => simp [segments_controllerOf]
  | true => simp

theorem travels_iff :
    Travels d m verb p location
      ↔ location = (placeOf (prefixSegmentsFor (controllerOf d) (routeOf m))
          (Route.segments (routeOf m)) verb p).1 := by
  -- the cases of the lookups are those of the relation, in its order of precedence
  have ahead := @isPrefixName_iff d m p.name
  have behind : IsRouteName m p.name
      ↔ (lastNamed? (Route.segments (routeOf m)) p.name).isSome = true :=
    lastNamed?_isSome_iff.symm
  unfold placeOf
  cases found : lastNamed? (prefixSegmentsFor (controllerOf d) (routeOf m)) p.name with
  | some g =>
    have named : IsPrefixName d m p.name := ahead.mpr (by simp [found])
    constructor
    · intro travels
      cases travels with
      | controller => rfl
      | action ahead' => exact absurd named ahead'
      | free unplaced => exact absurd named unplaced.ahead
    · rintro rfl
      exact .controller named
  | none =>
    have unnamed : ¬ IsPrefixName d m p.name := mt ahead.mp (by simp [found])
    cases found' : lastNamed? (Route.segments (routeOf m)) p.name with
    | some g =>
      have named : IsRouteName m p.name := behind.mpr (by simp [found'])
      constructor
      · intro travels
        cases travels with
        | controller named' => exact absurd named' unnamed
        | action => rfl
        | free unplaced => exact absurd named unplaced.behind
      · rintro rfl
        exact .action unnamed named
    | none =>
      have unrouted : ¬ IsRouteName m p.name := mt behind.mp (by simp [found'])
      constructor
      · intro travels
        cases travels with
        | controller named => exact absurd named unnamed
        | action _ named => exact absurd named unrouted
        | free _ travels => exact travelsFreely_iff.mp travels
      · intro same
        exact .free ⟨unnamed, unrouted⟩ (travelsFreely_iff.mpr same)

theorem TravelsFreely.eq_or_untagged {verb' : Verb} (travels : TravelsFreely verb p location)
    (travels' : TravelsFreely verb' p location') : location' = location ∨ IsUntagged p := by
  cases travels with
  | fromUri tagged =>
    cases travels' with
    | fromUri => exact .inl rfl
    | fromBody uri => exact absurd tagged uri
    | payload untagged => exact .inr untagged
    | rest untagged => exact .inr untagged
  | fromBody uri tagged =>
    cases travels' with
    | fromUri tagged' => exact absurd tagged' uri
    | fromBody => exact .inl rfl
    | payload untagged => exact .inr untagged
    | rest untagged => exact .inr untagged
  | payload untagged => exact .inr untagged
  | rest untagged => exact .inr untagged

/-- Under another verb, a parameter travels elsewhere only where nothing but the verb places it. -/
theorem Travels.eq_or_free {verb' : Verb} (travels : Travels d m verb p location)
    (travels' : Travels d m verb' p location') :
    location' = location ∨ IsUnplaced d m p ∧ IsUntagged p := by
  cases travels with
  | controller named =>
    cases travels' with
    | controller => exact .inl rfl
    | action ahead => exact absurd named ahead
    | free unplaced => exact absurd named unplaced.ahead
  | action ahead named =>
    cases travels' with
    | controller named' => exact absurd named' ahead
    | action => exact .inl rfl
    | free unplaced => exact absurd named unplaced.behind
  | free unplaced travels =>
    cases travels' with
    | controller named => exact absurd named unplaced.ahead
    | action _ named => exact absurd named unplaced.behind
    | free _ travels' =>
      exact (travels.eq_or_untagged travels').imp_right fun untagged => ⟨unplaced, untagged⟩

theorem Binds.travels {part : Part}
    (binds : s.Binds (prefixSegmentsFor (controllerOf d) (routeOf m)) (Route.segments (routeOf m))
      verb p part) : Travels d m verb p part.location :=
  travels_iff.mpr (congrArg Prod.fst binds.place)

/-- The constraints on a parameter are those of its placeholder, under each verb. -/
theorem constraints_placeOf (prefixSegments routeSegments : List Segment) (verb' : Verb) :
    (placeOf prefixSegments routeSegments verb p).2
      = (placeOf prefixSegments routeSegments verb' p).2 := by
  unfold placeOf
  cases lastNamed? prefixSegments p.name with
  | some g => rfl
  | none =>
    cases lastNamed? routeSegments p.name with
    | some g => rfl
    | none => rfl

/-- Parts of one parameter that differ in their places only, and there only for the verb. -/
structure IsMoved (d : TypeDescriptor) (m : Method) (part part' : Part) : Prop where
  others : part' = { part with location := part'.location }
  place : part'.location = part.location ∨ IsUnplaced d m part.parameter ∧ IsUntagged part.parameter

theorem Binds.isMoved {part part' : Part} {verb' : Verb}
    (binds : s.Binds (prefixSegmentsFor (controllerOf d) (routeOf m)) (Route.segments (routeOf m))
      verb p part)
    (binds' : s.Binds (prefixSegmentsFor (controllerOf d) (routeOf m))
      (Route.segments (routeOf m)) verb' p part') : IsMoved d m part part' := by
  have parameter : part'.parameter = part.parameter := by
    rw [binds.parameter, binds'.parameter]
  have constraints : part'.constraints = part.constraints := by
    have own : part.constraints = _ := congrArg Prod.snd binds.place
    have own' : part'.constraints = _ := congrArg Prod.snd binds'.place
    rw [own, own']
    exact constraints_placeOf _ _ _
  -- resolving looks at the constraints and not at the place
  have resolved : part'.resolved = part.resolved := by
    obtain ⟨resolution, given, same⟩ := binds.resolved
    obtain ⟨resolution', given', same'⟩ := binds'.resolved
    rw [constraints, given] at given'
    rw [← same, ← same', Option.some.inj given']
  have optional : part'.optional = part.optional := by rw [binds.optional, binds'.optional]
  constructor
  case others =>
    cases part'
    simp_all
  case place =>
    rw [binds.parameter]
    exact binds.travels.eq_or_free binds'.travels

/-- The parts of an entry are the parameters of a method, in order, each in its place. -/
structure Places (d : TypeDescriptor) (m : Method) (e : Entry) : Prop where
  parameters : e.parts.map Part.parameter = m.parameters
  travels : ∀ part ∈ e.parts, ∀ location,
    Travels d m e.verb part.parameter location ↔ location = part.location

/-- Entries that differ in name and verb, and in the places that the verb decides. -/
structure AreSiblings (d : TypeDescriptor) (m : Method) (e e' : Entry) : Prop where
  others : e' = { e with name := e'.name, verb := e'.verb, parts := e'.parts }
  parts : List.Forall₂ (IsMoved d m) e.parts e'.parts

theorem bindEntry_places {name : String} {e : Entry}
    (ok : (s.bindEntry (controllerOf d) m verb name).result = .ok e) : Places d m e := by
  obtain ⟨parts, related, rfl, -⟩ := bindEntry_ok ok
  constructor
  case parameters =>
    have same := map_eq_of_forall₂ (f := id) (g := Part.parameter) related fun _ _ binds =>
      binds.parameter
    rw [same, List.map_id]
  case travels =>
    intro part member location
    obtain ⟨p, -, binds⟩ := exists_related_of_mem related member
    rw [binds.parameter, travels_iff, ← congrArg Prod.fst binds.place]

theorem bindEntry_areSiblings {verb' : Verb} {name name' : String} {e e' : Entry}
    (ok : (s.bindEntry (controllerOf d) m verb name).result = .ok e)
    (ok' : (s.bindEntry (controllerOf d) m verb' name').result = .ok e') :
    AreSiblings d m e e' := by
  obtain ⟨parts, related, rfl, -⟩ := bindEntry_ok ok
  obtain ⟨parts', related', rfl, -⟩ := bindEntry_ok ok'
  have moved : List.Forall₂ (IsMoved d m) parts parts' :=
    forall₂_of_common (fun _ _ _ binds binds' => binds.isMoved binds') related related'
  have names : parts'.map Part.name = parts.map Part.name := by
    have named : ∀ ps : List Part, ps.map Part.name = (ps.map Part.parameter).map Parameter.name :=
      fun ps => (List.map_map ..).symm
    rw [named, named, (bindEntry_places ok').parameters, (bindEntry_places ok).parameters]
  refine ⟨?_, moved⟩
  simp [unboundNames, names]

/-- An action is that of an eligible method, and its entries are bound under its verbs. -/
theorem exists_method_of_action {c : Controller} (ok : (s.bindController d).result = .ok c)
    {a : Action} (action : a ∈ c.actions) :
    a.method ∈ d.methods ∧ a.method.isAction = true
      ∧ ∀ e ∈ a.entries, ∃ verb ∈ a.method.verbs, ∃ name,
        (s.bindEntry (controllerOf d) a.method verb name).result = .ok e := by
  obtain ⟨actions, rfl, bound, -⟩ := bindController_ok ok
  obtain ⟨m, method, used, own⟩ := (bindActions_ok bound).1 a action
  obtain ⟨-, rfl, -, -, entries, -⟩ := bindAction_ok own
  obtain ⟨among, eligible⟩ := List.mem_filter.mp method
  refine ⟨among, eligible, fun e entry => ?_⟩
  obtain ⟨⟨verb, name⟩, member, given⟩ := exists_related_of_mem entries entry
  exact ⟨verb, (List.of_mem_zip member).1, name, given⟩

theorem exists_binds_of_part {c : Controller} (ok : (s.bindController d).result = .ok c)
    {a : Action} (action : a ∈ c.actions) {e : Entry} (entry : e ∈ a.entries) {part : Part}
    (member : part ∈ e.parts) :
    ∃ verb p, s.Binds (prefixSegmentsFor (controllerOf d) (routeOf a.method))
      (Route.segments (routeOf a.method)) verb p part := by
  obtain ⟨-, -, bound⟩ := exists_method_of_action ok action
  obtain ⟨verb, -, name, given⟩ := bound e entry
  obtain ⟨parts, related, rfl, -⟩ := bindEntry_ok given
  obtain ⟨p, -, binds⟩ := exists_related_of_mem related member
  exact ⟨verb, p, binds⟩

/--
An entry has the parameters of its method as parts, each in its place, and divides them into those
for its constructor and those in the body. Entries of one action differ in what the verb decides.
-/
theorem bindEntry_partition (s : Scope) (d : TypeDescriptor) :
    (∀ m verb name e, (s.bindEntry (controllerOf d) m verb name).result = .ok e →
        e.verb = verb ∧ Places d m e ∧ e.Divides)
      ∧ ∀ c, (s.bindController d).result = .ok c → ∀ a ∈ c.actions,
        a.method ∈ d.methods ∧ a.method.isAction = true
          ∧ (∀ e ∈ a.entries, e.verb ∈ a.method.verbs ∧ Places d a.method e ∧ e.Divides)
          ∧ ∀ e ∈ a.entries, ∀ e' ∈ a.entries, AreSiblings d a.method e e' := by
  have one : ∀ m verb name e, (s.bindEntry (controllerOf d) m verb name).result = .ok e →
      e.verb = verb ∧ Places d m e ∧ e.Divides := by
    intro m verb name e ok
    refine ⟨?_, bindEntry_places ok, e.divides⟩
    obtain ⟨parts, -, rfl, -⟩ := bindEntry_ok ok
    rfl
  refine ⟨one, fun c ok a action => ?_⟩
  obtain ⟨among, eligible, bound⟩ := exists_method_of_action ok action
  refine ⟨among, eligible, ?_, ?_⟩
  · intro e entry
    obtain ⟨verb, own, name, ok⟩ := bound e entry
    obtain ⟨sent, facts⟩ := one a.method verb name e ok
    exact ⟨sent ▸ own, facts⟩
  · intro e entry e' entry'
    obtain ⟨verb, -, name, ok⟩ := bound e entry
    obtain ⟨verb', -, name', ok'⟩ := bound e' entry'
    exact bindEntry_areSiblings ok ok'

end Scope

/-! A method under two verbs, with a parameter in each place. -/

namespace Sample

def tagged (name type : String) (optional : Bool) (tags : List String) : Parameter :=
  ⟨name, .plain type, optional, tags.map fun tag => ⟨tag, []⟩⟩

def update : Method :=
  ⟨"Update", true, false, false, false,
    [tagged "filter" "System.String" false ["Acme.FromUriAttribute"],
      tagged "tenant" "System.Int32" false ["FromBody"],
      tagged "id" "System.Int32" false [],
      tagged "page" "System.Int32" false ["System.Web.Http.FromUri"],
      tagged "change" "System.Int32" false [],
      tagged "note" "System.String" false ["FromBody"]],
    [⟨"HttpPut", []⟩, ⟨"HttpPatch", []⟩, ⟨"Route", [.text "items/{id}"]⟩]⟩

def tenants : TypeDescriptor :=
  { classOf "Acme.ItemController" (some (.plain TypeStore.apiController)) [] with
    attributes := [⟨"RoutePrefix", [.text "api/{tenant}"]⟩]
    methods := [update] }

def partNames (parts : List Part) : List String := parts.map Part.name

theorem bindEntry_partition_tenants :
    ∃ c, (mirrored.bindController tenants).result = .ok c
      ∧ c.entries.map (fun e => e.parts.map Part.location)
        = [[.query, .controller, .action, .query, .body, .body],
          [.query, .controller, .action, .query, .query, .body]]
      ∧ c.entries.map (fun e => [partNames e.constructorParts, partNames e.callParts])
        = [[["tenant", "id", "page", "filter"], ["change", "note"]],
          [["tenant", "id", "page", "change", "filter"], []]]
      ∧ ∀ a ∈ c.actions, ∀ e ∈ a.entries,
        Scope.Places tenants a.method e ∧ e.Divides
          ∧ ∀ e' ∈ a.entries, Scope.AreSiblings tenants a.method e e' := by
  have located : (mirrored.bindController tenants).result.toOption.map
      (fun c => c.entries.map fun e => e.parts.map Part.location)
      = some [[.query, .controller, .action, .query, .body, .body],
        [.query, .controller, .action, .query, .query, .body]] := by decide +kernel
  have divided : (mirrored.bindController tenants).result.toOption.map
      (fun c => c.entries.map fun e => [partNames e.constructorParts, partNames e.callParts])
      = some [[["tenant", "id", "page", "filter"], ["change", "note"]],
        [["tenant", "id", "page", "change", "filter"], []]] := by decide +kernel
  obtain ⟨c, ok, places⟩ := exists_ok_of_map_toOption located
  rw [ok] at divided
  refine ⟨c, ok, places, Option.some.inj divided, fun a action e entry => ?_⟩
  obtain ⟨-, -, each, siblings⟩ :=
    (Scope.bindEntry_partition mirrored tenants).2 c ok a action
  obtain ⟨-, placed, divides⟩ := each e entry
  exact ⟨placed, divides, siblings e entry⟩

end Sample

end ApiClient
