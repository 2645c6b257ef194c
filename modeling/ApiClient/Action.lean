import ApiClient.Resolution
import ApiClient.Route.Template
import ApiClient.Verb

/-!
Controllers with their actions, as endpoints see them.

An action has one entry per verb. The parts of an entry are its parameters, each with the place in
a request where its value travels.
-/

set_option autoImplicit false

namespace ApiClient

/-- Where a value travels: in the controller's or the action's address, the query, or the body. -/
inductive Location
  | controller
  | action
  | query
  | body
deriving DecidableEq, Repr, Inhabited

/-- A parameter in its place, with its TypeScript type and the constraints on its placeholder. -/
structure Part where
  parameter : Parameter
  location : Location
  resolved : ResolvedType
  optional : Bool
  constraints : List String
deriving Repr, Inhabited

namespace Part

/-- The name of a part is that of its parameter. -/
def name (p : Part) : String := p.parameter.name

/-- Whether a value is part of the path. -/
def isRoute (p : Part) : Bool := p.location == .controller || p.location == .action

/-- A part as a parameter that must be given. -/
def requiredText (p : Part) : String := p.name ++ ": " ++ p.resolved.rendered

/-- A part as a parameter, with a question mark when it may be left out. -/
def parameterText (p : Part) : String :=
  p.name ++ (if p.optional then "?" else "") ++ ": " ++ p.resolved.rendered

/-- A part as a value of the payload; single strings are put between double quotes. -/
def payloadText (p : Part) : String :=
  let value := if p.resolved.isString then "`\"$\x7b" ++ p.name ++ "\x7d\"`" else p.name
  p.name ++ " != null ? " ++ value ++ " : null"

end Part

/-- An action under one verb, with the placeholders that no parameter fills. -/
structure Entry where
  controllerName : String
  actionName : String
  name : String
  verb : Verb
  address : String
  parts : List Part
  unbound : List String
deriving Repr, Inhabited

namespace Entry

/-- The parts of the path. -/
def routeParts (e : Entry) : List Part := e.parts.filter Part.isRoute

/-- The parts at a place. -/
def partsAt (e : Entry) (location : Location) : List Part :=
  e.parts.filter fun p => p.location == location

/-- The parts of the query. -/
def queryParts (e : Entry) : List Part := e.partsAt .query

/-- The parts of the body. -/
def bodyParts (e : Entry) : List Part := e.partsAt .body

/-- All parts outside the body: those that must be given, then the others. -/
def constructorParts (e : Entry) : List Part :=
  let outside := e.parts.filter fun p => p.location != .body
  outside.filter (fun p => !p.optional) ++ outside.filter fun p => p.optional

/-- The parts that are sent as payload. -/
def callParts (e : Entry) : List Part := if e.verb.carriesBody then e.bodyParts else []

/-- The payload of a call, or `null` when there is none. -/
def callValues (e : Entry) : String :=
  match e.callParts with
  | [] => "null"
  | parts => String.intercalate ", " (parts.map Part.payloadText)

/-- What is wrong with an entry whose address has a placeholder that no parameter fills. -/
def unboundRefusal? (e : Entry) : Option Refusal :=
  e.unbound.head?.map fun placeholder =>
    .unboundPlaceholder e.controllerName e.actionName placeholder

end Entry

/-- A method with its verbs, its route and an entry for each verb. -/
structure Action where
  method : Method
  verbs : List Verb
  routeTemplate : String
  entries : List Entry
deriving Repr, Inhabited

/-- A controller with its address, the placeholders in it, and its actions. -/
structure Controller where
  name : String
  fullName : String
  baseEndpoint : String
  segments : List Route.Segment
  actions : List Action
deriving Repr, Inhabited

/-- The entries of all actions, in order. -/
def Controller.entries (c : Controller) : List Entry := c.actions.flatMap Action.entries

end ApiClient
