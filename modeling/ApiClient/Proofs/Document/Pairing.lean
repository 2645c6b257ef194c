import ApiClient.Proofs.Document.Signatures
import ApiClient.Proofs.Generation
import Mathlib.Data.List.Forall2

/-!
The document of endpoints against the document of the service.

One declares the interface and the class of an entry, the other makes and calls the endpoint. Main
statement: both hold the same controllers and entries in the same places, and for each entry they
use the same names and the same lists of parameters.
-/

set_option autoImplicit false

namespace ApiClient

namespace Code

def frame? : Code → Option Frame
  | .statement _ => none
  | .block frame _ => some frame

@[simp] theorem frame?_statement (line : String) : (statement line).frame? = none := rfl

@[simp] theorem frame?_plain (header : String) (body : List Code) :
    (plain header body).frame? = some ⟨header, false, ""⟩ := rfl

@[simp] theorem children_plain (header : String) (body : List Code) :
    (plain header body).children = body := rfl

@[simp] theorem children_ended (header termination : String) (body : List Code) :
    (ended header termination body).children = body := rfl

def Frame.isConstructor (f : Frame) : Bool := Text.startsWith "constructor(" f.header

/-- The constructors among the blocks that stand directly in a block. -/
def constructors (c : Code) : List Frame := (c.children.filterMap frame?).filter Frame.isConstructor

end Code

/-- Of two items each, the items of `k` stand at `2k` and behind. -/
theorem getElem?_flatMap_pair {α β : Type} (first second : α → β) (as : List α) (k : Nat) :
    (as.flatMap fun a => [first a, second a])[2 * k]? = as[k]?.map first
      ∧ (as.flatMap fun a => [first a, second a])[2 * k + 1]? = as[k]?.map second := by
  induction as generalizing k with
  | nil => simp
  | cons a as ih =>
    cases k with
    | zero => simp
    | succ k =>
      have shift : 2 * (k + 1) = 2 * k + 1 + 1 := by omega
      have later := ih k
      simpa [shift] using later

theorem length_flatMap_pair {α β : Type} (first second : α → β) (as : List α) :
    (as.flatMap fun a => [first a, second a]).length = 2 * as.length := by
  induction as with
  | nil => rfl
  | cons a as ih =>
    simp only [List.flatMap_cons, List.length_append, List.length_cons, List.length_nil, ih]
    omega

namespace Document

open Code

variable {s : Settings} {c : Controller} {e : Entry}

theorem length_entryMembers (entries : List Entry) :
    (entryMembers s c entries).length = entries.length := by
  induction entries using entryMembers.induct with
  | case1 => rfl
  | case2 e => rfl
  | case3 e rest more ih =>
    rw [entryMembers, List.length_cons, ih, List.length_cons]
    exact more

/-- Every member but the last ends with a comma. -/
theorem getElem?_entryMembers (entries : List Entry) (k : Nat) :
    (entryMembers s c entries)[k]?
      = entries[k]?.map (entryMember s c (if k + 1 = entries.length then "" else ",")) := by
  induction entries using entryMembers.induct generalizing k with
  | case1 => simp [entryMembers]
  | case2 e => cases k <;> simp [entryMembers]
  | case3 e rest more ih =>
    rw [entryMembers]
    · cases k with
      | zero =>
        have others : rest ≠ [] := more
        simp [others]
      | succ k => simp [ih k]
    · exact more

/-- The parameters of a constructor, which become fields. -/
def constructorText (parameters : List TypedName) : String :=
  "constructor(" ++ String.intercalate ", " (parameters.map fun p => "public " ++ p.text) ++ ")"

/--
The trees agree on an entry: one declares its interface and its class, and a member of the other
makes an endpoint of that class, with the arguments in order, and calls it.
-/
structure AgreeOnEntry (s : Settings) (c : Controller) (e : Entry)
    (parameters payload : List TypedName) (arguments : List String) (termination : String)
    (interface made member : Code) : Prop where
  interfaceFrame : interface.frame?
    = some ⟨"export interface I" ++ e.name ++ " extends " ++ endpointInterface, false, ""⟩
  classFrame : made.frame?
    = some ⟨"export class " ++ e.name ++ " implements " ++ endpointInterface, false, ""⟩
  constructors : made.constructors
    = if parameters = [] then [] else [⟨constructorText parameters, false, ""⟩]
  memberFrame : member.frame?
    = some ⟨(Signature.mk (e.name ++ ": ") parameters
      (some ⟨qualifiedName s c ++ ".I" ++ e.name, false⟩)).text, false, termination⟩
  labels : List.Forall₂ (fun name p => p.label = name ∨ p.label = name ++ "?") arguments parameters
  creation : member.children[0]? = some (.statement ("var endpoint = new " ++ qualifiedName s c
    ++ "." ++ e.name ++ "(" ++ String.intercalate ", " arguments ++ ");"))
  bare : made.constructors = [] → member.children[0]?
    = some (.statement ("var endpoint = new " ++ qualifiedName s c ++ "." ++ e.name ++ "();"))
  call : interface.children.getLast?
    = some (.statement ((Signature.mk "call" payload none).text ++ ": ng.IHttpPromise<any>;"))
  hook : ∃ hook call, member.children[1]? = some hook
    ∧ hook.frame? = some ⟨"var callHook =", false, ";"⟩ ∧ hook.children = [call]
    ∧ call.frame? = some ⟨(Signature.mk "call" payload none).text, false, ""⟩

theorem isConstructor_constructorText (parameters : List TypedName) :
    Frame.isConstructor ⟨constructorText parameters, false, ""⟩ = true := by
  unfold Frame.isConstructor Text.startsWith constructorText
  rw [String.append_assoc, String.toList_append]
  exact List.isPrefixOf_iff_prefix.mpr (List.prefix_append _ _)

theorem frames_constructorBlock (e : Entry) :
    (constructorBlock e).filterMap frame?
      = if e.constructorParts.map marked = [] then []
        else [⟨constructorText (e.constructorParts.map marked), false, ""⟩] := by
  unfold constructorBlock
  cases parts : e.constructorParts with
  | nil => rfl
  | cons p rest =>
    simp only [List.filterMap_cons, List.filterMap_nil, frame?_plain, constructorText,
      List.map_map]
    rfl

theorem frames_queryStringBlock (s : Settings) (e : Entry) :
    ((queryStringBlock s e).filterMap frame?).filter Frame.isConstructor = [] := by
  have other : Frame.isConstructor ⟨"private getQueryString = (): string =>", false, ""⟩
      = false := by decide
  unfold queryStringBlock
  split
  · rfl
  · simp [other]

/-- A class has a constructor just when it has parameters. -/
theorem constructors_entryClass (s : Settings) (e : Entry) :
    (entryClass s e).constructors
      = if e.constructorParts.map marked = [] then []
        else [⟨constructorText (e.constructorParts.map marked), false, ""⟩] := by
  have other : Frame.isConstructor ⟨"toString = (): string =>", false, ""⟩ = false := by decide
  have split : (entryClass s e).constructors
      = ((constructorBlock e).filterMap frame?).filter Frame.isConstructor := by
    simp [Code.constructors, entryClass, toStringBlock, List.filterMap_cons,
      frames_queryStringBlock, other]
  rw [split, frames_constructorBlock]
  split
  · rfl
  · simp [isConstructor_constructorText]

theorem forall₂_labels (parts : List Part) :
    List.Forall₂ (fun name p => p.label = name ∨ p.label = name ++ "?") (parts.map Part.name)
      (parts.map marked) := by
  refine List.forall₂_map_left_iff.mpr (List.forall₂_map_right_iff.mpr ?_)
  refine List.forall₂_same.mpr fun p _ => ?_
  cases optional : p.optional with
  | true => exact .inr (by simp [marked, optional])
  | false => exact .inl (by simp [marked, optional])

theorem agreeOnEntry (s : Settings) (c : Controller) (termination : String) (e : Entry) :
    AgreeOnEntry s c e (e.constructorParts.map marked) (e.callParts.map unmarked)
      (e.constructorParts.map Part.name) termination (entryInterface e) (entryClass s e)
      (entryMember s c termination e) := by
  constructor
  case interfaceFrame => rfl
  case classFrame => rfl
  case constructors => exact constructors_entryClass s e
  case memberFrame =>
    have text := text_factory s c e
    unfold factory at text
    rw [text]
    rfl
  case labels => exact forall₂_labels e.constructorParts
  case creation => rfl
  case bare =>
    rw [constructors_entryClass]
    intro none
    have empty : e.constructorParts = [] := by simpa using none
    have closing : "();" = "(" ++ ");" := by decide
    simp [entryMember, empty, closing, String.append_assoc]
  case call =>
    have text := text_hook e
    unfold hook at text
    have closing : "): ng.IHttpPromise<any>;" = ")" ++ ": ng.IHttpPromise<any>;" := by decide
    rw [text]
    simp [entryInterface, closing, String.append_assoc]
  case hook =>
    have text := text_hook e
    unfold hook at text
    rw [text]
    exact ⟨_, _, rfl, rfl, rfl, rfl⟩

theorem endpoints_of_bound {controllers : List Controller}
    (bound : ∀ c ∈ controllers, ∀ e ∈ c.entries, e.unbound = []) :
    endpoints s controllers = .ok (endpointsCode s controllers) := by
  have silent : firstUnbound? controllers = none := by
    refine List.findSome?_eq_none_iff.mpr fun e member => ?_
    obtain ⟨c, controller, entry⟩ := List.mem_flatMap.mp member
    simp [Entry.unboundRefusal?, bound c controller e entry]
  rw [endpoints, silent]

/-- The trees agree on a controller: entry by entry, and on nothing else. -/
structure AgreeOnController (s : Settings) (c : Controller) (space object : Code) : Prop where
  namespaceFrame : space.frame?
    = some ⟨"export " ++ s.namespaceKeyword ++ " " ++ c.name, false, ""⟩
  objectFrame : object.frame? = some ⟨"public " ++ c.name ++ " =", false, ";"⟩
  pairs : space.children.length = 2 * c.entries.length
  members : object.children.length = c.entries.length
  entry : ∀ k e, c.entries[k]? = some e → ∃ interface made member,
    space.children[2 * k]? = some interface ∧ space.children[2 * k + 1]? = some made
      ∧ object.children[k]? = some member
      ∧ AgreeOnEntry s c e (e.constructorParts.map marked) (e.callParts.map unmarked)
        (e.constructorParts.map Part.name) (if k + 1 = c.entries.length then "" else ",")
        interface made member

theorem agreeOnController (s : Settings) (c : Controller) :
    AgreeOnController s c (controllerNamespace s c) (controllerObject s c) := by
  constructor
  case namespaceFrame => rfl
  case objectFrame => rfl
  case pairs => exact length_flatMap_pair _ _ _
  case members => exact length_entryMembers _
  case entry =>
    intro k e placed
    obtain ⟨first, second⟩ := getElem?_flatMap_pair entryInterface (entryClass s) c.entries k
    have third := getElem?_entryMembers (s := s) (c := c) c.entries k
    rw [placed, Option.map_some] at first second third
    exact ⟨_, _, _, first, second, third, agreeOnEntry s c _ e⟩

/-- The trees agree: both have a part for each controller, in order, and these agree. -/
structure Agree (s : Settings) (controllers : List Controller) (spaces objects : List Code)
    (endpoints service : Code) : Prop where
  endpointsFrame : endpoints.frame?
    = some ⟨s.namespaceKeyword ++ " " ++ s.endpoints.namespaceName, false, ""⟩
  endpointsChildren : endpoints.children = sharedInterfaces ++ spaces
  serviceChildren : ∃ holder, service.children = [holder]
    ∧ holder.children = serviceBase s ++ objects
  spacesLength : spaces.length = controllers.length
  objectsLength : objects.length = controllers.length
  controller : ∀ (i : Nat) (c : Controller), controllers[i]? = some c →
    ∃ space object, spaces[i]? = some space ∧ objects[i]? = some object
      ∧ AgreeOnController s c space object

end Document

/-! A controller with a member whose query value may be left out, and one without values. -/

namespace Sample

def areaParameter : Parameter := ⟨"area", .plain "System.Int32", true, []⟩

def areaPart : Part := ⟨areaParameter, .query, ⟨"number", true, false, false, none⟩, true, []⟩

def areaAction (name : String) (parts : List Part) : Action :=
  ⟨⟨name, true, false, false, false, parts.map Part.parameter, []⟩, [.get], "",
    [⟨"Area", name, name, .get, "/areas/" ++ name, parts, []⟩]⟩

def areaController : Controller :=
  ⟨"Area", "Acme.AreaController", "/areas", [],
    [areaAction "GetArea" [areaPart], areaAction "GetAll" []]⟩

end Sample

end ApiClient
