import ApiClient.Document.Service
import ApiClient.Proofs.Code

/-!
The signatures in the document of the service.

A signature keeps the names of the types apart from the text around them. The headers of the
document are those of its frame and the texts of the signatures, each in its place
(`headers_service`), so that what is said of the signatures is said of the document.
-/

set_option autoImplicit false

namespace ApiClient.Document

open Code

/-- A use of a type in a signature: its name, and whether a list of it is meant. -/
structure TypeUse where
  name : String
  isList : Bool
deriving DecidableEq, Repr

def TypeUse.text (t : TypeUse) : String := if t.isList then t.name ++ "[]" else t.name

/-- A parameter of a signature: its name with its mark, and its type unless it takes any value. -/
structure TypedName where
  label : String
  type : Option TypeUse
deriving DecidableEq, Repr

def TypedName.text (p : TypedName) : String :=
  match p.type with
  | some t => p.label ++ ": " ++ t.text
  | none => p.label

/-- A signature: what stands before its parameters, the parameters, and the type of its result. -/
structure Signature where
  lead : String
  parameters : List TypedName
  result : Option TypeUse
deriving DecidableEq, Repr

namespace Signature

def text (g : Signature) : String :=
  let parameters :=
    g.lead ++ "(" ++ String.intercalate ", " (g.parameters.map TypedName.text) ++ ")"
  match g.result with
  | some t => parameters ++ ": " ++ t.text ++ " =>"
  | none => parameters

/-- The names of the types that a signature uses. -/
def typeNames (g : Signature) : List String :=
  g.parameters.filterMap (fun p => p.type.map TypeUse.name) ++ (g.result.map TypeUse.name).toList

end Signature

def useOf (p : Part) : TypeUse := ⟨p.resolved.typeName, p.resolved.isCollection⟩

/-- A part that may be left out. -/
def marked (p : Part) : TypedName := ⟨p.name ++ (if p.optional then "?" else ""), some (useOf p)⟩

/-- A part that must be given. -/
def unmarked (p : Part) : TypedName := ⟨p.name, some (useOf p)⟩

/-- The dispatcher of all calls. -/
def dispatcher (s : Settings) : Signature :=
  ⟨"static call",
    [⟨"endpoint", some ⟨s.endpoints.namespaceName ++ "." ++ endpointInterface, false⟩⟩,
      ⟨"data", none⟩], none⟩

/-- The member that makes the endpoint of an entry. -/
def factory (s : Settings) (c : Controller) (e : Entry) : Signature :=
  ⟨e.name ++ ": ", e.constructorParts.map marked,
    some ⟨qualifiedName s c ++ ".I" ++ e.name, false⟩⟩

/-- The hook that sends the payload of an entry. -/
def hook (e : Entry) : Signature := ⟨"call", e.callParts.map unmarked, none⟩

def signatures (s : Settings) (controllers : List Controller) : List Signature :=
  dispatcher s :: controllers.flatMap fun c => c.entries.flatMap fun e => [factory s c e, hook e]

theorem text_dispatcher (s : Settings) :
    (dispatcher s).text
      = "static call(endpoint: " ++ s.endpoints.namespaceName ++ "." ++ endpointInterface
        ++ ", data)" := by
  have opening : "static call(endpoint: " = "static call" ++ ("(" ++ ("endpoint" ++ ": ")) := by
    decide
  have ending : ", data)" = ", " ++ ("data" ++ ")") := by decide
  rw [opening, ending]
  simp only [dispatcher, Signature.text, TypedName.text, TypeUse.text, List.map_cons,
    List.map_nil, String.intercalate_cons_cons, String.intercalate_singleton,
    String.append_assoc, Bool.false_eq_true, if_false]

theorem text_hook (e : Entry) : (hook e).text = "call(" ++ callParameters e ++ ")" := by
  simp only [hook, Signature.text, callParameters, List.map_map]
  rfl

theorem text_factory (s : Settings) (c : Controller) (e : Entry) :
    (factory s c e).text
      = e.name ++ ": (" ++ String.intercalate ", " (e.constructorParts.map Part.parameterText)
        ++ "): " ++ qualifiedName s c ++ ".I" ++ e.name ++ " =>" := by
  have opening : ": (" = ": " ++ "(" := by decide
  have ending : "): " = ")" ++ ": " := by decide
  have parameters : e.constructorParts.map (TypedName.text ∘ marked)
      = e.constructorParts.map Part.parameterText := rfl
  simp only [factory, Signature.text, TypeUse.text, List.map_map, parameters]
  rw [opening, ending]
  simp only [String.append_assoc, Bool.false_eq_true, if_false]

theorem headers_callHook (e : Entry) :
    headers (callHook e) = ["var callHook =", (hook e).text] := by
  simp [callHook, text_hook]

theorem headers_entryMember (s : Settings) (c : Controller) (termination : String) (e : Entry) :
    headers (entryMember s c termination e)
      = [(factory s c e).text, "var callHook =", (hook e).text] := by
  simp [entryMember, headers_callHook, text_factory]

theorem bodyHeaders_entryMembers (s : Settings) (c : Controller) (entries : List Entry) :
    bodyHeaders (entryMembers s c entries)
      = entries.flatMap fun e => [(factory s c e).text, "var callHook =", (hook e).text] := by
  induction entries using entryMembers.induct with
  | case1 => simp [entryMembers]
  | case2 e => simp [entryMembers, headers_entryMember]
  | case3 e rest more ih =>
    rw [entryMembers, bodyHeaders_cons, headers_entryMember, ih, List.flatMap_cons]
    exact more

/-- The headers of the service, with the text of each signature in its place. -/
def serviceHeaders (s : Settings) (controllers : List Controller) : List String :=
  [s.namespaceKeyword ++ " " ++ s.service.namespaceName, "export class " ++ serviceClass,
      "constructor($http: ng.IHttpService)", (dispatcher s).text,
      "return " ++ serviceClass ++ ".$http("]
    ++ controllers.flatMap fun c => ("public " ++ c.name ++ " =")
      :: c.entries.flatMap fun e => [(factory s c e).text, "var callHook =", (hook e).text]

theorem headers_service (s : Settings) (controllers : List Controller) :
    (service s controllers).headers = serviceHeaders s controllers := by
  simp [service, serviceBase, serviceHeaders, controllerObject, text_dispatcher,
    bodyHeaders_map, bodyHeaders_entryMembers]

def signatureParts (e : Entry) : List Part := e.constructorParts ++ e.callParts

theorem mem_parts_of_mem_signatureParts {e : Entry} {p : Part} (member : p ∈ signatureParts e) :
    p ∈ e.parts := by
  rcases List.mem_append.mp member with outside | sent
  · rcases List.mem_append.mp outside with needed | optional
    · exact (List.mem_filter.mp (List.mem_filter.mp needed).1).1
    · exact (List.mem_filter.mp (List.mem_filter.mp optional).1).1
  · unfold Entry.callParts at sent
    split at sent
    · exact (List.mem_filter.mp sent).1
    · cases sent

theorem typeNames_factory (s : Settings) (c : Controller) (e : Entry) :
    (factory s c e).typeNames
      = e.constructorParts.map (fun p => p.resolved.typeName)
        ++ [qualifiedName s c ++ ".I" ++ e.name] := by
  simp [factory, Signature.typeNames, List.filterMap_map, Function.comp_def, marked, useOf]

theorem typeNames_hook (e : Entry) :
    (hook e).typeNames = e.callParts.map fun p => p.resolved.typeName := by
  simp [hook, Signature.typeNames, List.filterMap_map, Function.comp_def, unmarked, useOf]

theorem typeNames_dispatcher (s : Settings) :
    (dispatcher s).typeNames = [s.endpoints.namespaceName ++ "." ++ endpointInterface] := rfl

/-- What all signatures use: the interfaces of the endpoints, and the types of the parts. -/
theorem forall_typeNames_iff {s : Settings} {controllers : List Controller} {P : String → Prop} :
    (∀ g ∈ signatures s controllers, ∀ name ∈ g.typeNames, P name)
      ↔ P (s.endpoints.namespaceName ++ "." ++ endpointInterface)
        ∧ ∀ c ∈ controllers, ∀ e ∈ c.entries, P (qualifiedName s c ++ ".I" ++ e.name)
          ∧ ∀ p ∈ signatureParts e, P p.resolved.typeName := by
  constructor
  · intro all
    refine ⟨all _ List.mem_cons_self _ (by simp [typeNames_dispatcher]), ?_⟩
    intro c controller e entry
    have made : ∀ g ∈ [factory s c e, hook e], ∀ name ∈ g.typeNames, P name := by
      intro g member
      refine all g (List.mem_cons_of_mem _ (List.mem_flatMap.mpr ⟨c, controller, ?_⟩))
      exact List.mem_flatMap.mpr ⟨e, entry, member⟩
    refine ⟨made _ List.mem_cons_self _ (by simp [typeNames_factory]), ?_⟩
    intro p part
    rcases List.mem_append.mp part with outside | sent
    · refine made _ List.mem_cons_self _ ?_
      rw [typeNames_factory]
      exact List.mem_append_left _ (List.mem_map_of_mem outside)
    · refine made _ (List.mem_cons_of_mem _ List.mem_cons_self) _ ?_
      rw [typeNames_hook]
      exact List.mem_map_of_mem sent
  · rintro ⟨shared, own⟩ g member name used
    rcases List.mem_cons.mp member with rfl | member
    · rw [typeNames_dispatcher, List.mem_singleton] at used
      exact used ▸ shared
    · obtain ⟨c, controller, member⟩ := List.mem_flatMap.mp member
      obtain ⟨e, entry, member⟩ := List.mem_flatMap.mp member
      obtain ⟨result, parts⟩ := own c controller e entry
      rcases List.mem_cons.mp member with rfl | member
      · rw [typeNames_factory] at used
        rcases List.mem_append.mp used with outside | given
        · obtain ⟨p, part, rfl⟩ := List.mem_map.mp outside
          exact parts p (List.mem_append_left _ part)
        · exact List.mem_singleton.mp given ▸ result
      · obtain rfl := List.mem_singleton.mp member
        rw [typeNames_hook] at used
        obtain ⟨p, part, rfl⟩ := List.mem_map.mp used
        exact parts p (List.mem_append_right _ part)

end ApiClient.Document
