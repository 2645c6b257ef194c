import ApiClient.Descriptor
import ApiClient.Text.Case

/-!
The verbs that a method answers to.

A method has the verbs of its attributes, in order and each once. Without any, the verb word that
its name starts with counts.
-/

set_option autoImplicit false

namespace ApiClient

/-- The verb of a request. -/
inductive Verb
  | get
  | post
  | put
  | patch
  | delete
deriving DecidableEq, Repr, Inhabited

namespace Verb

/-- All verbs, in the order in which names are tried. -/
def all : List Verb := [.get, .post, .put, .patch, .delete]

/-- The verb as requests carry it. -/
def method : Verb → String
  | .get => "GET"
  | .post => "POST"
  | .put => "PUT"
  | .patch => "PATCH"
  | .delete => "DELETE"

/-- The verb as names carry it. -/
def display : Verb → String
  | .get => "Get"
  | .post => "Post"
  | .put => "Put"
  | .patch => "Patch"
  | .delete => "Delete"

/-- The attribute that selects a verb. -/
def tag (v : Verb) : String := "Http" ++ v.display ++ "Attribute"

/-- Whether a request with this verb sends its body parameters. -/
def carriesBody (v : Verb) : Bool := v == .post || v == .put

/-- The verb that a text spells in any case. -/
def ofText? (text : String) : Option Verb := all.find? fun v => v.method == Text.upper text

/-- The verbs that an attribute selects. -/
def ofAttribute (a : Attribute) : List Verb :=
  let key := tagKey a.name
  all.filter (fun v => key == tagKey v.tag)
    ++ if key == tagKey acceptVerbsTag then a.arguments.filterMap fun s => ofText? s.display
      else []

end Verb

namespace Method

/-- The verbs that the attributes of a method select, each once. -/
def taggedVerbs (m : Method) : List Verb :=
  (m.attributes.flatMap Verb.ofAttribute).foldl
    (fun verbs v => if verbs.contains v then verbs else verbs ++ [v]) []

/-- Whether all arguments that may name verbs of a method have a text. -/
def areVerbsWritable (m : Method) : Bool :=
  m.attributes.all fun a =>
    tagKey a.name != tagKey acceptVerbsTag || a.arguments.all Scalar.isWritable

/-- The verbs of a method. -/
def verbs (m : Method) : List Verb :=
  match m.taggedVerbs with
  | [] => (Verb.all.find? fun v => Text.startsWith v.display m.name).toList
  | tagged => tagged

/-- Whether a method is an action: public, of the instance, plain, and not tagged otherwise. -/
def isAction (m : Method) : Bool :=
  m.isPublic && !m.isStatic && !m.isConstructor && !m.isSpecialName
    && !hasTag m.attributes nonActionTag

end Method

end ApiClient
