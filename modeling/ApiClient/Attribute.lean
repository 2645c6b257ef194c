import ApiClient.Data
import ApiClient.Text.Cut

/-!
Attributes, the tags on types, methods and parameters.

A tag is looked up by its short name: what stands after the last dot, without the ending
`Attribute`. So `FromBody` finds `System.Web.Http.FromBodyAttribute`, and the other way round.
-/

set_option autoImplicit false

namespace ApiClient

/-- An attribute with its arguments. -/
structure Attribute where
  name : String
  arguments : List Scalar
deriving DecidableEq, Repr, Inhabited

/-- The short name that tags are compared by. -/
def tagKey (name : String) : String :=
  String.ofList (Text.dropEnding "Attribute".toList (Text.afterLast '.' name.toList))

/-- The first attribute with a tag's short name. -/
def findTag? (attributes : List Attribute) (tag : String) : Option Attribute :=
  attributes.find? fun a => tagKey a.name == tagKey tag

/-- Whether a tag is among attributes. -/
def hasTag (attributes : List Attribute) (tag : String) : Bool := (findTag? attributes tag).isSome

/-- The first argument of a tag, as text. -/
def tagText? (attributes : List Attribute) (tag : String) : Option String :=
  (findTag? attributes tag).bind fun a => a.arguments.head?.map Scalar.display

/-- Whether the first argument of a tag, if there is one, has a text. -/
def isTagWritable (attributes : List Attribute) (tag : String) : Bool :=
  (findTag? attributes tag).all fun a => a.arguments.head?.all Scalar.isWritable

/-- The tag with the address of a controller. -/
def routePrefixTag : String := "System.Web.Http.RoutePrefixAttribute"

/-- The tag with the address of an action. -/
def routeTag : String := "System.Web.Http.RouteAttribute"

/-- The tag that lists the verbs of an action. -/
def acceptVerbsTag : String := "System.Web.Http.AcceptVerbsAttribute"

/-- The tag of a method that is no action. -/
def nonActionTag : String := "System.Web.Http.NonActionAttribute"

/-- The tag of a parameter that travels in the address. -/
def fromUriTag : String := "System.Web.Http.FromUriAttribute"

/-- The tag of a parameter that travels in the body. -/
def fromBodyTag : String := "System.Web.Http.FromBodyAttribute"

end ApiClient
