/-!
Why no client can be generated for a module.

A type may not be usable, a placeholder may have no parameter, a method no verb, and an integer
that has to be written may have too many digits.
-/

set_option autoImplicit false

namespace ApiClient

/-- Why a type cannot be used for a parameter. -/
inductive Unsupported
  | unresolved
  | collectionInQuery
deriving DecidableEq, Repr

/-- What keeps a client from being generated. -/
inductive Refusal
  | unsupportedType (typeName : String) (parameter : Option String) (reason : Unsupported)
  | unboundPlaceholder (controller action placeholder : String)
  | missingVerb (controller action : String)
  | unwritable
deriving DecidableEq, Repr

/-- The reason in words. -/
def Unsupported.message : Unsupported → String
  | unresolved =>
    "it is not matched by a type mapping and is not an enum, a primitive, or a class "
      ++ "(generic types other than Nullable<T> and single-argument collections are not supported)"
  | collectionInQuery =>
    "collections of objects cannot be sent in the query string; send them in the body"

/-- The mention of a parameter; one without a name is not mentioned. -/
def parameterMention : Option String → String
  | none => ""
  | some name => if name = "" then "" else " of parameter '" ++ name ++ "'"

/-- A refusal in words. -/
def Refusal.message : Refusal → String
  | unsupportedType typeName parameter reason =>
    "Unsupported type '" ++ typeName ++ "'" ++ parameterMention parameter ++ ": "
      ++ reason.message
  | unboundPlaceholder controller action placeholder =>
    "Route placeholder '\x7b" ++ placeholder ++ "\x7d' of action '" ++ controller ++ "." ++ action
      ++ "' does not match any method parameter"
  | missingVerb controller action =>
    "Action '" ++ controller ++ "." ++ action ++ "' has no HTTP verb: add an Http<Verb> attribute "
      ++ "or start the method name with Get, Post, Put, Patch, or Delete"
  | unwritable => "An integer has too many digits to be written"

end ApiClient
