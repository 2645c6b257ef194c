import ApiClient.Binding
import ApiClient.Declarations
import ApiClient.Document.Declared
import ApiClient.Document.Service

/-!
From types and settings to the texts of the documents.

Controllers are bound in order, then the endpoints are checked for unbound placeholders, and at
last the constants of the declared enumerations for values that cannot be written; nothing else can
keep the documents from being made.
-/

set_option autoImplicit false

namespace ApiClient

/-- A document: where it goes and what it says. -/
structure Document where
  path : Path
  text : String
deriving DecidableEq, Repr, Inhabited

/-- What a generation makes: the documents in the order of writing, and the controllers. -/
structure Generation where
  documents : List Document
  controllers : List Controller
  declarations : Declarations
deriving Repr, Inhabited

namespace Scope

/-- Bind all controllers of the store. -/
def bindControllers (s : Scope) : Traced (List Controller) :=
  Traced.each s.bindController (s.store.controllers TypeStore.apiController)

/-- The documents that settings ask for. -/
def documents (s : Scope) (controllers : List Controller) (endpoints : Code)
    (t : Declarations) : List Document :=
  let settings := s.settings
  [⟨settings.endpoints.path, endpoints.render⟩,
      ⟨settings.service.path, (Document.service settings controllers).render⟩]
    ++ (if settings.generateEnums then
        [⟨settings.enums.path, (Document.enums settings t).render⟩] else [])
    ++ (if settings.generateInterfaces then
        [⟨settings.interfaces.path, (Document.interfaces settings t).render⟩] else [])

/-- Whether the constants of the declared enumerations can be written as far as settings ask. -/
def areEnumsWritable (s : Scope) (t : Declarations) : Bool :=
  !s.settings.generateEnums
    || t.enums.all fun d => d.members.all fun m => (Scalar.int m.value).isWritable

/-- Generate the documents for the controllers of the store. -/
def generate (s : Scope) : Except Refusal Generation := do
  let bound := s.bindControllers
  let controllers ← bound.result
  let endpoints ← Document.endpoints s.settings controllers
  let declarations := Declarations.follow s bound.requests .empty
  if s.areEnumsWritable declarations then
    return ⟨s.documents controllers endpoints declarations, controllers, declarations⟩
  else throw .unwritable

end Scope

end ApiClient
