import ApiClient.Generation
import ApiClient.Loading

/-!
A run: load the module, generate the documents, write them.

Nothing is written before all documents are made. They are written in order, over any file that is
there; the directories they need are made first.
-/

set_option autoImplicit false

namespace ApiClient

/-- What a run makes, and the modules that it missed. -/
structure RunReport where
  generation : Generation
  missing : List MissingModule
deriving Repr

namespace Run

variable {m : Type → Type} [Monad m] [Disk m]

/-- An operation on files whose failure keeps a document from being written; a path that no file
can have is a crash. -/
def attempt (explain : DiskError → OutputError) (operation : m (Except DiskError Unit)) :
    ExceptT Stop m Unit :=
  ExceptT.mk do
    match ← operation with
    | .ok _ => return .ok ()
    | .error e =>
      if e.fault = .malformedPath then return .error (.crash (.disk e))
      else return .error (.failure (.output (explain e)))

/-- Write a document. -/
def writeDocument (d : Document) : ExceptT Stop m Unit := do
  attempt (.directory d.path.parent) (Disk.ensureDirectories d.path.parent)
  attempt (.file d.path) (Disk.write d.path d.text.toUTF8)

/-- Write documents in order, up to the first that cannot be written. -/
def writeDocuments : List Document → ExceptT Stop m Unit
  | [] => return
  | d :: rest => do
    writeDocument d
    writeDocuments rest

/-- Load, generate and write. -/
def run (settings : Settings) : ExceptT Stop m RunReport := do
  let loaded ← Loading.store settings.modulePath settings.scanOtherModules
  match Scope.generate ⟨loaded.store, settings⟩ with
  | .error .unwritable => throw (.crash .unwritable)
  | .error reason => throw (.failure (.refusal reason))
  | .ok generation =>
    writeDocuments generation.documents
    return ⟨generation, loaded.missing⟩

end Run

end ApiClient
