import ApiClient.Path
import ApiClient.Text.Quoted

/-!
The files that a run reads and writes, by the few operations that it needs.

Programs are written over any interpretation of these operations, so that they run on a disk and
can be reasoned about on a tree of files.
-/

set_option autoImplicit false

namespace ApiClient

/-- Why an operation on files fails. -/
inductive DiskFault
  | malformedPath
  | notFound
  | fileExists
  | notDirectory
  | isDirectory
  | nameTooLong
  | other (code : Nat) (text : String)
deriving DecidableEq, Repr

/-- A failed operation and the path it was for. -/
structure DiskError where
  fault : DiskFault
  path : Path
deriving DecidableEq, Repr

/-- The number and the text of a fault. -/
def DiskFault.describe : DiskFault → Nat × String
  | malformedPath => (22, "Invalid argument")
  | notFound => (2, "No such file or directory")
  | fileExists => (17, "File exists")
  | notDirectory => (20, "Not a directory")
  | isDirectory => (21, "Is a directory")
  | nameTooLong => (36, "File name too long")
  | other code text => (code, text)

/-- Whether a fault of looking at a path means that nothing stands there. -/
def DiskFault.isAbsence : DiskFault → Bool
  | notFound | notDirectory | malformedPath => true
  | _ => false

/-- A failed operation in words. -/
def DiskError.message (e : DiskError) : String :=
  let (code, text) := e.fault.describe
  "[Errno " ++ toString code ++ "] " ++ text ++ ": " ++ Text.quoted e.path.toText

/-- What stands at a path. -/
inductive NodeKind
  | file
  | directory
deriving DecidableEq, Repr

/-- The operations on files. -/
class Disk (m : Type → Type) where
  workingDirectory : m Path
  kindOf : Path → m (Except DiskError NodeKind)
  read : Path → m (Except DiskError ByteArray)
  write : Path → ByteArray → m (Except DiskError Unit)
  makeDirectory : Path → m (Except DiskError Unit)

namespace Disk

variable {m : Type → Type} [Monad m] [Disk m]

/-- The absolute path, without `..`, that a path names. -/
def absolute (p : Path) : m (Except DiskError Path) := do
  if p.isWellFormed then return .ok (Path.resolve (← workingDirectory) p)
  else return .error ⟨.malformedPath, p⟩

/-- Whether anything stands at a path. -/
def isPresent (p : Path) : m (Except DiskError Bool) := do
  match ← kindOf p with
  | .ok _ => return .ok true
  | .error e => return if e.fault.isAbsence then .ok false else .error e

/-- Make a directory whose parent is there, unless there is one already. -/
def ensureDirectory (p : Path) : m (Except DiskError Unit) := do
  match ← makeDirectory p with
  | .ok _ => return .ok ()
  | .error e =>
    if e.fault = .notFound then return .error e
    else
      match ← kindOf p with
      | .ok .directory => return .ok ()
      | _ => return .error e

/-- Make a directory with all its parents, unless there is one already. -/
def ensureDirectories (p : Path) : m (Except DiskError Unit) := do
  match ← ensureDirectory p with
  | .ok _ => return .ok ()
  | .error e =>
    if _h : p.parts = [] then return .error e
    else if e.fault ≠ .notFound then return .error e
    else
      match ← ensureDirectories p.parent with
      | .error e => return .error e
      | .ok _ => ensureDirectory p
termination_by p.parts.length
decreasing_by
  have : 0 < p.parts.length := List.length_pos_iff.mpr _h
  simp only [Path.parent, List.length_dropLast]
  omega

end Disk

end ApiClient
