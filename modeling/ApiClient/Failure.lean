import ApiClient.Disk
import ApiClient.Form
import ApiClient.Refusal

/-!
What can stop a run.

A failure is reported with a message. A crash has none and breaks the command off: it is a file
that is no text or holds a value that there is not, an integer too long to be written, a path that
no file can have, or a file operation that fails where no failure is expected.
-/

set_option autoImplicit false

namespace ApiClient

/-- How a file writes its tree. -/
inductive Format
  | json
  | yaml
deriving DecidableEq, Repr

/-- What a file is read for. -/
inductive Subject
  | settings
  | descriptor
deriving DecidableEq, Repr

/-- What is wrong with a file. -/
inductive LoadFault
  | missing
  | unreadable (error : DiskError)
  | malformed (format : Format)
  | notRecord
  | invalid (issues : List Issue)
deriving DecidableEq, Repr

/-- A file that cannot be used. -/
structure LoadError where
  subject : Subject
  path : Path
  fault : LoadFault
deriving DecidableEq, Repr

/-- A document that cannot be written, for want of its directory or in itself. -/
inductive OutputError
  | directory (path : Path) (error : DiskError)
  | file (path : Path) (error : DiskError)
deriving DecidableEq, Repr

/-- A failure that is reported. -/
inductive Failure
  | load (error : LoadError)
  | refusal (reason : Refusal)
  | output (error : OutputError)
deriving DecidableEq, Repr

/-- A failure without a report. -/
inductive Crash
  | undecodable (path : Path)
  | unfit (path : Path) (reason : Unfit)
  | unwritable
  | disk (error : DiskError)
deriving DecidableEq, Repr

/-- What stops a run. -/
inductive Stop
  | failure (reason : Failure)
  | crash (reason : Crash)
deriving DecidableEq, Repr

/-- The name of a format. -/
def Format.name : Format → String
  | json => "JSON"
  | yaml => "YAML"

/-- A step as a part of a location. -/
def Step.display : Step → String
  | member name => name
  | index position => toString position

/-- A fault in words. -/
def Fault.message : Fault → String
  | missing => "a member is missing"
  | unknownMember => "the member is not known"
  | keyNotText => "the key is not a text"
  | notRecord => "an object is expected"
  | notText => "a text is expected"
  | textNotUnicode => "the bytes are no text in UTF-8"
  | notTuple => "a list is expected"
  | notList => "a list is expected"
  | notKind => "the kind of a type is expected"
  | notBool => "a truth value is expected"
  | boolUnreadable => "the value cannot be read as a truth value"
  | notInt => "an integer is expected"
  | intUnreadable => "the value cannot be read as an integer"
  | intHasFraction => "an integer is expected, without a fraction"
  | intNotFinite => "a finite number is expected"
  | intTooLarge => "the number is too large"
  | notFloat => "a number is expected"
  | floatUnreadable => "the value cannot be read as a number"
  | typeName error => error.message

/-- An issue on a line of its own. -/
def Issue.message (i : Issue) : String :=
  String.intercalate "." (i.steps.map Step.display) ++ ": " ++ i.fault.message

namespace LoadError

/-- The message as far as it does not depend on the detail of the fault. -/
def summary (e : LoadError) : String :=
  let path := e.path.toText
  match e.subject, e.fault with
  | .settings, .missing => "Configuration file not found: " ++ path
  | .settings, .unreadable error => "Cannot read configuration file: " ++ error.message
  | .settings, .notRecord => path ++ ": configuration must be a JSON object"
  | .settings, _ => "Invalid configuration in " ++ path ++ ": "
  | .descriptor, .missing => "Module descriptor not found: " ++ path
  | .descriptor, .unreadable error =>
    "Cannot read module descriptor '" ++ path ++ "': " ++ error.message
  | .descriptor, .notRecord => path ++ ": module descriptor must be a mapping"
  | .descriptor, _ => "Invalid module descriptor '" ++ path ++ "': "

/-- The detail of a fault in the content of a file. -/
def detail? (e : LoadError) : Option String :=
  match e.fault with
  | .malformed format => some ("not well-formed " ++ format.name)
  | .invalid issues => some (String.intercalate "\n" (issues.map Issue.message))
  | _ => none

/-- A file that cannot be used, in words. -/
def message (e : LoadError) : String := e.summary ++ e.detail?.getD ""

end LoadError

/-- A document that cannot be written, in words. -/
def OutputError.message : OutputError → String
  | directory path error =>
    "Cannot create output directory '" ++ path.toText ++ "': " ++ error.message
  | file path error => "Cannot write '" ++ path.toText ++ "': " ++ error.message

/-- A failure in words. -/
def Failure.message : Failure → String
  | .load error => error.message
  | .refusal reason => reason.message
  | .output error => error.message

end ApiClient
