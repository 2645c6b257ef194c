import ApiClient.Command.Help
import ApiClient.Json.Writer
import ApiClient.Run

/-!
The commands, from the arguments to what is printed and how the program ends.

A command ends with an exit code, or it is broken off by a crash. Output is kept as lines; what a
command complains of is kept as a value, so that its wording is decided in one place.
-/

set_option autoImplicit false

namespace ApiClient.Command

/-- What a command complains of. -/
inductive Complaint
  | misuse (topic : Topic) (problem : Misuse)
  | noDirectory (path : Path)
  | alreadyThere (path : Path)
  | failure (reason : Failure)
deriving DecidableEq, Repr

/-- How a command ends. -/
inductive Ending
  | exit (code : Nat)
  | crash (reason : Crash)
deriving DecidableEq, Repr

/-- What comes of a command: its output, line by line, its complaint and its end. -/
structure Outcome where
  output : List String
  complaint : Option Complaint
  ending : Ending
deriving DecidableEq, Repr

/-- A complaint, line by line. -/
def Complaint.lines : Complaint → List String
  | .misuse topic problem => problem.report topic
  | .noDirectory path => ["Error: directory '" ++ path.toText ++ "' does not exist."]
  | .alreadyThere path => ["Error: configuration already exists at '" ++ path.toText ++ "'."]
  | .failure reason => ["Error: " ++ reason.message]

/-- Success after some output. -/
def Outcome.done (output : List String) : Outcome := ⟨output, none, .exit 0⟩

/-- A complaint after some output; misuse has an exit code of its own. -/
def Outcome.refuse (output : List String) (complaint : Complaint) : Outcome :=
  ⟨output, some complaint, .exit (match complaint with
    | .misuse _ _ => 2
    | _ => 1)⟩

/-- The end of a command that is stopped after some output. -/
def Outcome.stopped (output : List String) : Stop → Outcome
  | .failure reason => .refuse output (.failure reason)
  | .crash reason => ⟨output, none, .crash reason⟩

/-- Lines as text. -/
def linesText (lines : List String) : String :=
  String.join (lines.map fun line => line ++ "\n")

/-- The settings that a new settings file holds. A module file that is not named is an empty
list. -/
def starter (moduleFile : Option String) : Data :=
  let generated := Data.ofText "generated"
  let no := Data.scalar (.bool false)
  let yes := Data.scalar (.bool true)
  Data.ofFields [
    ("webApiModuleFileName", moduleFile.elim (.list []) Data.ofText),
    ("endpointsOutputDirectory", generated),
    ("serviceOutputDirectory", generated),
    ("enumsOutputDirectory", generated),
    ("interfacesOutputDirectory", generated),
    ("generateEnums", yes),
    ("generateInterfaces", no),
    ("scanOtherModules", yes),
    ("writeNamespaceAsModule", no),
    ("typeMappings", .list [])]

/-- The text of a new settings file. -/
def starterText (moduleFile : Option String) : String :=
  Json.render .lines (starter moduleFile) ++ "\n"

variable {m : Type → Type} [Monad m] [Disk m]

/-- Write a new settings file; that it cannot be written is a crash. -/
def writeStarter (p : Path) (moduleFile : Option String) : ExceptT Stop m Unit :=
  ExceptT.mk do
    match ← Disk.write p (starterText moduleFile).toUTF8 with
    | .ok _ => return .ok ()
    | .error e => return .error (.crash (.disk e))

/-- Start a settings file in a directory that has none. -/
def init (directory : Path) (moduleFile : Option String) : ExceptT Stop m Outcome := do
  let p := directory.child Settings.fileName
  if !(← Loading.isPresent directory) then
    return .refuse [] (.noDirectory directory)
  else if ← Loading.isPresent p then
    return .refuse [] (.alreadyThere p)
  else
    writeStarter p moduleFile
    return .done ["Initialized configuration at '" ++ p.toText ++ "'."]

/-- What is printed before a run. -/
def announcement (settings : Settings) : String :=
  "Generating TypeScript from '" ++ settings.modulePath.toText ++ "'..."

/-- What is printed after a run. -/
def report (r : RunReport) : List String :=
  (r.missing.map fun w => "Warning: " ++ w.message)
    ++ ["Processed " ++ toString r.generation.controllers.length ++ " controller(s)."]
    ++ r.generation.documents.map fun d => d.path.toText ++ " created!"

/-- Generate the documents that settings ask for. -/
def runAnnounced (settings : Settings) : m Outcome := do
  let opening := announcement settings
  match ← (Run.run settings).run with
  | .error stop => return .stopped [opening] stop
  | .ok r => return .done (opening :: report r)

/-- Generate the documents that a settings file asks for. -/
def generate (p : Path) : ExceptT Stop m Outcome := do
  let settings ← Loading.settings p
  ExceptT.lift (runAnnounced settings)

/-- An outcome, or that of being stopped before any output. -/
def settle (x : ExceptT Stop m Outcome) : m Outcome := do
  match ← x.run with
  | .error stop => return .stopped [] stop
  | .ok outcome => return outcome

/-- Carry out an invocation; the paths in it are taken from the working directory. -/
def carryOut : Invocation → m Outcome
  | .init directory moduleFile => settle do
    init (← Loading.absolute (Path.ofText directory)) moduleFile
  | .generate settingsFile => settle do
    generate (← Loading.absolute (Path.ofText settingsFile))

/-- Do what the arguments of the command line ask for. -/
def perform (arguments : List String) : m Outcome :=
  match read arguments with
  | .error (.help topic) => return .done topic.help
  | .error (.misuse topic problem) => return .refuse [] (.misuse topic problem)
  | .ok invocation => carryOut invocation

end ApiClient.Command
