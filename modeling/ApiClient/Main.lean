import ApiClient.Command

/-!
The program: commands carried out on the files of the machine.
-/

set_option autoImplicit false

namespace ApiClient

/-- The number of an error; some are given as negative ones. -/
def errorNumber (code : UInt32) : Nat :=
  if code < 0x80000000 then code.toNat else (0 - code).toNat

/-- A numbered error as a fault. -/
def DiskFault.ofNumber (code : UInt32) (text : String) : DiskFault :=
  match errorNumber code with
  | 2 => .notFound
  | 13 => .other 13 "Permission denied"
  | 17 => .fileExists
  | 20 => .notDirectory
  | 21 => .isDirectory
  | 36 => .nameTooLong
  | n => .other n text

/-- An error of the machine as a fault. -/
def DiskFault.ofError : IO.Error → DiskFault
  | .noFileOrDirectory .. => .notFound
  | .alreadyExists .. => .fileExists
  | .permissionDenied _ code text => .ofNumber code text
  | .inappropriateType _ code text => .ofNumber code text
  | .invalidArgument _ code text => .ofNumber code text
  | .resourceExhausted _ code text => .ofNumber code text
  | .otherError code text => .ofNumber code text
  | e => .other 5 (toString e)

/-- An operation of the machine on a path. -/
def onMachine {α : Type} (p : Path) (operation : IO α) : IO (Except DiskError α) := do
  if !p.isWellFormed then return .error ⟨.malformedPath, p⟩
  match ← operation.toBaseIO with
  | .ok a => return .ok a
  | .error e => return .error ⟨.ofError e, p⟩

instance : Disk IO where
  workingDirectory := do return Path.ofText (← IO.currentDir).toString
  kindOf p := onMachine p do
    let found := (← IO.currentDir) / p.toText
    return if (← found.metadata).type == .dir then .directory else .file
  read p := onMachine p (IO.FS.readBinFile p.toText)
  write p bytes := onMachine p (IO.FS.writeBinFile p.toText bytes)
  makeDirectory p := onMachine p (IO.FS.createDir p.toText)

/-- A value that there is not, in words. -/
def Unfit.message : Unfit → String
  | longInteger => "an integer with too many digits"
  | hugeNumber => "a number beyond all numbers"
  | noDigits => "a text that is no number"
  | emptyNumber => "a number without digits"
  | noTruth => "a word that is no truth value"
  | noStamp => "a text that is no date"
  | noMoment => "a date or a time that there is not"
  | noCharacter | hugeCharacter => "the code of no character"

/-- A crash in words, for want of a better report. -/
def Crash.message : Crash → String
  | undecodable path => "Error: '" ++ path.toText ++ "' is not a text in UTF-8"
  | unfit path reason => "Error: '" ++ path.toText ++ "' holds " ++ reason.message
  | unwritable => "Error: an integer has too many digits to be written"
  | disk error => "Error: " ++ error.message

/-- Print what comes of a command. -/
def Command.Outcome.print (o : Outcome) : IO UInt32 := do
  IO.print (linesText o.output)
  if let some complaint := o.complaint then IO.eprint (linesText complaint.lines)
  match o.ending with
  | .exit code => return code.toUInt32
  | .crash reason =>
    IO.eprintln reason.message
    return 1

end ApiClient

/-- The program. -/
def main (arguments : List String) : IO UInt32 := do
  let outcome ← (ApiClient.Command.perform arguments : IO ApiClient.Command.Outcome)
  outcome.print
