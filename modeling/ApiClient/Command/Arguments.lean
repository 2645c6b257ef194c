import ApiClient.Settings
import ApiClient.Text.Cut
import ApiClient.Text.Digit
import ApiClient.Text.Quoted

/-!
The arguments of the command line.

The first operand names a command; what follows is read with that command's flags. A long flag may
be cut short as long as it stays the only one meant, and may carry its value after an equals sign.
After the separator `--` everything is an operand. Arguments that have no place are collected
and refused together at the end.
-/

set_option autoImplicit false

namespace ApiClient.Command

/-- What help and usage are about. -/
inductive Topic
  | general
  | init
  | generate
deriving DecidableEq, Repr

/-- A long flag. Help has the letter `h` as well. -/
inductive Flag
  | help
  | moduleFile
deriving DecidableEq, Repr

/-- What is wrong with arguments. -/
inductive Misuse
  | unknownCommand (name : String)
  | strayWords (words : List String)
  | ambiguous (word : String) (flags : List Flag)
  | needlessValue (value : String)
  | missingModuleFile
deriving DecidableEq, Repr

/-- Why arguments are no command to carry out. -/
inductive Halt
  | help (topic : Topic)
  | misuse (topic : Topic) (problem : Misuse)
deriving DecidableEq, Repr

/-- A command to carry out. -/
inductive Invocation
  | init (directory : String) (moduleFile : Option String)
  | generate (settingsFile : String)
deriving DecidableEq, Repr

/-- The name of a flag. -/
def Flag.name : Flag → String
  | help => "--help"
  | moduleFile => "--module"

/-- The flags of a topic. -/
def Topic.flags : Topic → List Flag
  | init => [.help, .moduleFile]
  | _ => [.help]

/-- One argument: an operand, the separator, a flag with the value after its equals sign, the
letter for help with what follows it, or something that looks like a flag and is none. -/
inductive Word
  | operand (text : String)
  | separator
  | flag (flag : Flag) (value : Option String)
  | helpLetter (tail : List Char)
  | stranger (text : String)
deriving DecidableEq, Repr

/-- The parts of a word before and after its first equals sign. -/
def splitValue (cs : List Char) : List Char × Option String :=
  match cs.dropWhile (· != '=') with
  | [] => (cs, none)
  | _ :: value => (cs.takeWhile (· != '='), some (String.ofList value))

/-- Whether a text is a number without a sign: digits, or digits after a point. -/
def isUnsigned (cs : List Char) : Bool :=
  match cs.dropWhile Text.isDecimal with
  | [] => cs != []
  | '.' :: fraction => fraction != [] && fraction.all Text.isDecimal
  | _ => false

/-- Whether what follows a minus sign is a number; a line break at the end does not count. -/
def isNumber (cs : List Char) : Bool :=
  isUnsigned (if cs.getLast? = some '\n' then cs.dropLast else cs)

/-- The flags that a name may mean: the one that it names in full, or those that it begins. -/
def meant (flags : List Flag) (name : List Char) : List Flag :=
  match flags.find? fun f => f.name.toList = name with
  | some f => [f]
  | none => flags.filter fun f => name.isPrefixOf f.name.toList

/-- Read a word that no flag begins with: negative numbers and words with a space are operands. -/
def readOther (text : String) (tail : List Char) : Word :=
  if isNumber tail || tail.contains ' ' then .operand text else .stranger text

/-- Read an argument that is not the separator. -/
def readWord (topic : Topic) (text : String) : Except Halt Word :=
  match text.toList with
  | ['-'] => .ok (.operand text)
  | '-' :: 'h' :: tail => .ok (.helpLetter tail)
  | '-' :: '-' :: tail =>
    let (name, value) := splitValue text.toList
    match meant topic.flags name with
    | [f] => .ok (.flag f value)
    | [] => .ok (readOther text ('-' :: tail))
    | several => .error (.misuse topic (.ambiguous text several))
  | '-' :: tail => .ok (readOther text tail)
  | _ => .ok (.operand text)

/-- Read all arguments; after the separator there are operands only. -/
def readWords (topic : Topic) : List String → Except Halt (List Word)
  | [] => .ok []
  | text :: rest =>
    if text = "--" then .ok (.separator :: rest.map .operand)
    else do
      let word ← readWord topic text
      let words ← readWords topic rest
      return word :: words

/-- What the letter for help leads to: help, unless something follows the letters `h`. A single
equals sign before what follows does not count. -/
def askByLetter (topic : Topic) (tail : List Char) : Halt :=
  match tail with
  | ['='] => .misuse topic (.needlessValue "")
  | _ =>
    let value := match tail with
      | '=' :: value => value
      | _ => tail
    match value.dropWhile (· == 'h') with
    | [] => .help topic
    | rest => .misuse topic (.needlessValue (String.ofList rest))

/-- What the flag for help leads to: help, unless it carries a value. -/
def askByFlag (topic : Topic) : Option String → Halt
  | none => .help topic
  | some value => .misuse topic (.needlessValue value)

/-- What a command has been given: its operand, whether that has its place, the module file, and
the words without a place. -/
structure Given where
  operand : Option String
  isPlaced : Bool
  moduleFile : Option String
  strays : List String
deriving DecidableEq, Repr

/-- A word without a place. -/
def Given.stray (g : Given) (text : String) : Given := { g with strays := g.strays ++ [text] }

/-- The module file that the value of its flag names; the separator names none. -/
def namedModuleFile (value : String) : Option String := if value = "--" then none else some value

/-- Take words in order. The first operand takes its place along with a separator beside it. -/
def take (topic : Topic) : Given → List Word → Except Halt Given
  | g, [] => .ok g
  | g, .stranger text :: rest => take topic (g.stray text) rest
  | g, .flag .moduleFile (some value) :: rest =>
    take topic { g with moduleFile := namedModuleFile value } rest
  | g, .flag .moduleFile none :: .operand value :: rest =>
    take topic { g with moduleFile := value } rest
  | _, .flag .moduleFile none :: _ => .error (.misuse topic .missingModuleFile)
  | _, .flag .help value :: _ => .error (askByFlag topic value)
  | _, .helpLetter tail :: _ => .error (askByLetter topic tail)
  | g, .operand text :: .separator :: rest =>
    if g.isPlaced then take topic ((g.stray text).stray "--") rest
    else take topic { g with operand := text, isPlaced := true } rest
  | g, .operand text :: rest =>
    if g.isPlaced then take topic (g.stray text) rest
    else take topic { g with operand := text, isPlaced := true } rest
  | g, .separator :: rest =>
    if g.isPlaced then take topic (g.stray "--") rest
    else
      match rest with
      | .operand text :: rest => take topic { g with operand := text, isPlaced := true } rest
      | rest => take topic { g with isPlaced := true } rest

/-- The module file of a new settings file. -/
def defaultModuleFile : String := "bin/WebApi.module.json"

/-- Read what follows the name of a command. -/
def readGiven (topic : Topic) (arguments : List String) : Except Halt Given := do
  take topic ⟨none, false, some defaultModuleFile, []⟩ (← readWords topic arguments)

/-- An invocation, unless words are left without a place. -/
def finish (strays : List String) (invocation : Invocation) : Except Halt Invocation :=
  if strays = [] then .ok invocation else .error (.misuse .general (.strayWords strays))

/-- Read a command by its name, after words without a place. -/
def readCommand (strays : List String) (name : String) (arguments : List String) :
    Except Halt Invocation :=
  if name = "init" then do
    let g ← readGiven .init arguments
    finish (strays ++ g.strays) (.init (g.operand.getD ".") g.moduleFile)
  else if name = "generate" then do
    let g ← readGiven .generate arguments
    finish (strays ++ g.strays) (.generate (g.operand.getD Settings.fileName))
  else .error (.misuse .general (.unknownCommand name))

/-- Read the arguments up to the name of a command, then the command. -/
def readFrom (strays : List String) : List String → Except Halt Invocation
  | [] =>
    .error (if strays = [] then .help .general else .misuse .general (.strayWords strays))
  | text :: rest =>
    if text = "--" then
      .error (.misuse .general
        (if rest = [] then .strayWords (strays ++ [text]) else .unknownCommand text))
    else do
      match ← readWord .general text with
      | .flag _ value => .error (askByFlag .general value)
      | .helpLetter tail => .error (askByLetter .general tail)
      | .stranger text => readFrom (strays ++ [text]) rest
      | _ => readCommand strays text rest

/-- The invocation that arguments make. -/
def read (arguments : List String) : Except Halt Invocation := readFrom [] arguments

/-- A misuse in words. -/
def Misuse.message : Misuse → String
  | unknownCommand name =>
    "argument COMMAND: invalid choice: " ++ Text.quoted name
      ++ " (choose from 'init', 'generate')"
  | strayWords words => "unrecognized arguments: " ++ String.intercalate " " words
  | ambiguous word flags =>
    "ambiguous option: " ++ word ++ " could match "
      ++ String.intercalate ", " (flags.map Flag.name)
  | needlessValue value =>
    "argument -h/--help: ignored explicit argument " ++ Text.quoted value
  | missingModuleFile => "argument --module: expected one argument"

end ApiClient.Command
