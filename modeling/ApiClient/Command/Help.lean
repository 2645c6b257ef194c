import ApiClient.Command.Arguments

/-!
The texts of usage and help.
-/

set_option autoImplicit false

namespace ApiClient.Command

/-- The program's name, with that of a command. -/
def Topic.program : Topic → String
  | general => "webapits"
  | init => "webapits init"
  | generate => "webapits generate"

/-- How a topic is used, in one line. -/
def Topic.usage (t : Topic) : String :=
  "usage: " ++ t.program ++ match t with
    | general => " [-h] COMMAND ..."
    | init => " [-h] [--module MODULE] [directory]"
    | generate => " [-h] [config]"

/-- What a topic is about, line by line. -/
def Topic.description : Topic → List String
  | general => ["webapits - generate TypeScript clients from Web API metadata"]
  | init => ["Create a " ++ Settings.fileName ++ " configuration file with default settings."]
  | generate => [
      "Read the module descriptor named in the configuration and write the TypeScript",
      "documents."]

/-- The operands of a topic, line by line. -/
def Topic.operands : Topic → List String
  | general => [
      "  COMMAND",
      "    init      Write a starter configuration file",
      "    generate  Generate TypeScript endpoints, service, enums and interfaces"]
  | init => [
      "  directory        Directory to write the configuration to (default: current",
      "                   directory)"]
  | generate => [
      "  config      Path to the configuration file (default: " ++ Settings.fileName ++ ")"]

/-- The flags of a topic, line by line. -/
def Topic.options : Topic → List String
  | init => [
      "  -h, --help       show this help message and exit",
      "  --module MODULE  Path of the Web API module descriptor, relative to the",
      "                   configuration file"]
  | _ => ["  -h, --help  show this help message and exit"]

/-- The help on a topic, line by line. -/
def Topic.help (t : Topic) : List String :=
  [t.usage, ""] ++ t.description ++ ["", "positional arguments:"] ++ t.operands
    ++ ["", "options:"] ++ t.options

/-- The lines that answer a misuse. -/
def Misuse.report (topic : Topic) (problem : Misuse) : List String :=
  [topic.usage, topic.program ++ ": error: " ++ problem.message]

end ApiClient.Command
