import InfluxKeeper.Command.Line

/-!
# Commands and their usage

The program has three commands, each about the resources of a manifest file: one creates or updates them,
one deletes them, and one shows how they stand. Every command, and the program itself, has a page of help
with its usage and its switches, wrapped to the width of a page.
-/

namespace InfluxKeeper.Command

open Text

/-- The commands, by what they do to the resources of a manifest. -/
inductive Verb
  | apply
  | delete
  | get
  deriving DecidableEq, Repr

/-- The name of the program. -/
def programName : String := "cli"

/-- What the program is for. -/
def programSummary : String := "InfluxDB reconciler CLI - kubectl-like interface for InfluxDB resources"

/-- The name of the argument of every command. -/
def fileArgument : String := "FILENAME"

namespace Switch

/-- The switch for another server. -/
def endpoint : Switch := ⟨"--endpoint", none, .text, "InfluxDB URL, overrides INFLUXDB_ENDPOINT"⟩

/-- The switch for the number of passes. -/
def maxPasses (help : String) : Switch := ⟨"--max-passes", none, .atLeast 1, help⟩

/-- The switch for the form of the output. -/
def output : Switch := ⟨"--output", some 'o', .oneOf ["table", "yaml"], ""⟩

/-- The switch that has events shown. -/
def events : Switch := ⟨"--events", none, .nothing, "Print reconciliation events"⟩

/-- The switch that answers the question beforehand. -/
def yes : Switch := ⟨"--yes", none, .nothing, "Confirm the action without prompting."⟩

end Switch

namespace Verb

/-- All commands. -/
def all : List Verb := [apply, delete, get]

/-- The name of a command. -/
def name : Verb → String
  | apply => "apply"
  | delete => "delete"
  | get => "get"

/-- The command of a name. -/
def ofName? (s : String) : Option Verb := all.find? (·.name = s)

/-- Every command is found by its name. -/
@[simp] theorem ofName?_name (v : Verb) : ofName? v.name = some v := by
  cases v <;> decide

/-- What a command does. -/
def summary : Verb → String
  | apply => "Create or update the resources of a YAML/JSON manifest"
  | delete => "Delete the resources of a YAML/JSON manifest"
  | get => "Show whether the resources of a manifest exist and are up to date"

/-- The switches of a command. -/
def switches : Verb → List Switch
  | apply => [.endpoint, .maxPasses "Passes per kind before giving up on a changing record", .output,
      .events, .askHelp]
  | delete => [.endpoint, .maxPasses "", .yes, .askHelp]
  | get => [.endpoint, .askHelp]

end Verb

/-! ## Pages of help -/

/-- The width of a page. -/
def pageWidth : Nat := 78

/-- Words set in lines of a width, given the line under way. A word that does not fit starts a line. -/
def wrapFrom (width : Nat) (line : String) : List String → List String
  | [] => [line]
  | word :: rest =>
    if line.length + 1 + word.length ≤ width then wrapFrom width (line ++ " " ++ word) rest
    else line :: wrapFrom width word rest

/-- A text set in lines of a width. -/
def wrap (width : Nat) (text : String) : List String :=
  match text.splitOn " " with
  | [] => []
  | word :: rest => wrapFrom width word rest

/-- Pairs of a term and a text, set in two columns. -/
def twoColumns (rows : List (String × String)) : List String :=
  let first := rows.foldl (fun n r => max n r.1.length) 0 + 2
  rows.flatMap fun r =>
    let term := "  " ++ r.1
    match wrap (pageWidth - first - 2) r.2 with
    | [] => [term]
    | line :: rest =>
      if r.2 = "" then [term]
      else
        (term ++ "".pushn ' ' (first - r.1.length) ++ line) ::
          rest.map fun more => "".pushn ' ' (first + 2) ++ more

/-- What a switch is called and takes, as it stands in help. -/
def Switch.term (s : Switch) : String :=
  let short := match s.short with
    | some c => String.ofList ['-', c] ++ ", "
    | none => ""
  let value := match s.takes with
    | .nothing => ""
    | .text => " TEXT"
    | .atLeast _ => " INTEGER RANGE"
    | .oneOf words => " [" ++ "|".intercalate words ++ "]"
  short ++ s.long ++ value

/-- What a switch is for, as it stands in help. -/
def Switch.explanation (s : Switch) : String :=
  match s.takes with
  | .atLeast least =>
    (if s.help = "" then "" else s.help ++ "  ") ++ "[x>=" ++ toString least ++ "]"
  | _ => s.help

/-- How the program is called, up to a command. -/
def programUsage : String := "Usage: " ++ programName ++ " [OPTIONS] COMMAND [ARGS]...\n"

/-- How a command is called. -/
def Verb.usage (v : Verb) : String :=
  "Usage: " ++ programName ++ " " ++ v.name ++ " [OPTIONS] " ++ fileArgument ++ "\n"

/-- A page of help: the usage, what it is for, and sections. -/
def page (usage summary : String) (sections : List (String × List (String × String))) : String :=
  let block (s : String × List (String × String)) : List String :=
    ["", s.1 ++ ":"] ++ twoColumns s.2
  usage ++ "\n".intercalate (["", "  " ++ summary] ++ sections.flatMap block) ++ "\n"

/-- The rows of switches on a page of help. -/
def switchRows (switches : List Switch) : List (String × String) :=
  switches.map fun s => (s.term, s.explanation)

/-- The page of help of the program. -/
def programHelp : String :=
  page programUsage programSummary [
    ("Options", switchRows [.askHelp]), ("Commands", Verb.all.map fun v => (v.name, v.summary))]

/-- The page of help of a command. -/
def Verb.help (v : Verb) : String := page v.usage v.summary [("Options", switchRows v.switches)]

/-- A hint on where help is found. -/
def hint (path : String) : String := "Try '" ++ path ++ " --help' for help.\n"

/-- The text of a fault in a command line, with the usage and the hint if it shows them. -/
def UsageFault.text (usage path : String) (f : UsageFault) : String :=
  (if f.showsUsage then usage ++ hint path ++ "\n" else "") ++ "Error: " ++ f.message ++ "\n"

end InfluxKeeper.Command
