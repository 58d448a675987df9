import InfluxKeeper.Command.Table
import InfluxKeeper.Command.Usage
import InfluxKeeper.Manifest.File
import InfluxKeeper.Reconcile.Converge
import InfluxKeeper.Settings

/-!
# Running a command

A run of the program takes what surrounds it, that is the environment, the files, the lines typed and the
wire to the server, and gives a report: what was said, the exit code, and the wire afterwards. The report
shows how much of the typed lines and of the wire was used, so a run can be repeated with more of either
until nothing is missing.
-/

namespace InfluxKeeper.Command

open Text

/-- What surrounds a run. -/
structure Surroundings where
  environment : Environment
  file : String → Manifest.FileState
  lines : List String
  wire : Api.Wire

/-- A piece of a conversation: output, a warning, or a line typed in answer. -/
inductive Utterance
  | said (text : String)
  | warned (text : String)
  | typed (line : String)
  deriving DecidableEq, Repr

/-- Output without control sequences. -/
def say (text : String) : Utterance := .said (String.ofList (withoutControls text.toList))

/-- A warning without control sequences. -/
def warn (text : String) : Utterance := .warned (String.ofList (withoutControls text.toList))

/-- What keeps a run from a report of its own. Work can break it off, or never end. -/
inductive Breakdown
  | file (fault : Manifest.FileFault)
  | work (halt : Fleet.Halt)
  | logLevel (name : String)
  deriving DecidableEq

/-- The outcome of a run: what was said, the exit code, the wire afterwards, how often a line was waited
for, and what broke the run off. A run that never ends does not exit, and its code means nothing. -/
structure Report where
  talk : List Utterance
  code : Nat
  wire : Api.Wire
  questions : Nat
  breakdown : Option Breakdown

/-! ## Questions -/

/-- The question before anything is deleted. -/
def deleteQuestion : String := "Are you sure you want to delete these resources? [y/N]: "

/-- The answer that a line is, if it is one. An empty line is a no. -/
def answer? (line : String) : Option Bool :=
  let word := String.ofList ((strip isBlank line.toList).map Char.toLower)
  if word = "y" ∨ word = "yes" then some true
  else if word = "n" ∨ word = "no" ∨ word = "" then some false
  else none

/-- The outcome of a question: what was said and typed, whether the answer is yes, and how often a line was
waited for. -/
structure Answered where
  talk : List Utterance
  yes : Bool
  questions : Nat

/-- Asks until a line is an answer. Where lines end, the answer is no. -/
def ask (question : String) : List String → Answered
  | [] => ⟨[say question], false, 1⟩
  | line :: rest =>
    match answer? line with
    | some yes => ⟨[say question, .typed line], yes, 1⟩
    | none =>
      let later := ask question rest
      ⟨[say question, .typed line, say "Error: invalid input\n"] ++ later.talk, later.yes,
        later.questions + 1⟩

/-! ## Work -/

/-- The switches of a command as they were given. -/
structure Choices where
  endpoint : String
  maxPasses : Option Int
  yaml : Bool
  events : Bool
  yes : Bool

/-- The choices that switches give, the endpoint from the settings unless another one is given. -/
def Choices.ofGiven (settings : ServerSettings) (given : Given) : Choices where
  endpoint :=
    match given.last? Switch.endpoint.long with
    | some s => if s = "" then settings.endpoint else s
    | none => settings.endpoint
  maxPasses := (given.last? (Switch.maxPasses "").long).bind fun s => (readSettingInteger s).toOption
  yaml := given.last? Switch.output.long == some "yaml"
  events := (given.last? Switch.events.long).isSome
  yes := (given.last? Switch.yes.long).isSome

/-- What identifies the resource of a record to a reader: its id, or else its external name. -/
def shownId (r : Record) : String := (r.observedId.orElse r.externalName).shown

/-- The mark of success or failure. -/
def mark (good : Bool) : String := if good then "✓" else "✗"

/-- The lines of events; warnings are warned of. -/
def eventTalk (events : List Event) : List Utterance :=
  events.map fun e => if e.type.warning then warn (e.line ++ "\n") else say (e.line ++ "\n")

/-- The table of results of records. -/
def resultTable (records : List Record) (results : List Result) : String :=
  Table.render ["Kind", "Name", "ID", "Action", "Synced", "Message"]
    ((records.zip results).map fun x =>
      [x.2.kind.name, x.2.name, shownId x.1, x.2.action.name, mark x.2.success, x.2.message])

/-- The table of what looking at records told. -/
def sightTable (records : List Record) (sights : List Fleet.Sight) : String :=
  Table.render ["Kind", "Name", "ID", "Exists", "Up to date", "Message"]
    ((records.zip sights).map fun x =>
      [x.1.kind.name, x.1.name, if x.2.present then shownId x.1 else "", mark x.2.present,
        mark (x.2.present && x.2.upToDate), x.2.message])

/-- A report that is broken off. -/
def Report.broken (talk : List Utterance) (wire : Api.Wire) (b : Breakdown) : Report :=
  ⟨talk, 1, wire, 0, some b⟩

/-- The report that ends with a table, and with a code that says whether all is good. -/
def Report.ofTable (talk : List Utterance) (wire : Api.Wire) (good : Bool) (table : String) : Report :=
  ⟨talk ++ [say (table ++ "\n")], if good then 0 else 1, wire, 0, none⟩

/-- Applies or deletes records: reconciles them until they are settled and reports the results. -/
def settleRecords (v : Verb) (o : Choices) (setup : Setup) (records : List Record)
    (wire : Api.Wire) : Report :=
  let marked := match v with
    | .delete => records.map (·.markForDeletion wire.now)
    | _ => records
  -- what refers to others is deleted before them
  let kinds := match v with
    | .delete => Kind.all.reverse
    | _ => Kind.all
  let (outcome, fleet) := (Fleet.mk marked wire []).converge setup none (List.range records.length)
    o.maxPasses (kinds.map Kind.name)
  let talk := if o.events then eventTalk fleet.events else []
  match outcome with
  | .error halt => .broken talk fleet.wire (.work halt)
  | .ok results =>
    let good := results.all (·.success)
    if o.yaml then
      ⟨talk ++ [say (Manifest.dump fleet.records)], if good then 0 else 1, fleet.wire, 0, none⟩
    else .ofTable talk fleet.wire good (resultTable fleet.records results)

/-- Looks at records and reports how they stand. -/
def showRecords (setup : Setup) (records : List Record) (wire : Api.Wire) : Report :=
  let (outcome, fleet) := (Fleet.mk records wire []).observeAll setup (List.range records.length)
  match outcome with
  | .error fault => .broken [] fleet.wire (.work (.fault fault))
  | .ok sights =>
    .ofTable [] fleet.wire (sights.all (·.message == "")) (sightTable fleet.records sights)

/-- Runs a command on the records of a file. -/
def perform (v : Verb) (settings : Settings) (o : Choices) (path : String) (file : Manifest.FileState)
    (wire : Api.Wire) : Report :=
  match Manifest.ofFile wire.now path file with
  | .error fault =>
    if fault.reported then ⟨[warn ("Error: " ++ fault.message ++ "\n")], 1, wire, 0, none⟩
    else .broken [] wire (.file fault)
  | .ok records =>
    let client := Api.Client.connect o.endpoint settings.server.token settings.server.timeout
    match Setup.checked ⟨client, Kind.all, settings.work.maxPasses, settings.work.maxConcurrent⟩ with
    | .error fault => .broken [] wire (.work (.fault fault))
    | .ok setup =>
      match v with
      | .get => showRecords setup records wire
      | _ => settleRecords v o setup records wire

/-! ## The command line -/

/-- A report of a fault in the command line. -/
def misused (usage path : String) (wire : Api.Wire) (f : UsageFault) : Report :=
  ⟨[warn (f.text usage path)], 2, wire, 0, none⟩

/-- A report with something said, and nothing else. -/
def answered (u : Utterance) (code : Nat) (wire : Api.Wire) : Report := ⟨[u], code, wire, 0, none⟩

/-- A report with something said before it and questions asked before. -/
def Report.after (r : Report) (a : Answered) : Report :=
  { r with talk := a.talk ++ r.talk, questions := a.questions + r.questions }

/-- How a path that nothing can be read at is a fault of the command line. -/
def pathFlaw (path : String) : Manifest.PathFault → UsageFault
  | .directory => .badValue (quoted fileArgument) ("File " ++ quoted path ++ " is a directory.")
  | _ => .badValue (quoted fileArgument) ("File " ++ quoted path ++ " does not exist.")

/-- Runs a command with the words after its name. -/
def runVerb (v : Verb) (settings : Settings) (words : List String) (s : Surroundings) : Report :=
  let misused := misused v.usage (programName ++ " " ++ v.name) s.wire
  match parse v.switches false words with
  | .error f => misused f
  | .ok (given, arguments) =>
    if (given.last? Switch.askHelp.long).isSome then answered (say v.help) 0 s.wire
    else
      match given.flaw? v.switches, arguments with
      | some f, _ => misused f
      | none, [] => misused (.missingArgument fileArgument)
      | none, path :: extra =>
        match s.file path with
        | .noPath => .broken [] s.wire (.file .noPath)
        | .unreadable fault => misused (pathFlaw path fault)
        | file =>
          let o := Choices.ofGiven settings.server given
          let asked : Answered :=
            if v = .delete && !o.yes then ask deleteQuestion s.lines else ⟨[], true, 0⟩
          let rest :=
            if !asked.yes then answered (warn "Aborted!\n") 1 s.wire
            else if !extra.isEmpty then misused (.extraArguments extra)
            else perform v settings o path file s.wire
          rest.after asked

/-- The names of log levels. -/
def logLevels : List String :=
  ["CRITICAL", "FATAL", "ERROR", "WARN", "WARNING", "INFO", "DEBUG", "NOTSET"]

/-- Runs the program with the words of its command line. -/
def run (words : List String) (s : Surroundings) : Report :=
  let misused := misused programUsage programName s.wire
  let help := answered (say programHelp) 0 s.wire
  let asksHelp (given : Given) : Bool := (given.last? Switch.askHelp.long).isSome
  if words.isEmpty then answered (warn programHelp) 2 s.wire
  else
    match parse [.askHelp] true words with
    | .error f => misused f
    | .ok (given, rest) =>
      if asksHelp given then help
      else
        match rest with
        | [] => misused .missingCommand
        | name :: words =>
          match Verb.ofName? name with
          | none =>
            -- a name with a dash in front is taken for a switch once more
            match parse [.askHelp] true (name :: words) with
            | .error f => misused f
            | .ok (given, _) =>
              if asksHelp given then help
              else misused (.noSuchCommand name (suggestions name (Verb.all.map Verb.name)))
          | some v =>
            match Settings.ofEnvironment s.environment with
            | .error f => answered (warn ("Error: " ++ f.message ++ "\n")) 1 s.wire
            | .ok settings =>
              if logLevels.contains settings.logLevel then runVerb v settings words s
              else .broken [] s.wire (.logLevel settings.logLevel)

/-- The wording of what breaks a run off. -/
def Breakdown.message : Breakdown → String
  | file fault => fault.message
  | work (.fault fault) => fault.message
  -- what never ends says nothing
  | work .stalled => ""
  | logLevel name => "Unknown level: " ++ quoted name

end InfluxKeeper.Command
