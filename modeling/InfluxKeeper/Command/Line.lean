import InfluxKeeper.Number.Integer
import InfluxKeeper.Text.Similar

/-!
# Command lines

The words of a command line are switches and arguments. A long switch starts with two dashes and may hold
its value after an equals sign; short switches are single letters after one dash, the last of which may
hold its value after it. Two dashes alone say that only arguments follow.

Main statement: `parse_arguments` says that words without a dash in front are arguments in their order.
-/

namespace InfluxKeeper.Command

open Text

/-- What a switch takes. -/
inductive Takes
  | nothing
  | text
  | atLeast (least : Int)
  | oneOf (words : List String)
  deriving DecidableEq, Repr

/-- A switch: its names, what it takes, and what it is for. -/
structure Switch where
  long : String
  short : Option Char
  takes : Takes
  help : String
  deriving DecidableEq, Repr

/-- The switch that asks for help. -/
def Switch.askHelp : Switch := ⟨"--help", none, .nothing, "Show this message and exit."⟩

/-- Why a command line is not understood. -/
inductive UsageFault
  | noSuchSwitch (name : String) (similar : List String)
  | missingValue (name : String)
  | unwantedValue (name : String)
  | missingArgument (name : String)
  | extraArguments (words : List String)
  | badValue (place what : String)
  | noSuchCommand (name : String) (similar : List String)
  | missingCommand
  deriving DecidableEq, Repr

/-- The words that one could have meant, as a question after a message. -/
def meant : List String → String
  | [] => ""
  | [word] => " Did you mean " ++ quoted word ++ "?"
  | words => " (Did you mean one of: " ++ ", ".intercalate (words.map quoted) ++ "?)"

/-- The wording of a fault. -/
def UsageFault.message : UsageFault → String
  | noSuchSwitch name similar => "No such option " ++ quoted name ++ "." ++ meant similar
  | missingValue name => "Option " ++ quoted name ++ " requires an argument."
  | unwantedValue name => "Option " ++ quoted name ++ " does not take a value."
  | missingArgument name => "Missing argument '" ++ name ++ "'."
  | extraArguments [word] => "Got unexpected extra argument (" ++ word ++ ")"
  | extraArguments words => "Got unexpected extra arguments (" ++ " ".intercalate words ++ ")"
  | badValue place what => "Invalid value for " ++ place ++ ": " ++ what
  | noSuchCommand name similar => "No such command " ++ quoted name ++ "." ++ meant similar
  | missingCommand => "Missing command."

/-- Whether the usage is shown along with a fault. -/
def UsageFault.showsUsage : UsageFault → Bool
  | missingValue _ => false
  | unwantedValue _ => false
  | _ => true

/-! ## Words -/

/-- Switches given, by their long names, each with its value, the empty text if it takes none. -/
abbrev Given := List (String × String)

/-- What a word with switches gives: switches, and perhaps one more, with the name it was given under, that
takes the next word as its value. -/
structure WordSwitches where
  given : Given
  open? : Option (Switch × String)

/-- A long switch and the value attached to it, if there is one. -/
def readLong (switches : List Switch) (name : String) (value : Option String) :
    Except UsageFault WordSwitches :=
  match switches.find? (·.long = name) with
  | none => .error (.noSuchSwitch name (suggestions name (switches.map (·.long))))
  | some s =>
    if s.takes = .nothing then
      if value.isSome then .error (.unwantedValue name) else .ok ⟨[(s.long, "")], none⟩
    else
      match value with
      | some v => .ok ⟨[(s.long, v)], none⟩
      | none => .ok ⟨[], some (s, name)⟩

/-- Short switches, after the dash. -/
def readShort (switches : List Switch) : List Char → Except UsageFault WordSwitches
  | [] => .ok ⟨[], none⟩
  | c :: rest =>
    let name := String.ofList ['-', c]
    match switches.find? (·.short = some c) with
    | none => .error (.noSuchSwitch name [])
    | some s =>
      if s.takes = .nothing then
        (readShort switches rest).map fun w => { w with given := (s.long, "") :: w.given }
      else if rest.isEmpty then .ok ⟨[], some (s, name)⟩
      else .ok ⟨[(s.long, String.ofList rest)], none⟩

/-- The switches of a word that starts with a dash. A word with one dash that is no long switch is short
ones. -/
def readSwitches (switches : List Switch) (word : String) : Except UsageFault WordSwitches :=
  let s := word.toList
  let name := String.ofList (s.takeWhile (· != '='))
  let value := if s.contains '=' then some (String.ofList ((s.dropWhile (· != '=')).drop 1)) else none
  match readLong switches name value with
  | .error (.noSuchSwitch name similar) =>
    if s.take 2 = ['-', '-'] then .error (.noSuchSwitch name similar)
    else readShort switches (s.drop 1)
  | outcome => outcome

/-- Whether a word holds switches: it starts with a dash and is longer. -/
def isSwitch (word : String) : Bool := word.toList.head? == some '-' && 1 < word.toList.length

/-- The switches and arguments of a command line. Where arguments end the switches, all words from the
first argument on are arguments. -/
def parse (switches : List Switch) (argumentsEnd : Bool) :
    List String → Except UsageFault (Given × List String)
  | [] => .ok ([], [])
  | word :: rest =>
    if word = "--" then .ok ([], rest)
    else if isSwitch word then
      match readSwitches switches word with
      | .error fault => .error fault
      | .ok ⟨given, none⟩ =>
        (parse switches argumentsEnd rest).map fun r => (given ++ r.1, r.2)
      | .ok ⟨given, some (s, name)⟩ =>
        match rest with
        | [] => .error (.missingValue name)
        | value :: rest =>
          (parse switches argumentsEnd rest).map fun r => (given ++ (s.long, value) :: r.1, r.2)
    else if argumentsEnd then .ok ([], word :: rest)
    else (parse switches argumentsEnd rest).map fun r => (r.1, word :: r.2)

/-- Words without a dash in front are arguments. -/
theorem parse_arguments (switches : List Switch) {words : List String}
    (h : ∀ word ∈ words, isSwitch word = false) : parse switches false words = .ok ([], words) := by
  induction words with
  | nil => rfl
  | cons word rest ih =>
    have hw : isSwitch word = false := h word List.mem_cons_self
    have hd : word ≠ "--" := fun e => by
      rw [e] at hw
      exact absurd hw (by decide)
    simp [parse, hw, hd, ih fun w hm => h w (List.mem_cons_of_mem _ hm), Except.map]

/-- The value of a switch: that given last. -/
def Given.last? (given : Given) (name : String) : Option String := given.reverse.lookup name

/-! ## Values -/

/-- The names of a switch, in quotes. -/
def Switch.place (s : Switch) : String :=
  let short := match s.short with
    | some c => " / " ++ quoted (String.ofList ['-', c])
    | none => ""
  quoted s.long ++ short

/-- What is wrong with a value for a switch, if something is. -/
def Switch.flaw? (s : Switch) (value : String) : Option UsageFault :=
  match s.takes with
  | .nothing => none
  | .text => none
  | .atLeast least =>
    match readSettingInteger value with
    | .error _ => some (.badValue s.place (quoted value ++ " is not a valid integer range."))
    | .ok n =>
      if n < least then
        some (.badValue s.place (toString n ++ " is not in the range x>=" ++ toString least ++ "."))
      else none
  | .oneOf words =>
    if words.contains value then none
    else some (.badValue s.place
      (quoted value ++ " is not one of " ++ ", ".intercalate (words.map quoted) ++ "."))

/-- What is wrong with the values given, the first flaw in the order in which the switches were given
first. -/
def Given.flaw? (given : Given) (switches : List Switch) : Option UsageFault :=
  given.findSome? fun g =>
    (switches.find? (·.long = g.1)).bind fun s => s.flaw? ((given.last? g.1).getD g.2)

end InfluxKeeper.Command
