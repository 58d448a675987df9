import InfluxKeeper.Schema.Issue
import InfluxKeeper.Text.Utf8

/-!
# Checks of values

The checks that fields of records are made of. They are lenient where a value can be read in one way
only: numbers may be given as text, truth values as numbers or words, points in time as text or numbers.
A field is given under either of two names; the first wins.
-/

namespace InfluxKeeper.Schema

open Text

/-- A text, also given as its octets. -/
def text : Value → Checked String
  | .text s => .valid s
  | .scalar (.bytes octets) =>
    match Utf8.decode octets with
    | .ok s => .valid (String.ofList s)
    | .error _ => .reject .badText
  | _ => .reject .notText

/-- The text of a text or of octets, none for another value and a flaw for octets that are no text. -/
def textOf? (flaw : Flaw) : Value → Option (Checked String)
  | .text s => some (.valid s)
  | .scalar (.bytes octets) =>
    match Utf8.decode octets with
    | .ok s => some (.valid (String.ofList s))
    | .error _ => some (.reject flaw)
  | _ => none

/-- The whole number that a double is, within 64 bits. -/
def wholeNumber (x : Binary64) : Checked Int :=
  match x.ratio?, x.toInt? with
  | none, _ => .reject .notFinite
  | some _, none => .reject .integerFraction
  | some _, some n =>
    if -Time.maxInt64 ≤ n ∧ n ≤ Time.maxInt64 then .valid n else .reject .integerSize

/-- A whole number, also given as a truth value, a double or a text. -/
def integer (v : Value) : Checked Int :=
  match textOf? .integerText v with
  | some s => s.andThen fun s =>
    match readFieldInteger s with
    | .ok n => .valid n
    | .error .malformed => .reject .integerText
    | .error (.tooLong _) => .reject .integerSize
  | none =>
    match v with
    | .bool b => .valid (if b then 1 else 0)
    | .int n => .valid n
    | .float x => wholeNumber x
    | _ => .reject .notInteger

/-- The words for true and false. -/
def booleanWords : List (String × Bool) := [
  ("0", false), ("off", false), ("f", false), ("false", false), ("n", false), ("no", false),
  ("1", true), ("on", true), ("t", true), ("true", true), ("y", true), ("yes", true)]

/-- The truth value of a whole number: only 0 and 1 have one. -/
def booleanOfInteger (n : Int) : Checked Bool :=
  if n = 0 then .valid false else if n = 1 then .valid true else .reject .booleanText

/-- A truth value, also given as 0 or 1 or as a word in any case. -/
def boolean (v : Value) : Checked Bool :=
  match textOf? .booleanText v with
  | some s => s.andThen fun s =>
    match booleanWords.lookup (s.map Char.toLower) with
    | some b => .valid b
    | none => .reject .booleanText
  | none =>
    match v with
    | .bool b => .valid b
    | .int n => if Time.isInt64 n then booleanOfInteger n else .reject .notBoolean
    | .float x =>
      match wholeNumber x with
      | .valid n => booleanOfInteger n
      | .invalid _ => .reject .notBoolean
    | _ => .reject .notBoolean

/-- The outcome of reading a point in time. -/
def ofTime : Except Time.Fault Timestamp → Checked Timestamp
  | .ok t => .valid t
  | .error fault => .reject (.time fault)

/-- The point in time that a number gives. -/
def ofNumber (t : Except Time.Flaw Timestamp) : Checked Timestamp :=
  ofTime ((t.mapError .asTime).bind Time.rejectYearZero)

/-- A point in time, also given as text or octets, as a number or as a date. Octets that are no text
fail where the text of a time would. -/
def time (v : Value) : Checked Timestamp :=
  match v with
  | .text s => ofTime (Time.ofText s.toList)
  | .scalar (.bytes octets) =>
    ofTime (Time.ofText ((Utf8.decode octets).toOption.getD (Utf8.oneByOne octets)))
  | .scalar (.time t) => .valid t
  | .scalar (.date d) => .valid (.midnight d)
  | .int n =>
    if Time.isInt64 n then ofNumber (Time.ofInt n)
    else
      let x := Binary64.ofInt n
      if (x.ratio?).isNone then .reject .notTime else ofNumber (Time.ofBinary64 x)
  | .float x => ofNumber (Time.ofBinary64 x)
  | _ => .reject .notTime

/-- A value that may be null. -/
def optional {α : Type} (check : Value → Checked α) : Value → Checked (Option α)
  | .null => .valid none
  | v => some <$> check v

/-- A text, kept as a value. -/
def textValue (v : Value) : Checked Value := .text <$> text v

/-- A text that may be null, kept as a value. -/
def optionalText : Value → Checked Value
  | .null => .valid .null
  | v => textValue v

/-- The items of a list. A set or a tuple counts as a list. -/
def items? : Value → Option (List Value)
  | .list items => some items
  | .tuple items => some items
  | .set items => some (items.map .scalar)
  | _ => none

/-- Every item of a list. -/
def list {α : Type} (check : Value → Checked α) (v : Value) : Checked (List α) :=
  match items? v with
  | some items => .all (items.zipIdx.map fun (item, i) => (check item).under (.index i))
  | none => .reject .notList

/-- The step to the entry under a key: a whole number or truth value by its number, and whatever is
no text as it is quoted. -/
def stepTo : Scalar → Step
  | .text s => .key s
  | .bool b => .index (if b then 1 else 0)
  | .int n => if Time.isInt64 n then .index n else .key (toString n)
  | key => .key key.quoted

/-- An entry of a map of texts: the issues of its key stand before those of its value. -/
def textEntry (entry : Scalar × Value) : Checked (String × String) :=
  Prod.mk <$> ((text (.scalar entry.1)).under (.key "[key]")).under (stepTo entry.1)
    <*> (text entry.2).under (stepTo entry.1)

/-- Entries by key: a key given again keeps its place and takes the later value. -/
def byKey {α : Type} (entries : List (String × α)) : List (String × α) :=
  entries.foldl (fun acc e =>
    if acc.any (·.1 == e.1) then acc.map fun a => if a.1 == e.1 then e else a else acc ++ [e]) []

/-- A map of texts. -/
def textMap : Value → Checked (List (String × String))
  | .map entries => byKey <$> .all (entries.map textEntry)
  | _ => .reject .notMap

/-- A map of texts, which are kept as values. -/
def textValues (v : Value) : Checked (List (String × Value)) :=
  (·.map fun e => (e.1, .text e.2)) <$> textMap v

/-- The entries of a model, given as a map. -/
def model {α : Type} (name : String) (check : Entries → Checked α) : Value → Checked α
  | .map entries => check entries
  | _ => .reject (.notModel name)

/-- A field under its first or second name, or what stands for it if it is absent. -/
def field {α : Type} (entries : Entries) (first second : String) (absent : Checked α)
    (check : Value → Checked α) : Checked α :=
  match entries.get? first, entries.get? second with
  | some v, _ => (check v).under (.key first)
  | none, some v => (check v).under (.key second)
  | none, none => absent

/-- A field that has to be there. -/
def required {α : Type} (entries : Entries) (first second : String)
    (check : Value → Checked α) : Checked α :=
  field entries first second ((Checked.reject .missing).under (.key first)) check

/-- A field with a default. -/
def fieldOr {α : Type} (entries : Entries) (first second : String) (default : α)
    (check : Value → Checked α) : Checked α :=
  field entries first second (pure default) check

end InfluxKeeper.Schema
