import InfluxKeeper.Number.Integer
import InfluxKeeper.Number.Shortest
import InfluxKeeper.Text.Quoted
import InfluxKeeper.Value.Basic

/-!
# Text of values

A value stands in a message in one of two forms: shown, where a text stands as it is, and quoted, where
a text is put in quotes. The parts of lists and maps are always quoted.

A whole number with more digits than are read has no text, and neither has what holds one.
-/

namespace InfluxKeeper

open Text

/-- A distance from universal time, quoted. -/
def quotedOffset : Option Int → String
  | none => ""
  | some 0 => ", tzinfo=datetime.timezone.utc"
  | some minutes =>
    let days := Int.fdiv minutes 1440
    let seconds := (minutes - days * 1440) * 60
    ", tzinfo=datetime.timezone(datetime.timedelta(" ++
      (if days = 0 then "" else "days=" ++ toString days ++ if seconds = 0 then "" else ", ") ++
      (if seconds = 0 then "" else "seconds=" ++ toString seconds) ++ "))"

/-- The parts of a date, quoted. -/
def quotedDateParts (d : Date) : String :=
  toString d.year ++ ", " ++ toString d.month ++ ", " ++ toString d.day

/-- A point in time, quoted: zero seconds and zero microseconds are left out from the right. -/
def quotedTime (t : Timestamp) : String :=
  "datetime.datetime(" ++ quotedDateParts t.date ++ ", " ++ toString t.hour ++ ", " ++
    toString t.minute ++
    (if t.second = 0 ∧ t.micro = 0 then "" else ", " ++ toString t.second) ++
    (if t.micro = 0 then "" else ", " ++ toString t.micro) ++ quotedOffset t.offset ++ ")"

/-- A scalar, quoted. -/
def Scalar.quoted : Scalar → String
  | .null => "None"
  | .bool b => if b then "True" else "False"
  | .int n => toString n
  | .float x => x.shortest
  | .text s => Text.quoted s
  | .bytes octets => quotedBytes octets
  | .date d => "datetime.date(" ++ quotedDateParts d ++ ")"
  | .time t => quotedTime t

/-- A scalar, shown. -/
def Scalar.shown : Scalar → String
  | .text s => s
  | .date d => d.text
  | .time t => t.messageText
  | s => s.quoted

namespace Value

mutual

/-- A value, quoted. -/
def quoted : Value → String
  | .scalar s => s.quoted
  | .list items => "[" ++ ", ".intercalate (quotedItems items) ++ "]"
  | .map entries => "\x7b" ++ ", ".intercalate (quotedEntries entries) ++ "\x7d"
  | .tuple [] => "()"
  | .tuple [item] => "(" ++ quoted item ++ ",)"
  | .tuple items => "(" ++ ", ".intercalate (quotedItems items) ++ ")"
  | .set [] => "set()"
  | .set items => "\x7b" ++ ", ".intercalate (items.map Scalar.quoted) ++ "\x7d"

/-- The items of a list, quoted. -/
def quotedItems : List Value → List String
  | [] => []
  | item :: rest => quoted item :: quotedItems rest

/-- The entries of a map, quoted. -/
def quotedEntries : List (Scalar × Value) → List String
  | [] => []
  | (key, item) :: rest => (key.quoted ++ ": " ++ quoted item) :: quotedEntries rest

end

/-- A value, shown. -/
def shown : Value → String
  | .scalar s => s.shown
  | v => v.quoted

@[simp] theorem shown_text (s : String) : shown (.text s) = s := rfl

end Value

/-! ## What has a text -/

/-- Whether a scalar has a text. -/
def Scalar.hasText : Scalar → Bool
  | .int n => n.natAbs < Nat.pow 10 maxDigits
  | _ => true

namespace Value

mutual

/-- Whether a value has a text. -/
def hasText : Value → Bool
  | .scalar s => s.hasText
  | .list items => itemsHaveText items
  | .map entries => entriesHaveText entries
  | .tuple items => itemsHaveText items
  | .set items => items.all Scalar.hasText

/-- Whether all items of a list have a text. -/
def itemsHaveText : List Value → Bool
  | [] => true
  | item :: rest => hasText item && itemsHaveText rest

/-- Whether all keys and values of a map have a text. -/
def entriesHaveText : List (Scalar × Value) → Bool
  | [] => true
  | (key, item) :: rest => key.hasText && hasText item && entriesHaveText rest

end

end Value

/-- The wording for a value that has no text. -/
def noText : String :=
  "Exceeds the limit (" ++ toString maxDigits ++
    " digits) for integer string conversion; use sys.set_int_max_str_digits() to increase the limit"

end InfluxKeeper
