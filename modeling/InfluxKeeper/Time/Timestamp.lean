import InfluxKeeper.Time.Calendar

/-!
# Points in time

A timestamp is a date and a time of day, with or without the distance of its clock from universal time.
It is written in three ways: for records (`Z` for universal time), for events and messages (`+00:00`),
and as its parts.
-/

namespace InfluxKeeper

/-- A date and time of day with microseconds, and the minutes by which its clock is ahead of universal
time, if that is known. -/
structure Timestamp where
  date : Date
  hour : Nat
  minute : Nat
  second : Nat
  micro : Nat
  offset : Option Int
  deriving DecidableEq, Repr

namespace Timestamp

/-- Midnight of a date, on no particular clock. -/
def midnight (d : Date) : Timestamp := ⟨d, 0, 0, 0, 0, none⟩

/-- The point in time a number of seconds after the start of 1970, in universal time. -/
def ofSeconds (seconds : Int) (micro : Nat) : Timestamp :=
  let days := Int.fdiv seconds 86400
  let rest := (seconds - days * 86400).toNat
  ⟨Date.ofDays days, rest / 3600, rest / 60 % 60, rest % 60, micro, some 0⟩

/-- A distance from universal time as sign, hours and minutes. -/
def offsetText (minutes : Int) : String :=
  (if minutes < 0 then "-" else "+") ++ padded 2 (minutes.natAbs / 60) ++ ":" ++
    padded 2 (minutes.natAbs % 60)

/-- The time of day, with six digits of a second unless they are all zero. -/
def clockText (t : Timestamp) : String :=
  padded 2 t.hour ++ ":" ++ padded 2 t.minute ++ ":" ++ padded 2 t.second ++
    (if t.micro = 0 then "" else "." ++ padded 6 t.micro)

/-- A timestamp with a given text between date and time and a given text for universal time. -/
def render (between universal : String) (t : Timestamp) : String :=
  t.date.text ++ between ++ t.clockText ++
    match t.offset with
    | none => ""
    | some 0 => universal
    | some minutes => offsetText minutes

/-- The text of a timestamp in a record. -/
def recordText : Timestamp → String := render "T" "Z"

/-- The text of a timestamp of an event. -/
def eventText : Timestamp → String := render "T" "+00:00"

/-- The text of a timestamp within a message. -/
def messageText : Timestamp → String := render " " "+00:00"

end Timestamp

end InfluxKeeper
