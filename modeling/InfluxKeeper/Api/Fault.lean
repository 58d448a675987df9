import InfluxKeeper.Json.Reader
import InfluxKeeper.Schema.Issue
import InfluxKeeper.Value.Equal

/-!
# Faults

What can go wrong while talking to the server and while making sense of its answers. Each fault has a text
and says whether it means that something does not exist.
-/

namespace InfluxKeeper

/-- What can go wrong. -/
inductive Fault
  /-- A call did not give what was asked for. -/
  | failed (message : String)
  /-- The server answered with a status that tells of an error. -/
  | status (code : Int) (message : Value)
  /-- The server could not be reached. -/
  | unreachable (message : String)
  /-- The server did not answer in time. -/
  | timedOut
  /-- The call was called off. -/
  | cancelled
  /-- An answer was no JSON. -/
  | badJson (error : Json.Error)
  /-- A value that should have had entries is of another type. -/
  | noEntries (typeName wanted : String)
  /-- A value that should have had items is of another type. -/
  | noItems (typeName : String)
  /-- A value that should have had a first item is of another type. -/
  | noFirst (typeName : String)
  /-- A list that should have held pairs holds something else at a place. -/
  | noPair (place : Nat)
  /-- A list that should have held pairs holds a sequence of another length at a place. -/
  | badPair (place length : Nat)
  /-- A list or map was used as a key. -/
  | badKey (typeName : String)
  /-- There is no entry under a key. -/
  | missingKey (key : Scalar)
  /-- A value does not fit its model. -/
  | rejected (rejection : Schema.Rejection)
  /-- A value is out of its range. -/
  | badValue (message : String)
  deriving DecidableEq

namespace Fault

/-- The status that says that something does not exist. -/
def notFoundStatus : Int := 404

/-- The text of a fault. -/
def message : Fault → String
  | failed message => message
  | status code message => "HTTP " ++ toString code ++ ": " ++ message.shown
  | unreachable message => message
  | timedOut => ""
  | cancelled => ""
  | badJson error => error.message
  | noEntries typeName wanted => "'" ++ typeName ++ "' object has no attribute '" ++ wanted ++ "'"
  | noItems typeName => "'" ++ typeName ++ "' object is not iterable"
  | noFirst typeName => "'" ++ typeName ++ "' object is not subscriptable"
  | noPair place => "cannot convert dictionary update sequence element #" ++ toString place ++
      " to a sequence"
  | badPair place length => "dictionary update sequence element #" ++ toString place ++
      " has length " ++ toString length ++ "; 2 is required"
  | badKey typeName => "unhashable type: '" ++ typeName ++ "'"
  | missingKey key => key.quoted
  | rejected rejection => rejection.title
  | badValue message => message

/-- The text that says that something of a kind and name does not exist. -/
def notFoundMessage (kind name : String) : String := kind ++ " '" ++ name ++ "' not found"

/-- Whether letters hold others, one after the other, somewhere. -/
def lettersHold (part : List Char) : List Char → Bool
  | [] => part.isEmpty
  | c :: rest => part.isPrefixOf (c :: rest) || lettersHold part rest

/-- Whether a text holds another. -/
def holds (text part : String) : Bool := lettersHold part.toList text.toList

/-- Letters hold others exactly if the others are a part of them. -/
theorem lettersHold_iff (part s : List Char) : lettersHold part s = true ↔ part <:+: s := by
  induction s with
  | nil => simp [lettersHold]
  | cons c rest ih => simp [lettersHold, ih, List.infix_cons_iff]

/-- Whether a fault means that what was looked up does not exist: by its status, or by its text if the
kind and name looked up are given. -/
def isNotFound (fault : Fault) (lookedUp : Option (String × String)) : Bool :=
  match fault with
  | status code _ => code == notFoundStatus || byText
  | _ => byText
where
  byText : Bool :=
    match lookedUp with
    | some (kind, name) => holds fault.message (notFoundMessage kind name)
    | none => false

/-- Whether a fault can be reported. A call that was called off is not. -/
def isOrdinary : Fault → Bool
  | cancelled => false
  | _ => true

end Fault

/-- The outcome of a lookup: nothing, if what was looked up does not exist. -/
def findOrNone (lookedUp : Option (String × String)) (outcome : Except Fault Value) :
    Except Fault (Option Value) :=
  match outcome with
  | .ok v => .ok (if v.isNull then none else some v)
  | .error fault =>
    if fault.isOrdinary && fault.isNotFound lookedUp then .ok none else .error fault

end InfluxKeeper
