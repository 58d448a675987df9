import InfluxKeeper.Record.Basic

/-!
# Events

An event tells that a resource was created, updated or deleted, or that something about it failed. Events
of failures are warnings.
-/

namespace InfluxKeeper

/-- What is done to a resource of the server. -/
inductive Mutation
  | create
  | update
  | delete
  deriving DecidableEq, Repr

/-- What an event tells. -/
inductive EventType
  | done (m : Mutation)
  | cannotObserve
  | cannot (m : Mutation)
  deriving DecidableEq, Repr

namespace EventType

/-- The name of a type of events. -/
def name : EventType → String
  | done .create => "CreatedExternalResource"
  | done .update => "UpdatedExternalResource"
  | done .delete => "DeletedExternalResource"
  | cannotObserve => "CannotObserveExternalResource"
  | cannot .create => "CannotCreateExternalResource"
  | cannot .update => "CannotUpdateExternalResource"
  | cannot .delete => "CannotDeleteExternalResource"

/-- All types of events. -/
def all : List EventType := [
  done .create, done .update, done .delete, cannotObserve, cannot .create, cannot .update,
  cannot .delete]

/-- The type of events of a name. -/
def ofName? (s : String) : Option EventType := all.find? (·.name = s)

/-- Every type is found by its name. -/
@[simp] theorem ofName?_name (t : EventType) : ofName? t.name = some t := by
  cases t with
  | cannotObserve => decide
  | _ m => cases m <;> decide

/-- The text that says that no type of events has a name. -/
def unknownMessage (s : String) : String := Text.quoted s ++ " is not a valid EventType"

/-- Whether events of a type tell of a failure. -/
def warning : EventType → Bool
  | done _ => false
  | cannotObserve => true
  | cannot _ => true

end EventType

/-- An event: what happened to which resource, with a message, and when. -/
structure Event where
  type : EventType
  kind : String
  name : String
  message : String
  timestamp : String
  deriving DecidableEq, Repr

/-- An event about a record. -/
def Event.ofRecord (type : EventType) (r : Record) (message : String) (now : Timestamp) : Event :=
  ⟨type, r.kind.name, r.name, message, now.eventText⟩

/-- An event on one line, without blanks at its end. -/
def Event.line (e : Event) : String :=
  String.ofList (Text.stripEnd Text.isBlank
    (e.timestamp ++ " " ++ e.type.name ++ " " ++ e.kind ++ "/" ++ e.name ++ " " ++ e.message).toList)

end InfluxKeeper
