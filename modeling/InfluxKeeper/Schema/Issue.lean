import InfluxKeeper.Time.Reader
import InfluxKeeper.Value.Text

/-!
# Issues of a document

Checking a document finds every issue of it, not only the first. An issue is a flaw with the path from
the document to the part at fault. `Checked` collects issues from left to right.
-/

namespace InfluxKeeper.Schema

/-- A step from a value to a part of it. -/
inductive Step
  | key (name : String)
  | index (n : Int)
  deriving DecidableEq, Repr

/-- What is wrong with a part of a document. -/
inductive Flaw
  | missing
  | notText
  | badText
  | notInteger
  | integerText
  | integerSize
  | integerFraction
  | notFinite
  | notBoolean
  | booleanText
  | notMap
  | notList
  | notModel (model : String)
  | notTime
  | time (fault : Time.Fault)
  | schemaType
  | tagMissing
  | tagUnknown (tag : String)
  deriving DecidableEq, Repr

/-- The values that a schema type may have. -/
def schemaTypes : List String := ["implicit", "explicit"]

/-- The short name of a flaw. -/
def Flaw.code : Flaw → String
  | .missing => "missing"
  | .notText => "string_type"
  | .badText => "string_unicode"
  | .notInteger => "int_type"
  | .integerText => "int_parsing"
  | .integerSize => "int_parsing_size"
  | .integerFraction => "int_from_float"
  | .notFinite => "finite_number"
  | .notBoolean => "bool_type"
  | .booleanText => "bool_parsing"
  | .notMap => "dict_type"
  | .notList => "list_type"
  | .notModel _ => "model_type"
  | .notTime => "datetime_type"
  | .time (.asTime _) => "datetime_parsing"
  | .time (.asDate _) => "datetime_from_date_parsing"
  | .schemaType => "value_error"
  | .tagMissing => "union_tag_not_found"
  | .tagUnknown _ => "union_tag_invalid"

/-- The wording of a flaw. -/
def Flaw.message : Flaw → String
  | .missing => "Field required"
  | .notText => "Input should be a valid string"
  | .badText => "Input should be a valid string, unable to parse raw data as a unicode string"
  | .notInteger => "Input should be a valid integer"
  | .integerText => "Input should be a valid integer, unable to parse string as an integer"
  | .integerSize => "Unable to parse input string as an integer, exceeded maximum size"
  | .integerFraction => "Input should be a valid integer, got a number with a fractional part"
  | .notFinite => "Input should be a finite number"
  | .notBoolean => "Input should be a valid boolean"
  | .booleanText => "Input should be a valid boolean, unable to interpret input"
  | .notMap => "Input should be a valid dictionary"
  | .notList => "Input should be a valid list"
  | .notModel model => "Input should be a valid dictionary or instance of " ++ model
  | .notTime => "Input should be a valid datetime"
  | .time (.asTime flaw) => "Input should be a valid datetime, " ++ flaw.message
  | .time (.asDate flaw) => "Input should be a valid datetime or date, " ++ flaw.message
  | .schemaType => "Value error, schemaType must be one of: " ++ ", ".intercalate schemaTypes
  | .tagMissing => "Unable to extract tag using discriminator 'kind'"
  | .tagUnknown tag => "Input tag '" ++ tag ++ "' found using 'kind' does not match any of the " ++
      "expected tags: 'Organization', 'Bucket', 'DatabaseRetentionPolicyMapping'"

/-- A flaw and the path to it. -/
structure Issue where
  path : List Step
  flaw : Flaw
  deriving DecidableEq, Repr

/-- A value, or the issues found instead. -/
inductive Checked (α : Type)
  | valid (value : α)
  | invalid (issues : List Issue)

namespace Checked

/-- The issues of a checked value. -/
def issues {α : Type} : Checked α → List Issue
  | valid _ => []
  | invalid issues => issues

/-- A function of a checked value. -/
def map {α β : Type} (f : α → β) : Checked α → Checked β
  | valid a => valid (f a)
  | invalid issues => invalid issues

/-- Two checked values together; the issues of both, the first one's first. -/
def seq {α β : Type} (f : Checked (α → β)) (a : Unit → Checked α) : Checked β :=
  match f, a () with
  | valid f, valid a => valid (f a)
  | valid _, invalid issues => invalid issues
  | invalid issues, valid _ => invalid issues
  | invalid first, invalid second => invalid (first ++ second)

instance : Applicative Checked where
  pure := valid
  map := map
  seq := seq

/-- A value with a single issue at its own place. -/
def reject {α : Type} (flaw : Flaw) : Checked α := invalid [⟨[], flaw⟩]

/-- A part of a value: its issues are found by going to the part first. -/
def under {α : Type} (step : Step) : Checked α → Checked α
  | valid a => valid a
  | invalid issues => invalid (issues.map fun i => ⟨step :: i.path, i.flaw⟩)

/-- A check that needs the value of an earlier one. -/
def andThen {α β : Type} (a : Checked α) (f : α → Checked β) : Checked β :=
  match a with
  | valid a => f a
  | invalid issues => invalid issues

/-- A list of checked values together. -/
def all {α : Type} : List (Checked α) → Checked (List α)
  | [] => pure []
  | a :: rest => List.cons <$> a <*> all rest

end Checked

/-- A document that is no record of its model, with all its issues. -/
structure Rejection where
  title : String
  issues : List Issue
  deriving DecidableEq, Repr

/-- The value of a check, or the rejection of the model that was checked. -/
def Checked.orReject {α : Type} (title : String) : Checked α → Except Rejection α
  | .valid a => .ok a
  | .invalid issues => .error ⟨title, issues⟩

end InfluxKeeper.Schema
