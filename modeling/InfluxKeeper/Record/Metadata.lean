import InfluxKeeper.Schema.Check
import InfluxKeeper.Value.Equal

/-!
# What all records carry

References and selectors by which one record names another, the metadata of a record, and its status
conditions. A set of conditions holds one condition of each type; `setCondition` replaces the first of its
type or appends, and keeps the old one, with its time, if nothing but the time would change.

Main statements: `condition?_setCondition` (the condition set is seen, up to its time) and
`condition?_setCondition_of_ne` (no other type is touched).
-/

namespace InfluxKeeper

open Schema

mutual

/-- A value with null for every number in it that is not finite. -/
def Value.finite : Value → Value
  | .float .nan | .float (.infinite _) => .null
  | .list items => .list (finiteItems items)
  | .map entries => .map (finiteEntries entries)
  | v => v

/-- The items of a list with null for every number in them that is not finite. -/
def Value.finiteItems : List Value → List Value
  | [] => []
  | item :: rest => item.finite :: finiteItems rest

/-- The entries of a map with null for every number in their values that is not finite. -/
def Value.finiteEntries : List (Scalar × Value) → List (Scalar × Value)
  | [] => []
  | (key, item) :: rest => (key, item.finite) :: finiteEntries rest

end

/-- A map of the given fields, with or without those that are null. A number that is not finite is written
as null, but its field is not left out. -/
def Value.model (nulls : Bool) (fields : List (String × Value)) : Value :=
  .object ((fields.filter fun f => nulls || !f.2.isNull).map fun f => (f.1, f.2.finite))

/-- A map of texts as a value. -/
def Value.textMap (entries : List (String × String)) : Value :=
  .object (entries.map fun e => (e.1, .text e.2))

/-- A point in time as a value. -/
def Value.ofTime? : Option Timestamp → Value
  | some t => .text t.recordText
  | none => .null

/-! ## References and selectors -/

/-- Another record, by its name. -/
structure Reference where
  name : String
  deriving DecidableEq, Repr

/-- Another record, by labels that it carries. -/
structure Selector where
  matchLabels : List (String × String)
  deriving DecidableEq, Repr

/-- A reference in a document. -/
def Reference.check : Value → Checked Reference :=
  model "Reference" fun e => .mk <$> required e "name" "name" text

/-- A reference as a value. -/
def Reference.toValue (r : Reference) : Value := .object [("name", .text r.name)]

/-- A selector in a document. -/
def Selector.check : Value → Checked Selector :=
  model "Selector" fun e => .mk <$> fieldOr e "matchLabels" "match_labels" [] textMap

/-- A selector as a value. -/
def Selector.toValue (s : Selector) : Value :=
  .object [("matchLabels", .textMap s.matchLabels)]

/-- A reference or nothing as a value. -/
def Reference.optionalValue : Option Reference → Value
  | some r => r.toValue
  | none => .null

/-- A selector or nothing as a value. -/
def Selector.optionalValue : Option Selector → Value
  | some s => s.toValue
  | none => .null

/-! ## Metadata -/

/-- The metadata of a record. An annotation may hold whatever the server gave as an id, and a label whatever
it was set to. -/
structure Metadata where
  name : String
  labels : List (String × Value)
  annotations : List (String × Value)
  deletionTimestamp : Option Timestamp
  deriving DecidableEq

/-- The annotation that holds the external name of a record. -/
def externalNameKey : String := "influxdb.io/external-name"

/-- A list of pairs with a value under a key: in place of the first of that key, or at the end. -/
def setKey {α : Type} (key : String) (value : α) : List (String × α) → List (String × α)
  | [] => [(key, value)]
  | e :: rest => if e.1 = key then (key, value) :: rest else e :: setKey key value rest

/-- The value set is seen under its key. -/
theorem lookup_setKey_self {α : Type} (key : String) (value : α) (entries : List (String × α)) :
    (setKey key value entries).lookup key = some value := by
  induction entries with
  | nil => simp [setKey]
  | cons e rest ih =>
    obtain ⟨k, v⟩ := e
    by_cases h : k = key
    · simp [setKey, h]
    · have h' : (key == k) = false := by simp [Ne.symm h]
      simp [setKey, h, List.lookup_cons, h', ih]

/-- The external name, the empty text if there is none. -/
def Metadata.externalName (m : Metadata) : Value :=
  (m.annotations.lookup externalNameKey).getD (.text "")

/-- Metadata with an external name. -/
def Metadata.setExternalName (m : Metadata) (name : Value) : Metadata :=
  { m with annotations := setKey externalNameKey name m.annotations }

/-- The external name set is the external name. -/
@[simp] theorem Metadata.externalName_setExternalName (m : Metadata) (name : Value) :
    (m.setExternalName name).externalName = name := by
  simp [externalName, setExternalName, lookup_setKey_self]

/-- Metadata in a document. -/
def Metadata.check : Value → Checked Metadata :=
  model "ObjectMeta" fun e => .mk
    <$> required e "name" "name" text
    <*> fieldOr e "labels" "labels" [] textValues
    <*> fieldOr e "annotations" "annotations" [] textValues
    <*> fieldOr e "deletionTimestamp" "deletion_timestamp" none (optional time)

/-- Metadata as a value. -/
def Metadata.toValue (m : Metadata) : Value :=
  .model false [
    ("name", .text m.name),
    ("labels", .object m.labels),
    ("annotations", .object m.annotations),
    ("deletionTimestamp", .ofTime? m.deletionTimestamp)]

/-! ## Conditions -/

/-- A status condition. -/
structure Condition where
  type : String
  status : String
  reason : String
  message : String
  lastTransitionTime : Timestamp
  deriving DecidableEq, Repr

namespace Condition

/-- Whether two conditions are the same but for their times. -/
def Equivalent (a b : Condition) : Prop :=
  a.type = b.type ∧ a.status = b.status ∧ a.reason = b.reason ∧ a.message = b.message

instance (a b : Condition) : Decidable (a.Equivalent b) :=
  inferInstanceAs (Decidable (_ ∧ _ ∧ _ ∧ _))

/-- The resource can be used. -/
def available (now : Timestamp) : Condition := ⟨"Ready", "True", "Available", "", now⟩

/-- The resource cannot be used. -/
def unavailable (now : Timestamp) : Condition := ⟨"Ready", "False", "Unavailable", "", now⟩

/-- The resource is being created. -/
def creating (now : Timestamp) : Condition := ⟨"Ready", "False", "Creating", "", now⟩

/-- The resource is being deleted. -/
def deleting (now : Timestamp) : Condition := ⟨"Ready", "False", "Deleting", "", now⟩

/-- The record was reconciled. -/
def synced (now : Timestamp) : Condition := ⟨"Synced", "True", "ReconcileSuccess", "", now⟩

/-- The record could not be reconciled. -/
def failed (message : String) (now : Timestamp) : Condition :=
  ⟨"Synced", "False", "ReconcileError", message, now⟩

/-- A condition in a document; its time is the given one if it has none. -/
def check (now : Timestamp) : Value → Checked Condition :=
  model "Condition" fun e => .mk
    <$> required e "type" "type" text
    <*> required e "status" "status" text
    <*> required e "reason" "reason" text
    <*> fieldOr e "message" "message" "" text
    <*> fieldOr e "lastTransitionTime" "last_transition_time" now time

/-- A condition as a value. -/
def toValue (c : Condition) : Value :=
  .object [
    ("type", .text c.type), ("status", .text c.status), ("reason", .text c.reason),
    ("message", .text c.message), ("lastTransitionTime", .text c.lastTransitionTime.recordText)]

end Condition

/-- The first condition of a type. -/
def condition? (type : String) (conditions : List Condition) : Option Condition :=
  conditions.find? (·.type = type)

/-- Conditions with one set. -/
def setCondition (new : Condition) : List Condition → List Condition
  | [] => [new]
  | c :: rest =>
    if c.type = new.type then (if c.Equivalent new then c else new) :: rest
    else c :: setCondition new rest

/-- Conditions with several set, one after the other. -/
def setConditions (new : List Condition) (conditions : List Condition) : List Condition :=
  new.foldl (fun cs c => setCondition c cs) conditions

/-- The condition set is seen, up to its time. -/
theorem condition?_setCondition (new : Condition) (conditions : List Condition) :
    ∃ c, condition? new.type (setCondition new conditions) = some c ∧ c.Equivalent new := by
  induction conditions with
  | nil => exact ⟨new, by simp [condition?, setCondition], ⟨rfl, rfl, rfl, rfl⟩⟩
  | cons c rest ih =>
    by_cases h : c.type = new.type
    · by_cases he : c.Equivalent new
      · exact ⟨c, by simp [condition?, setCondition, h, he], he⟩
      · exact ⟨new, by simp [condition?, setCondition, h, he], ⟨rfl, rfl, rfl, rfl⟩⟩
    · obtain ⟨d, hd, he⟩ := ih
      exact ⟨d, by simpa [condition?, setCondition, h] using hd, he⟩

/-- Conditions of other types are not touched. -/
theorem condition?_setCondition_of_ne {new : Condition} {type : String} (h : new.type ≠ type)
    (conditions : List Condition) :
    condition? type (setCondition new conditions) = condition? type conditions := by
  induction conditions with
  | nil => simp [condition?, setCondition, h]
  | cons c rest ih =>
    by_cases hc : c.type = new.type
    · have : c.type ≠ type := fun e => h (hc ▸ e)
      by_cases he : c.Equivalent new
      · simp [condition?, setCondition, he, hc]
      · simp [condition?, setCondition, hc, he, h]
    · by_cases ht : c.type = type
      · subst ht
        simp [condition?, setCondition, Ne.symm h]
      · simpa [condition?, setCondition, hc, ht] using ih

end InfluxKeeper
