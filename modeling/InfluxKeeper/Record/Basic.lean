import InfluxKeeper.Bucket.Basic
import InfluxKeeper.Mapping.Basic
import InfluxKeeper.Organization.Basic

/-!
# Records

A record describes a resource of the server: its metadata, what is wanted of it, what was observed of it,
and conditions that tell how it stands. The kind of the resource decides what can be wanted and observed.
A record is found on the server by its external name.
-/

namespace InfluxKeeper

/-- The kinds of resources. -/
inductive Kind
  | organization
  | bucket
  | mapping
  deriving DecidableEq, Repr

namespace Kind

/-- The name of a kind. -/
def name : Kind → String
  | organization => "Organization"
  | bucket => "Bucket"
  | mapping => "DatabaseRetentionPolicyMapping"

/-- The kinds in the order in which they depend on each other. -/
def all : List Kind := [organization, bucket, mapping]

/-- The kind of a name. -/
def ofName? (s : String) : Option Kind := all.find? (·.name = s)

/-- Every kind is found by its name. -/
@[simp] theorem ofName?_name (k : Kind) : ofName? k.name = some k := by
  cases k <;> decide

/-- Whether records of a kind are found by their own name unless they say otherwise. A mapping is found
by the id that it gets when it is created. -/
def foundByName : Kind → Bool
  | organization => true
  | bucket => true
  | mapping => false

end Kind

/-- What is wanted and what was observed of a resource. -/
inductive Resource
  | organization (desired : Organization.Parameters) (observed : Organization.Observation)
  | bucket (desired : Bucket.Parameters) (observed : Bucket.Observation)
  | mapping (desired : Mapping.Parameters) (observed : Mapping.Observation)
  deriving DecidableEq

/-- The kind of a resource. -/
def Resource.kind : Resource → Kind
  | organization .. => .organization
  | bucket .. => .bucket
  | mapping .. => .mapping

/-- A record. -/
structure Record where
  apiVersion : String
  metadata : Metadata
  conditions : List Condition
  resource : Resource
  deriving DecidableEq

namespace Record

/-- The version of the record format. -/
def defaultApiVersion : String := "influxdb.io/v1alpha1"

/-- The kind of a record. -/
def kind (r : Record) : Kind := r.resource.kind

/-- The name of a record. -/
def name (r : Record) : String := r.metadata.name

/-- The external name of a record, the empty text if it has none. -/
def externalName (r : Record) : Value := r.metadata.externalName

/-- A record with an external name. -/
def setExternalName (r : Record) (name : Value) : Record :=
  { r with metadata := r.metadata.setExternalName name }

/-- A record whose kind is found by name, with its own name as external name if it has none. -/
def nameByDefault (r : Record) : Record :=
  if r.kind.foundByName && !r.externalName.truthy then r.setExternalName (.text r.name) else r

/-- Whether a record is marked for deletion. -/
def deleting (r : Record) : Bool := r.metadata.deletionTimestamp.isSome

/-- A record marked for deletion, from the given time on unless it was marked before. -/
def markForDeletion (now : Timestamp) (r : Record) : Record :=
  { r with metadata := { r.metadata with
      deletionTimestamp := some (r.metadata.deletionTimestamp.getD now) } }

/-- A marked record is being deleted. -/
@[simp] theorem deleting_markForDeletion (now : Timestamp) (r : Record) :
    (r.markForDeletion now).deleting = true := rfl

/-- A record with conditions set. -/
def setConditions (r : Record) (new : List Condition) : Record :=
  { r with conditions := InfluxKeeper.setConditions new r.conditions }

/-- The first condition of a type. -/
def condition? (r : Record) (type : String) : Option Condition :=
  InfluxKeeper.condition? type r.conditions

/-- The id of the resource as observed, the empty text if it has none; mappings have none. -/
def observedId (r : Record) : Value :=
  match r.resource with
  | .organization _ o => o.id
  | .bucket _ o => o.id
  | .mapping .. => .text ""

end Record

end InfluxKeeper
