import InfluxKeeper.Record.Metadata

/-!
# Buckets

The parameters of a bucket that a record can set, and what is observed of a bucket. A parameter that the
record leaves open can be filled from the server with whatever JSON the server holds there, so such
parameters are untyped values, null while they are open.
-/

namespace InfluxKeeper.Bucket

open Schema

/-- How long data is kept: for some seconds, where 0 means for ever, in shards of some duration. -/
structure RetentionRule where
  type : String
  everySeconds : Int
  shardGroupDurationSeconds : Option Int
  deriving DecidableEq, Repr

/-- What a record can set of a bucket. The organization is given by id, by reference or by selector. -/
structure Parameters where
  description : Value
  orgID : Value
  orgIDRef : Option Reference
  orgIDSelector : Option Selector
  rp : Value
  retentionRules : List RetentionRule
  schemaType : Value
  deriving DecidableEq

/-- The addresses of what belongs to a bucket. -/
structure Links where
  labels : String
  members : String
  org : String
  owners : String
  self : String
  write : String
  deriving DecidableEq, Repr

/-- A label of a bucket. -/
structure Label where
  id : String
  name : String
  orgID : String
  properties : List (String × String)
  deriving DecidableEq, Repr

/-- What is observed of a bucket. -/
structure Observation where
  id : Value
  createdAt : Option Timestamp
  updatedAt : Option Timestamp
  links : Links
  type : String
  labels : List Label
  deriving DecidableEq

/-- No addresses. -/
def Links.empty : Links := ⟨"", "", "", "", "", ""⟩

/-- Nothing observed. -/
def Observation.empty : Observation := ⟨.text "", none, none, .empty, "", []⟩

/-- Nothing set. -/
def Parameters.empty : Parameters := ⟨.null, .null, none, none, .null, [], .text ""⟩

/-- A retention rule in a document or an answer. -/
def RetentionRule.check : Value → Checked RetentionRule :=
  model "RetentionRule" fun e => .mk
    <$> fieldOr e "type" "type" "expire" text
    <*> fieldOr e "everySeconds" "every_seconds" 0 integer
    <*> fieldOr e "shardGroupDurationSeconds" "shard_group_duration_seconds" none (optional integer)

/-- A schema type in a document: one of the known ones, or the empty text. -/
def checkSchemaType (v : Value) : Checked Value :=
  (text v).andThen fun s =>
    if s = "" ∨ s ∈ schemaTypes then .valid (.text s) else .reject .schemaType

/-- Parameters in a document. -/
def Parameters.check : Value → Checked Parameters :=
  model "BucketParameters" fun e => .mk
    <$> fieldOr e "description" "description" .null optionalText
    <*> fieldOr e "orgID" "org_id" .null optionalText
    <*> fieldOr e "orgIDRef" "org_id_ref" none (optional Reference.check)
    <*> fieldOr e "orgIDSelector" "org_id_selector" none (optional Selector.check)
    <*> fieldOr e "rp" "rp" .null optionalText
    <*> fieldOr e "retentionRules" "retention_rules" [] (list RetentionRule.check)
    <*> fieldOr e "schemaType" "schema_type" (.text "") checkSchemaType

/-- Addresses in a document or an answer. -/
def Links.check : Value → Checked Links :=
  model "BucketLinks" fun e => .mk
    <$> fieldOr e "labels" "labels" "" text
    <*> fieldOr e "members" "members" "" text
    <*> fieldOr e "org" "org" "" text
    <*> fieldOr e "owners" "owners" "" text
    <*> fieldOr e "self" "self_link" "" text
    <*> fieldOr e "write" "write" "" text

/-- A label in a document. -/
def Label.check : Value → Checked Label :=
  model "Label" fun e => .mk
    <$> fieldOr e "id" "id" "" text
    <*> fieldOr e "name" "name" "" text
    <*> fieldOr e "orgID" "org_id" "" text
    <*> fieldOr e "properties" "properties" [] textMap

/-- An observation in a document. -/
def Observation.check : Value → Checked Observation :=
  model "BucketObservation" fun e => .mk
    <$> fieldOr e "id" "id" (.text "") textValue
    <*> fieldOr e "createdAt" "created_at" none (optional time)
    <*> fieldOr e "updatedAt" "updated_at" none (optional time)
    <*> fieldOr e "links" "links" .empty Links.check
    <*> fieldOr e "type" "type" "" text
    <*> fieldOr e "labels" "labels" [] (list Label.check)

/-- A retention rule as a value. -/
def RetentionRule.toValue (nulls : Bool) (r : RetentionRule) : Value :=
  .model nulls [
    ("type", .text r.type), ("everySeconds", .int r.everySeconds),
    ("shardGroupDurationSeconds", match r.shardGroupDurationSeconds with
      | some n => .int n
      | none => .null)]

/-- Parameters as a value. -/
def Parameters.toValue (nulls : Bool) (p : Parameters) : Value :=
  .model nulls [
    ("description", p.description), ("orgID", p.orgID),
    ("orgIDRef", Reference.optionalValue p.orgIDRef),
    ("orgIDSelector", Selector.optionalValue p.orgIDSelector), ("rp", p.rp),
    ("retentionRules", .list (p.retentionRules.map (·.toValue nulls))),
    ("schemaType", p.schemaType)]

/-- Addresses as a value. -/
def Links.toValue (l : Links) : Value :=
  .object [
    ("labels", .text l.labels), ("members", .text l.members), ("org", .text l.org),
    ("owners", .text l.owners), ("self", .text l.self), ("write", .text l.write)]

/-- A label as a value. -/
def Label.toValue (l : Label) : Value :=
  .object [
    ("id", .text l.id), ("name", .text l.name), ("orgID", .text l.orgID),
    ("properties", .textMap l.properties)]

/-- An observation as a value. -/
def Observation.toValue (nulls : Bool) (o : Observation) : Value :=
  .model nulls [
    ("id", o.id), ("createdAt", .ofTime? o.createdAt), ("updatedAt", .ofTime? o.updatedAt),
    ("links", o.links.toValue), ("type", .text o.type),
    ("labels", .list (o.labels.map (·.toValue)))]

end InfluxKeeper.Bucket
