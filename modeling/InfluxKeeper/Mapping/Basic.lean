import InfluxKeeper.Record.Metadata

/-!
# Database retention policy mappings

The parameters of a mapping from a database and retention policy to a bucket, and what is observed of a
mapping. Whether the mapping is the default one, and its address, are kept as the server gave them.
-/

namespace InfluxKeeper.Mapping

open Schema

/-- What a record can set of a mapping. The bucket and the organization are given by value, by
reference or by selector; the empty text is no value. -/
structure Parameters where
  bucketID : Value
  bucketIDRef : Option Reference
  bucketIDSelector : Option Selector
  database : String
  isDefault : Value
  org : Value
  orgRef : Option Reference
  orgSelector : Option Selector
  retentionPolicy : String
  deriving DecidableEq

/-- What is observed of a mapping: its address. -/
structure Observation where
  self : Value
  deriving DecidableEq

/-- Nothing observed. -/
def Observation.empty : Observation := ⟨.text ""⟩

/-- Parameters in a document. -/
def Parameters.check : Value → Checked Parameters :=
  model "DatabaseRetentionPolicyMappingParameters" fun e => .mk
    <$> fieldOr e "bucketID" "bucket_id" (.text "") textValue
    <*> fieldOr e "bucketIDRef" "bucket_id_ref" none (optional Reference.check)
    <*> fieldOr e "bucketIDSelector" "bucket_id_selector" none (optional Selector.check)
    <*> required e "database" "database" text
    <*> fieldOr e "default" "is_default" .null
      (fun v => match v with
        | .null => .valid .null
        | v => .bool <$> boolean v)
    <*> fieldOr e "org" "org" (.text "") textValue
    <*> fieldOr e "orgRef" "org_ref" none (optional Reference.check)
    <*> fieldOr e "orgSelector" "org_selector" none (optional Selector.check)
    <*> required e "retentionPolicy" "retention_policy" text

/-- An observation in a document. -/
def Observation.check : Value → Checked Observation :=
  model "DatabaseRetentionPolicyMappingObservation" fun e => .mk
    <$> fieldOr e "links" "links" (.text "")
      (model "DBRPLinks" fun l => fieldOr l "self" "self_link" (.text "") textValue)

/-- Parameters as a value. -/
def Parameters.toValue (nulls : Bool) (p : Parameters) : Value :=
  .model nulls [
    ("bucketID", p.bucketID), ("bucketIDRef", Reference.optionalValue p.bucketIDRef),
    ("bucketIDSelector", Selector.optionalValue p.bucketIDSelector),
    ("database", .text p.database), ("default", p.isDefault), ("org", p.org),
    ("orgRef", Reference.optionalValue p.orgRef),
    ("orgSelector", Selector.optionalValue p.orgSelector),
    ("retentionPolicy", .text p.retentionPolicy)]

/-- An observation as a value. -/
def Observation.toValue (nulls : Bool) (o : Observation) : Value :=
  .object [("links", .model nulls [("self", o.self)])]

end InfluxKeeper.Mapping
