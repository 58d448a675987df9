import InfluxKeeper.Record.Basic

/-!
# Records as documents

A record is read from a document and written as one. The document's `kind` says which model it has to
fit. Written documents leave out what is not set.
-/

namespace InfluxKeeper

open Schema

namespace Resource

/-- The specification of a document of a kind, given under its name, or the default. -/
def checkSpec {α : Type} (title : String) (absent : Checked α) (check : Value → Checked α)
    (whole : Checked α) (e : Entries) : Checked α :=
  field e "spec" "spec" whole (model title fun s => field s "forProvider" "for_provider" absent check)

/-- The status of a document of a kind: conditions and what was observed. -/
def checkStatus {α : Type} (title : String) (now : Timestamp) (nothing : α)
    (check : Value → Checked α) (e : Entries) : Checked (List Condition × α) :=
  fieldOr e "status" "status" ([], nothing) (model title fun s => Prod.mk
    <$> fieldOr s "conditions" "conditions" [] (list (Condition.check now))
    <*> fieldOr s "atProvider" "at_provider" nothing check)

/-- What a document of a kind wants and what was observed, with its conditions. -/
def check (kind : Kind) (now : Timestamp) (e : Entries) : Checked (List Condition × Resource) :=
  match kind with
  | .organization =>
    (fun p s => (s.1, organization p s.2))
      <$> checkSpec "OrganizationSpec" (pure ⟨none⟩) Organization.Parameters.check (pure ⟨none⟩) e
      <*> checkStatus "OrganizationStatus" now .empty Organization.Observation.check e
  | .bucket =>
    (fun p s => (s.1, bucket p s.2))
      <$> checkSpec "BucketSpec" (pure .empty) Bucket.Parameters.check (pure .empty) e
      <*> checkStatus "BucketStatus" now .empty Bucket.Observation.check e
  | .mapping =>
    (fun p s => (s.1, mapping p s.2))
      <$> checkSpec "DatabaseRetentionPolicyMappingSpec"
        ((Checked.reject .missing).under (.key "forProvider")) Mapping.Parameters.check
        ((Checked.reject .missing).under (.key "spec")) e
      <*> checkStatus "DatabaseRetentionPolicyMappingStatus" now .empty Mapping.Observation.check e

/-- What is wanted of a resource, as a value. -/
def desiredValue (nulls : Bool) : Resource → Value
  | organization p _ => p.toValue nulls
  | bucket p _ => p.toValue nulls
  | mapping p _ => p.toValue nulls

/-- What was observed of a resource, as a value. -/
def observedValue (nulls : Bool) : Resource → Value
  | organization _ o => o.toValue nulls
  | bucket _ o => o.toValue nulls
  | mapping _ o => o.toValue nulls

/-- A resource with other parameters, if a document holds them for its kind. -/
def withParameters (v : Value) : Resource → Checked Resource
  | organization _ o => (organization · o) <$> Organization.Parameters.check v
  | bucket _ o => (bucket · o) <$> Bucket.Parameters.check v
  | mapping _ o => (mapping · o) <$> Mapping.Parameters.check v

end Resource

namespace Record

/-- The title under which a record of any kind is rejected. -/
def title : String := "tagged-union[Organization,Bucket,DatabaseRetentionPolicyMapping]"

/-- A record of a kind in a document. -/
def checkKind (kind : Kind) (now : Timestamp) (e : Entries) : Checked Record :=
  (fun version metadata r => ⟨version, metadata, r.1, r.2⟩)
    <$> fieldOr e "apiVersion" "api_version" defaultApiVersion text
    <*> required e "metadata" "metadata" Metadata.check
    <*> Resource.check kind now e

/-- A record in a document. Its paths start with the kind. -/
def check (now : Timestamp) (e : Entries) : Checked Record :=
  match e.get? "kind" with
  | none => .reject .tagMissing
  | some tag =>
    match tag with
    | .text s =>
      match Kind.ofName? s with
      | some kind => (checkKind kind now e).under (.key kind.name)
      | none => .reject (.tagUnknown s)
    | v => .reject (.tagUnknown v.shown)

/-- The entries of a record as a document. -/
def toEntries (r : Record) : Entries := [
  (.text "apiVersion", .text r.apiVersion),
  (.text "metadata", r.metadata.toValue),
  (.text "kind", .text r.kind.name),
  (.text "spec", .object [("forProvider", r.resource.desiredValue false)]),
  (.text "status", .object [
    ("conditions", .list (r.conditions.map (·.toValue))),
    ("atProvider", r.resource.observedValue false)])]

/-- A record as a document. -/
def toValue (r : Record) : Value := .map r.toEntries

end Record

end InfluxKeeper
