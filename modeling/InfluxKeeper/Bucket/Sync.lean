import InfluxKeeper.Api.Inspect
import InfluxKeeper.Bucket.Retention

/-!
# Buckets on the server

How a bucket of the server is made sense of: what is observed of it, how it fills the parameters that a
record leaves open, whether it is as the record wants it, and the body that makes it so.
-/

namespace InfluxKeeper.Bucket

open Schema

/-- A label of an answer. -/
def Label.ofAnswer (v : Value) : Except Fault Label := do
  match v with
  | .map entries =>
    let properties ← (Entries.getOr entries "properties" (.map [])).asEntries
    fit "Label" <| Label.mk
      <$> (text (Entries.getOr entries "id" (.text ""))).under (.key "id")
      <*> (text (Entries.getOr entries "name" (.text ""))).under (.key "name")
      <*> (text (Entries.getOr entries "orgID" (.text ""))).under (.key "org_id")
      <*> (textMap (.map properties)).under (.key "properties")
  | v => throw (.noEntries v.typeName "get")

/-- What is observed of a bucket of an answer. Labels are put in the order of their ids. -/
def Observation.ofAnswer (v : Value) : Except Fault Observation := do
  match v with
  | .map entries =>
    let labels ← (← (Entries.getOr entries "labels" (.list [])).getItems).mapM Label.ofAnswer
    let labels := labels.mergeSort fun a b => a.id ≤ b.id
    let links ← fit "BucketLinks" (Links.check (Entries.getOr entries "links" (.map [])))
    fit "BucketObservation" <| (fun id created updated type =>
        Observation.mk id created updated links type labels)
      <$> (textValue (Entries.getOr entries "id" (.text ""))).under (.key "id")
      <*> (optional time (Entries.get entries "createdAt")).under (.key "created_at")
      <*> (optional time (Entries.get entries "updatedAt")).under (.key "updated_at")
      <*> (text (Entries.getOr entries "type" (.text ""))).under (.key "type")
  | v => throw (.noEntries v.typeName "get")

/-- The retention rules of a bucket of an answer. -/
def observedRules (v : Value) : Except Fault (List RetentionRule) := do
  match v with
  | .map entries =>
    (← (Entries.getOr entries "retentionRules" (.list [])).getItems).mapM fun rule =>
      fit "RetentionRule" (RetentionRule.check rule)
  | v => throw (.noEntries v.typeName "get")

/-- Fills parameters from a bucket of an answer: the plain ones first, then the rules. If the rules of
the answer make no sense, the plain ones stay filled. -/
def lateInitialize (p : Parameters) (v : Value) : Except Fault Bool × Parameters :=
  match v with
  | .map entries =>
    let description := fill p.description (Entries.get entries "description")
    let rp := fill p.rp (Entries.get entries "rp")
    let schemaType := fillText p.schemaType (Entries.get entries "schemaType")
    let p := { p with
      description := description.value, rp := rp.value, schemaType := schemaType.value }
    match observedRules v with
    | .error fault => (.error fault, p)
    | .ok observed =>
      let rules := fillRules p.retentionRules observed
      (.ok (description.changed || rp.changed || schemaType.changed || rules.changed),
        { p with retentionRules := rules.value })
  | v => (.error (.noEntries v.typeName "get"), p)

/-- Whether a bucket of an answer is as wanted: the same rules and the same description, where no
description is an empty one. -/
def upToDate (p : Parameters) (v : Value) : Except Fault Bool := do
  let observed ← observedRules v
  if sameRules p.retentionRules observed then
    return ((← v.getEntry "description").orElse (.text "")).same (p.description.orElse (.text ""))
  else return false

/-- The body that creates a bucket, without what is left open. -/
def body (name : Value) (p : Parameters) : List (String × Value) :=
  [("name", name), ("retentionRules", .list (p.retentionRules.map (·.toValue false)))] ++
    [("description", p.description), ("orgID", p.orgID), ("rp", p.rp)].filter
      (fun f => !f.2.isNull) ++
    if p.schemaType.truthy then [("schemaType", p.schemaType)] else []

end InfluxKeeper.Bucket
