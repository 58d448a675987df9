import InfluxKeeper.Record.Metadata

/-!
# Organizations

The parameters of an organization that a record can set, and what is observed of an organization.
-/

namespace InfluxKeeper.Organization

open Schema

/-- What a record can set of an organization. -/
structure Parameters where
  description : Option String
  deriving DecidableEq, Repr

/-- The addresses of what belongs to an organization. -/
structure Links where
  buckets : String
  dashboards : String
  labels : String
  members : String
  owners : String
  secrets : String
  self : String
  tasks : String
  deriving DecidableEq, Repr

/-- What is observed of an organization. -/
structure Observation where
  id : Value
  status : String
  createdAt : Option Timestamp
  updatedAt : Option Timestamp
  links : Links
  deriving DecidableEq

/-- No addresses. -/
def Links.empty : Links := ⟨"", "", "", "", "", "", "", ""⟩

/-- Nothing observed. -/
def Observation.empty : Observation := ⟨.text "", "", none, none, .empty⟩

/-- Parameters in a document. -/
def Parameters.check : Value → Checked Parameters :=
  model "OrganizationParameters" fun e => .mk
    <$> fieldOr e "description" "description" none (optional text)

/-- Addresses in a document or an answer. -/
def Links.check : Value → Checked Links :=
  model "OrganizationLinks" fun e => .mk
    <$> fieldOr e "buckets" "buckets" "" text
    <*> fieldOr e "dashboards" "dashboards" "" text
    <*> fieldOr e "labels" "labels" "" text
    <*> fieldOr e "members" "members" "" text
    <*> fieldOr e "owners" "owners" "" text
    <*> fieldOr e "secrets" "secrets" "" text
    <*> fieldOr e "self" "self_link" "" text
    <*> fieldOr e "tasks" "tasks" "" text

/-- An observation in a document. -/
def Observation.check : Value → Checked Observation :=
  model "OrganizationObservation" fun e => .mk
    <$> fieldOr e "id" "id" (.text "") textValue
    <*> fieldOr e "status" "status" "" text
    <*> fieldOr e "createdAt" "created_at" none (optional time)
    <*> fieldOr e "updatedAt" "updated_at" none (optional time)
    <*> fieldOr e "links" "links" .empty Links.check

/-- Parameters as a value. -/
def Parameters.toValue (nulls : Bool) (p : Parameters) : Value :=
  .model nulls [("description", .ofText? p.description)]

/-- Addresses as a value. -/
def Links.toValue (l : Links) : Value :=
  .object [
    ("buckets", .text l.buckets), ("dashboards", .text l.dashboards), ("labels", .text l.labels),
    ("members", .text l.members), ("owners", .text l.owners), ("secrets", .text l.secrets),
    ("self", .text l.self), ("tasks", .text l.tasks)]

/-- An observation as a value. -/
def Observation.toValue (nulls : Bool) (o : Observation) : Value :=
  .model nulls [
    ("id", o.id), ("status", .text o.status), ("createdAt", .ofTime? o.createdAt),
    ("updatedAt", .ofTime? o.updatedAt), ("links", o.links.toValue)]

end InfluxKeeper.Organization
