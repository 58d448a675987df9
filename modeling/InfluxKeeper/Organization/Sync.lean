import InfluxKeeper.Api.Inspect
import InfluxKeeper.Organization.Basic

/-!
# Organizations on the server

How an organization of the server is made sense of: what is observed of it, whether it is as the record
wants it, and the body that makes it so.
-/

namespace InfluxKeeper.Organization

open Schema

/-- What is observed of an organization of an answer. -/
def Observation.ofAnswer (v : Value) : Except Fault Observation := do
  match v with
  | .map entries =>
    let links ← fit "OrganizationLinks" (Links.check (Entries.getOr entries "links" (.map [])))
    fit "OrganizationObservation" <| (fun id status created updated =>
        Observation.mk id status created updated links)
      <$> (textValue (Entries.getOr entries "id" (.text ""))).under (.key "id")
      <*> (text (Entries.getOr entries "status" (.text ""))).under (.key "status")
      <*> (optional time (Entries.get entries "createdAt")).under (.key "created_at")
      <*> (optional time (Entries.get entries "updatedAt")).under (.key "updated_at")
  | v => throw (.noEntries v.typeName "get")

/-- Whether an organization of an answer is as wanted: the same description, where no description is an
empty one. -/
def upToDate (p : Parameters) (v : Value) : Except Fault Bool := do
  return ((← v.getEntry "description").orElse (.text "")).same (.text (p.description.getD ""))

/-- Whether an organization can be used. -/
def Observation.usable (o : Observation) : Bool := o.status != "inactive"

/-- The body that creates an organization, without a description that is left open. -/
def body (name : Value) (p : Parameters) : List (String × Value) :=
  ("name", name) :: match p.description with
    | some description => [("description", .text description)]
    | none => []

/-- The body that updates an organization. A description that is left open is cleared. -/
def updateBody (name id : Value) (p : Parameters) : List (String × Value) :=
  body name p ++ ("id", id) :: match p.description with
    | some _ => []
    | none => [("description", .text "")]

end InfluxKeeper.Organization
