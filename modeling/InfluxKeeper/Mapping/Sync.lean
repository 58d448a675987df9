import InfluxKeeper.Api.Inspect
import InfluxKeeper.Mapping.Basic
import InfluxKeeper.Value.Fill

/-!
# Mappings on the server

How a mapping of the server is made sense of: how it fills the parameters that a record leaves open,
whether it is as the record wants it, and the bodies that make it so.
-/

namespace InfluxKeeper.Mapping

/-- Fills parameters from a mapping of an answer. -/
def lateInitialize (p : Parameters) (v : Value) : Except Fault Bool × Parameters :=
  match v.getEntry "default" with
  | .error fault => (.error fault, p)
  | .ok observed =>
    let filled := fill p.isDefault observed
    (.ok filled.changed, { p with isDefault := filled.value })

/-- Whether a mapping of an answer is as wanted. -/
def upToDate (p : Parameters) (v : Value) : Except Fault Bool := do
  if p.isDefault.truthy == (← v.getEntry "default").truthy then
    return (Value.text p.retentionPolicy).same
      ((← v.getEntry "retention_policy").orElse (.text ""))
  else return false

/-- The address of a mapping of an answer: null if it is null there, empty if it is not there. -/
def observedLink (v : Value) : Except Fault Value := do
  match (← v.getEntry "links").orElse (.map []) with
  | .map links => return (Entries.get? links "self").getD (.text "")
  | v => throw (.noEntries v.typeName "get")

/-- Whether the mapping is the default one, if that is set. -/
def defaultPart (p : Parameters) : List (String × Value) :=
  if p.isDefault.isNull then [] else [("default", p.isDefault)]

/-- The body that creates a mapping. -/
def body (p : Parameters) : List (String × Value) :=
  [("bucketID", p.bucketID), ("database", .text p.database), ("org", p.org),
    ("retention_policy", .text p.retentionPolicy)] ++ defaultPart p

/-- The body that updates a mapping. -/
def updateBody (p : Parameters) : List (String × Value) :=
  ("retention_policy", .text p.retentionPolicy) :: defaultPart p

/-- The organization that a request about a mapping names, null for none. -/
def orgQuery (p : Parameters) : Value := p.org.orElse .null

end InfluxKeeper.Mapping
