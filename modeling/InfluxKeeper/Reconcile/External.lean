import InfluxKeeper.Api.Call
import InfluxKeeper.Bucket.Sync
import InfluxKeeper.Event.Basic
import InfluxKeeper.Mapping.Sync
import InfluxKeeper.Organization.Sync

/-!
# The external resource of a record

How a record is looked up on the server, what is made of the answer, and the calls that create, update and
delete its resource. Everything here is a function of a record and an answer; no request is sent.
-/

namespace InfluxKeeper

open Api

/-- What was seen of an external resource. -/
structure Seen where
  present : Bool
  upToDate : Bool
  lateInitialized : Bool
  deriving DecidableEq, Repr

/-- Nothing was seen. -/
def Seen.absent : Seen := ⟨false, false, false⟩

/-- A failure that is reported on the record: what could not be done, and why. -/
structure Trouble where
  context : String
  cause : Option Fault
  deriving DecidableEq

/-- The text of a reported failure. -/
def Trouble.message (t : Trouble) : String :=
  match t.cause with
  | some fault => t.context ++ ": " ++ fault.message
  | none => t.context

/-- How an operation on a resource fails: with trouble to report, or with a fault that is not. -/
inductive Failure
  | reported (t : Trouble)
  | escaped (fault : Fault)
  deriving DecidableEq

/-- The failure of a call made for a purpose. A call that was called off is not reported. -/
def Failure.ofCall (context : String) (fault : Fault) : Failure :=
  if fault.isOrdinary then .reported ⟨context, some fault⟩ else .escaped fault

/-- What a lookup of a kind is called in reports. -/
def Kind.lookupContext : Kind → String
  | .organization => "cannot find organization"
  | .bucket => "cannot find bucket"
  | .mapping => "cannot get dbrp"

/-- What a mutation of a kind is called in reports. -/
def Kind.mutationContext (k : Kind) (m : Mutation) : String :=
  "cannot " ++ (match m with
    | .create => "create"
    | .update => "update"
    | .delete => "delete") ++ " " ++ match k with
    | .organization => "organization"
    | .bucket => "bucket"
    | .mapping => "dbrp"

namespace Record

/-- The call that looks a record up. A mapping without an id cannot be looked up. -/
def lookup? (r : Record) : Option Call :=
  match r.resource with
  | .organization .. => some (.findOrganization r.externalName)
  | .bucket .. => some (.findBucket r.externalName)
  | .mapping p _ =>
    if r.externalName.truthy then some (.listMappings (Mapping.orgQuery p) .null r.externalName)
    else none

/-- The kind and name that say in the text of a fault that the record does not exist. Mappings are looked
up by id, so their faults say so by status only. -/
def lookedUp? (r : Record) : Option (String × String) :=
  match r.resource with
  | .organization .. => some ("organization", r.externalName.shown)
  | .bucket .. => some ("bucket", r.externalName.shown)
  | .mapping .. => none

/-- The first mapping of an answer that lists mappings. -/
def firstMapping? (answer : Value) : Except Fault (Option Value) := do
  let content := (← (answer.orElse (.map [])).getEntry "content").orElse (.list [])
  if content.truthy then return some (← content.getFirst) else return none

/-- The object that the lookup of a record found. -/
def found? (r : Record) (outcome : Except Fault Value) : Except Failure (Option Value) :=
  match findOrNone r.lookedUp? outcome with
  | .error fault => .error (.ofCall r.kind.lookupContext fault)
  | .ok none => .ok none
  | .ok (some answer) =>
    match r.kind with
    | .mapping => (firstMapping? answer).mapError .escaped
    | _ => .ok (some answer)

/-- A record that takes in the object found: what was observed of it, the Ready condition, and the
parameters that it fills. If a part of the object makes no sense, the parts before it have been taken in. -/
def absorb (now : Timestamp) (object : Value) (r : Record) : Except Fault Seen × Record :=
  match r.resource with
  | .organization p _ =>
    match Organization.Observation.ofAnswer object with
    | .error fault => (.error fault, r)
    | .ok o =>
      let r := { r with resource := .organization p o }
      let r := r.setConditions [if o.usable then .available now else .unavailable now]
      ((Organization.upToDate p object).map fun upToDate => ⟨true, upToDate, false⟩, r)
  | .bucket p _ =>
    match Bucket.Observation.ofAnswer object with
    | .error fault => (.error fault, r)
    | .ok o =>
      let (changed, p) := Bucket.lateInitialize p object
      let r := { r with resource := .bucket p o }.setConditions [.available now]
      (changed.bind fun changed =>
        (Bucket.upToDate p object).map fun upToDate => ⟨true, upToDate, changed⟩, r)
  | .mapping p _ =>
    match Mapping.observedLink object with
    | .error fault => (.error fault, r)
    | .ok link =>
      let (changed, p) := Mapping.lateInitialize p object
      let r := { r with resource := .mapping p ⟨link⟩ }.setConditions [.available now]
      (changed.bind fun changed =>
        (Mapping.upToDate p object).map fun upToDate => ⟨true, upToDate, changed⟩, r)

/-- The call that brings about a mutation of a record's resource. -/
def mutation (r : Record) : Mutation → Call
  | .create =>
    match r.resource with
    | .organization p _ => .createOrganization (.object (Organization.body r.externalName p))
    | .bucket p _ => .createBucket (.object (Bucket.body r.externalName p))
    | .mapping p _ => .createMapping (.object (Mapping.body p))
  | .update =>
    match r.resource with
    | .organization p o =>
      .updateOrganization (.object (Organization.updateBody r.externalName o.id p))
    | .bucket p o =>
      .updateBucket (.object (Bucket.body r.externalName p ++ [("id", o.id)]))
    | .mapping p _ =>
      .updateMapping r.externalName (.object (Mapping.updateBody p)) (Mapping.orgQuery p)
  | .delete =>
    match r.resource with
    | .organization _ o => .deleteOrganization o.id
    | .bucket _ o => .deleteBucket o.id
    | .mapping p _ => .deleteMapping r.externalName (Mapping.orgQuery p)

/-- A mapping's record takes its id from the answer to its creation, the only place that tells it. -/
def adoptId (r : Record) (answer : Value) : Except Failure Record :=
  match r.resource with
  | .mapping .. =>
    match (answer.orElse (.map [])).getEntry "id" with
    | .error fault => .error (.escaped fault)
    | .ok id =>
      if id.truthy then .ok (r.setExternalName id)
      else .error (.reported ⟨r.kind.mutationContext .create,
        some (.failed "response did not include an id")⟩)
  | _ => .ok r

/-- A record after a mutation with an outcome. Deleting what does not exist succeeds. -/
def afterMutation (r : Record) (m : Mutation) (outcome : Except Fault Value) :
    Except Failure Record :=
  match outcome with
  | .error fault =>
    if m = .delete && fault.isOrdinary && fault.isNotFound none then .ok r
    else .error (.ofCall (r.kind.mutationContext m) fault)
  | .ok answer =>
    match m with
    | .create => r.adoptId answer
    | _ => .ok r

end Record

end InfluxKeeper
