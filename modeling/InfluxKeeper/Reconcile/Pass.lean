import InfluxKeeper.Api.Wire
import InfluxKeeper.Reconcile.External
import InfluxKeeper.Reconcile.References

/-!
# Reconciling one record

A pass looks at the external resource of a record and then does at most one thing to it: a resource that
is marked for deletion is deleted, an absent one created, one that is not as wanted updated. What it did,
or why it could not, is told three times: by the result, by the conditions of the record, and by an event.

Main statement: `plan_eq_some_iff` says which mutation a pass makes.
-/

namespace InfluxKeeper

open Api

/-- A record in work: the record, the wire to the server, and the events published so far. -/
structure Work where
  record : Record
  wire : Wire
  events : List Event

/-- How a reconciler is set up: the server, the kinds that it handles, the most passes over one record,
and the most records in work at a time. Of several records, each waits for a slot; if there is none at all it
waits for ever. -/
structure Setup where
  client : Client
  kinds : List Kind
  maxPasses : Int
  maxConcurrent : Int

/-- A setup whose number of slots is not negative. -/
def Setup.checked (s : Setup) : Except Fault Setup :=
  if s.maxConcurrent < 0 then .error (.badValue "Semaphore initial value must be >= 0") else .ok s

/-- What a pass did to the external resource. -/
inductive Action
  | nothing
  | done (m : Mutation)
  deriving DecidableEq, Repr

/-- The name of an action. -/
def Action.name : Action → String
  | nothing => "none"
  | done .create => "created"
  | done .update => "updated"
  | done .delete => "deleted"

/-- The outcome of a pass over a record. -/
structure Result where
  kind : Kind
  name : String
  success : Bool
  action : Action
  message : String
  lateInitialized : Bool
  deriving DecidableEq, Repr

/-- The mutation that a pass makes: nothing if a resource to be deleted is gone or another one is as
wanted. -/
def plan? (deleting : Bool) (seen : Seen) : Option Mutation :=
  if deleting then if seen.present then some .delete else none
  else if !seen.present then some .create
  else if !seen.upToDate then some .update
  else none

/-- A pass deletes what is marked and there, creates what is not marked and absent, and updates what is
not marked, there, and not as wanted. -/
theorem plan_eq_some_iff (deleting : Bool) (seen : Seen) (m : Mutation) :
    plan? deleting seen = some m ↔
      match m with
      | .delete => deleting = true ∧ seen.present = true
      | .create => deleting = false ∧ seen.present = false
      | .update => deleting = false ∧ seen.present = true ∧ seen.upToDate = false := by
  obtain ⟨present, upToDate, late⟩ := seen
  cases deleting <;> cases present <;> cases upToDate <;> cases m <;> simp [plan?]

namespace Work

/-- Work with another record. -/
def withRecord (w : Work) (r : Record) : Work := { w with record := r }

/-- Work with conditions set on its record, as of now. -/
def setConditions (w : Work) (new : List (Timestamp → Condition)) : Work :=
  w.withRecord (w.record.setConditions (new.map (· w.wire.now)))

/-- Work with an event about its record published. -/
def publish (w : Work) (type : EventType) (message : String) : Work :=
  { w with events := w.events ++ [.ofRecord type w.record message w.wire.now] }

/-- Makes a call. -/
def call (w : Work) (c : Client) (call : Call) : Except Fault Value × Work :=
  let (outcome, wire) := w.wire.call c call
  (outcome, { w with wire })

/-- Prepares the record for a lookup: its external name and its references. -/
def prepare (w : Work) (resolver : Option Resolver) : Work :=
  let r := w.record.nameByDefault
  w.withRecord (match resolver with
    | some n => r.resolve n
    | none => r)

/-- Looks the external resource of the record up and takes in what is found. -/
def look (c : Client) (w : Work) : Except Failure Seen × Work :=
  match w.record.lookup? with
  | none => (.ok .absent, w)
  | some call =>
    let (outcome, w) := w.call c call
    match w.record.found? outcome with
    | .error failure => (.error failure, w)
    | .ok none => (.ok .absent, w)
    | .ok (some object) =>
      let (seen, r) := w.record.absorb w.wire.now object
      (seen.mapError .escaped, w.withRecord r)

/-- Mutates the external resource of the record. -/
def mutate (c : Client) (m : Mutation) (w : Work) : Except Failure Unit × Work :=
  let (outcome, w) := w.call c (w.record.mutation m)
  match w.record.afterMutation m outcome with
  | .error failure => (.error failure, w)
  | .ok r => (.ok (), w.withRecord r)

/-- Reports trouble: as a condition, as an event and as a result. -/
def fail (w : Work) (type : EventType) (t : Trouble) (lateInitialized : Bool) : Result × Work :=
  (⟨w.record.kind, w.record.name, false, .nothing, t.message, lateInitialized⟩,
    (w.setConditions [.failed t.message]).publish type t.message)

/-- Reports success: as a condition and as a result. -/
def succeed (w : Work) (action : Action) (lateInitialized : Bool) : Result × Work :=
  (⟨w.record.kind, w.record.name, true, action, "", lateInitialized⟩, w.setConditions [.synced])

/-- The Ready conditions that a pass sets over those of the lookup. -/
def readiness (deleting : Bool) (seen : Seen) : List (Timestamp → Condition) :=
  if deleting then [.deleting] else if seen.present then [] else [.creating]

/-- The second half of a pass: does what is to do about what was seen. -/
def settle (c : Client) (seen : Seen) (w : Work) : Except Fault Result × Work :=
  -- the conditions come before the plan, so that a mutation that fails leaves them
  let w := w.setConditions (readiness w.record.deleting seen)
  match plan? w.record.deleting seen with
  | none =>
    let (result, w) := w.succeed .nothing seen.lateInitialized
    (.ok result, w)
  | some m =>
    match w.mutate c m with
    | (.error (.escaped fault), w) => (.error fault, w)
    | (.error (.reported t), w) =>
      let (result, w) := w.fail (.cannot m) t seen.lateInitialized
      (.ok result, w)
    | (.ok (), w) =>
      let (result, w) := (w.publish (.done m) "").succeed (.done m) seen.lateInitialized
      (.ok result, w)

/-- The fault of a record whose kind is not handled. -/
def unhandled (k : Kind) : Fault :=
  .badValue ("No external client registered for " ++ k.name)

/-- Work on a record whose kind is handled, and the fault of one whose kind is not. -/
def ifHandled {α ε : Type} (s : Setup) (refuse : Fault → ε) (act : Work → Except ε α × Work)
    (w : Work) : Except ε α × Work :=
  if w.record.kind ∉ s.kinds then (.error (refuse (unhandled w.record.kind)), w) else act w

/-- A pass over a record whose kind is handled. -/
def pass (c : Client) (resolver : Option Resolver) (w : Work) : Except Fault Result × Work :=
  match (w.prepare resolver).look c with
  | (.error (.escaped fault), w) => (.error fault, w)
  | (.error (.reported t), w) =>
    let (result, w) := w.fail .cannotObserve t false
    (.ok result, w)
  | (.ok seen, w) => w.settle c seen

/-- A pass over the record. -/
def reconcile (s : Setup) (resolver : Option Resolver) : Work → Except Fault Result × Work :=
  ifHandled s id (pass s.client resolver)

/-- Looks at the record without changing its external resource. -/
def observe (s : Setup) (resolver : Option Resolver) : Work → Except Failure Seen × Work :=
  ifHandled s .escaped fun w => (w.prepare resolver).look s.client

end Work

end InfluxKeeper
