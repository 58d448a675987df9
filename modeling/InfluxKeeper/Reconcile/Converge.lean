import InfluxKeeper.Reconcile.Pass

/-!
# Reconciling many records

A fleet is a list of records on one wire. Its records are reconciled kind by kind, so that the identity of
a record is known before the records that name it are reconciled; within a kind, pass after pass over the
records that the last pass changed, up to a limit. Every record is in one place of the list throughout
(`length_reconcileAt`), so results belong to places.

The records of a pass are in work together, as many as there are slots, so that requests for one may come between
those for another. Here they are taken one after the other, as with a single slot. In a convergence that changes no
outcome. A pass is over records of one kind. Work on a record writes that record alone
(`Turns.records_of_notMem`) and reads, of the others, only those of other kinds (`readsAlike_of_sameOf`). So what it
asks, tells and leaves follows from its own record and its own answers (`Work.reconcile_undated`), whatever comes
between its requests. The order of requests, that of events, and times can differ. Without any slot no record comes
into work: what waits for it never ends (`reconcileAll_of_no_slot`).
-/

namespace InfluxKeeper

open Api

/-- Records in work on one wire. -/
structure Fleet where
  records : List Record
  wire : Wire
  events : List Event

/-- A list of places in a fleet, in the order in which they were named. -/
abbrev Places := List Nat

namespace Fleet

/-- The records at places, as a directory. -/
def directory (f : Fleet) (places : Places) : Directory :=
  .ofRecords (places.filterMap (f.records[·]?))

/-- The resolver of references among the records at places. -/
def resolver (f : Fleet) (places : Places) : Resolver := (f.directory places).resolver

/-- Works on the record at a place; a place beyond the records is left alone. -/
def workAt {α : Type} (f : Fleet) (place : Nat) (work : Work → Except Fault α × Work) :
    Except Fault α × Fleet :=
  match f.records[place]? with
  | none => (.error (.missingKey (.int place)), f)
  | some r =>
    let (outcome, w) := work ⟨r, f.wire, f.events⟩
    (outcome, ⟨f.records.set place w.record, w.wire, w.events⟩)

/-- A pass over the record at a place. References are resolved among the records at given places. -/
def reconcileAt (s : Setup) (names : Option Places) (place : Nat) (f : Fleet) :
    Except Fault Result × Fleet :=
  f.workAt place (Work.reconcile s (names.map f.resolver))

/-- A pass keeps the number of records. -/
@[simp] theorem length_reconcileAt (s : Setup) (names : Option Places) (place : Nat) (f : Fleet) :
    (f.reconcileAt s names place).2.records.length = f.records.length := by
  unfold reconcileAt workAt
  split <;> simp

/-- A pass over the records at several places, one after the other. -/
def reconcileEach (s : Setup) (names : Option Places) :
    Places → Fleet → List (Except Fault Result) × Fleet
  | [], f => ([], f)
  | place :: rest, f =>
    let (outcome, f) := f.reconcileAt s names place
    let (outcomes, f) := reconcileEach s names rest f
    (outcome :: outcomes, f)

/-- Why work on several records gives no results: a fault ended it, or it waits for a slot and never ends. -/
inductive Halt
  | fault (f : Fault)
  | stalled
  deriving DecidableEq

/-- The values of outcomes, or the first fault among them. -/
def gather {α : Type} : List (Except Fault α) → Except Fault (List α)
  | [] => .ok []
  | .ok a :: rest => (gather rest).map (a :: ·)
  | .error fault :: _ => .error fault

/-- A pass over the records at several places. Every record has its pass, also after a fault; then the
first fault is the outcome. Without a slot no record has its pass, and the first one is waited for. -/
def reconcileAll (s : Setup) (names : Option Places) (places : Places) (f : Fleet) :
    Except Halt (List Result) × Fleet :=
  if 0 < s.maxConcurrent ∨ places = [] then
    let (outcomes, f) := reconcileEach s names places f
    ((gather outcomes).mapError .fault, f)
  else (.error .stalled, f)

/-- Where there is no record, none waits. -/
@[simp] theorem reconcileAll_nil (s : Setup) (names : Option Places) (f : Fleet) :
    f.reconcileAll s names [] = (.ok [], f) := by
  unfold reconcileAll
  rw [if_pos (Or.inr rfl)]
  rfl

/-- Nothing is done without a slot. -/
theorem reconcileAll_of_no_slot {s : Setup} (none_free : s.maxConcurrent ≤ 0) (names : Option Places)
    {places : Places} (some_place : places ≠ []) (f : Fleet) :
    f.reconcileAll s names places = (.error .stalled, f) := by
  unfold reconcileAll
  rw [if_neg]
  intro h
  rcases h with slot | none
  · omega
  · exact some_place none

/-- Results by the numbers of the records that they belong to. -/
abbrev Results := List (Nat × Result)

/-- Results with one entered under a number. -/
def Results.enter (number : Nat) (result : Result) : Results → Results
  | [] => [(number, result)]
  | e :: rest => if e.1 = number then (number, result) :: rest else e :: enter number result rest

/-- Whether a record may change again: its last pass created or updated something. -/
def changing (r : Result) : Bool :=
  r.success && (r.action == .done .create || r.action == .done .update)

/-- Passes over the pending records of a kind, given by number and place, until none is changing or the
passes are used up. -/
def passes (s : Setup) (names : Option Places) :
    Nat → List (Nat × Nat) → Results → Fleet → Except Halt Results × Fleet
  | 0, _, results, f => (.ok results, f)
  | _ + 1, [], results, f => (.ok results, f)
  | limit + 1, pending, results, f =>
    match f.reconcileAll s names (pending.map (·.2)) with
    | (.error halt, f) => (.error halt, f)
    | (.ok outcomes, f) =>
      let told := pending.zip outcomes
      -- a later result of a record replaces its earlier one
      let results := told.foldl (fun acc e => Results.enter e.1.1 e.2 acc) results
      let pending := (told.filter fun e => changing e.2).map (·.1)
      passes s names limit pending results f

/-- Passes over the records of one kind after the other. -/
def passesByKind (s : Setup) (names : Option Places) (limit : Nat) (numbered : List (Nat × Nat)) :
    List String → Results → Fleet → Except Halt Results × Fleet
  | [], results, f => (.ok results, f)
  | kind :: rest, results, f =>
    let pending := numbered.filter fun e => (f.records[e.2]?).any (·.kind.name = kind)
    match passes s names limit pending results f with
    | (.error halt, f) => (.error halt, f)
    | (.ok results, f) => passesByKind s names limit numbered rest results f

/-- The results of numbers, or a fault that names the first number without one. -/
def collect (results : Results) : List Nat → Except Fault (List Result)
  | [] => .ok []
  | number :: rest =>
    match results.lookup number with
    | some result => (collect results rest).map (result :: ·)
    | none => .error (.missingKey (.int number))

/-- The limit of passes: the one asked for, unless it is none or zero, else that of the setup. -/
def passLimit (s : Setup) (maxPasses : Option Int) : Nat :=
  match maxPasses with
  | some n => if n = 0 then s.maxPasses.toNat else n.toNat
  | none => s.maxPasses.toNat

/-- Reconciles the records at places kind by kind until they stop changing. References are resolved among
the records at the places named by the setup, or else among the records reconciled. -/
def converge (s : Setup) (names : Option Places) (places : Places) (maxPasses : Option Int)
    (order : List String) (f : Fleet) : Except Halt (List Result) × Fleet :=
  let numbered := places.zipIdx.map fun e => (e.2, e.1)
  match (places.filterMap (f.records[·]?)).find? fun r => r.kind.name ∉ order with
  | some r => (.error (.fault (.badValue ("Unknown record kind: " ++ r.kind.name))), f)
  | none =>
    match passesByKind s (some (names.getD places)) (passLimit s maxPasses) numbered order [] f with
    | (.error halt, f) => (.error halt, f)
    | (.ok results, f) => ((collect results (numbered.map (·.1))).mapError .fault, f)

/-- What a look at a record tells: whether its resource is there and as wanted, or why that is not
known. -/
structure Sight where
  present : Bool
  upToDate : Bool
  message : String
  deriving DecidableEq, Repr

/-- What a look tells; trouble is told by its message. -/
def sightOf : Except Failure Seen → Except Fault Sight
  | .ok seen => .ok ⟨seen.present, seen.upToDate, ""⟩
  | .error (.reported t) => .ok ⟨false, false, t.message⟩
  | .error (.escaped fault) => .error fault

/-- Looks at records given by number and place, one after the other, up to the first fault. -/
def look (s : Setup) (names : Places) :
    List (Nat × Nat) → List (Nat × Sight) → Fleet → Except Fault (List (Nat × Sight)) × Fleet
  | [], sights, f => (.ok sights, f)
  | (number, place) :: rest, sights, f =>
    let view := f.resolver names
    match f.workAt place fun w =>
      let (seen, w) := w.observe s (some view)
      (sightOf seen, w) with
    | (.error fault, f) => (.error fault, f)
    | (.ok sight, f) => look s names rest (sights ++ [(number, sight)]) f

/-- Looks at the records at places, kind by kind. -/
def observeAll (s : Setup) (places : Places) (f : Fleet) : Except Fault (List Sight) × Fleet :=
  let numbered := places.zipIdx.map fun e => (e.2, e.1)
  let ordered := Kind.all.flatMap fun kind =>
    numbered.filter fun e => (f.records[e.2]?).any (·.kind = kind)
  match look s places ordered [] f with
  | (.error fault, f) => (.error fault, f)
  | (.ok sights, f) =>
    (.ok (numbered.map fun e => (sights.lookup e.1).getD ⟨false, false, ""⟩), f)

end Fleet

end InfluxKeeper
