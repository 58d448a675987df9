import InfluxKeeper.Proofs.Reconcile.Verdict

/-!
# What a reconcile tells

A reconcile tells what came of it in three ways: by its result, by the conditions of the record, and by an
event. `Tells` says that the three agree, whatever conditions the record had before.

> `reconcile_tells`: a reconcile that ends with a result tells it by the Synced condition, by one event unless
> there was nothing to do, and by a Ready condition that follows the mark for deletion and what was found.

The conditions are written in three places: where the record takes in the object found, before a mutation, and
at the end. Each type of condition stands for itself (`condition?_setConditions_of_ne`), so Ready is settled
before the mutation (`shows_poised`) and what comes after it touches Synced only.
-/

namespace InfluxKeeper

open Api Schema

/-! ## Conditions of a record -/

namespace Record

/-- The condition of a type has the given status, reason and message. -/
def Shows (r : Record) (type status reason message : String) : Prop :=
  ∃ condition, r.condition? type = some condition ∧ condition.status = status ∧
    condition.reason = reason ∧ condition.message = message

/-- A condition just set is shown. -/
theorem shows_setConditions (r : Record) (new : Condition) :
    (r.setConditions [new]).Shows new.type new.status new.reason new.message := by
  obtain ⟨condition, hc, -, hstatus, hreason, hmessage⟩ := condition?_setCondition new r.conditions
  exact ⟨condition, hc, hstatus, hreason, hmessage⟩

/-- Setting a condition leaves those of other types. -/
theorem condition?_setConditions_of_ne {new : Condition} {type : String} (h : new.type ≠ type)
    (r : Record) : (r.setConditions [new]).condition? type = r.condition? type :=
  condition?_setCondition_of_ne h r.conditions

theorem Shows.congr {r r' : Record} {type status reason message : String}
    (h : r.Shows type status reason message) (hc : r'.condition? type = r.condition? type) :
    r'.Shows type status reason message := by
  unfold Shows
  rw [hc]
  exact h

/-- Records with the same conditions have the same condition of a type. -/
theorem condition?_congr {r r' : Record} (h : r'.conditions = r.conditions) (type : String) :
    r'.condition? type = r.condition? type := by
  unfold condition?
  rw [h]

end Record

/-! ## What the Ready condition says -/

/-- An object that its server calls inactive. -/
def Value.IsInactive (object : Value) : Prop := object.getEntry "status" = .ok (.text "inactive")

instance (object : Value) : Decidable object.IsInactive := inferInstanceAs (Decidable (_ = _))

/-- The reason of the Ready condition of a record for which an object was found, or none. -/
def Record.readyReason (found : Option Value) (r : Record) : String :=
  if r.deleting then "Deleting"
  else
    match found with
    | none => "Creating"
    | some object => if r.kind = .organization ∧ object.IsInactive then "Unavailable" else "Available"

/-- The Ready condition has a reason, and it is true if the resource is available. -/
def Record.ShowsReady (r : Record) (reason : String) : Prop :=
  r.Shows "Ready" (if reason = "Available" then "True" else "False") reason ""

/-- An organization observed cannot be used exactly if its object is inactive. -/
theorem Organization.usable_iff {object : Value} {o : Observation} (hp : object.Plain)
    (h : Observation.ofAnswer object = .ok o) : o.usable = false ↔ object.IsInactive := by
  unfold Observation.ofAnswer at h
  split at h
  · next entries =>
    obtain ⟨links, -, hfit⟩ := bind_ok_iff.mp h
    obtain ⟨f₃, updated, h₃, -, rfl⟩ := seq_valid_iff.mp (fit_ok_iff.mp hfit)
    obtain ⟨f₂, created, h₂, -, rfl⟩ := seq_valid_iff.mp h₃
    obtain ⟨f₁, status, h₁, hstatus, rfl⟩ := seq_valid_iff.mp h₂
    obtain ⟨id, -, rfl⟩ := map_valid_iff.mp h₁
    have hentries : Entries.Plain entries := hp
    have htext := Value.text_of_plain (Value.plain_orElse hentries.get (Value.plain_text ""))
      (under_valid_iff.mp hstatus)
    have husable : (Observation.usable ⟨id, status, created, updated, links⟩ = false) ↔
        status = "inactive" := by
      simp [Observation.usable]
    rw [husable]
    show _ ↔ Except.ok (Entries.get entries "status") = Except.ok (.text "inactive")
    -- an empty status is none, and neither is inactive
    by_cases ht : (Entries.get entries "status").truthy = true
    · rw [Value.orElse, if_pos ht] at htext
      rw [htext]
      simp
    · rw [Value.orElse, if_neg ht] at htext
      cases htext
      refine ⟨fun hinactive => absurd hinactive (by decide), fun hget => ?_⟩
      rw [Except.ok.inj hget] at ht
      exact absurd rfl ht
  · cases h

/-- A record that takes in an object shows whether that can be used. -/
theorem Record.shows_absorb {now : Timestamp} {object : Value} {r r' : Record} {seen : Seen}
    (hp : object.Plain) (h : r.absorb now object = (.ok seen, r')) :
    r'.ShowsReady
      (if r.kind = .organization ∧ object.IsInactive then "Unavailable" else "Available") := by
  unfold absorb at h
  unfold kind
  cases hr : r.resource with
  | organization p o₀ =>
    rw [hr] at h
    dsimp only at h
    split at h
    · cases h
    · next o ho =>
      obtain ⟨-, rfl⟩ := Prod.mk.injEq .. ▸ h
      have husable := Organization.usable_iff hp ho
      cases hu : o.usable with
      | true =>
        have hi : ¬object.IsInactive := fun hi => by rw [husable.mpr hi] at hu; cases hu
        rw [if_neg (c := (Resource.organization p o₀).kind = .organization ∧ _) fun hand => hi hand.2]
        exact shows_setConditions _ (.available now)
      | false =>
        rw [if_pos (c := (Resource.organization p o₀).kind = .organization ∧ _) ⟨rfl, husable.mp hu⟩]
        exact shows_setConditions _ (.unavailable now)
  | bucket p o₀ =>
    rw [hr] at h
    dsimp only at h
    split at h
    · cases h
    · obtain ⟨-, rfl⟩ := Prod.mk.injEq .. ▸ h
      rw [if_neg fun hand => nomatch hand.1]
      exact shows_setConditions _ (.available now)
  | mapping p o₀ =>
    rw [hr] at h
    dsimp only at h
    split at h
    · cases h
    · obtain ⟨-, rfl⟩ := Prod.mk.injEq .. ▸ h
      rw [if_neg fun hand => nomatch hand.1]
      exact shows_setConditions _ (.available now)

namespace Work

variable {s : Setup} {c : Client} {resolver : Option Resolver}

@[simp] theorem conditions_prepare (w : Work) (resolver : Option Resolver) :
    (w.prepare resolver).record.conditions = w.record.conditions := by
  have hname (r : Record) : r.nameByDefault.conditions = r.conditions := by
    unfold Record.nameByDefault
    split
    · rfl
    · rfl
  rw [record_prepare]
  cases resolver with
  | none => exact hname w.record
  | some n =>
    rw [← hname w.record]
    show (Record.resolve n w.record.nameByDefault).conditions = _
    unfold Record.resolve
    split
    · rfl
    · rfl
    · rfl

/-- Once the lookup saw something, the Ready condition is as it stays. -/
theorem shows_poised {w : Work} {seen : Seen}
    (h : (w.prepare resolver).look c = (.ok seen, w.looked c resolver)) :
    ∃ found, (w.prepare resolver).finding c = .ok found ∧
      ((w.looked c resolver).poised seen).record.ShowsReady (w.record.readyReason found) := by
  have hdeleting := w.deleting_looked c resolver
  unfold poised Record.readyReason
  rw [hdeleting, record_setConditions]
  unfold readiness
  rcases look_ok h with ⟨hf, rfl, -⟩ | ⟨object, r, hf, ha, hw⟩
  · refine ⟨none, hf, ?_⟩
    cases w.record.deleting with
    | true => exact Record.shows_setConditions _ (.deleting _)
    | false => exact Record.shows_setConditions _ (.creating _)
  · refine ⟨some object, hf, ?_⟩
    have hplain := finding_plain hf
    have hready := Record.shows_absorb hplain ha
    rw [kind_prepare] at hready
    rw [(Record.absorb_ok hplain ha).1]
    cases w.record.deleting with
    | true => exact Record.shows_setConditions _ (.deleting _)
    | false => rw [hw]; exact hready

/-! ## The three accounts of a reconcile -/

/-- A step at which a reconcile fails: its lookup, or the mutation that it planned. -/
def FailsAt (c : Client) (resolver : Option Resolver) (w : Work) : EventType → Prop
  | .cannotObserve => ∃ t, (w.prepare resolver).finding c = .error (.reported t)
  | .cannot m => w.planned? c resolver = some m
  | .done _ => False

/-- An event tells of a result of the reconcile of a record. -/
structure TellsBy (c : Client) (resolver : Option Resolver) (w : Work) (result : Result) (e : Event) :
    Prop where
  kind : e.kind = w.record.kind.name
  name : e.name = w.record.name
  message : e.message = result.message
  done : ∀ m, result.action = .done m → e.type = .done m
  failed : result.success = false → w.FailsAt c resolver e.type
  warning : e.type.warning = !result.success

/-- The result of a reconcile, the conditions of the record and the events agree. -/
structure Tells (c : Client) (resolver : Option Resolver) (w w' : Work) (result : Result) : Prop where
  /-- The result is about the record. -/
  subject : result.kind = w.record.kind ∧ result.name = w.record.name
  /-- A success has no message, and Synced is true. -/
  synced : result.success = true →
    result.message = "" ∧ w'.record.Shows "Synced" "True" "ReconcileSuccess" ""
  /-- A failure did nothing and has a message, which Synced repeats. -/
  failed : result.success = false → result.action = .nothing ∧ result.message ≠ "" ∧
    w'.record.Shows "Synced" "False" "ReconcileError" result.message
  /-- If nothing was done and nothing failed, nothing is published. -/
  quiet : result.success = true → result.action = .nothing → w'.events = w.events
  /-- Otherwise one event is, which tells of the result. -/
  published : result.success = false ∨ result.action ≠ .nothing →
    ∃ e, w'.events = w.events ++ [e] ∧ w.TellsBy c resolver result e
  /-- Ready follows the mark for deletion and what was found; if that is not known it stays. -/
  ready : match (w.prepare resolver).finding c with
    | .error _ => w'.record.condition? "Ready" = w.record.condition? "Ready"
    | .ok found => w'.record.ShowsReady (w.record.readyReason found)

/-! ## What a report says -/

/-- What could not be done, and why, is never nothing. -/
theorem message_ne_empty (context cause : String) : context ++ ": " ++ cause ≠ "" := by
  intro h
  have hlength := congrArg String.length h
  simp at hlength

/-- A lookup that fails is reported with its context and a cause. -/
theorem trouble_of_finding {w : Work} {t : Trouble} (h : w.finding c = .error (.reported t)) :
    ∃ fault : Fault, t.message = w.record.kind.lookupContext ++ ": " ++ fault.message := by
  unfold finding at h
  split at h
  · cases h
  · unfold Record.found? at h
    split at h
    · next fault _ =>
      unfold Failure.ofCall at h
      split at h
      · cases h; exact ⟨fault, rfl⟩
      · cases h
    · cases h
    · split at h
      · obtain ⟨_, _, hescaped⟩ := mapError_error_iff.mp h
        cases hescaped
      · cases h

/-- An event published comes last. -/
theorem events_publish (w : Work) (type : EventType) (message : String) :
    (w.publish type message).events =
      w.events ++ [.ofRecord type w.record message w.wire.now] := rfl

/-- A report says why on the record, and publishes one event. -/
theorem tells_fail (w : Work) (type : EventType) (t : Trouble) (late : Bool) :
    (w.fail type t late).2.record.Shows "Synced" "False" "ReconcileError" t.message ∧
      (w.fail type t late).2.record.condition? "Ready" = w.record.condition? "Ready" ∧
      (w.fail type t late).2.events = w.events ++
        [.ofRecord type (w.record.setConditions [.failed t.message w.wire.now]) t.message w.wire.now] :=
  ⟨w.record.shows_setConditions (.failed t.message w.wire.now),
    Record.condition?_setConditions_of_ne (show "Synced" ≠ "Ready" by decide) w.record, rfl⟩

/-- A success is told on the record, and publishes nothing more. -/
theorem tells_succeed (w : Work) (action : Action) (late : Bool) :
    (w.succeed action late).2.record.Shows "Synced" "True" "ReconcileSuccess" "" ∧
      (w.succeed action late).2.record.condition? "Ready" = w.record.condition? "Ready" ∧
      (w.succeed action late).2.events = w.events :=
  ⟨w.record.shows_setConditions (.synced w.wire.now),
    Record.condition?_setConditions_of_ne (show "Synced" ≠ "Ready" by decide) w.record, rfl⟩

/-! ## The accounts agree -/

/-- Work that made a mutation is about the same record, shows the same conditions, and has published
nothing. -/
theorem subject_of_mutate {w w₁ : Work} {seen : Seen} {m : Mutation} {outcome : Except Failure Unit}
    (h : ((w.looked c resolver).poised seen).mutate c m = (outcome, w₁)) :
    w₁.record.kind = w.record.kind ∧ w₁.record.name = w.record.name ∧
      w₁.record.conditions = ((w.looked c resolver).poised seen).record.conditions ∧
      w₁.events = w.events := by
  have hcard := card_mutate c m ((w.looked c resolver).poised seen)
  have hconditions := conditions_mutate c m ((w.looked c resolver).poised seen)
  have hevents := events_mutate c m ((w.looked c resolver).poised seen)
  rw [h] at hcard hconditions hevents
  have hlooked : w₁.record.card = w.record.card := hcard.trans (w.card_looked c resolver)
  exact ⟨congrArg Prod.fst hlooked, congrArg (fun card => card.2.1) hlooked, hconditions,
    hevents.trans (w.events_looked c resolver)⟩

/-- Whatever a reconcile ends in, its accounts agree. -/
theorem tells_of_ends {w w' : Work} {result : Result} (h : Ends c resolver w result w') :
    w.Tells c resolver w' result := by
  have hcard := w.card_looked c resolver
  have hkind : (w.looked c resolver).record.kind = w.record.kind := congrArg Prod.fst hcard
  have hname : (w.looked c resolver).record.name = w.record.name :=
    congrArg (fun card => card.2.1) hcard
  cases h with
  | @unseen t finding =>
    obtain ⟨hsynced, hready, hevents⟩ := tells_fail (w.looked c resolver) .cannotObserve t false
    obtain ⟨fault, hmessage⟩ := trouble_of_finding finding
    have hlooked : (w.looked c resolver).record = (w.prepare resolver).record := by
      unfold looked
      rw [look_eq, finding, record_asked]
    rw [events_looked] at hevents
    refine ⟨⟨hkind, hname⟩, nofun, fun _ => ⟨rfl, ?_, hsynced⟩, nofun, fun _ => ⟨_, hevents, ?_⟩, ?_⟩
    · show t.message ≠ ""
      rw [hmessage]
      exact message_ne_empty _ _
    · exact ⟨congrArg Kind.name hkind, hname, rfl, nofun, fun _ => ⟨t, finding⟩, rfl⟩
    · rw [finding]
      refine hready.trans ?_
      rw [hlooked]
      exact Record.condition?_congr (w.conditions_prepare resolver) "Ready"
  | @idle seen look plan =>
    obtain ⟨hsynced, hready, hevents⟩ :=
      tells_succeed ((w.looked c resolver).poised seen) .nothing seen.lateInitialized
    obtain ⟨found, hf, hshows⟩ := shows_poised look
    refine ⟨⟨hkind, hname⟩, fun _ => ⟨rfl, hsynced⟩, nofun, fun _ _ => ?_, ?_, ?_⟩
    · exact hevents.trans (w.events_looked c resolver)
    · rintro (hfail | hact)
      · cases hfail
      · exact absurd rfl hact
    · rw [hf]
      exact hshows.congr hready
  | @done seen m w₁ look plan mutated =>
    obtain ⟨hk, hn, hconditions, hev⟩ := subject_of_mutate mutated
    obtain ⟨hsynced, hready, hevents⟩ :=
      tells_succeed (w₁.publish (.done m) "") (.done m) seen.lateInitialized
    obtain ⟨found, hf, hshows⟩ := shows_poised look
    rw [events_publish, hev] at hevents
    refine ⟨⟨hk, hn⟩, fun _ => ⟨rfl, hsynced⟩, nofun, nofun, fun _ => ⟨_, hevents, ?_⟩, ?_⟩
    · exact ⟨congrArg Kind.name hk, hn, rfl, fun n hn => by cases hn; rfl, nofun, rfl⟩
    · rw [hf]
      exact hshows.congr (hready.trans (Record.condition?_congr hconditions "Ready"))
  | @undone seen m t w₁ look plan mutated =>
    obtain ⟨hk, hn, hconditions, hev⟩ := subject_of_mutate mutated
    obtain ⟨hsynced, hready, hevents⟩ := tells_fail w₁ (.cannot m) t seen.lateInitialized
    obtain ⟨found, hf, hshows⟩ := shows_poised look
    have hmessage := Record.complaint_of_failed (mutate_error mutated).1
    rw [hev] at hevents
    refine ⟨⟨hk, hn⟩, nofun, fun _ => ⟨rfl, ?_, hsynced⟩, nofun, fun _ => ⟨_, hevents, ?_⟩, ?_⟩
    · show t.message ≠ ""
      rw [hmessage]
      exact message_ne_empty _ _
    · exact ⟨congrArg Kind.name hk, hn, rfl, nofun, fun _ => plan, rfl⟩
    · rw [hf]
      exact hshows.congr (hready.trans (Record.condition?_congr hconditions "Ready"))

/-- **Result, conditions and events tell the same.** -/
theorem reconcile_tells {w w' : Work} {result : Result}
    (h : w.reconcile s resolver = (.ok result, w')) : w.Tells s.client resolver w' result :=
  tells_of_ends (reconcile_ends h)

/-- An organization that was available and in sync, is marked for deletion and found, and whose deletion the
server refuses. -/
def undeletable : Work :=
  .ofAnswers (((Record.ofName "acme" (.organization ⟨none⟩ .empty)).markForDeletion
      (.ofSeconds 0 0)).setConditions [.available (.ofSeconds 0 0), .synced (.ofSeconds 0 0)])
    [.ofValue (.object [("orgs", .list [.object [("id", .text "o1"), ("name", .text "acme")]])]),
      .response 500 "busy"]

/-- Its old conditions give way: it shows that it is being deleted, and the report of the refusal. -/
theorem reconcile_tells_undeletable :
    let s := Setup.ofClient ⟨"http://db", "", 30⟩
    let w' := (undeletable.reconcile s none).2
    let result : Result :=
      ⟨.organization, "acme", false, .nothing, "cannot delete organization: HTTP 500: busy", false⟩
    w'.record.conditions.map (fun c => (c.type, c.status, c.reason, c.message)) =
        [("Ready", "False", "Deleting", ""), ("Synced", "False", "ReconcileError", result.message)] ∧
      undeletable.Tells s.client none w' result := by
  have h : (undeletable.reconcile (Setup.ofClient ⟨"http://db", "", 30⟩) none).1 = .ok ⟨.organization,
      "acme", false, .nothing, "cannot delete organization: HTTP 500: busy", false⟩ := by
    decide +kernel
  exact ⟨by decide +kernel, reconcile_tells (Prod.fst_eq_iff.mp h)⟩

end Work

end InfluxKeeper
