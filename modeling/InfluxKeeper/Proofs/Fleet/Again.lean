import InfluxKeeper.Proofs.Reconcile.Again

/-!
# Settled records stay settled

In a fleet, a record is reconciled among records that it reads by its pointers. Between two reconciles of it
nothing changes but what the first one wrote, and that is a record of a kind that it does not read.

> `reconcileAt_again`: a record that was found in order, and to which nothing was filled in, is only looked up
> when it is reconciled again: the result is the same, and so is the record, with the times of its conditions.

The time is that of the second wire, which may be any.
-/

namespace InfluxKeeper

open Api

namespace Fleet

variable {s : Setup} {names : Option Places}

/-- The answer that is next on the wire of a fleet. -/
def next (f : Fleet) : Answer := (f.wire.script f.wire.sent.length).answer

/-- The record at the place of a turn that ended with a result, and what the turn did to it. -/
theorem reconcileAt_ok {f f₁ : Fleet} {place : Nat} {result : Result}
    (h : f.reconcileAt s names place = (.ok result, f₁)) :
    ∃ r w₁, f.records[place]? = some r ∧
      (f.work r).reconcile s (names.map f.resolver) = (.ok result, w₁) ∧
      f₁ = ⟨f.records.set place w₁.record, w₁.wire, w₁.events⟩ := by
  unfold reconcileAt workAt at h
  cases hr : f.records[place]? with
  | none => rw [hr] at h; cases h
  | some r =>
    rw [hr] at h
    obtain ⟨houtcome, hfleet⟩ := Prod.mk.injEq .. ▸ h
    exact ⟨r, _, rfl, Prod.fst_eq_iff.mp houtcome, hfleet.symm⟩

/-- A turn whose reconcile leaves its record alone leaves the records alone. -/
theorem reconcileAt_of_same {g : Fleet} {place : Nat} {r : Record} {outcome : Except Fault Result} {v : Work}
    (hr : g.records[place]? = some r)
    (h : (g.work r).reconcile s (names.map g.resolver) = (outcome, v)) (same : v.record = r) :
    g.reconcileAt s names place = (outcome, ⟨g.records, v.wire, v.events⟩) := by
  unfold work at h
  unfold reconcileAt workAt
  rw [hr]
  dsimp only
  obtain ⟨hlt, rfl⟩ := List.getElem?_eq_some_iff.mp hr
  rw [h, same, List.set_getElem_self hlt]

/-- What a reconcile at a place wrote is not read by the record there. -/
theorem readsAlike_reconcileAt (f : Fleet) {place : Nat} {r r' : Record} (hr : f.records[place]? = some r)
    (hk : r'.kind = r.kind) {g : Fleet} (same : g.records = (f.reconcileAt s names place).2.records) :
    r'.ReadsAlike (names.map f.resolver) (names.map g.resolver) := by
  obtain ⟨t, hplace, -, hturn⟩ := exists_turn s names f place
  rw [← hplace] at hr
  refine readsAlike_of_sameOf (fun k hne other => ?_) names
  rw [same]
  exact hturn.sameOf hr (hk ▸ hne) other

/-- **Settled records stay settled.** A reconcile that found a record in order, and filled nothing in, has sent
the lookup of the record. Made again, at any time and with the same answer to the lookup, it sends that lookup
only, gives the same result, publishes nothing and changes nothing. -/
theorem reconcileAt_again {f f₁ g : Fleet} {place : Nat} {result : Result}
    (h : f.reconcileAt s names place = (.ok result, f₁)) (success : result.success = true)
    (idle : result.action = .nothing) (unfilled : result.lateInitialized = false)
    (same : g.records = f₁.records) (answered : f₁.wire.sent ≠ f.wire.sent → g.next = f.next) :
    ∃ r, f₁.records[place]? = some r ∧
      f₁.wire.sent = f.wire.sent ++ (r.lookupRequest? s.client).toList ∧
      ∃ g', g.reconcileAt s names place = (.ok result, g') ∧ g'.records = g.records ∧
        g'.events = g.events ∧ g'.wire.sent = g.wire.sent ++ (r.lookupRequest? s.client).toList := by
  obtain ⟨r, w₁, hr, hw, rfl⟩ := reconcileAt_ok h
  have hlt : place < f.records.length := (List.getElem?_eq_some_iff.mp hr).1
  have hrecord : (f.records.set place w₁.record)[place]? = some w₁.record := List.getElem?_set_self hlt
  obtain ⟨hnamed, hsent⟩ := Work.sent_of_idle hw success idle
  have hkind : w₁.record.kind = r.kind := by
    have hcard := Work.card_reconcile s (names.map f.resolver) (f.work r)
    rw [hw] at hcard
    exact congrArg Prod.fst hcard
  -- a record that has a lookup has sent it, so the answer to it is the same
  have hanswer : w₁.record.lookup? ≠ none → (g.work w₁.record).next = (f.work r).next := by
    intro hasked
    refine answered fun hnone => ?_
    have hempty := List.self_eq_append_right.mp (hnone.symm.trans hsent)
    exact (List.length_pos_iff.mp (Record.length_lookupRequest_pos hnamed hasked)) hempty
  have hagain : (g.work w₁.record).reconcile s (names.map g.resolver)
      = (.ok result, (g.work w₁.record).asked s.client) :=
    Work.reconcile_again hw success idle unfilled rfl
      (readsAlike_reconcileAt f hr hkind (by rw [same, h])) hanswer
  refine ⟨w₁.record, hrecord, hsent, _, reconcileAt_of_same (by rw [same]; exact hrecord) hagain
    (Work.record_asked _ _), rfl, Work.events_asked _ _, ?_⟩
  exact Work.sent_asked hnamed

/-- An organization that was observed, and a bucket that selects it by a label. -/
def selecting : List Record :=
  let acme := Record.ofName "acme" (.organization ⟨none⟩ { Organization.Observation.empty with
    id := .text "o1" })
  let events := Record.ofName "events" (.bucket { Bucket.Parameters.empty with
    orgIDSelector := some ⟨[("team", "ops")]⟩ } .empty)
  [{ acme with metadata := { acme.metadata with labels := [("team", .text "ops")] } }, events]

/-- The bucket is found twice. -/
def selectingFleet : Fleet :=
  let found := Answer.ofValue (.object [("buckets", .list [.object [("id", .text "b1"), ("orgID", .text "o1"),
    ("name", .text "events")]])])
  ⟨selecting, .ofAnswers [found, found], []⟩

/-- The reconcile after the one that selected the organization is a lookup, a second later. -/
theorem reconcileAt_again_selecting :
    let s := Setup.ofClient ⟨"http://db", "", 30⟩
    let g := (selectingFleet.reconcileAt s (some [0, 1]) 1).2
    let result : Result := ⟨.bucket, "events", true, .nothing, "", false⟩
    g.wire.sent.map (fun q => (q.method, q.url)) = [("GET", "http://db/buckets")] ∧
      ∃ r, g.records[1]? = some r ∧
        g.wire.sent = selectingFleet.wire.sent ++ (r.lookupRequest? s.client).toList ∧
        ∃ g', g.reconcileAt s (some [0, 1]) 1 = (.ok result, g') ∧ g'.records = g.records ∧
          g'.events = g.events ∧ g'.wire.sent = g.wire.sent ++ (r.lookupRequest? s.client).toList := by
  intro s g result
  have h : (selectingFleet.reconcileAt s (some [0, 1]) 1).1 = .ok result := by decide +kernel
  exact ⟨by decide +kernel,
    reconcileAt_again (Prod.fst_eq_iff.mp h) rfl rfl rfl rfl fun _ => by decide +kernel⟩

end Fleet

end InfluxKeeper
