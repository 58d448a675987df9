import InfluxKeeper.Proofs.Reconcile.Again
import InfluxKeeper.Proofs.Reconcile.Fits
import InfluxKeeper.Proofs.Reconcile.Readable

/-!
# Lookups that fail halfway

A lookup that fails should leave the record as it was. It does if the call fails, if nothing can be made of the
answer, and for organizations and mappings always: what is read of their objects is read before anything is
written (`Record.absorb_error`). A bucket is observed first, called available, and filled; only then are its
rules read. If they make no sense, all of that has been written.

> `look_keeps_iff`: a lookup that fails leaves the record as it was, unless the object found is a bucket that can be
> observed but has no rules to read, and the record does not say already what is read before them.
-/

namespace InfluxKeeper

open Api

/-! ## A bucket without rules to read -/

namespace Bucket

theorem map_of_ofAnswer {object : Value} {seen : Observation} (h : Observation.ofAnswer object = .ok seen) :
    ∃ entries, object = .map entries := by
  unfold Observation.ofAnswer at h
  split at h
  · exact ⟨_, rfl⟩
  · cases h

/-- Parameters filled from a bucket of which the rules cannot be read. -/
def Parameters.filledBeforeRules (p : Parameters) (entries : Entries) : Parameters :=
  { p with
    description := (fill p.description (entries.get "description")).value
    rp := (fill p.rp (entries.get "rp")).value
    schemaType := (fillText p.schemaType (entries.get "schemaType")).value }

theorem lateInitialize_of_unreadable {entries : Entries} {fault : Fault}
    (h : observedRules (.map entries) = .error fault) (p : Parameters) :
    lateInitialize p (.map entries) = (.error fault, p.filledBeforeRules entries) := by
  unfold lateInitialize
  dsimp only
  rw [h]
  rfl

/-- Such a bucket fills nothing exactly if it has nothing for what is left open. -/
theorem Parameters.filledBeforeRules_eq_self_iff {p : Parameters} {entries : Entries} :
    p.filledBeforeRules entries = p ↔
      (p.description = .null → entries.get "description" = .null) ∧
        (p.rp = .null → entries.get "rp" = .null) ∧
        (p.schemaType.truthy = false → (entries.get "schemaType").truthy = false) := by
  have hfill (desired observed : Value) :
      (fill desired observed).value = desired ↔ (desired = .null → observed = .null) := by
    rw [fill_iff (P := (· = desired)) rfl]
    exact forall_congr' fun hnull => by rw [hnull]
  have hfillText (desired observed : Value) :
      (fillText desired observed).value = desired ↔ (desired.truthy = false → observed.truthy = false) := by
    rw [fillText_iff (P := (· = desired)) rfl]
    refine forall_congr' fun hopen => ⟨fun h => ?_, fun hnone hsome => ?_⟩
    · cases ho : observed.truthy with
      | false => rfl
      | true => rw [h ho, hopen] at ho; cases ho
    · rw [hnone] at hsome; cases hsome
  rw [← hfill, ← hfill, ← hfillText]
  obtain ⟨description, orgID, orgIDRef, orgIDSelector, rp, retentionRules, schemaType⟩ := p
  simp only [filledBeforeRules, Parameters.mk.injEq, true_and]

end Bucket

/-! ## What a record has taken in when its object turns out to make no sense -/

namespace Record

/-- A record that takes in an object that makes no sense is as it was, or it is one of a bucket that could be
observed, and has taken in what comes before the rules. -/
theorem absorb_error {now : Timestamp} {object : Value} {r r' : Record} {fault : Fault}
    (h : r.absorb now object = (.error fault, r')) :
    (r' = r ∧ ¬(r.kind = .bucket ∧ ∃ seen, Bucket.Observation.ofAnswer object = .ok seen)) ∨
    ∃ p o seen entries, r.resource = .bucket p o ∧ object = .map entries ∧
      Bucket.Observation.ofAnswer object = .ok seen ∧ Bucket.observedRules object = .error fault ∧
      r' = ({ r with resource := .bucket (p.filledBeforeRules entries) seen } : Record).setConditions
        [.available now] := by
  unfold absorb at h
  unfold kind
  cases hr : r.resource with
  | organization p o =>
    rw [hr] at h
    dsimp only at h
    split at h
    · cases h
      exact Or.inl ⟨rfl, nofun⟩
    · next seen hseen =>
      obtain ⟨entries, rfl⟩ := Organization.map_of_ofAnswer hseen
      obtain ⟨b, hb⟩ := Organization.upToDate_of_map p entries
      rw [hb] at h
      cases h
  | bucket p o =>
    rw [hr] at h
    dsimp only at h
    cases hseen : Bucket.Observation.ofAnswer object with
    | error _ =>
      rw [hseen] at h
      cases h
      exact Or.inl ⟨rfl, fun hand => nomatch hand.2⟩
    | ok seen =>
      rw [hseen] at h
      dsimp only at h
      cases hrules : Bucket.observedRules object with
      | ok rules =>
        -- rules that make sense are all that is needed from here on
        obtain ⟨changed, hchanged⟩ := (Bucket.fills_of_observedRules hrules p).1
        obtain ⟨b, hb⟩ := (Bucket.fills_of_observedRules hrules (Bucket.lateInitialize p object).2).2
        rw [hchanged] at h
        dsimp only [Except.bind] at h
        rw [hb] at h
        cases h
      | error fault' =>
        obtain ⟨entries, rfl⟩ := Bucket.map_of_ofAnswer hseen
        rw [Bucket.lateInitialize_of_unreadable hrules] at h
        cases h
        exact Or.inr ⟨p, o, seen, entries, rfl, rfl, rfl, rfl, rfl⟩
  | mapping p o =>
    rw [hr] at h
    dsimp only at h
    split at h
    · cases h
      exact Or.inl ⟨rfl, nofun⟩
    · next link hlink =>
      obtain ⟨entries, rfl, -⟩ := (Mapping.observedLink_ok_iff object).mp ⟨link, hlink⟩
      obtain ⟨changed, hchanged⟩ := (Mapping.fills_of_map p entries).1
      obtain ⟨b, hb⟩ := (Mapping.fills_of_map (Mapping.lateInitialize p (.map entries)).2 entries).2
      rw [hchanged] at h
      dsimp only [Except.bind] at h
      rw [hb] at h
      cases h

/-- A record with another resource and a condition set is as it was exactly if it had that resource and showed
that condition. -/
theorem setConditions_eq_self_iff {r : Record} {resource : Resource} {new : Condition} :
    ({ r with resource } : Record).setConditions [new] = r ↔
      resource = r.resource ∧ r.Shows new.type new.status new.reason new.message := by
  constructor
  · intro h
    obtain rfl : resource = r.resource := congrArg Record.resource h
    have hshows := shows_setConditions r new
    rw [show r.setConditions [new] = r from h] at hshows
    exact ⟨rfl, hshows⟩
  · rintro ⟨rfl, hshows⟩
    exact setConditions_of_shows fun c hc => by rwa [List.mem_singleton.mp hc]

end Record

namespace Work

variable {c : Client}

/-- A lookup of a record of a bucket that finds one to observe, but no rules to read. -/
structure HalfReads (c : Client) (w : Work) (p : Bucket.Parameters) (o seen : Bucket.Observation)
    (entries : Entries) : Prop where
  resource : w.record.resource = .bucket p o
  found : w.finding c = .ok (some (.map entries))
  observed : Bucket.Observation.ofAnswer (.map entries) = .ok seen
  unreadable : ∃ fault, Bucket.observedRules (.map entries) = .error fault

/-- What is read of the bucket before its rules is nothing new to the record. -/
structure NothingNew (w : Work) (p : Bucket.Parameters) (o seen : Bucket.Observation) (entries : Entries) :
    Prop where
  observed : seen = o
  description : p.description = .null → entries.get "description" = .null
  rp : p.rp = .null → entries.get "rp" = .null
  schemaType : p.schemaType.truthy = false → (entries.get "schemaType").truthy = false
  ready : w.record.Shows "Ready" "True" "Available" ""

/-- A lookup that fails has written nothing, or what is read of a bucket before its rules. -/
theorem look_error {w w' : Work} {failure : Failure} (h : w.look c = (.error failure, w')) :
    (w'.record = w.record ∧ ∀ p o seen entries, ¬w.HalfReads c p o seen entries) ∨
    ∃ p o seen entries fault, w.HalfReads c p o seen entries ∧
      Bucket.observedRules (.map entries) = .error fault ∧ failure = .escaped fault ∧
      w'.record = ({ w.record with
        resource := .bucket (p.filledBeforeRules entries) seen } : Record).setConditions
          [.available (w.asked c).wire.now] := by
  rw [look_eq] at h
  split at h
  · next hf =>
    cases h
    refine Or.inl ⟨record_asked c w, fun p o seen entries hhalf => ?_⟩
    rw [hhalf.found] at hf
    cases hf
  · cases h
  · next object hf =>
    obtain ⟨hescaped, rfl⟩ := Prod.mk.injEq .. ▸ h
    obtain ⟨fault, habsorb, rfl⟩ := mapError_error_iff.mp hescaped
    rcases Record.absorb_error (Prod.fst_eq_iff.mp habsorb) with
      ⟨hsame, hnone⟩ | ⟨p, o, seen, entries, hresource, rfl, hseen, hrules, hrecord⟩
    · refine Or.inl ⟨hsame, fun p o seen entries hhalf => hnone ⟨?_, seen, ?_⟩⟩
      · unfold Record.kind
        rw [hhalf.resource]
        rfl
      · have hobject := hhalf.found
        rw [hf] at hobject
        cases hobject
        exact hhalf.observed
    · exact Or.inr ⟨p, o, seen, entries, fault, ⟨hresource, hf, hseen, fault, hrules⟩, hrules, rfl, hrecord⟩

/-- A lookup half-reads one bucket at most. -/
theorem HalfReads.unique {w : Work} {p p' : Bucket.Parameters} {o o' seen seen' : Bucket.Observation}
    {entries entries' : Entries} (h : w.HalfReads c p o seen entries) (h' : w.HalfReads c p' o' seen' entries') :
    p' = p ∧ o' = o ∧ seen' = seen ∧ entries' = entries := by
  have hresource := h'.resource
  rw [h.resource] at hresource
  cases hresource
  have hfound := h'.found
  rw [h.found] at hfound
  cases hfound
  have hobserved := h'.observed
  rw [h.observed] at hobserved
  cases hobserved
  exact ⟨rfl, rfl, rfl, rfl⟩

/-- A failure that is reported leaves the record as it was. -/
theorem look_keeps_of_reported {w w' : Work} {t : Trouble} (h : w.look c = (.error (.reported t), w')) :
    w'.record = w.record := by
  rcases look_error h with ⟨hsame, -⟩ | ⟨_, _, _, _, _, -, -, hescaped, -⟩
  · exact hsame
  · cases hescaped

/-- **A lookup that fails leaves the record as it was**, unless it half-reads a bucket that says something new.
Then the fault of the rules escapes, and what was read before them has been written. -/
theorem look_keeps_iff {w w' : Work} {failure : Failure} (h : w.look c = (.error failure, w')) :
    (w'.record = w.record ↔
      ∀ p o seen entries, w.HalfReads c p o seen entries → w.NothingNew p o seen entries) ∧
    ∀ p o seen entries, w.HalfReads c p o seen entries →
      ∃ fault, Bucket.observedRules (.map entries) = .error fault ∧ failure = .escaped fault ∧
        w'.record = ({ w.record with
          resource := .bucket (p.filledBeforeRules entries) seen } : Record).setConditions
            [.available (w.asked c).wire.now] := by
  rcases look_error h with ⟨hsame, hnone⟩ | ⟨p, o, seen, entries, fault, hhalf, hrules, hescaped, hrecord⟩
  · exact ⟨iff_of_true hsame fun p o seen entries hhalf => absurd hhalf (hnone p o seen entries),
      fun p o seen entries hhalf => absurd hhalf (hnone p o seen entries)⟩
  · have hnew : w'.record = w.record ↔ w.NothingNew p o seen entries := by
      rw [hrecord, Record.setConditions_eq_self_iff, hhalf.resource, Resource.bucket.injEq,
        Bucket.Parameters.filledBeforeRules_eq_self_iff]
      exact ⟨fun ⟨⟨⟨hd, hr, hs⟩, hseen⟩, hready⟩ => ⟨hseen, hd, hr, hs, hready⟩,
        fun hnew => ⟨⟨⟨hnew.description, hnew.rp, hnew.schemaType⟩, hnew.observed⟩, hnew.ready⟩⟩
    constructor
    · rw [hnew]
      refine ⟨fun hnothing p' o' seen' entries' hhalf' => ?_, fun hall => hall p o seen entries hhalf⟩
      obtain ⟨rfl, rfl, rfl, rfl⟩ := hhalf.unique hhalf'
      exact hnothing
    · intro p' o' seen' entries' hhalf'
      obtain ⟨rfl, rfl, rfl, rfl⟩ := hhalf.unique hhalf'
      exact ⟨fault, hrules, hescaped, hrecord⟩

/-- A bucket whose server lists a number among its retention rules. -/
def unruly : Work :=
  .ofAnswers ((Record.ofName "logs" (.bucket .empty .empty)).setExternalName (.text "logs"))
    [.ofValue (.object [("buckets", .list [.object [("id", .text "b1"), ("name", .text "logs"),
      ("description", .text "d"), ("retentionRules", .list [.int 5])]])])]

/-- The fault of its lookup. -/
def unruly.fault : Fault := .rejected ⟨"RetentionRule", [⟨[], .notModel "RetentionRule"⟩]⟩

/-- Its lookup fails, and has given it a description and called it available. -/
theorem look_keeps_iff_unruly :
    let c : Client := ⟨"http://db", "", 30⟩
    let seen : Bucket.Observation := { Bucket.Observation.empty with id := .text "b1" }
    (unruly.look c).1 = .error (.escaped unruly.fault) ∧ (unruly.look c).2.record ≠ unruly.record ∧
      (unruly.look c).2.record = ({ unruly.record with
        resource := .bucket { Bucket.Parameters.empty with description := .text "d" } seen } : Record).setConditions
          [.available (.ofSeconds 0 0)] := by
  intro c seen
  have hfails : (unruly.look c).1 = .error (.escaped unruly.fault) := by decide +kernel
  have hhalf : unruly.HalfReads c .empty .empty seen [(.text "id", .text "b1"), (.text "name", .text "logs"),
      (.text "description", .text "d"), (.text "retentionRules", .list [.int 5])] :=
    ⟨rfl, by decide +kernel, by decide +kernel, unruly.fault, by decide +kernel⟩
  obtain ⟨hkeeps, hwritten⟩ := look_keeps_iff (Prod.fst_eq_iff.mp hfails)
  obtain ⟨fault, -, -, hrecord⟩ := hwritten _ _ _ _ hhalf
  refine ⟨hfails, fun hsame => ?_, hrecord.trans (by decide +kernel)⟩
  exact absurd ((hkeeps.mp hsame _ _ _ _ hhalf).description rfl) (by decide)

/-- What a lookup has written may stay although it fails. -/
theorem look_tears :
    let c : Client := ⟨"http://db", "", 30⟩
    (unruly.look c).1 = .error (.escaped unruly.fault) ∧
      (unruly.look c).2.record.resource.desiredValue false ≠ unruly.record.resource.desiredValue false ∧
      (unruly.look c).2.record.resource.observedValue false ≠ unruly.record.resource.observedValue false ∧
      (unruly.look c).2.record.conditions ≠ unruly.record.conditions := by
  decide +kernel

end Work

end InfluxKeeper
