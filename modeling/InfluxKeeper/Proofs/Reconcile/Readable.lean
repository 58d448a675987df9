import InfluxKeeper.Proofs.Reconcile.Absorb

/-!
# Answers that can be read

Answers in JSON are looked into at three places: where a lookup of mappings takes the first of its content,
where a record takes in the object found, and where a mapping takes its id from the answer to its creation. A
look into an answer fails if the answer is not what is looked for, and nothing catches these faults. So each
place gives a condition on the answer.

> `firstMapping?_ok_iff`, `seenIn_ok_iff`, `adoptId_escapes_iff`: which values can be read at each place.

All other faults are those of calls, and only a call that was called off has one that cannot be reported
(`outcome_ordinary`).
-/

namespace InfluxKeeper

open Api

/-! ## Faults that can be reported -/

theorem Fault.isOrdinary_iff (fault : Fault) : fault.isOrdinary = true ↔ fault ≠ .cancelled := by
  cases fault <;> simp [isOrdinary]

theorem Value.getEntry_ordinary {v : Value} {key : String} : v.getEntry key ≠ .error .cancelled := by
  unfold getEntry
  split <;> nofun

theorem Value.getFirst_ordinary {v : Value} : v.getFirst ≠ .error .cancelled := by
  unfold getFirst
  split
  · split <;> nofun
  · split <;> nofun

theorem Api.pickFirst_ordinary {key kind : String} {name answer : Value} :
    pickFirst key kind name answer ≠ .error .cancelled := by
  intro h
  unfold pickFirst at h
  rcases bind_error_iff.mp h with hentry | ⟨found, -, h⟩
  · exact Value.getEntry_ordinary hentry
  · dsimp only at h
    split at h
    · exact Value.getFirst_ordinary h
    · cases h

/-- Only a call that was called off has a fault that cannot be reported. -/
theorem Api.outcome_ordinary {call : Call} {a : Answer} (ha : a ≠ .cancelled) {fault : Fault}
    (h : call.outcome a = .error fault) : fault.isOrdinary = true := by
  refine fault.isOrdinary_iff.mpr ?_
  rintro rfl
  rcases bind_error_iff.mp h with hdecode | ⟨v, -, hresult⟩
  · cases a with
    | cancelled => exact ha rfl
    | response status text =>
      unfold Answer.decode at hdecode
      dsimp only at hdecode
      split at hdecode
      · cases hdecode
      · split at hdecode
        · cases hdecode
        · obtain ⟨_, -, hjson⟩ := mapError_error_iff.mp hdecode
          cases hjson
    | _ => cases hdecode
  · cases call with
    | findOrganization name => exact pickFirst_ordinary hresult
    | findBucket name => exact pickFirst_ordinary hresult
    | _ => cases hresult

/-! ## Answers that make sense -/

/-- An object that makes sense to a record of a kind. -/
def Kind.Reads (k : Kind) (object : Value) : Prop :=
  match k with
  | .organization => ∃ o, Organization.Observation.ofAnswer object = .ok o
  | .bucket => (∃ o, Bucket.Observation.ofAnswer object = .ok o) ∧
    ∃ rules, Bucket.observedRules object = .ok rules
  | .mapping => ∃ entries, object = .map entries ∧
    ((Entries.get entries "links").truthy = true → ∃ links, Entries.get entries "links" = .map links)

theorem Organization.map_of_ofAnswer {object : Value} {o : Observation}
    (h : Observation.ofAnswer object = .ok o) : ∃ entries, object = .map entries := by
  unfold Observation.ofAnswer at h
  split at h
  · exact ⟨_, rfl⟩
  · cases h

theorem Organization.upToDate_of_map (p : Parameters) (entries : Entries) :
    ∃ b, upToDate p (.map entries) = .ok b :=
  ⟨_, rfl⟩

theorem Bucket.map_of_observedRules {object : Value} {rules : List RetentionRule}
    (h : observedRules object = .ok rules) : ∃ entries, object = .map entries := by
  unfold observedRules at h
  split at h
  · exact ⟨_, rfl⟩
  · cases h

/-- A bucket whose rules make sense can be filled from and compared with. -/
theorem Bucket.fills_of_observedRules {object : Value} {rules : List RetentionRule}
    (h : observedRules object = .ok rules) (p : Parameters) :
    (∃ changed, (lateInitialize p object).1 = .ok changed) ∧ ∃ b, upToDate p object = .ok b := by
  obtain ⟨entries, rfl⟩ := map_of_observedRules h
  constructor
  · unfold lateInitialize
    dsimp only
    rw [h]
    exact ⟨_, rfl⟩
  · unfold upToDate
    rw [h]
    show ∃ b, (if sameRules p.retentionRules rules then _ else _) = Except.ok b
    split <;> exact ⟨_, rfl⟩

theorem Value.map_orElse (entries : Entries) : (Value.map entries).orElse (.map []) = .map entries := by
  cases entries <;> rfl

/-- A mapping has a link to observe if it is a map whose links, if there are any, are a map. -/
theorem Mapping.observedLink_ok_iff (object : Value) :
    (∃ link, observedLink object = .ok link) ↔ ∃ entries, object = .map entries ∧
      ((Entries.get entries "links").truthy = true → ∃ links, Entries.get entries "links" = .map links) := by
  constructor
  · rintro ⟨link, h⟩
    obtain ⟨links, hentry, hlink⟩ := bind_ok_iff.mp h
    cases object with
    | map entries =>
      cases hentry
      refine ⟨entries, rfl, fun ht => ?_⟩
      rw [Value.orElse, if_pos ht] at hlink
      split at hlink
      · next links hl => exact ⟨links, hl⟩
      · cases hlink
    | _ => cases hentry
  · rintro ⟨entries, rfl, hlinks⟩
    by_cases ht : (Entries.get entries "links").truthy = true
    · obtain ⟨links, hl⟩ := hlinks ht
      refine ⟨(Entries.get? links "self").getD (.text ""), ?_⟩
      refine bind_ok_iff.mpr ⟨.map links, congrArg Except.ok hl, ?_⟩
      rw [Value.map_orElse]
      rfl
    · -- what counts as nothing is no links
      refine ⟨.text "", bind_ok_iff.mpr ⟨Entries.get entries "links", rfl, ?_⟩⟩
      rw [Value.orElse, if_neg ht]
      rfl

theorem Mapping.fills_of_map (p : Parameters) (entries : Entries) :
    (∃ changed, (lateInitialize p (.map entries)).1 = .ok changed) ∧
      ∃ b, upToDate p (.map entries) = .ok b := by
  refine ⟨⟨_, rfl⟩, ?_⟩
  unfold upToDate
  show ∃ b, (if p.isDefault.truthy == (Entries.get entries "default").truthy then _ else _) = Except.ok b
  split <;> exact ⟨_, rfl⟩

namespace Resource

/-- A resource sees something of an object exactly if that makes sense to its kind. -/
theorem seenIn_ok_iff (object : Value) (resource : Resource) :
    (∃ seen, resource.seenIn object = .ok seen) ↔ resource.kind.Reads object := by
  cases resource with
  | organization p o =>
    constructor
    · rintro ⟨seen, h⟩
      obtain ⟨o', ho, -⟩ := bind_ok_iff.mp h
      exact ⟨o', ho⟩
    · rintro ⟨o', ho⟩
      obtain ⟨entries, rfl⟩ := Organization.map_of_ofAnswer ho
      obtain ⟨b, hb⟩ := Organization.upToDate_of_map p entries
      exact ⟨_, bind_ok_iff.mpr ⟨o', ho, bind_ok_iff.mpr ⟨b, hb, rfl⟩⟩⟩
  | bucket p o =>
    constructor
    · rintro ⟨seen, h⟩
      obtain ⟨o', ho, h⟩ := bind_ok_iff.mp h
      obtain ⟨changed, -, h⟩ := bind_ok_iff.mp h
      obtain ⟨upToDate, hup, -⟩ := bind_ok_iff.mp h
      obtain ⟨rules, hrules, -⟩ := bind_ok_iff.mp hup
      exact ⟨⟨o', ho⟩, rules, hrules⟩
    · rintro ⟨⟨o', ho⟩, rules, hrules⟩
      obtain ⟨changed, hchanged⟩ := (Bucket.fills_of_observedRules hrules p).1
      obtain ⟨b, hb⟩ := (Bucket.fills_of_observedRules hrules (Bucket.lateInitialize p object).2).2
      exact ⟨_, bind_ok_iff.mpr ⟨o', ho, bind_ok_iff.mpr ⟨changed, hchanged,
        bind_ok_iff.mpr ⟨b, hb, rfl⟩⟩⟩⟩
  | mapping p o =>
    constructor
    · rintro ⟨seen, h⟩
      obtain ⟨link, hlink, -⟩ := bind_ok_iff.mp h
      exact (Mapping.observedLink_ok_iff object).mp ⟨link, hlink⟩
    · intro h
      obtain ⟨link, hlink⟩ := (Mapping.observedLink_ok_iff object).mpr h
      obtain ⟨entries, rfl, -⟩ := h
      obtain ⟨changed, hchanged⟩ := (Mapping.fills_of_map p entries).1
      obtain ⟨b, hb⟩ := (Mapping.fills_of_map (Mapping.lateInitialize p (.map entries)).2 entries).2
      exact ⟨_, bind_ok_iff.mpr ⟨link, hlink, bind_ok_iff.mpr ⟨changed, hchanged,
        bind_ok_iff.mpr ⟨b, hb, rfl⟩⟩⟩⟩

end Resource

/-- A value that lists mappings, if it holds anything: a map whose content, if there is any, has a first. -/
def Value.ListsMappings (v : Value) : Prop :=
  v.truthy = true → ∃ entries, v = .map entries ∧
    ((Entries.get entries "content").truthy = true →
      ∃ first, (Entries.get entries "content").getFirst = .ok first)

theorem Record.firstMapping?_map (entries : Entries) :
    firstMapping? (.map entries) = if (Entries.get entries "content").truthy then
      (Entries.get entries "content").getFirst.map some else .ok none := by
  unfold firstMapping?
  rw [Value.map_orElse]
  show (if ((Entries.get entries "content").orElse (.list [])).truthy then _ else _) = _
  by_cases hc : (Entries.get entries "content").truthy = true
  · rw [Value.orElse, if_pos hc, if_pos hc, if_pos hc]
    cases (Entries.get entries "content").getFirst <;> rfl
  · rw [Value.orElse, if_neg hc, if_neg hc]
    rfl

/-- The first mapping is taken of a value exactly if that lists mappings. -/
theorem Record.firstMapping?_ok_iff (v : Value) :
    (∃ found, firstMapping? v = .ok found) ↔ v.ListsMappings := by
  by_cases ht : v.truthy = true
  · cases v with
    | map entries =>
      rw [firstMapping?_map]
      by_cases hc : (Entries.get entries "content").truthy = true
      · rw [if_pos hc]
        constructor
        · rintro ⟨found, h⟩ -
          refine ⟨entries, rfl, fun _ => ?_⟩
          cases hf : (Entries.get entries "content").getFirst with
          | error fault => rw [hf] at h; cases h
          | ok first => exact ⟨first, rfl⟩
        · intro h
          obtain ⟨_, hentries, hfirst⟩ := h ht
          cases hentries
          obtain ⟨first, hf⟩ := hfirst hc
          exact ⟨some first, by rw [hf]; rfl⟩
      · rw [if_neg hc]
        exact ⟨fun _ _ => ⟨entries, rfl, fun h => absurd h hc⟩, fun _ => ⟨none, rfl⟩⟩
    | _ =>
      constructor
      · rintro ⟨found, h⟩
        unfold firstMapping? at h
        rw [Value.orElse, if_pos ht] at h
        cases h
      · intro h
        obtain ⟨_, hentries, -⟩ := h ht
        cases hentries
  · refine ⟨fun _ h => absurd h ht, fun _ => ⟨none, ?_⟩⟩
    unfold firstMapping?
    rw [Value.orElse, if_neg ht]
    rfl

/-- A value that may tell the id of what was created: a map, or nothing. -/
def Value.TellsId (v : Value) : Prop := v.truthy = true → ∃ entries, v = .map entries

theorem Value.listsMappings_orElse (v : Value) : (v.orElse (.map [])).ListsMappings ↔ v.ListsMappings := by
  unfold orElse
  split
  · exact Iff.rfl
  · next ht => exact ⟨fun _ h => absurd h ht, fun _ h => by cases h⟩

/-! ## Where a fault escapes -/

/-- A failure of a call that was not called off does not escape. -/
theorem Failure.ofCall_ne_escaped {context : String} {fault escaped : Fault}
    (h : fault.isOrdinary = true) : ofCall context fault ≠ .escaped escaped := by
  unfold ofCall
  rw [if_pos h]
  nofun

namespace Record

/-- A fault escapes from what is found if that should list mappings and does not. -/
theorem found?_escapes_iff {r : Record} {outcome : Except Fault Value}
    (calm : ∀ fault, outcome = .error fault → fault.isOrdinary = true) :
    (∃ fault, r.found? outcome = .error (.escaped fault)) ↔
      r.kind = .mapping ∧ ∃ v, outcome = .ok v ∧ ¬v.ListsMappings := by
  cases outcome with
  | error fault =>
    constructor
    · rintro ⟨escaped, h⟩
      unfold found? findOrNone at h
      dsimp only at h
      split at h
      · next hfind =>
        split at hfind
        · cases hfind
        · cases hfind
          exact absurd (Except.error.inj h) (Failure.ofCall_ne_escaped (calm _ rfl))
      · cases h
      · next hfind => split at hfind <;> cases hfind
    · rintro ⟨-, v, hv, -⟩
      cases hv
  | ok v =>
    by_cases hn : v.isNull = true
    · -- null is nothing found, and lists nothing
      obtain rfl := Value.eq_null_of_isNull hn
      constructor
      · rintro ⟨fault, h⟩
        cases h
      · rintro ⟨-, v, hv, hnot⟩
        cases hv
        refine absurd (fun ht => ?_) hnot
        cases ht
    · have hfind : findOrNone r.lookedUp? (.ok v) = .ok (some v) := by
        unfold findOrNone
        dsimp only
        rw [if_neg hn]
      have hlists := firstMapping?_ok_iff v
      unfold found?
      rw [hfind]
      dsimp only
      cases hk : r.kind with
      | mapping =>
        cases hf : firstMapping? v with
        | error fault =>
          have hnot : ¬v.ListsMappings := fun h => by
            obtain ⟨found, hfound⟩ := hlists.mpr h
            rw [hf] at hfound
            cases hfound
          exact ⟨fun _ => ⟨rfl, v, rfl, hnot⟩, fun _ => ⟨fault, rfl⟩⟩
        | ok found =>
          constructor
          · rintro ⟨fault, h⟩
            cases h
          · rintro ⟨-, v, hv, hnot⟩
            cases hv
            exact absurd (hlists.mp ⟨found, hf⟩) hnot
      | _ =>
        constructor
        · rintro ⟨fault, h⟩
          cases h
        · rintro ⟨hk, -⟩
          cases hk

/-- A fault escapes where a mapping takes its id from a value that does not tell it. -/
theorem adoptId_escapes_iff (r : Record) (v : Value) :
    (∃ fault, r.adoptId v = .error (.escaped fault)) ↔ r.kind = .mapping ∧ ¬v.TellsId := by
  unfold adoptId kind
  cases hr : r.resource with
  | mapping p o =>
    by_cases ht : v.truthy = true
    · rw [Value.orElse, if_pos ht]
      cases v with
      | map entries =>
        dsimp only [Value.getEntry]
        constructor
        · rintro ⟨fault, h⟩
          split at h <;> cases h
        · rintro ⟨-, hnot⟩
          exact absurd (fun _ => ⟨entries, rfl⟩) hnot
      | _ =>
        constructor
        · intro _
          refine ⟨rfl, fun h => ?_⟩
          obtain ⟨_, hentries⟩ := h ht
          cases hentries
        · intro _
          exact ⟨_, rfl⟩
    · -- nothing counts as the empty map
      rw [Value.orElse, if_neg ht]
      constructor
      · rintro ⟨fault, h⟩
        cases h
      · rintro ⟨-, hnot⟩
        exact absurd (fun ht' => absurd ht' ht) hnot
  | _ =>
    constructor
    · rintro ⟨fault, h⟩
      cases h
    · rintro ⟨hk, -⟩
      cases hk

/-- A fault escapes after a mutation if that was the creation of a mapping, and its answer does not tell the
id. -/
theorem afterMutation_escapes_iff {r : Record} {m : Mutation} {outcome : Except Fault Value}
    (calm : ∀ fault, outcome = .error fault → fault.isOrdinary = true) :
    (∃ fault, r.afterMutation m outcome = .error (.escaped fault)) ↔
      m = .create ∧ r.kind = .mapping ∧ ∃ v, outcome = .ok v ∧ ¬v.TellsId := by
  unfold afterMutation
  cases outcome with
  | error fault =>
    constructor
    · rintro ⟨escaped, h⟩
      dsimp only at h
      split at h
      · cases h
      · exact absurd (Except.error.inj h) (Failure.ofCall_ne_escaped (calm _ rfl))
    · rintro ⟨-, -, v, hv, -⟩
      cases hv
  | ok v =>
    cases m with
    | create =>
      have hadopt := adoptId_escapes_iff r v
      dsimp only
      rw [hadopt]
      simp
    | _ =>
      constructor
      · rintro ⟨fault, h⟩
        cases h
      · rintro ⟨hm, -⟩
        cases hm

end Record

end InfluxKeeper
