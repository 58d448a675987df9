import InfluxKeeper.Proofs.Reconcile.Fits
import InfluxKeeper.Proofs.Reconcile.Identity
import InfluxKeeper.Proofs.Reconcile.Telling
import InfluxKeeper.Proofs.Record.Keyed

/-!
# Validity of the record that a reconcile leaves

A reconcile writes into its record from four sides. Three of them keep it sound whatever the server answers: it is
named by its own name, its references are resolved to texts, and its conditions are set at the time of the clock
(`Timed`). The fourth is the answers.

> `reconcile_valid_iff`: the record left is valid exactly if the object found fits the fields that the record takes
> unchecked, and the id that it adopts at its creation is a text.
> `reconcile_spoils`: an object that does not fit spoils a valid record, and the reconcile succeeds.
-/

namespace InfluxKeeper

open Api Schema

/-! ## Metadata -/

section SetKey

variable {α : Type} {key : String} {value : α} {entries : List (String × α)}

theorem keys_setKey (key : String) (value : α) (entries : List (String × α)) :
    (setKey key value entries).map (·.1) =
      if key ∈ entries.map (·.1) then entries.map (·.1) else entries.map (·.1) ++ [key] := by
  induction entries with
  | nil => rfl
  | cons e rest ih =>
    unfold setKey
    by_cases hkey : e.1 = key
    · rw [if_pos hkey, if_pos (by simp [hkey])]
      simp [hkey]
    · rw [if_neg hkey]
      simp only [List.map_cons]
      rw [ih]
      by_cases hmem : key ∈ rest.map (·.1)
      · rw [if_pos hmem, if_pos (List.mem_cons_of_mem _ hmem)]
      · rw [if_neg hmem, if_neg]
        · rfl
        · intro h
          rcases List.mem_cons.mp h with heq | h
          · exact hkey heq.symm
          · exact hmem h

theorem nodup_setKey (h : (entries.map (·.1)).Nodup) : ((setKey key value entries).map (·.1)).Nodup := by
  rw [keys_setKey]
  split
  · exact h
  · next hnew =>
    rw [List.nodup_append]
    refine ⟨h, List.pairwise_singleton _ _, fun k hk k' hk' heq => hnew ?_⟩
    rw [List.mem_singleton.mp hk'] at heq
    exact heq ▸ hk

theorem self_mem_setKey : (key, value) ∈ setKey key value entries := by
  induction entries with
  | nil => exact List.mem_singleton_self _
  | cons e rest ih =>
    unfold setKey
    split
    · exact List.mem_cons_self
    · exact List.mem_cons_of_mem _ ih

theorem mem_setKey {e : String × α} (h : e ∈ setKey key value entries) : e = (key, value) ∨ e ∈ entries := by
  induction entries with
  | nil => exact Or.inl (List.mem_singleton.mp h)
  | cons e' rest ih =>
    unfold setKey at h
    split at h
    · exact (List.mem_cons.mp h).imp_right (List.mem_cons_of_mem _)
    · rcases List.mem_cons.mp h with rfl | h
      · exact Or.inr List.mem_cons_self
      · exact (ih h).imp_right (List.mem_cons_of_mem _)

end SetKey

/-- Sound metadata with an external name are sound exactly if that is a text. -/
theorem Metadata.Sound.setExternalName_iff {m : Metadata} (h : m.Sound) (name : Value) :
    (m.setExternalName name).Sound ↔ ∃ t, name = .text t := by
  obtain ⟨hdistinct, htexts⟩ := told_textValues_iff.mp h.annotations
  constructor
  · intro hset
    exact (told_textValues_iff.mp hset.annotations).2 _ self_mem_setKey
  · rintro ⟨t, rfl⟩
    refine { h with annotations := told_textValues_iff.mpr ⟨nodup_setKey hdistinct, fun e he => ?_⟩ }
    rcases mem_setKey he with rfl | he
    · exact ⟨t, rfl⟩
    · exact htexts e he

theorem Record.sound_nameByDefault {r : Record} (h : r.metadata.Sound) :
    r.nameByDefault.metadata.Sound := by
  unfold nameByDefault
  split
  · exact (h.setExternalName_iff _).mpr ⟨r.name, rfl⟩
  · exact h

/-! ## Conditions -/

theorem mem_setConditions {new conditions : List Condition} {c : Condition}
    (h : c ∈ setConditions new conditions) : c ∈ new ∨ c ∈ conditions := by
  induction new generalizing conditions with
  | nil => exact Or.inr h
  | cons f rest ih =>
    rcases ih h with hrest | h
    · exact Or.inl (List.mem_cons_of_mem _ hrest)
    · rcases (sets_setCondition f conditions).mem h with rfl | h
      · exact Or.inl List.mem_cons_self
      · exact Or.inr h

/-- A condition that a record has once it has taken in an object: one that it had, or one of that time. -/
theorem Record.mem_absorb {now : Timestamp} {object : Value} {r : Record} {c : Condition}
    (h : c ∈ (r.absorb now object).2.conditions) : c ∈ r.conditions ∨ c.lastTransitionTime = now := by
  unfold absorb at h
  cases hr : r.resource with
  | organization p o =>
    rw [hr] at h
    dsimp only at h
    split at h
    · exact Or.inl h
    · rcases mem_setConditions h with hnew | h
      · refine Or.inr ?_
        rw [List.mem_singleton.mp hnew]
        split <;> rfl
      · exact Or.inl h
  | bucket p o =>
    rw [hr] at h
    dsimp only at h
    split at h
    · exact Or.inl h
    · rcases mem_setConditions h with hnew | h
      · rw [List.mem_singleton.mp hnew]; exact Or.inr rfl
      · exact Or.inl h
  | mapping p o =>
    rw [hr] at h
    dsimp only at h
    split at h
    · exact Or.inl h
    · rcases mem_setConditions h with hnew | h
      · rw [List.mem_singleton.mp hnew]; exact Or.inr rfl
      · exact Or.inl h

/-- A wire whose clock shows real points in time. -/
structure Api.Wire.Clocked (wire : Wire) : Prop where
  now : wire.now.Real
  script : ∀ n, (wire.script n).time.Real

namespace Work

variable {s : Setup} {c : Client} {resolver : Option Resolver} {w : Work}

/-- Work on a record whose conditions are of real points in time, as its clock shows them. -/
structure Timed (w : Work) : Prop where
  wire : w.wire.Clocked
  conditions : ∀ c ∈ w.record.conditions, c.lastTransitionTime.Real

theorem Timed.prepare (h : w.Timed) (resolver : Option Resolver) : (w.prepare resolver).Timed :=
  ⟨h.wire, by rw [conditions_prepare]; exact h.conditions⟩

theorem Timed.call (h : w.Timed) (c : Client) (call : Call) : (w.call c call).2.Timed := by
  refine ⟨?_, h.conditions⟩
  show (w.wire.call c call).2.Clocked
  unfold Wire.call
  split
  · exact h.wire
  · exact ⟨h.wire.script _, h.wire.script⟩

theorem Timed.asked (h : w.Timed) (c : Client) : (w.asked c).Timed := by
  unfold Work.asked
  split
  · exact h
  · exact h.call c _

theorem Timed.look (h : w.Timed) (c : Client) : (w.look c).2.Timed := by
  have hasked := h.asked c
  rw [look_eq]
  split
  · exact hasked
  · exact hasked
  · refine ⟨hasked.wire, fun condition hmem => ?_⟩
    rcases Record.mem_absorb hmem with hold | hnow
    · exact h.conditions condition hold
    · rw [hnow]
      exact hasked.wire.now

theorem Timed.setConditions (h : w.Timed) {new : List (Timestamp → Condition)}
    (hnew : ∀ f ∈ new, ∀ t, (f t).lastTransitionTime = t) : (w.setConditions new).Timed := by
  refine ⟨h.wire, fun condition hmem => ?_⟩
  rcases mem_setConditions hmem with hset | hold
  · obtain ⟨f, hf, rfl⟩ := List.mem_map.mp hset
    rw [hnew f hf]
    exact h.wire.now
  · exact h.conditions condition hold

theorem Timed.poised (h : w.Timed) (seen : Seen) : (w.poised seen).Timed := by
  refine h.setConditions fun f hf t => ?_
  unfold readiness at hf
  split at hf
  · rw [List.mem_singleton.mp hf]; rfl
  · split at hf
    · cases hf
    · rw [List.mem_singleton.mp hf]; rfl

theorem Timed.mutate (h : w.Timed) (c : Client) (m : Mutation) : (w.mutate c m).2.Timed := by
  refine ⟨?_, by rw [conditions_mutate]; exact h.conditions⟩
  rw [mutate_eq]
  split
  · exact (h.call c _).wire
  · exact (h.call c _).wire

theorem Timed.publish (h : w.Timed) (type : EventType) (message : String) : (w.publish type message).Timed :=
  ⟨h.wire, h.conditions⟩

theorem Timed.succeed (h : w.Timed) (action : Action) (late : Bool) : (w.succeed action late).2.Timed :=
  h.setConditions fun f hf t => by rw [List.mem_singleton.mp hf]; rfl

theorem Timed.fail (h : w.Timed) (type : EventType) (t : Trouble) (late : Bool) :
    (w.fail type t late).2.Timed :=
  Timed.publish (h.setConditions fun f hf t => by rw [List.mem_singleton.mp hf]; rfl) _ _

/-- What a reconcile leaves is timed. -/
theorem Timed.ends {result : Result} {w' : Work} (h : w.Timed) (he : Ends c resolver w result w') :
    w'.Timed := by
  have hlooked : (w.looked c resolver).Timed := (h.prepare resolver).look c
  cases he with
  | unseen finding => exact hlooked.fail _ _ _
  | idle look plan => exact (hlooked.poised _).succeed _ _
  | @done seen m w₁ look plan mutated =>
    have hmutated := (hlooked.poised seen).mutate c m
    rw [mutated] at hmutated
    exact (hmutated.publish _ _).succeed _ _
  | @undone seen m t w₁ look plan mutated =>
    have hmutated := (hlooked.poised seen).mutate c m
    rw [mutated] at hmutated
    exact hmutated.fail _ _ _

/-! ## The resource -/

theorem sound_prepare (h : w.record.resource.Sound) (hn : ∀ n ∈ resolver, n.GivesTexts) :
    (w.prepare resolver).record.resource.Sound := by
  rw [record_prepare]
  rw [← Record.resource_nameByDefault w.record] at h
  cases resolver with
  | none => exact h
  | some n =>
    show (Record.resolve n w.record.nameByDefault).resource.Sound
    unfold Record.resolve
    cases hr : w.record.nameByDefault.resource with
    | organization p o => dsimp only; rw [hr] at h ⊢; exact h
    | bucket p o => rw [hr] at h; exact ⟨h.1.resolve (hn n rfl), h.2⟩
    | mapping p o => rw [hr] at h; exact ⟨h.1.resolve (hn n rfl), h.2⟩

/-- Preparing a record leaves the fields that it takes unchecked. -/
theorem fits_prepare (object : Value) :
    (w.prepare resolver).record.resource.Fits object ↔ w.record.resource.Fits object := by
  rw [record_prepare, ← Record.resource_nameByDefault w.record]
  cases resolver with
  | none => exact Iff.rfl
  | some n =>
    show (Record.resolve n w.record.nameByDefault).resource.Fits object ↔ _
    unfold Record.resolve
    cases hr : w.record.nameByDefault.resource with
    | organization p o => dsimp only; rw [hr]
    | bucket p o => exact Iff.rfl
    | mapping p o => exact Iff.rfl

/-- The resource that a lookup leaves is sound exactly if the object found fits it. -/
theorem sound_looked_iff {result : Result} {w' : Work} (h : w.record.resource.Sound)
    (hn : ∀ n ∈ resolver, n.GivesTexts) (he : Ends c resolver w result w') :
    (w.looked c resolver).record.resource.Sound ↔
      ∀ object, (w.prepare resolver).finding c = .ok (some object) → w.record.resource.Fits object := by
  have hprepared := sound_prepare h hn
  cases hf : (w.prepare resolver).finding c with
  | error failure =>
    have hlooked : (w.looked c resolver).record = (w.prepare resolver).record := by
      rw [looked, look_eq, hf]
      exact record_asked c _
    rw [hlooked]
    exact ⟨fun _ _ heq => (by cases heq), fun _ => hprepared⟩
  | ok found =>
    cases found with
    | none =>
      have hlooked : (w.looked c resolver).record = (w.prepare resolver).record := by
        rw [looked, look_eq, hf]
        exact record_asked c _
      rw [hlooked]
      exact ⟨fun _ _ heq => (by cases heq), fun _ => hprepared⟩
    | some object =>
      obtain ⟨seen, hlook⟩ := he.look_of_found hf
      rcases look_ok hlook with ⟨hnone, -⟩ | ⟨object', r, hf', habsorb, hw⟩
      · rw [hf] at hnone; cases hnone
      · rw [hf] at hf'
        cases hf'
        have hresource : (w.looked c resolver).record.resource =
            (w.prepare resolver).record.resource.absorb object := by
          rw [hw, record_withRecord, ← Record.resource_absorb, habsorb]
        have hseen : (w.prepare resolver).record.resource.seenIn object = .ok seen := by
          rw [← Record.seen_absorb, habsorb]
        rw [hresource, hprepared.absorb_iff (finding_plain hf) hseen, fits_prepare]
        exact ⟨fun hfits object' heq => by cases heq; exact hfits, fun hfits => hfits object rfl⟩

/-! ## The id adopted -/

/-- What a creation answered by an id was planned for. -/
theorem Adopts.planned {id : Value} (h : w.Adopts s resolver id) :
    w.planned? s.client resolver = some .create ∧ (w.looked s.client resolver).next.TellsId id := by
  have hplan : w.planned? s.client resolver = some .create := by
    unfold planned?
    rw [look_eq, h.absent]
    show plan? w.record.deleting .absent = some .create
    rw [h.unmarked]
    rfl
  refine ⟨hplan, ?_⟩
  obtain ⟨before, hsent, htold⟩ := h.created
  rw [sent_of_planned h.handled hplan] at hsent
  obtain ⟨hbefore, -⟩ := List.append_inj' hsent rfl
  unfold next
  rw [script_looked, hbefore]
  exact htold

/-- A reconcile that adopts an id and ends with a result leaves it as the external name. -/
theorem Adopts.metadata {id : Value} {result : Result} {w' : Work} (h : w.Adopts s resolver id)
    (he : Ends s.client resolver w result w') : w'.record.metadata = w.record.metadata.setExternalName id := by
  obtain ⟨hplan, htold⟩ := h.planned
  have hkind : (w.looked s.client resolver).record.kind = .mapping := by
    have hcard := congrArg Prod.fst (w.card_looked s.client resolver)
    exact hcard.trans h.mapping
  have hmetadata := metadata_looked_of_mapping h.mapping s.client resolver
  have hcreated (seen : Seen) := (Record.created_iff (r := ((w.looked s.client resolver).poised seen).record)
    hkind _ (w.looked s.client resolver).next).mpr ⟨id, htold, rfl⟩
  cases he with
  | unseen finding => rw [h.absent] at finding; cases finding
  | idle look plan => rw [hplan] at plan; cases plan
  | @done seen m w₁ look plan mutated =>
    rw [hplan] at plan
    cases plan
    obtain ⟨r, hr, rfl⟩ := mutate_ok mutated
    have heq := hr.symm.trans (hcreated seen)
    cases heq
    show ((w.looked s.client resolver).record.metadata.setExternalName id) = _
    rw [hmetadata]
  | @undone seen m t w₁ look plan mutated =>
    rw [hplan] at plan
    cases plan
    have heq := (mutate_error mutated).1.symm.trans (hcreated seen)
    cases heq

/-- The metadata that a reconcile leaves are sound exactly if the id that it adopts is a text. -/
theorem sound_metadata_iff {result : Result} {w' : Work} (hm : w.record.metadata.Sound)
    (h : w.reconcile s resolver = (.ok result, w')) :
    w'.record.metadata.Sound ↔ ∀ id, w.Adopts s resolver id → ∃ t, id = .text t := by
  have hk : w.record.kind ∈ s.kinds := (reconcile_ok h).1
  constructor
  · intro hsound id hadopts
    rw [hadopts.metadata (reconcile_ends h)] at hsound
    exact (hm.setExternalName_iff id).mp hsound
  · intro htexts
    have hleft := metadata_reconcile hk resolver
    rw [h] at hleft
    rcases hleft with hsame | ⟨id, hadopts, hset⟩
    · rw [hsame, looked, metadata_look, metadata_prepare]
      exact Record.sound_nameByDefault hm
    · rw [hset]
      exact (hm.setExternalName_iff id).mpr (htexts id hadopts)

/-! ## The record left -/

/-- **Which records stay valid.** On a clock that shows real points in time, and with references resolved to texts,
the record that a reconcile leaves of a valid record is valid exactly if the object found fits the fields that the
record takes unchecked, and the id that a mapping adopts is a text. Nothing else that the server answers, and no
failure that is reported, spoils a record. -/
theorem reconcile_valid_iff {w w' : Work} {result : Result} (clock : w.wire.Clocked)
    (texts : ∀ n ∈ resolver, n.GivesTexts) (valid : w.record.Valid)
    (h : w.reconcile s resolver = (.ok result, w')) :
    w'.record.Valid ↔
      (∀ object, (w.prepare resolver).finding s.client = .ok (some object) →
        w.record.resource.Fits object) ∧
      ∀ id, w.Adopts s resolver id → ∃ t, id = .text t := by
  have hsound := valid.sound
  have hends := reconcile_ends h
  have htimed : w'.Timed := Timed.ends ⟨clock, hsound.conditions⟩ hends
  have hresource : w'.record.resource = (w.looked s.client resolver).record.resource := by
    rw [← resource_reconcile (reconcile_ok h).1, h]
  rw [← sound_looked_iff hsound.resource texts hends, ← sound_metadata_iff hsound.metadata h, ← hresource,
    Record.valid_iff]
  exact ⟨fun hleft => ⟨hleft.resource, hleft.metadata⟩,
    fun ⟨hresource, hmetadata⟩ => ⟨hmetadata, htimed.conditions, hresource⟩⟩

/-- A record with nothing but a name and a sound resource is valid. -/
theorem valid_ofName (name : String) {resource : Resource} (h : resource.Sound) :
    (Record.ofName name resource).Valid := by
  have htexts : Told textValues (.object []) [] := told_textValues_nil
  exact Record.valid_iff.mpr ⟨⟨htexts, htexts, Or.inl ⟨rfl, rfl⟩⟩, by simp [Record.ofName], h⟩

/-- Work at a moment at which the server gives answers. -/
def ofMoment (r : Record) (answers : List Answer) : Work :=
  ⟨r, ⟨.midnight ⟨2024, 1, 1⟩, [], fun n => ⟨.midnight ⟨2024, 1, 1⟩, answers.getD n (.unreachable "")⟩⟩, []⟩

/-- A bucket that leaves everything open but its organization, which it refers to, on a server that has it with a
schema type. -/
def unopinionated (schemaType : String) : Work :=
  .ofMoment (.ofName "logs" (.bucket { Bucket.Parameters.empty with orgIDRef := some ⟨"acme"⟩ } .empty))
    [.ofValue (.object [("buckets", .list [.object [("id", .text "b1"), ("name", .text "logs"),
      ("description", .text "of the server"), ("schemaType", .text schemaType)]])])]

/-- The organization that it refers to. -/
def owner : Record :=
  .ofName "acme" (.organization ⟨none⟩ { Organization.Observation.empty with id := .text "o1" })

theorem valid_unopinionated (schemaType : String) : (unopinionated schemaType).record.Valid := by
  have hdesired : Bucket.Parameters.Sound { Bucket.Parameters.empty with orgIDRef := some ⟨"acme"⟩ } :=
    Bucket.Parameters.sound_iff.mpr
      ⟨Or.inl rfl, Or.inl rfl, Or.inl ⟨rfl, rfl⟩, Or.inl rfl, "", rfl, Or.inl rfl⟩
  have hobserved : Bucket.Observation.empty.Sound :=
    ⟨told_textValue "", Or.inl ⟨rfl, rfl⟩, Or.inl ⟨rfl, rfl⟩,
      told_list (by simp [Bucket.Observation.empty])⟩
  exact valid_ofName "logs" ⟨hdesired, hobserved⟩

/-- What a reconcile with the organization at hand makes of it. -/
def opinionated (schemaType : String) : Except Fault Result × Work :=
  (unopinionated schemaType).reconcile (.ofClient ⟨"http://db", "", 30⟩) (some (Directory.resolver [owner]))

/-- What is left of the bucket is valid: its organization is resolved, its description and its schema type are
filled. -/
theorem reconcile_valid_iff_unopinionated :
    (opinionated "explicit").2.record.resource =
        .bucket ⟨.text "of the server", .text "o1", some ⟨"acme"⟩, none, .null, [], .text "explicit"⟩
          { Bucket.Observation.empty with id := .text "b1" } ∧
      (opinionated "explicit").2.record.Valid := by
  have hmoment : (Timestamp.midnight ⟨2024, 1, 1⟩).Real :=
    Timestamp.real_midnight ⟨by decide, by decide, by decide⟩
  have howner : ∀ r ∈ [owner], r.Valid := by
    intro r hr
    rw [List.mem_singleton.mp hr]
    exact valid_ofName "acme" ⟨told_textValue "o1", Or.inl ⟨rfl, rfl⟩, Or.inl ⟨rfl, rfl⟩⟩
  have texts : ∀ n ∈ some (Directory.resolver [owner]), n.GivesTexts := by
    intro n hn
    cases hn
    exact Directory.givesTexts howner
  have hfound : (((unopinionated "explicit").prepare (some (Directory.resolver [owner]))).finding
      ⟨"http://db", "", 30⟩).toOption = some (some (.object [("id", .text "b1"), ("name", .text "logs"),
        ("description", .text "of the server"), ("schemaType", .text "explicit")])) := by
    decide +kernel
  have fits : ∀ object, ((unopinionated "explicit").prepare (some (Directory.resolver [owner]))).finding
      ⟨"http://db", "", 30⟩ = .ok (some object) → (unopinionated "explicit").record.resource.Fits object := by
    intro object hobject
    rw [hobject] at hfound
    cases hfound
    refine ⟨fun _ => ?_, fun _ => ?_, fun _ => ?_⟩
    · exact Value.gives_map.mpr (Or.inr ⟨"of the server", by decide +kernel⟩)
    · exact Value.gives_map.mpr (Or.inl (by decide +kernel))
    · exact Value.gives_map.mpr fun _ => ⟨"explicit", by decide +kernel, Or.inr (by decide)⟩
  have hreturns : (opinionated "explicit").1.toOption.isSome = true := by decide +kernel
  obtain ⟨result, hresult⟩ := Option.isSome_iff_exists.mp hreturns
  have h : opinionated "explicit" = (.ok result, (opinionated "explicit").2) :=
    Prod.fst_eq_iff.mp (ok_of_toOption hresult)
  refine ⟨by decide +kernel, (reconcile_valid_iff ⟨hmoment, fun _ => hmoment⟩ texts
    (valid_unopinionated "explicit") h).mpr ⟨fits, fun id hadopts => ?_⟩⟩
  have hmapping := hadopts.mapping
  cases hmapping

/-- A schema type that no record can have is filled too. The reconcile succeeds, and the record that it leaves is
refused when it is read again. -/
theorem reconcile_spoils :
    (unopinionated "dynamic").record.Valid ∧
      (opinionated "dynamic").1.toOption.map (·.success) = some true ∧
      (Manifest.record (.midnight ⟨2024, 1, 1⟩) (opinionated "dynamic").2.record.toValue).toOption = none ∧
      ¬(opinionated "dynamic").2.record.Valid := by
  have hmoment : (Timestamp.midnight ⟨2024, 1, 1⟩).Real :=
    Timestamp.real_midnight ⟨by decide, by decide, by decide⟩
  have hrefused : (Manifest.record (.midnight ⟨2024, 1, 1⟩)
      (opinionated "dynamic").2.record.toValue).toOption = none := by
    decide +kernel
  refine ⟨valid_unopinionated "dynamic", by decide +kernel, hrefused, fun hvalid => ?_⟩
  obtain ⟨r', hread, -⟩ := hvalid.reread _ hmoment
  rw [hread] at hrefused
  cases hrefused

end Work

end InfluxKeeper
