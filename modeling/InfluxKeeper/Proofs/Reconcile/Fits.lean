import InfluxKeeper.Proofs.Record.Valid
import InfluxKeeper.Proofs.Reconcile.OneUpdate
import InfluxKeeper.Reconcile.References

/-!
# What an object gives a record

A record that takes in an object observes it, fills the parameters that it left open, and keeps the address of a
mapping. What is observed goes through the checks that a document goes through (`sound_of_answer`). What is
filled, and the address, goes through none: it is taken as the server gave it.

> `Sound.absorb_iff`: a resource that takes in an object is sound exactly if the object gives what fits the fields
> that the resource takes unchecked (`Fits`).

A resolver gives texts, so a resource stays sound when its references are resolved (`Sound.resolve`).
-/

namespace InfluxKeeper

open Api Schema

/-! ## Values of fields -/

/-- A value that a schema type may have. -/
def Bucket.IsSchemaType (v : Value) : Prop := ∃ s, v = .text s ∧ (s = "" ∨ s ∈ schemaTypes)

theorem toldOr_optionalText_iff {v : Value} : ToldOr .null optionalText v v ↔ v.IsOptionalText := by
  constructor
  · rintro (⟨hnull, -⟩ | htold)
    · exact Or.inl hnull
    · have hreads := htold.reads
      unfold optionalText at hreads
      split at hreads
      · exact Or.inl rfl
      · exact Or.inr (told_textValue_iff.mp ⟨htold.written, hreads⟩)
  · rintro (rfl | ⟨s, rfl⟩)
    · exact Or.inl ⟨rfl, rfl⟩
    · exact Or.inr ⟨.text s, rfl⟩

theorem told_checkSchemaType_iff {v : Value} :
    Told Bucket.checkSchemaType v v ↔ Bucket.IsSchemaType v := by
  constructor
  · intro h
    have hreads := h.reads
    unfold Bucket.checkSchemaType at hreads
    cases hs : text v with
    | invalid issues => rw [hs] at hreads; cases hreads
    | valid s =>
      rw [hs] at hreads
      dsimp only [Checked.andThen] at hreads
      split at hreads
      · next hknown => cases hreads; exact ⟨s, rfl, hknown⟩
      · cases hreads
  · rintro ⟨s, rfl, hknown⟩
    exact Bucket.told_checkSchemaType hknown

section Fill

variable {P : Value → Prop} {desired observed : Value}

/-- A property of a value is one of the filled value exactly if it is one of what fills it. -/
theorem fill_iff (h : P desired) : P (fill desired observed).value ↔ (desired = .null → P observed) := by
  unfold fill
  split
  · next hopen =>
    have hnull := Value.eq_null_of_isNull (Bool.and_eq_true_iff.mp hopen).1
    exact ⟨fun hp _ => hp, fun hp => hp hnull⟩
  · next hclosed =>
    refine ⟨fun _ hnull => ?_, fun _ => h⟩
    subst hnull
    have hobserved : observed = .null := Value.eq_null_of_isNull (by simpa [Value.isNull] using hclosed)
    rw [hobserved]
    exact h

theorem fillText_iff (h : P desired) : P (fillText desired observed).value ↔
    (desired.truthy = false → observed.truthy = true → P observed) := by
  unfold fillText
  split
  · next hopen =>
    obtain ⟨hd, ho⟩ := Bool.and_eq_true_iff.mp hopen
    exact ⟨fun hp _ _ => hp, fun hp => hp (by simpa using hd) ho⟩
  · next hclosed =>
    refine ⟨fun _ hd ho => ?_, fun _ => h⟩
    rw [hd, ho] at hclosed
    exact absurd rfl hclosed

end Fill

/-! ## Observations of an answer -/

section Answer

variable {entries : Entries} {key name : String}

theorem told_id {id : Value} (hp : entries.Plain)
    (h : (textValue (Entries.getOr entries "id" (.text ""))).under (.key name) = .valid id) :
    Told textValue id id := by
  have hget : (Entries.getOr entries "id" (.text "")).Plain :=
    Value.plain_orElse hp.get (Value.plain_text "")
  exact lossless_textValue _ id hget.timely (under_valid_iff.mp h)

theorem told_moment {moment : Option Timestamp} (hp : entries.Plain)
    (h : (optional time (Entries.get entries key)).under (.key name) = .valid moment) :
    ToldOr none (optional time) (.ofTime? moment) moment :=
  lossless_time.optional rfl (fun _ => rfl) (Entries.Plain.get hp).timely (under_valid_iff.mp h)

end Answer

/-- What is observed of an organization of an answer is sound. -/
theorem Organization.Observation.sound_of_answer {object : Value} {o : Observation} (hp : object.Plain)
    (h : ofAnswer object = .ok o) : o.Sound := by
  unfold ofAnswer at h
  split at h
  · next entries =>
    obtain ⟨links, -, hfit⟩ := bind_ok_iff.mp h
    obtain ⟨f₃, updated, h₃, hupdated, rfl⟩ := seq_valid_iff.mp (fit_ok_iff.mp hfit)
    obtain ⟨f₂, created, h₂, hcreated, rfl⟩ := seq_valid_iff.mp h₃
    obtain ⟨f₁, status, h₁, -, rfl⟩ := seq_valid_iff.mp h₂
    obtain ⟨id, hid, rfl⟩ := map_valid_iff.mp h₁
    exact ⟨told_id hp hid, told_moment hp hcreated, told_moment hp hupdated⟩
  · cases h

/-- The properties of a label of an answer have different keys. -/
theorem Bucket.Label.told_of_answer {v : Value} {l : Label} (h : ofAnswer v = .ok l) :
    Told check l.toValue l := by
  unfold ofAnswer at h
  split at h
  · obtain ⟨pairs, -, hfit⟩ := bind_ok_iff.mp h
    obtain ⟨f₃, properties, h₃, hproperties, rfl⟩ := seq_valid_iff.mp (fit_ok_iff.mp hfit)
    obtain ⟨f₂, org, h₂, -, rfl⟩ := seq_valid_iff.mp h₃
    obtain ⟨f₁, name, h₁, -, rfl⟩ := seq_valid_iff.mp h₂
    obtain ⟨id, -, rfl⟩ := map_valid_iff.mp h₁
    exact told (told_textMap (textMap_nodup (under_valid_iff.mp hproperties)))
  · cases h

theorem exists_of_mapM {ε α β : Type} {f : α → Except ε β} {as : List α} {bs : List β}
    (h : as.mapM f = .ok bs) : ∀ b ∈ bs, ∃ a ∈ as, f a = .ok b := by
  induction as generalizing bs with
  | nil => cases h; simp
  | cons a rest ih =>
    rw [List.mapM_cons] at h
    obtain ⟨b, hb, h⟩ := bind_ok_iff.mp h
    obtain ⟨cs, hcs, h⟩ := bind_ok_iff.mp h
    cases h
    intro b' hb'
    rcases List.mem_cons.mp hb' with rfl | hmem
    · exact ⟨a, List.mem_cons_self, hb⟩
    · obtain ⟨a', ha', hf⟩ := ih hcs b' hmem
      exact ⟨a', List.mem_cons_of_mem _ ha', hf⟩

/-- What is observed of a bucket of an answer is sound. -/
theorem Bucket.Observation.sound_of_answer {object : Value} {o : Observation} (hp : object.Plain)
    (h : ofAnswer object = .ok o) : o.Sound := by
  unfold ofAnswer at h
  split at h
  · next entries =>
    obtain ⟨items, -, hitems⟩ := bind_ok_iff.mp h
    obtain ⟨labels, hread, hlabels⟩ := bind_ok_iff.mp hitems
    obtain ⟨links, -, hfit⟩ := bind_ok_iff.mp hlabels
    obtain ⟨f₃, type, h₃, -, rfl⟩ := seq_valid_iff.mp (fit_ok_iff.mp hfit)
    obtain ⟨f₂, updated, h₂, hupdated, rfl⟩ := seq_valid_iff.mp h₃
    obtain ⟨f₁, created, h₁, hcreated, rfl⟩ := seq_valid_iff.mp h₂
    obtain ⟨id, hid, rfl⟩ := map_valid_iff.mp h₁
    refine ⟨told_id hp hid, told_moment hp hcreated, told_moment hp hupdated, told_list fun l hl => ?_⟩
    obtain ⟨item, -, hlabel⟩ := exists_of_mapM hread l (List.mem_mergeSort.mp hl)
    exact Label.told_of_answer hlabel
  · cases h

/-! ## References -/

/-- A resolver that resolves references to texts only. -/
def Resolver.GivesTexts (n : Resolver) : Prop :=
  ∀ kind name i v, n.resolve? kind name i = some v → ∃ t, v = .text t

/-- A property of texts and of a field is one of the field with its reference resolved. -/
theorem Resolver.GivesTexts.fieldOr {n : Resolver} (h : n.GivesTexts) {P : Value → Prop}
    (ht : ∀ t, P (.text t)) {kind : String} {i : Identity} {reference : Option Reference} {current : Value}
    (hc : P current) : P (n.fieldOr kind i reference current) := by
  unfold Resolver.fieldOr
  cases hv : reference.bind fun r => n.resolve? kind r.name i with
  | none => exact hc
  | some v =>
    obtain ⟨r, -, hresolve⟩ := Option.bind_eq_some_iff.mp hv
    obtain ⟨t, rfl⟩ := h _ _ _ _ hresolve
    exact ht t

theorem Record.Sound.observedId {r : Record} (h : r.Sound) : ∃ t, r.observedId = .text t := by
  have hresource := h.resource
  unfold Record.observedId
  cases hr : r.resource with
  | organization p o => rw [hr] at hresource; exact told_textValue_iff.mp hresource.id
  | bucket p o => rw [hr] at hresource; exact told_textValue_iff.mp hresource.2.id
  | mapping p o => exact ⟨"", rfl⟩

theorem Record.Sound.externalName {r : Record} (h : r.Sound) : ∃ t, r.externalName = .text t := by
  unfold Record.externalName Metadata.externalName
  cases hv : r.metadata.annotations.lookup externalNameKey with
  | none => exact ⟨"", rfl⟩
  | some v =>
    obtain ⟨before, after, hsplit, -⟩ := List.lookup_eq_some_iff.mp hv
    have hmem : (externalNameKey, v) ∈ r.metadata.annotations := by rw [hsplit]; simp
    exact (told_textValues_iff.mp h.metadata.annotations).2 _ hmem

/-- A directory of valid records gives texts. -/
theorem Directory.givesTexts {d : Directory} (h : ∀ r ∈ d, r.Valid) : d.resolver.GivesTexts := by
  intro kind name i v hv
  have hresolve : d.resolve? kind name i = some v := hv
  unfold Directory.resolve? at hresolve
  split at hresolve
  · next r hr =>
    have hsound := (h r (List.mem_of_find?_eq_some hr)).sound
    dsimp only at hresolve
    split at hresolve
    · cases hresolve
      cases i with
      | id =>
        unfold Identity.of
        dsimp only
        split
        · exact hsound.observedId
        · exact ⟨"", rfl⟩
      | externalName =>
        unfold Identity.of
        dsimp only
        split
        · exact hsound.externalName
        · exact ⟨"", rfl⟩
    · cases hresolve
  · cases hresolve

/-! ## What is taken unchecked -/

/-- What an object gives under a key, if it is a map, has a property. -/
def Value.Gives (object : Value) (key : String) (P : Value → Prop) : Prop :=
  ∀ v, object.getEntry key = .ok v → P v

theorem Value.gives_map {entries : Entries} {key : String} {P : Value → Prop} :
    (Value.map entries).Gives key P ↔ P (entries.get key) :=
  ⟨fun h => h _ rfl, fun h v hv => by cases hv; exact h⟩

/-- An object gives what fits the fields that a resource takes unchecked: those that it left open, and the address
of a mapping. -/
def Resource.Fits (object : Value) : Resource → Prop
  | .organization .. => True
  | .bucket p _ =>
    (p.description = .null → object.Gives "description" Value.IsOptionalText) ∧
    (p.rp = .null → object.Gives "rp" Value.IsOptionalText) ∧
    (p.schemaType.truthy = false →
      object.Gives "schemaType" fun v => v.truthy = true → Bucket.IsSchemaType v)
  | .mapping p _ =>
    (p.isDefault = .null → object.Gives "default" Mapping.IsOptionalTruth) ∧
    ∀ link, Mapping.observedLink object = .ok link → ∃ t, link = .text t

namespace Bucket

theorem Parameters.sound_iff {p : Parameters} : p.Sound ↔
    p.description.IsOptionalText ∧ p.orgID.IsOptionalText ∧
    ToldOr none (Schema.optional Selector.check) (Selector.optionalValue p.orgIDSelector) p.orgIDSelector ∧
    p.rp.IsOptionalText ∧ IsSchemaType p.schemaType := by
  rw [← toldOr_optionalText_iff, ← toldOr_optionalText_iff, ← toldOr_optionalText_iff,
    ← told_checkSchemaType_iff]
  exact ⟨fun h => ⟨h.description, h.org, h.selector, h.rp, h.schemaType⟩,
    fun ⟨hdescription, horg, hselector, hrp, hschema⟩ => ⟨hdescription, horg, hselector, hrp, hschema⟩⟩

/-- Parameters that are filled from an object are sound exactly if what fills them fits. -/
theorem Parameters.Sound.lateInitialize_iff {p : Parameters} (h : p.Sound) (o : Observation)
    (entries : Entries) :
    (lateInitialize p (.map entries)).2.Sound ↔ (Resource.bucket p o).Fits (.map entries) := by
  obtain ⟨hdescription, horg, hselector, hrp, hschema⟩ := Parameters.sound_iff.mp h
  -- the rules that are filled too were checked
  have hfilled (rules : List RetentionRule) : Parameters.Sound { p with
        description := (fill p.description (entries.get "description")).value
        rp := (fill p.rp (entries.get "rp")).value
        schemaType := (fillText p.schemaType (entries.get "schemaType")).value
        retentionRules := rules } ↔ (Resource.bucket p o).Fits (.map entries) := by
    rw [Parameters.sound_iff]
    dsimp only [Resource.Fits]
    rw [fill_iff hdescription, fill_iff hrp, fillText_iff hschema, Value.gives_map, Value.gives_map,
      Value.gives_map]
    exact ⟨fun ⟨fitsDescription, _, _, fitsRp, fitsSchema⟩ => ⟨fitsDescription, fitsRp, fitsSchema⟩,
      fun ⟨fitsDescription, fitsRp, fitsSchema⟩ =>
        ⟨fitsDescription, horg, hselector, fitsRp, fitsSchema⟩⟩
  unfold lateInitialize
  dsimp only
  split
  · exact hfilled p.retentionRules
  · exact hfilled _

theorem Parameters.Sound.resolve {p : Parameters} (h : p.Sound) {n : Resolver} (hn : n.GivesTexts) :
    (p.resolve n).Sound := by
  obtain ⟨hdescription, horg, hselector, hrp, hschema⟩ := Parameters.sound_iff.mp h
  refine Parameters.sound_iff.mpr ⟨hdescription, ?_, hselector, hrp, hschema⟩
  exact hn.fieldOr (P := Value.IsOptionalText) (fun t => Or.inr ⟨t, rfl⟩) horg

end Bucket

namespace Mapping

/-- Parameters that are filled from an object are sound exactly if what fills them fits. -/
theorem Parameters.Sound.lateInitialize_iff {p : Parameters} (h : p.Sound) (entries : Entries) :
    (lateInitialize p (.map entries)).2.Sound ↔
      (p.isDefault = .null → (Value.map entries).Gives "default" IsOptionalTruth) := by
  rw [Value.gives_map, ← fill_iff h.isDefault]
  exact ⟨fun hfilled => hfilled.isDefault, fun hdefault => { h with isDefault := hdefault }⟩

theorem Parameters.Sound.resolve {p : Parameters} (h : p.Sound) {n : Resolver} (hn : n.GivesTexts) :
    (p.resolve n).Sound :=
  { h with
    bucket := told_textValue_iff.mpr (hn.fieldOr (P := fun v => ∃ t, v = .text t) (fun t => ⟨t, rfl⟩)
      (told_textValue_iff.mp h.bucket))
    org := told_textValue_iff.mpr (hn.fieldOr (P := fun v => ∃ t, v = .text t) (fun t => ⟨t, rfl⟩)
      (told_textValue_iff.mp h.org)) }

end Mapping

namespace Resource

/-- **A resource that takes in an object is sound exactly if the object fits.** -/
theorem Sound.absorb_iff {r : Resource} (h : r.Sound) {object : Value} (hp : object.Plain) {seen : Seen}
    (hs : r.seenIn object = .ok seen) : (r.absorb object).Sound ↔ r.Fits object := by
  cases r with
  | organization p o =>
    obtain ⟨o', ho, -⟩ := bind_ok_iff.mp hs
    unfold absorb
    dsimp only
    rw [ho]
    exact ⟨fun _ => trivial, fun _ => Organization.Observation.sound_of_answer hp ho⟩
  | bucket p o =>
    obtain ⟨o', ho, hs⟩ := bind_ok_iff.mp hs
    have hobserved := Bucket.Observation.sound_of_answer hp ho
    unfold absorb
    dsimp only
    rw [ho]
    cases object with
    | map entries =>
      have hfilled := h.1.lateInitialize_iff o entries
      exact ⟨fun hsound => hfilled.mp hsound.1, fun hfits => ⟨hfilled.mpr hfits, hobserved⟩⟩
    | _ => cases ho
  | mapping p o =>
    obtain ⟨link, hlink, hs⟩ := bind_ok_iff.mp hs
    unfold absorb
    dsimp only
    rw [hlink]
    cases object with
    | map entries =>
      have hfilled := h.1.lateInitialize_iff entries
      constructor
      · rintro ⟨hdesired, hobserved⟩
        refine ⟨hfilled.mp hdesired, fun link' hlink' => ?_⟩
        rw [hlink] at hlink'
        cases hlink'
        exact told_textValue_iff.mp hobserved
      · rintro ⟨hdefault, haddress⟩
        exact ⟨hfilled.mpr hdefault, told_textValue_iff.mpr (haddress link hlink)⟩
    | _ => cases hlink

end Resource

end InfluxKeeper
