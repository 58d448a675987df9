import InfluxKeeper.Mapping.Basic
import InfluxKeeper.Organization.Basic
import InfluxKeeper.Proofs.Bucket.Rules
import InfluxKeeper.Proofs.Schema.RoundTrip

/-!
# The parts of a record are written losslessly

Each part of a record is a model, and what its check makes of a timely value is written as a value that its check
reads as the same. Where a part can be anything of its type, it is told by what is written of it whatever it is
(`Reference.told`, `RetentionRule.told`, the addresses); else it has to be `Sound`: keys are not repeated, points in
time are real, a value kept untyped is a text.

The proofs come in two halves. What a check reads is sound: the fields are peeled off the check, and each is
lossless by itself (`sound_of_check`). What is sound is told: the model of the written fields is read field by field
(`Sound.told`). One part is weaker. Whether a mapping is the default one may be a number that counts as a truth
value, and then it is read as that (`Mapping.Parameters.Sound.stands`).
-/

namespace InfluxKeeper

open Schema

/-! ## What all records carry -/

theorem Reference.told (r : Reference) : Told Reference.check r.toValue r := by
  refine told_object (by simp) (by simp [Value.Written.text]) fun hd => ?_
  exact valid_map (field_ofFields hd (by simp) (told_text r.name) _)

theorem Selector.lossless : Lossless Selector.check Selector.check Selector.toValue := by
  intro v s hv h
  obtain ⟨e, rfl, h⟩ := model_valid_iff.mp h
  obtain ⟨labels, hlabels, rfl⟩ := map_valid_iff.mp h
  have htold := lossless_textMap.fieldOr hv told_textMap_nil hlabels
  refine told_object (by simp) (by simpa using htold.written) fun hd => ?_
  exact valid_map (fieldOr_ofFields hd (by simp) (by simp) (htold.or []))

/-- A reference that may be missing is told. -/
theorem Reference.toldOr_optional (o : Option Reference) :
    ToldOr none (optional Reference.check) (Reference.optionalValue o) o :=
  Schema.toldOr_optional rfl fun r _ => r.told

/-- A selector that may be missing is written as null or losslessly. -/
theorem Selector.toldOr {e : Entries} {first second : String} {o : Option Selector}
    (he : (Value.map e).Timely)
    (h : fieldOr e first second none (optional Selector.check) = .valid o) :
    ToldOr none (optional Selector.check) (Selector.optionalValue o) o :=
  Selector.lossless.toldOr rfl (fun _ => rfl) he h

/-- Metadata whose fields are told by what is written of them. -/
structure Metadata.Sound (m : Metadata) : Prop where
  labels : Told textValues (.object m.labels) m.labels
  annotations : Told textValues (.object m.annotations) m.annotations
  deletion : ToldOr none (optional time) (.ofTime? m.deletionTimestamp) m.deletionTimestamp

theorem Metadata.sound_of_check {v : Value} {m : Metadata} (hv : v.Timely) (h : check v = .valid m) :
    m.Sound := by
  obtain ⟨e, rfl, h⟩ := model_valid_iff.mp h
  obtain ⟨f₃, deletion, h₃, hdeletion, rfl⟩ := seq_valid_iff.mp h
  obtain ⟨f₂, annotations, h₂, hannotations, rfl⟩ := seq_valid_iff.mp h₃
  obtain ⟨f₁, labels, h₁, hlabels, rfl⟩ := seq_valid_iff.mp h₂
  obtain ⟨name, -, rfl⟩ := map_valid_iff.mp h₁
  exact {
    labels := lossless_textValues.fieldOr hv told_textValues_nil hlabels
    annotations := lossless_textValues.fieldOr hv told_textValues_nil hannotations
    deletion := toldOr_time hv hdeletion }

theorem Metadata.Sound.told {m : Metadata} (h : m.Sound) : Told check m.toValue m := by
  refine told_model (by simp) ?_ fun hd => valid_seq (valid_seq (valid_seq (valid_map ?_) ?_) ?_) ?_
  · simp [(told_text m.name).writable, h.labels.writable, h.annotations.writable, h.deletion.writable]
  · exact field_ofFields hd (by simp) (told_text m.name) _
  · exact fieldOr_ofFields hd (by simp) (by simp) (h.labels.or [])
  · exact fieldOr_ofFields hd (by simp) (by simp) (h.annotations.or [])
  · exact fieldOr_ofFields hd (by simp) (by simp) h.deletion

theorem Condition.real_of_check {now : Timestamp} (hn : now.Real) {v : Value} {c : Condition}
    (hv : v.Timely) (h : check now v = .valid c) : c.lastTransitionTime.Real := by
  obtain ⟨e, rfl, h⟩ := model_valid_iff.mp h
  obtain ⟨f₄, time, h₄, htime, rfl⟩ := seq_valid_iff.mp h
  obtain ⟨f₃, message, h₃, -, rfl⟩ := seq_valid_iff.mp h₄
  obtain ⟨f₂, reason, h₂, -, rfl⟩ := seq_valid_iff.mp h₃
  obtain ⟨f₁, status, h₁, -, rfl⟩ := seq_valid_iff.mp h₂
  obtain ⟨type, -, rfl⟩ := map_valid_iff.mp h₁
  rcases field_valid hv htime with habsent | ⟨v, hv, hread⟩
  · cases habsent; exact hn
  · exact time_real hv hread

/-- A condition whose time is real is told at any time. -/
theorem Condition.told {c : Condition} (h : c.lastTransitionTime.Real) (now : Timestamp) :
    Told (check now) c.toValue c := by
  refine told_object (by simp) (by simp [Value.Written.text]) fun hd =>
    valid_seq (valid_seq (valid_seq (valid_seq (valid_map ?_) ?_) ?_) ?_) ?_
  · exact field_ofFields hd (by simp) (told_text c.type) _
  · exact field_ofFields hd (by simp) (told_text c.status) _
  · exact field_ofFields hd (by simp) (told_text c.reason) _
  · exact fieldOr_ofFields hd (by simp) (by simp) ((told_text c.message).or "")
  · exact fieldOr_ofFields hd (by simp) (by simp) ((told_time h).or now)

/-! ## Organizations -/

namespace Organization

theorem Parameters.told (p : Parameters) : Told Parameters.check (p.toValue false) p := by
  have htold : ToldOr none (optional text) (.ofText? p.description) p.description :=
    toldOr_optional rfl fun s _ => told_text s
  refine told_model (by simp) (by simpa using htold.writable) fun hd => ?_
  exact valid_map (fieldOr_ofFields hd (by simp) (by simp) htold)

theorem Parameters.lossless : Lossless Parameters.check Parameters.check (Parameters.toValue false) :=
  fun _ p _ _ => p.told

theorem Links.told (l : Links) : Told Links.check l.toValue l := by
  refine told_object (by simp) (by simp [Value.Written.text]) fun hd => valid_seq (valid_seq (valid_seq
    (valid_seq (valid_seq (valid_seq (valid_seq (valid_map ?_) ?_) ?_) ?_) ?_) ?_) ?_) ?_
  · exact fieldOr_ofFields hd (by simp) (by simp) ((told_text l.buckets).or "")
  · exact fieldOr_ofFields hd (by simp) (by simp) ((told_text l.dashboards).or "")
  · exact fieldOr_ofFields hd (by simp) (by simp) ((told_text l.labels).or "")
  · exact fieldOr_ofFields hd (by simp) (by simp) ((told_text l.members).or "")
  · exact fieldOr_ofFields hd (by simp) (by simp) ((told_text l.owners).or "")
  · exact fieldOr_ofFields hd (by simp) (by simp) ((told_text l.secrets).or "")
  · exact fieldOr_ofFields hd (by simp) (by simp) ((told_text l.self).or "")
  · exact fieldOr_ofFields hd (by simp) (by simp) ((told_text l.tasks).or "")

/-- An observation whose fields are told by what is written of them. -/
structure Observation.Sound (o : Observation) : Prop where
  id : Told textValue o.id o.id
  created : ToldOr none (optional time) (.ofTime? o.createdAt) o.createdAt
  updated : ToldOr none (optional time) (.ofTime? o.updatedAt) o.updatedAt

theorem Observation.sound_of_check {v : Value} {o : Observation} (hv : v.Timely)
    (h : check v = .valid o) : o.Sound := by
  obtain ⟨e, rfl, h⟩ := model_valid_iff.mp h
  obtain ⟨f₄, links, h₄, -, rfl⟩ := seq_valid_iff.mp h
  obtain ⟨f₃, updated, h₃, hupdated, rfl⟩ := seq_valid_iff.mp h₄
  obtain ⟨f₂, created, h₂, hcreated, rfl⟩ := seq_valid_iff.mp h₃
  obtain ⟨f₁, status, h₁, -, rfl⟩ := seq_valid_iff.mp h₂
  obtain ⟨id, hid, rfl⟩ := map_valid_iff.mp h₁
  exact ⟨lossless_textValue.fieldOr hv (told_textValue "") hid, toldOr_time hv hcreated,
    toldOr_time hv hupdated⟩

theorem Observation.Sound.told {o : Observation} (h : o.Sound) : Told check (o.toValue false) o := by
  refine told_model (by simp) ?_ fun hd =>
    valid_seq (valid_seq (valid_seq (valid_seq (valid_map ?_) ?_) ?_) ?_) ?_
  · simp [h.id.writable, (told_text o.status).writable, h.created.writable, h.updated.writable,
      o.links.told.writable]
  · exact fieldOr_ofFields hd (by simp) (by simp) (h.id.or (.text ""))
  · exact fieldOr_ofFields hd (by simp) (by simp) ((told_text o.status).or "")
  · exact fieldOr_ofFields hd (by simp) (by simp) h.created
  · exact fieldOr_ofFields hd (by simp) (by simp) h.updated
  · exact fieldOr_ofFields hd (by simp) (by simp) (o.links.told.or .empty)

theorem Observation.lossless :
    Lossless Observation.check Observation.check (Observation.toValue false) :=
  fun _ _ hv h => (Observation.sound_of_check hv h).told

end Organization

/-! ## Buckets -/

namespace Bucket

theorem RetentionRule.told (r : RetentionRule) : Told RetentionRule.check (r.toValue false) r := by
  refine ⟨written_model (by simp) ?_, check_toValue r⟩
  obtain ⟨type, every, shard⟩ := r
  cases shard with
  | none => simp [Value.Writable, Value.Written.text, Value.Written.int]
  | some n => simp [Value.Writable, Value.Written.text, Value.Written.int]

theorem told_rules (rules : List RetentionRule) :
    Told (list RetentionRule.check) (.list (rules.map (·.toValue false))) rules :=
  told_list fun r _ => r.told

theorem told_checkSchemaType {s : String} (h : s = "" ∨ s ∈ schemaTypes) :
    Told checkSchemaType (.text s) (.text s) :=
  ⟨.text s, if_pos h⟩

theorem lossless_checkSchemaType : Lossless checkSchemaType checkSchemaType fun v => v := by
  intro v a _ h
  unfold checkSchemaType at h
  cases hs : text v with
  | invalid issues => rw [hs] at h; cases h
  | valid s =>
    rw [hs] at h
    dsimp only [Checked.andThen] at h
    split at h
    · next hknown => cases h; exact told_checkSchemaType hknown
    · cases h

/-- Parameters whose fields are told by what is written of them. -/
structure Parameters.Sound (p : Parameters) : Prop where
  description : ToldOr .null optionalText p.description p.description
  org : ToldOr .null optionalText p.orgID p.orgID
  selector : ToldOr none (optional Selector.check) (Selector.optionalValue p.orgIDSelector) p.orgIDSelector
  rp : ToldOr .null optionalText p.rp p.rp
  schemaType : Told checkSchemaType p.schemaType p.schemaType

theorem Parameters.sound_of_check {v : Value} {p : Parameters} (hv : v.Timely)
    (h : check v = .valid p) : p.Sound := by
  obtain ⟨e, rfl, h⟩ := model_valid_iff.mp h
  obtain ⟨f₆, schemaType, h₆, hschema, rfl⟩ := seq_valid_iff.mp h
  obtain ⟨f₅, rules, h₅, -, rfl⟩ := seq_valid_iff.mp h₆
  obtain ⟨f₄, rp, h₄, hrp, rfl⟩ := seq_valid_iff.mp h₅
  obtain ⟨f₃, selector, h₃, hselector, rfl⟩ := seq_valid_iff.mp h₄
  obtain ⟨f₂, reference, h₂, -, rfl⟩ := seq_valid_iff.mp h₃
  obtain ⟨f₁, org, h₁, horg, rfl⟩ := seq_valid_iff.mp h₂
  obtain ⟨description, hdescription, rfl⟩ := map_valid_iff.mp h₁
  exact {
    description := toldOr_optionalText hv hdescription
    org := toldOr_optionalText hv horg
    selector := Selector.toldOr hv hselector
    rp := toldOr_optionalText hv hrp
    schemaType := lossless_checkSchemaType.fieldOr hv (told_checkSchemaType (Or.inl rfl)) hschema }

theorem Parameters.Sound.told {p : Parameters} (h : p.Sound) : Told check (p.toValue false) p := by
  have hreference := Reference.toldOr_optional p.orgIDRef
  have hrules := told_rules p.retentionRules
  refine told_model (by simp) ?_ fun hd => valid_seq (valid_seq (valid_seq (valid_seq (valid_seq
    (valid_seq (valid_map ?_) ?_) ?_) ?_) ?_) ?_) ?_
  · simp [h.description.writable, h.org.writable, hreference.writable, h.selector.writable, h.rp.writable,
      hrules.writable, h.schemaType.writable]
  · exact fieldOr_ofFields hd (by simp) (by simp) h.description
  · exact fieldOr_ofFields hd (by simp) (by simp) h.org
  · exact fieldOr_ofFields hd (by simp) (by simp) hreference
  · exact fieldOr_ofFields hd (by simp) (by simp) h.selector
  · exact fieldOr_ofFields hd (by simp) (by simp) h.rp
  · exact fieldOr_ofFields hd (by simp) (by simp) (hrules.or [])
  · exact fieldOr_ofFields hd (by simp) (by simp) (h.schemaType.or (.text ""))

theorem Parameters.lossless : Lossless Parameters.check Parameters.check (Parameters.toValue false) :=
  fun _ _ hv h => (Parameters.sound_of_check hv h).told

theorem Links.told (l : Links) : Told Links.check l.toValue l := by
  refine told_object (by simp) (by simp [Value.Written.text]) fun hd => valid_seq (valid_seq (valid_seq
    (valid_seq (valid_seq (valid_map ?_) ?_) ?_) ?_) ?_) ?_
  · exact fieldOr_ofFields hd (by simp) (by simp) ((told_text l.labels).or "")
  · exact fieldOr_ofFields hd (by simp) (by simp) ((told_text l.members).or "")
  · exact fieldOr_ofFields hd (by simp) (by simp) ((told_text l.org).or "")
  · exact fieldOr_ofFields hd (by simp) (by simp) ((told_text l.owners).or "")
  · exact fieldOr_ofFields hd (by simp) (by simp) ((told_text l.self).or "")
  · exact fieldOr_ofFields hd (by simp) (by simp) ((told_text l.write).or "")

/-- A label whose properties have different keys is told by what is written of it. -/
theorem Label.told {l : Label} (h : Told textMap (.textMap l.properties) l.properties) :
    Told check l.toValue l := by
  refine told_object (by simp) ?_ fun hd => valid_seq (valid_seq (valid_seq (valid_map ?_) ?_) ?_) ?_
  · simp [Value.Written.text, h.written]
  · exact fieldOr_ofFields hd (by simp) (by simp) ((told_text l.id).or "")
  · exact fieldOr_ofFields hd (by simp) (by simp) ((told_text l.name).or "")
  · exact fieldOr_ofFields hd (by simp) (by simp) ((told_text l.orgID).or "")
  · exact fieldOr_ofFields hd (by simp) (by simp) (h.or [])

theorem Label.lossless : Lossless Label.check Label.check Label.toValue := by
  intro v l hv h
  obtain ⟨e, rfl, h⟩ := model_valid_iff.mp h
  obtain ⟨f₃, properties, h₃, hproperties, rfl⟩ := seq_valid_iff.mp h
  obtain ⟨f₂, org, h₂, -, rfl⟩ := seq_valid_iff.mp h₃
  obtain ⟨f₁, name, h₁, -, rfl⟩ := seq_valid_iff.mp h₂
  obtain ⟨id, -, rfl⟩ := map_valid_iff.mp h₁
  exact Label.told (lossless_textMap.fieldOr hv told_textMap_nil hproperties)

/-- An observation whose fields are told by what is written of them. -/
structure Observation.Sound (o : Observation) : Prop where
  id : Told textValue o.id o.id
  created : ToldOr none (optional time) (.ofTime? o.createdAt) o.createdAt
  updated : ToldOr none (optional time) (.ofTime? o.updatedAt) o.updatedAt
  labels : Told (list Label.check) (.list (o.labels.map (·.toValue))) o.labels

theorem Observation.sound_of_check {v : Value} {o : Observation} (hv : v.Timely)
    (h : check v = .valid o) : o.Sound := by
  obtain ⟨e, rfl, h⟩ := model_valid_iff.mp h
  obtain ⟨f₅, labels, h₅, hlabels, rfl⟩ := seq_valid_iff.mp h
  obtain ⟨f₄, type, h₄, -, rfl⟩ := seq_valid_iff.mp h₅
  obtain ⟨f₃, links, h₃, -, rfl⟩ := seq_valid_iff.mp h₄
  obtain ⟨f₂, updated, h₂, hupdated, rfl⟩ := seq_valid_iff.mp h₃
  obtain ⟨f₁, created, h₁, hcreated, rfl⟩ := seq_valid_iff.mp h₂
  obtain ⟨id, hid, rfl⟩ := map_valid_iff.mp h₁
  exact {
    id := lossless_textValue.fieldOr hv (told_textValue "") hid
    created := toldOr_time hv hcreated
    updated := toldOr_time hv hupdated
    labels := Label.lossless.list.fieldOr hv ⟨.list (by simp), rfl⟩ hlabels }

theorem Observation.Sound.told {o : Observation} (h : o.Sound) : Told check (o.toValue false) o := by
  refine told_model (by simp) ?_ fun hd => valid_seq (valid_seq (valid_seq (valid_seq (valid_seq
    (valid_map ?_) ?_) ?_) ?_) ?_) ?_
  · simp [h.id.writable, h.created.writable, h.updated.writable, o.links.told.writable,
      (told_text o.type).writable, h.labels.writable]
  · exact fieldOr_ofFields hd (by simp) (by simp) (h.id.or (.text ""))
  · exact fieldOr_ofFields hd (by simp) (by simp) h.created
  · exact fieldOr_ofFields hd (by simp) (by simp) h.updated
  · exact fieldOr_ofFields hd (by simp) (by simp) (o.links.told.or .empty)
  · exact fieldOr_ofFields hd (by simp) (by simp) ((told_text o.type).or "")
  · exact fieldOr_ofFields hd (by simp) (by simp) (h.labels.or [])

theorem Observation.lossless :
    Lossless Observation.check Observation.check (Observation.toValue false) :=
  fun _ _ hv h => (Observation.sound_of_check hv h).told

end Bucket

/-! ## Mappings -/

namespace Mapping

/-- Whether a mapping is the default one, as a check of its field. -/
def checkDefault : Value → Checked Value
  | .null => .valid .null
  | v => .bool <$> boolean v

/-- A value that counts as a truth value, or is null. -/
def IsOptionalTruth (v : Value) : Prop := v = .null ∨ ∃ b : Bool, (Value.bool b).same v = true

/-- What counts as a truth value is read as it. -/
theorem stands_checkDefault {b : Bool} {v : Value} (h : (Value.bool b).same v = true) :
    Stands checkDefault v (.bool b) := by
  have hnumber : (if b then 1 else 0 : Int) = 0 ∨ (if b then 1 else 0 : Int) = 1 := by
    cases b
    · exact Or.inl rfl
    · exact Or.inr rfl
  cases v with
  | scalar s =>
    cases s with
    | bool b' =>
      have heq : b = b' := by cases b <;> cases b' <;> first | rfl | cases h
      subst heq
      exact ⟨rfl, (Value.Written.bool b).held, rfl⟩
    | int n =>
      have heq : (if b then 1 else 0 : Int) = n := eq_of_beq h
      subst heq
      refine ⟨rfl, (Value.Written.int _).held, ?_⟩
      cases b <;> rfl
    | float x =>
      have hint : x.toInt? = some (if b then 1 else 0) := eq_of_beq h
      cases x with
      | nan => cases hint
      | infinite negative => cases hint
      | finite negative mantissa exponent =>
        refine ⟨rfl, ⟨rfl, .scalar trivial⟩, ?_⟩
        have hwhole : wholeNumber (.finite negative mantissa exponent) =
            .valid (if b then 1 else 0) := by
          unfold wholeNumber
          rw [hint]
          dsimp only [Binary64.ratio?]
          rw [if_pos]
          rcases hnumber with hn | hn
          · rw [hn]; decide
          · rw [hn]; decide
        have hboolean : boolean (.float (.finite negative mantissa exponent)) = .valid b := by
          unfold boolean textOf?
          dsimp only
          rw [hwhole]
          cases b <;> rfl
        exact valid_map hboolean
    | _ => cases h
  | _ => cases h

/-- What may be left open, or counts as a truth value, is read as the same. -/
theorem standsOr_checkDefault {v : Value} (h : IsOptionalTruth v) :
    ∃ d, StandsOr .null checkDefault v d ∧ d.same v = true := by
  rcases h with rfl | ⟨b, hb⟩
  · exact ⟨.null, Or.inl ⟨rfl, rfl⟩, rfl⟩
  · exact ⟨.bool b, Or.inr (stands_checkDefault hb), hb⟩

theorem checkDefault_valid {v w : Value} (h : checkDefault v = .valid w) :
    w = .null ∨ ∃ b : Bool, w = .bool b := by
  unfold checkDefault at h
  split at h
  · cases h; exact Or.inl rfl
  · obtain ⟨b, -, rfl⟩ := map_valid_iff.mp h
    exact Or.inr ⟨b, rfl⟩

/-- What a default is read as, it is told by. -/
theorem toldOr_default {e : Entries} {w : Value} (he : (Value.map e).Timely)
    (h : fieldOr e "default" "is_default" .null checkDefault = .valid w) : ToldOr .null checkDefault w w := by
  rcases field_valid he h with habsent | ⟨v, -, hcheck⟩
  · cases habsent; exact Or.inl ⟨rfl, rfl⟩
  · rcases checkDefault_valid hcheck with rfl | ⟨b, rfl⟩
    · exact Or.inl ⟨rfl, rfl⟩
    · exact Or.inr ⟨.bool b, rfl⟩

/-- What is the same as a default that was read, may be left open or counts as a truth value. -/
theorem isOptionalTruth_of_same {v w : Value} (h : ToldOr .null checkDefault w w) (hs : w.same v = true) :
    IsOptionalTruth v := by
  have hform : w = .null ∨ ∃ b : Bool, w = .bool b := by
    rcases h with ⟨hnull, -⟩ | htold
    · exact Or.inl hnull
    · exact checkDefault_valid htold.reads
  rcases hform with rfl | ⟨b, rfl⟩
  · cases v with
    | scalar s =>
      cases s with
      | null => exact Or.inl rfl
      | _ => cases hs
    | _ => cases hs
  · exact Or.inr ⟨b, hs⟩

theorem same_self_of_toldOr {w : Value} (h : ToldOr .null checkDefault w w) : w.same w = true := by
  rcases h with ⟨rfl, -⟩ | htold
  · rfl
  · rcases checkDefault_valid htold.reads with rfl | ⟨b, rfl⟩
    · rfl
    · cases b <;> rfl

/-- Parameters whose fields are told by what is written of them, but for a default that counts as a truth
value: it is read as that. -/
structure Parameters.Sound (p : Parameters) : Prop where
  bucket : Told textValue p.bucketID p.bucketID
  bucketSelector : ToldOr none (optional Selector.check) (Selector.optionalValue p.bucketIDSelector)
    p.bucketIDSelector
  isDefault : IsOptionalTruth p.isDefault
  org : Told textValue p.org p.org
  orgSelector : ToldOr none (optional Selector.check) (Selector.optionalValue p.orgSelector) p.orgSelector

theorem Parameters.sound_of_check {v : Value} {p : Parameters} (hv : v.Timely) (h : check v = .valid p) :
    p.Sound ∧ ToldOr .null checkDefault p.isDefault p.isDefault := by
  obtain ⟨e, rfl, h⟩ := model_valid_iff.mp h
  obtain ⟨f₈, policy, h₈, -, rfl⟩ := seq_valid_iff.mp h
  obtain ⟨f₇, orgSelector, h₇, horgSelector, rfl⟩ := seq_valid_iff.mp h₈
  obtain ⟨f₆, orgRef, h₆, -, rfl⟩ := seq_valid_iff.mp h₇
  obtain ⟨f₅, org, h₅, horg, rfl⟩ := seq_valid_iff.mp h₆
  obtain ⟨f₄, isDefault, h₄, hdefault, rfl⟩ := seq_valid_iff.mp h₅
  obtain ⟨f₃, database, h₃, -, rfl⟩ := seq_valid_iff.mp h₄
  obtain ⟨f₂, bucketSelector, h₂, hbucketSelector, rfl⟩ := seq_valid_iff.mp h₃
  obtain ⟨f₁, bucketRef, h₁, -, rfl⟩ := seq_valid_iff.mp h₂
  obtain ⟨bucket, hbucket, rfl⟩ := map_valid_iff.mp h₁
  have hdefault := toldOr_default hv hdefault
  exact ⟨{
    bucket := lossless_textValue.fieldOr hv (told_textValue "") hbucket
    bucketSelector := Selector.toldOr hv hbucketSelector
    isDefault := isOptionalTruth_of_same hdefault (same_self_of_toldOr hdefault)
    org := lossless_textValue.fieldOr hv (told_textValue "") horg
    orgSelector := Selector.toldOr hv horgSelector }, hdefault⟩

theorem Parameters.Sound.stands {p : Parameters} (h : p.Sound) {d : Value}
    (hd : StandsOr .null checkDefault p.isDefault d) :
    Stands check (p.toValue false) { p with isDefault := d } := by
  have hbucketRef := Reference.toldOr_optional p.bucketIDRef
  have horgRef := Reference.toldOr_optional p.orgRef
  refine stands_model (by simp) ?_ fun hdistinct => valid_seq (valid_seq (valid_seq (valid_seq (valid_seq
    (valid_seq (valid_seq (valid_seq (valid_map ?_) ?_) ?_) ?_) ?_) ?_) ?_) ?_) ?_
  · simp [h.bucket.stands.held, hbucketRef.stands.held, h.bucketSelector.stands.held,
      (told_text p.database).stands.held, hd.held, h.org.stands.held, horgRef.stands.held,
      h.orgSelector.stands.held, (told_text p.retentionPolicy).stands.held]
  · exact fieldOr_ofFields hdistinct (by simp) (by simp) (h.bucket.or (.text ""))
  · exact fieldOr_ofFields hdistinct (by simp) (by simp) hbucketRef
  · exact fieldOr_ofFields hdistinct (by simp) (by simp) h.bucketSelector
  · exact field_ofFields hdistinct (by simp) (told_text p.database) _
  · exact hd.fieldOr hdistinct (by simp) (by simp)
  · exact fieldOr_ofFields hdistinct (by simp) (by simp) (h.org.or (.text ""))
  · exact fieldOr_ofFields hdistinct (by simp) (by simp) horgRef
  · exact fieldOr_ofFields hdistinct (by simp) (by simp) h.orgSelector
  · exact field_ofFields hdistinct (by simp) (told_text p.retentionPolicy) _

theorem Parameters.lossless : Lossless Parameters.check Parameters.check (Parameters.toValue false) := by
  intro v p hv h
  obtain ⟨hsound, hdefault⟩ := sound_of_check hv h
  refine ⟨written_model (by simp) ?_, (hsound.stands hdefault.stands).reads⟩
  simp [hsound.bucket.writable, (Reference.toldOr_optional p.bucketIDRef).writable,
    hsound.bucketSelector.writable, (told_text p.database).writable, hdefault.writable, hsound.org.writable,
    (Reference.toldOr_optional p.orgRef).writable, hsound.orgSelector.writable,
    (told_text p.retentionPolicy).writable]

/-- The address of a mapping in its observation. -/
def checkAddress : Value → Checked Value :=
  model "DBRPLinks" fun l => fieldOr l "self" "self_link" (.text "") textValue

theorem told_checkAddress {self : Value} (h : Told textValue self self) :
    Told checkAddress (.model false [("self", self)]) self := by
  refine told_model (by simp) (by simpa using h.writable) fun hd => ?_
  exact fieldOr_ofFields hd (by simp) (by simp) (h.or (.text ""))

theorem address_of_check {v self : Value} (hv : v.Timely) (h : checkAddress v = .valid self) :
    Told textValue self self := by
  obtain ⟨e, rfl, h⟩ := model_valid_iff.mp h
  exact lossless_textValue.fieldOr hv (told_textValue "") h

/-- An observation whose address is told by what is written of it. -/
def Observation.Sound (o : Observation) : Prop := Told textValue o.self o.self

theorem Observation.sound_of_check {v : Value} {o : Observation} (hv : v.Timely)
    (h : check v = .valid o) : o.Sound := by
  obtain ⟨e, rfl, h⟩ := model_valid_iff.mp h
  obtain ⟨self, hself, rfl⟩ := map_valid_iff.mp h
  rcases field_valid hv hself with habsent | ⟨v, hv, hread⟩
  · cases habsent; exact told_textValue ""
  · exact address_of_check hv hread

theorem Observation.Sound.told {o : Observation} (h : o.Sound) : Told check (o.toValue false) o := by
  have haddress : Told checkAddress (.model false [("self", o.self)]) o.self := told_checkAddress h
  refine told_object (by simp) (by simpa using haddress.written) fun hd => ?_
  exact valid_map (fieldOr_ofFields hd (by simp) (by simp) (haddress.or (.text "")))

theorem Observation.lossless :
    Lossless Observation.check Observation.check (Observation.toValue false) :=
  fun _ _ hv h => (Observation.sound_of_check hv h).told

end Mapping

end InfluxKeeper
