import InfluxKeeper.Proofs.Record.Parts
import InfluxKeeper.Record.Document

/-!
# Records are written losslessly

> `Record.lossless`: what a timely document reads as, as a record, is written as a document that reads as the
> same record, at any time.

A record is told by its parts: its metadata, its conditions, and the two halves of its resource
(`Resource.Tells`). A part that is absent is its default, which is what an empty map reads as, so every half was
read of some timely value (`checkSpec_valid`, `checkStatus_valid`). The maps that the parts are written in are read
back for each kind in `Resource.check_of_readAs`, also where a half is read as another one (`Resource.ReadAs`).
-/

namespace InfluxKeeper

open Schema

/-! ## The maps of a resource -/

namespace Schema

variable {α : Type} {check : Value → Checked α}

theorem timely_nil : (Value.map []).Timely := .map (by simp)

/-- A field was read of a value, if its default is what an empty map reads as. -/
theorem field_reads {e : Entries} {first second : String} {absent : Checked α} {a : α}
    (he : (Value.map e).Timely) (hd : absent = .valid a → check (.map []) = .valid a)
    (h : field e first second absent check = .valid a) : ∃ v, v.Timely ∧ check v = .valid a := by
  rcases field_valid he h with habsent | hread
  · exact ⟨_, timely_nil, hd habsent⟩
  · exact hread

end Schema

section Maps

variable {α : Type} {check : Value → Checked α} {e : Entries} {title : String}

theorem Resource.checkSpec_valid {absent whole : Checked α} {p : α} (he : (Value.map e).Timely)
    (h : checkSpec title absent check whole e = .valid p)
    (hw : whole = .valid p → check (.map []) = .valid p)
    (ha : absent = .valid p → check (.map []) = .valid p) : ∃ v, v.Timely ∧ check v = .valid p := by
  rcases field_valid he h with hwhole | ⟨v, hv, hmodel⟩
  · exact ⟨_, timely_nil, hw hwhole⟩
  · obtain ⟨s, rfl, hs⟩ := model_valid_iff.mp hmodel
    exact field_reads hv ha hs

theorem Resource.checkStatus_valid {now : Timestamp} {nothing : α} {status : List Condition × α}
    (he : (Value.map e).Timely) (h : checkStatus title now nothing check e = .valid status)
    (hn : check (.map []) = .valid nothing) :
    (∃ v, v.Timely ∧ list (Condition.check now) v = .valid status.1) ∧
      ∃ v, v.Timely ∧ check v = .valid status.2 := by
  have hempty : ∃ v : Value, v.Timely ∧ list (Condition.check now) v = .valid [] :=
    ⟨.list [], .list (by simp), rfl⟩
  rcases field_valid he h with habsent | ⟨v, hv, hmodel⟩
  · cases habsent; exact ⟨hempty, _, timely_nil, hn⟩
  · obtain ⟨s, rfl, hs⟩ := model_valid_iff.mp hmodel
    obtain ⟨f, o, hf, ho, rfl⟩ := seq_valid_iff.mp hs
    obtain ⟨conditions, hc, rfl⟩ := map_valid_iff.mp hf
    refine ⟨?_, field_reads hv (fun habsent => by cases habsent; exact hn) ho⟩
    rcases field_valid hv hc with habsent | hread
    · cases habsent; exact hempty
    · exact hread

theorem stands_spec {v : Value} {p : α} (h : Stands check v p) (absent : Checked α) :
    Stands (model title fun s => field s "forProvider" "for_provider" absent check)
      (.object [("forProvider", v)]) p := by
  exact stands_object (by simp) (by simpa using h.present) (by simpa using h.held) fun hd =>
    h.field hd (by simp) absent

theorem stands_status {now : Timestamp} {conditions : List Condition} {v : Value} {o : α}
    (hc : Told (list (Condition.check now)) (.list (conditions.map (·.toValue))) conditions)
    (ho : Stands check v o) (nothing : α) :
    Stands (model title fun s => Prod.mk
        <$> fieldOr s "conditions" "conditions" [] (list (Condition.check now))
        <*> fieldOr s "atProvider" "at_provider" nothing check)
      (.object [("conditions", .list (conditions.map (·.toValue))), ("atProvider", v)])
      (conditions, o) := by
  refine stands_object (by simp) ?_ ?_ fun hd => valid_seq (valid_map ?_) ?_
  · simpa using ⟨hc.stands.present, ho.present⟩
  · simpa using ⟨hc.stands.held, ho.held⟩
  · exact fieldOr_ofFields hd (by simp) (by simp) (hc.or [])
  · exact StandsOr.fieldOr (Or.inr ho) hd (by simp) (by simp)

end Maps

/-! ## Resources -/

namespace Resource

/-- A resource whose two halves are told by what is written of them. -/
def Tells : Resource → Prop
  | organization p o => Told Organization.Parameters.check (p.toValue false) p ∧
      Told Organization.Observation.check (o.toValue false) o
  | bucket p o => Told Bucket.Parameters.check (p.toValue false) p ∧
      Told Bucket.Observation.check (o.toValue false) o
  | mapping p o => Told Mapping.Parameters.check (p.toValue false) p ∧
      Told Mapping.Observation.check (o.toValue false) o

theorem Tells.written {r : Resource} (h : r.Tells) :
    (r.desiredValue false).Written ∧ (r.observedValue false).Written := by
  cases r with
  | organization p o => exact ⟨h.1.written, h.2.written⟩
  | bucket p o => exact ⟨h.1.written, h.2.written⟩
  | mapping p o => exact ⟨h.1.written, h.2.written⟩

/-- What is read is told, and the conditions beside it were read of some value. -/
theorem tells_of_check {kind : Kind} {now : Timestamp} {e : Entries} {status : List Condition × Resource}
    (he : (Value.map e).Timely) (h : check kind now e = .valid status) :
    status.2.kind = kind ∧ status.2.Tells ∧
      ∃ v, v.Timely ∧ list (Condition.check now) v = .valid status.1 := by
  cases kind with
  | organization =>
    obtain ⟨f, s, hf, hs, rfl⟩ := seq_valid_iff.mp h
    obtain ⟨p, hp, rfl⟩ := map_valid_iff.mp hf
    obtain ⟨hconditions, o, ho, hobserved⟩ := checkStatus_valid he hs rfl
    obtain ⟨v, hv, hdesired⟩ := checkSpec_valid he hp (by rintro ⟨⟩; rfl) (by rintro ⟨⟩; rfl)
    exact ⟨rfl, ⟨Organization.Parameters.lossless v p hv hdesired,
      Organization.Observation.lossless o s.2 ho hobserved⟩, hconditions⟩
  | bucket =>
    obtain ⟨f, s, hf, hs, rfl⟩ := seq_valid_iff.mp h
    obtain ⟨p, hp, rfl⟩ := map_valid_iff.mp hf
    obtain ⟨hconditions, o, ho, hobserved⟩ := checkStatus_valid he hs rfl
    obtain ⟨v, hv, hdesired⟩ := checkSpec_valid he hp (by rintro ⟨⟩; rfl) (by rintro ⟨⟩; rfl)
    exact ⟨rfl, ⟨Bucket.Parameters.lossless v p hv hdesired,
      Bucket.Observation.lossless o s.2 ho hobserved⟩, hconditions⟩
  | mapping =>
    obtain ⟨f, s, hf, hs, rfl⟩ := seq_valid_iff.mp h
    obtain ⟨p, hp, rfl⟩ := map_valid_iff.mp hf
    obtain ⟨hconditions, o, ho, hobserved⟩ := checkStatus_valid he hs rfl
    obtain ⟨v, hv, hdesired⟩ := checkSpec_valid he hp nofun nofun
    exact ⟨rfl, ⟨Mapping.Parameters.lossless v p hv hdesired,
      Mapping.Observation.lossless o s.2 ho hobserved⟩, hconditions⟩

/-- A resource whose two halves are read, where they stand in a document, as those of another resource. -/
def ReadAs : Resource → Resource → Prop
  | organization p o, organization p' o' => Stands Organization.Parameters.check (p.toValue false) p' ∧
      Stands Organization.Observation.check (o.toValue false) o'
  | bucket p o, bucket p' o' => Stands Bucket.Parameters.check (p.toValue false) p' ∧
      Stands Bucket.Observation.check (o.toValue false) o'
  | mapping p o, mapping p' o' => Stands Mapping.Parameters.check (p.toValue false) p' ∧
      Stands Mapping.Observation.check (o.toValue false) o'
  | _, _ => False

theorem Tells.readAs {r : Resource} (h : r.Tells) : r.ReadAs r := by
  cases r with
  | organization p o => exact ⟨h.1.stands, h.2.stands⟩
  | bucket p o => exact ⟨h.1.stands, h.2.stands⟩
  | mapping p o => exact ⟨h.1.stands, h.2.stands⟩

section ReadAs

variable {r r' : Resource} {now : Timestamp} {conditions : List Condition}

theorem ReadAs.held (h : r.ReadAs r') : (r.desiredValue false).Held ∧ (r.observedValue false).Held := by
  cases r with
  | organization p o =>
    cases r' with
    | organization p' o' => exact ⟨h.1.held, h.2.held⟩
    | _ => exact h.elim
  | bucket p o =>
    cases r' with
    | bucket p' o' => exact ⟨h.1.held, h.2.held⟩
    | _ => exact h.elim
  | mapping p o =>
    cases r' with
    | mapping p' o' => exact ⟨h.1.held, h.2.held⟩
    | _ => exact h.elim

/-- What stands among the fields of a document is read. -/
theorem check_of_readAs {fields : List (String × Value)} (hd : (fields.map (·.1)).Nodup)
    (hspec : ("spec", Value.object [("forProvider", r.desiredValue false)]) ∈ fields)
    (hstatus : ("status", Value.object [("conditions", .list (conditions.map (·.toValue))),
      ("atProvider", r.observedValue false)]) ∈ fields)
    (hc : Told (list (Condition.check now)) (.list (conditions.map (·.toValue))) conditions)
    (h : r.ReadAs r') : check r.kind now (Entries.ofFields fields) = .valid (conditions, r') := by
  cases r with
  | organization p o =>
    cases r' with
    | organization p' o' =>
      exact valid_seq (valid_map ((stands_spec h.1 _).field hd hspec _))
        (StandsOr.fieldOr (Or.inr (stands_status hc h.2 _)) hd hstatus (Or.inl rfl))
    | _ => exact h.elim
  | bucket p o =>
    cases r' with
    | bucket p' o' =>
      exact valid_seq (valid_map ((stands_spec h.1 _).field hd hspec _))
        (StandsOr.fieldOr (Or.inr (stands_status hc h.2 _)) hd hstatus (Or.inl rfl))
    | _ => exact h.elim
  | mapping p o =>
    cases r' with
    | mapping p' o' =>
      exact valid_seq (valid_map ((stands_spec h.1 _).field hd hspec _))
        (StandsOr.fieldOr (Or.inr (stands_status hc h.2 _)) hd hstatus (Or.inl rfl))
    | _ => exact h.elim

end ReadAs

end Resource

/-! ## Records -/

namespace Record

/-- The fields of a record as a document. -/
def fields (r : Record) : List (String × Value) := [
  ("apiVersion", .text r.apiVersion),
  ("metadata", r.metadata.toValue),
  ("kind", .text r.kind.name),
  ("spec", .object [("forProvider", r.resource.desiredValue false)]),
  ("status", .object [
    ("conditions", .list (r.conditions.map (·.toValue))),
    ("atProvider", r.resource.observedValue false)])]

theorem toValue_eq (r : Record) : r.toValue = .object r.fields := rfl

/-- A document that is read as a record says its kind. -/
theorem checkKind_of_check {now : Timestamp} {e : Entries} {r : Record} (h : check now e = .valid r) :
    ∃ kind, checkKind kind now e = .valid r := by
  unfold check at h
  split at h
  · cases h
  · split at h
    · split at h
      · next kind _ => exact ⟨kind, under_valid_iff.mp h⟩
      · cases h
    · cases h

/-- A record stands in a document, if its parts do. -/
theorem stands {r : Record} {resource : Resource} (now : Timestamp) (hm : r.metadata.Sound)
    (hc : Told (list (Condition.check now)) (.list (r.conditions.map (·.toValue))) r.conditions)
    (hr : r.resource.ReadAs resource) : Stands (model title (check now)) r.toValue { r with resource } := by
  have hmetadata := hm.told
  rw [toValue_eq]
  refine stands_object (by simp [fields]) ?_ ?_ fun hd => ?_
  · intro f hf
    simp only [fields, List.mem_cons, List.not_mem_nil, or_false] at hf
    rcases hf with rfl | rfl | rfl | rfl | rfl <;> rfl
  · have hspec : (Value.object [("forProvider", r.resource.desiredValue false)]).Held :=
      Value.held_object (by simpa using hr.held.1)
    have hstatus : (Value.object [("conditions", .list (r.conditions.map (·.toValue))),
        ("atProvider", r.resource.observedValue false)]).Held :=
      Value.held_object (by simpa using ⟨hc.written.held, hr.held.2⟩)
    simpa [fields] using ⟨(told_text r.apiVersion).written.held, hmetadata.written.held,
      (told_text r.kind.name).written.held, hspec, hstatus⟩
  · have hkind : Entries.get? (Entries.ofFields r.fields) "kind" = some (.text r.kind.name) := by
      have hmem : ("kind", Value.text r.kind.name) ∈ r.fields := by
        simp [fields]
      rw [Entries.get?_ofFields hd hmem]
      rfl
    unfold check
    rw [hkind]
    dsimp only
    rw [Kind.ofName?_name]
    refine under_valid_iff.mpr ?_
    unfold checkKind
    refine seq_valid_iff.mpr ⟨_, (r.conditions, resource), valid_seq (valid_map ?_) ?_, ?_, rfl⟩
    · exact fieldOr_ofFields hd (by simp [fields]) (by simp [fields]) ((told_text r.apiVersion).or _)
    · exact field_ofFields hd (by simp [fields]) hmetadata _
    · exact Resource.check_of_readAs hd (by simp [fields]) (by simp [fields]) hc hr

/-- The parts of a record that was read. -/
theorem parts_of_check {now : Timestamp} (hn : now.Real) {v : Value} {r : Record} (hv : v.Timely)
    (h : model title (check now) v = .valid r) : r.metadata.Sound ∧
      (∀ c ∈ r.conditions, c.lastTransitionTime.Real) ∧ r.resource.Tells := by
  obtain ⟨e, rfl, h⟩ := model_valid_iff.mp h
  obtain ⟨kind, hkind⟩ := checkKind_of_check h
  obtain ⟨f₂, status, h₂, hresource, rfl⟩ := seq_valid_iff.mp hkind
  obtain ⟨f₁, metadata, h₁, hmetadata, rfl⟩ := seq_valid_iff.mp h₂
  obtain ⟨version, -, rfl⟩ := map_valid_iff.mp h₁
  obtain ⟨-, htells, v, hv', hconditions⟩ := Resource.tells_of_check hv hresource
  refine ⟨?_, fun c hc => ?_, htells⟩
  · rcases field_valid hv hmetadata with habsent | ⟨v, hv, hread⟩
    · cases habsent
    · exact Metadata.sound_of_check hv hread
  · obtain ⟨item, htimely, hread⟩ := mem_of_list_valid hv' hconditions c hc
    exact Condition.real_of_check hn htimely hread

/-- **Records are written losslessly.** -/
theorem lossless {now : Timestamp} (hn : now.Real) (now' : Timestamp) :
    Lossless (model title (check now)) (model title (check now')) toValue := by
  intro v r hv h
  obtain ⟨hmetadata, hconditions, htells⟩ := parts_of_check hn hv h
  have hconditions : Told (list (Condition.check now')) (.list (r.conditions.map (·.toValue))) r.conditions :=
    told_list fun c hc => Condition.told (hconditions c hc) now'
  refine ⟨?_, (stands now' hmetadata hconditions htells.readAs).reads⟩
  rw [toValue_eq]
  refine .object (by simp [fields]) ?_
  simp [fields, Value.Written.text, hmetadata.told.written, htells.written, hconditions.written,
    Value.Written.object]

end Record

end InfluxKeeper
