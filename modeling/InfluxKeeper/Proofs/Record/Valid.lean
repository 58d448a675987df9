import InfluxKeeper.Proofs.Manifest.RoundTrip

/-!
# Valid records

A record is valid if the document that it is written as is read as the same record. A record that was read is valid,
but a record has fields that hold whatever they were set to, so not every record is.

> `valid_iff`: a record is valid exactly if its parts are sound, that is, if each is told by what is written of it.

Records are the same up to whether a mapping is the default one: a number that counts as a truth value is written
as the number, and read as the truth value, which is the same (`Value.same`).
-/

namespace InfluxKeeper

open Schema

/-- Parameters that are the same: equal, but for values that count as the same for the default. -/
structure Mapping.Parameters.Same (p q : Mapping.Parameters) : Prop where
  isDefault : p.isDefault.same q.isDefault = true
  others : p = { q with isDefault := p.isDefault }

namespace Resource

/-- Resources that are the same. -/
def Same : Resource → Resource → Prop
  | mapping p o, mapping q o' => p.Same q ∧ o = o'
  | r, s => r = s

/-- A resource whose halves are told by what is written of them, but for a default that counts as a truth
value. -/
def Sound : Resource → Prop
  | organization _ o => o.Sound
  | bucket p o => p.Sound ∧ o.Sound
  | mapping p o => p.Sound ∧ o.Sound

/-- What is the same as a resource that was read is sound. -/
theorem Tells.sound {r s : Resource} (h : r.Tells) (hs : r.Same s) : s.Sound := by
  cases r with
  | organization p o =>
    cases hs
    exact Organization.Observation.sound_of_check h.2.written.timely h.2.reads
  | bucket p o =>
    cases hs
    exact ⟨Bucket.Parameters.sound_of_check h.1.written.timely h.1.reads,
      Bucket.Observation.sound_of_check h.2.written.timely h.2.reads⟩
  | mapping p o =>
    cases s with
    | mapping q o' =>
      obtain ⟨⟨hdefault, hothers⟩, rfl⟩ := hs
      obtain ⟨hsound, htold⟩ := Mapping.Parameters.sound_of_check h.1.written.timely h.1.reads
      have hobserved := Mapping.Observation.sound_of_check h.2.written.timely h.2.reads
      rw [hothers] at hsound
      exact ⟨{ hsound with isDefault := Mapping.isOptionalTruth_of_same htold hdefault }, hobserved⟩
    | _ => cases hs

/-- A sound resource is read as the same. -/
theorem Sound.readAs {r : Resource} (h : r.Sound) : ∃ r', r.ReadAs r' ∧ r'.Same r := by
  cases r with
  | organization p o => exact ⟨.organization p o, ⟨p.told.stands, h.told.stands⟩, rfl⟩
  | bucket p o => exact ⟨.bucket p o, ⟨h.1.told.stands, h.2.told.stands⟩, rfl⟩
  | mapping p o =>
    obtain ⟨d, hd, hsame⟩ := Mapping.standsOr_checkDefault h.1.isDefault
    exact ⟨.mapping { p with isDefault := d } o, ⟨h.1.stands hd, h.2.told.stands⟩, ⟨hsame, rfl⟩, rfl⟩

end Resource

namespace Record

/-- Records that are the same. -/
structure Same (r s : Record) : Prop where
  resource : r.resource.Same s.resource
  others : r = { s with resource := r.resource }

/-- A record is valid: its dates and points in time are real, and the document that it is written as is read as the
same record, at any time. -/
structure Valid (r : Record) : Prop where
  timely : r.toValue.Timely
  reread : ∀ now : Timestamp, now.Real → ∃ r', Manifest.record now r.toValue = .ok r' ∧ r'.Same r

/-- A record whose parts are sound. -/
structure Sound (r : Record) : Prop where
  metadata : r.metadata.Sound
  conditions : ∀ c ∈ r.conditions, c.lastTransitionTime.Real
  resource : r.resource.Sound

theorem Valid.sound {r : Record} (h : r.Valid) : r.Sound := by
  have hn : (Timestamp.midnight ⟨2000, 1, 1⟩).Real :=
    Timestamp.real_midnight ⟨by decide, by decide, by decide⟩
  obtain ⟨r', hread, hsame⟩ := h.reread _ hn
  obtain ⟨hmetadata, hconditions, htells⟩ := parts_of_check hn h.timely (Manifest.record_ok_iff.mp hread)
  have hm : r'.metadata = r.metadata := by rw [hsame.others]
  have hc : r'.conditions = r.conditions := by rw [hsame.others]
  exact ⟨hm ▸ hmetadata, hc ▸ hconditions, htells.sound hsame.resource⟩

theorem Sound.valid {r : Record} (h : r.Sound) : r.Valid := by
  obtain ⟨resource, hreads, hsame⟩ := h.resource.readAs
  have hstands (now : Timestamp) :
      Stands (model title (check now)) r.toValue { r with resource } := by
    refine stands now h.metadata ?_ hreads
    exact told_list fun c hc => Condition.told (h.conditions c hc) now
  refine ⟨(hstands (.midnight ⟨2000, 1, 1⟩)).held.timely, fun now _ => ?_⟩
  exact ⟨_, Manifest.record_ok_iff.mpr (hstands now).reads, hsame, rfl⟩

/-- **A record is valid exactly if its parts are sound.** -/
theorem valid_iff {r : Record} : r.Valid ↔ r.Sound := ⟨Valid.sound, Sound.valid⟩

end Record

end InfluxKeeper
