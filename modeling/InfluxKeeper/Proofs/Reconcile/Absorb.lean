import InfluxKeeper.Proofs.Reconcile.Steps

/-!
# What a record takes in

A record that absorbs the object found observes its id, fills its open parameters, and only then compares
itself with the object. Both halves are functions of the resource alone: what it becomes
(`resource_absorb`) and what is seen of the object (`seen_absorb`). `absorb_ok` says what an absorption that
succeeds has done; `look_ok` lifts it to the lookup.
-/

namespace InfluxKeeper

open Api Schema

/-! ## The id of an object -/

/-- The id of an object, the empty text if it has none. -/
def Value.ownId : Value → Value
  | .map entries => Entries.getOr entries "id" (.text "")
  | _ => .text ""

/-- The id that a check of an object's entry gives is the object's id. -/
theorem textValue_ownId {entries : Entries} {id : Value} (hp : entries.Plain)
    (h : (textValue (Entries.getOr entries "id" (.text ""))).under (.key "id") = .valid id) :
    ∃ s, (Value.map entries).ownId = .text s ∧ id = .text s := by
  obtain ⟨s, hs, rfl⟩ := map_valid_iff.mp (under_valid_iff.mp h)
  have hget : (Entries.getOr entries "id" (.text "")).Plain :=
    Value.plain_orElse hp.get (Value.plain_text "")
  exact ⟨s, Value.text_of_plain hget hs, rfl⟩

theorem Organization.ofAnswer_id {object : Value} {o : Observation} (hp : object.Plain)
    (h : Observation.ofAnswer object = .ok o) : ∃ s, object.ownId = .text s ∧ o.id = .text s := by
  unfold Observation.ofAnswer at h
  split at h
  · next entries =>
    obtain ⟨links, -, hfit⟩ := bind_ok_iff.mp h
    obtain ⟨f₃, updated, h₃, -, rfl⟩ := seq_valid_iff.mp (fit_ok_iff.mp hfit)
    obtain ⟨f₂, created, h₂, -, rfl⟩ := seq_valid_iff.mp h₃
    obtain ⟨f₁, status, h₁, -, rfl⟩ := seq_valid_iff.mp h₂
    obtain ⟨id, hid, rfl⟩ := map_valid_iff.mp h₁
    exact textValue_ownId hp hid
  · cases h

theorem Bucket.ofAnswer_id {object : Value} {o : Observation} (hp : object.Plain)
    (h : Observation.ofAnswer object = .ok o) : ∃ s, object.ownId = .text s ∧ o.id = .text s := by
  unfold Observation.ofAnswer at h
  split at h
  · next entries =>
    obtain ⟨items, -, hitems⟩ := bind_ok_iff.mp h
    obtain ⟨labels, -, hlabels⟩ := bind_ok_iff.mp hitems
    obtain ⟨links, -, hfit⟩ := bind_ok_iff.mp hlabels
    obtain ⟨f₃, type, h₃, -, rfl⟩ := seq_valid_iff.mp (fit_ok_iff.mp hfit)
    obtain ⟨f₂, updated, h₂, -, rfl⟩ := seq_valid_iff.mp h₃
    obtain ⟨f₁, created, h₁, -, rfl⟩ := seq_valid_iff.mp h₂
    obtain ⟨id, hid, rfl⟩ := map_valid_iff.mp h₁
    exact textValue_ownId hp hid
  · cases h

/-! ## Absorbing an object -/

/-- What a resource becomes when its record takes in an object. -/
def Resource.absorb (object : Value) : Resource → Resource
  | .organization p o =>
    match Organization.Observation.ofAnswer object with
    | .error _ => .organization p o
    | .ok o' => .organization p o'
  | .bucket p o =>
    match Bucket.Observation.ofAnswer object with
    | .error _ => .bucket p o
    | .ok o' => .bucket (Bucket.lateInitialize p object).2 o'
  | .mapping p o =>
    match Mapping.observedLink object with
    | .error _ => .mapping p o
    | .ok link => .mapping (Mapping.lateInitialize p object).2 ⟨link⟩

/-- What is seen of an object when a record takes it in. -/
def Resource.seenIn (object : Value) : Resource → Except Fault Seen
  | .organization p _ => do
    let _ ← Organization.Observation.ofAnswer object
    let upToDate ← Organization.upToDate p object
    return ⟨true, upToDate, false⟩
  | .bucket p _ => do
    let _ ← Bucket.Observation.ofAnswer object
    let changed ← (Bucket.lateInitialize p object).1
    let upToDate ← Bucket.upToDate (Bucket.lateInitialize p object).2 object
    return ⟨true, upToDate, changed⟩
  | .mapping p _ => do
    let _ ← Mapping.observedLink object
    let changed ← (Mapping.lateInitialize p object).1
    let upToDate ← Mapping.upToDate (Mapping.lateInitialize p object).2 object
    return ⟨true, upToDate, changed⟩

namespace Record

theorem resource_absorb (now : Timestamp) (object : Value) (r : Record) :
    (r.absorb now object).2.resource = r.resource.absorb object := by
  unfold absorb Resource.absorb
  cases hr : r.resource with
  | organization p o =>
    dsimp only
    cases Organization.Observation.ofAnswer object with
    | error _ => exact hr
    | ok _ => rfl
  | bucket p o =>
    dsimp only
    cases Bucket.Observation.ofAnswer object with
    | error _ => exact hr
    | ok _ => rfl
  | mapping p o =>
    dsimp only
    cases Mapping.observedLink object with
    | error _ => exact hr
    | ok _ => rfl

/-- A record that takes in an object keeps its kind. -/
@[simp] theorem kind_absorb (now : Timestamp) (object : Value) (r : Record) :
    (r.absorb now object).2.kind = r.kind := by
  unfold kind
  rw [resource_absorb]
  unfold Resource.absorb
  cases r.resource <;> dsimp only <;> split <;> rfl

theorem seen_absorb (now : Timestamp) (object : Value) (r : Record) :
    (r.absorb now object).1 = r.resource.seenIn object := by
  unfold absorb Resource.seenIn
  cases r.resource with
  | organization p o =>
    dsimp only
    cases Organization.Observation.ofAnswer object <;> rfl
  | bucket p o =>
    dsimp only
    cases Bucket.Observation.ofAnswer object <;> rfl
  | mapping p o =>
    dsimp only
    cases Mapping.observedLink object <;> rfl

/-- Whether an object is as a record wants it, once the record has filled its open parameters from it. -/
def upToDate (object : Value) (r : Record) : Except Fault Bool :=
  match r.resource with
  | .organization p _ => Organization.upToDate p object
  | .bucket p _ => Bucket.upToDate (Bucket.lateInitialize p object).2 object
  | .mapping p _ => Mapping.upToDate (Mapping.lateInitialize p object).2 object

/-- An absorption that succeeds sees the resource, compares it with the parameters filled from it, and
observes the object's own id. -/
theorem absorb_ok {now : Timestamp} {object : Value} {r r' : Record} {seen : Seen}
    (hp : object.Plain) (h : r.absorb now object = (.ok seen, r')) :
    seen.present = true ∧ r.upToDate object = .ok seen.upToDate ∧
      (r.kind ≠ .mapping → ∃ s, object.ownId = .text s ∧ r'.observedId = .text s) := by
  have hseen : r.resource.seenIn object = .ok seen := by rw [← seen_absorb now, h]
  have hres : r'.resource = r.resource.absorb object := by rw [← resource_absorb now, h]
  unfold Resource.seenIn at hseen
  unfold upToDate kind observedId
  rw [hres]
  unfold Resource.absorb
  cases hr : r.resource with
  | organization p o₀ =>
    rw [hr] at hseen
    obtain ⟨o, ho, hseen⟩ := bind_ok_iff.mp hseen
    obtain ⟨b, hb, hseen⟩ := bind_ok_iff.mp hseen
    cases hseen
    dsimp only
    rw [ho]
    exact ⟨rfl, hb, fun _ => Organization.ofAnswer_id hp ho⟩
  | bucket p o₀ =>
    rw [hr] at hseen
    obtain ⟨o, ho, hseen⟩ := bind_ok_iff.mp hseen
    obtain ⟨changed, -, hseen⟩ := bind_ok_iff.mp hseen
    obtain ⟨b, hb, hseen⟩ := bind_ok_iff.mp hseen
    cases hseen
    dsimp only
    rw [ho]
    exact ⟨rfl, hb, fun _ => Bucket.ofAnswer_id hp ho⟩
  | mapping p o₀ =>
    rw [hr] at hseen
    obtain ⟨link, -, hseen⟩ := bind_ok_iff.mp hseen
    obtain ⟨changed, -, hseen⟩ := bind_ok_iff.mp hseen
    obtain ⟨b, hb, hseen⟩ := bind_ok_iff.mp hseen
    cases hseen
    exact ⟨rfl, hb, fun hk => absurd rfl hk⟩

end Record

namespace Work

variable {c : Client}

/-- A lookup that succeeds has found nothing, or an object that the record absorbed. -/
theorem look_ok {w w' : Work} {seen : Seen} (h : w.look c = (.ok seen, w')) :
    (w.finding c = .ok none ∧ seen = .absent ∧ w' = w.asked c) ∨
    ∃ object r, w.finding c = .ok (some object) ∧
      w.record.absorb (w.asked c).wire.now object = (.ok seen, r) ∧
      w' = (w.asked c).withRecord r := by
  rw [look_eq] at h
  split at h
  · cases h
  · next hf => cases h; exact Or.inl ⟨hf, rfl, rfl⟩
  · next object hf =>
    obtain ⟨hseen, rfl⟩ := Prod.mk.injEq .. ▸ h
    exact Or.inr ⟨object, _, hf, Prod.ext (mapError_ok_iff.mp hseen) rfl, rfl⟩

end Work

end InfluxKeeper
