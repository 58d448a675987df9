import InfluxKeeper.Proofs.Fleet.Run
import InfluxKeeper.Proofs.Reconcile.Verdict

/-!
# What identifies a record

The metadata of a record say which resource of the server is its own. A visit writes to one place of them, the
annotation that holds the external name, and it has two writers.

> `identity_visit`: a visit keeps the identity of its record (`KeepsIdentity`): what is found by name takes its
> own name if it has no external name, and nothing else is written. A mapping takes an id only from the answer
> to its own creation (`Adopts`). What was observed changes only if an object was found.

Of the steps of a pass, preparing it names by default (`keepsIdentity_prepare`), a lookup leaves the metadata
(`metadata_look`), and what follows leaves them too unless a creation is answered by an id (`metadata_settle`).
-/

namespace InfluxKeeper

open Api

/-- What was observed of a resource, by its kind. -/
inductive Observed
  | organization (o : Organization.Observation)
  | bucket (o : Bucket.Observation)
  | mapping (o : Mapping.Observation)
  deriving DecidableEq

/-- What was observed of a resource. -/
def Resource.observed : Resource → Observed
  | organization _ o => .organization o
  | bucket _ o => .bucket o
  | mapping _ o => .mapping o

/-! ## Metadata -/

/-- What is under other keys stays where a value is set. -/
theorem filter_setKey {α : Type} (key : String) (value : α) (entries : List (String × α)) :
    (setKey key value entries).filter (·.1 ≠ key) = entries.filter (·.1 ≠ key) := by
  induction entries with
  | nil => simp [setKey]
  | cons e rest ih =>
    unfold setKey
    by_cases h : e.1 = key
    · simp [h]
    · rw [if_neg h, List.filter_cons_of_pos (by simpa using h), List.filter_cons_of_pos (by simpa using h),
        ih]

/-- A value set twice is set the second time. -/
theorem setKey_setKey {α : Type} (key : String) (value value' : α) (entries : List (String × α)) :
    setKey key value' (setKey key value entries) = setKey key value' entries := by
  induction entries with
  | nil => simp [setKey]
  | cons e rest ih =>
    by_cases h : e.1 = key
    · simp [setKey, h]
    · simp [setKey, h, ih]

namespace Metadata

/-- The annotation that holds the external name, if there is one. -/
def external? (m : Metadata) : Option Value := m.annotations.lookup externalNameKey

/-- The annotations but for the external name. -/
def remarks (m : Metadata) : List (String × Value) :=
  m.annotations.filter (·.1 ≠ externalNameKey)

/-- Metadata that differ in the external name at most. -/
structure Keeps (m m' : Metadata) : Prop where
  name : m'.name = m.name
  labels : m'.labels = m.labels
  remarks : m'.remarks = m.remarks
  deletionTimestamp : m'.deletionTimestamp = m.deletionTimestamp

theorem Keeps.refl (m : Metadata) : m.Keeps m := ⟨rfl, rfl, rfl, rfl⟩

theorem Keeps.trans {m m' m'' : Metadata} (h : m.Keeps m') (h' : m'.Keeps m'') : m.Keeps m'' :=
  ⟨h'.name.trans h.name, h'.labels.trans h.labels, h'.remarks.trans h.remarks,
    h'.deletionTimestamp.trans h.deletionTimestamp⟩

theorem keeps_setExternalName (m : Metadata) (name : Value) : m.Keeps (m.setExternalName name) :=
  ⟨rfl, rfl, filter_setKey externalNameKey name m.annotations, rfl⟩

@[simp] theorem external?_setExternalName (m : Metadata) (name : Value) :
    (m.setExternalName name).external? = some name :=
  lookup_setKey_self externalNameKey name m.annotations

@[simp] theorem setExternalName_setExternalName (m : Metadata) (name name' : Value) :
    (m.setExternalName name).setExternalName name' = m.setExternalName name' := by
  unfold setExternalName
  rw [setKey_setKey]

/-- The external name is that of the annotation. -/
theorem externalName_congr {m m' : Metadata} (h : m'.external? = m.external?) :
    m'.externalName = m.externalName := by
  unfold externalName
  unfold external? at h
  rw [h]

end Metadata

/-! ## Keeping an identity -/

namespace Record

/-- A record keeps its identity: its metadata but for the external name, and that too, unless it is found by
name and had none; then it may be its own name. -/
structure KeepsIdentity (r r' : Record) : Prop where
  kind : r'.kind = r.kind
  metadata : r.metadata.Keeps r'.metadata
  named : r.kind.foundByName = true → r'.metadata.external? = r.metadata.external? ∨
    r.externalName.truthy = false ∧ r'.metadata.external? = some (.text r.name)

theorem KeepsIdentity.of_metadata {r r' : Record} (hk : r'.kind = r.kind)
    (hm : r'.metadata = r.metadata) : r.KeepsIdentity r' :=
  ⟨hk, hm ▸ .refl r.metadata, fun _ => Or.inl (by rw [hm])⟩

theorem KeepsIdentity.refl (r : Record) : r.KeepsIdentity r := .of_metadata rfl rfl

theorem KeepsIdentity.trans {r r' r'' : Record} (h : r.KeepsIdentity r') (h' : r'.KeepsIdentity r'') :
    r.KeepsIdentity r'' := by
  refine ⟨h'.kind.trans h.kind, h.metadata.trans h'.metadata, fun hf => ?_⟩
  have hname : r'.name = r.name := h.metadata.name
  rcases h'.named (h.kind ▸ hf) with hsame' | ⟨hopen', hnamed'⟩
  · rw [hsame']
    exact h.named hf
  · rw [hnamed', hname]
    rcases h.named hf with hsame | ⟨hopen, -⟩
    · have hopen := congrArg Value.truthy (Metadata.externalName_congr hsame)
      exact Or.inr ⟨hopen.symm.trans hopen', rfl⟩
    · exact Or.inr ⟨hopen, rfl⟩

theorem keepsIdentity_nameByDefault (r : Record) : r.KeepsIdentity r.nameByDefault := by
  unfold nameByDefault
  split
  · next h =>
    have hopen : r.externalName.truthy = false := by simpa using (Bool.and_eq_true_iff.mp h).2
    exact ⟨rfl, r.metadata.keeps_setExternalName _,
      fun _ => Or.inr ⟨hopen, r.metadata.external?_setExternalName _⟩⟩
  · exact .refl r

/-- What is not found by name is not named by default. -/
theorem nameByDefault_of_mapping {r : Record} (hk : r.kind = .mapping) : r.nameByDefault = r := by
  unfold nameByDefault
  rw [hk]
  rfl

@[simp] theorem observed_resolve (n : Resolver) (r : Record) :
    (r.resolve n).resource.observed = r.resource.observed := by
  unfold resolve
  cases hr : r.resource with
  | organization p o => rw [hr]
  | bucket p o => rfl
  | mapping p o => rfl

end Record

namespace Work

variable {s : Setup} {c : Client} {resolver : Option Resolver}

/-! ## The steps of a pass -/

theorem keepsIdentity_prepare (w : Work) (resolver : Option Resolver) :
    w.record.KeepsIdentity (w.prepare resolver).record := by
  have hprepared : w.record.nameByDefault.KeepsIdentity (w.prepare resolver).record := by
    refine .of_metadata ?_ (w.metadata_prepare resolver)
    rw [kind_prepare, Record.kind_nameByDefault]
  exact w.record.keepsIdentity_nameByDefault.trans hprepared

theorem keepsIdentity_looked (c : Client) (resolver : Option Resolver) (w : Work) :
    w.record.KeepsIdentity (w.looked c resolver).record :=
  (w.keepsIdentity_prepare resolver).trans
    (.of_metadata (kind_look c (w.prepare resolver)) (metadata_look c (w.prepare resolver)))

theorem metadata_looked_of_mapping {w : Work} (hk : w.record.kind = .mapping) (c : Client)
    (resolver : Option Resolver) : (w.looked c resolver).record.metadata = w.record.metadata := by
  rw [looked, metadata_look, metadata_prepare, Record.nameByDefault_of_mapping hk]

theorem observed_prepare (w : Work) (resolver : Option Resolver) :
    (w.prepare resolver).record.resource.observed = w.record.resource.observed := by
  rw [← Record.resource_nameByDefault w.record, record_prepare]
  cases resolver with
  | none => rfl
  | some n => exact Record.observed_resolve n _

/-- A lookup observes something only if it finds an object. -/
theorem observed_looked (c : Client) (resolver : Option Resolver) (w : Work) :
    (w.looked c resolver).record.resource.observed = w.record.resource.observed ∨
      ∃ object, (w.prepare resolver).finding c = .ok (some object) := by
  rw [← observed_prepare w resolver]
  unfold looked
  rw [look_eq]
  split
  · rw [record_asked]; exact Or.inl rfl
  · rw [record_asked]; exact Or.inl rfl
  · next object hf => exact Or.inr ⟨object, hf⟩

/-- A mutation leaves the metadata, unless it creates a mapping and the answer tells an id. -/
theorem metadata_mutate (c : Client) (m : Mutation) (w : Work) :
    (w.mutate c m).2.record.metadata = w.record.metadata ∨
      m = .create ∧ w.record.kind = .mapping ∧ ∃ id, w.next.TellsId id ∧
        (w.mutate c m).2.record.metadata = w.record.metadata.setExternalName id := by
  rw [mutate_eq]
  split
  · exact Or.inl rfl
  · next r' hr =>
    rcases Record.afterMutation_ok hr with rfl | ⟨_, _, rfl, hk, -⟩
    · exact Or.inl rfl
    · obtain ⟨id, htold, rfl⟩ := (Record.created_iff hk r' w.next).mp hr
      exact Or.inr ⟨rfl, hk, id, htold, rfl⟩

theorem metadata_settle (c : Client) (seen : Seen) (w : Work) :
    (w.settle c seen).2.record.metadata = w.record.metadata ∨
      plan? w.record.deleting seen = some .create ∧ w.record.kind = .mapping ∧
        ∃ id, w.next.TellsId id ∧
          (w.settle c seen).2.record.metadata = w.record.metadata.setExternalName id := by
  unfold settle
  dsimp only
  rw [record_setConditions, Record.deleting_setConditions]
  split
  · exact Or.inl rfl
  · next m hplan =>
    -- what follows the mutation sets conditions only
    have hm := metadata_mutate c m (w.setConditions (readiness w.record.deleting seen))
    split <;> next hmut =>
      rw [hmut] at hm
      rcases hm with hsame | ⟨rfl, hk, htold⟩
      · exact Or.inl hsame
      · exact Or.inr ⟨hplan, hk, htold⟩

/-! ## A reconcile -/

/-- A reconcile at which a mapping takes an id: it is not marked for deletion, nothing was found for it, and the
request that creates it was sent last and answered by the id. -/
structure Adopts (s : Setup) (resolver : Option Resolver) (w : Work) (id : Value) : Prop where
  handled : w.record.kind ∈ s.kinds
  mapping : w.record.kind = .mapping
  unmarked : w.record.deleting = false
  absent : (w.prepare resolver).finding s.client = .ok none
  created : ∃ before, (w.reconcile s resolver).2.wire.sent =
      before ++ [(w.prepare resolver).record.mutationRequest s.client .create] ∧
    (w.wire.script before.length).answer.TellsId id

/-- What is planned to be created was not found. -/
theorem finding_of_create {w : Work} (h : w.planned? c resolver = some .create) :
    w.record.deleting = false ∧ (w.prepare resolver).finding c = .ok none := by
  unfold planned? at h
  split at h
  · next seen hseen =>
    obtain ⟨hunmarked, habsent⟩ := (plan_eq_some_iff _ _ _).mp h
    rcases look_ok (Prod.fst_eq_iff.mp hseen) with ⟨hf, -⟩ | ⟨object, r, hf, ha, -⟩
    · exact ⟨hunmarked, hf⟩
    · rw [(Record.absorb_ok (finding_plain hf) ha).1] at habsent
      cases habsent
  · cases h

theorem adopts_of_planned {w : Work} {id : Value} (hk : w.record.kind ∈ s.kinds)
    (hm : w.record.kind = .mapping) (hplan : w.planned? s.client resolver = some .create)
    (htold : (w.looked s.client resolver).next.TellsId id) : w.Adopts s resolver id := by
  obtain ⟨hunmarked, habsent⟩ := finding_of_create hplan
  refine ⟨hk, hm, hunmarked, habsent, (w.looked s.client resolver).wire.sent, ?_, ?_⟩
  · rw [← looked_of_create hplan]
    exact sent_of_planned hk hplan
  · unfold next at htold
    rw [script_looked] at htold
    exact htold

/-- A reconcile leaves the metadata of a record as its lookup did, unless the record adopts an id. -/
theorem metadata_reconcile {w : Work} (hk : w.record.kind ∈ s.kinds) (resolver : Option Resolver) :
    (w.reconcile s resolver).2.record.metadata = (w.looked s.client resolver).record.metadata ∨
      ∃ id, w.Adopts s resolver id ∧
        (w.reconcile s resolver).2.record.metadata = w.record.metadata.setExternalName id := by
  rw [reconcile_of_handled hk]
  unfold pass
  split
  · next hl => exact Or.inl (congrArg (·.2.record.metadata) hl).symm
  · next hl => exact Or.inl (congrArg (·.2.record.metadata) hl).symm
  · next seen w₁ hl =>
    obtain rfl : w.looked s.client resolver = w₁ := congrArg Prod.snd hl
    have hkind : (w.looked s.client resolver).record.kind = w.record.kind :=
      congrArg Prod.fst (w.card_looked s.client resolver)
    rcases metadata_settle s.client seen (w.looked s.client resolver) with hsame | ⟨hplan, hm, id, htold, hset⟩
    · exact Or.inl hsame
    · rw [hkind] at hm
      rw [deleting_looked, ← planned_of_look hl] at hplan
      rw [metadata_looked_of_mapping hm] at hset
      exact Or.inr ⟨id, adopts_of_planned hk hm hplan htold, hset⟩

/-! ## A visit -/

/-- What a visit may do to what identifies its record: it keeps it, a mapping's id aside, which is adopted. -/
structure Identifies (s : Setup) (resolver : Option Resolver) (looks : Bool) (w : Work) (r : Record) :
    Prop where
  keeps : w.record.KeepsIdentity r
  /-- The metadata of a mapping stay, unless it adopts an id at a reconcile. -/
  adopts : w.record.kind = .mapping → r.metadata = w.record.metadata ∨
    looks = false ∧ ∃ id, w.Adopts s resolver id ∧ r.metadata = w.record.metadata.setExternalName id
  /-- What was observed stays, unless an object was found. -/
  observes : r.resource.observed = w.record.resource.observed ∨
    w.record.kind ∈ s.kinds ∧ ∃ object, (w.prepare resolver).finding s.client = .ok (some object)

theorem Identifies.refl (s : Setup) (resolver : Option Resolver) (looks : Bool) (w : Work) :
    w.Identifies s resolver looks w.record :=
  ⟨.refl _, fun _ => Or.inl rfl, Or.inl rfl⟩

/-- A lookup of a record whose kind is handled does what a visit may do. -/
theorem identifies_looked {w : Work} (hk : w.record.kind ∈ s.kinds) (looks : Bool) :
    w.Identifies s resolver looks (w.looked s.client resolver).record where
  keeps := w.keepsIdentity_looked s.client resolver
  adopts hm := Or.inl (metadata_looked_of_mapping hm s.client resolver)
  observes := (w.observed_looked s.client resolver).imp id fun hfound => ⟨hk, hfound⟩

/-- So does a reconcile. -/
theorem identifies_reconcile {w : Work} (hk : w.record.kind ∈ s.kinds) :
    w.Identifies s resolver false (w.reconcile s resolver).2.record := by
  have hkind : (w.reconcile s resolver).2.record.kind = w.record.kind :=
    congrArg Prod.fst (w.card_reconcile s resolver)
  have hlooked : w.Identifies s resolver false (w.looked s.client resolver).record :=
    identifies_looked hk false
  have hobserved : (w.reconcile s resolver).2.record.resource.observed =
      (w.looked s.client resolver).record.resource.observed :=
    congrArg Resource.observed (resource_reconcile hk)
  rcases metadata_reconcile hk resolver with hsame | ⟨id, hadopts, hset⟩
  · exact {
      keeps := hlooked.keeps.trans (.of_metadata (hkind.trans hlooked.keeps.kind.symm) hsame)
      adopts := fun hm => (hlooked.adopts hm).imp hsame.trans fun h => ⟨rfl, hsame ▸ h.2⟩
      observes := hobserved ▸ hlooked.observes }
  · exact {
      keeps := ⟨hkind, hset ▸ w.record.metadata.keeps_setExternalName id, fun hf => by
        rw [hadopts.mapping] at hf; cases hf⟩
      adopts := fun _ => Or.inr ⟨rfl, id, hadopts, hset⟩
      observes := hobserved ▸ hlooked.observes }

/-- **A visit keeps the identity of its record**, whatever the answers, also if it ends in a fault. -/
theorem identity_visit (s : Setup) (resolver : Option Resolver) (looks : Bool) (w : Work) :
    w.Identifies s resolver looks (w.visit s resolver looks).record := by
  unfold visit
  by_cases hk : w.record.kind ∈ s.kinds
  · cases looks with
    | true =>
      unfold observe ifHandled
      rw [if_neg (not_not_intro hk)]
      exact identifies_looked hk true
    | false => exact identifies_reconcile hk
  · have hobserve : (w.observe s resolver).2 = w := by
      unfold observe ifHandled
      rw [if_pos hk]
    rw [hobserve, reconcile_of_unhandled hk, ite_self]
    exact .refl s resolver looks w

end Work

end InfluxKeeper
