import Mathlib.Data.List.Forall2
import InfluxKeeper.Proofs.Bucket.Rules
import InfluxKeeper.Proofs.Fleet.Run
import InfluxKeeper.Proofs.Reconcile.Absorb

/-!
# What a user wants is kept

A parameter that the user has set is the user's. `Keeps` says what may become of the parameters of a record:
what is set stays, rules stay in their places with their types and seconds, references and selectors stay, and
only a field that refers to another record may take a new value, namely what its own reference resolves to.

> `run_keeps`: over any run of a fleet, every record keeps what is set.

Three writers touch the parameters of a record: references are resolved before a lookup
(`keeps_resolve`), and what the lookup found fills what is open (`keeps_lateInitialize`); rules are filled
through a sorted view of them (`forall₂_fillRules`). Nothing after the lookup writes to them
(`resource_settle`). Each of them keeps what is set, `Keeps` composes, and so a visit keeps it (`keeps_visit`)
and a run does, by induction over its visits (`visits_keep`). A reference once there stays, so a resolved
value is still that of the record's own reference at the end of the run.
-/

namespace InfluxKeeper

open Api

/-- What references resolve to: an identity of the record of a kind and name, as a value. -/
abbrev Resolution := (kind name : String) → Identity → Value → Prop

/-- What a field that refers to a record may become: it stays, or it takes a value that its own reference
resolves to. -/
def Resolution.Allows (R : Resolution) (kind : String) (i : Identity) (reference : Option Reference)
    (before after : Value) : Prop :=
  after = before ∨ ∃ ref, reference = some ref ∧ R kind ref.name i after

variable {R R' : Resolution}

theorem Resolution.Allows.mono {kind : String} {i : Identity} {reference : Option Reference}
    {before after : Value} (hR : ∀ kind name i v, R kind name i v → R' kind name i v)
    (h : R.Allows kind i reference before after) : R'.Allows kind i reference before after := by
  rcases h with h | ⟨ref, href, h⟩
  · exact Or.inl h
  · exact Or.inr ⟨ref, href, hR _ _ _ _ h⟩

theorem Resolution.Allows.trans {kind : String} {i : Identity} {ref ref' : Option Reference}
    {a b c : Value} (h : R.Allows kind i ref a b) (h' : R.Allows kind i ref' b c)
    (stays : ∀ r, ref = some r → ref' = some r) : R.Allows kind i ref' a c := by
  rcases h' with rfl | h'
  · rcases h with h | ⟨r, href, h⟩
    · exact Or.inl h
    · exact Or.inr ⟨r, stays r href, h⟩
  · exact Or.inr h'

/-! ## Keeping parameters -/

/-- A rule keeps what is set of it. -/
structure Bucket.RetentionRule.Keeps (r r' : RetentionRule) : Prop where
  type : r'.type = r.type
  everySeconds : r'.everySeconds = r.everySeconds
  shard : r.shardGroupDurationSeconds ≠ none →
    r'.shardGroupDurationSeconds = r.shardGroupDurationSeconds

/-- The parameters of a bucket keep what is set of them. -/
structure Bucket.Parameters.Keeps (R : Resolution) (p p' : Parameters) : Prop where
  description : p.description.isNull = false → p'.description = p.description
  rp : p.rp.isNull = false → p'.rp = p.rp
  schemaType : p.schemaType.truthy = true → p'.schemaType = p.schemaType
  rules : List.Forall₂ RetentionRule.Keeps p.retentionRules p'.retentionRules
  orgID : R.Allows Kind.organization.name .id p'.orgIDRef p.orgID p'.orgID
  orgIDRef : ∀ ref, p.orgIDRef = some ref → p'.orgIDRef = some ref
  orgIDSelector : p'.orgIDSelector = p.orgIDSelector

/-- The parameters of a mapping keep what is set of them. -/
structure Mapping.Parameters.Keeps (R : Resolution) (p p' : Parameters) : Prop where
  database : p'.database = p.database
  retentionPolicy : p'.retentionPolicy = p.retentionPolicy
  isDefault : p.isDefault.isNull = false → p'.isDefault = p.isDefault
  bucketID : R.Allows Kind.bucket.name .id p'.bucketIDRef p.bucketID p'.bucketID
  bucketIDRef : ∀ ref, p.bucketIDRef = some ref → p'.bucketIDRef = some ref
  bucketIDSelector : p'.bucketIDSelector = p.bucketIDSelector
  org : R.Allows Kind.organization.name .externalName p'.orgRef p.org p'.org
  orgRef : ∀ ref, p.orgRef = some ref → p'.orgRef = some ref
  orgSelector : p'.orgSelector = p.orgSelector

/-- A resource keeps what is set of it. The parameters of an organization do not change at all. -/
def Resource.Keeps (R : Resolution) : Resource → Resource → Prop
  | .organization p _, .organization p' _ => p' = p
  | .bucket p _, .bucket p' _ => p.Keeps R p'
  | .mapping p _, .mapping p' _ => p.Keeps R p'
  | _, _ => False

namespace Bucket

theorem RetentionRule.Keeps.refl (r : RetentionRule) : r.Keeps r := ⟨rfl, rfl, fun _ => rfl⟩

theorem RetentionRule.Keeps.trans {r r' r'' : RetentionRule} (h : r.Keeps r') (h' : r'.Keeps r'') :
    r.Keeps r'' := by
  refine ⟨h'.type.trans h.type, h'.everySeconds.trans h.everySeconds, fun hs => ?_⟩
  have hs' := h.shard hs
  exact (h'.shard (hs' ▸ hs)).trans hs'

theorem forall₂_keeps_refl (rules : List RetentionRule) :
    List.Forall₂ RetentionRule.Keeps rules rules :=
  List.forall₂_same.mpr fun r _ => .refl r

theorem forall₂_keeps_trans {rules rules' rules'' : List RetentionRule}
    (h : List.Forall₂ RetentionRule.Keeps rules rules')
    (h' : List.Forall₂ RetentionRule.Keeps rules' rules'') :
    List.Forall₂ RetentionRule.Keeps rules rules'' := by
  induction h generalizing rules'' with
  | nil => exact h'
  | cons hr _ ih =>
    cases h' with
    | cons hr' hrest => exact .cons (hr.trans hr') (ih hrest)

theorem Parameters.Keeps.refl (p : Parameters) : p.Keeps R p where
  description _ := rfl
  rp _ := rfl
  schemaType _ := rfl
  rules := forall₂_keeps_refl _
  orgID := Or.inl rfl
  orgIDRef _ h := h
  orgIDSelector := rfl

theorem Parameters.Keeps.mono {p p' : Parameters}
    (hR : ∀ kind name i v, R kind name i v → R' kind name i v) (h : p.Keeps R p') : p.Keeps R' p' :=
  { h with orgID := h.orgID.mono hR }

theorem Parameters.Keeps.trans {p p' p'' : Parameters} (h : p.Keeps R p') (h' : p'.Keeps R p'') :
    p.Keeps R p'' where
  description hs := by
    have hd := h.description hs
    exact (h'.description (hd ▸ hs)).trans hd
  rp hs := by
    have hd := h.rp hs
    exact (h'.rp (hd ▸ hs)).trans hd
  schemaType hs := by
    have hd := h.schemaType hs
    exact (h'.schemaType (hd ▸ hs)).trans hd
  rules := forall₂_keeps_trans h.rules h'.rules
  orgID := h.orgID.trans h'.orgID h'.orgIDRef
  orgIDRef ref hr := h'.orgIDRef ref (h.orgIDRef ref hr)
  orgIDSelector := h'.orgIDSelector.trans h.orgIDSelector

end Bucket

namespace Mapping

theorem Parameters.Keeps.refl (p : Parameters) : p.Keeps R p where
  database := rfl
  retentionPolicy := rfl
  isDefault _ := rfl
  bucketID := Or.inl rfl
  bucketIDRef _ h := h
  bucketIDSelector := rfl
  org := Or.inl rfl
  orgRef _ h := h
  orgSelector := rfl

theorem Parameters.Keeps.mono {p p' : Parameters}
    (hR : ∀ kind name i v, R kind name i v → R' kind name i v) (h : p.Keeps R p') : p.Keeps R' p' :=
  { h with bucketID := h.bucketID.mono hR, org := h.org.mono hR }

theorem Parameters.Keeps.trans {p p' p'' : Parameters} (h : p.Keeps R p') (h' : p'.Keeps R p'') :
    p.Keeps R p'' where
  database := h'.database.trans h.database
  retentionPolicy := h'.retentionPolicy.trans h.retentionPolicy
  isDefault hs := by
    have hd := h.isDefault hs
    exact (h'.isDefault (hd ▸ hs)).trans hd
  bucketID := h.bucketID.trans h'.bucketID h'.bucketIDRef
  bucketIDRef ref hr := h'.bucketIDRef ref (h.bucketIDRef ref hr)
  bucketIDSelector := h'.bucketIDSelector.trans h.bucketIDSelector
  org := h.org.trans h'.org h'.orgRef
  orgRef ref hr := h'.orgRef ref (h.orgRef ref hr)
  orgSelector := h'.orgSelector.trans h.orgSelector

end Mapping

namespace Resource

theorem Keeps.refl (resource : Resource) : resource.Keeps R resource := by
  cases resource with
  | organization p o => rfl
  | bucket p o => exact Bucket.Parameters.Keeps.refl p
  | mapping p o => exact Mapping.Parameters.Keeps.refl p

theorem Keeps.mono {a b : Resource} (hR : ∀ kind name i v, R kind name i v → R' kind name i v)
    (h : a.Keeps R b) : a.Keeps R' b := by
  cases a <;> cases b <;> first | exact h | exact Bucket.Parameters.Keeps.mono hR h |
    exact Mapping.Parameters.Keeps.mono hR h

theorem Keeps.trans {a b c : Resource} (h : a.Keeps R b) (h' : b.Keeps R c) : a.Keeps R c := by
  cases a with
  | organization p o =>
    cases b with
    | organization p' o' =>
      cases c with
      | organization p'' o'' => exact Eq.trans h' h
      | _ => exact absurd h' id
    | _ => exact absurd h id
  | bucket p o =>
    cases b with
    | bucket p' o' =>
      cases c with
      | bucket p'' o'' => exact Bucket.Parameters.Keeps.trans h h'
      | _ => exact absurd h' id
    | _ => exact absurd h id
  | mapping p o =>
    cases b with
    | mapping p' o' =>
      cases c with
      | mapping p'' o'' => exact Mapping.Parameters.Keeps.trans h h'
      | _ => exact absurd h' id
    | _ => exact absurd h id

end Resource

/-! ## The writers -/

/-- What a resolver resolves references to, if there is one. -/
def Resolution.of (resolver : Option Resolver) : Resolution :=
  fun kind name i v => ∃ n, resolver = some n ∧ n.resolve? kind name i = some v

theorem Resolver.allows_fieldOr (n : Resolver) (kind : String) (i : Identity)
    (reference : Option Reference) (current : Value) :
    (Resolution.of (some n)).Allows kind i reference current (n.fieldOr kind i reference current) := by
  unfold fieldOr
  cases reference with
  | none => exact Or.inl rfl
  | some ref =>
    cases hv : n.resolve? kind ref.name i with
    | none => exact Or.inl (by simp [hv])
    | some v => exact Or.inr ⟨ref, rfl, n, rfl, by simp [hv]⟩

theorem Resolver.pick_of_some (n : Resolver) (kind : String) {reference : Option Reference}
    (selector : Option Selector) (isOpen : Bool) {ref : Reference} (h : reference = some ref) :
    n.pick kind reference selector isOpen = some ref := by
  rw [h]
  rfl

theorem Bucket.Parameters.keeps_resolve (n : Resolver) (p : Bucket.Parameters) :
    p.Keeps (Resolution.of (some n)) (p.resolve n) where
  description _ := rfl
  rp _ := rfl
  schemaType _ := rfl
  rules := forall₂_keeps_refl _
  orgID := n.allows_fieldOr _ _ _ _
  orgIDRef _ h := n.pick_of_some _ _ _ h
  orgIDSelector := rfl

theorem Mapping.Parameters.keeps_resolve (n : Resolver) (p : Mapping.Parameters) :
    p.Keeps (Resolution.of (some n)) (p.resolve n) where
  database := rfl
  retentionPolicy := rfl
  isDefault _ := rfl
  bucketID := n.allows_fieldOr _ _ _ _
  bucketIDRef _ h := n.pick_of_some _ _ _ h
  bucketIDSelector := rfl
  org := n.allows_fieldOr _ _ _ _
  orgRef _ h := n.pick_of_some _ _ _ h
  orgSelector := rfl

namespace Bucket

theorem take_keeps (r : RetentionRule) (offered : Option Int) : r.Keeps (r.take offered) :=
  ⟨rfl, rfl, fun hs => by rw [RetentionRule.take_of_ne_none hs]⟩

/-- Filled rules stay in their places, and each keeps what is set of it. -/
theorem forall₂_fillRules (desired observed : List RetentionRule) :
    List.Forall₂ RetentionRule.Keeps desired (fillRules desired observed).value := by
  rw [value_fillRules]
  -- both lists are read off the rules with their places
  rw [show List.Forall₂ RetentionRule.Keeps desired = List.Forall₂ RetentionRule.Keeps
    (desired.zipIdx.map Prod.fst) by rw [List.zipIdx_map_fst]]
  rw [List.forall₂_map_left_iff, List.forall₂_map_right_iff, List.forall₂_same]
  exact fun e _ => take_keeps e.1 _

/-- Filling keeps what is set, also if it stops at rules that make no sense. -/
theorem Parameters.keeps_lateInitialize (p : Parameters) (object : Value) :
    p.Keeps R (lateInitialize p object).2 := by
  have htext (v : Value) (h : p.schemaType.truthy = true) :
      (fillText p.schemaType v).value = p.schemaType := by
    simp [fillText, h]
  have hfill {desired : Value} (v : Value) (h : desired.isNull = false) :
      (fill desired v).value = desired := by
    rw [fill_of_not_isNull h]
  unfold lateInitialize
  split
  · dsimp only
    split
    · exact ⟨hfill _, hfill _, htext _, forall₂_keeps_refl _, Or.inl rfl, fun _ h => h, rfl⟩
    · exact ⟨hfill _, hfill _, htext _, forall₂_fillRules _ _, Or.inl rfl, fun _ h => h, rfl⟩
  · exact .refl p

end Bucket

theorem Mapping.Parameters.keeps_lateInitialize (p : Mapping.Parameters) (object : Value) :
    p.Keeps R (lateInitialize p object).2 := by
  unfold lateInitialize
  split
  · exact .refl p
  · refine { Mapping.Parameters.Keeps.refl p with isDefault := fun h => ?_ }
    rw [fill_of_not_isNull h]

theorem Resource.keeps_absorb (object : Value) (resource : Resource) :
    resource.Keeps R (resource.absorb object) := by
  unfold absorb
  cases resource with
  | organization p o => dsimp only; split <;> exact rfl
  | bucket p o =>
    dsimp only
    split
    · exact Bucket.Parameters.Keeps.refl p
    · exact p.keeps_lateInitialize object
  | mapping p o =>
    dsimp only
    split
    · exact Mapping.Parameters.Keeps.refl p
    · exact p.keeps_lateInitialize object

theorem Record.keeps_resolve (n : Resolver) (r : Record) :
    r.resource.Keeps (Resolution.of (some n)) (r.resolve n).resource := by
  unfold resolve
  cases hr : r.resource with
  | organization p o => rw [hr]; exact .refl _
  | bucket p o => exact p.keeps_resolve n
  | mapping p o => exact p.keeps_resolve n

/-! ## A visit -/

namespace Work

variable {s : Setup} {c : Client} {resolver : Option Resolver}

theorem keeps_prepare (w : Work) :
    w.record.resource.Keeps (Resolution.of resolver) (w.prepare resolver).record.resource := by
  rw [record_prepare, ← Record.resource_nameByDefault]
  cases resolver with
  | none => exact .refl _
  | some n => exact w.record.nameByDefault.keeps_resolve n

theorem keeps_look (w : Work) : w.record.resource.Keeps R (w.look c).2.record.resource := by
  rw [look_eq]
  split
  · rw [record_asked]; exact .refl _
  · rw [record_asked]; exact .refl _
  · rw [record_withRecord, Record.resource_absorb]; exact Resource.keeps_absorb _ _

/-- A visit of a record keeps what is set of it, whatever the answers. -/
theorem keeps_visit (looks : Bool) (w : Work) :
    w.record.resource.Keeps (Resolution.of resolver) (w.visit s resolver looks).record.resource := by
  -- what follows a look leaves the resource as the look left it
  have hlook := w.keeps_prepare.trans ((w.prepare resolver).keeps_look (c := s.client))
  unfold visit observe reconcile ifHandled
  split
  · split
    · exact .refl _
    · exact hlook
  · split
    · exact .refl _
    · rw [resource_pass]; exact hlook

end Work

/-! ## Runs -/

/-- What a resolver made of records resolves to counts as true. -/
theorem Directory.truthy_of_resolve? {d : Directory} {kind name : String} {i : Identity} {v : Value}
    (h : d.resolve? kind name i = some v) : v.truthy = true := by
  unfold resolve? at h
  split at h
  · dsimp only at h
    split at h
    · next ht => cases h; exact ht
    · cases h
  · cases h

namespace Fleet

variable {s : Setup}

/-- What references of the record at a place resolve to in the course of visits: at some visit to it, the
value is the identity, not empty, that the records named there give at that time. -/
def resolvedAt (s : Setup) (vs : List Visit) (place : Nat) (f : Fleet) : Resolution :=
  fun kind name i value => value.truthy = true ∧
    ∃ before visit after names, vs = before ++ visit :: after ∧ visit.place = place ∧
      visit.names = some names ∧
      ((f.visits s before).resolver names).resolve? kind name i = some value

/-- A record keeps what is set of it over visits. -/
theorem visits_keep (vs : List Visit) {f : Fleet} {place : Nat} {r : Record}
    (h : f.records[place]? = some r) :
    ∃ r', (f.visits s vs).records[place]? = some r' ∧
      r.resource.Keeps (f.resolvedAt s vs place) r'.resource := by
  induction vs generalizing f r with
  | nil => exact ⟨r, h, .refl _⟩
  | cons v rest ih =>
    -- the visit itself
    have hvisit : ∃ r₁, (f.visit s v).records[place]? = some r₁ ∧
        r.resource.Keeps (f.resolvedAt s (v :: rest) place) r₁.resource := by
      cases hv : f.records[v.place]? with
      | none => rw [visit_of_none hv]; exact ⟨r, h, .refl _⟩
      | some rv =>
        rw [records_visit hv]
        by_cases hp : v.place = place
        · rw [if_pos hp]
          rw [← hp, hv] at h
          cases h
          refine ⟨_, rfl, (Work.keeps_visit v.looks ⟨r, f.wire, f.events⟩).mono ?_⟩
          rintro kind name i value ⟨n, hn, hvalue⟩
          obtain ⟨names, hnames, rfl⟩ := Option.map_eq_some_iff.mp hn
          exact ⟨Directory.truthy_of_resolve? hvalue, [], v, rest, names, rfl, hp, hnames, hvalue⟩
        · rw [if_neg hp]
          exact ⟨r, h, .refl _⟩
    obtain ⟨r₁, hr₁, hkeeps₁⟩ := hvisit
    obtain ⟨r', hr', hkeeps'⟩ := ih hr₁
    -- a visit among the rest is one among all, with one more before it
    refine ⟨r', hr', hkeeps₁.trans (hkeeps'.mono ?_)⟩
    rintro kind name i value ⟨ht, before, visit, after, names, rfl, hp, hnames, hvalue⟩
    exact ⟨ht, v :: before, visit, after, names, rfl, hp, hnames, hvalue⟩

/-- **Runs keep what is set.** Over any operations, also those that end in a fault, and whatever the answers,
every record keeps what is set of it; a field that refers to another record may take what its own reference
resolves to at a visit of the record. -/
theorem run_keeps (ops : List Operation) (f : Fleet) :
    ∃ vs, (∀ v ∈ vs, ∃ op ∈ ops, op.Includes v) ∧ f.run s ops = f.visits s vs ∧
      ∀ (place : Nat) (r : Record), f.records[place]? = some r →
        ∃ r', (f.run s ops).records[place]? = some r' ∧
          r.resource.Keeps (f.resolvedAt s vs place) r'.resource := by
  obtain ⟨vs, hvs, hrun⟩ := run_visits (s := s) ops f
  refine ⟨vs, hvs, hrun, fun place r h => ?_⟩
  rw [hrun]
  exact visits_keep vs h

/-- A bucket that refers to an organization, and leaves its shards and its policy open. -/
def referringBucket : Record :=
  .ofName "logs" (.bucket { Bucket.Parameters.empty with
    description := .text "kept", orgIDRef := some ⟨"acme"⟩, retentionRules := [⟨"expire", 60, none⟩] }
    .empty)

/-- What the server has of it. -/
def referringObject : Value :=
  .object [("id", .text "b1"), ("description", .text "other"), ("rp", .text "p"),
    ("retentionRules", .list [.object
      [("everySeconds", .int 60), ("shardGroupDurationSeconds", .int 6)]])]

/-- An organization that has its id, and such a bucket. -/
def referring : Fleet :=
  ⟨[.ofName "acme" (.organization ⟨some "ours"⟩ { Organization.Observation.empty with
      id := .text "o1" }), referringBucket],
    .ofAnswers [.response 500 "", .ofValue (.object [("buckets", .list [referringObject])])], []⟩

/-- A run that looks at the organization, which fails, and then reconciles the bucket. -/
theorem run_keeps_referring :
    let s := Setup.ofClient ⟨"http://db", "", 30⟩
    let ops := [.observe none 0, .reconcile (some [0]) 1]
    ((referring.run s ops).records[1]?).map (·.resource)
        = some (.bucket ⟨.text "kept", .text "o1", some ⟨"acme"⟩, none, .text "p",
            [⟨"expire", 60, some 6⟩], .text ""⟩ { Bucket.Observation.empty with id := .text "b1" }) ∧
      ∃ vs, (∀ v ∈ vs, ∃ op ∈ ops, op.Includes v) ∧ referring.run s ops = referring.visits s vs ∧
        ∃ r', (referring.run s ops).records[1]? = some r' ∧
          referringBucket.resource.Keeps (referring.resolvedAt s vs 1) r'.resource := by
  intro s ops
  obtain ⟨vs, hvs, hrun, hkeeps⟩ := run_keeps (s := s) ops referring
  exact ⟨by decide +kernel, vs, hvs, hrun, hkeeps 1 referringBucket rfl⟩

end Fleet

end InfluxKeeper
