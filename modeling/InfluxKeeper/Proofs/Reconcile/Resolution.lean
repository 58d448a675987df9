import InfluxKeeper.Proofs.Fleet.Dependents
import InfluxKeeper.Proofs.Reconcile.Again

/-!
# How references are resolved

A pointer of a record is resolved among records in two steps: a selector picks a reference if there is none and
the field is open, and a reference gives the field the identity of the record that it names. `ResolvedAmong` says
what comes of it in terms of the records alone, for records of which no two have the same kind and name.

> `resolve_among`: what becomes of the pointers of a record and of all else, when it is resolved, when it is
> resolved again, and when it is resolved after labels were changed.

A resolution changes nothing that a resolver reads of a record: neither its card, by which selectors pick, nor its
identities, which references take. Labels are part of the card and of no identity, so a change of labels can touch
pointers without a reference only.
-/

namespace InfluxKeeper

/-! ## Labels -/

/-- Only a text is the same as a text. -/
theorem Value.same_text_iff {v : Value} {s : String} : v.same (.text s) = true ↔ v = .text s := by
  constructor
  · intro h
    cases v with
    | scalar c =>
      cases c with
      | text t =>
        rw [same_text_text, decide_eq_true_iff] at h
        rw [h]
      | _ => cases h
    | list _ => cases h
    | map _ => cases h
    | tuple _ => cases h
    | set _ => cases h
  · rintro rfl
    rw [same_text_text, decide_eq_true rfl]

/-- A record has every label of a selector, with its value. -/
def Record.Carries (r : Record) (selector : Selector) : Prop :=
  ∀ label ∈ selector.matchLabels, r.metadata.labels.lookup label.1 = some (.text label.2)

instance (r : Record) (selector : Selector) : Decidable (r.Carries selector) :=
  inferInstanceAs (Decidable (∀ label ∈ selector.matchLabels, _))

theorem Directory.carries_iff {r : Record} {selector : Selector} :
    Directory.carries (selector.matchLabels.map fun l => (l.1, .text l.2)) r = true ↔ r.Carries selector := by
  unfold Directory.carries Record.Carries
  rw [List.all_map, List.all_eq_true]
  refine forall₂_congr fun label _ => ?_
  rw [Function.comp_apply, Value.same_text_iff]
  -- a label that is not there is null, and null is no text
  cases r.metadata.labels.lookup label.1 with
  | none => exact iff_of_false nofun nofun
  | some v => rw [Option.getD_some, Option.some.injEq]

theorem Kind.name_eq_iff {k l : Kind} : k.name = l.name ↔ k = l :=
  ⟨fun h => by simpa using congrArg Kind.ofName? h, fun h => congrArg Kind.name h⟩

/-- A selector selects the first record of a kind that carries its labels. -/
theorem Directory.select?_selector (records : List Record) (k : Kind) (selector : Selector) :
    Directory.select? records k.name (selector.matchLabels.map fun l => (l.1, .text l.2)) =
      (records.find? fun r => r.kind = k ∧ r.Carries selector).map (·.name) := by
  unfold select?
  congr 2
  funext r
  rw [Bool.eq_iff_iff, Bool.and_eq_true, decide_eq_true_iff, decide_eq_true_iff, Kind.name_eq_iff, carries_iff]

/-! ## One pointer -/

/-- What resolution makes of a pointer among records. A reference that is there is kept. If there is none, and
the field is open, a selector picks the first record of the kind that carries its labels, if there is one; in
every other case there is no reference. The field takes the identity of the record that is referred to, if it is
there and has one, and keeps its value otherwise. -/
structure Pointer.ResolvedAmong (records : List Record) (x y : Pointer) : Prop where
  field : (y.key, y.kind, y.identity, y.selector) = (x.key, x.kind, x.identity, x.selector)
  kept : ∀ ref, x.reference = some ref → y.reference = some ref
  selected : ∀ selector, x.reference = none → x.selector = some selector → x.value.truthy = false →
    y.reference = (records.find? fun r => r.kind = x.kind ∧ r.Carries selector).map fun r => ⟨r.name⟩
  absent : x.reference = none → (x.selector = none ∨ x.value.truthy = true) → y.reference = none
  taken : ∀ ref, y.reference = some ref → ∀ r ∈ records, r.kind = x.kind → r.name = ref.name →
    (x.identity.of x.kind.name r).truthy = true → y.value = x.identity.of x.kind.name r
  untaken : (∀ ref, y.reference = some ref → ∀ r ∈ records, r.kind = x.kind → r.name = ref.name →
    (x.identity.of x.kind.name r).truthy = false) → y.value = x.value

namespace Directory

variable {records : List Record}

/-- A record that is there and has an identity resolves to it. -/
theorem resolve?_of_truthy (distinct : (records.map Record.designation).Nodup) {r : Record} (hr : r ∈ records)
    {k : Kind} (hk : r.kind = k) {name : String} (hn : r.name = name) {i : Identity}
    (ht : (i.of k.name r).truthy = true) : Directory.resolve? records k.name name i = some (i.of k.name r) := by
  subst hk hn
  unfold resolve?
  rw [find?_of_mem distinct hr]
  exact if_pos ht

/-- A name resolves to nothing if no record of the kind and name has an identity. -/
theorem resolve?_of_untruthy {k : Kind} {name : String} {i : Identity}
    (h : ∀ r ∈ records, r.kind = k → r.name = name → (i.of k.name r).truthy = false) :
    Directory.resolve? records k.name name i = none := by
  unfold resolve?
  cases hf : find? records k.name name with
  | none => rfl
  | some r =>
    have hnamed : r.kind.name = k.name ∧ r.name = name := by simpa using List.find?_some hf
    dsimp only
    rw [h r (List.mem_of_find?_eq_some hf) (Kind.name_eq_iff.mp hnamed.1) hnamed.2]
    rfl

end Directory

/-- A reference that is there is kept. -/
theorem Pointer.reference_resolve_of_some {n : Resolver} {x : Pointer} {ref : Reference}
    (h : x.reference = some ref) : (x.resolve n).reference = some ref := by
  show n.pick _ x.reference _ _ = _
  rw [h]
  rfl

/-- What a pointer with a reference holds after its resolution. -/
theorem Pointer.value_resolve_eq {n : Resolver} {x : Pointer} {ref : Reference}
    (h : (x.resolve n).reference = some ref) :
    (x.resolve n).value = (n.resolve? x.kind.name ref.name x.identity).getD x.value := by
  show n.fieldOr x.kind.name x.identity (x.resolve n).reference x.value = _
  rw [h]
  rfl

/-- A resolution changes the reference and the value of a pointer only. -/
theorem Pointer.resolve_eq_self {n : Resolver} {x : Pointer} (href : (x.resolve n).reference = x.reference)
    (hvalue : (x.resolve n).value = x.value) : x.resolve n = x := by
  show { x with reference := (x.resolve n).reference, value := (x.resolve n).value } = x
  rw [href, hvalue]

/-- A pointer is resolved among the records of a directory. -/
theorem Pointer.resolvedAmong {records : List Record} (distinct : (records.map Record.designation).Nodup)
    (x : Pointer) : x.ResolvedAmong records (x.resolve (Directory.resolver records)) where
  field := rfl
  kept ref href := reference_resolve_of_some href
  selected selector href hselector hopen := by
    show Resolver.pick _ _ x.reference x.selector (!x.value.truthy) = _
    rw [href, hselector, hopen]
    show (Directory.select? records _ _).map Reference.mk = _
    rw [Directory.select?_selector, Option.map_map]
    rfl
  absent href hnone := by
    show Resolver.pick _ _ x.reference x.selector (!x.value.truthy) = _
    rw [href]
    rcases hnone with hnone | hset
    · rw [hnone]
      rfl
    · rw [hset]
      cases x.selector <;> rfl
  taken ref href r hr hk hn ht := value_resolve href (Directory.resolve?_of_truthy distinct hr hk hn ht)
  untaken h := by
    cases href : (x.resolve (Directory.resolver records)).reference with
    | none => exact value_resolve_of_none href
    | some ref =>
      rw [value_resolve_eq href]
      show (Directory.resolve? records x.kind.name ref.name x.identity).getD x.value = x.value
      rw [Directory.resolve?_of_untruthy (h ref href)]
      rfl

/-- A pointer with a reference is settled: whatever resolves names alike leaves it as it is. -/
theorem Pointer.resolve_of_reference {n n' : Resolver} {x : Pointer} (h : n'.resolve? = n.resolve?)
    (href : (x.resolve n).reference ≠ none) : (x.resolve n).resolve n' = x.resolve n := by
  obtain ⟨ref, href⟩ := Option.ne_none_iff_exists'.mp href
  have hkept : ((x.resolve n).resolve n').reference = some ref := reference_resolve_of_some href
  refine resolve_eq_self (hkept.trans href.symm) ?_
  rw [value_resolve_eq hkept, value_resolve_eq href, h]
  show (n.resolve? x.kind.name ref.name x.identity).getD _ = _
  cases n.resolve? x.kind.name ref.name x.identity <;> rfl

/-! ## What a resolver reads of a record -/

/-- What references can take from a record, and what they name it by. -/
def Record.identities (r : Record) : Kind × String × Value × Value :=
  (r.kind, r.name, r.observedId, r.externalName)

theorem Identity.of_congr {r r' : Record} (h : r'.identities = r.identities) (i : Identity) (kind : String) :
    i.of kind r' = i.of kind r := by
  obtain ⟨hkind, hrest⟩ := Prod.mk.inj h
  obtain ⟨-, hrest⟩ := Prod.mk.inj hrest
  obtain ⟨hid, hexternal⟩ := Prod.mk.inj hrest
  cases i with
  | id => rw [of, of, hkind, hid]
  | externalName => rw [of, of, hkind, hexternal]

/-- What names resolve to depends on the identities of records. -/
theorem Directory.resolve?_congr {d d' : Directory} (h : d'.map Record.identities = d.map Record.identities) :
    d'.resolve? = d.resolve? := by
  have hfind (d : Directory) (kind name : String) : (d.find? kind name).map Record.identities =
      (d.map Record.identities).find? fun e => e.1.name = kind ∧ e.2.1 = name := by
    rw [List.find?_map]
    rfl
  funext kind name i
  have hsame := (hfind d' kind name).trans ((congrArg _ h).trans (hfind d kind name).symm)
  unfold resolve?
  cases hd : d.find? kind name with
  | none =>
    rw [hd, Option.map_none, Option.map_eq_none_iff] at hsame
    rw [hsame]
  | some r =>
    rw [hd, Option.map_some, Option.map_eq_some_iff] at hsame
    obtain ⟨r', hr', hidentities⟩ := hsame
    rw [hr']
    dsimp only
    rw [Identity.of_congr hidentities]

/-- A record without its labels. -/
def Record.unlabelled (r : Record) : Record := { r with metadata := { r.metadata with labels := [] } }

/-- A record without what its pointers hold and refer to. -/
def Record.unpointed (r : Record) : Record :=
  { r with resource := match r.resource with
    | .organization p o => .organization p o
    | .bucket p o => .bucket { p with orgID := .null, orgIDRef := none } o
    | .mapping p o =>
      .mapping { p with bucketID := .null, bucketIDRef := none, org := .null, orgRef := none } o }

namespace Record

/-- A resolution changes pointers and nothing else. -/
theorem unpointed_resolve (n : Resolver) (r : Record) : (r.resolve n).unpointed = r.unpointed := by
  unfold resolve
  cases hr : r.resource with
  | organization p o => rfl
  | bucket p o => unfold unpointed; rw [hr]; rfl
  | mapping p o => unfold unpointed; rw [hr]; rfl

theorem identities_unpointed (r : Record) : r.unpointed.identities = r.identities := by
  unfold identities unpointed kind observedId
  cases r.resource <;> rfl

theorem card_unpointed (r : Record) : r.unpointed.card = r.card := by
  unfold card unpointed kind
  cases r.resource <;> rfl

/-- A resolution keeps the identities of a record. -/
theorem identities_resolve (n : Resolver) (r : Record) : (r.resolve n).identities = r.identities := by
  rw [← identities_unpointed, unpointed_resolve, identities_unpointed]

/-- A resolution keeps what selectors pick a record by. -/
theorem card_resolve (n : Resolver) (r : Record) : (r.resolve n).card = r.card := by
  rw [← card_unpointed, unpointed_resolve, card_unpointed]

/-- A change of labels keeps the identities of a record. -/
theorem identities_of_unlabelled {r r' : Record} (h : r'.unlabelled = r.unlabelled) :
    r'.identities = r.identities := by
  show r'.unlabelled.identities = r.unlabelled.identities
  rw [h]

/-- A change of labels keeps the pointers of a record. -/
theorem resource_of_unlabelled {r r' : Record} (h : r'.unlabelled = r.unlabelled) : r'.resource = r.resource :=
  show r'.unlabelled.resource = r.unlabelled.resource by rw [h]

end Record

/-! ## Among records -/

/-- What records have in common with their successors, they have in common as lists. -/
theorem map_eq_of_forall₂ {α β : Type} {R : α → α → Prop} {f : α → β} (h : ∀ a b, R a b → f b = f a)
    {as bs : List α} (hr : List.Forall₂ R as bs) : bs.map f = as.map f := by
  induction hr with
  | nil => rfl
  | cons hab _ ih => rw [List.map_cons, List.map_cons, h _ _ hab, ih]

namespace Directory

variable {records later : List Record} (distinct : (records.map Record.designation).Nodup)
  (named : later.map Record.identities = records.map Record.identities)

include distinct named

/-- Records that keep their identities are still different. -/
theorem nodup_of_identities : (later.map Record.designation).Nodup := by
  have hdesignations (rs : List Record) :
      rs.map Record.designation = (rs.map Record.identities).map fun e => (e.1, e.2.1) := by
    rw [List.map_map]
    rfl
  rw [hdesignations, named, ← hdesignations]
  exact distinct

/-- Records that keep their identities name the same. -/
theorem resolve?_ofRecords : (ofRecords later).resolve? = (ofRecords records).resolve? := by
  rw [ofRecords_of_nodup distinct, ofRecords_of_nodup (nodup_of_identities distinct named)]
  exact resolve?_congr named

/-- Records that keep their identities and cards make the same resolver. -/
theorem resolver_ofRecords (cards : later.map Record.card = records.map Record.card) :
    (ofRecords later).resolver = (ofRecords records).resolver := by
  unfold resolver
  rw [resolve?_ofRecords distinct named, ofRecords_of_nodup distinct,
    ofRecords_of_nodup (nodup_of_identities distinct named), select?_congr cards]

end Directory

/-- **How references are resolved.** Let no two records have the same kind and name, and let a record be resolved
among them. Each of its pointers is resolved as described, and nothing else of the record changes. If it is
resolved again among the records, of which it can be one, nothing changes at all. And when labels were changed, of
any records and of itself, another resolution leaves every pointer as it is that has a reference. -/
theorem resolve_among {records : List Record} (distinct : (records.map Record.designation).Nodup) (r : Record) :
    let resolved := r.resolve (Directory.ofRecords records).resolver
    List.Forall₂ (Pointer.ResolvedAmong records) r.resource.pointers resolved.resource.pointers ∧
      resolved.unpointed = r.unpointed ∧
      (∀ after : List Record, List.Forall₂ (fun s t => t = s ∨ s = r ∧ t = resolved) records after →
        resolved.resolve (Directory.ofRecords after).resolver = resolved) ∧
      ∀ (later : List Record) (relabelled : Record),
        List.Forall₂ (fun s t => t.unlabelled = s.unlabelled ∨ s = r ∧ t.unlabelled = resolved.unlabelled)
          records later →
        relabelled.unlabelled = resolved.unlabelled →
        List.Forall₂ (fun x y => x.reference ≠ none → y = x) resolved.resource.pointers
          (relabelled.resolve (Directory.ofRecords later).resolver).resource.pointers := by
  intro resolved
  have hpointers := Record.pointers_resolve (Directory.ofRecords records).resolver r
  have hidentities := Record.identities_resolve (Directory.ofRecords records).resolver r
  have hcard := Record.card_resolve (Directory.ofRecords records).resolver r
  refine ⟨?_, Record.unpointed_resolve _ r, fun after hafter => ?_,
    fun later relabelled hlater hrelabelled => ?_⟩
  · rw [hpointers, Directory.ofRecords_of_nodup distinct]
    exact List.forall₂_map_right_iff.mpr (List.forall₂_same.mpr fun x _ => x.resolvedAmong distinct)
  · have hnamed : after.map Record.identities = records.map Record.identities := by
      refine map_eq_of_forall₂ (fun s t hst => ?_) hafter
      rcases hst with rfl | ⟨rfl, rfl⟩
      · rfl
      · exact hidentities
    have hcards : after.map Record.card = records.map Record.card := by
      refine map_eq_of_forall₂ (fun s t hst => ?_) hafter
      rcases hst with rfl | ⟨rfl, rfl⟩
      · rfl
      · exact hcard
    rw [Directory.resolver_ofRecords distinct hnamed hcards]
    exact Record.resolve_again hpointers fun _ _ => ⟨fun _ _ => rfl, fun _ => rfl⟩
  · have hnamed : later.map Record.identities = records.map Record.identities := by
      refine map_eq_of_forall₂ (fun s t hst => ?_) hlater
      rcases hst with hst | ⟨rfl, hst⟩
      · exact Record.identities_of_unlabelled hst
      · exact (Record.identities_of_unlabelled hst).trans hidentities
    rw [Record.pointers_resolve _ relabelled, Record.resource_of_unlabelled hrelabelled]
    refine List.forall₂_map_right_iff.mpr (List.forall₂_same.mpr fun y hy href => ?_)
    rw [hpointers] at hy
    obtain ⟨x, -, rfl⟩ := List.mem_map.mp hy
    exact Pointer.resolve_of_reference (Directory.resolve?_ofRecords distinct hnamed) href

/-- A record with labels. -/
def Record.withLabels (labels : List (String × Value)) (r : Record) : Record :=
  { r with metadata := { r.metadata with labels } }

/-- Two buckets with an id and a label, of which the second one carries the value wanted, and the mapping that
selects it. -/
def labelled : List Record :=
  [(Record.ofName "traces" (.bucket .empty { Bucket.Observation.empty with id := .text "b1" })).withLabels
      [("env", .text "test")],
    (Record.ofName "logs" (.bucket .empty { Bucket.Observation.empty with id := .text "b2" })).withLabels
      [("env", .text "prod")]]

/-- A mapping that selects a bucket and names an organization. -/
def selecting : Record :=
  .ofName "all" (.mapping
    ⟨.text "", none, some ⟨[("env", "prod")]⟩, "db", .null, .text "o1", some ⟨"acme"⟩, none, "rp"⟩ .empty)

/-- The mapping takes the second bucket, and stays with it when both swap their labels. -/
theorem resolve_among_swapped :
    let resolved := selecting.resolve (Directory.ofRecords labelled).resolver
    let swapped := labelled.zipWith (fun r s => r.withLabels s.metadata.labels) labelled.reverse
    (labelled.map Record.designation).Nodup ∧
      List.Forall₂ (Pointer.ResolvedAmong labelled) selecting.resource.pointers resolved.resource.pointers ∧
      resolved.resource.pointers.map (fun x => (x.reference, x.value)) =
        [(some ⟨"logs"⟩, .text "b2"), (some ⟨"acme"⟩, .text "o1")] ∧
      resolved.unpointed = selecting.unpointed ∧
      resolved.resolve (Directory.ofRecords labelled).resolver = resolved ∧
      List.Forall₂ (fun x y => x.reference ≠ none → y = x) resolved.resource.pointers
        (resolved.resolve (Directory.ofRecords swapped).resolver).resource.pointers := by
  intro resolved swapped
  have distinct : (labelled.map Record.designation).Nodup := by decide +kernel
  obtain ⟨hpointers, hrest, hagain, hlabels⟩ := resolve_among distinct selecting
  have hswapped : List.Forall₂ (fun s t => t.unlabelled = s.unlabelled ∨
      s = selecting ∧ t.unlabelled = resolved.unlabelled) labelled swapped :=
    .cons (Or.inl rfl) (.cons (Or.inl rfl) .nil)
  exact ⟨distinct, hpointers, by decide +kernel, hrest,
    hagain labelled (List.forall₂_same.mpr fun _ _ => Or.inl rfl), hlabels swapped resolved hswapped rfl⟩

end InfluxKeeper
