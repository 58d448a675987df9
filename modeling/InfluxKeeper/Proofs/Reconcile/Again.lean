import InfluxKeeper.Proofs.Reconcile.Identity
import InfluxKeeper.Proofs.Reconcile.Neighbours
import InfluxKeeper.Proofs.Reconcile.OneUpdate
import InfluxKeeper.Proofs.Reconcile.Telling
import InfluxKeeper.Proofs.Record.Keyed

/-!
# Reconciling again

A reconcile that had nothing to do, and filled nothing, leaves a record at which every write of a reconcile
reproduces what is there: the default name and the references (`Rests.prepare`), what is observed and filled
(`Resource.absorb_again`), and the conditions, because a condition that is shown already is kept with its time
(`setConditions_of_shows`).

> `reconcile_again`: such a record, reconciled once more with the same answer to its lookup, is only looked up.

The flag of a filling is what makes this go through: a filling that says that it changed nothing has changed
nothing (`Bucket.lateInitialize_unchanged`, `Mapping.lateInitialize_unchanged`).
-/

namespace InfluxKeeper

open Api

/-! ## Fillings that change nothing -/

namespace Bucket

/-- A filling that says that it changed nothing has changed nothing. -/
theorem lateInitialize_unchanged {p : Parameters} {object : Value}
    (h : (lateInitialize p object).1 = .ok false) : (lateInitialize p object).2 = p := by
  obtain ⟨entries, observed, rfl, hobserved, -⟩ := lateInitialize_ok (Prod.ext h rfl)
  rw [lateInitialize_eq hobserved] at h ⊢
  simpa using h

end Bucket

/-- A filling that says that it changed nothing has changed nothing. -/
theorem Mapping.lateInitialize_unchanged {p : Parameters} {object : Value}
    (h : (lateInitialize p object).1 = .ok false) : (lateInitialize p object).2 = p := by
  unfold lateInitialize at h ⊢
  split
  · rfl
  · next observed hdefault =>
    rw [hdefault] at h
    dsimp only at h ⊢
    rw [changed_fill_eq_false_iff.mp (Except.ok.inj h)]

/-! ## Absorbing again -/

namespace Resource

/-- A resource that filled nothing from an object is the same after it absorbs the object once more, and sees
the same. -/
theorem absorb_again {resource : Resource} {object : Value} {seen : Seen}
    (h : resource.seenIn object = .ok seen) (unfilled : seen.lateInitialized = false) :
    (resource.absorb object).absorb object = resource.absorb object ∧
      (resource.absorb object).seenIn object = .ok seen := by
  cases resource with
  | organization p o =>
    obtain ⟨o', ho, -⟩ := bind_ok_iff.mp h
    have habsorb (o : Organization.Observation) :
        (Resource.organization p o).absorb object = .organization p o' := by
      unfold absorb
      dsimp only
      rw [ho]
    rw [habsorb, habsorb]
    exact ⟨rfl, h⟩
  | bucket p o =>
    obtain ⟨o', ho, hseen⟩ := bind_ok_iff.mp h
    obtain ⟨changed, hchanged, hseen⟩ := bind_ok_iff.mp hseen
    obtain ⟨upToDate, -, hseen⟩ := bind_ok_iff.mp hseen
    cases hseen
    cases unfilled
    have habsorb (o : Bucket.Observation) :
        (Resource.bucket p o).absorb object = .bucket p o' := by
      unfold absorb
      dsimp only
      rw [ho, Bucket.lateInitialize_unchanged hchanged]
    rw [habsorb, habsorb]
    exact ⟨rfl, h⟩
  | mapping p o =>
    obtain ⟨link, hlink, hseen⟩ := bind_ok_iff.mp h
    obtain ⟨changed, hchanged, hseen⟩ := bind_ok_iff.mp hseen
    obtain ⟨upToDate, -, hseen⟩ := bind_ok_iff.mp hseen
    cases hseen
    cases unfilled
    have habsorb (o : Mapping.Observation) :
        (Resource.mapping p o).absorb object = .mapping p ⟨link⟩ := by
      unfold absorb
      dsimp only
      rw [hlink, Mapping.lateInitialize_unchanged hchanged]
    rw [habsorb, habsorb]
    exact ⟨rfl, h⟩

/-- The Ready condition that a record takes from an object, if the object can be read. -/
def readyIn (object : Value) : Resource → Option (Timestamp → Condition)
  | .organization .. =>
    match Organization.Observation.ofAnswer object with
    | .error _ => none
    | .ok o => some (if o.usable then .available else .unavailable)
  | .bucket .. =>
    match Bucket.Observation.ofAnswer object with
    | .error _ => none
    | .ok _ => some .available
  | .mapping .. =>
    match Mapping.observedLink object with
    | .error _ => none
    | .ok _ => some .available

/-- It is one of two, at any time. -/
theorem readyIn_cases {object : Value} {resource : Resource} {ready : Timestamp → Condition}
    (h : resource.readyIn object = some ready) :
    ready = .available ∨ ready = .unavailable := by
  unfold readyIn at h
  split at h
  · split at h
    · cases h
    · cases h
      split
      · exact Or.inl rfl
      · exact Or.inr rfl
  · split at h
    · cases h
    · cases h; exact Or.inl rfl
  · split at h
    · cases h
    · cases h; exact Or.inl rfl

@[simp] theorem readyIn_absorb (object : Value) (resource : Resource) :
    (resource.absorb object).readyIn object = resource.readyIn object := by
  unfold absorb
  cases resource with
  | organization p o => dsimp only; split <;> rfl
  | bucket p o => dsimp only; split <;> rfl
  | mapping p o => dsimp only; split <;> rfl

end Resource

namespace Record

/-- A record that takes in an object changes its resource and its Ready condition. -/
theorem record_absorb (now : Timestamp) (object : Value) (r : Record) :
    (r.absorb now object).2 = ({ r with resource := r.resource.absorb object } : Record).setConditions
      ((r.resource.readyIn object).toList.map (· now)) := by
  unfold absorb Resource.absorb Resource.readyIn
  cases hr : r.resource with
  | organization p o =>
    dsimp only
    cases Organization.Observation.ofAnswer object with
    | error fault => rw [← hr]; rfl
    | ok o' => dsimp only; split <;> rfl
  | bucket p o =>
    dsimp only
    cases Bucket.Observation.ofAnswer object with
    | error fault => rw [← hr]; rfl
    | ok o' => rfl
  | mapping p o =>
    dsimp only
    cases Mapping.observedLink object with
    | error fault => rw [← hr]; rfl
    | ok link => rfl

/-! ## Conditions that are shown -/

/-- Setting conditions that are shown already keeps them, with their times. -/
theorem setConditions_of_shows {r : Record} {new : List Condition}
    (h : ∀ c ∈ new, r.Shows c.type c.status c.reason c.message) : r.setConditions new = r := by
  induction new with
  | nil => rfl
  | cons c rest ih =>
    obtain ⟨shown, hc, hstatus, hreason, hmessage⟩ := h c List.mem_cons_self
    have htype : shown.type = c.type := by simpa using List.find?_some hc
    have hkeep : setCondition c r.conditions = r.conditions :=
      setCondition_eq_self hc ⟨htype, hstatus, hreason, hmessage⟩
    show ({ r with conditions := InfluxKeeper.setConditions rest (setCondition c r.conditions) } : Record) = r
    rw [hkeep]
    exact ih fun c' hc' => h c' (List.mem_cons_of_mem c hc')

/-! ## Absorbing an object again -/

/-- A record that absorbed an object, and filled nothing, absorbs it again without a change, as long as it
shows the Ready condition that it took from it. -/
theorem absorb_again {now : Timestamp} {object : Value} {r r' v : Record} {seen : Seen}
    (h : r.absorb now object = (.ok seen, r')) (unfilled : seen.lateInitialized = false)
    (same : v.resource = r'.resource) (ready : v.condition? "Ready" = r'.condition? "Ready")
    (later : Timestamp) : v.absorb later object = (.ok seen, v) := by
  have hseen : r.resource.seenIn object = .ok seen := by rw [← seen_absorb now, h]
  have hres : v.resource = r.resource.absorb object := by rw [same, ← resource_absorb now, h]
  have hr' : r' = ({ r with resource := r.resource.absorb object } : Record).setConditions
      ((r.resource.readyIn object).toList.map (· now)) := by rw [← record_absorb, h]
  obtain ⟨hagain, hsees⟩ := Resource.absorb_again hseen unfilled
  refine Prod.ext ?_ ?_
  · rw [seen_absorb, hres, hsees]
  · rw [record_absorb, hres, hagain, Resource.readyIn_absorb, ← hres]
    refine setConditions_of_shows fun c hc => ?_
    cases hready : r.resource.readyIn object with
    | none => rw [hready] at hc; cases hc
    | some condition =>
      rw [hready] at hc hr'
      cases List.mem_singleton.mp hc
      have hshows := shows_setConditions { r with resource := r.resource.absorb object } (condition now)
      rw [show Record.setConditions _ [condition now] = r' from hr'.symm] at hshows
      -- both conditions are made the same way, and say nothing about their times
      rcases Resource.readyIn_cases hready with rfl | rfl
      · exact hshows.congr ready
      · exact hshows.congr ready

/-! ## Preparing again -/

theorem nameByDefault_again {r r' : Record} (hk : r'.kind = r.kind)
    (hm : r'.metadata = r.nameByDefault.metadata) : r'.nameByDefault = r' := by
  have hexternal : r'.externalName = r.nameByDefault.externalName := congrArg Metadata.externalName hm
  rw [externalName_nameByDefault] at hexternal
  unfold nameByDefault at hm ⊢
  rw [hk]
  by_cases hnamed : (r.kind.foundByName && !r.externalName.truthy) = true
  · -- its name was taken from the record, and if that is empty it is taken once more
    rw [if_pos hnamed] at hm
    split
    · have hname : r'.name = r.name := by
        unfold name
        rw [hm]
        rfl
      have hset : r'.metadata.setExternalName (.text r'.name) = r'.metadata := by
        rw [hm, hname]
        exact r.metadata.setExternalName_setExternalName _ _
      unfold setExternalName
      rw [hset]
    · rfl
  · rw [if_neg hnamed] at hexternal
    rw [hexternal, if_neg hnamed]

end Record

/-- A pointer resolved twice is resolved. -/
theorem Pointer.resolve_resolve (n : Resolver) (x : Pointer) : (x.resolve n).resolve n = x.resolve n := by
  have href : ((x.resolve n).resolve n).reference = (x.resolve n).reference := x.settled_resolve n n rfl
  have hvalue : ((x.resolve n).resolve n).value = (x.resolve n).value := by
    show n.fieldOr x.kind.name x.identity ((x.resolve n).resolve n).reference (x.resolve n).value = _
    rw [href]
    show n.fieldOr x.kind.name x.identity (x.resolve n).reference
      (n.fieldOr x.kind.name x.identity (x.resolve n).reference x.value)
        = n.fieldOr x.kind.name x.identity (x.resolve n).reference x.value
    unfold Resolver.fieldOr
    cases (x.resolve n).reference.bind fun r => n.resolve? x.kind.name r.name x.identity <;> rfl
  show ({ x with reference := ((x.resolve n).resolve n).reference, value := ((x.resolve n).resolve n).value } :
    Pointer) = { x with reference := (x.resolve n).reference, value := (x.resolve n).value }
  rw [href, hvalue]

namespace Record

/-- A record whose pointers are resolved stays as it is. -/
theorem resolve_of_pointers {n : Resolver} {r : Record}
    (h : r.resource.pointers.map (·.resolve n) = r.resource.pointers) : r.resolve n = r := by
  unfold resolve
  cases hr : r.resource with
  | organization p o => rfl
  | bucket p o =>
    rw [hr] at h
    simp only [Resource.pointers, List.map_cons, List.map_nil, Pointer.resolve, List.cons.injEq,
      Pointer.mk.injEq, and_true, true_and] at h
    obtain ⟨hvalue, href⟩ := h
    dsimp only [Bucket.Parameters.resolve]
    rw [hvalue, href, ← hr]
  | mapping p o =>
    rw [hr] at h
    simp only [Resource.pointers, List.map_cons, List.map_nil, Pointer.resolve, List.cons.injEq,
      Pointer.mk.injEq, and_true, true_and] at h
    obtain ⟨⟨hbucket, hbucketRef⟩, horg, horgRef⟩ := h
    dsimp only [Mapping.Parameters.resolve]
    rw [hbucket, hbucketRef, horg, horgRef, ← hr]

/-- A record whose pointers were resolved stays as it is when they are resolved by the same. -/
theorem resolve_again {n n' : Resolver} {r r' : Record}
    (hp : r'.resource.pointers = r.resource.pointers.map (·.resolve n))
    (agree : ∀ x ∈ r'.resource.pointers, n.AgreesOn n' x.kind) : r'.resolve n' = r' := by
  rw [resolve_congr agree]
  refine resolve_of_pointers ?_
  rw [hp, List.map_map]
  exact List.map_congr_left fun x _ => x.resolve_resolve n

/-! ## Looking up again -/

/-- What a lookup asks of the organization that a record points to. -/
def orgAsked (r : Record) : Value :=
  ((r.resource.pointers.find? fun x : Pointer => x.key = "org").elim .null Pointer.value).orElse .null

/-- A lookup depends on the kind and external name of a record, and on what it points to. -/
theorem lookup?_eq (r : Record) :
    r.lookup? = match r.kind with
      | .organization => some (.findOrganization r.externalName)
      | .bucket => some (.findBucket r.externalName)
      | .mapping =>
        if r.externalName.truthy then some (.listMappings r.orgAsked .null r.externalName) else none := by
  unfold lookup? kind orgAsked
  cases r.resource with
  | organization p o => rfl
  | bucket p o => rfl
  | mapping p o => rfl

theorem found?_congr {r r' : Record} (hk : r'.kind = r.kind) (hn : r'.externalName = r.externalName)
    (outcome : Except Fault Value) : r'.found? outcome = r.found? outcome := by
  have hlooked : r'.lookedUp? = r.lookedUp? := by
    unfold lookedUp?
    rw [hn]
    unfold kind at hk
    cases hr : r.resource <;> cases hr' : r'.resource <;> simp [hr, hr', Resource.kind] at hk ⊢
  unfold found?
  rw [hlooked, hk]

/-- Records with the same lookup send the same request. -/
theorem lookupRequest?_congr {c : Client} {r r' : Record} (named : r.Named) (named' : r'.Named)
    (h : r'.lookup? = r.lookup?) : r'.lookupRequest? c = r.lookupRequest? c := by
  have hrequest := request_lookup c named'
  rw [h, request_lookup c named] at hrequest
  exact (Option.map_injective (fun _ _ => Except.ok.inj) hrequest).symm

/-- A record that has a lookup sends it. -/
theorem length_lookupRequest_pos {c : Client} {r : Record} (named : r.Named) (asked : r.lookup? ≠ none) :
    0 < (r.lookupRequest? c).toList.length := by
  cases hq : r.lookupRequest? c with
  | none => exact absurd (lookup?_of_no_request named hq) asked
  | some q => exact Nat.one_pos

end Record

namespace Work

variable {s : Setup} {c : Client} {resolver resolver' : Option Resolver}

/-- What a lookup finds depends on the call and on the answer to it. -/
theorem finding_congr {w v : Work} (hk : v.record.kind = w.record.kind)
    (hn : v.record.externalName = w.record.externalName) (hl : v.record.lookup? = w.record.lookup?)
    (answered : w.record.lookup? ≠ none → v.next = w.next) : v.finding c = w.finding c := by
  unfold finding
  rw [hl]
  cases hcall : w.record.lookup? with
  | none => rfl
  | some call =>
    dsimp only
    rw [Record.found?_congr hk hn, outcome_of_lookup (hl.trans hcall), outcome_of_lookup hcall,
      answered (by rw [hcall]; nofun)]

/-! ## Settling again -/

/-- The conditions set before a plan are shown then, and so they are when they are set at another time. -/
theorem shows_readiness (deleting : Bool) (seen : Seen) (now later : Timestamp) (r : Record) :
    ∀ c ∈ (readiness deleting seen).map (· later), c.type = "Ready" ∧
      (r.setConditions ((readiness deleting seen).map (· now))).Shows c.type c.status c.reason
        c.message := by
  unfold readiness
  cases deleting with
  | true =>
    intro c hc
    cases List.mem_singleton.mp hc
    exact ⟨rfl, r.shows_setConditions (.deleting now)⟩
  | false =>
    cases seen.present with
    | true => intro c hc; cases hc
    | false =>
      intro c hc
      cases List.mem_singleton.mp hc
      exact ⟨rfl, r.shows_setConditions (.creating now)⟩

/-- A record that shows already what settling it would set is left alone if there is nothing to do. -/
theorem settle_of_shows {w : Work} {seen : Seen} (plan : plan? w.record.deleting seen = none)
    (ready : ∀ c ∈ (readiness w.record.deleting seen).map (· w.wire.now),
      w.record.Shows c.type c.status c.reason c.message)
    (synced : w.record.Shows "Synced" "True" "ReconcileSuccess" "") :
    w.settle c seen = (.ok (w.succeed .nothing seen.lateInitialized).1, w) := by
  have hready : w.setConditions (readiness w.record.deleting seen) = w := by
    show w.withRecord _ = w
    rw [Record.setConditions_of_shows ready]
    rfl
  have hsynced : w.setConditions [.synced] = w := by
    have h : w.record.setConditions [.synced w.wire.now] = w.record :=
      Record.setConditions_of_shows (by simpa [Condition.synced] using synced)
    show w.withRecord (w.record.setConditions [.synced w.wire.now]) = w
    rw [h]
    rfl
  unfold settle
  dsimp only
  rw [hready, plan]
  show (Except.ok (w.succeed .nothing seen.lateInitialized).1, w.setConditions [.synced]) = _
  rw [hsynced]

/-! ## A record at rest -/

/-- A record as a reconcile leaves it that saw something and had nothing to do about it. -/
structure Rests (c : Client) (resolver : Option Resolver) (w : Work) (seen : Seen) (r : Record) :
    Prop where
  look : (w.prepare resolver).look c = (.ok seen, w.looked c resolver)
  plan : w.planned? c resolver = none
  metadata : r.metadata = (w.prepare resolver).record.metadata
  resource : r.resource = (w.looked c resolver).record.resource
  ready : r.condition? "Ready" = ((w.looked c resolver).poised seen).record.condition? "Ready"
  synced : r.Shows "Synced" "True" "ReconcileSuccess" ""

/-- A success that did nothing leaves its record at rest. -/
theorem rests_of_idle {w w₁ : Work} {result : Result} (h : Ends c resolver w result w₁)
    (success : result.success = true) (idle : result.action = .nothing) :
    ∃ seen, w.Rests c resolver seen w₁.record ∧ seen.lateInitialized = result.lateInitialized ∧
      w₁.wire.sent = (w.looked c resolver).wire.sent ∧
      result = ⟨w.record.kind, w.record.name, true, .nothing, "", seen.lateInitialized⟩ := by
  cases h with
  | unseen finding => cases success
  | done look plan mutated => cases idle
  | undone look plan mutated => cases success
  | @idle seen look plan =>
    have hcard := w.card_looked c resolver
    refine ⟨seen, ⟨look, plan, ?_, rfl, ?_, ?_⟩, rfl, rfl, ?_⟩
    · exact metadata_look c (w.prepare resolver)
    · exact Record.condition?_setConditions_of_ne (show "Synced" ≠ "Ready" by decide) _
    · exact Record.shows_setConditions _ (.synced _)
    · rw [← show (w.looked c resolver).record.kind = w.record.kind from congrArg Prod.fst hcard,
        ← show (w.looked c resolver).record.name = w.record.name from congrArg (·.2.1) hcard]
      rfl

namespace Rests

variable {w v : Work} {seen : Seen} (h : w.Rests c resolver seen v.record)

include h

theorem kind : v.record.kind = (w.prepare resolver).record.kind := by
  unfold Record.kind
  rw [h.resource]
  exact kind_look c (w.prepare resolver)

theorem externalName : v.record.externalName = (w.prepare resolver).record.externalName :=
  congrArg Metadata.externalName h.metadata

theorem deleting : v.record.deleting = w.record.deleting := by
  rw [← deleting_prepare w resolver]
  unfold Record.deleting
  rw [h.metadata]

theorem pointers : v.record.resource.pointers = (w.prepare resolver).record.resource.pointers := by
  rw [h.resource, looked, pointers_look]

theorem lookup? : v.record.lookup? = (w.prepare resolver).record.lookup? := by
  rw [Record.lookup?_eq, Record.lookup?_eq, h.kind, h.externalName]
  unfold Record.orgAsked
  rw [h.pointers]

/-- It is prepared already. -/
theorem prepare (reads : v.record.ReadsAlike resolver resolver') : v.prepare resolver' = v := by
  have hname : v.record.nameByDefault = v.record :=
    Record.nameByDefault_again (h.kind.trans (w.kind_prepare resolver))
      (h.metadata.trans (w.metadata_prepare resolver))
  have hrecord : (v.prepare resolver').record = v.record := by
    rw [record_prepare, hname]
    cases resolver with
    | none =>
      cases resolver' with
      | none => rfl
      | some n' => exact absurd reads id
    | some n =>
      cases resolver' with
      | none => exact absurd reads id
      | some n' => exact Record.resolve_again (h.pointers.trans (pointers_prepare n w)) reads
  show (⟨(v.prepare resolver').record, v.wire, v.events⟩ : Work) = v
  rw [hrecord]

/-- What it shows as ready is what would be set before a plan, at any time. -/
theorem shows_ready (later : Timestamp) :
    ∀ condition ∈ (readiness v.record.deleting seen).map (· later),
      v.record.Shows condition.type condition.status condition.reason condition.message := by
  rw [h.deleting, ← deleting_looked c resolver w]
  intro condition hc
  obtain ⟨htype, hshows⟩ := shows_readiness _ seen (w.looked c resolver).wire.now later
    (w.looked c resolver).record condition hc
  rw [htype] at hshows ⊢
  exact hshows.congr h.ready

/-- Looking it up again, with the same answer, sees the same and changes nothing. -/
theorem look_again (unfilled : seen.lateInitialized = false)
    (answered : v.record.lookup? ≠ none → v.next = w.next) : v.look c = (.ok seen, v.asked c) := by
  have hfinding : v.finding c = (w.prepare resolver).finding c :=
    finding_congr h.kind h.externalName h.lookup? fun hasked => answered (h.lookup? ▸ hasked)
  rw [look_eq, hfinding]
  rcases look_ok h.look with ⟨hf, rfl, -⟩ | ⟨object, r, hf, ha, hlooked⟩
  · rw [hf]
  · have hpresent := (Record.absorb_ok (finding_plain hf) ha).1
    -- nothing is to do about what was found, so it is not to be deleted
    have hunmarked : w.record.deleting = false := by
      have hplan := h.plan
      rw [planned_of_look h.look] at hplan
      cases hd : w.record.deleting with
      | false => rfl
      | true => simp [plan?, hd, hpresent] at hplan
    have habsorbed : ((w.looked c resolver).poised seen).record = r := by
      unfold poised readiness
      rw [deleting_looked, hunmarked, hpresent, hlooked]
      rfl
    have hresource : v.record.resource = r.resource := by
      rw [h.resource, hlooked, record_withRecord]
    have hready := h.ready
    rw [habsorbed] at hready
    rw [hf]
    dsimp only
    rw [Record.absorb_again ha unfilled hresource hready]
    show (Except.ok seen, (v.asked c).withRecord v.record) = _
    rw [← record_asked c v]
    rfl

/-- Settling it again, at any time, changes nothing. -/
theorem settle_again {u : Work} (same : u.record = v.record) :
    u.settle c seen =
      (.ok ⟨w.record.kind, w.record.name, true, .nothing, "", seen.lateInitialized⟩, u) := by
  have hname : v.record.name = w.record.name := by
    rw [← name_prepare w resolver]
    unfold Record.name
    rw [h.metadata]
  rw [← kind_prepare w resolver, ← h.kind, ← hname, ← same]
  refine settle_of_shows ?_ ?_ ?_
  · rw [same, h.deleting, ← planned_of_look h.look, h.plan]
  · rw [same]; exact h.shows_ready _
  · rw [same]; exact h.synced

end Rests

/-- A reconcile that had nothing to do has sent the lookup of the record that it leaves. -/
theorem sent_of_idle {w w₁ : Work} {result : Result} (h : w.reconcile s resolver = (.ok result, w₁))
    (success : result.success = true) (idle : result.action = .nothing) :
    w₁.record.Named ∧ w₁.wire.sent = w.wire.sent ++ (w₁.record.lookupRequest? s.client).toList := by
  obtain ⟨seen, hrests, -, hsent, -⟩ := rests_of_idle (reconcile_ends h) success idle
  have hnamed : w₁.record.Named := by
    have hprepared := w₁.prepare_named resolver
    rwa [hrests.prepare (Record.ReadsAlike.refl _ resolver)] at hprepared
  refine ⟨hnamed, ?_⟩
  rw [Record.lookupRequest?_congr (w.prepare_named resolver) hnamed hrests.lookup?]
  exact hsent.trans (sent_look (w.prepare_named resolver))

/-- **A reconcile that had nothing to do is only a lookup when it is made again.** -/
theorem reconcile_again {w w₁ v : Work} {result : Result} (h : w.reconcile s resolver = (.ok result, w₁))
    (success : result.success = true) (idle : result.action = .nothing)
    (unfilled : result.lateInitialized = false) (same : v.record = w₁.record)
    (reads : v.record.ReadsAlike resolver resolver')
    (answered : v.record.lookup? ≠ none → v.next = w.next) :
    v.reconcile s resolver' = (.ok result, v.asked s.client) := by
  obtain ⟨seen, hrests, hlate, -, hresult⟩ := rests_of_idle (reconcile_ends h) success idle
  rw [← same] at hrests
  have hprepared : v.prepare resolver' = v := hrests.prepare reads
  have hlook : (v.prepare resolver').look s.client = (.ok seen, v.asked s.client) := by
    rw [hprepared]
    exact hrests.look_again (hlate.trans unfilled) answered
  have hhandled : v.record.kind ∈ s.kinds := by
    rw [hrests.kind, kind_prepare]
    exact (reconcile_ok h).1
  rw [reconcile_of_look hhandled hlook, hrests.settle_again (record_asked s.client v), hresult]

end Work

end InfluxKeeper
