import InfluxKeeper.Proofs.Reconcile.Absorb

/-!
# The requests of one pass

A pass sends the lookup of its record and then at most one mutation. Which one is decided by three things
only: the mark for deletion, what the lookup found, and whether the object found is as the record wants it
once the record has filled its open parameters from it. `FollowsLookup` says so of the requests after a
lookup, and where they go.

> `reconcile_requests`: the requests of a reconcile that ends with a result are the lookup of the prepared
> record and requests that follow what it found.

The record is prepared before it is looked up, and the object found is absorbed before a mutation is
addressed. So the id in an address is that of the object found, whatever id was observed before.
-/

namespace InfluxKeeper

open Api

namespace Record

/-- The path of the object found for a record: by the object's own id, or for a mapping by the external
name. -/
def objectPath (object : Value) (r : Record) : String :=
  match r.kind with
  | .organization => "/orgs/" ++ object.ownId.shown
  | .bucket => "/buckets/" ++ object.ownId.shown
  | .mapping => "/dbrps/" ++ r.externalName.shown

/-- Requests that follow what the lookup of a record found. -/
structure FollowsLookup (c : Client) (r : Record) (finding : Except Failure (Option Value))
    (more : List Request) : Prop where
  /-- A record without a lookup counts as absent. -/
  unasked : r.lookupRequest? c = none → finding = .ok none
  /-- A lookup that failed is followed by nothing. -/
  failed : ∀ t, finding = .error (.reported t) → more = []
  /-- There is at most one request. -/
  single : more.length ≤ 1
  /-- Every request is a mutation. -/
  mutations : ∀ q ∈ more, ∃ m : Mutation, q.method = m.method
  /-- What is marked for deletion and found is deleted. -/
  deletes : (∃ q ∈ more, q.method = "DELETE") ↔
    r.deleting = true ∧ ∃ object, finding = .ok (some object)
  /-- What is not marked and absent is created. -/
  creates : (∃ q ∈ more, q.method = "POST") ↔ r.deleting = false ∧ finding = .ok none
  /-- What is not marked, found, and not as wanted is updated. -/
  updates : (∃ q ∈ more, q.method = "PATCH") ↔
    r.deleting = false ∧ ∃ object, finding = .ok (some object) ∧ r.upToDate object = .ok false
  /-- A creation goes to the resources of the kind. -/
  created : ∀ q ∈ more, q.method = "POST" → q.url = c.base ++ r.kind.path
  /-- An update or a deletion goes to the object found. -/
  addressed : ∀ q ∈ more, q.method ≠ "POST" →
    ∃ object, finding = .ok (some object) ∧ q.url = c.base ++ r.objectPath object

variable {c : Client} {r : Record}

/-- The one request of a plan is known by its method. -/
theorem method_mem_planned (plan : Option Mutation) (m : Mutation) :
    (∃ q ∈ (plan.map (r.mutationRequest c)).toList, q.method = m.method) ↔ plan = some m := by
  cases plan with
  | none => simp
  | some n =>
    constructor
    · rintro ⟨q, hq, hm⟩
      rw [List.mem_singleton.mp hq, method_mutationRequest] at hm
      rw [Mutation.method_injective hm]
    · intro h
      cases h
      exact ⟨_, List.mem_singleton_self _, method_mutationRequest c r m⟩

/-- A plan gives at most one request, and that is a mutation. -/
theorem planned_mutations (plan : Option Mutation) :
    (plan.map (r.mutationRequest c)).toList.length ≤ 1 ∧
      ∀ q ∈ (plan.map (r.mutationRequest c)).toList, ∃ m : Mutation, q.method = m.method := by
  cases plan with
  | none => simp
  | some m => simpa using ⟨m, method_mutationRequest c r m⟩

/-- A request of a plan that is no creation goes to the record's own resource. -/
theorem url_mem_planned {plan : Option Mutation} {q : Request}
    (hq : q ∈ (plan.map (r.mutationRequest c)).toList) :
    (q.method = "POST" → q.url = c.base ++ r.kind.path) ∧
      (q.method ≠ "POST" → q.url = c.base ++ r.path) := by
  cases plan with
  | none => cases hq
  | some m =>
    rw [List.mem_singleton.mp hq, method_mutationRequest]
    constructor
    · intro h
      rw [Mutation.method_injective (n := .create) h]
      exact url_create c r
    · intro h
      exact url_of_ne_create c r fun hm => h (congrArg Mutation.method hm)

/-- Once an object was absorbed, the path of the record's own resource is that of the object. -/
theorem path_absorb {now : Timestamp} {object : Value} {r' : Record} {seen : Seen}
    (hp : object.Plain) (h : r.absorb now object = (.ok seen, r')) :
    r'.path = r.objectPath object := by
  have hk : r'.kind = r.kind := by rw [← kind_absorb now object r, h]
  have hn : r'.externalName = r.externalName := by
    unfold externalName
    rw [← metadata_absorb now object r, h]
  obtain ⟨-, -, hid⟩ := absorb_ok hp h
  unfold path objectPath
  rw [hk, hn]
  cases hr : r.kind with
  | mapping => rfl
  | _ =>
    obtain ⟨id, ho, hi⟩ := hid (by rw [hr]; nofun)
    dsimp only
    rw [ho, hi]

/-- What is planned for an absent resource follows the lookup. -/
theorem follows_absent :
    FollowsLookup c r (.ok none) ((plan? r.deleting .absent).map (r.mutationRequest c)).toList := by
  have plan (m : Mutation) := (method_mem_planned (c := c) (r := r)
    (plan? r.deleting .absent) m).trans (plan_eq_some_iff _ _ m)
  obtain ⟨hsingle, hmut⟩ := planned_mutations (c := c) (r := r) (plan? r.deleting .absent)
  refine ⟨fun _ => rfl, ?_, hsingle, hmut, ?_, ?_, ?_, ?_, ?_⟩
  · intro t ht; cases ht
  · refine (plan .delete).trans ?_
    simp [Seen.absent]
  · refine (plan .create).trans ?_
    simp [Seen.absent]
  · refine (plan .update).trans ?_
    simp [Seen.absent]
  · intro q hq hpost
    exact (url_mem_planned hq).1 hpost
  · -- all that is planned is its creation
    intro q hq hne
    obtain ⟨m, hm⟩ := hmut q hq
    have hp := (plan m).mp ⟨q, hq, hm⟩
    cases m with
    | create => exact absurd hm hne
    | update => simp [Seen.absent] at hp
    | delete => simp [Seen.absent] at hp

/-- What is planned for a resource that was found follows the lookup, once its object was absorbed. -/
theorem follows_found {now : Timestamp} {object : Value} {r' : Record} {seen : Seen}
    (hplain : object.Plain) (ha : r.absorb now object = (.ok seen, r'))
    (asked : r.lookupRequest? c ≠ none) :
    FollowsLookup c r (.ok (some object))
      ((plan? r'.deleting seen).map (r'.mutationRequest c)).toList := by
  have hd : r'.deleting = r.deleting := by
    unfold deleting
    rw [← metadata_absorb now object r, ha]
  have hk : r'.kind = r.kind := by rw [← kind_absorb now object r, ha]
  obtain ⟨hpresent, hup, -⟩ := absorb_ok hplain ha
  -- the plan is made from the mark of the prepared record, and its requests from what was absorbed
  have plan (m : Mutation) := (method_mem_planned (c := c) (r := r')
    (plan? r.deleting seen) m).trans (plan_eq_some_iff _ _ m)
  obtain ⟨hsingle, hmut⟩ := planned_mutations (c := c) (r := r') (plan? r.deleting seen)
  rw [hd]
  refine ⟨fun hq => absurd hq asked, ?_, hsingle, hmut, ?_, ?_, ?_, ?_, ?_⟩
  · intro t ht; cases ht
  · refine (plan .delete).trans ?_
    simp [hpresent]
  · refine (plan .create).trans ?_
    simp [hpresent]
  · refine (plan .update).trans ?_
    simp [hpresent, hup]
  · intro q hq hpost
    rw [(url_mem_planned hq).1 hpost, hk]
  · intro q hq hne
    exact ⟨object, rfl, by rw [(url_mem_planned hq).2 hne, path_absorb hplain ha]⟩

end Record

namespace Work

variable {s : Setup} {c : Client} {resolver : Option Resolver}

/-- A record without a lookup is not found. -/
theorem finding_of_unasked {w : Work} (named : w.record.Named)
    (h : w.record.lookupRequest? c = none) : w.finding c = .ok none := by
  unfold finding
  rw [Record.lookup?_of_no_request named h]

/-- Settling what a lookup saw sends what follows the lookup. -/
theorem settle_follows {w w₁ : Work} {seen : Seen} (named : w.record.Named)
    (h : w.look c = (.ok seen, w₁)) :
    ∃ more, (w₁.settle c seen).2.wire.sent
        = w.wire.sent ++ (w.record.lookupRequest? c).toList ++ more ∧
      Record.FollowsLookup c w.record (w.finding c) more := by
  refine ⟨((plan? w₁.record.deleting seen).map (w₁.record.mutationRequest c)).toList, ?_, ?_⟩
  · rw [settle_sent]
    congr 1
    rcases look_ok h with ⟨-, -, rfl⟩ | ⟨_, _, -, -, rfl⟩
    · exact sent_asked named
    · exact sent_asked named
  · rcases look_ok h with ⟨hf, rfl, rfl⟩ | ⟨object, r, hf, ha, rfl⟩
    · rw [record_asked, hf]
      exact Record.follows_absent
    · have hplain := finding_plain hf
      rw [record_withRecord, hf]
      refine Record.follows_found hplain ha fun hq => ?_
      have hnone := finding_of_unasked named hq
      rw [hf] at hnone
      cases hnone

/-- **The requests of a reconcile.** A reconcile that ends with a result has sent the lookup of the
prepared record, and then what follows from the lookup. -/
theorem reconcile_requests {w w' : Work} {result : Result}
    (h : w.reconcile s resolver = (.ok result, w')) :
    ∃ more, w'.wire.sent = w.wire.sent ++
        ((w.prepare resolver).record.lookupRequest? s.client).toList ++ more ∧
      Record.FollowsLookup s.client (w.prepare resolver).record
        ((w.prepare resolver).finding s.client) more := by
  have named := w.prepare_named resolver
  obtain ⟨-, hp⟩ := reconcile_ok h
  rcases pass_ok hp with ⟨t, hf, hfail⟩ | ⟨seen, w₁, hl, hs⟩
  · cases hfail
    refine ⟨[], ?_, ?_⟩
    · rw [List.append_nil]
      exact sent_asked named
    · refine ⟨finding_of_unasked named, fun _ _ => rfl, Nat.zero_le 1, ?_, ?_, ?_, ?_, ?_, ?_⟩
      all_goals simp [hf]
  · obtain ⟨more, hsent, hfollows⟩ := settle_follows named hl
    rw [hs] at hsent
    exact ⟨more, hsent, hfollows⟩

/-- An organization whose id on the server is not the one observed last. -/
def reidentified : Work :=
  .ofAnswers (.ofName "acme" (.organization ⟨some "wanted"⟩ { Organization.Observation.empty with
      id := .text "old" }))
    [.ofValue (.object [("orgs", .list [.object [("id", .text "new")]])]), .response 200 ""]

/-- The update of such an organization goes to its new id. -/
theorem reconcile_requests_reidentified :
    let s := Setup.ofClient ⟨"http://db", "", 30⟩
    let w' := (reidentified.reconcile s none).2
    w'.wire.sent.map (fun q => (q.method, q.url))
        = [("GET", "http://db/orgs"), ("PATCH", "http://db/orgs/new")] ∧
      ∃ more, w'.wire.sent = reidentified.wire.sent ++
          ((reidentified.prepare none).record.lookupRequest? s.client).toList ++ more ∧
        Record.FollowsLookup s.client (reidentified.prepare none).record
          ((reidentified.prepare none).finding s.client) more := by
  have h : (reidentified.reconcile (Setup.ofClient ⟨"http://db", "", 30⟩) none).1
      = .ok ⟨.organization, "acme", true, .done .update, "", false⟩ := by decide +kernel
  exact ⟨by decide +kernel, reconcile_requests (Prod.fst_eq_iff.mp h)⟩

end Work

end InfluxKeeper
