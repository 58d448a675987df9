import InfluxKeeper.Proofs.Reconcile.Plan

/-!
# Fields that point to other records

A bucket points to its organization, and a mapping to its bucket and organization. `Pointer` is such a field:
where it stands in the body of a creation, what it points to, what it holds, and its reference and selector.
Resolution works on each of them alone (`pointers_resolve`), and nothing else in a reconcile works on them
(`pointers_reconcile`).

> `settled_resolve`: a pointer that was resolved once has the reference that it will have for good, as long
> as selectors pick the same.

A selector picks for a field that is open only. If it picks nothing the field stays open, and it will pick
nothing again; if the field is not open, it stays so.
-/

namespace InfluxKeeper

open Api

/-- A field of a resource that points to another record. -/
structure Pointer where
  key : String
  kind : Kind
  identity : Identity
  value : Value
  reference : Option Reference
  selector : Option Selector

/-- The pointers of a resource. -/
def Resource.pointers : Resource → List Pointer
  | .organization .. => []
  | .bucket p _ => [⟨"orgID", .organization, .id, p.orgID, p.orgIDRef, p.orgIDSelector⟩]
  | .mapping p _ =>
    [⟨"bucketID", .bucket, .id, p.bucketID, p.bucketIDRef, p.bucketIDSelector⟩,
      ⟨"org", .organization, .externalName, p.org, p.orgRef, p.orgSelector⟩]

namespace Pointer

/-- A pointer with its reference resolved. -/
def resolve (n : Resolver) (x : Pointer) : Pointer :=
  let reference := n.pick x.kind.name x.reference x.selector !x.value.truthy
  { x with reference, value := n.fieldOr x.kind.name x.identity reference x.value }

/-- What a pointer points to, and where. -/
def aim (x : Pointer) : String × Kind × Identity × Option Reference :=
  (x.key, x.kind, x.identity, x.reference)

/-- A pointer whose reference stays as it is, whatever it is resolved by, as long as selectors pick what the
given one picks. -/
def Settled (select? : String → List (String × Value) → Option String) (x : Pointer) : Prop :=
  ∀ n : Resolver, n.select? = select? → (x.resolve n).reference = x.reference

/-- A pointer without a reference keeps its value. -/
theorem value_resolve_of_none {n : Resolver} {x : Pointer} (h : (x.resolve n).reference = none) :
    (x.resolve n).value = x.value := by
  show n.fieldOr x.kind.name x.identity (x.resolve n).reference x.value = x.value
  rw [h]
  rfl

/-- A pointer that was resolved is settled. -/
theorem settled_resolve (n : Resolver) (x : Pointer) : (x.resolve n).Settled n.select? := by
  intro n' hn'
  cases hr : (x.resolve n).reference with
  | some ref =>
    show n'.pick _ (x.resolve n).reference _ _ = _
    rw [hr]
    rfl
  | none =>
    -- what is picked depends on the selector and on whether the field is open
    have hvalue := value_resolve_of_none hr
    show n'.pick x.kind.name (x.resolve n).reference x.selector (!(x.resolve n).value.truthy) = none
    have hpick : n.pick x.kind.name x.reference x.selector (!x.value.truthy) = none := hr
    have hreference : x.reference = none := by
      cases hx : x.reference with
      | none => rfl
      | some ref => rw [hx] at hpick; cases hpick
    rw [hreference] at hpick
    rw [hr, hvalue]
    unfold Resolver.pick at hpick ⊢
    rw [hn']
    exact hpick

theorem aim_resolve {n : Resolver} {x : Pointer} (h : x.Settled n.select?) :
    (x.resolve n).aim = x.aim := by
  unfold aim
  rw [h n rfl]
  rfl

/-- A pointer whose reference resolves to a value holds that. -/
theorem value_resolve {n : Resolver} {x : Pointer} {ref : Reference} {v : Value}
    (hr : (x.resolve n).reference = some ref) (hv : n.resolve? x.kind.name ref.name x.identity = some v) :
    (x.resolve n).value = v := by
  show n.fieldOr x.kind.name x.identity (x.resolve n).reference x.value = v
  rw [hr]
  unfold Resolver.fieldOr
  rw [Option.bind_some, hv]
  rfl

end Pointer

/-! ## The pointers of a record -/

/-- A field of the body of a request. -/
def Api.Request.field? (q : Request) (key : String) : Option Value :=
  match q.body with
  | .map entries => Entries.get? entries key
  | _ => none

namespace Record

/-- The pointers of a record that is resolved are resolved one by one. -/
theorem pointers_resolve (n : Resolver) (r : Record) :
    (r.resolve n).resource.pointers = r.resource.pointers.map (·.resolve n) := by
  unfold resolve
  cases hr : r.resource with
  | organization p o => dsimp only; rw [hr]; rfl
  | bucket p o => rfl
  | mapping p o => rfl

/-- The creation of a resource sends what the pointers of its record hold. -/
theorem field?_mutationRequest (c : Client) {r : Record} {x : Pointer} (hx : x ∈ r.resource.pointers)
    (ht : x.value.truthy = true) : (r.mutationRequest c .create).field? x.key = some x.value := by
  have hnull := Value.isNull_of_truthy ht
  unfold mutationRequest
  cases hr : r.resource with
  | organization p o => rw [hr] at hx; cases hx
  | bucket p o =>
    rw [hr] at hx
    cases List.mem_singleton.mp hx
    cases hd : p.description.isNull <;>
      simp [Client.request, Request.field?, Bucket.body, Value.object, Entries.get?, Entries.find?, hd, hnull]
  | mapping p o =>
    rw [hr] at hx
    rcases List.mem_cons.mp hx with rfl | hx
    · rfl
    · cases List.mem_singleton.mp hx
      rfl

end Record

namespace Resource

/-- A resource points to records of kinds before its own. -/
theorem kind_lt_of_mem_pointers {resource : Resource} {x : Pointer} (hx : x ∈ resource.pointers) :
    (Kind.all.map Kind.name).idxOf x.kind.name < (Kind.all.map Kind.name).idxOf resource.kind.name := by
  have hbucket : (Kind.all.map Kind.name).idxOf Kind.organization.name
      < (Kind.all.map Kind.name).idxOf Kind.bucket.name := by decide
  have hmapping : (Kind.all.map Kind.name).idxOf Kind.bucket.name
      < (Kind.all.map Kind.name).idxOf Kind.mapping.name := by decide
  cases resource with
  | organization p o => cases hx
  | bucket p o => cases List.mem_singleton.mp hx; exact hbucket
  | mapping p o =>
    rcases List.mem_cons.mp hx with rfl | hx
    · exact hmapping
    · cases List.mem_singleton.mp hx; exact Nat.lt_trans hbucket hmapping

/-- What a lookup found fills no pointer. -/
theorem pointers_absorb (object : Value) (resource : Resource) :
    (resource.absorb object).pointers = resource.pointers := by
  unfold absorb
  cases resource with
  | organization p o => dsimp only; split <;> rfl
  | bucket p o =>
    dsimp only
    split
    · rfl
    · unfold Bucket.lateInitialize
      split
      · dsimp only; split <;> rfl
      · rfl
  | mapping p o =>
    dsimp only
    split
    · rfl
    · unfold Mapping.lateInitialize
      split <;> rfl

end Resource

namespace Work

variable {s : Setup} {c : Client}

theorem pointers_prepare (n : Resolver) (w : Work) :
    (w.prepare (some n)).record.resource.pointers = w.record.resource.pointers.map (·.resolve n) := by
  rw [record_prepare, ← Record.resource_nameByDefault w.record]
  exact Record.pointers_resolve n w.record.nameByDefault

theorem pointers_look (w : Work) :
    (w.look c).2.record.resource.pointers = w.record.resource.pointers := by
  rw [look_eq]
  split
  · rw [record_asked]
  · rw [record_asked]
  · rw [record_withRecord, Record.resource_absorb, Resource.pointers_absorb]

/-- A reconcile of a record resolves its pointers, and does nothing else to them. -/
theorem pointers_reconcile (n : Resolver) {w : Work} (hk : w.record.kind ∈ s.kinds) :
    (w.reconcile s (some n)).2.record.resource.pointers = w.record.resource.pointers.map (·.resolve n) := by
  rw [resource_reconcile hk, looked, pointers_look, pointers_prepare]

/-- A creation sends what the pointers hold once they are resolved. -/
theorem field?_create {n : Resolver} {w : Work} {q : Request} (hq : q ∈ w.requests s (some n))
    (hm : q.method = Mutation.create.method) {x : Pointer} (hx : x ∈ w.record.resource.pointers)
    (ht : (x.resolve n).value.truthy = true) : q.field? x.key = some (x.resolve n).value := by
  obtain ⟨-, hplan, rfl⟩ := mem_requests_of_method hq hm
  rw [looked_of_create hplan]
  refine Record.field?_mutationRequest s.client (x := x.resolve n) ?_ ht
  rw [pointers_prepare]
  exact List.mem_map_of_mem hx

/-- A creation goes to the path of the record's kind. -/
theorem url_create {n : Option Resolver} {w : Work} {q : Request} (hq : q ∈ w.requests s n)
    (hm : q.method = Mutation.create.method) : q.url = s.client.base ++ w.record.kind.path := by
  obtain ⟨-, hplan, rfl⟩ := mem_requests_of_method hq hm
  rw [looked_of_create hplan, Record.url_create, kind_prepare]

end Work

end InfluxKeeper
