import InfluxKeeper.Proofs.Reconcile.Pointers

/-!
# The organization that the requests about a mapping are made for

A creation names the organization in its body, any other request in its query, from which what is empty is left
out. All requests of one reconcile are made for the same organization, the one that the mapping has once its
references are resolved:

> `madeFor_requests`
-/

namespace InfluxKeeper

open Api

/-- Whether a request is made for an organization. -/
def Api.Request.MadeFor (q : Request) (org : Value) : Prop :=
  if q.method = Mutation.create.method then q.field? "org" = some org
  else q.query.lookup "org" = if org.truthy then some org else none

instance (q : Request) (org : Value) : Decidable (q.MadeFor org) :=
  inferInstanceAs (Decidable (if q.method = Mutation.create.method then q.field? "org" = some org
    else q.query.lookup "org" = if org.truthy then some org else none))

/-- Of the pointers of a record, the one to the organization of a mapping. -/
theorem Resource.mapping_of_pointer {resource : Resource} {x : Pointer} (hx : x ∈ resource.pointers)
    (hkey : x.key = "org") : ∃ p o, resource = .mapping p o ∧
      x = ⟨"org", .organization, .externalName, p.org, p.orgRef, p.orgSelector⟩ := by
  cases resource with
  | organization p o => cases hx
  | bucket p o =>
    cases List.mem_singleton.mp hx
    simp at hkey
  | mapping p o =>
    rcases List.mem_cons.mp hx with rfl | hx
    · simp at hkey
    · exact ⟨p, o, rfl, List.mem_singleton.mp hx⟩

namespace Record

variable {c : Client} {r : Record} {p : Mapping.Parameters} {o : Mapping.Observation}

theorem lookup_orgPart (p : Mapping.Parameters) (rest : List (String × Value))
    (absent : rest.lookup "org" = none) :
    (Mapping.orgPart p ++ rest).lookup "org" = if p.org.truthy then some p.org else none := by
  unfold Mapping.orgPart
  split
  · simp
  · exact absent

theorem madeFor_lookup (hr : r.resource = .mapping p o) {q : Request}
    (h : r.lookupRequest? c = some q) : q.MadeFor p.org := by
  unfold lookupRequest? at h
  rw [hr] at h
  dsimp only at h
  split at h
  · cases h
    exact lookup_orgPart p _ rfl
  · cases h

theorem madeFor_mutation (hr : r.resource = .mapping p o) (m : Mutation) :
    (r.mutationRequest c m).MadeFor p.org := by
  have query : (Mapping.orgPart p).lookup "org" = if p.org.truthy then some p.org else none := by
    have h := lookup_orgPart p [] rfl
    rwa [List.append_nil] at h
  unfold mutationRequest
  rw [hr]
  cases m with
  | create => rfl
  | update => exact query
  | delete => exact query

end Record

namespace Work

variable {s : Setup}

/-- The requests of a reconcile of a mapping are made for the organization that its pointer resolves to. -/
theorem madeFor_requests {n : Resolver} {w : Work} {q : Request} (hq : q ∈ w.requests s (some n))
    {x : Pointer} (hx : x ∈ w.record.resource.pointers) (hkey : x.key = "org") :
    q.MadeFor (x.resolve n).value := by
  have hprepared : x.resolve n ∈ (w.prepare (some n)).record.resource.pointers := by
    rw [pointers_prepare]
    exact List.mem_map_of_mem hx
  have hlooked : x.resolve n ∈ (w.looked s.client (some n)).record.resource.pointers := by
    rw [looked, pointers_look]
    exact hprepared
  have hresolved : (x.resolve n).key = "org" := hkey
  unfold requests at hq
  split at hq
  · rcases List.mem_append.mp hq with hq | hq
    · obtain ⟨p, o, hr, hp⟩ := Resource.mapping_of_pointer hprepared hresolved
      rw [hp]
      exact Record.madeFor_lookup hr (Option.mem_toList.mp hq)
    · obtain ⟨m, -, rfl⟩ := Option.map_eq_some_iff.mp (Option.mem_toList.mp hq)
      obtain ⟨p, o, hr, hp⟩ := Resource.mapping_of_pointer hlooked hresolved
      rw [hp]
      exact Record.madeFor_mutation hr m
  · cases hq

end Work

end InfluxKeeper
