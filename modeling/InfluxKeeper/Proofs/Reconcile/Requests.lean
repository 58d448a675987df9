import InfluxKeeper.Proofs.Success
import InfluxKeeper.Reconcile.Pass

/-!
# The requests of a record

What a record can send, written out: the request of its lookup (`lookupRequest?`) and the request of each
mutation of its resource (`mutationRequest`), with method, address, query and body. The calls of the client
build their requests from untyped bodies, of which an update sends a part only; `request_lookup` and
`request_mutation` say once what comes out, so that no later proof looks into a body again.
-/

namespace InfluxKeeper

open Api

/-! ## What is left of a body or a query -/

/-- The organization in the query about a mapping, if it is set. -/
def Mapping.orgPart (p : Mapping.Parameters) : List (String × Value) :=
  if p.org.truthy then [("org", p.org)] else []

theorem queryOf_orgQuery (p : Mapping.Parameters) (rest : List (String × Value)) :
    queryOf (("org", Mapping.orgQuery p) :: rest) = Mapping.orgPart p ++ queryOf rest := by
  unfold Mapping.orgQuery Mapping.orgPart Value.orElse queryOf
  by_cases h : p.org.truthy = true
  · simp [h, Value.isNull_of_truthy h]
  · simp [h, Value.isNull]

/-- What the update of an organization sends. -/
def Organization.patch (name : Value) (p : Organization.Parameters) : List (String × Value) :=
  [("name", name), ("description", .text (p.description.getD ""))]

theorem updateParts_organization (name id : Value) (p : Organization.Parameters) :
    updateParts ["name", "description"] (.object (Organization.updateBody name id p))
      = .ok (id, .object (Organization.patch name p)) := by
  cases hd : p.description <;>
    simp [updateParts, Organization.updateBody, Organization.body, Organization.patch, Value.object,
      Entries.get?, Entries.find?, hd]

/-- What the update of a bucket sends. -/
def Bucket.patch (name : Value) (p : Bucket.Parameters) : List (String × Value) :=
  [("name", name), ("retentionRules", .list (p.retentionRules.map (·.toValue false)))] ++
    if p.description.isNull then [] else [("description", p.description)]

theorem updateParts_bucket (name id : Value) (p : Bucket.Parameters) :
    updateParts ["name", "description", "retentionRules"]
        (.object (Bucket.body name p ++ [("id", id)]))
      = .ok (id, .object (Bucket.patch name p)) := by
  cases hd : p.description.isNull <;> cases ho : p.orgID.isNull <;> cases hr : p.rp.isNull <;>
    cases hs : p.schemaType.truthy <;>
    simp [updateParts, Bucket.body, Bucket.patch, Value.object, Entries.get?, Entries.find?, hd, ho, hr,
      hs]

/-- The method of a mutation. -/
def Mutation.method : Mutation → String
  | create => "POST"
  | update => "PATCH"
  | delete => "DELETE"

/-- A mutation is known by its method. -/
theorem Mutation.method_injective {m n : Mutation} (h : m.method = n.method) : m = n := by
  cases m <;> cases n <;> simp [method] at h ⊢

/-- The path of the resources of a kind. -/
def Kind.path : Kind → String
  | organization => "/orgs"
  | bucket => "/buckets"
  | mapping => "/dbrps"

namespace Record

/-! ## The lookup -/

/-- The request that looks a record up by its external name. A mapping without an id has none. -/
def lookupRequest? (c : Client) (r : Record) : Option Request :=
  match r.resource with
  | .organization .. => some (c.request "GET" "/orgs" [("org", r.externalName)] .null)
  | .bucket .. => some (c.request "GET" "/buckets" [("name", r.externalName)] .null)
  | .mapping p _ =>
    if r.externalName.truthy then
      some (c.request "GET" "/dbrps" (Mapping.orgPart p ++ [("id", r.externalName)]) .null)
    else none

/-- A record that is found by name has an external name. -/
def Named (r : Record) : Prop := r.kind.foundByName = true → r.externalName.isNull = false

theorem externalName_nameByDefault (r : Record) :
    r.nameByDefault.externalName =
      if r.kind.foundByName && !r.externalName.truthy then .text r.name else r.externalName := by
  unfold nameByDefault
  split
  · exact r.metadata.externalName_setExternalName (.text r.name)
  · rfl

theorem kind_nameByDefault (r : Record) : r.nameByDefault.kind = r.kind := by
  unfold nameByDefault
  split <;> rfl

theorem resource_nameByDefault (r : Record) : r.nameByDefault.resource = r.resource := by
  unfold nameByDefault
  split <;> rfl

theorem nameByDefault_named (r : Record) : r.nameByDefault.Named := by
  intro hk
  rw [kind_nameByDefault] at hk
  rw [externalName_nameByDefault, hk]
  by_cases ht : r.externalName.truthy = true
  · simpa [ht] using Value.isNull_of_truthy ht
  · simp [ht, Value.isNull]

/-- The call that looks a record up has the request written out above. -/
theorem request_lookup (c : Client) {r : Record} (named : r.Named) :
    r.lookup?.map (Call.request c) = (r.lookupRequest? c).map .ok := by
  unfold lookup? lookupRequest?
  cases hr : r.resource with
  | organization p o =>
    have hn : r.externalName.isNull = false := named (by simp [kind, hr, Resource.kind, Kind.foundByName])
    simp [Call.request, queryOf, hn]
  | bucket p o =>
    have hn : r.externalName.isNull = false := named (by simp [kind, hr, Resource.kind, Kind.foundByName])
    simp [Call.request, queryOf, hn]
  | mapping p o =>
    by_cases ht : r.externalName.truthy = true
    · have hn := Value.isNull_of_truthy ht
      have hq : queryOf [("orgID", .null), ("id", r.externalName)] = [("id", r.externalName)] := by
        simp [queryOf, hn, show Value.isNull .null = true from rfl]
      simp [ht, Call.request, queryOf_orgQuery, hq]
    · simp [ht]

theorem lookup?_of_request {c : Client} {r : Record} {q : Request} (named : r.Named)
    (h : r.lookupRequest? c = some q) : ∃ call, r.lookup? = some call ∧ call.request c = .ok q := by
  have hreq := request_lookup c named
  rw [h] at hreq
  exact Option.map_eq_some_iff.mp hreq

theorem lookup?_of_no_request {c : Client} {r : Record} (named : r.Named)
    (h : r.lookupRequest? c = none) : r.lookup? = none := by
  have hreq := request_lookup c named
  rw [h] at hreq
  exact Option.map_eq_none_iff.mp hreq

theorem method_lookupRequest {c : Client} {r : Record} {q : Request}
    (h : r.lookupRequest? c = some q) : q.method = "GET" := by
  unfold lookupRequest? at h
  split at h
  · cases h; rfl
  · cases h; rfl
  · split at h
    · cases h; rfl
    · cases h

/-! ## Mutations -/

/-- The request that brings about a mutation of a record's resource. -/
def mutationRequest (c : Client) (r : Record) (m : Mutation) : Request :=
  match r.resource, m with
  | .organization p _, .create =>
    c.request "POST" "/orgs" [] (.object (Organization.body r.externalName p))
  | .organization p o, .update =>
    c.request "PATCH" ("/orgs/" ++ o.id.shown) [] (.object (Organization.patch r.externalName p))
  | .organization _ o, .delete => c.request "DELETE" ("/orgs/" ++ o.id.shown) [] .null
  | .bucket p _, .create =>
    c.request "POST" "/buckets" [] (.object (Bucket.body r.externalName p))
  | .bucket p o, .update =>
    c.request "PATCH" ("/buckets/" ++ o.id.shown) [] (.object (Bucket.patch r.externalName p))
  | .bucket _ o, .delete => c.request "DELETE" ("/buckets/" ++ o.id.shown) [] .null
  | .mapping p _, .create => c.request "POST" "/dbrps" [] (.object (Mapping.body p))
  | .mapping p _, .update =>
    c.request "PATCH" ("/dbrps/" ++ r.externalName.shown) (Mapping.orgPart p)
      (.object (Mapping.updateBody p))
  | .mapping p _, .delete =>
    c.request "DELETE" ("/dbrps/" ++ r.externalName.shown) (Mapping.orgPart p) .null

/-- The call that mutates a record's resource has the request written out above. -/
theorem request_mutation (c : Client) (r : Record) (m : Mutation) :
    (r.mutation m).request c = .ok (r.mutationRequest c m) := by
  have hq (p : Mapping.Parameters) : queryOf [("org", Mapping.orgQuery p)] = Mapping.orgPart p := by
    rw [queryOf_orgQuery]
    exact List.append_nil _
  unfold mutation mutationRequest
  cases r.resource with
  | organization p o =>
    cases m with
    | create => rfl
    | update => simp only [Call.request, updateParts_organization]; rfl
    | delete => rfl
  | bucket p o =>
    cases m with
    | create => rfl
    | update => simp only [Call.request, updateParts_bucket]; rfl
    | delete => rfl
  | mapping p o =>
    cases m with
    | create => rfl
    | update => simp only [Call.request, hq]
    | delete => simp only [Call.request, hq]

/-- The path of a record's own resource: by the id observed, or for a mapping by its external name. -/
def path (r : Record) : String :=
  match r.kind with
  | .organization => "/orgs/" ++ r.observedId.shown
  | .bucket => "/buckets/" ++ r.observedId.shown
  | .mapping => "/dbrps/" ++ r.externalName.shown

theorem method_mutationRequest (c : Client) (r : Record) (m : Mutation) :
    (r.mutationRequest c m).method = m.method := by
  unfold mutationRequest
  cases r.resource <;> cases m <;> rfl

theorem url_create (c : Client) (r : Record) :
    (r.mutationRequest c .create).url = c.base ++ r.kind.path := by
  unfold mutationRequest kind
  cases r.resource <;> rfl

theorem url_of_ne_create (c : Client) (r : Record) {m : Mutation} (hm : m ≠ .create) :
    (r.mutationRequest c m).url = c.base ++ r.path := by
  unfold mutationRequest path kind observedId
  cases r.resource <;> cases m <;> first | rfl | exact absurd rfl hm

end Record

end InfluxKeeper
