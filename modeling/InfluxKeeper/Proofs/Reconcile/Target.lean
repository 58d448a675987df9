import Mathlib.Data.List.Nodup
import InfluxKeeper.Proofs.Reconcile.Plan
import InfluxKeeper.Proofs.Reconcile.Traffic

/-!
# Which resource is touched

An organization or a bucket is looked up by its external name, and what is updated or deleted after that is
the first object that the answer lists.

> `reconcile_touches_first`: an update or a deletion goes to the first object listed. So the object touched is
> one that the record means exactly if the first one is.

The server is asked for objects of the name, and nothing compares the names of the objects in its answer with
it, nor the organizations of buckets with that of the record. `reconcile_touches_other` shows what comes of an
answer that lists others.
-/

namespace InfluxKeeper

open Api

/-! ## The objects of an answer -/

/-- The objects that a value lists under a key: none if there is no list. -/
def Value.listed (key : String) : Value → List Value
  | .map entries =>
    match Entries.get entries key with
    | .list items => items
    | _ => []
  | _ => []

/-- The objects that an answer lists under a key. -/
def Api.Answer.listed (key : String) (a : Answer) : List Value :=
  match a.decode with
  | .ok v => v.listed key
  | .error _ => []

/-- The key under which an answer lists the objects of a kind. -/
def Kind.listKey : Kind → String
  | .organization => "orgs"
  | .bucket => "buckets"
  | .mapping => "content"

/-- A plain map has no first. -/
theorem Value.Plain.getFirst_map_ne {entries : Entries} (hp : Value.Plain (.map entries)) (v : Value) :
    (Value.map entries).getFirst ≠ .ok v := by
  have hnone : Entries.find? entries (.int 0) = none := by
    cases hp with
    | map keys _ =>
      refine Option.map_eq_none_iff.mpr (List.find?_eq_none.mpr fun e he => ?_)
      obtain ⟨key, hkey⟩ := keys e he
      rw [hkey]
      simp [Scalar.isOne, Scalar.same, Scalar.number?]
  intro h
  unfold Value.getFirst at h
  dsimp only at h
  rw [hnone] at h
  cases h

/-- A map that comes first in a plain value is the first of a list. -/
theorem Value.Plain.list_of_getFirst {v : Value} {entries : Entries} (hp : v.Plain)
    (h : v.getFirst = .ok (.map entries)) : ∃ rest, v = .list (.map entries :: rest) := by
  cases v with
  | list items =>
    cases items with
    | nil => cases h
    | cons first rest => cases h; exact ⟨rest, rfl⟩
  | map others => exact absurd h (hp.getFirst_map_ne _)
  | tuple items => cases hp
  | set items => cases hp
  | scalar s =>
    cases hp with
    | scalar plain =>
      cases s with
      | text t =>
        -- the first of a text is a text
        unfold Value.getFirst Value.items? Value.letters at h
        dsimp only at h
        cases ht : t.toList <;> rw [ht] at h <;> cases h
      | bytes octets => exact absurd plain id
      | _ => cases h

/-- What the first of the objects found is: the first of those listed, if it is a map. -/
theorem Api.listed_of_pickFirst {key kind : String} {name answer : Value} {entries : Entries}
    (hp : answer.Plain) (h : pickFirst key kind name answer = .ok (.map entries)) :
    ∃ rest, answer.listed key = .map entries :: rest := by
  unfold pickFirst at h
  obtain ⟨found, hf, h⟩ := bind_ok_iff.mp h
  dsimp only at h
  split at h
  · next ht =>
    have hfound : found.truthy = true := by
      by_contra hn
      rw [Value.orElse, if_neg hn] at ht
      cases ht
    rw [Value.orElse, if_pos hfound] at h
    unfold Value.orElse at hf
    split at hf
    · -- the list stands in the answer itself
      have hplain := hp.getEntry hf
      obtain ⟨rest, rfl⟩ := hplain.list_of_getFirst h
      unfold Value.getEntry at hf
      split at hf
      · refine ⟨rest, ?_⟩
        unfold Value.listed
        dsimp only
        rw [Except.ok.inj hf]
      · cases hf
    · cases hf; cases hfound
  · cases h

/-- What a lookup by name finds is the first that its answer lists. -/
theorem Api.listed_of_decode {key kind : String} {name v : Value} {a : Answer} {entries : Entries}
    (hv : a.decode = .ok v) (h : pickFirst key kind name v = .ok (.map entries)) :
    ∃ rest, a.listed key = .map entries :: rest := by
  unfold Answer.listed
  rw [hv]
  exact listed_of_pickFirst (decode_plain hv) h

/-- The organization that a bucket is wanted in. -/
def Resource.orgID? : Resource → Option Value
  | .bucket p _ => some p.orgID
  | _ => none

namespace Record

/-- Whether an object is one that a record means: it has the external name of the record, and a bucket is in
the organization that it is wanted in. -/
def Means (r : Record) (object : Value) : Prop :=
  object.getEntry "name" = .ok r.externalName ∧
    ∀ org ∈ r.resource.orgID?, object.getEntry "orgID" = .ok org

instance (r : Record) (object : Value) : Decidable (r.Means object) :=
  inferInstanceAs (Decidable (_ ∧ _))

/-- A record takes in maps only. -/
theorem map_of_absorb {now : Timestamp} {object : Value} {r r' : Record} {seen : Seen}
    (h : r.absorb now object = (.ok seen, r')) : ∃ entries, object = .map entries := by
  have hseen : r.resource.seenIn object = .ok seen := by rw [← seen_absorb now, h]
  unfold Resource.seenIn at hseen
  cases object with
  | map entries => exact ⟨entries, rfl⟩
  | _ =>
    cases hr : r.resource <;> rw [hr] at hseen <;> cases hseen

end Record

namespace Work

variable {s : Setup} {c : Client} {resolver : Option Resolver}

/-- The object found for a record that is looked up by name is the first that the answer lists. -/
theorem listed_of_finding {w : Work} {entries : Entries} (hk : w.record.kind ≠ .mapping)
    (h : w.finding c = .ok (some (.map entries))) :
    ∃ rest, w.next.listed w.record.kind.listKey = .map entries :: rest := by
  obtain ⟨call, v, hcall, hout, hfound⟩ := finding_some h
  cases hfound hk
  unfold Record.lookup? at hcall
  unfold Record.kind at hk ⊢
  cases hr : w.record.resource with
  | mapping p o => rw [hr] at hk; exact absurd rfl hk
  | organization p o =>
    rw [hr] at hcall
    cases hcall
    obtain ⟨answer, hanswer, hresult⟩ := bind_ok_iff.mp hout
    exact Api.listed_of_decode hanswer hresult
  | bucket p o =>
    rw [hr] at hcall
    cases hcall
    obtain ⟨answer, hanswer, hresult⟩ := bind_ok_iff.mp hout
    exact Api.listed_of_decode hanswer hresult

/-- A reconcile that updates or deletes has absorbed the object found. -/
theorem absorbed_of_planned {w : Work} {m : Mutation} (h : w.planned? c resolver = some m)
    (hm : m ≠ .create) : ∃ object seen r, (w.prepare resolver).finding c = .ok (some object) ∧
      (w.prepare resolver).record.absorb ((w.prepare resolver).asked c).wire.now object = (.ok seen, r) ∧
      (w.looked c resolver).record = r := by
  unfold planned? at h
  split at h
  · next seen hseen =>
    rcases look_ok (Prod.fst_eq_iff.mp hseen) with ⟨-, rfl, -⟩ | ⟨object, r, hf, ha, hw⟩
    · have hplan := (plan_eq_some_iff _ _ _).mp h
      cases m with
      | create => exact absurd rfl hm
      | update => cases hplan.2.1
      | delete => cases hplan.2
    · exact ⟨object, seen, r, hf, ha, congrArg Work.record hw⟩
  · cases h

/-- An update or a deletion goes to the first object that the answer to the lookup lists. -/
theorem touches_first {w : Work} {q : Request} (hk : w.record.kind ≠ .mapping)
    (hq : q ∈ w.requests s resolver) {m : Mutation} (hm : q.method = m.method) (hne : m ≠ .create) :
    ∃ first rest, w.next.listed w.record.kind.listKey = first :: rest ∧
      q.url = s.client.base ++ (w.prepare resolver).record.objectPath first := by
  obtain ⟨-, hplan, rfl⟩ := mem_requests_of_method hq hm
  obtain ⟨object, seen, r, hf, ha, hr⟩ := absorbed_of_planned hplan hne
  obtain ⟨entries, rfl⟩ := Record.map_of_absorb ha
  obtain ⟨rest, hlisted⟩ := listed_of_finding (by rwa [kind_prepare]) hf
  rw [kind_prepare, next_prepare] at hlisted
  refine ⟨_, rest, hlisted, ?_⟩
  rw [Record.url_of_ne_create _ _ hne, hr, Record.path_absorb (finding_plain hf) ha]

/-- **What is touched is the first object listed.** An update or a deletion of an organization or a bucket
goes to it. If no two objects listed are at one address, the object touched is one that the record means
exactly if the first one is. -/
theorem reconcile_touches_first {w : Work} {more : List Request} {q : Request}
    (hk : w.record.kind ≠ .mapping) (hs : (w.reconcile s resolver).2.wire.sent = w.wire.sent ++ more)
    (hq : q ∈ more) (hm : q.method = "PATCH" ∨ q.method = "DELETE") :
    ∃ first rest, w.next.listed w.record.kind.listKey = first :: rest ∧
      q.url = s.client.base ++ (w.prepare resolver).record.objectPath first ∧
      (((first :: rest).map (w.prepare resolver).record.objectPath).Nodup →
        ((∃ object ∈ first :: rest, q.url = s.client.base ++ (w.prepare resolver).record.objectPath object ∧
            (w.prepare resolver).record.Means object) ↔ (w.prepare resolver).record.Means first)) := by
  rw [reconcile_sent] at hs
  obtain rfl := List.append_cancel_left hs
  obtain ⟨first, rest, hlisted, hurl⟩ : ∃ first rest,
      w.next.listed w.record.kind.listKey = first :: rest ∧
        q.url = s.client.base ++ (w.prepare resolver).record.objectPath first := by
    rcases hm with hm | hm
    · exact touches_first hk hq (m := .update) hm (by decide)
    · exact touches_first hk hq (m := .delete) hm (by decide)
  refine ⟨first, rest, hlisted, hurl, fun unique => ⟨?_, fun h => ⟨first, List.mem_cons_self, hurl, h⟩⟩⟩
  rintro ⟨object, hobject, haddress, hmeans⟩
  rw [hurl] at haddress
  have hpath := (String.append_right_inj _).mp haddress
  rw [List.inj_on_of_nodup_map unique List.mem_cons_self hobject hpath]
  exact hmeans

/-- An organization that is to be deleted, on a server that lists one of another name. -/
def misnamed : Work :=
  .ofAnswers ((Record.ofName "acme" (.organization ⟨none⟩ .empty)).markForDeletion (.ofSeconds 0 0))
    [.ofValue (.object [("orgs", .list [.object [("id", .text "o9"), ("name", .text "Acme")]])]),
      .response 204 ""]

/-- The deletion goes to the organization listed. -/
theorem reconcile_touches_first_misnamed :
    let s := Setup.ofClient ⟨"http://db", "", 30⟩
    let q := s.client.request "DELETE" "/orgs/o9" [] .null
    q ∈ misnamed.requests s none ∧
      ∃ first rest, misnamed.next.listed misnamed.record.kind.listKey = first :: rest ∧
        q.url = s.client.base ++ (misnamed.prepare none).record.objectPath first ∧
        (((first :: rest).map (misnamed.prepare none).record.objectPath).Nodup →
          ((∃ object ∈ first :: rest,
              q.url = s.client.base ++ (misnamed.prepare none).record.objectPath object ∧
              (misnamed.prepare none).record.Means object) ↔
            (misnamed.prepare none).record.Means first)) := by
  intro s q
  have hq : q ∈ misnamed.requests s none := by decide +kernel
  exact ⟨hq, reconcile_touches_first (by decide +kernel) (reconcile_sent s none misnamed) hq (Or.inr rfl)⟩

/-- A bucket that is to be deleted in an organization, on a server that lists one of the same name in
another. -/
def misplaced : Work :=
  .ofAnswers ((Record.ofName "logs" (.bucket { Bucket.Parameters.empty with orgID := .text "o1" }
      .empty)).markForDeletion (.ofSeconds 0 0))
    [.ofValue (.object [("buckets", .list [.object
        [("id", .text "b9"), ("name", .text "logs"), ("orgID", .text "o2")]])]),
      .response 204 ""]

/-- What is deleted need not be what the record means: neither the name nor the organization of the object is
compared. -/
theorem reconcile_touches_other :
    let s := Setup.ofClient ⟨"http://db", "", 30⟩
    ((misnamed.reconcile s none).2.wire.sent.map (fun q => (q.method, q.url))
        = [("GET", "http://db/orgs"), ("DELETE", "http://db/orgs/o9")] ∧
      ¬∃ object ∈ misnamed.next.listed "orgs",
        "http://db/orgs/o9" = s.client.base ++ (misnamed.prepare none).record.objectPath object ∧
          (misnamed.prepare none).record.Means object) ∧
    (misplaced.reconcile s none).2.wire.sent.map (fun q => (q.method, q.url))
        = [("GET", "http://db/buckets"), ("DELETE", "http://db/buckets/b9")] ∧
      ¬∃ object ∈ misplaced.next.listed "buckets",
        "http://db/buckets/b9" = s.client.base ++ (misplaced.prepare none).record.objectPath object ∧
          (misplaced.prepare none).record.Means object := by
  decide +kernel

end Work

end InfluxKeeper
