import Mathlib.Control.Monad.Basic
import Mathlib.Data.Prod.Basic
import InfluxKeeper.Proofs.Api.Plain
import InfluxKeeper.Proofs.Reconcile.Requests

/-!
# The steps of a pass

One lemma for each step of a pass that says all that the step does, so that later proofs cite it and do not
unfold the step: `look_eq` for the lookup, `mutate_sent` and `resource_mutate` for a mutation,
`settle_sent` and `resource_settle` for the second half of a pass, and `pass_ok` for a pass that ends with a
result.

The lookup is cut in two. `finding` is what the answer tells: that the resource is absent, or the object
found, or why neither is known; `asked` is the work once the lookup was sent. Only then does the record
absorb the object.
-/

namespace InfluxKeeper

open Api

namespace Record

@[simp] theorem metadata_setConditions (r : Record) (new : List Condition) :
    (r.setConditions new).metadata = r.metadata := rfl

@[simp] theorem resource_setConditions (r : Record) (new : List Condition) :
    (r.setConditions new).resource = r.resource := rfl

@[simp] theorem kind_setConditions (r : Record) (new : List Condition) :
    (r.setConditions new).kind = r.kind := rfl

@[simp] theorem deleting_setConditions (r : Record) (new : List Condition) :
    (r.setConditions new).deleting = r.deleting := rfl

@[simp] theorem mutationRequest_setConditions (c : Client) (r : Record) (new : List Condition)
    (m : Mutation) : (r.setConditions new).mutationRequest c m = r.mutationRequest c m := rfl

/-- A record that takes in an object keeps its metadata. -/
@[simp] theorem metadata_absorb (now : Timestamp) (object : Value) (r : Record) :
    (r.absorb now object).2.metadata = r.metadata := by
  unfold absorb
  cases r.resource with
  | organization p o => dsimp only; split <;> rfl
  | bucket p o => dsimp only; split <;> rfl
  | mapping p o => dsimp only; split <;> rfl

/-- What is found is what the call gave. -/
theorem findOrNone_some {lookedUp : Option (String × String)} {outcome : Except Fault Value} {v : Value}
    (h : findOrNone lookedUp outcome = .ok (some v)) : outcome = .ok v := by
  unfold findOrNone at h
  cases outcome with
  | error fault => dsimp only at h; split at h <;> cases h
  | ok u =>
    dsimp only at h
    split at h
    · cases h
    · cases h; rfl

/-- The object found in a plain answer is plain. -/
theorem found?_plain {r : Record} {outcome : Except Fault Value} {object : Value}
    (hp : ∀ v, outcome = .ok v → v.Plain) (h : r.found? outcome = .ok (some object)) :
    object.Plain := by
  unfold found? at h
  split at h
  · cases h
  · cases h
  · next answer hf =>
    have ha : answer.Plain := hp answer (findOrNone_some hf)
    split at h
    · have hm := mapError_ok_iff.mp h
      unfold firstMapping? at hm
      obtain ⟨content, hc, hm⟩ := bind_ok_iff.mp hm
      have hcontent : (content.orElse (.list [])).Plain :=
        Value.plain_orElse ((Value.plain_orElse ha Entries.plain_nil).getEntry hc) (.list (by simp))
      dsimp only at hm
      split at hm
      · obtain ⟨first, hfirst, hm⟩ := bind_ok_iff.mp hm
        cases hm
        exact hcontent.getFirst hfirst
      · cases hm
    · cases h; exact ha

/-- What a mutation that succeeds does to the record: nothing, or a mapping takes its id from the answer
to its creation. -/
theorem afterMutation_ok {r r' : Record} {m : Mutation} {outcome : Except Fault Value}
    (h : r.afterMutation m outcome = .ok r') :
    r' = r ∨ ∃ answer id, m = .create ∧ r.kind = .mapping ∧ outcome = .ok answer ∧
      (answer.orElse (.map [])).getEntry "id" = .ok id ∧ id.truthy = true ∧
      r' = r.setExternalName id := by
  unfold afterMutation at h
  cases outcome with
  | error fault =>
    dsimp only at h
    split at h
    · cases h; exact Or.inl rfl
    · cases h
  | ok answer =>
    cases m with
    | create =>
      dsimp only at h
      unfold adoptId at h
      cases hr : r.resource with
      | mapping p o =>
        rw [hr] at h
        dsimp only at h
        split at h
        · cases h
        · next id hid =>
          split at h
          · next ht => cases h; exact Or.inr ⟨answer, id, rfl, by rw [kind, hr]; rfl, rfl, hid, ht, rfl⟩
          · cases h
      | _ => rw [hr] at h; cases h; exact Or.inl rfl
    | _ => cases h; exact Or.inl rfl

end Record

namespace Work

variable {c : Client}

/-! ## What a step leaves alone -/

@[simp] theorem record_withRecord (w : Work) (r : Record) : (w.withRecord r).record = r := rfl

@[simp] theorem wire_withRecord (w : Work) (r : Record) : (w.withRecord r).wire = w.wire := rfl

@[simp] theorem record_setConditions (w : Work) (new : List (Timestamp → Condition)) :
    (w.setConditions new).record = w.record.setConditions (new.map (· w.wire.now)) := rfl

@[simp] theorem wire_setConditions (w : Work) (new : List (Timestamp → Condition)) :
    (w.setConditions new).wire = w.wire := rfl

@[simp] theorem record_publish (w : Work) (type : EventType) (message : String) :
    (w.publish type message).record = w.record := rfl

@[simp] theorem wire_publish (w : Work) (type : EventType) (message : String) :
    (w.publish type message).wire = w.wire := rfl

@[simp] theorem record_call (w : Work) (c : Client) (call : Call) :
    (w.call c call).2.record = w.record := rfl

@[simp] theorem wire_prepare (w : Work) (resolver : Option Resolver) :
    (w.prepare resolver).wire = w.wire := rfl

theorem record_prepare (w : Work) (resolver : Option Resolver) :
    (w.prepare resolver).record
      = resolver.elim w.record.nameByDefault (fun n => w.record.nameByDefault.resolve n) := by
  cases resolver <;> rfl

/-- Preparing changes the metadata by the default external name only. -/
@[simp] theorem metadata_prepare (w : Work) (resolver : Option Resolver) :
    (w.prepare resolver).record.metadata = w.record.nameByDefault.metadata := by
  rw [record_prepare]
  cases resolver with
  | none => rfl
  | some n => exact Record.metadata_resolve n _

@[simp] theorem kind_prepare (w : Work) (resolver : Option Resolver) :
    (w.prepare resolver).record.kind = w.record.kind := by
  rw [record_prepare, ← Record.kind_nameByDefault w.record]
  cases resolver with
  | none => rfl
  | some n =>
    show (Record.resolve n w.record.nameByDefault).kind = _
    unfold Record.resolve Record.kind
    cases hr : w.record.nameByDefault.resource <;> simp [hr, Resource.kind]

@[simp] theorem deleting_prepare (w : Work) (resolver : Option Resolver) :
    (w.prepare resolver).record.deleting = w.record.deleting := by
  unfold Record.deleting
  rw [metadata_prepare]
  unfold Record.nameByDefault
  split <;> rfl

@[simp] theorem name_prepare (w : Work) (resolver : Option Resolver) :
    (w.prepare resolver).record.name = w.record.name := by
  unfold Record.name
  rw [metadata_prepare]
  unfold Record.nameByDefault
  split <;> rfl

theorem externalName_prepare (w : Work) (resolver : Option Resolver) :
    (w.prepare resolver).record.externalName = w.record.nameByDefault.externalName :=
  congrArg Metadata.externalName (w.metadata_prepare resolver)

/-- A prepared record that is found by name has an external name. -/
theorem prepare_named (w : Work) (resolver : Option Resolver) :
    (w.prepare resolver).record.Named := by
  intro hk
  rw [kind_prepare, ← Record.kind_nameByDefault] at hk
  rw [externalName_prepare]
  exact w.record.nameByDefault_named hk

/-! ## The lookup -/

/-- What the lookup of the record finds. -/
def finding (c : Client) (w : Work) : Except Failure (Option Value) :=
  match w.record.lookup? with
  | none => .ok none
  | some call => w.record.found? (w.call c call).1

/-- Work once the lookup of the record was sent. -/
def asked (c : Client) (w : Work) : Work :=
  match w.record.lookup? with
  | none => w
  | some call => (w.call c call).2

/-- A lookup asks, and then the record absorbs the object found. -/
theorem look_eq (c : Client) (w : Work) :
    w.look c = match w.finding c with
      | .error failure => (.error failure, w.asked c)
      | .ok none => (.ok .absent, w.asked c)
      | .ok (some object) =>
        ((w.record.absorb (w.asked c).wire.now object).1.mapError .escaped,
          (w.asked c).withRecord (w.record.absorb (w.asked c).wire.now object).2) := by
  unfold look finding asked
  cases hl : w.record.lookup? with
  | none => rfl
  | some call =>
    dsimp only
    rewrite [record_call]
    cases hf : w.record.found? (w.call c call).1 with
    | error failure => rfl
    | ok found => cases found <;> rfl

@[simp] theorem record_asked (c : Client) (w : Work) : (w.asked c).record = w.record := by
  unfold asked
  split <;> rfl

/-- A call that has a request sends it. -/
theorem sent_call {w : Work} {call : Call} {q : Request} (h : call.request c = .ok q) :
    (w.call c call).2.wire.sent = w.wire.sent ++ [q] := by
  unfold Work.call Wire.call
  rw [h]
  rfl

theorem sent_asked {w : Work} (named : w.record.Named) :
    (w.asked c).wire.sent = w.wire.sent ++ (w.record.lookupRequest? c).toList := by
  unfold asked
  cases hq : w.record.lookupRequest? c with
  | none =>
    rw [Record.lookup?_of_no_request named hq]
    simp
  | some q =>
    obtain ⟨call, hl, hcall⟩ := Record.lookup?_of_request named hq
    rw [hl]
    exact sent_call hcall

/-- The outcome of a call is made of the answer that is next on the wire. -/
theorem outcome_call {w : Work} {call : Call} {v : Value} (h : (w.call c call).1 = .ok v) :
    call.outcome (w.wire.script w.wire.sent.length).answer = .ok v := by
  unfold Work.call Wire.call at h
  cases hq : call.request c with
  | error fault => rw [hq] at h; cases h
  | ok q => rw [hq] at h; exact h

/-- The object that a lookup finds is plain. -/
theorem finding_plain {w : Work} {object : Value} (h : w.finding c = .ok (some object)) :
    object.Plain := by
  unfold finding at h
  split at h
  · cases h
  · exact Record.found?_plain (fun v hv => outcome_plain (outcome_call hv)) h

/-! ## Mutations -/

theorem mutate_sent (c : Client) (m : Mutation) (w : Work) :
    (w.mutate c m).2.wire.sent = w.wire.sent ++ [w.record.mutationRequest c m] := by
  unfold mutate
  have hs := sent_call (w := w) (w.record.request_mutation c m)
  dsimp only
  split <;> exact hs

/-- A mutation leaves what the record wants and what was observed of it. -/
@[simp] theorem resource_mutate (c : Client) (m : Mutation) (w : Work) :
    (w.mutate c m).2.record.resource = w.record.resource := by
  unfold mutate
  dsimp only
  split
  · rfl
  · next r' h =>
    rcases Record.afterMutation_ok h with rfl | ⟨_, id, _, _, _, _, _, rfl⟩
    · rfl
    · rfl

/-! ## The second half of a pass -/

/-- Settling sends the request of the mutation planned, and nothing else. -/
theorem settle_sent (c : Client) (seen : Seen) (w : Work) :
    (w.settle c seen).2.wire.sent
      = w.wire.sent ++ ((plan? w.record.deleting seen).map (w.record.mutationRequest c)).toList := by
  unfold settle
  dsimp only
  rw [record_setConditions, Record.deleting_setConditions]
  cases hp : plan? w.record.deleting seen with
  | none => simp [succeed]
  | some m =>
    -- the conditions set before do not show in the request
    have hs := mutate_sent c m (w.setConditions (readiness w.record.deleting seen))
    simp only [record_setConditions, wire_setConditions, Record.mutationRequest_setConditions] at hs
    dsimp only
    -- the request is sent, whether the mutation fails or not
    split <;> next hm => rw [hm] at hs; simpa [succeed, fail] using hs

/-- Settling leaves what the record wants and what was observed of it. -/
@[simp] theorem resource_settle (c : Client) (seen : Seen) (w : Work) :
    (w.settle c seen).2.record.resource = w.record.resource := by
  unfold settle
  dsimp only
  split
  · rfl
  · next m _ =>
    have hr := resource_mutate c m (w.setConditions (readiness w.record.deleting seen))
    rw [record_setConditions, Record.resource_setConditions] at hr
    split <;> next hm => rw [hm] at hr; exact hr

/-! ## A whole pass -/

variable {resolver : Option Resolver} {s : Setup}

/-- A pass that ends with a result has failed at the lookup and reported it, or has settled what the
lookup saw. -/
theorem pass_ok {w w' : Work} {result : Result} (h : w.pass c resolver = (.ok result, w')) :
    (∃ t, (w.prepare resolver).finding c = .error (.reported t) ∧
      ((w.prepare resolver).asked c).fail .cannotObserve t false = (result, w')) ∨
    ∃ seen w₁, (w.prepare resolver).look c = (.ok seen, w₁) ∧
      w₁.settle c seen = (.ok result, w') := by
  unfold pass at h
  split at h
  · cases h
  · next t w₁ hl =>
    cases h
    rw [look_eq] at hl
    split at hl
    · next failure hf =>
      obtain ⟨hfail, rfl⟩ := Prod.mk.injEq .. ▸ hl
      cases hfail
      exact Or.inl ⟨t, hf, rfl⟩
    · cases hl
    · -- a fault of absorbing is not reported, so it does not end in a result
      have hm := (Prod.mk.injEq .. ▸ hl).1
      obtain ⟨_, _, hr⟩ := mapError_error_iff.mp hm
      cases hr
  · next seen w₁ hl => exact Or.inr ⟨seen, w₁, hl, h⟩

theorem resource_pass (c : Client) (resolver : Option Resolver) (w : Work) :
    (w.pass c resolver).2.record.resource = ((w.prepare resolver).look c).2.record.resource := by
  unfold pass
  split
  · next hl => rw [hl]
  · next hl => rw [hl]; rfl
  · next hl => rw [hl, resource_settle]

/-- A reconcile that ends with a result is a pass over a record whose kind is handled. -/
theorem reconcile_ok {w w' : Work} {result : Result}
    (h : w.reconcile s resolver = (.ok result, w')) :
    w.record.kind ∈ s.kinds ∧ w.pass s.client resolver = (.ok result, w') := by
  unfold reconcile ifHandled at h
  split at h
  · cases h
  · next hk => exact ⟨Decidable.not_not.mp hk, h⟩

end Work

/-! ## Work at its start -/

/-- A wire on which answers come in their order. After the last one the server is out of reach. -/
def Api.Wire.ofAnswers (answers : List Answer) : Wire :=
  ⟨.ofSeconds 0 0, [], fun n => ⟨.ofSeconds n 0, answers.getD n (.unreachable "")⟩⟩

/-- An answer whose text is the JSON of a value. -/
def Api.Answer.ofValue (v : Value) : Answer := .response 200 (Json.write v)

/-- A record with nothing but a name and a resource. -/
def Record.ofName (name : String) (resource : Resource) : Record :=
  ⟨Record.defaultApiVersion, ⟨name, [], [], none⟩, [], resource⟩

/-- Work on a record whose requests meet answers in their order. -/
def Work.ofAnswers (r : Record) (answers : List Answer) : Work := ⟨r, .ofAnswers answers, []⟩

/-- A setup that handles all kinds. -/
def Setup.ofClient (c : Client) : Setup := ⟨c, Kind.all, 5, 5⟩

end InfluxKeeper
