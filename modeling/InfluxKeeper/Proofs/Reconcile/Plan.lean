import InfluxKeeper.Proofs.Reconcile.Absorb

/-!
# What a reconcile sends, and what it is for

The requests of a reconcile are known once its lookup is: the lookup itself, and then the request of the
mutation that is planned for what was seen. That holds of every reconcile, also of one that ends in a fault.

> `reconcile_sent`: a reconcile sends its `requests` and nothing else.

What a reconcile did is what it planned (`planned_of_action`), and what it leaves of a record is what the
lookup left (`resource_reconcile`). A creation is planned only if nothing was found, so it is made of the
record as it was prepared (`looked_of_create`).
-/

namespace InfluxKeeper

open Api

/-- What a record is known by among others: its kind, its name and its labels. -/
def Record.card (r : Record) : Kind × String × List (String × Value) := (r.kind, r.name, r.metadata.labels)

namespace Record

@[simp] theorem card_setConditions (r : Record) (new : List Condition) :
    (r.setConditions new).card = r.card := rfl

@[simp] theorem card_nameByDefault (r : Record) : r.nameByDefault.card = r.card := by
  unfold nameByDefault
  split <;> rfl

/-- The card of a record is told by its kind and its metadata. -/
theorem card_eq_of_metadata {r r' : Record} (hk : r.kind = r'.kind) (hm : r.metadata = r'.metadata) :
    r.card = r'.card := by
  unfold card name
  rw [hk, hm]

end Record

namespace Work

variable {s : Setup} {c : Client} {resolver : Option Resolver}

/-! ## The lookup -/

/-- The answer that a work's next request meets. -/
def next (w : Work) : Answer := (w.wire.script w.wire.sent.length).answer

@[simp] theorem next_prepare (w : Work) (resolver : Option Resolver) :
    (w.prepare resolver).next = w.next := rfl

/-- What is found is taken from the value that the lookup gave: of a mapping's, the first of those listed, and
otherwise the value itself. -/
theorem finding_some {w : Work} {object : Value} (h : w.finding c = .ok (some object)) :
    ∃ call v, w.record.lookup? = some call ∧ call.outcome w.next = .ok v ∧
      (w.record.kind ≠ .mapping → object = v) := by
  unfold finding at h
  split at h
  · cases h
  next call hcall =>
  unfold Record.found? at h
  split at h
  · cases h
  · cases h
  next v hfound =>
  refine ⟨call, v, hcall, outcome_call (Record.findOrNone_some hfound), fun hk => ?_⟩
  split at h
  · next hmapping => exact absurd hmapping hk
  · cases h; rfl

theorem sent_look {w : Work} (named : w.record.Named) :
    (w.look c).2.wire.sent = w.wire.sent ++ (w.record.lookupRequest? c).toList := by
  rw [look_eq]
  split
  · exact sent_asked named
  · exact sent_asked named
  · exact sent_asked named

@[simp] theorem metadata_look (c : Client) (w : Work) :
    (w.look c).2.record.metadata = w.record.metadata := by
  rw [look_eq]
  split
  · rw [record_asked]
  · rw [record_asked]
  · rw [record_withRecord, Record.metadata_absorb]

@[simp] theorem kind_look (c : Client) (w : Work) : (w.look c).2.record.kind = w.record.kind := by
  rw [look_eq]
  split
  · rw [record_asked]
  · rw [record_asked]
  · rw [record_withRecord, Record.kind_absorb]

/-- Work once its record was prepared and looked up, and has taken in what was found. -/
def looked (c : Client) (resolver : Option Resolver) (w : Work) : Work :=
  ((w.prepare resolver).look c).2

@[simp] theorem card_looked (c : Client) (resolver : Option Resolver) (w : Work) :
    (w.looked c resolver).record.card = w.record.card := by
  rw [← Record.card_nameByDefault w.record]
  refine Record.card_eq_of_metadata ?_ ?_
  · rw [looked, kind_look, kind_prepare, Record.kind_nameByDefault]
  · rw [looked, metadata_look, metadata_prepare]

@[simp] theorem deleting_looked (c : Client) (resolver : Option Resolver) (w : Work) :
    (w.looked c resolver).record.deleting = w.record.deleting := by
  rw [← deleting_prepare w resolver]
  unfold Record.deleting
  rw [looked, metadata_look]

/-! ## The plan -/

/-- The mutation that a reconcile plans: none if its lookup fails. -/
def planned? (c : Client) (resolver : Option Resolver) (w : Work) : Option Mutation :=
  match ((w.prepare resolver).look c).1 with
  | .ok seen => plan? w.record.deleting seen
  | .error _ => none

/-- The requests of a reconcile: the lookup of the prepared record, and that of the mutation planned. -/
def requests (s : Setup) (resolver : Option Resolver) (w : Work) : List Request :=
  if w.record.kind ∈ s.kinds then
    ((w.prepare resolver).record.lookupRequest? s.client).toList ++
      ((w.planned? s.client resolver).map
        ((w.looked s.client resolver).record.mutationRequest s.client)).toList
  else []

theorem sent_pass (w : Work) :
    (w.pass c resolver).2.wire.sent = w.wire.sent ++
      (((w.prepare resolver).record.lookupRequest? c).toList ++
        ((w.planned? c resolver).map ((w.looked c resolver).record.mutationRequest c)).toList) := by
  have hlook := sent_look (c := c) (w.prepare_named resolver)
  rw [wire_prepare] at hlook
  have hdeleting := w.deleting_looked c resolver
  unfold pass planned?
  unfold looked at hdeleting ⊢
  rw [← List.append_assoc, ← hlook]
  split
  · next hl => rw [hl]; simp
  · next hl => rw [hl]; simp [fail]
  · next hl =>
    rw [hl] at hdeleting ⊢
    rw [settle_sent, hdeleting]

/-- A reconcile of a record whose kind is handled is a pass over it. -/
theorem reconcile_of_handled {w : Work} (hk : w.record.kind ∈ s.kinds) :
    w.reconcile s resolver = w.pass s.client resolver :=
  if_neg (not_not_intro hk)

/-- A record whose kind is not handled is left alone. -/
theorem reconcile_of_unhandled {w : Work} (hk : w.record.kind ∉ s.kinds) :
    (w.reconcile s resolver).2 = w := by
  unfold reconcile ifHandled
  rw [if_pos hk]

/-- **A reconcile sends its requests**, and nothing else. -/
theorem reconcile_sent (s : Setup) (resolver : Option Resolver) (w : Work) :
    (w.reconcile s resolver).2.wire.sent = w.wire.sent ++ w.requests s resolver := by
  unfold requests
  by_cases hk : w.record.kind ∈ s.kinds
  · rw [reconcile_of_handled hk, if_pos hk]
    exact sent_pass w
  · rw [reconcile_of_unhandled hk, if_neg hk, List.append_nil]

/-- The requests of a reconcile that are no lookup are those of what it planned. -/
theorem mem_requests {w : Work} {q : Request} (h : q ∈ w.requests s resolver) :
    w.record.kind ∈ s.kinds ∧ (q.method = "GET" ∨ ∃ m, w.planned? s.client resolver = some m ∧
      q = (w.looked s.client resolver).record.mutationRequest s.client m) := by
  unfold requests at h
  split at h
  · next hk =>
    refine ⟨hk, ?_⟩
    rcases List.mem_append.mp h with hq | hq
    · exact Or.inl (Record.method_lookupRequest (Option.mem_toList.mp hq))
    · obtain ⟨m, hm, rfl⟩ := Option.map_eq_some_iff.mp (Option.mem_toList.mp hq)
      exact Or.inr ⟨m, hm, rfl⟩
  · cases h

/-- A request of a reconcile that has the method of a mutation is that of the mutation planned. -/
theorem mem_requests_of_method {w : Work} {q : Request} {m : Mutation}
    (h : q ∈ w.requests s resolver) (hm : q.method = m.method) :
    w.record.kind ∈ s.kinds ∧ w.planned? s.client resolver = some m ∧
      q = (w.looked s.client resolver).record.mutationRequest s.client m := by
  obtain ⟨hk, hget | ⟨n, hplan, rfl⟩⟩ := mem_requests h
  · rw [hm] at hget
    exact absurd hget (by cases m <;> decide)
  · rw [Record.method_mutationRequest] at hm
    rw [← Mutation.method_injective hm]
    exact ⟨hk, hplan, rfl⟩

/-- At most one request of a reconcile has the method of a mutation. -/
theorem length_filter_requests_le (w : Work) (m : Mutation) :
    ((w.requests s resolver).filter (·.method = m.method)).length ≤ 1 := by
  unfold requests
  split
  · rw [List.filter_append, List.length_append]
    have hlookup : (((w.prepare resolver).record.lookupRequest? s.client).toList.filter
        (·.method = m.method)) = [] := by
      refine List.filter_eq_nil_iff.mpr fun q hq => ?_
      rw [Record.method_lookupRequest (Option.mem_toList.mp hq)]
      cases m <;> decide
    have hplanned := List.length_filter_le (fun q : Request => decide (q.method = m.method))
      ((w.planned? s.client resolver).map
        ((w.looked s.client resolver).record.mutationRequest s.client)).toList
    have hone (o : Option Request) : o.toList.length ≤ 1 := by cases o <;> simp
    rw [hlookup, List.length_nil, Nat.zero_add]
    exact Nat.le_trans hplanned (hone _)
  · exact Nat.zero_le 1

/-! ## What was done -/

/-- What a settlement did is what it planned. -/
theorem settle_action {w w' : Work} {seen : Seen} {result : Result} {m : Mutation}
    (h : w.settle c seen = (.ok result, w')) (ha : result.action = .done m) :
    plan? w.record.deleting seen = some m := by
  unfold settle at h
  dsimp only at h
  rw [record_setConditions, Record.deleting_setConditions] at h
  split at h
  · cases h; cases ha
  · next n hn =>
    split at h
    · cases h
    · cases h; cases ha
    · cases h; cases ha; exact hn

/-- What a reconcile did is what it planned. -/
theorem planned_of_action {w w' : Work} {result : Result} {m : Mutation}
    (h : w.reconcile s resolver = (.ok result, w')) (ha : result.action = .done m) :
    w.planned? s.client resolver = some m := by
  obtain ⟨-, hp⟩ := reconcile_ok h
  rcases pass_ok hp with ⟨t, -, hfail⟩ | ⟨seen, w₁, hl, hs⟩
  · cases hfail; cases ha
  · have hplan := settle_action hs ha
    have hdeleting := w.deleting_looked s.client resolver
    unfold looked at hdeleting
    unfold planned?
    rw [hl] at hdeleting ⊢
    rw [← hdeleting]
    exact hplan

/-- A reconcile that did something sent no request of another method. -/
theorem method_of_action {w w' : Work} {result : Result} {m n : Mutation}
    (h : w.reconcile s resolver = (.ok result, w')) (ha : result.action = .done m) {q : Request}
    (hq : q ∈ w.requests s resolver) (hn : q.method = n.method) : n = m := by
  obtain ⟨-, hplan, -⟩ := mem_requests_of_method hq hn
  rw [planned_of_action h ha] at hplan
  exact (Option.some.inj hplan).symm

/-! ## What is left of the record -/

/-- A reconcile leaves what the record wants, and what was observed of it, as the lookup did. -/
theorem resource_reconcile {w : Work} (hk : w.record.kind ∈ s.kinds) :
    (w.reconcile s resolver).2.record.resource = (w.looked s.client resolver).record.resource := by
  rw [reconcile_of_handled hk]
  exact resource_pass s.client resolver w

theorem card_mutate (c : Client) (m : Mutation) (w : Work) :
    (w.mutate c m).2.record.card = w.record.card := by
  unfold mutate
  dsimp only
  split
  · rfl
  · next r' h =>
    rcases Record.afterMutation_ok h with rfl | ⟨_, id, _, _, _, _, _, rfl⟩
    · rfl
    · rfl

theorem card_settle (c : Client) (seen : Seen) (w : Work) :
    (w.settle c seen).2.record.card = w.record.card := by
  unfold settle
  dsimp only
  split
  · rfl
  · next m _ =>
    have hr := card_mutate c m (w.setConditions (readiness w.record.deleting seen))
    rw [record_setConditions, Record.card_setConditions] at hr
    split <;> next hm => rw [hm] at hr; exact hr

/-- A reconcile keeps what a record is known by. -/
@[simp] theorem card_reconcile (s : Setup) (resolver : Option Resolver) (w : Work) :
    (w.reconcile s resolver).2.record.card = w.record.card := by
  by_cases hk : w.record.kind ∈ s.kinds
  · have hlooked := w.card_looked s.client resolver
    unfold looked at hlooked
    rw [reconcile_of_handled hk]
    unfold pass
    split
    · next hl => rw [hl] at hlooked; exact hlooked
    · next hl => rw [hl] at hlooked; exact hlooked
    · next hl => rw [hl] at hlooked; rw [card_settle]; exact hlooked
  · rw [reconcile_of_unhandled hk]

/-- A creation is planned if nothing was found, so the record is still as it was prepared. -/
theorem looked_of_create {w : Work} (h : w.planned? c resolver = some .create) :
    (w.looked c resolver).record = (w.prepare resolver).record := by
  unfold planned? at h
  split at h
  · next seen hseen =>
    have habsent := ((plan_eq_some_iff _ _ _).mp h).2
    rcases look_ok (Prod.fst_eq_iff.mp hseen) with ⟨-, -, hw⟩ | ⟨object, r, hf, ha, -⟩
    · unfold looked
      rw [hw, record_asked]
    · rw [(Record.absorb_ok (finding_plain hf) ha).1] at habsent
      cases habsent
  · cases h

end Work

end InfluxKeeper
