import InfluxKeeper.Proofs.Reconcile.Again

/-!
# Reconciling at another time

The only part of a record that tells when it was reconciled are the times of its conditions. Without them a
record is `undated`. A condition is set by its type and by what it says, so setting conditions at different
times gives records that are the same but for times (`Record.setConditions_undated`), and nothing else that a
pass does looks at a time.

> `reconcile_undated`: what a reconcile gives and sends, and the record that it leaves but for times, is told by
> the record, what it reads of others, and the answers to the requests of the reconcile.

So two reconciles of one record can be compared step by step: `SameEnd` says that two steps end the same way.
-/

namespace InfluxKeeper

open Api

/-! ## Conditions -/

namespace Condition

/-- A condition without its time. -/
def undated (c : Condition) : Condition := { c with lastTransitionTime := .ofSeconds 0 0 }

/-- A way to make a condition that says the same at all times. -/
def Timeless (c : Timestamp → Condition) : Prop := ∀ now later, (c later).undated = (c now).undated

end Condition

/-- A condition is set among conditions by what they say. -/
theorem setCondition_undated (new : Condition) (conditions : List Condition) :
    (setCondition new conditions).map Condition.undated
      = setCondition new.undated (conditions.map Condition.undated) := by
  induction conditions with
  | nil => rfl
  | cons c rest ih =>
    rw [List.map_cons, setCondition, setCondition]
    by_cases htype : c.type = new.type
    · rw [if_pos htype, if_pos (show c.undated.type = new.undated.type from htype), List.map_cons]
      by_cases he : c.Equivalent new
      · rw [if_pos he, if_pos (show c.undated.Equivalent new.undated from he)]
      · rw [if_neg he, if_neg (show ¬c.undated.Equivalent new.undated from he)]
    · rw [if_neg htype, if_neg (show ¬c.undated.type = new.undated.type from htype), List.map_cons, ih]

theorem setConditions_undated (new conditions : List Condition) :
    (setConditions new conditions).map Condition.undated
      = setConditions (new.map Condition.undated) (conditions.map Condition.undated) := by
  unfold setConditions
  induction new generalizing conditions with
  | nil => rfl
  | cons c rest ih => rw [List.foldl_cons, ih, setCondition_undated, List.map_cons, List.foldl_cons]

/-! ## Records -/

namespace Record

/-- A record without the times of its conditions. -/
def undated (r : Record) : Record := { r with conditions := r.conditions.map Condition.undated }

variable {r r' : Record}

/-- Records that are the same but for times say the same after conditions are set, at whatever times. -/
theorem setConditions_undated (h : r'.undated = r.undated) {new : List (Timestamp → Condition)}
    (timeless : ∀ c ∈ new, Condition.Timeless c) (now later : Timestamp) :
    (r'.setConditions (new.map (· later))).undated = (r.setConditions (new.map (· now))).undated := by
  have hnew : (new.map (· later)).map Condition.undated = (new.map (· now)).map Condition.undated := by
    rw [List.map_map, List.map_map]
    exact List.map_congr_left fun c hc => timeless c hc now later
  have hset (x : Record) (cs : List Condition) : (x.setConditions cs).undated
      = x.undated.setConditions (cs.map Condition.undated) := by
    unfold undated setConditions
    dsimp only
    rw [InfluxKeeper.setConditions_undated]
  rw [hset, hset, hnew, h]

theorem kind_of_undated (h : r'.undated = r.undated) : r'.kind = r.kind := by
  show r'.undated.kind = r.undated.kind
  rw [h]

theorem name_of_undated (h : r'.undated = r.undated) : r'.name = r.name := by
  show r'.undated.name = r.undated.name
  rw [h]

theorem deleting_of_undated (h : r'.undated = r.undated) : r'.deleting = r.deleting := by
  show r'.undated.deleting = r.undated.deleting
  rw [h]

theorem mutation_of_undated (h : r'.undated = r.undated) (m : Mutation) : r'.mutation m = r.mutation m :=
  congrArg (·.mutation m) h

theorem mutationRequest_of_undated (h : r'.undated = r.undated) (c : Client) (m : Mutation) :
    r'.mutationRequest c m = r.mutationRequest c m :=
  congrArg (·.mutationRequest c m) h

/-- What a record takes in from an object is the same at all times. -/
theorem absorb_undated (object : Value) (r : Record) (now later : Timestamp) :
    (r.absorb later object).1 = (r.absorb now object).1 ∧
      (r.absorb later object).2.undated = (r.absorb now object).2.undated := by
  rw [seen_absorb, seen_absorb, record_absorb, record_absorb]
  refine ⟨rfl, setConditions_undated rfl (fun c hc => ?_) now later⟩
  rcases Resource.readyIn_cases (Option.mem_toList.mp hc) with rfl | rfl
  · exact fun _ _ => rfl
  · exact fun _ _ => rfl

/-- What is made of the outcome of a mutation has nothing to do with times. -/
theorem afterMutation_undated (r : Record) (m : Mutation) (outcome : Except Fault Value) :
    r.undated.afterMutation m outcome = (r.afterMutation m outcome).map undated := by
  unfold afterMutation
  cases outcome with
  | error fault =>
    dsimp only
    split
    · rfl
    · rfl
  | ok answer =>
    cases m with
    | create =>
      dsimp only
      unfold adoptId
      rw [show r.undated.resource = r.resource from rfl]
      cases r.resource with
      | mapping p o =>
        dsimp only
        split
        · rfl
        · split
          · rfl
          · rfl
      | organization p o => rfl
      | bucket p o => rfl
    | update => rfl
    | delete => rfl

end Record

/-! ## Steps -/

/-- Steps that end the same way, but for times: with the same outcome and the same record. -/
def SameEnd {α ε : Type} (e e' : Except ε α × Work) : Prop :=
  e'.1 = e.1 ∧ e'.2.record.undated = e.2.record.undated

namespace Work

variable {s : Setup} {c : Client} {resolver resolver' : Option Resolver} {w v : Work}

theorem undated_setConditions (same : v.record.undated = w.record.undated)
    {new : List (Timestamp → Condition)} (timeless : ∀ c ∈ new, Condition.Timeless c) :
    (v.setConditions new).record.undated = (w.setConditions new).record.undated :=
  Record.setConditions_undated same timeless w.wire.now v.wire.now

theorem timeless_readiness (deleting : Bool) (seen : Seen) :
    ∀ c ∈ readiness deleting seen, Condition.Timeless c := by
  unfold readiness
  intro c hc
  split at hc
  · cases List.mem_singleton.mp hc; exact fun _ _ => rfl
  · split at hc
    · cases hc
    · cases List.mem_singleton.mp hc; exact fun _ _ => rfl

theorem fail_undated (same : v.record.undated = w.record.undated) (type : EventType) (t : Trouble) (late : Bool) :
    SameEnd (ε := Fault) (.ok (w.fail type t late).1, (w.fail type t late).2)
      (.ok (v.fail type t late).1, (v.fail type t late).2) := by
  refine ⟨?_, undated_setConditions same fun c hc => ?_⟩
  · unfold fail
    rw [Record.kind_of_undated same, Record.name_of_undated same]
  · cases List.mem_singleton.mp hc; exact fun _ _ => rfl

theorem succeed_undated (same : v.record.undated = w.record.undated) (action : Action) (late : Bool) :
    SameEnd (ε := Fault) (.ok (w.succeed action late).1, (w.succeed action late).2)
      (.ok (v.succeed action late).1, (v.succeed action late).2) := by
  refine ⟨?_, undated_setConditions same fun c hc => ?_⟩
  · unfold succeed
    rw [Record.kind_of_undated same, Record.name_of_undated same]
  · cases List.mem_singleton.mp hc; exact fun _ _ => rfl

theorem mutate_undated (same : v.record.undated = w.record.undated) (answered : v.next = w.next)
    (m : Mutation) : SameEnd (w.mutate c m) (v.mutate c m) := by
  have hafter : (v.record.afterMutation m ((v.record.mutation m).outcome v.next)).map Record.undated
      = (w.record.afterMutation m ((w.record.mutation m).outcome w.next)).map Record.undated := by
    rw [Record.mutation_of_undated same, answered, ← Record.afterMutation_undated,
      ← Record.afterMutation_undated, same]
  unfold SameEnd
  rw [mutate_eq, mutate_eq]
  cases hw : w.record.afterMutation m ((w.record.mutation m).outcome w.next) with
  | error failure =>
    cases hv : v.record.afterMutation m ((v.record.mutation m).outcome v.next) with
    | error failure' =>
      rw [hw, hv] at hafter
      exact ⟨congrArg Except.error (Except.error.inj hafter), same⟩
    | ok r' => rw [hw, hv] at hafter; cases hafter
  | ok r =>
    cases hv : v.record.afterMutation m ((v.record.mutation m).outcome v.next) with
    | error failure' => rw [hw, hv] at hafter; cases hafter
    | ok r' =>
      rw [hw, hv] at hafter
      exact ⟨rfl, Except.ok.inj hafter⟩

theorem settle_undated (same : v.record.undated = w.record.undated) {seen : Seen}
    (answered : plan? w.record.deleting seen ≠ none → v.next = w.next) :
    SameEnd (w.settle c seen) (v.settle c seen) := by
  have hdeleting : v.record.deleting = w.record.deleting := Record.deleting_of_undated same
  have hpoised : (v.setConditions (readiness w.record.deleting seen)).record.undated
      = (w.setConditions (readiness w.record.deleting seen)).record.undated :=
    undated_setConditions same (timeless_readiness _ seen)
  unfold settle
  dsimp only
  rw [hdeleting, record_setConditions, record_setConditions, Record.deleting_setConditions,
    Record.deleting_setConditions, hdeleting]
  cases hplan : plan? w.record.deleting seen with
  | none => exact succeed_undated hpoised .nothing seen.lateInitialized
  | some m =>
    have hnext : (v.setConditions (readiness w.record.deleting seen)).next
        = (w.setConditions (readiness w.record.deleting seen)).next := answered (by rw [hplan]; nofun)
    obtain ⟨houtcome, hrecord⟩ := mutate_undated (c := c) hpoised hnext m
    dsimp only
    rcases hw : (w.setConditions (readiness w.record.deleting seen)).mutate c m with ⟨outcome, w₁⟩
    rcases hv : (v.setConditions (readiness w.record.deleting seen)).mutate c m with ⟨outcome', v₁⟩
    rw [hw, hv] at houtcome hrecord
    dsimp only at houtcome hrecord
    subst houtcome
    cases outcome' with
    | error failure =>
      cases failure with
      | escaped fault => exact ⟨rfl, hrecord⟩
      | reported t => exact fail_undated hrecord (.cannot m) t seen.lateInitialized
    | ok _ =>
      exact succeed_undated (w := w₁.publish (.done m) "") (v := v₁.publish (.done m) "") hrecord (.done m)
        seen.lateInitialized

/-- Looking a record up gives the same, at whatever time, if the lookup is answered the same. -/
theorem look_undated (same : v.record = w.record)
    (answered : w.record.lookup? ≠ none → v.next = w.next) : SameEnd (w.look c) (v.look c) := by
  have hfinding : v.finding c = w.finding c :=
    finding_congr (by rw [same]) (by rw [same]) (by rw [same]) answered
  have hasked : (v.asked c).record = (w.asked c).record := by
    rw [record_asked, record_asked, same]
  unfold SameEnd
  rw [look_eq, look_eq, hfinding, same]
  cases w.finding c with
  | error failure => exact ⟨rfl, congrArg Record.undated hasked⟩
  | ok found =>
    cases found with
    | none => exact ⟨rfl, congrArg Record.undated hasked⟩
    | some object =>
      obtain ⟨hseen, hrecord⟩ :=
        w.record.absorb_undated object (w.asked c).wire.now (v.asked c).wire.now
      exact ⟨congrArg (Except.mapError Failure.escaped) hseen, hrecord⟩

/-! ## Whole reconciles -/

/-- A record is prepared the same among records that are the same to it. -/
theorem prepare_congr (same : v.record = w.record) (reads : w.record.ReadsAlike resolver resolver') :
    (v.prepare resolver').record = (w.prepare resolver).record := by
  rw [record_prepare, record_prepare, same]
  cases resolver with
  | none =>
    cases resolver' with
    | none => rfl
    | some n' => exact absurd reads id
  | some n =>
    cases resolver' with
    | none => exact absurd reads id
    | some n' =>
      refine Record.resolve_congr ?_
      rw [Record.resource_nameByDefault]
      exact reads

/-- The answer that the next request but some meets. -/
def answer (w : Work) (n : Nat) : Answer := (w.wire.script (w.wire.sent.length + n)).answer

/-- After the lookup, the answers are those that come after it. -/
theorem next_looked (w : Work) : (w.looked c resolver).next
    = w.answer ((w.prepare resolver).record.lookupRequest? c).toList.length := by
  have hsent := sent_look (c := c) (w.prepare_named resolver)
  unfold next answer
  rw [script_looked, looked, hsent, List.length_append]
  rfl

/-- Passes end the same way, but for times, if their lookups do and the mutation planned is answered the
same. -/
theorem pass_undated (look : SameEnd ((w.prepare resolver).look c) ((v.prepare resolver').look c))
    (answered : w.planned? c resolver ≠ none →
      (v.looked c resolver').next = (w.looked c resolver).next) :
    SameEnd (w.pass c resolver) (v.pass c resolver') := by
  obtain ⟨hseen, hlooked⟩ := look
  unfold pass
  rcases hw : (w.prepare resolver).look c with ⟨outcome, w₁⟩
  rcases hv : (v.prepare resolver').look c with ⟨outcome', v₁⟩
  obtain rfl : w.looked c resolver = w₁ := congrArg Prod.snd hw
  obtain rfl : v.looked c resolver' = v₁ := congrArg Prod.snd hv
  rw [hw, hv] at hseen hlooked
  dsimp only at hseen hlooked
  subst hseen
  cases outcome' with
  | error failure =>
    cases failure with
    | escaped fault => exact ⟨rfl, hlooked⟩
    | reported t => exact fail_undated hlooked .cannotObserve t false
  | ok seen =>
    refine settle_undated hlooked fun hplan => answered ?_
    rwa [planned_of_look hw, ← deleting_looked c resolver w]

/-- **What a reconcile does is told by the record, by what it reads of others and by the answers to its own
requests**, whenever and after whatever else it is made. -/
theorem reconcile_undated (same : v.record = w.record) (reads : w.record.ReadsAlike resolver resolver')
    (answered : ∀ n < (w.requests s resolver).length, n < (v.requests s resolver').length →
      v.answer n = w.answer n) :
    v.requests s resolver' = w.requests s resolver ∧
      SameEnd (w.reconcile s resolver) (v.reconcile s resolver') := by
  have hprepared : (v.prepare resolver').record = (w.prepare resolver).record := prepare_congr same reads
  by_cases hk : w.record.kind ∈ s.kinds
  · have hk' : v.record.kind ∈ s.kinds := same ▸ hk
    unfold requests at answered ⊢
    rw [if_pos hk, if_pos hk', hprepared] at answered
    rw [if_pos hk, if_pos hk', hprepared, reconcile_of_handled hk, reconcile_of_handled hk']
    -- a lookup is the first request of both, so it is answered the same
    have hfirst : (w.prepare resolver).record.lookup? ≠ none →
        (v.prepare resolver').next = (w.prepare resolver).next := by
      intro hasked
      have hpos := Record.length_lookupRequest_pos (c := s.client) (w.prepare_named resolver) hasked
      refine answered 0 ?_ ?_
      · rw [List.length_append]; exact Nat.add_pos_left hpos _
      · rw [List.length_append]; exact Nat.add_pos_left hpos _
    have hlook := look_undated (c := s.client) hprepared hfirst
    have hplanned : v.planned? s.client resolver' = w.planned? s.client resolver := by
      unfold planned?
      rw [hlook.1, same]
    have hmutation (m : Mutation) : (v.looked s.client resolver').record.mutationRequest s.client m
        = (w.looked s.client resolver).record.mutationRequest s.client m :=
      Record.mutationRequest_of_undated hlook.2 s.client m
    rw [hplanned, funext hmutation] at answered
    rw [hplanned, funext hmutation]
    refine ⟨rfl, pass_undated hlook fun hplan => ?_⟩
    -- a mutation is the last request of both, so it is answered the same
    rw [next_looked, next_looked, hprepared]
    obtain ⟨m, hm⟩ := Option.ne_none_iff_exists'.mp hplan
    rw [hm] at answered
    refine answered _ ?_ ?_
    · rw [List.length_append]; exact Nat.lt_add_of_pos_right Nat.one_pos
    · rw [List.length_append]; exact Nat.lt_add_of_pos_right Nat.one_pos
  · have hk' : v.record.kind ∉ s.kinds := same ▸ hk
    unfold requests reconcile ifHandled
    rw [if_neg hk, if_neg hk', if_pos hk, if_pos hk', same]
    exact ⟨rfl, rfl, congrArg Record.undated same⟩

end Work

end InfluxKeeper
