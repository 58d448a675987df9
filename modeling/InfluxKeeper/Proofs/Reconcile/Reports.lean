import InfluxKeeper.Proofs.Reconcile.Plan
import InfluxKeeper.Proofs.Reconcile.Readable
import InfluxKeeper.Reconcile.Converge

/-!
# Which answers are reported

A reconcile ends with a result unless a fault escapes it. Statuses, texts that are no JSON and a server out of
reach never do that; answers in JSON do it if they are not what the reconcile looks for in them.

> `reconcile_reports`: if no call is called off, a reconcile ends with a result exactly if the answers are
> `Readable`; and a result that tells of a failure is told by the Synced condition too.
>
> `readable_of_undecoded`: answers that nothing is decoded of are readable.

A fault escapes from a lookup (`look_escapes_iff`) or from a mutation (`mutate_escapes_iff`), and from nothing
else in a pass (`pass_returns_iff`). `reconcile_gives_up` shows answers that are not reported.
-/

namespace InfluxKeeper

open Api

namespace Work

variable {s : Setup} {c : Client} {resolver : Option Resolver}

theorem outcome_of_request {w : Work} {call : Call} {q : Request} (h : call.request c = .ok q) :
    (w.call c call).1 = call.outcome w.next := by
  unfold Work.call Wire.call
  rw [h]
  rfl

theorem outcome_of_lookup {w : Work} {call : Call} (h : w.record.lookup? = some call) :
    (w.call c call).1 = call.outcome w.next := by
  unfold Record.lookup? at h
  split at h
  · cases h; exact outcome_of_request rfl
  · cases h; exact outcome_of_request rfl
  · split at h
    · cases h; exact outcome_of_request rfl
    · cases h

/-- A fault escapes from what a lookup finds if its answer should list mappings and does not. -/
theorem finding_escapes_iff {w : Work} (calm : w.next ≠ .cancelled) :
    (∃ fault, w.finding c = .error (.escaped fault)) ↔
      w.record.kind = .mapping ∧ w.record.lookup? ≠ none ∧
        ∃ v, w.next.decode = .ok v ∧ ¬v.ListsMappings := by
  unfold finding
  cases hl : w.record.lookup? with
  | none => simp
  | some call =>
    dsimp only
    rw [outcome_of_lookup hl, Record.found?_escapes_iff fun _ => outcome_ordinary calm]
    refine and_congr_right fun hk => ?_
    -- what is decoded of the answer is what the call gives, or else nothing
    have hout : call.outcome w.next = w.next.decode.map (·.orElse (.map [])) := by
      unfold Record.lookup? at hl
      unfold Record.kind at hk
      cases hr : w.record.resource with
      | mapping p o =>
        rw [hr] at hl
        dsimp only at hl
        split at hl
        · cases hl
          unfold Call.outcome
          cases w.next.decode <;> rfl
        · cases hl
      | _ => rw [hr] at hk; cases hk
    rw [hout]
    cases w.next.decode with
    | error fault => simp [Except.map]
    | ok v => simp [Except.map, Value.listsMappings_orElse]

/-- A fault escapes from a lookup if it does from what is found, or if what is found makes no sense. -/
theorem look_escapes_iff {w : Work} :
    (∃ fault, (w.look c).1 = .error (.escaped fault)) ↔
      (∃ fault, w.finding c = .error (.escaped fault)) ∨
        ∃ object, w.finding c = .ok (some object) ∧ ¬w.record.kind.Reads object := by
  rw [look_eq]
  cases hf : w.finding c with
  | error failure => simp
  | ok found =>
    cases found with
    | none => simp
    | some object =>
      have hreads := Resource.seenIn_ok_iff object w.record.resource
      dsimp only
      rw [Record.seen_absorb]
      cases hs : w.record.resource.seenIn object with
      | error fault =>
        have hnot : ¬w.record.kind.Reads object := fun h => by
          obtain ⟨seen, hseen⟩ := hreads.mpr h
          rw [hs] at hseen
          cases hseen
        exact ⟨fun _ => Or.inr ⟨object, rfl, hnot⟩, fun _ => ⟨fault, rfl⟩⟩
      | ok seen =>
        have hread : w.record.kind.Reads object := hreads.mp ⟨seen, hs⟩
        constructor
        · rintro ⟨fault, h⟩; cases h
        · rintro (⟨fault, h⟩ | ⟨_, h, hnot⟩)
          · cases h
          · cases h; exact absurd hread hnot

/-- A fault escapes from a mutation if a mapping is created and the answer does not tell its id. -/
theorem mutate_escapes_iff {w : Work} {m : Mutation} (calm : w.next ≠ .cancelled) :
    (∃ fault, (w.mutate c m).1 = .error (.escaped fault)) ↔
      m = .create ∧ w.record.kind = .mapping ∧ ∃ v, w.next.decode = .ok v ∧ ¬v.TellsId := by
  have hmutate : (w.mutate c m).1
      = (w.record.afterMutation m ((w.record.mutation m).outcome w.next)).map fun _ => () := by
    unfold mutate
    rw [← outcome_of_request (w.record.request_mutation c m)]
    dsimp only
    split <;> next h => rw [record_call] at h; rw [h]; rfl
  have hescapes : (∃ fault, (w.mutate c m).1 = .error (.escaped fault)) ↔
      ∃ fault, w.record.afterMutation m ((w.record.mutation m).outcome w.next) = .error (.escaped fault) := by
    rw [hmutate]
    cases w.record.afterMutation m ((w.record.mutation m).outcome w.next) <;> simp [Except.map]
  rw [hescapes, Record.afterMutation_escapes_iff fun _ => outcome_ordinary calm]
  refine and_congr_right fun hm => and_congr_right fun hk => ?_
  -- what a creation of a mapping gives is what is decoded of the answer
  have hout : (w.record.mutation m).outcome w.next = w.next.decode := by
    subst hm
    unfold Record.kind at hk
    unfold Record.mutation
    cases hr : w.record.resource with
    | mapping p o =>
      unfold Call.outcome
      cases w.next.decode <;> rfl
    | _ => rw [hr] at hk; cases hk
  rw [hout]

/-! ## A whole reconcile -/

theorem script_call (w : Work) (call : Call) : (w.call c call).2.wire.script = w.wire.script := by
  unfold Work.call Wire.call
  cases call.request c <;> rfl

theorem script_looked (w : Work) : (w.looked c resolver).wire.script = w.wire.script := by
  have hasked (w : Work) : (w.asked c).wire.script = w.wire.script := by
    unfold asked
    split
    · rfl
    · exact script_call w _
  unfold looked
  rw [look_eq]
  split
  · exact hasked (w.prepare resolver)
  · exact hasked (w.prepare resolver)
  · rw [wire_withRecord]; exact hasked (w.prepare resolver)

/-- What was seen is settled with a result unless the id of a new mapping is not told. -/
theorem settle_returns_iff {w : Work} {seen : Seen} (calm : w.next ≠ .cancelled) :
    (∃ result, (w.settle c seen).1 = .ok result) ↔
      ¬(plan? w.record.deleting seen = some .create ∧ w.record.kind = .mapping ∧
        ∃ v, w.next.decode = .ok v ∧ ¬v.TellsId) := by
  unfold settle
  dsimp only
  rw [record_setConditions, Record.deleting_setConditions]
  cases hplan : plan? w.record.deleting seen with
  | none => simp
  | some m =>
    -- the conditions set before do not matter to the mutation
    have hescapes := mutate_escapes_iff (c := c) (m := m)
      (w := w.setConditions (readiness w.record.deleting seen)) calm
    rw [record_setConditions, Record.kind_setConditions] at hescapes
    have hcreate : (some m = some Mutation.create) = (m = .create) := by simp
    rw [hcreate]
    show _ ↔ ¬(m = .create ∧ w.record.kind = .mapping ∧
      ∃ v, (w.setConditions (readiness w.record.deleting seen)).next.decode = .ok v ∧ ¬v.TellsId)
    rw [← hescapes]
    dsimp only
    split
    · next hm => rw [hm]; simp
    · next hm => rw [hm]; simp
    · next hm => rw [hm]; simp

/-- A pass ends with a result unless a fault escapes from its lookup, or the id of a new mapping is not
told. -/
theorem pass_returns_iff {w : Work} (calm : (w.looked c resolver).next ≠ .cancelled) :
    (∃ result, (w.pass c resolver).1 = .ok result) ↔
      (¬∃ fault, ((w.prepare resolver).look c).1 = .error (.escaped fault)) ∧
        ¬(w.planned? c resolver = some .create ∧ w.record.kind = .mapping ∧
          ∃ v, (w.looked c resolver).next.decode = .ok v ∧ ¬v.TellsId) := by
  have hdeleting := w.deleting_looked c resolver
  have hkind : (w.looked c resolver).record.kind = w.record.kind := by
    rw [looked, kind_look, kind_prepare]
  unfold pass planned?
  unfold looked at calm hdeleting hkind ⊢
  rcases hl : (w.prepare resolver).look c with ⟨(t | fault) | seen, w₁⟩
  · simp
  · simp
  · rw [hl] at calm hdeleting hkind
    dsimp only at calm hdeleting hkind ⊢
    rw [settle_returns_iff calm, hdeleting, hkind]
    simp

/-- Answers that a reconcile can read: one that should list mappings does, an object found makes sense to the
record, and the answer to the creation of a mapping tells its id. -/
structure Readable (c : Client) (resolver : Option Resolver) (w : Work) : Prop where
  lists : w.record.kind = .mapping → (w.prepare resolver).record.lookup? ≠ none →
    ∀ v, w.next.decode = .ok v → v.ListsMappings
  reads : ∀ object, (w.prepare resolver).finding c = .ok (some object) → w.record.kind.Reads object
  tells : w.record.kind = .mapping → w.planned? c resolver = some .create →
    ∀ v, (w.looked c resolver).next.decode = .ok v → v.TellsId

/-- Answers that refuse, that are no JSON or that never come are read: there is nothing in them to look
into. -/
theorem readable_of_undecoded {w : Work} (h : ∀ n v, (w.wire.script n).answer.decode ≠ .ok v) :
    w.Readable c resolver where
  lists := fun _ _ v hv => absurd hv (h _ v)
  reads := by
    intro object hf
    obtain ⟨call, answer, -, hout, -⟩ := finding_some hf
    obtain ⟨v, hv, -⟩ := bind_ok_iff.mp hout
    exact absurd hv (h _ v)
  tells := by
    intro _ _ v hv
    unfold next at hv
    rw [script_looked] at hv
    exact absurd hv (h _ v)

/-- A result that tells of a failure is told by the Synced condition too. -/
theorem synced_of_failed {w w' : Work} {result : Result} (h : w.reconcile s resolver = (.ok result, w'))
    (hf : result.success = false) : ∃ condition, w'.record.condition? "Synced" = some condition ∧
      condition.status = "False" ∧ condition.message = result.message := by
  have hfail (w : Work) (type : EventType) (t : Trouble) (late : Bool) :
      ∃ condition, (w.fail type t late).2.record.condition? "Synced" = some condition ∧
        condition.status = "False" ∧ condition.message = (w.fail type t late).1.message := by
    obtain ⟨condition, hc, -, hstatus, -, hmessage⟩ :=
      condition?_setCondition (.failed t.message w.wire.now) w.record.conditions
    exact ⟨condition, hc, hstatus, hmessage⟩
  obtain ⟨-, hp⟩ := reconcile_ok h
  rcases pass_ok hp with ⟨t, -, hresult⟩ | ⟨seen, w₁, -, hs⟩
  · cases hresult
    exact hfail _ _ _ _
  · unfold settle at hs
    dsimp only at hs
    split at hs
    · cases hs; cases hf
    · split at hs
      · cases hs
      · cases hs; exact hfail _ _ _ _
      · cases hs; cases hf

/-- **What a reconcile reports.** If no call is called off, a reconcile of a record whose kind is handled ends
with a result exactly if it can read the answers; and a result that tells of a failure is told by the Synced
condition too. -/
theorem reconcile_reports {w : Work} (hk : w.record.kind ∈ s.kinds)
    (calm : ∀ n, (w.wire.script n).answer ≠ .cancelled) :
    ((∃ result, (w.reconcile s resolver).1 = .ok result) ↔ w.Readable s.client resolver) ∧
      ∀ result w', w.reconcile s resolver = (.ok result, w') → result.success = false →
        ∃ condition, w'.record.condition? "Synced" = some condition ∧
          condition.status = "False" ∧ condition.message = result.message := by
  refine ⟨?_, fun _ _ => synced_of_failed⟩
  have hcalm : (w.looked s.client resolver).next ≠ .cancelled := by
    unfold next
    rw [script_looked]
    exact calm _
  have hfinding := finding_escapes_iff (c := s.client) (w := w.prepare resolver) (calm _)
  rw [kind_prepare] at hfinding
  rw [reconcile_of_handled hk, pass_returns_iff hcalm, look_escapes_iff, hfinding, kind_prepare]
  constructor
  · rintro ⟨hlook, htells⟩
    obtain ⟨hlists, hreads⟩ := not_or.mp hlook
    exact {
      lists := fun hm hl v hv => by_contra fun h => hlists ⟨hm, hl, v, hv, h⟩
      reads := fun object hf => by_contra fun h => hreads ⟨object, hf, h⟩
      tells := fun hm hp v hv => by_contra fun h => htells ⟨hp, hm, v, hv, h⟩ }
  · intro h
    refine ⟨not_or.mpr ⟨?_, ?_⟩, ?_⟩
    · rintro ⟨hm, hl, v, hv, hnot⟩
      exact hnot (h.lists hm hl v hv)
    · rintro ⟨object, hf, hnot⟩
      exact hnot (h.reads object hf)
    · rintro ⟨hp, hm, v, hv, hnot⟩
      exact hnot (h.tells hm hp v hv)

/-- An organization on a server that lists a number. -/
def garbled : Work :=
  .ofAnswers (.ofName "acme" (.organization ⟨none⟩ .empty))
    [.ofValue (.object [("orgs", .list [.int 5])])]

/-- A mapping on a server that answers its creation with a list. -/
def untold : Work :=
  .ofAnswers (.ofName "all" (.mapping ⟨.text "b1", none, none, "db", .null, .text "o1", none, none, "rp"⟩
    .empty)) [.ofValue (.list [.int 1])]

theorem calm_ofAnswers {answers : List Answer} (h : .cancelled ∉ answers) (n : Nat) :
    ((Wire.ofAnswers answers).script n).answer ≠ .cancelled := by
  show answers.getD n (.unreachable "") ≠ .cancelled
  rw [List.getD_eq_getElem?_getD]
  cases hn : answers[n]? with
  | none => nofun
  | some a => exact fun ha => h (ha ▸ List.mem_of_getElem? hn)

/-- The number is no organization to read, so its reconcile ends without a result. -/
theorem reconcile_reports_garbled :
    let s := Setup.ofClient ⟨"http://db", "", 30⟩
    ((∃ result, (garbled.reconcile s none).1 = .ok result) ↔ garbled.Readable s.client none) ∧
      (∀ result w', garbled.reconcile s none = (.ok result, w') → result.success = false →
        ∃ condition, w'.record.condition? "Synced" = some condition ∧
          condition.status = "False" ∧ condition.message = result.message) ∧
      ¬garbled.Readable s.client none := by
  intro s
  obtain ⟨hreturns, hsynced⟩ :
      ((∃ result, (garbled.reconcile s none).1 = .ok result) ↔ garbled.Readable s.client none) ∧ _ :=
    reconcile_reports (by decide +kernel) (calm_ofAnswers (by decide +kernel))
  refine ⟨hreturns, hsynced, fun hreadable => ?_⟩
  obtain ⟨result, hresult⟩ := hreturns.mpr hreadable
  have hfault : (garbled.reconcile s none).1 = .error (.noEntries "int" "get") := by decide +kernel
  rw [hfault] at hresult
  cases hresult

/-- An answer in JSON need not be reported: the fault of the look into it ends the reconcile, and with it a
reconcile of several records. -/
theorem reconcile_gives_up :
    let s := Setup.ofClient ⟨"http://db", "", 30⟩
    (garbled.record.kind ∈ s.kinds ∧ (∀ n, (garbled.wire.script n).answer ≠ .cancelled) ∧
      (garbled.reconcile s none).1 = .error (.noEntries "int" "get")) ∧
    (untold.record.kind ∈ s.kinds ∧ (∀ n, (untold.wire.script n).answer ≠ .cancelled) ∧
      (untold.reconcile s none).1 = .error (.noEntries "list" "get")) ∧
    ((⟨[garbled.record, untold.record], garbled.wire, []⟩ : Fleet).reconcileAll s none [0, 1]).1
      = .error (.fault (.noEntries "int" "get")) :=
  ⟨⟨by decide +kernel, calm_ofAnswers (by decide +kernel), by decide +kernel⟩,
    ⟨by decide +kernel, calm_ofAnswers (by decide +kernel), by decide +kernel⟩, by decide +kernel⟩

end Work

end InfluxKeeper
