import InfluxKeeper.Proofs.Reconcile.Outcome

/-!
# What an answer to a mutation means

Whether a mutation was made is decided by the answer to it, and alike for all kinds: the status tells of no
error, and the text is empty or JSON. There are two exceptions. What is to be deleted may be gone, and the
answer to the creation of a mapping has to tell its id.

> `reconcile_classifies`: a reconcile that sent a mutation is a success exactly if the answer to it
> `Accomplishes` the mutation. If not, its message is what could not be done and the answer's `complaint`, and
> the record is as the lookup left it but for its conditions.

Both are said of the answer alone, without the client's decoding of it; `accomplishes_iff` and
`complaint_of_failed` lead them back to that.
-/

namespace InfluxKeeper

open Api

namespace Api.Answer

/-! ## Reading an answer to a mutation -/

/-- The answer tells that what was asked for was done: there was no error, and what is told about it, if
anything, is told in JSON. -/
def TellsDone (a : Answer) : Prop :=
  ∃ status text, a = .response status text ∧ status < 400 ∧
    (status = 204 ∨ text = "" ∨ ∃ v, Json.read text = .ok v)

/-- The answer tells an id, that of what was created. -/
def TellsId (a : Answer) (id : Value) : Prop :=
  ∃ status text entries, a = .response status text ∧ status < 400 ∧ status ≠ 204 ∧
    Json.read text = .ok (.map entries) ∧ Entries.get entries "id" = id ∧ id.truthy = true

/-- The answer tells that there is nothing of the kind. -/
def TellsGone (a : Answer) : Prop := ∃ text, a = .response 404 text

/-- The answer accomplishes a mutation of a resource of a kind. -/
def Accomplishes (k : Kind) (m : Mutation) (a : Answer) : Prop :=
  match m, k with
  | .create, .mapping => ∃ id, a.TellsId id
  | .delete, _ => a.TellsDone ∨ a.TellsGone
  | _, _ => a.TellsDone

/-- What is said of an answer that does not accomplish what was asked for. -/
def complaint : Answer → String
  | unreachable message => message
  | timedOut => ""
  | cancelled => ""
  | response status text =>
    if 400 ≤ status then "HTTP " ++ toString status ++ ": " ++ (errorMessage text).shown
    else if status = 204 ∨ text = "" then "response did not include an id"
    else
      match Json.read text with
      | .error error => error.message
      | .ok _ => "response did not include an id"

/-! ## What is decoded of it -/

theorem tellsDone_iff (a : Answer) : a.TellsDone ↔ ∃ v, a.decode = .ok v := by
  constructor
  · rintro ⟨status, text, rfl, noError, told⟩
    unfold decode
    dsimp only
    rw [if_neg (by omega)]
    split
    · exact ⟨.null, rfl⟩
    · next hcontent =>
      obtain ⟨hstatus, htext⟩ := not_or.mp hcontent
      obtain ⟨v, hv⟩ := (told.resolve_left hstatus).resolve_left htext
      exact ⟨v, by rw [hv]; rfl⟩
  · rintro ⟨v, hv⟩
    cases a with
    | response status text =>
      unfold decode at hv
      dsimp only at hv
      split at hv
      · cases hv
      · next noError =>
        refine ⟨status, text, rfl, by omega, ?_⟩
        split at hv
        · next hcontent => exact hcontent.elim Or.inl fun h => Or.inr (Or.inl h)
        · exact Or.inr (Or.inr ⟨v, mapError_ok_iff.mp hv⟩)
    | _ => cases hv

theorem tellsId_iff (a : Answer) (id : Value) : a.TellsId id ↔
    ∃ entries, a.decode = .ok (.map entries) ∧ Entries.get entries "id" = id ∧ id.truthy = true := by
  constructor
  · rintro ⟨status, text, entries, rfl, noError, content, hread, htold⟩
    refine ⟨entries, ?_, htold⟩
    have hempty : text ≠ "" := by
      rintro rfl
      have hfault : Json.read "" = .error (.malformed .value 1 1 0) := by decide +kernel
      rw [hfault] at hread
      cases hread
    unfold decode
    dsimp only
    rw [if_neg (by omega), if_neg (not_or.mpr ⟨content, hempty⟩), hread]
    rfl
  · rintro ⟨entries, hv, htold⟩
    cases a with
    | response status text =>
      unfold decode at hv
      dsimp only at hv
      split at hv
      · cases hv
      · next noError =>
        split at hv
        · cases hv
        · next hcontent =>
          exact ⟨status, text, entries, rfl, by omega, (not_or.mp hcontent).1,
            mapError_ok_iff.mp hv, htold⟩
    | _ => cases hv

/-- The answers that tell that something is gone are those whose fault says so by its status. -/
theorem tellsGone_iff (a : Answer) : a.TellsGone ↔
    ∃ fault, a.decode = .error fault ∧ (fault.isOrdinary && fault.isNotFound none) = true := by
  constructor
  · rintro ⟨text, rfl⟩
    exact ⟨.status 404 (errorMessage text), rfl, rfl⟩
  · rintro ⟨fault, hd, hgone⟩
    cases a with
    | response status text =>
      unfold decode at hd
      dsimp only at hd
      split at hd
      · cases hd
        refine ⟨text, ?_⟩
        have hstatus : status = 404 := by
          simpa [Fault.isOrdinary, Fault.isNotFound, Fault.isNotFound.byText, Fault.notFoundStatus]
            using hgone
        rw [hstatus]
      · split at hd
        · cases hd
        · obtain ⟨error, -, rfl⟩ := mapError_error_iff.mp hd
          cases hgone
    | unreachable message => cases hd; cases hgone
    | timedOut => cases hd; cases hgone
    | cancelled => cases hd; cases hgone

/-- An answer that nothing is decoded of is complained about by its fault. -/
theorem complaint_of_fault {a : Answer} {fault : Fault} (h : a.decode = .error fault) :
    a.complaint = fault.message := by
  cases a with
  | response status text =>
    unfold decode at h
    unfold complaint
    dsimp only at h ⊢
    split at h
    · next isError => cases h; rw [if_pos isError]; rfl
    · next noError =>
      rw [if_neg noError]
      split at h
      · cases h
      · next hcontent =>
        obtain ⟨error, hread, rfl⟩ := mapError_error_iff.mp h
        rw [if_neg hcontent, hread]
        rfl
  | unreachable message => cases h; rfl
  | timedOut => cases h; rfl
  | cancelled => cases h; rfl

/-- An answer that something is decoded of is complained about for want of an id. -/
theorem complaint_of_value {a : Answer} {v : Value} (h : a.decode = .ok v) :
    a.complaint = "response did not include an id" := by
  cases a with
  | response status text =>
    unfold decode at h
    unfold complaint
    dsimp only at h ⊢
    split at h
    · cases h
    · next noError =>
      rw [if_neg noError]
      split at h
      · next hcontent => rw [if_pos hcontent]
      · next hcontent => rw [if_neg hcontent, mapError_ok_iff.mp h]
  | _ => cases h

end Api.Answer

namespace Record

/-! ## What is made of it -/

/-- What a mutation gets of an answer is what is decoded of it; of the answer to a deletion nothing is
kept. -/
theorem outcome_mutation (r : Record) (m : Mutation) (a : Answer) :
    (r.mutation m).outcome a = a.decode.map fun v => if m = .delete then .null else v := by
  unfold mutation Call.outcome
  cases r.resource <;> cases m <;> cases a.decode <;> rfl

/-- A mapping adopts the id that a value tells; a record of another kind needs none. -/
theorem adoptId_ok_iff (r r' : Record) (v : Value) :
    r.adoptId v = .ok r' ↔
      if r.kind = .mapping then
        ∃ entries id, v = .map entries ∧ Entries.get entries "id" = id ∧ id.truthy = true ∧
          r' = r.setExternalName id
      else r' = r := by
  unfold adoptId kind
  cases r.resource with
  | mapping p o =>
    rw [if_pos (show (Resource.mapping p o).kind = .mapping from rfl)]
    -- nothing counts as the empty map, which tells no id
    by_cases ht : v.truthy = true
    · rw [Value.orElse, if_pos ht]
      cases v with
      | map entries =>
        dsimp only [Value.getEntry]
        constructor
        · intro h
          split at h
          · next hid => cases h; exact ⟨entries, _, rfl, rfl, hid, rfl⟩
          · cases h
        · rintro ⟨_, _, hentries, rfl, hid, rfl⟩
          cases hentries
          exact if_pos hid
      | _ =>
        constructor
        · intro h; cases h
        · rintro ⟨_, _, hentries, -⟩; cases hentries
    · rw [Value.orElse, if_neg ht]
      constructor
      · intro h; cases h
      · rintro ⟨entries, _, rfl, rfl, hid, -⟩
        cases entries with
        | nil => cases hid
        | cons e rest => exact absurd rfl ht
  | _ => exact ⟨fun h => (Except.ok.inj h).symm, fun h => congrArg Except.ok h.symm⟩

/-- A mapping that is created takes the id that the answer tells. -/
theorem created_iff {r : Record} (hk : r.kind = .mapping) (r' : Record) (a : Answer) :
    r.afterMutation .create ((r.mutation .create).outcome a) = .ok r' ↔
      ∃ id, a.TellsId id ∧ r' = r.setExternalName id := by
  have htold (id : Value) := Answer.tellsId_iff a id
  rw [outcome_mutation]
  unfold afterMutation
  cases hd : a.decode with
  | error fault =>
    constructor
    · intro h; cases h
    · rintro ⟨id, hid, -⟩
      obtain ⟨entries, hentries, -⟩ := (htold id).mp hid
      rw [hd] at hentries
      cases hentries
  | ok v =>
    show r.adoptId v = .ok r' ↔ _
    rw [adoptId_ok_iff, if_pos hk]
    constructor
    · rintro ⟨entries, id, rfl, hget, ht, hr⟩
      exact ⟨id, (htold id).mpr ⟨entries, hd, hget, ht⟩, hr⟩
    · rintro ⟨id, hid, hr⟩
      obtain ⟨entries, hentries, hget, ht⟩ := (htold id).mp hid
      rw [hd] at hentries
      cases hentries
      exact ⟨entries, id, rfl, hget, ht, hr⟩

/-- A mutation succeeds exactly if the answer accomplishes it. -/
theorem accomplishes_iff (r : Record) (m : Mutation) (a : Answer) :
    (∃ r', r.afterMutation m ((r.mutation m).outcome a) = .ok r') ↔ a.Accomplishes r.kind m := by
  unfold Answer.Accomplishes
  cases m with
  | create =>
    by_cases hk : r.kind = .mapping
    · rw [hk]
      constructor
      · rintro ⟨r', h⟩
        obtain ⟨id, hid, -⟩ := (created_iff hk r' a).mp h
        exact ⟨id, hid⟩
      · rintro ⟨id, hid⟩
        exact ⟨r.setExternalName id, (created_iff hk _ a).mpr ⟨id, hid, rfl⟩⟩
    · have hadopt (v : Value) := adoptId_ok_iff r r v
      have hplain : (∃ r', r.afterMutation .create ((r.mutation .create).outcome a) = .ok r') ↔
          a.TellsDone := by
        rw [outcome_mutation, Answer.tellsDone_iff]
        unfold afterMutation
        cases a.decode with
        | error fault => simp [Except.map]
        | ok v => exact ⟨fun _ => ⟨v, rfl⟩, fun _ => ⟨r, (hadopt v).mpr (by rw [if_neg hk])⟩⟩
      cases hkind : r.kind with
      | mapping => exact absurd hkind hk
      | _ => exact hplain
  | update =>
    rw [outcome_mutation]
    dsimp only
    rw [Answer.tellsDone_iff]
    unfold afterMutation
    cases a.decode with
    | error fault => simp [Except.map]
    | ok v => exact ⟨fun _ => ⟨v, rfl⟩, fun _ => ⟨r, rfl⟩⟩
  | delete =>
    rw [outcome_mutation]
    dsimp only
    rw [Answer.tellsDone_iff, Answer.tellsGone_iff]
    unfold afterMutation
    cases a.decode with
    | error fault =>
      -- what is gone need not be deleted
      by_cases hgone : (fault.isOrdinary && fault.isNotFound none) = true
      · constructor
        · intro _
          exact Or.inr ⟨fault, rfl, hgone⟩
        · intro _
          refine ⟨r, ?_⟩
          show (if (decide (Mutation.delete = .delete) && fault.isOrdinary && fault.isNotFound none) then
            _ else _) = _
          rw [if_pos (by simpa using hgone)]
      · constructor
        · rintro ⟨r', h⟩
          change (if (decide (Mutation.delete = .delete) && fault.isOrdinary && fault.isNotFound none) then
            _ else _) = _ at h
          rw [if_neg (by simpa using hgone)] at h
          cases h
        · rintro (⟨v, hv⟩ | ⟨fault', hf, hgone'⟩)
          · cases hv
          · cases hf; exact absurd hgone' hgone
    | ok v => exact ⟨fun _ => Or.inl ⟨v, rfl⟩, fun _ => ⟨r, rfl⟩⟩

/-- A mutation that fails is reported with the answer's complaint. -/
theorem complaint_of_failed {r : Record} {m : Mutation} {a : Answer} {t : Trouble}
    (h : r.afterMutation m ((r.mutation m).outcome a) = .error (.reported t)) :
    t.message = r.kind.mutationContext m ++ ": " ++ a.complaint := by
  rw [outcome_mutation] at h
  unfold afterMutation at h
  cases hd : a.decode with
  | error fault =>
    rw [hd] at h
    dsimp only [Except.map] at h
    split at h
    · cases h
    · unfold Failure.ofCall at h
      split at h
      · cases h
        rw [Answer.complaint_of_fault hd]
        rfl
      · cases h
  | ok v =>
    rw [hd] at h
    cases m with
    | create =>
      change r.adoptId v = _ at h
      rw [Answer.complaint_of_value hd]
      unfold adoptId at h
      split at h
      · split at h
        · cases h
        · split at h
          · cases h
          · cases h; rfl
      · cases h
    | _ => cases h

end Record

namespace Work

variable {s : Setup} {c : Client} {resolver : Option Resolver}

/-- The last request of a reconcile that plans a mutation is that of the mutation, and it meets the next answer
after the lookup. -/
theorem sent_of_planned {w : Work} {m : Mutation} (hk : w.record.kind ∈ s.kinds)
    (hplan : w.planned? s.client resolver = some m) :
    (w.reconcile s resolver).2.wire.sent = (w.looked s.client resolver).wire.sent
        ++ [(w.looked s.client resolver).record.mutationRequest s.client m] := by
  have hlook := sent_look (c := s.client) (w.prepare_named resolver)
  rw [wire_prepare] at hlook
  rw [reconcile_sent]
  unfold requests
  rw [if_pos hk, hplan]
  unfold looked
  rw [hlook, List.append_assoc]
  rfl

/-- What a mutation of the record looked up ended with, by the answer to it. -/
theorem verdict_of_ends {w w' : Work} {result : Result} {m : Mutation}
    (h : Ends c resolver w result w') (hplan : w.planned? c resolver = some m) :
    (result.success = true ↔ (w.looked c resolver).next.Accomplishes w.record.kind m) ∧
      (result.success = true → result.action = .done m) ∧
      (result.success = false →
        result.message = w.record.kind.mutationContext m ++ ": " ++ (w.looked c resolver).next.complaint ∧
        w'.record = { (w.looked c resolver).record with conditions := w'.record.conditions }) := by
  have hkind : (w.looked c resolver).record.kind = w.record.kind := by
    rw [looked, kind_look, kind_prepare]
  -- the conditions set before the mutation do not matter to it
  have hpoised (seen : Seen) : ((w.looked c resolver).poised seen).record.kind = w.record.kind := by
    rw [poised, record_setConditions, Record.kind_setConditions, hkind]
  cases h with
  | @unseen t finding =>
    unfold planned? at hplan
    rw [look_eq, finding] at hplan
    cases hplan
  | idle _ plan => rw [plan] at hplan; cases hplan
  | @done seen n w₁ _ plan mutated =>
    rw [plan] at hplan
    cases hplan
    obtain ⟨r, hr, -⟩ := mutate_ok mutated
    have haccomplished := (Record.accomplishes_iff _ _ _).mp ⟨r, hr⟩
    rw [hpoised] at haccomplished
    exact ⟨⟨fun _ => haccomplished, fun _ => rfl⟩, fun _ => rfl, by intro hfailed; cases hfailed⟩
  | @undone seen n t w₁ _ plan mutated =>
    rw [plan] at hplan
    cases hplan
    obtain ⟨hr, rfl⟩ := mutate_error mutated
    have hmessage := Record.complaint_of_failed hr
    rw [hpoised] at hmessage
    refine ⟨⟨(by intro hdone; cases hdone), fun haccomplished => ?_⟩, (by intro hdone; cases hdone),
      fun _ => ⟨hmessage, rfl⟩⟩
    rw [← hpoised seen] at haccomplished
    obtain ⟨r, hr'⟩ := (Record.accomplishes_iff _ _ _).mpr haccomplished
    rw [show (w.looked c resolver).next = ((w.looked c resolver).poised seen).next from rfl, hr] at hr'
    cases hr'

/-- **The answer to a mutation decides.** A reconcile that sent a mutation has sent it last. It is a success,
with the action of the mutation, exactly if the answer accomplishes the mutation. Otherwise its message says
what could not be done and why, and the record is as the lookup left it but for its conditions. -/
theorem reconcile_classifies {w w' : Work} {result : Result} {more : List Request} {q : Request}
    {m : Mutation} (h : w.reconcile s resolver = (.ok result, w'))
    (hs : w'.wire.sent = w.wire.sent ++ more) (hq : q ∈ more) (hm : q.method = m.method) :
    ∃ before, w'.wire.sent = before ++ [q] ∧
      (result.success = true ↔
        (w.wire.script before.length).answer.Accomplishes w.record.kind m) ∧
      (result.success = true → result.action = .done m) ∧
      (result.success = false →
        result.message = w.record.kind.mutationContext m ++ ": " ++
          (w.wire.script before.length).answer.complaint ∧
        w'.record = { (w.looked s.client resolver).record with conditions := w'.record.conditions }) := by
  have hsent := reconcile_sent s resolver w
  rw [h, hs] at hsent
  obtain rfl := List.append_cancel_left hsent
  obtain ⟨hk, hplan, rfl⟩ := mem_requests_of_method hq hm
  have hlast := sent_of_planned hk hplan
  rw [h] at hlast
  refine ⟨(w.looked s.client resolver).wire.sent, hlast, ?_⟩
  have hverdict := verdict_of_ends (reconcile_ends h) hplan
  unfold next at hverdict
  rw [script_looked] at hverdict
  exact hverdict

/-- A mapping that was on the server and is gone, and whose creation is answered without an id. -/
def unnamed : Work :=
  .ofAnswers ((Record.ofName "all" (.mapping ⟨.text "b1", none, none, "db", .null, .text "o1", none, none,
      "rp"⟩ .empty)).setExternalName (.text "m1"))
    [.ofValue (.object [("content", .list [])]), .ofValue (.object [("name", .text "all")])]

/-- Such an answer has a good status and is JSON, and still the creation failed; the mapping keeps its id. -/
theorem reconcile_classifies_unnamed :
    let s := Setup.ofClient ⟨"http://db", "", 30⟩
    let w' := (unnamed.reconcile s none).2
    let result : Result := ⟨.mapping, "all", false, .nothing,
      "cannot create dbrp: response did not include an id", false⟩
    w'.record.externalName = .text "m1" ∧
      ∃ before, w'.wire.sent = before ++ [unnamed.record.mutationRequest s.client .create] ∧
        (result.success = true ↔
          (unnamed.wire.script before.length).answer.Accomplishes unnamed.record.kind .create) ∧
        (result.success = true → result.action = .done .create) ∧
        (result.success = false →
          result.message = unnamed.record.kind.mutationContext .create ++ ": " ++
            (unnamed.wire.script before.length).answer.complaint ∧
          w'.record = { (unnamed.looked s.client none).record with conditions := w'.record.conditions }) := by
  have h : (unnamed.reconcile (Setup.ofClient ⟨"http://db", "", 30⟩) none).1 = .ok ⟨.mapping, "all", false,
      .nothing, "cannot create dbrp: response did not include an id", false⟩ := by decide +kernel
  have hq : unnamed.record.mutationRequest ⟨"http://db", "", 30⟩ .create
      ∈ unnamed.requests (Setup.ofClient ⟨"http://db", "", 30⟩) none := by decide +kernel
  exact ⟨by decide +kernel, reconcile_classifies (Prod.fst_eq_iff.mp h) (reconcile_sent _ _ _) hq
    (Record.method_mutationRequest _ _ _)⟩

end Work

end InfluxKeeper
