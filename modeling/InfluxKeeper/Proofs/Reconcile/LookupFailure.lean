import InfluxKeeper.Proofs.Reconcile.Steps

/-!
# A lookup that is refused

An answer is refused if its status tells of an error other than absence, or if its text is no JSON. A lookup
that is refused is a failure, not an absence: nothing is created.

> `reconcile_of_refused`: the reconcile sends the lookup only, reports the refusal, and changes nothing of
> the record but its default name, its references and its conditions.

One refusal is excepted. The lookups by name report absence in words, and the words count whatever status
they come with (`finding_of_words`). A refusal for bad JSON needs no such exception, because its message is
made of fixed words and numbers, and these hold no kind (`notFound_notIn_jsonError`).
-/

namespace InfluxKeeper

open Api

/-! ## The words of absence -/

/-- A text does not hold another that has a character it lacks. -/
theorem Fault.holds_of_notMem {text part : String} {c : Char} (hc : c ∈ part.toList)
    (ht : c ∉ text.toList) : holds text part = false := by
  cases h : holds text part with
  | false => rfl
  | true => exact absurd (((lettersHold_iff _ _).mp h).subset hc) ht

namespace Json

/-- Letters of the names of kinds that no message about JSON has. -/
def kindLetters : List Char := ['z', 'k']

theorem eq_of_mem_kindLetters {c : Char} (hc : c ∈ kindLetters) : c = 'z' ∨ c = 'k' := by
  simpa [kindLetters] using hc

theorem notMem_append {c : Char} {s t : String} (hs : c ∉ s.toList) (ht : c ∉ t.toList) :
    c ∉ (s ++ t).toList := by
  rw [String.toList_append, List.mem_append, not_or]
  exact ⟨hs, ht⟩

theorem notMem_toString {c : Char} (hc : c ∈ kindLetters) (n : Nat) : c ∉ (toString n).toList := by
  intro h
  have hd : c.isDigit = true := by
    refine Nat.isDigit_of_mem_toDigits (b := 10) (n := n) (by decide) (by decide) ?_
    simpa [Nat.repr] using h
  rcases eq_of_mem_kindLetters hc with rfl | rfl <;> cases hd

theorem notMem_flaw {c : Char} (hc : c ∈ kindLetters) (flaw : Flaw) : c ∉ flaw.message.toList := by
  rcases eq_of_mem_kindLetters hc with rfl | rfl <;> cases flaw <;> decide +kernel

/-- A message about JSON is made of fixed words and numbers. -/
theorem notMem_error {c : Char} (hc : c ∈ kindLetters) (e : Error) : c ∉ e.message.toList := by
  -- the fixed words of both messages, one after the other
  obtain ⟨hline, hcolumn, hchar, hclose, hexceeds, hhas, huse⟩ :
      c ∉ ": line ".toList ∧ c ∉ " column ".toList ∧ c ∉ " (char ".toList ∧ c ∉ ")".toList ∧
        c ∉ "Exceeds the limit (".toList ∧
        c ∉ " digits) for integer string conversion: value has ".toList ∧
        c ∉ " digits; use sys.set_int_max_str_digits() to increase the limit".toList := by
    rcases eq_of_mem_kindLetters hc with rfl | rfl <;> decide +kernel
  cases e with
  | malformed flaw line column position =>
    have hflaw := notMem_append (notMem_flaw hc flaw) hline
    have hat := notMem_append (notMem_append hflaw (notMem_toString hc line)) hcolumn
    have hpos := notMem_append (notMem_append hat (notMem_toString hc column)) hchar
    exact notMem_append (notMem_append hpos (notMem_toString hc position)) hclose
  | tooLong digits =>
    have hlimit := notMem_append (notMem_append hexceeds (notMem_toString hc maxDigits)) hhas
    exact notMem_append (notMem_append hlimit (notMem_toString hc digits)) huse

end Json

/-- A message about JSON never says that what was looked up is absent. -/
theorem notFound_notIn_jsonError (r : Record) (e : Json.Error) :
    (Fault.badJson e).isNotFound r.lookedUp? = false := by
  unfold Record.lookedUp? Fault.isNotFound Fault.isNotFound.byText
  cases r.resource with
  | organization p o =>
    -- the kind stands in the words of absence, and it has a letter that the message lacks
    refine Fault.holds_of_notMem (c := 'z') ?_ (Json.notMem_error (by decide) e)
    simp [Fault.notFoundMessage, String.toList_append]
  | bucket p o =>
    refine Fault.holds_of_notMem (c := 'k') ?_ (Json.notMem_error (by decide) e)
    simp [Fault.notFoundMessage, String.toList_append]
  | mapping p o => rfl

/-- A fault whose message has the words of absence, if a kind and name were looked up. -/
def Fault.SaysAbsent (lookedUp : Option (String × String)) (fault : Fault) : Prop :=
  ∃ kind name, lookedUp = some (kind, name) ∧
    (notFoundMessage kind name).toList <:+: fault.message.toList

theorem Fault.isNotFound_status {lookedUp : Option (String × String)} {status : Int} {message : Value} :
    (Fault.status status message).isNotFound lookedUp = true ↔
      status = 404 ∨ (Fault.status status message).SaysAbsent lookedUp := by
  unfold isNotFound isNotFound.byText SaysAbsent
  rw [Bool.or_eq_true, beq_iff_eq]
  refine or_congr Iff.rfl ?_
  cases lookedUp with
  | none => simp
  | some k =>
    obtain ⟨kind, name⟩ := k
    refine (lettersHold_iff _ _).trans ⟨fun h => ⟨kind, name, rfl, h⟩, ?_⟩
    rintro ⟨kind', name', h, hw⟩
    cases h
    exact hw

/-! ## Answers that refuse a lookup -/

/-- An answer that refuses a lookup, with the fault that it is: its status tells of an error, and neither
the status nor the words of absence say that nothing was found; or its text is no JSON. -/
inductive Api.Answer.Refuses (lookedUp : Option (String × String)) : Answer → Fault → Prop
  | status {status : Int} {text : String} (isError : 400 ≤ status) (notAbsent : status ≠ 404)
      (notInWords : ¬(Fault.status status (errorMessage text)).SaysAbsent lookedUp) :
      Refuses lookedUp (.response status text) (.status status (errorMessage text))
  | json {status : Int} {text : String} {e : Json.Error} (noError : status < 400)
      (content : status ≠ 204) (nonempty : text ≠ "") (bad : Json.read text = .error e) :
      Refuses lookedUp (.response status text) (.badJson e)

theorem Api.Answer.Refuses.decode {lookedUp : Option (String × String)} {a : Answer} {fault : Fault}
    (h : a.Refuses lookedUp fault) : a.decode = .error fault := by
  cases h with
  | status isError _ _ =>
    unfold Answer.decode
    exact if_pos isError
  | json noError content nonempty bad =>
    unfold Answer.decode
    dsimp only
    rw [if_neg (by omega), if_neg (not_or.mpr ⟨content, nonempty⟩), bad]
    rfl

/-- A refusal is reported, and it is not taken for absence. -/
theorem Api.Answer.Refuses.findOrNone {r : Record} {a : Answer} {fault : Fault}
    (h : a.Refuses r.lookedUp? fault) :
    findOrNone r.lookedUp? (.error fault) = .error fault ∧ fault.isOrdinary = true := by
  unfold InfluxKeeper.findOrNone
  cases h with
  | status _ notAbsent notInWords =>
    refine ⟨if_neg ?_, rfl⟩
    rw [Bool.and_eq_true, not_and]
    intro _ hfound
    exact (Fault.isNotFound_status.mp hfound).elim notAbsent notInWords
  | json _ _ _ _ =>
    refine ⟨if_neg ?_, rfl⟩
    rw [notFound_notIn_jsonError]
    simp

namespace Work

variable {s : Setup} {c : Client} {resolver : Option Resolver}

/-- A lookup that has a request meets the answer that is next on the wire. -/
theorem finding_of_request {w : Work} {q : Request} (named : w.record.Named)
    (hq : w.record.lookupRequest? c = some q) :
    ∃ call : Call, w.finding c
      = w.record.found? (call.outcome (w.wire.script w.wire.sent.length).answer) := by
  obtain ⟨call, hl, hcall⟩ := Record.lookup?_of_request named hq
  refine ⟨call, ?_⟩
  unfold finding
  rw [hl]
  dsimp only
  unfold Work.call Wire.call
  rw [hcall]
  rfl

/-- A lookup that is refused fails with the refusal. -/
theorem finding_of_refused {w : Work} {q : Request} {fault : Fault} (named : w.record.Named)
    (hq : w.record.lookupRequest? c = some q)
    (ha : (w.wire.script w.wire.sent.length).answer.Refuses w.record.lookedUp? fault) :
    w.finding c = .error (.reported ⟨w.record.kind.lookupContext, some fault⟩) := by
  obtain ⟨call, hf⟩ := finding_of_request named hq
  obtain ⟨hfind, hordinary⟩ := ha.findOrNone
  have hout : call.outcome (w.wire.script w.wire.sent.length).answer = .error fault := by
    unfold Call.outcome
    rw [ha.decode]
    rfl
  rw [hf, hout]
  unfold Record.found? Failure.ofCall
  rw [hfind]
  dsimp only
  rw [if_pos hordinary]

/-- A reconcile whose lookup fails reports that, on the record as it was prepared. -/
theorem reconcile_of_reported {w : Work} {t : Trouble} (hk : w.record.kind ∈ s.kinds)
    (hf : (w.prepare resolver).finding s.client = .error (.reported t)) :
    w.reconcile s resolver
      = (.ok (((w.prepare resolver).asked s.client).fail .cannotObserve t false).1,
        (((w.prepare resolver).asked s.client).fail .cannotObserve t false).2) := by
  unfold reconcile ifHandled pass
  rw [if_neg (not_not_intro hk), look_eq, hf]

/-- **A lookup that is refused is a failure.** The reconcile sends the lookup and nothing else, fails with
the refusal, and leaves the record as it was prepared but for its conditions. -/
theorem reconcile_of_refused {w : Work} {q : Request} {fault : Fault} (hk : w.record.kind ∈ s.kinds)
    (hq : (w.prepare resolver).record.lookupRequest? s.client = some q)
    (ha : (w.wire.script w.wire.sent.length).answer.Refuses (w.prepare resolver).record.lookedUp?
      fault) :
    ∃ w', w.reconcile s resolver = (.ok ⟨w.record.kind, w.record.name, false, .nothing,
        w.record.kind.lookupContext ++ ": " ++ fault.message, false⟩, w') ∧
      q.method = "GET" ∧ w'.wire.sent = w.wire.sent ++ [q] ∧
      w'.record.externalName = w.record.nameByDefault.externalName ∧
      w'.record.resource = (w.prepare resolver).record.resource := by
  have named := w.prepare_named resolver
  have hf := finding_of_refused (w := w.prepare resolver) named hq ha
  rw [kind_prepare] at hf
  have hsent := sent_asked (c := s.client) named
  rw [hq] at hsent
  refine ⟨(((w.prepare resolver).asked s.client).fail .cannotObserve
    ⟨w.record.kind.lookupContext, some fault⟩ false).2, ?_, ?_, hsent, ?_, ?_⟩
  · rw [reconcile_of_reported hk hf]
    simp only [fail, record_asked, kind_prepare, name_prepare]
    rfl
  · exact Record.method_lookupRequest hq
  · simp only [fail, record_publish, record_setConditions, record_asked]
    exact externalName_prepare w resolver
  · simp only [fail, record_publish, record_setConditions, record_asked, Record.resource_setConditions]

/-- A bucket whose lookup is refused for the load of the server. -/
def overloaded : Work :=
  .ofAnswers (.ofName "logs" (.bucket .empty .empty)) [.response 503 "bucket 'other' not found"]

theorem reconcile_of_refused_overloaded :
    let s := Setup.ofClient ⟨"http://db", "", 30⟩
    let q := s.client.request "GET" "/buckets" [("name", .text "logs")] .null
    ∃ w', overloaded.reconcile s none = (.ok ⟨.bucket, "logs", false, .nothing,
        "cannot find bucket" ++ ": " ++
          (Fault.status 503 (errorMessage "bucket 'other' not found")).message, false⟩, w') ∧
      q.method = "GET" ∧ w'.wire.sent = overloaded.wire.sent ++ [q] ∧
      w'.record.externalName = overloaded.record.nameByDefault.externalName ∧
      w'.record.resource = (overloaded.prepare none).record.resource := by
  refine reconcile_of_refused (by decide) (by decide +kernel) (.status (by decide) (by decide) ?_)
  rintro ⟨kind, name, h, hw⟩
  cases h
  exact absurd ((Fault.lettersHold_iff _ _).mpr hw) (by decide +kernel)

/-- An error that has the words of absence is taken for absence, whatever its status. -/
theorem finding_of_words {w : Work} {q : Request} {status : Int} {text : String}
    (named : w.record.Named) (hq : w.record.lookupRequest? c = some q)
    (ha : (w.wire.script w.wire.sent.length).answer = .response status text) (isError : 400 ≤ status)
    (words : (Fault.status status (errorMessage text)).SaysAbsent w.record.lookedUp?) :
    w.finding c = .ok none := by
  obtain ⟨call, hf⟩ := finding_of_request named hq
  have hout : call.outcome (w.wire.script w.wire.sent.length).answer
      = .error (.status status (errorMessage text)) := by
    unfold Call.outcome Answer.decode
    rw [ha]
    dsimp only
    rw [if_pos isError]
    rfl
  have hfound := Fault.isNotFound_status.mpr (Or.inr words)
  rw [hf, hout]
  unfold Record.found? findOrNone
  dsimp only
  rw [hfound]
  rfl

/-- An organization whose lookup meets an internal error that speaks of an absent organization. -/
def misheard : Work :=
  .ofAnswers (.ofName "acme" (.organization ⟨none⟩ .empty))
    [.response 500 "organization 'acme' not found", .response 201 ""]

/-- Such an organization is created. -/
theorem reconcile_misheard :
    let s := Setup.ofClient ⟨"http://db", "", 30⟩
    (misheard.wire.script 0).answer = .response 500 "organization 'acme' not found" ∧
      (misheard.reconcile s none).1 = .ok ⟨.organization, "acme", true, .done .create, "", false⟩ ∧
      (misheard.reconcile s none).2.wire.sent.map (fun q => (q.method, q.url))
        = [("GET", "http://db/orgs"), ("POST", "http://db/orgs")] := by
  decide +kernel

end Work

end InfluxKeeper
