import InfluxKeeper.Proofs.Reconcile.Again
import InfluxKeeper.Proofs.Record.Conditions

/-!
# When a condition was last changed

A condition that a reconcile leaves as it was should keep its time. Most do, whatever the answers: Synced is
written once, at the end, and other types not at all. Ready is written where the record takes in the object
found, and again before the plan, so if the record is marked for deletion and its resource is still there, it
is called available and then being deleted (`conditions_of_ends`). Both cannot be what was there before.

> `reconcile_redates`: a condition that a reconcile leaves as it was, but for its time, keeps its time, unless it
> is the Ready condition of a record marked for deletion whose resource was found; that gets a new one.
-/

namespace InfluxKeeper

open Api

/-- An object that can be seen says whether its resource can be used. -/
theorem Resource.readyIn_of_seenIn {object : Value} {resource : Resource} {seen : Seen}
    (h : resource.seenIn object = .ok seen) : ∃ ready, resource.readyIn object = some ready := by
  unfold readyIn
  cases resource with
  | organization p o =>
    obtain ⟨o', ho, -⟩ := bind_ok_iff.mp h
    rw [ho]
    exact ⟨_, rfl⟩
  | bucket p o =>
    obtain ⟨o', ho, -⟩ := bind_ok_iff.mp h
    rw [ho]
    exact ⟨_, rfl⟩
  | mapping p o =>
    obtain ⟨link, hlink, -⟩ := bind_ok_iff.mp h
    rw [hlink]
    exact ⟨_, rfl⟩

namespace Work

variable {s : Setup} {c : Client} {resolver : Option Resolver}

/-- What a reconcile writes of the Ready condition, in order, if its lookup can be read: what the record takes
from the object found, and what follows from the mark. -/
def readyWrites (c : Client) (resolver : Option Resolver) (w : Work) : List (Timestamp → Condition) :=
  match (w.prepare resolver).finding c with
  | .error _ => []
  | .ok none => readiness w.record.deleting .absent
  | .ok (some object) =>
    ((w.prepare resolver).record.resource.readyIn object).toList ++ if w.record.deleting then [.deleting] else []

/-- They are of the Ready condition. -/
theorem type_readyWrites {w : Work} {write : Timestamp → Condition} (h : write ∈ w.readyWrites c resolver)
    (now : Timestamp) : (write now).type = "Ready" := by
  unfold readyWrites at h
  split at h
  · cases h
  · cases hd : w.record.deleting <;> rw [hd] at h <;> cases List.mem_singleton.mp h <;> rfl
  · rcases List.mem_append.mp h with hready | hmark
    · rcases Resource.readyIn_cases (Option.mem_toList.mp hready) with rfl | rfl
      · rfl
      · rfl
    · split at hmark
      · cases List.mem_singleton.mp hmark; rfl
      · cases hmark

/-- Before a mutation, what is written of the Ready condition is written. -/
theorem conditions_poised {w : Work} {seen : Seen}
    (h : (w.prepare resolver).look c = (.ok seen, w.looked c resolver)) :
    ((w.looked c resolver).poised seen).record.conditions =
      InfluxKeeper.setConditions ((w.readyWrites c resolver).map (· (w.looked c resolver).wire.now))
        w.record.conditions := by
  have hmark : (w.looked c resolver).record.deleting = w.record.deleting := w.deleting_looked c resolver
  show InfluxKeeper.setConditions ((readiness (w.looked c resolver).record.deleting seen).map _)
    (w.looked c resolver).record.conditions = _
  rw [hmark]
  unfold readyWrites
  rcases look_ok h with ⟨hf, rfl, hlooked⟩ | ⟨object, r, hf, habsorb, hlooked⟩
  · have hbefore : (w.looked c resolver).record.conditions = w.record.conditions := by
      rw [hlooked, record_asked, conditions_prepare]
    rw [hf, hbefore]
  · have hpresent : seen.present = true := (Record.absorb_ok (finding_plain hf) habsorb).1
    have hreadiness : readiness w.record.deleting seen = if w.record.deleting then [.deleting] else [] := by
      unfold readiness
      rw [if_pos hpresent]
    have htaken : (w.looked c resolver).record.conditions =
        InfluxKeeper.setConditions (((w.prepare resolver).record.resource.readyIn object).toList.map
          (· (w.looked c resolver).wire.now)) w.record.conditions := by
      have hrecord :=
        Record.record_absorb ((w.prepare resolver).asked c).wire.now object (w.prepare resolver).record
      rw [habsorb] at hrecord
      rw [← conditions_prepare w resolver, hlooked, record_withRecord, wire_withRecord]
      exact congrArg Record.conditions hrecord
    rw [hf, hreadiness, htaken, setConditions_append, ← List.map_append]

/-- Whatever a reconcile ends in, it has written the Ready condition, and then the Synced condition once. -/
theorem conditions_of_ends {w w' : Work} {result : Result} (h : Ends c resolver w result w') :
    ∃ synced : Condition, synced.type = "Synced" ∧ w'.record.conditions =
      InfluxKeeper.setConditions
        ((w.readyWrites c resolver).map (· (w.looked c resolver).wire.now) ++ [synced]) w.record.conditions := by
  cases h with
  | @unseen t finding =>
    have hrecord : (w.looked c resolver).record.conditions = w.record.conditions := by
      unfold looked
      rw [look_eq, finding, record_asked, conditions_prepare]
    refine ⟨.failed t.message (w.looked c resolver).wire.now, rfl, ?_⟩
    unfold readyWrites
    rw [finding, ← hrecord]
    rfl
  | @idle seen look plan =>
    refine ⟨.synced (w.looked c resolver).wire.now, rfl, ?_⟩
    rw [← setConditions_append, ← conditions_poised look]
    rfl
  | @done seen m w₁ look plan mutated =>
    have hmutated := conditions_mutate c m ((w.looked c resolver).poised seen)
    rw [mutated] at hmutated
    refine ⟨.synced w₁.wire.now, rfl, ?_⟩
    rw [← setConditions_append, ← conditions_poised look, ← hmutated]
    rfl
  | @undone seen m t w₁ look plan mutated =>
    have hmutated := conditions_mutate c m ((w.looked c resolver).poised seen)
    rw [mutated] at hmutated
    refine ⟨.failed t.message w₁.wire.now, rfl, ?_⟩
    rw [← setConditions_append, ← conditions_poised look, ← hmutated]
    rfl

/-! ## What stays, and what is dated anew -/

/-- A record that is marked for deletion, and whose resource the lookup finds. -/
def FindsMarked (c : Client) (resolver : Option Resolver) (w : Work) : Prop :=
  w.record.deleting = true ∧ ∃ object, (w.prepare resolver).finding c = .ok (some object)

/-- A reconcile that ends with a result takes the Ready condition from the object found. -/
theorem Ends.readyIn_of_found {w w' : Work} {result : Result} (h : Ends c resolver w result w') {object : Value}
    (hf : (w.prepare resolver).finding c = .ok (some object)) :
    ∃ ready, (w.prepare resolver).record.resource.readyIn object = some ready := by
  obtain ⟨seen, hlook⟩ := h.look_of_found hf
  rcases look_ok hlook with ⟨hnone, -⟩ | ⟨object', r, hf', habsorb, -⟩
  · rw [hf] at hnone
    cases hnone
  · rw [hf] at hf'
    cases hf'
    have hseen : (w.prepare resolver).record.resource.seenIn object = .ok seen := by
      rw [← Record.seen_absorb, habsorb]
    exact Resource.readyIn_of_seenIn hseen

/-- The Ready condition of a record that is marked and found is written twice: it can be used or not, and then
it is being deleted. -/
theorem readyWrites_of_marked {w w' : Work} {result : Result} (h : Ends c resolver w result w')
    (hm : w.FindsMarked c resolver) :
    ∃ ready, (ready = .available ∨ ready = .unavailable) ∧ w.readyWrites c resolver = [ready, .deleting] := by
  obtain ⟨hmark, object, hf⟩ := hm
  obtain ⟨ready, hready⟩ := h.readyIn_of_found hf
  refine ⟨ready, Resource.readyIn_cases hready, ?_⟩
  unfold readyWrites
  rw [hf, hmark]
  dsimp only
  rw [hready]
  rfl

/-- Of any other record it is written once at most. -/
theorem length_readyWrites_le {w : Work} (hm : ¬w.FindsMarked c resolver) :
    (w.readyWrites c resolver).length ≤ 1 := by
  unfold readyWrites
  split
  · exact Nat.zero_le 1
  · cases hd : w.record.deleting <;> exact Nat.le_refl 1
  · next object hf =>
    have hunmarked : w.record.deleting ≠ true := fun hmark => hm ⟨hmark, object, hf⟩
    rw [if_neg hunmarked, List.append_nil]
    cases (w.prepare resolver).record.resource.readyIn object <;> simp

/-- Of what a reconcile writes, a type sees the Ready conditions, or the Synced condition, or nothing. -/
theorem filter_writes (w : Work) {synced : Condition} (hs : synced.type = "Synced") (now : Timestamp)
    (type : String) :
    ((w.readyWrites c resolver).map (· now) ++ [synced]).filter (·.type = type) =
      if type = "Ready" then (w.readyWrites c resolver).map (· now)
      else if type = "Synced" then [synced] else [] := by
  have hready : ∀ write ∈ (w.readyWrites c resolver).map (· now), write.type = "Ready" := by
    intro write hwrite
    obtain ⟨make, hmake, rfl⟩ := List.mem_map.mp hwrite
    exact type_readyWrites hmake now
  rw [List.filter_append]
  split
  · next htype =>
    subst htype
    rw [List.filter_eq_self.mpr fun write hwrite => by simpa using hready write hwrite]
    simp [hs]
  · next htype =>
    rw [List.filter_eq_nil_iff.mpr fun write hwrite => by simpa [hready write hwrite] using Ne.symm htype]
    split
    · next hsynced => simp [hs, hsynced]
    · next hsynced => simpa [hs] using Ne.symm hsynced

/-- **A condition that a reconcile leaves as it was keeps its time**, unless it is the Ready condition of a record
that is marked for deletion and found. That one is dated anew. -/
theorem reconcile_redates {w w' : Work} {result : Result} {type : String} {before after : Condition}
    (h : w.reconcile s resolver = (.ok result, w')) (hb : w.record.condition? type = some before)
    (ha : w'.record.condition? type = some after) (same : after.Equivalent before) :
    (¬(type = "Ready" ∧ w.FindsMarked s.client resolver) → after = before) ∧
      (type = "Ready" ∧ w.FindsMarked s.client resolver →
        after = .deleting (w.looked s.client resolver).wire.now) := by
  have hends := reconcile_ends h
  obtain ⟨synced, hs, hconditions⟩ := conditions_of_ends hends
  have hwritten : (if type = "Ready" then (w.readyWrites s.client resolver).map
        (· (w.looked s.client resolver).wire.now) else if type = "Synced" then [synced] else []).foldl
      (fun old c => some (c.laidOver old)) (some before) = some after := by
    rw [← filter_writes w hs, ← hb, ← ha]
    show _ = InfluxKeeper.condition? type w'.record.conditions
    rw [hconditions, condition?_setConditions]
    rfl
  constructor
  · intro hkept
    refine Condition.foldl_laidOver_of_length_le_one ?_ hwritten same
    split
    · next htype =>
      rw [List.length_map]
      exact length_readyWrites_le fun hm => hkept ⟨htype, hm⟩
    · split <;> simp
  · rintro ⟨rfl, hm⟩
    obtain ⟨ready, hready, hwrites⟩ := readyWrites_of_marked hends hm
    rw [if_pos rfl, hwrites] at hwritten
    obtain rfl := Option.some.inj hwritten
    refine Condition.laidOver_laidOver_of_equivalent (fun he => ?_) same
    rcases hready with rfl | rfl
    · exact absurd he.2.1 (by simp [Condition.available, Condition.deleting])
    · exact absurd he.2.2.1 (by simp [Condition.unavailable, Condition.deleting])

/-- An organization that a reconcile could not delete a minute ago, and is refused again. -/
def refusedAgain : Work :=
  .ofAnswers (((Record.ofName "acme" (.organization ⟨none⟩ .empty)).markForDeletion
      (.ofSeconds (-60) 0)).setConditions [.deleting (.ofSeconds (-60) 0),
        .failed "cannot delete organization: HTTP 500: busy" (.ofSeconds (-60) 0)])
    [.ofValue (.object [("orgs", .list [.object [("id", .text "o1"), ("name", .text "acme")]])]),
      .response 500 "busy"]

/-- Both of its conditions are as they were, but Synced has kept its time and Ready has not. -/
theorem reconcile_redates_refusedAgain :
    let s := Setup.ofClient ⟨"http://db", "", 30⟩
    let w' := (refusedAgain.reconcile s none).2
    (∃ after, w'.record.condition? "Synced" = some after ∧
      after = .failed "cannot delete organization: HTTP 500: busy" (.ofSeconds (-60) 0)) ∧
    ∃ after, w'.record.condition? "Ready" = some after ∧
      after = .deleting (refusedAgain.looked s.client none).wire.now := by
  intro s w'
  have hresult : (refusedAgain.reconcile s none).1 = .ok ⟨.organization, "acme", false, .nothing,
      "cannot delete organization: HTTP 500: busy", false⟩ := by decide +kernel
  have hfound : refusedAgain.FindsMarked s.client none :=
    ⟨rfl, .object [("id", .text "o1"), ("name", .text "acme")], by decide +kernel⟩
  have hreconcile := Prod.fst_eq_iff.mp hresult
  have hsynced : refusedAgain.record.condition? "Synced" =
      some (.failed "cannot delete organization: HTTP 500: busy" (.ofSeconds (-60) 0)) := rfl
  have hready : refusedAgain.record.condition? "Ready" = some (.deleting (.ofSeconds (-60) 0)) := rfl
  refine ⟨⟨_, ?_, (reconcile_redates hreconcile hsynced ?_ (.refl _)).1 fun hand => absurd hand.1 (by decide)⟩,
    ⟨.deleting (.ofSeconds 0 0), ?_, (reconcile_redates hreconcile hready ?_ ?_).2 ⟨rfl, hfound⟩⟩⟩
  all_goals decide +kernel

/-- A Ready condition may get a new time although nothing else of it has changed. -/
theorem reconcile_redates_unchanged :
    let s := Setup.ofClient ⟨"http://db", "", 30⟩
    let before : Condition := .deleting (.ofSeconds (-60) 0)
    let after : Condition := .deleting (.ofSeconds 0 0)
    (refusedAgain.reconcile s none).1.toOption.isSome ∧
      refusedAgain.record.condition? "Ready" = some before ∧
      (refusedAgain.reconcile s none).2.record.condition? "Ready" = some after ∧
      (after.status, after.reason, after.message) = (before.status, before.reason, before.message) ∧
      after.lastTransitionTime ≠ before.lastTransitionTime := by
  decide +kernel

end Work

end InfluxKeeper
