import InfluxKeeper.Proofs.Bucket.Rules

/-!
# Which parameters a filling settles

Filling a rule can change its place in order, because the duration that it takes is part of its key. A second
filling from the same bucket then offers something else to the rules that are still open.

> `lateInitialize_again_iff`: every bucket settles parameters at once exactly if no open rule is listed twice.

An open rule that is listed once keeps its place as long as it stays open, because every other rule differs
from it in its type or its seconds, or has its duration already (`placeOf_of_nodup`). Of two open rules that are
equal, the second comes up when the first is filled, and can be offered what the first was offered
(`exists_fillRules_again`).
-/

namespace InfluxKeeper.Bucket

/-- The rules without a duration, as they are listed. -/
def openRules (rules : List RetentionRule) : List RetentionRule :=
  rules.filter fun r => r.shardGroupDurationSeconds.isNone

/-- No open rule is listed twice if and only if no two places have the same open rule. -/
theorem nodup_openRules_iff {rules : List RetentionRule} :
    (openRules rules).Nodup ↔
      ∀ (i j : Nat) (r : RetentionRule), i < j → rules[i]? = some r → rules[j]? = some r →
        r.shardGroupDurationSeconds ≠ none := by
  unfold openRules List.Nodup
  rw [List.pairwise_filter, List.pairwise_iff_getElem]
  constructor
  · intro h i j r hij hi hj hopen
    obtain ⟨hi', hi⟩ := List.getElem?_eq_some_iff.mp hi
    obtain ⟨hj', hj⟩ := List.getElem?_eq_some_iff.mp hj
    have hisNone : r.shardGroupDurationSeconds.isNone = true := Option.isNone_iff_eq_none.mpr hopen
    exact h i j hi' hj' hij (hi ▸ hisNone) (hj ▸ hisNone) (hi.trans hj.symm)
  · intro h i j hi hj hij hopen _ heq
    refine h i j rules[i] hij (List.getElem?_eq_getElem hi) ?_ (Option.isNone_iff_eq_none.mp hopen)
    rw [heq]
    exact List.getElem?_eq_getElem hj

/-! ## Open rules that are listed once -/

section OtherLimits

variable {r s : RetentionRule} (h : r.type = s.type → r.everySeconds ≠ s.everySeconds) (offered : Option Int)

include h

theorem before_take_of_ne : (r.take offered).before s = r.before s := by
  rw [Bool.eq_iff_iff, RetentionRule.before_iff, RetentionRule.before_iff]
  refine or_congr Iff.rfl (and_congr_right fun htype => or_congr Iff.rfl ?_)
  constructor
  · intro heq; exact absurd heq.1 (h htype)
  · intro heq; exact absurd heq.1 (h htype)

theorem before_take_of_ne' : s.before (r.take offered) = s.before r := by
  rw [Bool.eq_iff_iff, RetentionRule.before_iff, RetentionRule.before_iff]
  refine or_congr Iff.rfl (and_congr_right fun htype => or_congr Iff.rfl ?_)
  constructor
  · intro heq; exact absurd heq.1.symm (h htype.symm)
  · intro heq; exact absurd heq.1.symm (h htype.symm)

/-- A rule that takes a duration stays ahead, or behind, of a rule of another type or other seconds. -/
theorem ahead_take_of_ne (i j : Nat) : ahead (r.take offered, i) (s, j) = ahead (r, i) (s, j) := by
  unfold ahead
  dsimp only
  rw [before_take_of_ne h, before_take_of_ne' h]

end OtherLimits

/-- An open rule that is listed once keeps its place when the others are filled and it is not. -/
theorem placeOf_of_nodup {desired observed : List RetentionRule} {r : RetentionRule} {i : Nat}
    (once : (openRules desired).Nodup) (hr : desired[i]? = some r)
    (hopen : r.shardGroupDurationSeconds = none) (hleft : offeredAt desired observed (r, i) = none) :
    placeOf (fillRules desired observed).value (r, i) = placeOf desired (r, i) := by
  rw [placeOf_fillRules]
  refine List.countP_congr fun f hf => ?_
  obtain ⟨s, j⟩ := f
  have hs := List.mem_zipIdx_iff_getElem?.mp hf
  by_cases hset : s.shardGroupDurationSeconds = none
  · by_cases hij : j = i
    · subst hij
      cases Option.some.inj (hs.symm.trans hr)
      rw [hleft, RetentionRule.take_none]
    · rw [ahead_take_of_ne fun htype hevery => ?_]
      -- two open rules of one type and equal seconds are equal
      have heq : s = r := by
        obtain ⟨type, every, shard⟩ := s
        obtain ⟨type', every', shard'⟩ := r
        cases hset
        cases hopen
        cases htype
        cases hevery
        rfl
      rw [heq] at hs
      rcases Nat.lt_or_gt_of_ne hij with hlt | hlt
      · exact nodup_openRules_iff.mp once j i r hlt hs hr hopen
      · exact nodup_openRules_iff.mp once i j r hlt hr hs hopen
  · rw [RetentionRule.take_of_ne_none hset]

/-- If no open rule is listed twice, a second filling changes nothing. -/
theorem fillRules_again_of_nodup {desired : List RetentionRule} (once : (openRules desired).Nodup)
    (observed : List RetentionRule) :
    (fillRules (fillRules desired observed).value observed).value = (fillRules desired observed).value := by
  refine List.ext_getElem? fun i => ?_
  rw [getElem?_fillRules, getElem?_fillRules, Option.map_map]
  cases hr : desired[i]? with
  | none => rfl
  | some r =>
    refine congrArg some ?_
    dsimp only [Function.comp_apply]
    by_cases hset : (r.take (offeredAt desired observed (r, i))).shardGroupDurationSeconds = none
    · obtain ⟨hopen, hleft⟩ := Option.or_eq_none_iff.mp hset
      rw [hleft, RetentionRule.take_none]
      have hagain : offeredAt (fillRules desired observed).value observed (r, i) = none := by
        rw [← hleft]
        unfold offeredAt
        rw [placeOf_of_nodup once hr hopen hleft]
      rw [hagain, RetentionRule.take_none]
    · exact RetentionRule.take_of_ne_none hset _

/-! ## Open rules that are listed twice -/

theorem keyBefore_key_take (r : RetentionRule) {offered : Option Int} (h : 0 ≤ offered.getD 0) :
    keyBefore r.key (r.take offered).key := by
  refine Or.inr ⟨rfl, Or.inr ⟨rfl, ?_⟩⟩
  show r.shardGroupDurationSeconds.getD 0 ≤ (r.shardGroupDurationSeconds.or offered).getD 0
  cases r.shardGroupDurationSeconds with
  | none => exact h
  | some n => exact Int.le_refl n

/-- A rule that takes a duration that is not negative does not overtake. -/
theorem ahead_of_ahead_take {r : RetentionRule} {i : Nat} {e : RetentionRule × Nat} {offered : Option Int}
    (hoffered : 0 ≤ offered.getD 0) (h : ahead (r.take offered, i) e = true) : ahead (r, i) e = true := by
  obtain ⟨hbefore, hfirst⟩ := ahead_iff.mp h
  have hgrown := keyBefore_key_take r hoffered
  refine ahead_iff.mpr ⟨keyBefore_trans hgrown hbefore, fun hkey => ?_⟩
  exact hfirst (keyBefore_antisymm hbefore (hkey ▸ hgrown))

/-- If an open rule is listed twice, some bucket fills it the first time and the second. -/
theorem exists_fillRules_again {desired : List RetentionRule} {r : RetentionRule} {i j : Nat} (hij : i < j)
    (hi : desired[i]? = some r) (hj : desired[j]? = some r) (hopen : r.shardGroupDurationSeconds = none) :
    ∃ observed, (fillRules (fillRules desired observed).value observed).value
      ≠ (fillRules desired observed).value := by
  -- the bucket offers a duration up to the place of the second one
  obtain ⟨observed, hobserved⟩ : ∃ observed, observed = offering r.type (placeOf desired (r, j)) := ⟨_, rfl⟩
  have hmem : (r, i) ∈ desired.zipIdx := List.mem_zipIdx_iff_getElem?.mpr hi
  have hahead : ahead (r, i) (r, j) = true := ahead_iff.mpr ⟨keyBefore_refl r.key, fun _ => hij⟩
  have hfirst : offeredAt desired observed (r, i) = some 1 := by
    rw [hobserved, offeredAt_offering, if_pos ⟨placeOf_lt_placeOf hmem hahead, rfl⟩]
  have hleft : offeredAt desired observed (r, j) = none := by
    rw [hobserved, offeredAt_offering, if_neg fun h => Nat.lt_irrefl _ h.1]
  -- once the first one is filled, it is no longer ahead, and the second one comes up
  have hplace : placeOf (fillRules desired observed).value (r, j) < placeOf desired (r, j) := by
    rw [placeOf_fillRules]
    refine countP_lt_of_imp (fun f _ hf => ?_) hmem ?_ hahead
    · refine ahead_of_ahead_take ?_ hf
      rw [hobserved, offeredAt_offering]
      split
      · exact Int.zero_le_ofNat 1
      · exact Int.le_refl 0
    · rw [hfirst, Bool.eq_false_iff]
      intro hstill
      have hbefore := (ahead_iff.mp hstill).1
      exact key_take_one_ne hopen (keyBefore_antisymm hbefore (keyBefore_key_take r (by decide)))
  have hagain : offeredAt (fillRules desired observed).value observed (r, j) = some 1 := by
    rw [hobserved] at hplace ⊢
    rw [offeredAt_offering, if_pos ⟨hplace, rfl⟩]
  refine ⟨observed, fun heq => ?_⟩
  have hstays := congrArg (·[j]?) heq
  rw [getElem?_fillRules, getElem?_fillRules, hj] at hstays
  simp only [Option.map_some, Option.some.injEq] at hstays
  rw [hleft, RetentionRule.take_none, hagain] at hstays
  exact key_take_one_ne hopen (congrArg RetentionRule.key hstays)

/-! ## Parameters -/

/-- **When a filling settles.** Whatever bucket parameters are filled from, filling them from it once more
changes nothing and says so, exactly if no rule without a duration is listed twice. -/
theorem lateInitialize_again_iff (p : Parameters) :
    (∀ (v : Value) (changed : Bool) (p' : Parameters),
        lateInitialize p v = (.ok changed, p') → lateInitialize p' v = (.ok false, p')) ↔
      (openRules p.retentionRules).Nodup := by
  constructor
  · intro hsettles
    refine nodup_openRules_iff.mpr fun i j r hij hi hj hopen => ?_
    obtain ⟨observed, hagain⟩ := exists_fillRules_again hij hi hj hopen
    have hobserved := observedRules_bare observed
    have hsettled := hsettles _ _ _ (lateInitialize_eq (p := p) hobserved)
    rw [lateInitialize_eq hobserved] at hsettled
    have hsame := (Prod.mk.inj hsettled).2
    exact hagain (congrArg (·.retentionRules) hsame)
  · intro once v changed p' h
    obtain ⟨entries, observed, rfl, hobserved, rfl⟩ := lateInitialize_ok h
    have hsame : (p.filledFrom entries observed).filledFrom entries observed = p.filledFrom entries observed :=
      Parameters.filledFrom_eq_self_iff.mpr
        ⟨congrArg (·.value) (fill_again _ _), congrArg (·.value) (fill_again _ _),
          congrArg (·.value) (fillText_again _ _), fillRules_again_of_nodup once observed⟩
    rw [lateInitialize_eq hobserved, hsame, decide_eq_false (not_not_intro rfl)]

/-- One rule that is listed twice takes two fillings from a bucket that has it once, with a duration. -/
theorem lateInitialize_unsettled :
    let p := { Parameters.empty with retentionRules := [⟨"expire", 3600, none⟩, ⟨"expire", 3600, none⟩] }
    let p' := { p with retentionRules := [⟨"expire", 3600, some 60⟩, ⟨"expire", 3600, none⟩] }
    let p'' := { p with retentionRules := [⟨"expire", 3600, some 60⟩, ⟨"expire", 3600, some 60⟩] }
    let v := Value.map (bare [⟨"expire", 3600, some 60⟩])
    lateInitialize p v = (.ok true, p') ∧ lateInitialize p' v = (.ok true, p'') ∧ p'' ≠ p' := by
  intro p p' p'' v
  have hobserved := observedRules_bare [⟨"expire", 3600, some 60⟩]
  have hordered : Ordered [⟨"expire", 3600, some 60⟩] := List.pairwise_singleton _ _
  have hfirst : p.filledFrom (bare [⟨"expire", 3600, some 60⟩]) [⟨"expire", 3600, some 60⟩] = p' :=
    (Parameters.filledFrom_bare hordered p).trans (by decide +kernel)
  have hsecond : p'.filledFrom (bare [⟨"expire", 3600, some 60⟩]) [⟨"expire", 3600, some 60⟩] = p'' :=
    (Parameters.filledFrom_bare hordered p').trans (by decide +kernel)
  have hchanged : p' ≠ p := by decide +kernel
  have hagain : p'' ≠ p' := by decide +kernel
  refine ⟨?_, ?_, hagain⟩
  · rw [lateInitialize_eq hobserved, hfirst, decide_eq_true hchanged]
  · rw [lateInitialize_eq hobserved, hsecond, decide_eq_true hagain]

end InfluxKeeper.Bucket
