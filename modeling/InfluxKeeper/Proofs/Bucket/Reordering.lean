import InfluxKeeper.Proofs.Bucket.Observing

/-!
# Rules that are listed otherwise

Rules are put in order before they are filled and compared, so how they are listed matters only where rules say
the same: these stay as they are listed. Two rules that say the same and are not equal have no duration and a
duration of zero (`open_of_key_eq`), and a filling tells them apart.

> `observed_reordered_iff`: an observation does not depend on how rules are listed exactly if wanted rules that
> say the same are equal.

The rules of the bucket need no such condition. Two of them that say the same offer no duration and a duration
of zero, and a rule that takes either says the same as before (`key_take_offer_congr`); but whether it has
changed depends on which of the two it took.
-/

namespace InfluxKeeper.Bucket

/-! ## Rules of which those that say the same are equal -/

section Listed

variable {desired desired' observed observed' : List RetentionRule}

/-- If rules that say the same are equal, all ways to list them list the rules of each key alike. -/
theorem ofKey_eq_of_perm (equal : ∀ r ∈ desired, ∀ s ∈ desired, r.key = s.key → r = s)
    (h : desired'.Perm desired) (k : Key) : ofKey k desired' = ofKey k desired := by
  have hall (rules : List RetentionRule) : rules.Pairwise fun _ _ => True :=
    List.pairwise_of_forall fun _ _ => trivial
  refine List.Perm.eq_of_pairwise (fun r s hr hs _ _ => ?_) (hall _) (hall _) (h.filter _)
  obtain ⟨hr, hrk⟩ := mem_ofKey.mp hr
  obtain ⟨hs, hsk⟩ := mem_ofKey.mp hs
  exact equal r (h.mem_iff.mp hr) s hs (hrk.trans hsk.symm)

/-- What a rule says once it has taken an offer depends only on what the rule that offers says. -/
theorem key_take_offer_congr {want : RetentionRule} {partner partner' : Option RetentionRule}
    (h : partner'.map RetentionRule.key = partner.map RetentionRule.key) :
    (want.take (offer want partner')).key = (want.take (offer want partner)).key := by
  cases partner with
  | none =>
    rw [Option.map_eq_none_iff.mp h]
  | some a =>
    obtain ⟨b, rfl, hkey⟩ := Option.map_eq_some_iff.mp h
    obtain ⟨htype, -, hseconds⟩ := RetentionRule.key_eq_iff.mp hkey
    refine RetentionRule.key_eq_iff.mpr ⟨rfl, rfl, ?_⟩
    unfold offer
    dsimp only
    rw [htype]
    by_cases hwant : want.type = a.type
    · rw [if_pos hwant, if_pos hwant]
      unfold RetentionRule.shardSeconds RetentionRule.take at *
      cases want.shardGroupDurationSeconds with
      | none => exact hseconds
      | some n => rfl
    · rw [if_neg hwant, if_neg hwant]

/-- What filled rules say depends only on what the rules of the bucket say. -/
theorem map_key_filledInOrder (h : observed'.Perm observed) :
    (filledInOrder desired observed').map RetentionRule.key =
      (filledInOrder desired observed).map RetentionRule.key := by
  have hkeys := map_key_sortRules_eq_iff.mpr (h.map RetentionRule.key)
  unfold filledInOrder
  rw [List.map_map, List.map_map]
  refine List.map_congr_left fun e _ => key_take_offer_congr ?_
  rw [← List.getElem?_map, ← List.getElem?_map, hkeys]

/-- Filled rules depend, up to where they are listed, on the order of the rules only. -/
theorem filledInOrder_congr (hdesired : sortRules desired' = sortRules desired)
    (hobserved : sortRules observed' = sortRules observed) :
    filledInOrder desired' observed' = filledInOrder desired observed := by
  unfold filledInOrder takenAt
  rw [hdesired, hobserved]

/-- What filled rules say does not depend on how the rules of the bucket are listed. -/
theorem perm_map_key_fillRules (hdesired : sortRules desired' = sortRules desired)
    (hobserved : observed'.Perm observed) :
    ((fillRules desired' observed').value.map RetentionRule.key).Perm
      ((fillRules desired observed).value.map RetentionRule.key) := by
  have hkeys : (filledInOrder desired' observed').map RetentionRule.key =
      (filledInOrder desired observed).map RetentionRule.key := by
    rw [filledInOrder_congr hdesired rfl, map_key_filledInOrder hobserved]
  exact ((fillRules_perm _ _).map _).trans ((List.Perm.of_eq hkeys).trans ((fillRules_perm _ _).map _).symm)

end Listed

/-! ## Rules that say the same and are not equal -/

/-- Of two rules that say the same and are not equal, one has no duration. -/
theorem open_of_key_eq {r s : RetentionRule} (hkey : r.key = s.key) (hne : r ≠ s) :
    r.shardGroupDurationSeconds = none ∧ s.shardGroupDurationSeconds ≠ none ∨
      s.shardGroupDurationSeconds = none ∧ r.shardGroupDurationSeconds ≠ none := by
  obtain ⟨type, every, shard⟩ := r
  obtain ⟨type', every', shard'⟩ := s
  obtain ⟨htype, hevery, hseconds⟩ := RetentionRule.key_eq_iff.mp hkey
  cases htype
  cases hevery
  cases shard with
  | none =>
    cases shard' with
    | none => exact absurd rfl hne
    | some n => exact Or.inl ⟨rfl, Option.some_ne_none n⟩
  | some m =>
    cases shard' with
    | none => exact Or.inr ⟨rfl, Option.some_ne_none m⟩
    | some n =>
      cases (hseconds : m = n)
      exact absurd rfl hne

/-- Whether a rule must stand before all rules of a key. -/
def lowerThan (k : Key) (r : RetentionRule) : Bool :=
  !RetentionRule.before ⟨k.1, k.2.1, some k.2.2⟩ r

theorem lowerThan_eq_false_iff {k : Key} {r : RetentionRule} :
    lowerThan k r = false ↔ keyBefore k r.key := by
  unfold lowerThan
  rw [Bool.not_eq_false', RetentionRule.before_iff]
  rfl

theorem lowerThan_of_before (k : Key) (r s : RetentionRule) (hrs : r.before s = true)
    (hs : lowerThan k s = true) : lowerThan k r = true := by
  by_contra hr
  have hkr := lowerThan_eq_false_iff.mp (Bool.eq_false_iff.mpr hr)
  have hks := lowerThan_eq_false_iff.mpr (keyBefore_trans hkr (RetentionRule.before_iff.mp hrs))
  rw [hks] at hs
  cases hs

/-- Two rules of one key that are listed first come one after the other in order, as they are listed. -/
theorem exists_sortRules_cons_cons (k : Key) (rest : List RetentionRule) :
    ∃ lower higher, ∀ a b : RetentionRule, a.key = k → b.key = k →
      sortRules (a :: b :: rest) = lower ++ a :: b :: higher := by
  refine ⟨sortRules (rest.filter (lowerThan k)), sortRules (rest.filter fun r => !lowerThan k r),
    fun a b ha hb => ?_⟩
  have hnot {r : RetentionRule} (hr : r.key = k) : lowerThan k r = false :=
    lowerThan_eq_false_iff.mpr (hr ▸ keyBefore_refl k)
  have hbefore {r : RetentionRule} (hr : r.key = k) (s : RetentionRule)
      (hs : s ∈ rest.filter fun r => !lowerThan k r) : r.before s = true := by
    have hks := lowerThan_eq_false_iff.mp (Bool.not_eq_eq_eq_not.mp (List.mem_filter.mp hs).2)
    exact RetentionRule.before_iff.mpr (hr ▸ hks)
  have hab : a.before b = true := RetentionRule.before_of_key_eq (ha.trans hb.symm)
  rw [← filter_append_filter_of_ordered (lowerThan_of_before k)
    (ordered_sortRules (a :: b :: rest)), filter_sortRules, filter_sortRules]
  simp only [List.filter_cons, hnot ha, hnot hb, Bool.false_eq_true, if_false, Bool.not_false, if_true]
  rw [sortRules_cons (List.forall_mem_cons.mpr ⟨hab, hbefore ha⟩), sortRules_cons (hbefore hb)]

/-- A bucket can offer a duration to the first of two rules of one key, and none to the second. -/
theorem exists_map_key_filledInOrder (k : Key) (rest : List RetentionRule) :
    ∃ observed keys keys', ∀ a b : RetentionRule, a.key = k → b.key = k →
      (filledInOrder (a :: b :: rest) observed).map RetentionRule.key =
        keys ++ (a.take (some 1)).key :: b.key :: keys' := by
  obtain ⟨lower, higher, hsorted⟩ := exists_sortRules_cons_cons k rest
  obtain ⟨observed, hobserved⟩ : ∃ observed, observed = offering k.1 (lower.length + 1) := ⟨_, rfl⟩
  refine ⟨observed, (lower.zipIdx.map (takenAt observed)).map RetentionRule.key,
    ((higher.zipIdx (lower.length + 2)).map (takenAt observed)).map RetentionRule.key, fun a b ha hb => ?_⟩
  have hfirst : takenAt observed (a, lower.length) = a.take (some 1) := by
    rw [hobserved, takenAt_offering, if_pos ⟨Nat.lt_succ_self _, congrArg (·.1) ha⟩]
  have hsecond : takenAt observed (b, lower.length + 1) = b := by
    rw [hobserved, takenAt_offering, if_neg fun h => Nat.lt_irrefl _ h.1, RetentionRule.take_none]
  unfold filledInOrder
  rw [hsorted a b ha hb, List.zipIdx_append, List.zipIdx_cons, List.zipIdx_cons, Nat.zero_add,
    List.map_append, List.map_append, List.map_cons, List.map_cons, List.map_cons, List.map_cons, hfirst,
    hsecond]

/-- Two wanted rules that say the same and are not equal can be listed in two ways, and some bucket tells these
apart. -/
theorem exists_filledInOrder_ne {desired : List RetentionRule} {r s : RetentionRule} (hr : r ∈ desired)
    (hs : s ∈ desired) (hkey : r.key = s.key) (hopen : r.shardGroupDurationSeconds = none)
    (hset : s.shardGroupDurationSeconds ≠ none) :
    ∃ desired₁ desired₂ observed, desired₁.Perm desired ∧ desired₂.Perm desired ∧
      ¬((filledInOrder desired₁ observed).map RetentionRule.key).Perm
        ((filledInOrder desired₂ observed).map RetentionRule.key) := by
  have hne : s ≠ r := fun heq => hset (heq ▸ hopen)
  let rest := (desired.erase r).erase s
  have hlisted : (r :: s :: rest).Perm desired :=
    (((List.perm_cons_erase ((List.mem_erase_of_ne hne).mpr hs)).cons r).symm).trans
      (List.perm_cons_erase hr).symm
  obtain ⟨observed, keys, keys', hfilled⟩ := exists_map_key_filledInOrder s.key rest
  refine ⟨r :: s :: rest, s :: r :: rest, observed, hlisted, (List.Perm.swap r s rest).trans hlisted, ?_⟩
  rw [hfilled r s hkey rfl, hfilled s r rfl hkey, RetentionRule.take_of_ne_none hset,
    List.perm_append_left_iff]
  intro hperm
  -- all keys but one are the same on both sides
  have hperm := (List.perm_cons s.key).mp ((List.Perm.swap _ _ _).trans hperm)
  exact key_take_one_ne hopen
    (List.singleton_perm_singleton.mp ((List.perm_append_right_iff keys').mp hperm))

/-! ## Observations -/

/-- If items make sense as rules, they do however they are listed, and as the same rules. -/
theorem readRules_perm {items items' : List Value} (h : items'.Perm items) {rules : List RetentionRule}
    (hread : readRules items = .ok rules) :
    ∃ rules', readRules items' = .ok rules' ∧ rules'.Perm rules := by
  induction h generalizing rules with
  | nil => exact ⟨rules, hread, .refl _⟩
  | cons item _ ih =>
    obtain ⟨r, rest, hr, hrest, rfl⟩ := readRules_cons_ok_iff.mp hread
    obtain ⟨rest', hrest', hperm⟩ := ih hrest
    exact ⟨r :: rest', readRules_cons_ok_iff.mpr ⟨r, rest', hr, hrest', rfl⟩, hperm.cons r⟩
  | swap item item' items =>
    obtain ⟨r, _, hr, htail, rfl⟩ := readRules_cons_ok_iff.mp hread
    obtain ⟨s, rest, hs, hrest, rfl⟩ := readRules_cons_ok_iff.mp htail
    have htail' := readRules_cons_ok_iff.mpr ⟨r, rest, hr, hrest, rfl⟩
    exact ⟨s :: r :: rest, readRules_cons_ok_iff.mpr ⟨s, _, hs, htail', rfl⟩, .swap r s rest⟩
  | trans _ _ ih ih' =>
    obtain ⟨rules', hread', hperm'⟩ := ih' hread
    obtain ⟨rules'', hread'', hperm''⟩ := ih hread'
    exact ⟨rules'', hread'', hperm''.trans hperm'⟩

/-- **When it makes no difference how rules are listed.** The verdict, and what the filled rules say, are the
same however the wanted rules and the rules of the bucket are listed, whatever the bucket, exactly if wanted
rules that say the same are equal. Then also the filled rules are the same, and whether the filling changed
something is, as long as rules of the bucket that say the same stay listed as they were. -/
theorem observed_reordered_iff (p : Parameters) :
    (∀ (entries entries' : Entries) (items items' : List Value) (observed desired' : List RetentionRule),
        DifferInRules entries entries' items items' → items'.Perm items →
        observedRules (.map entries) = .ok observed → desired'.Perm p.retentionRules →
        ∃ (observed' : List RetentionRule) (changed changed' verdict : Bool) (q q' : Parameters),
          observedRules (.map entries') = .ok observed' ∧
            Observed p entries changed verdict q ∧
            Observed { p with retentionRules := desired' } entries' changed' verdict q' ∧
            (q'.retentionRules.map RetentionRule.key).Perm (q.retentionRules.map RetentionRule.key) ∧
            ((∀ k, ofKey k observed' = ofKey k observed) →
              changed' = changed ∧ q'.retentionRules.Perm q.retentionRules)) ↔
      ∀ r ∈ p.retentionRules, ∀ s ∈ p.retentionRules, r.key = s.key → r = s := by
  constructor
  · intro hsame r hr s hs hkey
    by_contra hne
    have hkeys (desired observed : List RetentionRule) (h : desired.Perm p.retentionRules) :
        ((filledInOrder desired observed).map RetentionRule.key).Perm
          ((fillRules p.retentionRules observed).value.map RetentionRule.key) := by
      obtain ⟨_, _, _, _, q, q', -, hq, hq', hperm, -⟩ := hsame _ _ _ _ observed desired
        (differInRules_bare observed observed) (.refl _) (observedRules_bare _) h
      rw [hq.eq_filledFrom (observedRules_bare _), hq'.eq_filledFrom (observedRules_bare _)] at hperm
      exact ((fillRules_perm desired observed).map _).symm.trans hperm
    have htold : ∃ desired₁ desired₂ observed, desired₁.Perm p.retentionRules ∧
        desired₂.Perm p.retentionRules ∧
        ¬((filledInOrder desired₁ observed).map RetentionRule.key).Perm
          ((filledInOrder desired₂ observed).map RetentionRule.key) := by
      rcases open_of_key_eq hkey hne with ⟨hopen, hset⟩ | ⟨hopen, hset⟩
      · exact exists_filledInOrder_ne hr hs hkey hopen hset
      · exact exists_filledInOrder_ne hs hr hkey.symm hopen hset
    obtain ⟨desired₁, desired₂, observed, h₁, h₂, hdiffer⟩ := htold
    exact hdiffer ((hkeys desired₁ observed h₁).trans (hkeys desired₂ observed h₂).symm)
  · intro hequal entries entries' items items' observed desired' hdiffer hitems hread hdesired
    obtain ⟨observed', hread', hobserved⟩ :=
      readRules_perm hitems ((observedRules_of_listed hdiffer.listed).symm.trans hread)
    have hread' := (observedRules_of_listed hdiffer.listed').trans hread'
    have hsorted := sortRules_eq_iff.mpr (ofKey_eq_of_perm hequal hdesired)
    have hkeys := perm_map_key_fillRules hsorted hobserved
    obtain ⟨verdict, hq, hq'⟩ := hdiffer.exists_observed hread hread' p
      { p with retentionRules := desired' } rfl (limits_of_perm_keys (hobserved.map _))
      (limits_of_perm_keys hkeys)
    refine ⟨observed', _, _, verdict, _, _, hread', hq, hq', hkeys, fun hties => ?_⟩
    have hfilled := filledInOrder_congr hsorted (sortRules_eq_iff.mpr hties)
    constructor
    · refine decide_eq_decide.mpr (not_congr ?_)
      rw [Parameters.filledFrom_eq_self_iff, Parameters.filledFrom_eq_self_iff, fillRules_eq_self_iff,
        fillRules_eq_self_iff, hdiffer.others "description" (by decide), hdiffer.others "rp" (by decide),
        hdiffer.others "schemaType" (by decide), hfilled, hsorted]
    · exact (fillRules_perm _ _).trans (.trans (.of_eq hfilled) (fillRules_perm _ _).symm)

/-- Two wanted rules of an hour, one with shards of no seconds and one without a duration, beside a bucket
that has such rules as well. Which of them takes the duration of a minute, or whether any does, depends on the
way they are listed; and only in one way the bucket is as wanted. -/
theorem observed_swapped :
    let zero : RetentionRule := ⟨"expire", 3600, some 0⟩
    let unset : RetentionRule := ⟨"expire", 3600, none⟩
    let minute : RetentionRule := ⟨"expire", 3600, some 60⟩
    let p := { Parameters.empty with retentionRules := [zero, unset] }
    let p' := { Parameters.empty with retentionRules := [unset, zero] }
    let q := { Parameters.empty with retentionRules := [zero, minute] }
    let observed : List RetentionRule := [unset, minute]
    p'.retentionRules.Perm p.retentionRules ∧
      Observed p (bare observed) true true q ∧ Observed p' (bare observed) false false p' ∧
      ¬p'.retentionRules.Perm q.retentionRules := by
  intro zero unset minute p p' q observed
  have hordered : Ordered observed := List.pairwise_pair.mpr (by decide +kernel)
  refine ⟨List.Perm.swap _ _ _, ?_, ?_, by decide +kernel⟩
  · exact observed_bare hordered (by decide +kernel) (by decide +kernel) (by decide +kernel)
  · exact observed_bare hordered (by decide +kernel) (by decide +kernel) (by decide +kernel)

end InfluxKeeper.Bucket
