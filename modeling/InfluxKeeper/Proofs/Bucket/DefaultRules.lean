import InfluxKeeper.Proofs.Bucket.Observing

/-!
# Rules that keep data for ever, in a bucket

The comparison leaves out rules that keep data for ever, but the filling does not: it counts places in the order
of all observed rules. Such a rule has the type `expire` and zero seconds, so it moves the observed rules that
come after it, of this type or a later one, by one place.

> `observed_defaults_iff`: rules that keep data for ever can be added to a bucket without a difference exactly
> if no limiting rule without a duration is of such a type.

Rules of an earlier type come first in order, before any rule that keeps data for ever, and meet the same rules
as before (`offer_of_early`). A later type is moved out of reach by as many rules as its place counts
(`offer_behind_defaults`).
-/

namespace InfluxKeeper.Bucket

/-! ## Limiting rules among filled rules -/

/-- Limiting rules are filled alike exactly if each of them is. -/
theorem limiting_fillRules_eq_iff {desired observed observed' : List RetentionRule} :
    limiting (fillRules desired observed').value = limiting (fillRules desired observed).value ↔
      ∀ e ∈ desired.zipIdx, e.1.keepsForever = false →
        e.1.take (offeredAt desired observed' e) = e.1.take (offeredAt desired observed e) := by
  have hlimiting (rules : List RetentionRule) : limiting (fillRules desired rules).value =
      (desired.zipIdx.filter fun e => !e.1.keepsForever).map
        fun e => e.1.take (offeredAt desired rules e) := by
    rw [value_fillRules]
    unfold limiting
    rw [List.filter_map]
    rfl
  rw [hlimiting, hlimiting, List.map_inj_left]
  simp only [List.mem_filter, and_imp, Bool.not_eq_true']

/-! ## Rules of an earlier type -/

/-- Whether a rule comes before all rules that keep data for ever. -/
def early (r : RetentionRule) : Bool := r.type < "expire"

theorem early_of_before {a b : RetentionRule} (hab : a.before b = true) (hb : early b = true) :
    early a = true := by
  unfold early at *
  rw [decide_eq_true_iff] at *
  rcases RetentionRule.before_iff.mp hab with hlt | ⟨heq, -⟩
  · exact String.lt_trans hlt hb
  · exact lt_of_eq_of_lt heq hb

/-- Rules that keep data for ever are not early. -/
theorem filter_early_limiting (rules : List RetentionRule) :
    (limiting rules).filter early = rules.filter early := by
  unfold limiting
  rw [List.filter_filter]
  refine List.filter_congr fun r _ => ?_
  cases hforever : r.keepsForever with
  | false => exact Bool.and_true _
  | true =>
    have htype : r.type = "expire" := eq_of_beq (Bool.and_eq_true_iff.mp hforever).1
    unfold early
    rw [htype]
    rfl

/-- An early rule is offered something by early rules only. -/
theorem offer_filter_early {want : RetentionRule} (h : early want = true) {rules : List RetentionRule}
    (hrules : Ordered rules) (n : Nat) : offer want rules[n]? = offer want (rules.filter early)[n]? := by
  have hsplit := filter_append_filter_of_ordered (fun a b => early_of_before) hrules
  by_cases hn : n < (rules.filter early).length
  · rw [← hsplit, List.getElem?_append_left hn, hsplit]
  · have hnone : (rules.filter early)[n]? = none := List.getElem?_eq_none (Nat.not_lt.mp hn)
    rw [hnone, ← hsplit, List.getElem?_append_right (Nat.not_lt.mp hn)]
    cases hpartner : (rules.filter fun r => !early r)[n - (rules.filter early).length]? with
    | none => rfl
    | some partner =>
      refine if_neg fun htype => ?_
      have hlate := (List.mem_filter.mp (List.mem_of_getElem? hpartner)).2
      unfold early at h hlate
      rw [← htype, h] at hlate
      cases hlate

/-- What an early rule is offered depends on the limiting rules of a bucket only. -/
theorem offer_of_early {want : RetentionRule} (h : early want = true) {observed observed' : List RetentionRule}
    (hlimiting : limiting observed' = limiting observed) (n : Nat) :
    offer want (sortRules observed')[n]? = offer want (sortRules observed)[n]? := by
  rw [offer_filter_early h (ordered_sortRules _), offer_filter_early h (ordered_sortRules _),
    filter_sortRules, filter_sortRules, ← filter_early_limiting, hlimiting, filter_early_limiting]

/-- If all limiting rules without a duration are early, they are filled from limiting rules only. -/
theorem limiting_fillRules_of_early {desired observed observed' : List RetentionRule}
    (hearly : ∀ r ∈ limiting desired, r.shardGroupDurationSeconds = none → r.type < "expire")
    (hlimiting : limiting observed' = limiting observed) :
    limiting (fillRules desired observed').value = limiting (fillRules desired observed).value := by
  refine limiting_fillRules_eq_iff.mpr fun e he hforever => ?_
  by_cases hopen : e.1.shardGroupDurationSeconds = none
  · have hr : e.1 ∈ limiting desired :=
      List.mem_filter.mpr ⟨List.fst_mem_of_mem_zipIdx he, by rw [hforever]; rfl⟩
    have hoffer := offer_of_early (decide_eq_true (hearly e.1 hr hopen)) hlimiting
    unfold offeredAt
    rw [hoffer]
  · rw [RetentionRule.take_of_ne_none hopen, RetentionRule.take_of_ne_none hopen]

/-! ## Rules of the same type or a later one -/

/-- Rules that keep data for ever. -/
def defaults (places : Nat) : List RetentionRule := List.replicate places ⟨"expire", 0, none⟩

theorem ordered_defaults_offering {type : String} (hlate : ¬type < "expire") (places places' : Nat) :
    Ordered (defaults places ++ offering type places') := by
  refine List.pairwise_append.mpr ⟨?_, ordered_offering type places', ?_⟩
  · exact List.pairwise_replicate.mpr (Or.inr (RetentionRule.before_of_key_eq rfl))
  · intro a ha b hb
    rw [List.eq_of_mem_replicate ha, List.eq_of_mem_replicate hb]
    refine RetentionRule.before_iff.mpr ((keyBefore_total _ _).resolve_right fun hback => ?_)
    rcases hback with hlt | ⟨-, hseconds⟩
    · exact hlate hlt
    · have hseconds : (1 : Int) < 0 ∨ (1 : Int) = 0 ∧ (1 : Int) ≤ 0 := hseconds
      omega

/-- Rules that keep data for ever offer nothing, and leave no place for others to offer something at. -/
theorem offer_behind_defaults (want : RetentionRule) {places n : Nat} (hn : n < places)
    (rules : List RetentionRule) : offer want (defaults places ++ rules)[n]? = none := by
  unfold defaults
  rw [List.getElem?_append_left (by rwa [List.length_replicate]), List.getElem?_replicate, if_pos hn]
  show (if want.type = "expire" then none else none) = none
  split <;> rfl

/-! ## Observations -/

/-- Items, and the same items among some that are read as rules that keep data for ever. -/
inductive AddsDefaults : List Value → List Value → Prop
  | nil : AddsDefaults [] []
  | keep (item : Value) {items items' : List Value} :
      AddsDefaults items items' → AddsDefaults (item :: items) (item :: items')
  | add {item : Value} {r : RetentionRule} {items items' : List Value} :
      RetentionRule.check item = .valid r → r.keepsForever = true →
        AddsDefaults items items' → AddsDefaults items (item :: items')

theorem AddsDefaults.refl (items : List Value) : AddsDefaults items items := by
  induction items with
  | nil => exact .nil
  | cons item items ih => exact .keep item ih

theorem addsDefaults_defaults_append (places : Nat) (rules : List RetentionRule) :
    AddsDefaults (rules.map (·.toValue false)) ((defaults places ++ rules).map (·.toValue false)) := by
  induction places with
  | zero => exact .refl _
  | succ places ih => exact .add (check_toValue ⟨"expire", 0, none⟩) rfl ih

/-- If items make sense as rules, they do with such items among them, and as the same limiting rules. -/
theorem AddsDefaults.readRules {items items' : List Value} (h : AddsDefaults items items')
    {rules : List RetentionRule} (hread : readRules items = .ok rules) :
    ∃ rules', Bucket.readRules items' = .ok rules' ∧ limiting rules' = limiting rules := by
  induction h generalizing rules with
  | nil => exact ⟨rules, hread, rfl⟩
  | keep item _ ih =>
    obtain ⟨r, rest, hr, hrest, rfl⟩ := readRules_cons_ok_iff.mp hread
    obtain ⟨rest', hrest', hlimiting⟩ := ih hrest
    refine ⟨r :: rest', readRules_cons_ok_iff.mpr ⟨r, rest', hr, hrest', rfl⟩, ?_⟩
    unfold limiting at hlimiting ⊢
    rw [List.filter_cons, List.filter_cons, hlimiting]
  | add hr hforever _ ih =>
    obtain ⟨rest', hrest', hlimiting⟩ := ih hread
    refine ⟨_, readRules_cons_ok_iff.mpr ⟨_, rest', hr, hrest', rfl⟩, ?_⟩
    unfold limiting at hlimiting ⊢
    rw [List.filter_cons_of_neg (by rw [hforever]; decide), hlimiting]

/-- **When rules that keep data for ever make no difference.** Adding such rules to a bucket leaves the verdict
and the durations of all limiting rules as they are, whatever the bucket, exactly if every limiting rule
without a duration is of a type that comes before theirs. -/
theorem observed_defaults_iff (p : Parameters) :
    (∀ (entries entries' : Entries) (items items' : List Value) (observed : List RetentionRule),
        DifferInRules entries entries' items items' → AddsDefaults items items' →
        observedRules (.map entries) = .ok observed →
        ∃ (changed changed' verdict : Bool) (q q' : Parameters),
          Observed p entries changed verdict q ∧ Observed p entries' changed' verdict q' ∧
            limiting q'.retentionRules = limiting q.retentionRules) ↔
      ∀ r ∈ limiting p.retentionRules, r.shardGroupDurationSeconds = none → r.type < "expire" := by
  constructor
  · intro hsame r hr hopen
    obtain ⟨hmem, hlimiting⟩ := List.mem_filter.mp hr
    obtain ⟨i, hi⟩ := List.getElem?_of_mem hmem
    by_contra hlate
    -- a bucket offers a duration at the place of the rule, unless something else is at this place
    obtain ⟨n, hn⟩ : ∃ n, n = placeOf p.retentionRules (r, i) + 1 := ⟨_, rfl⟩
    obtain ⟨_, _, _, q, q', hq, hq', hdurations⟩ := hsame _ _ _ _ _
      (differInRules_bare (offering r.type n) (defaults n ++ offering r.type n))
      (addsDefaults_defaults_append n _) (observedRules_bare _)
    rw [hq.eq_filledFrom (observedRules_bare _), hq'.eq_filledFrom (observedRules_bare _)] at hdurations
    have htake := limiting_fillRules_eq_iff.mp hdurations (r, i) (List.mem_zipIdx_iff_getElem?.mpr hi)
      (Bool.not_eq_eq_eq_not.mp hlimiting)
    have hoffered : offeredAt p.retentionRules (offering r.type n) (r, i) = some 1 := by
      rw [offeredAt_offering, if_pos ⟨by omega, rfl⟩]
    have hnothing : offeredAt p.retentionRules (defaults n ++ offering r.type n) (r, i) = none := by
      unfold offeredAt
      rw [sortRules_of_ordered (ordered_defaults_offering hlate _ _), offer_behind_defaults _ (by omega)]
    rw [hoffered, hnothing, RetentionRule.take_none] at htake
    exact key_take_one_ne hopen (congrArg RetentionRule.key htake.symm)
  · intro hearly entries entries' items items' observed hdiffer hadds hread
    obtain ⟨observed', hread', hlimiting⟩ :=
      hadds.readRules ((observedRules_of_listed hdiffer.listed).symm.trans hread)
    have hread' := (observedRules_of_listed hdiffer.listed').trans hread'
    have hfilled := limiting_fillRules_of_early hearly hlimiting
    obtain ⟨verdict, hobserved, hobserved'⟩ := hdiffer.exists_observed hread hread' p p rfl
      (limits_of_perm (.of_eq hlimiting)) (limits_of_perm (.of_eq hfilled))
    exact ⟨_, _, verdict, _, _, hobserved, hobserved', hfilled⟩

/-- A rule takes a duration from a bucket, but not from one that also has a rule that keeps data for ever. The
first is as wanted then, the second is not. -/
theorem observed_shifted :
    let p := { Parameters.empty with retentionRules := [⟨"expire", 3600, none⟩] }
    let q := { Parameters.empty with retentionRules := [⟨"expire", 3600, some 60⟩] }
    let observed : List RetentionRule := [⟨"expire", 3600, some 60⟩]
    let observed' : List RetentionRule := [⟨"expire", 0, none⟩, ⟨"expire", 3600, some 60⟩]
    DifferInRules (bare observed) (bare observed') (observed.map (·.toValue false))
        (observed'.map (·.toValue false)) ∧
      AddsDefaults (observed.map (·.toValue false)) (observed'.map (·.toValue false)) ∧
      Observed p (bare observed) true true q ∧ Observed p (bare observed') false false p := by
  intro p q observed observed'
  have hordered : Ordered observed := List.pairwise_singleton _ _
  have hordered' : Ordered observed' := List.pairwise_pair.mpr (by decide +kernel)
  refine ⟨differInRules_bare _ _, addsDefaults_defaults_append 1 observed, ?_, ?_⟩
  · exact observed_bare hordered (by decide +kernel) (by decide +kernel) (by decide +kernel)
  · exact observed_bare hordered' (by decide +kernel) (by decide +kernel) (by decide +kernel)

end InfluxKeeper.Bucket
