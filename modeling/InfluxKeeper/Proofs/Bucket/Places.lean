import InfluxKeeper.Proofs.Bucket.Order

/-!
# The places of retention rules

Wanted rules are filled from observed rules that come at the same place in order. The place of a rule is the
number of rules ahead of it (`placeOf`): those with a lower key, and those that say the same and are listed
first. So the place of a rule can be told without a look at how the others are put in order:

> `getElem?_inOrder`: a listed rule is found at its place in order.

That rules are put in order stably enters here, and only here (`pairwise_inOrder`).
-/

namespace InfluxKeeper.Bucket

/-! ## Places in lists that are in order -/

section Lists

variable {α β : Type}

/-- In a list in strict order, the place of an entry is the number of entries ahead of it. -/
theorem countP_of_pairwise {r : α → α → Bool} (asymm : ∀ a b, r a b = true → r b a = false)
    {l : List α} (h : l.Pairwise fun a b => r a b = true) {n : Nat} {e : α} (he : l[n]? = some e) :
    l.countP (fun a => r a e) = n := by
  have irrefl (a : α) : r a a = false := by
    cases ha : r a a with
    | false => rfl
    | true => rw [← ha, asymm a a ha]
  induction l generalizing n with
  | nil => cases he
  | cons x l ih =>
    obtain ⟨hx, hl⟩ := List.pairwise_cons.mp h
    cases n with
    | zero =>
      cases he
      rw [List.countP_cons_of_neg (p := fun a => r a e) (Bool.eq_false_iff.mp (irrefl e)),
        List.countP_eq_zero]
      intro a ha
      rw [asymm e a (hx a ha)]
      exact Bool.false_ne_true
    | succ n =>
      rw [List.getElem?_cons_succ] at he
      rw [List.countP_cons_of_pos (p := fun a => r a e) (hx e (List.mem_of_getElem? he)), ih hl he]

/-- Fewer entries satisfy a stronger condition that fails at one of them. -/
theorem countP_lt_of_imp {p q : α → Bool} {l : List α} (h : ∀ a ∈ l, p a = true → q a = true) {a : α}
    (ha : a ∈ l) (hp : p a = false) (hq : q a = true) : l.countP p < l.countP q := by
  obtain ⟨s, t, rfl⟩ := List.append_of_mem ha
  have hs : s.countP p ≤ s.countP q :=
    List.countP_mono_left fun b hb => h b (List.mem_append_left _ hb)
  have ht : t.countP p ≤ t.countP q :=
    List.countP_mono_left fun b hb => h b (List.mem_append_right _ (List.mem_cons_of_mem a hb))
  rw [List.countP_append, List.countP_append, List.countP_cons_of_neg (Bool.eq_false_iff.mp hp),
    List.countP_cons_of_pos hq]
  omega

/-- A key that comes once is looked up where it stands. -/
theorem lookup_zip_of_getElem? [BEq α] [LawfulBEq α] {keys : List α} (distinct : keys.Nodup) {n : Nat}
    {k : α} (h : keys[n]? = some k) (values : List β) : (keys.zip values).lookup k = values[n]? := by
  induction keys generalizing n values with
  | nil => cases h
  | cons l keys ih =>
    obtain ⟨hl, hkeys⟩ := List.nodup_cons.mp distinct
    cases values with
    | nil => rfl
    | cons v values =>
      cases n with
      | zero =>
        cases h
        rw [List.zip_cons_cons, List.lookup_cons_self]
        rfl
      | succ n =>
        rw [List.getElem?_cons_succ] at h
        have hne : (k == l) = false := beq_false_of_ne fun heq => hl (heq ▸ List.mem_of_getElem? h)
        rw [List.zip_cons_cons, List.lookup_cons, hne, ih hkeys h, List.getElem?_cons_succ]

end Lists

/-! ## Places in order -/

/-- Whether a listed rule is ahead of another: its key is lower, or it says the same and is listed first. -/
def ahead (f e : RetentionRule × Nat) : Bool :=
  f.1.before e.1 && (!e.1.before f.1 || decide (f.2 < e.2))

theorem ahead_iff {f e : RetentionRule × Nat} :
    ahead f e = true ↔ keyBefore f.1.key e.1.key ∧ (f.1.key = e.1.key → f.2 < e.2) := by
  unfold ahead
  rw [Bool.and_eq_true, RetentionRule.before_iff, Bool.or_eq_true, decide_eq_true_iff,
    Bool.not_eq_true', Bool.eq_false_iff, ne_eq, RetentionRule.before_iff]
  constructor
  · intro ⟨hbefore, hfirst⟩
    refine ⟨hbefore, fun heq => hfirst.resolve_left fun hnot => hnot ?_⟩
    rw [heq]
    exact keyBefore_refl e.1.key
  · intro ⟨hbefore, hfirst⟩
    by_cases hback : keyBefore e.1.key f.1.key
    · exact ⟨hbefore, Or.inr (hfirst (keyBefore_antisymm hbefore hback))⟩
    · exact ⟨hbefore, Or.inl hback⟩

theorem ahead_asymm (f e : RetentionRule × Nat) (h : ahead f e = true) : ahead e f = false := by
  obtain ⟨hbefore, hfirst⟩ := ahead_iff.mp h
  rw [Bool.eq_false_iff]
  intro hback
  obtain ⟨hbefore', hfirst'⟩ := ahead_iff.mp hback
  have heq := keyBefore_antisymm hbefore hbefore'
  have := hfirst heq
  have := hfirst' heq.symm
  omega

theorem ahead_trans {f g e : RetentionRule × Nat} (hfg : ahead f g = true) (hge : ahead g e = true) :
    ahead f e = true := by
  obtain ⟨hfg, hfirst⟩ := ahead_iff.mp hfg
  obtain ⟨hge, hfirst'⟩ := ahead_iff.mp hge
  refine ahead_iff.mpr ⟨keyBefore_trans hfg hge, fun hkey => ?_⟩
  -- rules that say the same have no other key between them
  have hkey' : f.1.key = g.1.key := keyBefore_antisymm hfg (hkey ▸ hge)
  exact Nat.lt_trans (hfirst hkey') (hfirst' (hkey'.symm.trans hkey))

/-- The place in order of a listed rule. -/
def placeOf (rules : List RetentionRule) (e : RetentionRule × Nat) : Nat :=
  rules.zipIdx.countP fun f => ahead f e

/-- A rule that is ahead of another has a lower place. -/
theorem placeOf_lt_placeOf {rules : List RetentionRule} {f e : RetentionRule × Nat} (hf : f ∈ rules.zipIdx)
    (h : ahead f e = true) : placeOf rules f < placeOf rules e := by
  have hself : ahead f f = false := by
    cases hff : ahead f f with
    | false => rfl
    | true => rw [← hff, ahead_asymm f f hff]
  exact countP_lt_of_imp (fun g _ hg => ahead_trans hg h) hf hself h

/-- Listed rules, put in order. -/
def inOrder (rules : List RetentionRule) : List (RetentionRule × Nat) :=
  rules.zipIdx.mergeSort fun a b => a.1.before b.1

theorem inOrder_perm (rules : List RetentionRule) : (inOrder rules).Perm rules.zipIdx :=
  List.mergeSort_perm _ _

theorem map_fst_inOrder (rules : List RetentionRule) : (inOrder rules).map (·.1) = sortRules rules := by
  unfold inOrder
  rw [List.map_mergeSort (s := RetentionRule.before) (fun _ _ _ _ => rfl), List.zipIdx_map_fst]
  rfl

theorem nodup_placesInOrder (rules : List RetentionRule) : (placesInOrder rules).Nodup := by
  refine ((inOrder_perm rules).map (·.2)).nodup_iff.mpr ?_
  rw [List.zipIdx_map_snd]
  exact List.nodup_range'

/-- Listed rules that are numbered once more have the number that they have. -/
theorem place_of_mem_zipIdx {rules : List RetentionRule} {g : (RetentionRule × Nat) × Nat}
    (hg : g ∈ rules.zipIdx.zipIdx) : g.1.2 = g.2 := by
  have hg' := List.mem_zipIdx_iff_getElem?.mp hg
  rw [List.getElem?_zipIdx, Option.map_eq_some_iff] at hg'
  obtain ⟨r, -, hr⟩ := hg'
  rw [← hr, Nat.zero_add]

/-- Put in order, each listed rule is ahead of all that come after it. -/
theorem pairwise_inOrder (rules : List RetentionRule) :
    (inOrder rules).Pairwise fun f e => ahead f e = true := by
  -- the order among rules that say the same is seen once the listed rules are numbered
  have hnumbered : (rules.zipIdx.zipIdx.mergeSort (List.zipIdxLE fun a b => a.1.before b.1)).Pairwise
      fun f e => List.zipIdxLE (fun a b => a.1.before b.1) f e = true :=
    List.pairwise_mergeSort (List.zipIdxLE_trans fun a b c => RetentionRule.before_trans a.1 b.1 c.1)
      (List.zipIdxLE_total fun a b => RetentionRule.before_total a.1 b.1) rules.zipIdx.zipIdx
  have hnodup : (inOrder rules).Pairwise fun f e => f.2 ≠ e.2 :=
    List.pairwise_map.mp (nodup_placesInOrder rules)
  unfold inOrder at hnodup ⊢
  rw [← List.mergeSort_zipIdx, List.pairwise_map] at hnodup ⊢
  refine (hnumbered.and hnodup).imp_of_mem fun {f e} hf he h => ?_
  have hf := place_of_mem_zipIdx (List.mem_mergeSort.mp hf)
  have he := place_of_mem_zipIdx (List.mem_mergeSort.mp he)
  obtain ⟨hle, hne⟩ := h
  unfold List.zipIdxLE at hle
  split at hle
  next hfe =>
    refine ahead_iff.mpr ⟨RetentionRule.before_iff.mp hfe, fun hkey => ?_⟩
    rw [if_pos (RetentionRule.before_of_key_eq hkey.symm), decide_eq_true_iff] at hle
    omega
  next => cases hle

/-- The listed rule at a place in order has that place. -/
theorem placeOf_of_getElem? {rules : List RetentionRule} {e : RetentionRule × Nat} {n : Nat}
    (h : (inOrder rules)[n]? = some e) : placeOf rules e = n :=
  ((inOrder_perm rules).countP_eq _).symm.trans
    (countP_of_pairwise ahead_asymm (pairwise_inOrder rules) h)

/-- A listed rule is found at its place in order. -/
theorem getElem?_inOrder {rules : List RetentionRule} {e : RetentionRule × Nat} (he : e ∈ rules.zipIdx) :
    (inOrder rules)[placeOf rules e]? = some e := by
  obtain ⟨n, hn⟩ := List.getElem?_of_mem ((inOrder_perm rules).mem_iff.mpr he)
  rw [placeOf_of_getElem? hn, hn]

end InfluxKeeper.Bucket
