import InfluxKeeper.Bucket.Retention

/-!
# The order of retention rules

Rules are put in order by their keys, and the order of keys is total (`keyBefore_total`) and antisymmetric
(`keyBefore_antisymm`). Rules without a duration have the key of a duration of zero, so two rules can say the
same without being equal; such rules keep the order in which they are listed.

> `ofKey_sortRules`: the rules of one key are listed in order as they were listed before.
> `eq_of_ofKey`: rules in order are known once the rules of each key are known.

The two together give what later modules use: lists have the same order exactly if their rules of each key
agree (`sortRules_eq_iff`), rules can be dropped before or after the list is put in order
(`filter_sortRules`), and a rule that may stand before all others comes first (`sortRules_cons`). Up to what
they say, the rules in order are the rules as a multiset (`map_key_sortRules_eq_iff`).
-/

namespace InfluxKeeper.Bucket

/-- What rules are compared by. -/
abbrev Key := String × Int × Int

/-- Whether a key may stand before another: by type, then by seconds, then by duration. -/
def keyBefore (k l : Key) : Prop :=
  k.1 < l.1 ∨ k.1 = l.1 ∧ (k.2.1 < l.2.1 ∨ k.2.1 = l.2.1 ∧ k.2.2 ≤ l.2.2)

/-! ## The order of keys -/

section Keys

variable {k l m : Key}

theorem keyBefore_refl (k : Key) : keyBefore k k :=
  Or.inr ⟨rfl, Or.inr ⟨rfl, Int.le_refl _⟩⟩

theorem keyBefore_trans (hkl : keyBefore k l) (hlm : keyBefore l m) : keyBefore k m := by
  unfold keyBefore at *
  rcases hkl with hkl | ⟨hkl, hkl'⟩
  · rcases hlm with hlm | ⟨hlm, -⟩
    · exact Or.inl (String.lt_trans hkl hlm)
    · exact Or.inl (hlm ▸ hkl)
  · rcases hlm with hlm | ⟨hlm, hlm'⟩
    · exact Or.inl (hkl ▸ hlm)
    · exact Or.inr ⟨hkl.trans hlm, by omega⟩

theorem keyBefore_total (k l : Key) : keyBefore k l ∨ keyBefore l k := by
  unfold keyBefore
  by_cases hkl : k.1 < l.1
  · exact Or.inl (Or.inl hkl)
  by_cases hlk : l.1 < k.1
  · exact Or.inr (Or.inl hlk)
  have htype : k.1 = l.1 := String.le_antisymm (String.not_lt.mp hlk) (String.not_lt.mp hkl)
  rcases Int.lt_trichotomy k.2.1 l.2.1 with h | h | h
  · exact Or.inl (Or.inr ⟨htype, Or.inl h⟩)
  · rcases Int.le_total k.2.2 l.2.2 with h' | h'
    · exact Or.inl (Or.inr ⟨htype, Or.inr ⟨h, h'⟩⟩)
    · exact Or.inr (Or.inr ⟨htype.symm, Or.inr ⟨h.symm, h'⟩⟩)
  · exact Or.inr (Or.inr ⟨htype.symm, Or.inl h⟩)

theorem keyBefore_antisymm (hkl : keyBefore k l) (hlk : keyBefore l k) : k = l := by
  obtain ⟨t, n, d⟩ := k
  obtain ⟨t', n', d'⟩ := l
  unfold keyBefore at hkl hlk
  dsimp only at hkl hlk
  rcases hkl with hkl | ⟨htype, hkl⟩
  · rcases hlk with hlk | ⟨htype, -⟩
    · exact absurd hlk (String.lt_asymm hkl)
    · exact absurd (htype ▸ hkl) (String.lt_irrefl t)
  · rcases hlk with hlk | ⟨-, hlk⟩
    · exact absurd (htype ▸ hlk) (String.lt_irrefl t)
    · have hn : n = n' := by omega
      have hd : d = d' := by omega
      rw [htype, hn, hd]

end Keys

namespace RetentionRule

variable {a b c : RetentionRule}

theorem key_eq_iff :
    a.key = b.key ↔
      a.type = b.type ∧ a.everySeconds = b.everySeconds ∧ a.shardSeconds = b.shardSeconds := by
  simp only [key, Prod.mk.injEq]

theorem before_iff : a.before b = true ↔ keyBefore a.key b.key := by
  unfold before keyBefore key
  dsimp only
  by_cases htype : a.type = b.type
  · by_cases hevery : a.everySeconds = b.everySeconds
    · simp [htype, hevery]
    · simp [htype, hevery]
  · simp [htype]

theorem before_trans (a b c : RetentionRule) (hab : a.before b = true) (hbc : b.before c = true) :
    a.before c = true :=
  before_iff.mpr (keyBefore_trans (before_iff.mp hab) (before_iff.mp hbc))

theorem before_total (a b : RetentionRule) : (a.before b || b.before a) = true := by
  rw [Bool.or_eq_true, before_iff, before_iff]
  exact keyBefore_total a.key b.key

/-- Rules that may stand in either order say the same. -/
theorem key_eq_of_before (hab : a.before b = true) (hba : b.before a = true) : a.key = b.key :=
  keyBefore_antisymm (before_iff.mp hab) (before_iff.mp hba)

theorem before_of_key_eq (h : a.key = b.key) : a.before b = true :=
  before_iff.mpr (h ▸ keyBefore_refl a.key)

end RetentionRule

/-! ## Rules in order -/

/-- Rules of which each may stand before all that come after it. -/
def Ordered (rules : List RetentionRule) : Prop := rules.Pairwise fun a b => a.before b = true

/-- The rules of one key, as they are listed. -/
def ofKey (k : Key) (rules : List RetentionRule) : List RetentionRule := rules.filter fun r => r.key == k

theorem ordered_sortRules (rules : List RetentionRule) : Ordered (sortRules rules) :=
  List.pairwise_mergeSort RetentionRule.before_trans RetentionRule.before_total rules

/-- Rules in order stay as they are. -/
theorem sortRules_of_ordered {rules : List RetentionRule} (h : Ordered rules) : sortRules rules = rules :=
  List.mergeSort_of_pairwise h

theorem mem_ofKey {k : Key} {rules : List RetentionRule} {r : RetentionRule} :
    r ∈ ofKey k rules ↔ r ∈ rules ∧ r.key = k := by
  unfold ofKey
  rw [List.mem_filter, beq_iff_eq]

theorem ofKey_cons_self (r : RetentionRule) (rules : List RetentionRule) :
    ofKey r.key (r :: rules) = r :: ofKey r.key rules := by
  simp [ofKey]

theorem ofKey_cons_of_ne {k : Key} {r : RetentionRule} (h : r.key ≠ k) (rules : List RetentionRule) :
    ofKey k (r :: rules) = ofKey k rules := by
  simp [ofKey, h]

theorem ofKey_filter (k : Key) (q : RetentionRule → Bool) (rules : List RetentionRule) :
    ofKey k (rules.filter q) = (ofKey k rules).filter q := by
  unfold ofKey
  rw [List.filter_filter, List.filter_filter]
  exact List.filter_congr fun r _ => Bool.and_comm _ _

/-- Rules of one key keep the order in which they are listed. -/
theorem ofKey_sortRules (k : Key) (rules : List RetentionRule) :
    ofKey k (sortRules rules) = ofKey k rules := by
  have hordered : Ordered (ofKey k rules) := by
    refine List.pairwise_of_forall_mem_list fun a ha b hb => ?_
    exact RetentionRule.before_of_key_eq ((mem_ofKey.mp ha).2.trans (mem_ofKey.mp hb).2.symm)
  have hsub : (ofKey k rules).Sublist (sortRules rules) :=
    List.sublist_mergeSort RetentionRule.before_trans RetentionRule.before_total hordered
      List.filter_sublist
  have hsub' : (ofKey k rules).Sublist (ofKey k (sortRules rules)) := by
    have h := hsub.filter fun r => r.key == k
    unfold ofKey at h ⊢
    rwa [List.filter_filter, List.filter_congr fun r _ => Bool.and_self _] at h
  have hlength : (ofKey k rules).length = (ofKey k (sortRules rules)).length :=
    ((sortRules_perm rules).filter _).length_eq.symm
  exact (hsub'.eq_of_length hlength).symm

/-- The first rule of a list in order has a key that stands before all others, so lists in order that have the
same rules of each key begin alike. -/
theorem eq_of_ofKey {a b : List RetentionRule} (ha : Ordered a) (hb : Ordered b)
    (h : ∀ k, ofKey k a = ofKey k b) : a = b := by
  induction a generalizing b with
  | nil =>
    cases b with
    | nil => rfl
    | cons s b =>
      have hs := h s.key
      rw [ofKey_cons_self] at hs
      cases hs
  | cons r a ih =>
    cases b with
    | nil =>
      have hr := h r.key
      rw [ofKey_cons_self] at hr
      cases hr
    | cons s b =>
      have hr : r ∈ s :: b := (mem_ofKey.mp (h r.key ▸ ofKey_cons_self r a ▸ List.mem_cons_self)).1
      have hs : s ∈ r :: a := (mem_ofKey.mp (h s.key ▸ ofKey_cons_self s b ▸ List.mem_cons_self)).1
      have hkey : r.key = s.key := by
        rcases List.mem_cons.mp hr with rfl | hr
        · rfl
        rcases List.mem_cons.mp hs with rfl | hs
        · rfl
        · exact RetentionRule.key_eq_of_before (List.rel_of_pairwise_cons ha hs)
            (List.rel_of_pairwise_cons hb hr)
      have hcons := h r.key
      rw [ofKey_cons_self, hkey, ofKey_cons_self] at hcons
      obtain ⟨rfl, htail⟩ := List.cons.inj hcons
      have hrest : a = b := by
        refine ih ha.of_cons hb.of_cons fun k => ?_
        by_cases hk : r.key = k
        · rw [← hk]
          exact htail
        · have := h k
          rwa [ofKey_cons_of_ne hk, ofKey_cons_of_ne hk] at this
      rw [hrest]

/-- Lists have the same order exactly if the rules of each key are listed alike. -/
theorem sortRules_eq_iff {a b : List RetentionRule} :
    sortRules a = sortRules b ↔ ∀ k, ofKey k a = ofKey k b := by
  constructor
  · intro h k
    rw [← ofKey_sortRules k a, h, ofKey_sortRules]
  · intro h
    refine eq_of_ofKey (ordered_sortRules a) (ordered_sortRules b) fun k => ?_
    rw [ofKey_sortRules, ofKey_sortRules, h]

/-- Rules can be dropped before or after a list is put in order. -/
theorem filter_sortRules (q : RetentionRule → Bool) (rules : List RetentionRule) :
    (sortRules rules).filter q = sortRules (rules.filter q) := by
  refine eq_of_ofKey ((ordered_sortRules rules).filter q) (ordered_sortRules _) fun k => ?_
  rw [ofKey_filter, ofKey_sortRules, ofKey_sortRules, ofKey_filter]

/-- A rule that may stand before all others comes first. -/
theorem sortRules_cons {r : RetentionRule} {rules : List RetentionRule}
    (h : ∀ s ∈ rules, r.before s = true) : sortRules (r :: rules) = r :: sortRules rules := by
  have hordered : Ordered (r :: sortRules rules) :=
    List.pairwise_cons.mpr
      ⟨fun s hs => h s ((sortRules_perm rules).mem_iff.mp hs), ordered_sortRules rules⟩
  refine eq_of_ofKey (ordered_sortRules _) hordered fun k => ?_
  rw [ofKey_sortRules]
  by_cases hk : r.key = k
  · rw [← hk, ofKey_cons_self, ofKey_cons_self, ofKey_sortRules]
  · rw [ofKey_cons_of_ne hk, ofKey_cons_of_ne hk, ofKey_sortRules]

/-- Rules in order begin with the lower ones, wherever the line is drawn. -/
theorem filter_append_filter_of_ordered {q : RetentionRule → Bool}
    (lower : ∀ a b, a.before b = true → q b = true → q a = true) {rules : List RetentionRule}
    (h : Ordered rules) : rules.filter q ++ rules.filter (fun r => !q r) = rules := by
  induction rules with
  | nil => rfl
  | cons a rest ih =>
    obtain ⟨ha, hrest⟩ := List.pairwise_cons.mp h
    cases hq : q a with
    | true => simp [hq, ih hrest]
    | false =>
      have hnone (b : RetentionRule) (hb : b ∈ rest) : q b = false := by
        cases hqb : q b with
        | false => rfl
        | true => rw [← hq, lower a b (ha b hb) hqb]
      rw [List.filter_cons_of_neg (Bool.eq_false_iff.mp hq), List.filter_cons_of_pos (by rw [hq]; rfl),
        List.filter_eq_nil_iff.mpr fun b hb => Bool.eq_false_iff.mp (hnone b hb),
        List.filter_eq_self.mpr fun b hb => by rw [hnone b hb]; rfl]
      rfl

/-- Two lists have the same keys in order exactly if they have the same keys. -/
theorem map_key_sortRules_eq_iff {a b : List RetentionRule} :
    (sortRules a).map RetentionRule.key = (sortRules b).map RetentionRule.key ↔
      (a.map RetentionRule.key).Perm (b.map RetentionRule.key) := by
  have hperm (rules : List RetentionRule) :
      ((sortRules rules).map RetentionRule.key).Perm (rules.map RetentionRule.key) :=
    (sortRules_perm rules).map _
  have hordered (rules : List RetentionRule) :
      ((sortRules rules).map RetentionRule.key).Pairwise keyBefore :=
    List.pairwise_map.mpr ((ordered_sortRules rules).imp RetentionRule.before_iff.mp)
  constructor
  · intro h
    exact (hperm a).symm.trans (h ▸ hperm b)
  · intro h
    exact List.Perm.eq_of_pairwise (fun k l _ _ => keyBefore_antisymm) (hordered a) (hordered b)
      ((hperm a).trans (h.trans (hperm b).symm))

end InfluxKeeper.Bucket
