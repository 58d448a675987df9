import InfluxKeeper.Proofs.Bucket.Observing
import InfluxKeeper.Proofs.Bucket.Open
import Mathlib.Data.List.Nodup

/-!
# A bucket that was just created

A server gives back what a bucket was created with, in whatever order, and sets what the body left open. No
wanted rule stands in another's way as long as two of them differ in their type or their seconds:

> `observed_created`: parameters that are filled from a bucket created from them have its durations, and the
> bucket is as wanted.

Durations come last in the order of rules, so rules that differ in their type or their seconds keep their order
when the server sets durations (`sortRules_created`), and each wanted rule meets what became of itself.

A description that the body left open is filled like the rest, and then it is compared with itself. Every value
but NaN is the same as itself (`Value.Keyed.same_self_iff`).
-/

namespace InfluxKeeper

/-! ## Values beside themselves -/

/-- A value whose maps have no key twice. -/
inductive Value.Keyed : Value → Prop
  | scalar (s : Scalar) : Keyed (.scalar s)
  | list {items : List Value} (keyed : ∀ v ∈ items, Keyed v) : Keyed (.list items)
  | tuple {items : List Value} (keyed : ∀ v ∈ items, Keyed v) : Keyed (.tuple items)
  | set (items : List Scalar) : Keyed (.set items)
  | map {entries : Entries} (distinct : entries.Pairwise fun e f => e.1.isOne f.1 = false)
      (keyed : ∀ e ∈ entries, Keyed e.2) : Keyed (.map entries)

theorem Value.areOne_self {items : List Value} (h : ∀ v ∈ items, v.isOne v = true) :
    Value.areOne items items = true := by
  induction items with
  | nil => rw [areOne]
  | cons v items ih =>
    obtain ⟨hv, hitems⟩ := List.forall_mem_cons.mp h
    rw [areOne, hv, ih hitems, Bool.and_self]

/-- An entry is found under its key, if no other entry has the key. -/
theorem Entries.find?_of_mem {entries : Entries}
    (distinct : entries.Pairwise fun e f => e.1.isOne f.1 = false) {e : Scalar × Value}
    (he : e ∈ entries) : entries.find? e.1 = some e.2 := by
  unfold Entries.find?
  induction entries with
  | nil => cases he
  | cons f rest ih =>
    obtain ⟨hf, hrest⟩ := List.pairwise_cons.mp distinct
    rcases List.mem_cons.mp he with rfl | he
    · rw [List.find?_cons_of_pos (p := fun f : Scalar × Value => f.1.isOne e.1) (Scalar.isOne_self e.1)]
      rfl
    · rw [List.find?_cons_of_neg (by rw [hf e he]; exact Bool.false_ne_true)]
      exact ih hrest he

theorem Value.entriesIn_self {entries : Entries}
    (distinct : entries.Pairwise fun e f => e.1.isOne f.1 = false)
    (h : ∀ e ∈ entries, e.2.isOne e.2 = true) : Value.entriesIn entries entries = true := by
  -- the entries looked for grow shorter, those among which they are looked for do not
  suffices hsome : ∀ some : Entries, some ⊆ entries → Value.entriesIn some entries = true from
    hsome entries (List.Subset.refl entries)
  intro some hsome
  induction some with
  | nil => rw [entriesIn]
  | cons e rest ih =>
    obtain ⟨he, hrest⟩ := List.cons_subset.mp hsome
    rw [entriesIn, Entries.find?_of_mem distinct he]
    dsimp only
    rw [h e he, ih hrest, Bool.and_self]

/-- As a part of a collection, a value is one with itself. -/
theorem Value.Keyed.isOne_self {v : Value} (h : v.Keyed) : v.isOne v = true := by
  induction h with
  | scalar s => rw [isOne, Scalar.isOne_self]
  | list _ ih => rw [isOne, areOne_self ih]
  | tuple _ ih => rw [isOne, areOne_self ih]
  | set items =>
    rw [isOne, beq_self_eq_true, Bool.true_and, List.all_eq_true]
    intro x hx
    exact List.any_eq_true.mpr ⟨x, hx, Scalar.isOne_self x⟩
  | map distinct _ ih => rw [isOne, beq_self_eq_true, Bool.true_and, entriesIn_self distinct ih]

theorem Scalar.same_self_iff (s : Scalar) : s.same s = true ↔ s ≠ .float .nan := by
  cases s with
  | float x =>
    rw [ne_eq, Scalar.float.injEq]
    exact Binary64.sameNumber_self_iff x
  | _ => simp [same, number?]

/-- **Only NaN is not the same as itself.** -/
theorem Value.Keyed.same_self_iff {v : Value} (h : v.Keyed) : v.same v = true ↔ v ≠ .float .nan := by
  cases v with
  | scalar s =>
    rw [ne_eq, Value.scalar.injEq]
    exact Scalar.same_self_iff s
  | list items => exact iff_of_true h.isOne_self nofun
  | map entries => exact iff_of_true h.isOne_self nofun
  | tuple items => exact iff_of_true h.isOne_self nofun
  | set items => exact iff_of_true h.isOne_self nofun

/-- A description beside itself is as wanted, unless it is NaN. -/
theorem Value.Keyed.same_orElse_iff {v : Value} (h : v.Keyed) :
    (v.orElse (.text "")).same (v.orElse (.text "")) = true ↔ v ≠ .float .nan := by
  unfold orElse
  split
  next => exact h.same_self_iff
  next htruthy =>
    refine iff_of_true (by decide) ?_
    rintro rfl
    exact htruthy rfl

/-- A value that is open, or is the observed one, is the observed one once it is filled. -/
theorem value_fill_of_eq {desired observed : Value} (h : desired.isNull = false → observed = desired) :
    (fill desired observed).value = observed := by
  cases hnull : desired.isNull with
  | false =>
    rw [fill_of_not_isNull hnull]
    exact (h hnull).symm
  | true =>
    rcases value_fill_cases desired observed with hstays | ⟨-, htaken⟩
    · have hopen : (fill desired observed).value.isNull = true := hstays.symm ▸ hnull
      rw [hstays, Value.eq_null_of_isNull hnull, Value.eq_null_of_isNull (isNull_of_fill hopen)]
    · exact htaken

namespace Bucket

/-! ## Durations that the server sets -/

section Durations

variable {desired observed : List RetentionRule} {given : RetentionRule → Option Int}

/-- The limit of a rule: its type and its seconds. -/
def RetentionRule.limit (r : RetentionRule) : String × Int := (r.type, r.everySeconds)

variable (distinct : (desired.map RetentionRule.limit).Nodup)

include distinct

/-- Rules with distinct limits are in the same order before and after the server sets durations. -/
theorem sortRules_created (h : observed.Perm (desired.map fun r => r.take (given r))) :
    sortRules observed = (sortRules desired).map fun r => r.take (given r) := by
  have hperm : (sortRules observed).Perm ((sortRules desired).map fun r => r.take (given r)) :=
    (sortRules_perm observed).trans (h.trans ((sortRules_perm desired).map _).symm)
  have hdistinct : ((sortRules desired).map RetentionRule.limit).Nodup :=
    ((sortRules_perm desired).map RetentionRule.limit).nodup_iff.mpr distinct
  have hordered : Ordered ((sortRules desired).map fun r => r.take (given r)) := by
    refine List.pairwise_map.mpr
      (((List.pairwise_map.mp hdistinct).and (ordered_sortRules desired)).imp fun {r s} hrs => ?_)
    obtain ⟨hne, hbefore⟩ := hrs
    have hother : r.type = s.type → r.everySeconds ≠ s.everySeconds := fun htype hevery =>
      hne (Prod.ext htype hevery)
    have hother' : s.type = r.type → s.everySeconds ≠ (r.take (given r)).everySeconds :=
      fun htype hevery => hother htype.symm hevery.symm
    rw [before_take_of_ne' (s := r.take (given r)) hother', before_take_of_ne hother]
    exact hbefore
  refine List.Perm.eq_of_pairwise (fun a b ha hb hab hba => ?_) (ordered_sortRules observed) hordered hperm
  -- rules that say the same have one limit, and come from one wanted rule
  obtain ⟨r, hr, rfl⟩ := List.mem_map.mp (hperm.mem_iff.mp ha)
  obtain ⟨s, hs, rfl⟩ := List.mem_map.mp hb
  obtain ⟨htype, hevery, -⟩ := RetentionRule.key_eq_iff.mp (RetentionRule.key_eq_of_before hab hba)
  rw [List.inj_on_of_nodup_map hdistinct hr hs (Prod.ext htype hevery)]

/-- Each wanted rule meets what became of itself, and takes the duration that the server set. -/
theorem take_offeredAt_created (h : observed.Perm (desired.map fun r => r.take (given r)))
    {e : RetentionRule × Nat} (he : e ∈ desired.zipIdx) :
    e.1.take (offeredAt desired observed e) = e.1.take (given e.1) := by
  have hpartner : (sortRules observed)[placeOf desired e]? = some (e.1.take (given e.1)) := by
    rw [sortRules_created distinct h, ← map_fst_inOrder, List.getElem?_map, List.getElem?_map,
      getElem?_inOrder he]
    rfl
  have hoffered : offeredAt desired observed e = e.1.shardGroupDurationSeconds.or (given e.1) := by
    unfold offeredAt
    rw [hpartner]
    exact if_pos rfl
  unfold RetentionRule.take
  rw [hoffered, ← Option.or_assoc, Option.or_self]

/-- Wanted rules that are filled from the rules of a bucket created with them have its durations. -/
theorem value_fillRules_created (h : observed.Perm (desired.map fun r => r.take (given r))) :
    (fillRules desired observed).value = desired.map fun r => r.take (given r) := by
  rw [value_fillRules, List.map_congr_left fun e he => take_offeredAt_created distinct h he]
  calc desired.zipIdx.map (fun e => e.1.take (given e.1))
      = (desired.zipIdx.map Prod.fst).map fun r => r.take (given r) := by rw [List.map_map]; rfl
    _ = desired.map fun r => r.take (given r) := by rw [List.zipIdx_map_fst]

end Durations

/-! ## A bucket after its creation -/

/-- The rules that are read in the body of a bucket are the wanted ones. -/
theorem observedRules_body (name : Value) (p : Parameters) :
    observedRules (.object (body name p)) = .ok p.retentionRules := by
  refine observedRules_toValue ?_
  simp [Entries.get?, Entries.find?, body]

/-- The body of a bucket has the wanted description, if one is wanted. -/
theorem mem_body_description {name v : Value} {p : Parameters} :
    ("description", v) ∈ body name p ↔ p.description.isNull = false ∧ v = p.description := by
  have hbody : ("description", v) ∈ body name p ↔ v = p.description ∧ v.isNull = false := by
    have htype : ("description", v) ∉
        if p.schemaType.truthy = true then [("schemaType", p.schemaType)] else [] := by
      split <;> simp
    unfold body
    rw [List.mem_append, or_iff_left htype]
    simp
  rw [hbody]
  constructor
  · rintro ⟨rfl, hset⟩
    exact ⟨hset, rfl⟩
  · rintro ⟨hset, rfl⟩
    exact ⟨rfl, hset⟩

/-- What a server has of a bucket that was created with some parameters. Its description is the one of the body,
if the body has one. Its rules are those of the body, in some order and each with a duration if it had none, or
with none still; or, if the body lists no rules, one rule that keeps data for ever. -/
structure Created (name : Value) (p : Parameters) (given : RetentionRule → Option Int) (entries : Entries)
    (observed : List RetentionRule) : Prop where
  keyed : (entries.get "description").Keyed
  described : ∀ v, ("description", v) ∈ body name p → entries.get "description" = v
  read : observedRules (.map entries) = .ok observed
  listed : ∀ sent, observedRules (.object (body name p)) = .ok sent →
    observed.Perm (sent.map fun r => r.take (given r)) ∨
      sent = [] ∧ ∃ r : RetentionRule, observed = [r] ∧ r.keepsForever = true

namespace Created

variable {name : Value} {p : Parameters} {given : RetentionRule → Option Int} {entries : Entries}
  {observed : List RetentionRule}

/-- Wanted rules have the durations of the bucket once they are filled from it. -/
theorem value_fillRules (distinct : (p.retentionRules.map RetentionRule.limit).Nodup)
    (h : Created name p given entries observed) : (fillRules p.retentionRules observed).value =
      p.retentionRules.map fun r => r.take (given r) := by
  rcases h.listed _ (observedRules_body name p) with hlisted | ⟨hnone, -⟩
  · exact value_fillRules_created distinct hlisted
  · rw [hnone]
    rfl

/-- The bucket limits its data as the filled rules do. -/
theorem limits_eq (distinct : (p.retentionRules.map RetentionRule.limit).Nodup)
    (h : Created name p given entries observed) :
    limits observed = limits (fillRules p.retentionRules observed).value := by
  rw [h.value_fillRules distinct]
  rcases h.listed _ (observedRules_body name p) with hlisted | ⟨hnone, r, rfl, hforever⟩
  · exact limits_of_perm_keys (hlisted.map _)
  · refine limits_of_perm (.of_eq ?_)
    unfold limiting
    rw [hnone, List.filter_cons_of_neg (by rw [hforever]; exact Bool.false_ne_true)]
    rfl

/-- The description of the bucket is the wanted one once it is filled. -/
theorem value_description (h : Created name p given entries observed) :
    (fill p.description (entries.get "description")).value = entries.get "description" :=
  value_fill_of_eq fun hset => h.described _ (mem_body_description.mpr ⟨hset, rfl⟩)

/-- The bucket has each filled rule, and no other rule of its type and its seconds. -/
theorem mem_observed (distinct : (p.retentionRules.map RetentionRule.limit).Nodup)
    (h : Created name p given entries observed) {r : RetentionRule}
    (hr : r ∈ p.retentionRules.map fun r => r.take (given r)) :
    r ∈ observed ∧ ∀ s ∈ observed, s.limit = r.limit → s = r := by
  obtain ⟨a, ha, rfl⟩ := List.mem_map.mp hr
  rcases h.listed _ (observedRules_body name p) with hlisted | ⟨hnone, -⟩
  · refine ⟨hlisted.mem_iff.mpr hr, fun s hs hlimit => ?_⟩
    obtain ⟨b, hb, rfl⟩ := List.mem_map.mp (hlisted.mem_iff.mp hs)
    rw [List.inj_on_of_nodup_map distinct hb ha hlimit]
  · rw [hnone] at ha
    cases ha

end Created

/-- **What a server sets does not make a bucket stale.** Let no two wanted rules have the same type and the same
seconds. Whatever a server reports of a bucket that was created with them, parameters can be filled from it and
compared with it. They take what they left open and nothing else; each rule is then the rule that the server
reports for its type and its seconds, and the bucket is as wanted, unless its description is NaN. -/
theorem observed_created {name : Value} {p : Parameters} {given : RetentionRule → Option Int}
    {entries : Entries} {observed : List RetentionRule}
    (distinct : (p.retentionRules.map RetentionRule.limit).Nodup)
    (h : Created name p given entries observed) :
    ∃ (changed verdict : Bool) (q : Parameters),
      Observed p entries changed verdict q ∧ TakesFrom entries observed p q ∧
        q.retentionRules = p.retentionRules.map (fun r => r.take (given r)) ∧
        (∀ r ∈ q.retentionRules, r ∈ observed ∧ ∀ s ∈ observed, s.limit = r.limit → s = r) ∧
        (verdict = true ↔ entries.get "description" ≠ .float .nan) := by
  have hrules := h.value_fillRules distinct
  refine ⟨_, _, p.filledFrom entries observed, ⟨lateInitialize_eq h.read, upToDate_eq h.read⟩,
    takesFrom_filledFrom p entries observed, hrules, fun r hr => h.mem_observed distinct (hrules ▸ hr), ?_⟩
  unfold Parameters.filledFrom
  dsimp only
  rw [h.value_description, decide_eq_true (h.limits_eq distinct), Bool.true_and]
  exact h.keyed.same_orElse_iff

/-- Three wanted rules, of which the second has a duration. -/
def wanted : Parameters :=
  { Parameters.empty with
    retentionRules := [⟨"expire", 3600, none⟩, ⟨"expire", 60, some 5⟩, ⟨"keep", 60, none⟩] }

/-- A bucket created with them: the rules are listed in another order, one of them got a duration, and so did the
bucket a description. -/
def wantedThere : Entries :=
  [(.text "description", .text "made by the server"),
    (.text "retentionRules", .list [.object [("type", .text "keep"), ("everySeconds", .int 60)],
      .object [("everySeconds", .int 60), ("shardGroupDurationSeconds", .int 5)],
      .object [("everySeconds", .int 3600), ("shardGroupDurationSeconds", .int 0)]])]

theorem observed_created_shuffled :
    let given := fun r : RetentionRule => if r.everySeconds = 3600 then some 0 else none
    let observed : List RetentionRule := [⟨"keep", 60, none⟩, ⟨"expire", 60, some 5⟩, ⟨"expire", 3600, some 0⟩]
    (wanted.retentionRules.map RetentionRule.limit).Nodup ∧
      Created (.text "logs") wanted given wantedThere observed ∧
      ∃ (changed verdict : Bool) (q : Parameters),
        Observed wanted wantedThere changed verdict q ∧ TakesFrom wantedThere observed wanted q ∧
          q.retentionRules = wanted.retentionRules.map (fun r => r.take (given r)) ∧
          (∀ r ∈ q.retentionRules, r ∈ observed ∧ ∀ s ∈ observed, s.limit = r.limit → s = r) ∧
          (verdict = true ↔ wantedThere.get "description" ≠ .float .nan) := by
  intro given observed
  have distinct : (wanted.retentionRules.map RetentionRule.limit).Nodup := by decide +kernel
  have hcreated : Created (.text "logs") wanted given wantedThere observed := by
    refine ⟨.scalar _, fun v hv => ?_, by decide +kernel, fun sent hsent => Or.inl ?_⟩
    · exact absurd (mem_body_description.mp hv).1 (by decide)
    · rw [observedRules_body] at hsent
      cases hsent
      decide +kernel
  exact ⟨distinct, hcreated, observed_created distinct hcreated⟩

/-- A bucket that is created without a description and is reported with NaN is not as wanted. -/
theorem observed_created_not_a_number :
    let p := Parameters.empty
    let entries : Entries := [(.text "description", .float .nan)]
    (p.retentionRules.map RetentionRule.limit).Nodup ∧
      Created (.text "logs") p (fun _ => none) entries [] ∧
      Observed p entries true false { p with description := .float .nan } := by
  intro p entries
  refine ⟨List.nodup_nil, ⟨.scalar _, fun v hv => ?_, by decide +kernel, fun sent hsent => Or.inl ?_⟩,
    by decide +kernel, by decide +kernel⟩
  · exact absurd (mem_body_description.mp hv).1 (by decide)
  · rw [observedRules_body] at hsent
    cases hsent
    exact List.Perm.refl []

end Bucket

end InfluxKeeper
