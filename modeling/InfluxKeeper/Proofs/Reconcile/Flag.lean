import InfluxKeeper.Proofs.Bucket.Open
import InfluxKeeper.Proofs.Reconcile.Outcome

/-!
# What a filling tells

A filling of parameters tells whether it changed them, and a reconcile passes this on in its result. Of both
kinds that can be filled the same is said (`Exact`), and of each it is proved from one fact about a single
filling: it opens nothing, and one that changes something leaves less open. A sequence of fillings can therefore
tell of a change only as often as something was open at its start (`count_flags_le`).

> `lateInitialize_exact`: what fillings tell, how often they can, and what a reconcile passes on.
-/

namespace InfluxKeeper

open Api

/-! ## Fillings in a row -/

section Fillings

variable {α : Type} {fillFrom : α → Value → Except Fault Bool × α} {openFields : α → Nat}
  {Takes : Value → α → α → Prop}

/-- What fillings tell that are made one after the other, each from an object of its own. -/
def flags (fillFrom : α → Value → Except Fault Bool × α) : α → List Value → List (Except Fault Bool)
  | _, [] => []
  | p, v :: rest => (fillFrom p v).1 :: flags fillFrom (fillFrom p v).2 rest

/-- Each filling that tells of a change has closed something, and none opens anything, so what is open at the
start pays for all of them. -/
theorem count_flags_le (never_opens : ∀ p v, openFields (fillFrom p v).2 ≤ openFields p)
    (closes : ∀ p v, (fillFrom p v).1 = .ok true → openFields (fillFrom p v).2 < openFields p) (p : α)
    (objects : List Value) : (flags fillFrom p objects).count (.ok true) ≤ openFields p := by
  induction objects generalizing p with
  | nil => exact Nat.zero_le _
  | cons v rest ih =>
    have hrest := ih (fillFrom p v).2
    unfold flags
    by_cases hchanged : (fillFrom p v).1 = .ok true
    · have hclosed := closes p v hchanged
      rw [hchanged, List.count_cons_self]
      omega
    · have hopen := never_opens p v
      rw [List.count_cons_of_ne hchanged]
      omega

/-- Parameters are filled exactly. A filling that succeeds tells that it changed something if and only if it did;
it takes what it may take; one that tells of a change leaves less open; and a sequence of fillings, among which
some may fail, tells of at most as many changes as there was open before. -/
structure Exact (fillFrom : α → Value → Except Fault Bool × α) (openFields : α → Nat)
    (Takes : Value → α → α → Prop) : Prop where
  changed_iff : ∀ {p q : α} {v : Value} {changed : Bool}, fillFrom p v = (.ok changed, q) →
    (changed = true ↔ q ≠ p)
  takes : ∀ {p q : α} {v : Value} {changed : Bool}, fillFrom p v = (.ok changed, q) → Takes v p q
  closes : ∀ {p q : α} {v : Value}, fillFrom p v = (.ok true, q) → openFields q < openFields p
  settles : ∀ (p : α) (objects : List Value), (flags fillFrom p objects).count (.ok true) ≤ openFields p

/-- Fillings are exact if a single one tells of its changes, takes what it may, and closes what it changes. -/
theorem Exact.of_single
    (changed_iff : ∀ {p q : α} {v : Value} {changed : Bool}, fillFrom p v = (.ok changed, q) →
      (changed = true ↔ q ≠ p))
    (takes : ∀ {p q : α} {v : Value} {changed : Bool}, fillFrom p v = (.ok changed, q) → Takes v p q)
    (never_opens : ∀ p v, openFields (fillFrom p v).2 ≤ openFields p)
    (closes : ∀ {p q : α} {v : Value} {changed : Bool}, fillFrom p v = (.ok changed, q) → q ≠ p →
      openFields q < openFields p) : Exact fillFrom openFields Takes where
  changed_iff := changed_iff
  takes := takes
  closes h := closes h ((changed_iff h).mp rfl)
  settles := count_flags_le never_opens fun p v h => by
    have hfilled : fillFrom p v = (.ok true, (fillFrom p v).2) := Prod.ext h rfl
    exact closes hfilled ((changed_iff hfilled).mp rfl)

end Fillings

/-! ## Buckets and mappings -/

namespace Bucket

/-- Parameters take from a bucket what they leave open. -/
def Takes (v : Value) (p q : Parameters) : Prop :=
  ∃ entries observed, v = .map entries ∧ observedRules v = .ok observed ∧ TakesFrom entries observed p q

theorem exact_lateInitialize : Exact lateInitialize Parameters.openFields Takes := by
  refine .of_single ?_ ?_ openFields_lateInitialize_le ?_
  · intro p q v changed h
    obtain ⟨entries, observed, rfl, hobserved, rfl⟩ := lateInitialize_ok h
    rw [lateInitialize_eq hobserved] at h
    rw [← Except.ok.inj (Prod.mk.inj h).1, decide_eq_true_iff]
  · intro p q v changed h
    obtain ⟨entries, observed, rfl, hobserved, rfl⟩ := lateInitialize_ok h
    exact ⟨entries, observed, rfl, hobserved, takesFrom_filledFrom p entries observed⟩
  · intro p q v changed h hne
    obtain ⟨entries, observed, rfl, hobserved, rfl⟩ := lateInitialize_ok h
    exact openFields_filledFrom_lt hne

end Bucket

namespace Mapping

/-- Whether a mapping is the default one is open, or it is not. -/
def Parameters.openFields (p : Parameters) : Nat := p.isDefault.isNull.toNat

/-- Parameters take from a mapping whether it is the default one, if they leave that open. -/
def Takes (v : Value) (p q : Parameters) : Prop :=
  q = { p with isDefault := q.isDefault } ∧
    (q.isDefault = p.isDefault ∨ p.isDefault = .null ∧ v.getEntry "default" = .ok q.isDefault)

/-- A filling succeeds on a value that has entries, and fills from one of them. -/
theorem lateInitialize_ok {p q : Parameters} {v : Value} {changed : Bool}
    (h : lateInitialize p v = (.ok changed, q)) :
    ∃ observed, v.getEntry "default" = .ok observed ∧ changed = (fill p.isDefault observed).changed ∧
      q = { p with isDefault := (fill p.isDefault observed).value } := by
  unfold lateInitialize at h
  split at h
  next => cases h
  next observed hobserved =>
    cases h
    exact ⟨observed, hobserved, rfl, rfl⟩

/-- Parameters are what they were exactly if this one is. -/
theorem withDefault_ne_iff {p : Parameters} {v : Value} : { p with isDefault := v } ≠ p ↔ v ≠ p.isDefault :=
  not_congr ⟨fun h => congrArg Parameters.isDefault h, fun h => by rw [h]⟩

theorem exact_lateInitialize : Exact lateInitialize Parameters.openFields Takes := by
  refine .of_single ?_ ?_ ?_ ?_
  · intro p q v changed h
    obtain ⟨observed, -, rfl, rfl⟩ := lateInitialize_ok h
    rw [withDefault_ne_iff, ne_eq, ← changed_fill_eq_false_iff, Bool.not_eq_false]
  · intro p q v changed h
    obtain ⟨observed, hobserved, -, rfl⟩ := lateInitialize_ok h
    refine ⟨rfl, (value_fill_cases p.isDefault observed).imp_right fun ⟨hnull, htaken⟩ => ⟨hnull, ?_⟩⟩
    rw [hobserved, htaken]
  · intro p v
    unfold lateInitialize
    split
    next => exact Nat.le_refl _
    next observed _ => exact isNull_fill_le p.isDefault observed
  · intro p q v changed h hne
    obtain ⟨observed, -, -, rfl⟩ := lateInitialize_ok h
    exact isNull_fill_lt (withDefault_ne_iff.mp hne)

end Mapping

/-! ## A reconcile -/

/-- What the filling of a resource from an object tells. An organization leaves nothing open. -/
def Resource.filling (object : Value) : Resource → Except Fault Bool
  | .organization _ _ => .ok false
  | .bucket p _ => (Bucket.lateInitialize p object).1
  | .mapping p _ => (Mapping.lateInitialize p object).1

/-- What is seen of an object tells what the filling from it told. -/
theorem Resource.filling_of_seenIn {object : Value} {resource : Resource} {seen : Seen}
    (h : resource.seenIn object = .ok seen) : resource.filling object = .ok seen.lateInitialized := by
  unfold seenIn at h
  unfold filling
  cases resource with
  | organization p o =>
    obtain ⟨_, -, h⟩ := bind_ok_iff.mp h
    obtain ⟨upToDate, -, h⟩ := bind_ok_iff.mp h
    cases h
    rfl
  | bucket p o =>
    obtain ⟨_, -, h⟩ := bind_ok_iff.mp h
    obtain ⟨changed, hchanged, h⟩ := bind_ok_iff.mp h
    obtain ⟨upToDate, -, h⟩ := bind_ok_iff.mp h
    cases h
    exact hchanged
  | mapping p o =>
    obtain ⟨_, -, h⟩ := bind_ok_iff.mp h
    obtain ⟨changed, hchanged, h⟩ := bind_ok_iff.mp h
    obtain ⟨upToDate, -, h⟩ := bind_ok_iff.mp h
    cases h
    exact hchanged

namespace Work

variable {c : Client} {resolver : Option Resolver}

/-- A flag tells what the filling in the lookup of a record told: no change, if the lookup found nothing or
failed. -/
structure FillingTold (c : Client) (w : Work) (flag : Bool) : Prop where
  found : ∀ object, w.finding c = .ok (some object) → w.record.resource.filling object = .ok flag
  missed : (∀ object, w.finding c ≠ .ok (some object)) → flag = false

/-- A lookup that succeeds has seen what was filled. -/
theorem fillingTold_of_look {w w' : Work} {seen : Seen} (h : w.look c = (.ok seen, w')) :
    w.FillingTold c seen.lateInitialized := by
  rcases look_ok h with ⟨hnone, rfl, -⟩ | ⟨object, r, hsome, habsorb, -⟩
  · refine ⟨fun object hfound => ?_, fun _ => rfl⟩
    rw [hnone] at hfound
    cases hfound
  · refine ⟨fun found hfound => ?_, fun hmissed => absurd hsome (hmissed object)⟩
    obtain rfl : object = found := Option.some.inj (Except.ok.inj (hsome.symm.trans hfound))
    refine Resource.filling_of_seenIn ?_
    rw [← Record.seen_absorb, habsorb]

/-- However a reconcile ends, its result tells what its lookup filled. -/
theorem fillingTold_of_ends {w w' : Work} {result : Result} (h : Ends c resolver w result w') :
    (w.prepare resolver).FillingTold c result.lateInitialized := by
  cases h with
  | unseen finding =>
    refine ⟨fun object hfound => ?_, fun _ => rfl⟩
    rw [finding] at hfound
    cases hfound
  | idle look plan => exact fillingTold_of_look look
  | done look plan mutated => exact fillingTold_of_look look
  | undone look plan mutated => exact fillingTold_of_look look

/-- An organization has nothing to be filled. -/
theorem FillingTold.of_organization {w : Work} {flag : Bool} (h : w.FillingTold c flag)
    (hk : w.record.kind = .organization) : flag = false := by
  by_cases hfound : ∃ object, w.finding c = .ok (some object)
  · obtain ⟨object, hobject⟩ := hfound
    have hfilled := h.found object hobject
    unfold Record.kind at hk
    cases hr : w.record.resource with
    | organization p o =>
      rw [hr] at hfilled
      exact (Except.ok.inj hfilled).symm
    | bucket p o => rw [hr] at hk; cases hk
    | mapping p o => rw [hr] at hk; cases hk
  · exact h.missed fun object hobject => hfound ⟨object, hobject⟩

end Work

/-- **Fillings tell what they do, and settle.** Buckets and mappings are filled exactly: a filling tells of a
change if and only if there is one, takes only what was open, and leaves less open if it changes anything. So
fillings of a bucket with `n` rules, from any objects, tell of at most `n + 3` changes, and those of a mapping of
at most one. A reconcile that ends with a result tells what the filling in its lookup told, and tells of no
change if nothing was found, the lookup failed, or the record is of an organization. -/
theorem lateInitialize_exact :
    Exact Bucket.lateInitialize Bucket.Parameters.openFields Bucket.Takes ∧
      (∀ (p : Bucket.Parameters) (objects : List Value),
        (flags Bucket.lateInitialize p objects).count (.ok true) ≤ p.retentionRules.length + 3) ∧
      Exact Mapping.lateInitialize Mapping.Parameters.openFields Mapping.Takes ∧
      (∀ (p : Mapping.Parameters) (objects : List Value),
        (flags Mapping.lateInitialize p objects).count (.ok true) ≤ 1) ∧
      ∀ (s : Setup) (resolver : Option Resolver) (w w' : Work) (result : Result),
        w.reconcile s resolver = (.ok result, w') →
          (w.prepare resolver).FillingTold s.client result.lateInitialized ∧
            (w.record.kind = .organization → result.lateInitialized = false) := by
  refine ⟨Bucket.exact_lateInitialize, fun p objects => ?_, Mapping.exact_lateInitialize, fun p objects => ?_,
    fun s resolver w w' result h => ?_⟩
  · exact Nat.le_trans (Bucket.exact_lateInitialize.settles p objects) (Bucket.openFields_le p)
  · exact Nat.le_trans (Mapping.exact_lateInitialize.settles p objects) (Bool.toNat_le _)
  · have hfilled := Work.fillingTold_of_ends (Work.reconcile_ends h)
    exact ⟨hfilled, fun hkind => hfilled.of_organization ((Work.kind_prepare w resolver).trans hkind)⟩

/-- A bucket whose record leaves a description and a duration open, and a server that has both. -/
def halfOpen : Bucket.Parameters :=
  { Bucket.Parameters.empty with rp := .text "autogen", retentionRules := [⟨"expire", 3600, none⟩] }

/-- What the server has of it. -/
def halfOpenThere : Value :=
  .object [("id", .text "b1"), ("name", .text "logs"), ("description", .text "d"),
    ("retentionRules", .list [.object [("everySeconds", .int 3600), ("shardGroupDurationSeconds", .int 60)]])]

theorem lateInitialize_exact_halfOpen :
    let q := { halfOpen with description := .text "d", retentionRules := [⟨"expire", 3600, some 60⟩] }
    let s := Setup.ofClient ⟨"http://db", "", 30⟩
    let w := Work.ofAnswers (Record.ofName "logs" (.bucket halfOpen .empty))
      [.ofValue (.object [("buckets", .list [halfOpenThere])])]
    let result : Result := ⟨.bucket, "logs", true, .nothing, "", true⟩
    Bucket.lateInitialize halfOpen halfOpenThere = (.ok true, q) ∧
      (true = true ↔ q ≠ halfOpen) ∧ Bucket.Takes halfOpenThere halfOpen q ∧
      q.openFields < halfOpen.openFields ∧
      flags Bucket.lateInitialize halfOpen [.null, halfOpenThere, halfOpenThere] =
        [.error (.noEntries "NoneType" "get"), .ok true, .ok false] ∧
      (flags Bucket.lateInitialize halfOpen [.null, halfOpenThere, halfOpenThere]).count (.ok true) ≤ 1 + 3 ∧
      w.reconcile s none = (.ok result, (w.reconcile s none).2) ∧
      (w.prepare none).FillingTold s.client result.lateInitialized := by
  intro q s w result
  have hfilled : Bucket.lateInitialize halfOpen halfOpenThere = (.ok true, q) := by decide +kernel
  have hended : (w.reconcile s none).1 = .ok result := by decide +kernel
  have hreconcile := Prod.fst_eq_iff.mp hended
  obtain ⟨hexact, hcount, -, -, hresult⟩ := lateInitialize_exact
  exact ⟨hfilled, hexact.changed_iff hfilled, hexact.takes hfilled, hexact.closes hfilled, by decide +kernel,
    hcount halfOpen _, hreconcile, (hresult s none w _ result hreconcile).1⟩

end InfluxKeeper
