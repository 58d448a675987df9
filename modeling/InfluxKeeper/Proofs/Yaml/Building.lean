import InfluxKeeper.Proofs.Yaml.Faults
import InfluxKeeper.Proofs.Yaml.Timely
import InfluxKeeper.Yaml.Load

/-!
# What is built of nodes

> `Node.value_timely`: the dates and points in time in the value of a node are real.
> `Node.safe_value`: what is at fault in a node is a scalar that no value has, or the node is malformed.

Both are said at once of an outcome (`Built.Comes`). Values, items, pairs and entries are built by functions that call
each other with one step of fuel less, so what they come to with some fuel is said of all four together
(`BuildsTimely`).
-/

namespace InfluxKeeper.Yaml

open Text

variable {α β γ : Type} {flaw : Option Fault}

/-! ## Outcomes -/

namespace Built

variable {P : α → Prop} {Q : β → Prop} {R : γ → Prop}

/-- What an outcome comes to: a value with a property, or a fault that arises. -/
inductive Comes (flaw : Option Fault) (P : α → Prop) : Built α → Prop
  | ok {a : α} (h : P a) : Comes flaw P (.ok a)
  | fault {depth : Nat} {f : Fault} (h : f.Arises flaw) : Comes flaw P (.fault depth f)

theorem Comes.malformed {depth : Nat} : (malformed depth : Built α).Comes flaw P := .fault .malformed

theorem Comes.map {f : α → β} {b : Built α} (h : b.Comes flaw P) (hf : ∀ a, P a → Q (f a)) :
    (b.map f).Comes flaw Q := by
  cases h with
  | ok h => exact .ok (hf _ h)
  | fault h => exact .fault h

theorem Comes.both {f : α → β → γ} {a : Built α} {b : Built β} (ha : a.Comes flaw P) (hb : b.Comes flaw Q)
    (hf : ∀ x y, P x → Q y → R (f x y)) : (Built.both f a b).Comes flaw R := by
  cases ha with
  | ok hx =>
    cases hb with
    | ok hy => exact .ok (hf _ _ hx hy)
    | fault h => exact .fault h
  | fault h =>
    cases hb with
    | ok => exact .fault h
    | fault h' =>
      unfold Built.both
      dsimp only
      split
      · exact .fault h'
      · exact .fault h

theorem Comes.ofScalar {depth : Nat} {r : Except ScalarFault α} (h : ∀ a, r = .ok a → P a)
    (hf : ∀ f, r = .error f → f.Arises) : (ofScalar depth r).Comes flaw P := by
  cases r with
  | ok a => exact .ok (h a rfl)
  | error f => exact .fault (.scalar (hf f rfl))

theorem Comes.ofScalar_map {depth : Nat} {r : Except ScalarFault α} {g : α → β} (h : ∀ a, Q (g a))
    (hf : ∀ f, r = .error f → f.Arises) : (Built.ofScalar depth (r.map g)).Comes flaw Q := by
  cases r with
  | ok a => exact .ok (h a)
  | error f => exact .fault (.scalar (hf f rfl))

theorem Comes.holds {b : Built α} {a : α} (h : b.Comes flaw P) (ha : b = .ok a) : P a := by
  subst ha
  cases h with
  | ok h => exact h

theorem Comes.arises {b : Built α} {depth : Nat} {f : Fault} (h : b.Comes flaw P) (hf : b = .fault depth f) :
    f.Arises flaw := by
  subst hf
  cases h with
  | fault h => exact h

theorem Comes.safe_toExcept {b : Built α} (h : b.Comes flaw P) : Safe flaw b.toExcept := by
  cases h with
  | ok => exact safe_ok _
  | fault h => exact safe_error_iff.mpr h

theorem Comes.of_toExcept {b : Built α} {a : α} (h : b.Comes flaw P) (ha : b.toExcept = .ok a) : P a := by
  cases h with
  | ok h => cases ha; exact h
  | fault => cases ha

end Built

/-! ## Values -/

theorem scalarOf?_comes {depth : Nat} {tag text : String} {b : Built Scalar}
    (h : scalarOf? depth tag text = some b) : b.Comes flaw Scalar.Timely := by
  unfold scalarOf? at h
  split at h
  · obtain rfl := Option.some.inj h
    exact .ok trivial
  split at h
  · obtain rfl := Option.some.inj h
    exact .ofScalar_map (fun _ => trivial) fun _ => .boolean
  split at h
  · obtain rfl := Option.some.inj h
    exact .ofScalar_map (fun _ => trivial) fun _ => .integer
  split at h
  · obtain rfl := Option.some.inj h
    exact .ofScalar_map (fun _ => trivial) fun _ => .float
  split at h
  · obtain rfl := Option.some.inj h
    exact .ofScalar (fun _ => readTime_timely) fun _ => .time
  split at h
  · obtain rfl := Option.some.inj h
    exact .ok trivial
  split at h
  · obtain rfl := Option.some.inj h
    split
    · exact .ok trivial
    · exact .malformed
  · cases h

/-- Entries whose keys and values are timely. -/
def TimelyEntries (entries : Entries) : Prop := ∀ e ∈ entries, e.1.Timely ∧ e.2.Timely

theorem insertKey_timely {own : Option String} {key : Scalar} {v : Value}
    {entries : List (Option String × Scalar × Value)} (h : TimelyEntries (entries.map (·.2)))
    (hk : key.Timely) (hv : v.Timely) : TimelyEntries ((insertKey own key v entries).map (·.2)) := by
  induction entries with
  | nil => simpa [insertKey, TimelyEntries] using ⟨hk, hv⟩
  | cons e rest ih =>
    obtain ⟨he, hrest⟩ := List.forall_mem_cons.mp h
    unfold insertKey
    split
    · exact List.forall_mem_cons.mpr ⟨⟨he.1, hv⟩, hrest⟩
    · exact List.forall_mem_cons.mpr ⟨he, ih hrest⟩

/-- What is built with some fuel is timely, or what is at fault in it arises. Entries are timely if those read
before them are. -/
structure BuildsTimely (flaw : Option Fault) (names : KeyNames) (fuel : Nat) : Prop where
  value : ∀ p number n, (valueOf names fuel p number n).Comes flaw Value.Timely
  values : ∀ p number items, (valuesOf names fuel p number items).Comes flaw fun vs => ∀ v ∈ vs, v.Timely
  pairs : ∀ p number items, (pairsOf names fuel p number items).Comes flaw fun vs => ∀ v ∈ vs, v.Timely
  entries : ∀ p number before entries, TimelyEntries (before.map (·.2)) →
    (entriesOf names fuel p number before entries).Comes flaw TimelyEntries

namespace BuildsTimely

variable {names : KeyNames} {fuel : Nat}

theorem zero : BuildsTimely flaw names 0 where
  value _ _ _ := by rw [valueOf]; exact .malformed
  values _ _ _ := by rw [valuesOf]; exact .malformed
  pairs _ _ _ := by rw [pairsOf]; exact .malformed
  entries _ _ _ _ _ := by rw [entriesOf]; exact .malformed

variable (ih : BuildsTimely flaw names fuel) (p : Position) (number : Nat)

include ih

theorem value_succ (n : Node) : (valueOf names (fuel + 1) p number n).Comes flaw Value.Timely := by
  unfold valueOf
  dsimp only
  split
  · exact .ok (.scalar trivial)
  · exact ih.value _ _ _
  · split
    · next hscalar => exact (scalarOf?_comes hscalar).map fun s => .scalar
    · split <;> exact .malformed
  · split
    · exact .malformed
    split
    · exact (ih.values _ _ _).map fun vs => .list
    split
    · exact (ih.pairs _ _ _).map fun vs => .list
    split <;> exact .malformed
  · split
    · split
      · refine (ih.entries _ _ _ _ (by simp [TimelyEntries])).map fun e he => ?_
        split
        · exact .map fun x hx => (he x hx).2
        · refine .set fun s hs => ?_
          obtain ⟨x, hx, rfl⟩ := List.mem_map.mp hs
          exact (he x hx).1
      · exact .malformed
    split
    · exact .malformed
    split
    · split
      · exact .fault (.scalar .timeMapping)
      split
      · next hscalar => exact (scalarOf?_comes hscalar).map fun s => .scalar
      · exact .malformed
    · exact .malformed

theorem values_succ (items : List Node) :
    (valuesOf names (fuel + 1) p number items).Comes flaw fun vs => ∀ v ∈ vs, v.Timely := by
  cases items with
  | nil => rw [valuesOf]; exact .ok (by simp)
  | cons item rest =>
    rw [valuesOf]
    exact (ih.value _ _ _).both (ih.values _ _ _) fun v vs hv hvs => List.forall_mem_cons.mpr ⟨hv, hvs⟩

theorem pairs_succ (items : List Node) :
    (pairsOf names (fuel + 1) p number items).Comes flaw fun vs => ∀ v ∈ vs, v.Timely := by
  cases items with
  | nil => rw [pairsOf]; exact .ok (by simp)
  | cons n rest =>
    unfold pairsOf
    split
    · next key item _ =>
      have hpair : Built.Comes flaw (fun pair : Value × Value => pair.1.Timely ∧ pair.2.Timely)
          (.both Prod.mk (valueOf names fuel p number key) (valueOf names fuel p (number + 1) item)) :=
        (ih.value _ _ _).both (ih.value _ _ _) fun _ _ hk hv => ⟨hk, hv⟩
      refine hpair.both (ih.pairs _ _ _) fun pair vs h hvs => List.forall_mem_cons.mpr ⟨.tuple ?_, hvs⟩
      simpa using h
    · exact .malformed

theorem entries_succ {before : List (Option String × Scalar × Value)} (hbefore : TimelyEntries (before.map (·.2)))
    (entries : List (Node × Node)) :
    (entriesOf names (fuel + 1) p number before entries).Comes flaw TimelyEntries := by
  cases entries with
  | nil => rw [entriesOf]; exact .ok hbefore
  | cons e rest =>
    obtain ⟨key, item⟩ := e
    unfold entriesOf
    split
    · next k hk =>
      split
      · next v hv =>
        refine ih.entries _ _ _ _ (insertKey_timely hbefore ?_ ((ih.value _ _ _).holds hv))
        cases (ih.value _ _ _).holds hk with
        | scalar timely => exact timely
      · next d f hf =>
        have harises := (ih.value _ _ _).arises hf
        -- another entry at fault is reported only if none of the entries after it is
        split
        · exact Built.Comes.both (P := fun _ => True) (.fault harises) (ih.entries _ _ _ _ hbefore)
            fun _ _ _ he => he
        · exact .fault harises
    · exact .malformed
    · next d f hf =>
      split
      · exact .malformed
      · exact .fault ((ih.value _ _ _).arises hf)

end BuildsTimely

theorem buildsTimely (names : KeyNames) (fuel : Nat) : BuildsTimely flaw names fuel := by
  induction fuel with
  | zero => exact .zero
  | succ fuel ih =>
    exact {
      value := ih.value_succ
      values := ih.values_succ
      pairs := ih.pairs_succ
      entries := fun p number _ entries h => ih.entries_succ p number h entries }

theorem Node.value_timely {n : Node} {v : Value} (h : n.value = .ok v) : v.Timely := by
  have hbuilds (names : KeyNames) (fuel : Nat) : BuildsTimely none names fuel := buildsTimely names fuel
  exact ((hbuilds _ _).value _ _ _).of_toExcept h

theorem Node.safe_value (n : Node) : Safe flaw n.value :=
  ((buildsTimely _ _).value _ _ _).safe_toExcept

end InfluxKeeper.Yaml
