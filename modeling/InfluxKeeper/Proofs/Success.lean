import InfluxKeeper.Api.Inspect

/-!
# Success of a chain of steps

A chain of steps that may fail succeeds exactly if each of its steps does. The lemmas here peel one step off
at a time: `bind_ok_iff` off a chain of looks into an answer, `seq_valid_iff` off a check of several fields.
Later proofs open a reader of answers with them and never unfold the chain itself.
-/

namespace InfluxKeeper

section Except

variable {ε δ α β : Type}

theorem bind_ok_iff {x : Except ε α} {f : α → Except ε β} {b : β} :
    (x >>= f) = .ok b ↔ ∃ a, x = .ok a ∧ f a = .ok b := by
  cases x with
  | error e =>
    constructor
    · intro h; cases h
    · rintro ⟨a, ha, -⟩; cases ha
  | ok a =>
    constructor
    · intro h; exact ⟨a, rfl, h⟩
    · rintro ⟨a', ha, hf⟩; cases ha; exact hf

/-- A chain of two steps fails if the first one does, or the second one. -/
theorem bind_error_iff {x : Except ε α} {f : α → Except ε β} {e : ε} :
    (x >>= f) = .error e ↔ x = .error e ∨ ∃ a, x = .ok a ∧ f a = .error e := by
  cases x with
  | error e' =>
    constructor
    · intro h; cases h; exact Or.inl rfl
    · rintro (h | ⟨a, ha, -⟩)
      · cases h; rfl
      · cases ha
  | ok a =>
    constructor
    · intro h; exact Or.inr ⟨a, rfl, h⟩
    · rintro (h | ⟨a', ha, hf⟩)
      · cases h
      · cases ha; exact hf

theorem mapError_ok_iff {x : Except ε α} {f : ε → δ} {a : α} :
    x.mapError f = .ok a ↔ x = .ok a := by
  cases x with
  | error e => exact ⟨nofun, nofun⟩
  | ok a => exact ⟨fun h => by cases h; rfl, fun h => by cases h; rfl⟩

theorem mapError_error_iff {x : Except ε α} {f : ε → δ} {d : δ} :
    x.mapError f = .error d ↔ ∃ e, x = .error e ∧ f e = d := by
  cases x with
  | error e =>
    constructor
    · intro h; cases h; exact ⟨e, rfl, rfl⟩
    · rintro ⟨e', he, hf⟩; cases he; exact congrArg Except.error hf
  | ok a =>
    constructor
    · intro h; cases h
    · rintro ⟨e', he, -⟩; cases he

theorem map_ok_iff {x : Except ε α} {f : α → β} {b : β} :
    x.map f = .ok b ↔ ∃ a, x = .ok a ∧ f a = b := by
  cases x with
  | error e => exact ⟨nofun, nofun⟩
  | ok a =>
    constructor
    · intro h; cases h; exact ⟨a, rfl, rfl⟩
    · rintro ⟨a', ha, hf⟩; cases ha; exact congrArg Except.ok hf

theorem map_error_iff {x : Except ε α} {f : α → β} {e : ε} : x.map f = .error e ↔ x = .error e := by
  cases x with
  | error e' => exact ⟨fun h => by cases h; rfl, fun h => by cases h; rfl⟩
  | ok a => exact ⟨nofun, nofun⟩

/-- What there is of an outcome is what it is. -/
theorem ok_of_toOption {x : Except ε α} {a : α} (h : x.toOption = some a) : x = .ok a := by
  cases x with
  | error _ => cases h
  | ok _ => cases h; rfl

end Except

namespace Schema

variable {α β : Type}

theorem seq_valid_iff {f : Checked (α → β)} {a : Checked α} {b : β} :
    (f <*> a) = .valid b ↔ ∃ g x, f = .valid g ∧ a = .valid x ∧ b = g x := by
  show Checked.seq f (fun _ => a) = .valid b ↔ _
  cases f with
  | invalid is => cases a <;> simp [Checked.seq]
  | valid g =>
    cases a with
    | invalid is => simp [Checked.seq]
    | valid x => simp [Checked.seq, eq_comm]

theorem map_valid_iff {f : α → β} {a : Checked α} {b : β} :
    (f <$> a) = .valid b ↔ ∃ x, a = .valid x ∧ b = f x := by
  show Checked.map f a = .valid b ↔ _
  cases a with
  | invalid is => simp [Checked.map]
  | valid x => simp [Checked.map, eq_comm]

theorem under_valid_iff {step : Step} {a : Checked α} {x : α} :
    a.under step = .valid x ↔ a = .valid x := by
  cases a <;> simp [Checked.under]

theorem fit_ok_iff {title : String} {c : Checked α} {x : α} :
    fit title c = .ok x ↔ c = .valid x := by
  cases c with
  | invalid is => exact ⟨nofun, nofun⟩
  | valid y => exact ⟨fun h => by cases h; rfl, fun h => by cases h; rfl⟩

end Schema

end InfluxKeeper
