import InfluxKeeper.Value.Basic

/-!
# Filling what is open

A parameter that is left open takes the value that the server has. A value is open if it is null; a text
is open also if it is empty. Filling tells whether it changed anything, and it settles: filling again
with the same value changes nothing (`fill_again`, `fillText_again`).
-/

namespace InfluxKeeper

/-- A value after filling, and whether that changed it. -/
structure Filled (α : Type) where
  value : α
  changed : Bool
  deriving DecidableEq, Repr

/-- A value, or the observed one if it is null. -/
def fill (desired observed : Value) : Filled Value :=
  if desired.isNull && !observed.isNull then ⟨observed, true⟩ else ⟨desired, false⟩

/-- A value, or the observed one if it does not count as true but the observed one does. -/
def fillText (desired observed : Value) : Filled Value :=
  if !desired.truthy && observed.truthy then ⟨observed, true⟩ else ⟨desired, false⟩

/-- A number, or the observed one if there is none. -/
def fillNumber (desired observed : Option Int) : Filled (Option Int) :=
  if desired.isNone && observed.isSome then ⟨observed, true⟩ else ⟨desired, false⟩

/-- A second filling changes nothing. -/
theorem fill_again (desired observed : Value) :
    fill (fill desired observed).value observed = ⟨(fill desired observed).value, false⟩ := by
  by_cases hd : desired.isNull = true <;> by_cases ho : observed.isNull = true <;> simp [fill, hd, ho]

/-- A second filling of a text changes nothing. -/
theorem fillText_again (desired observed : Value) :
    fillText (fillText desired observed).value observed
      = ⟨(fillText desired observed).value, false⟩ := by
  by_cases hd : desired.truthy = true <;> by_cases ho : observed.truthy = true <;>
    simp [fillText, hd, ho]

/-- A filling changed nothing exactly if the value is what it was. -/
theorem changed_fill_eq_false_iff {desired observed : Value} :
    (fill desired observed).changed = false ↔ (fill desired observed).value = desired := by
  unfold fill
  split
  · next h =>
    constructor
    · nofun
    · intro heq
      have heq : observed = desired := heq
      cases hd : desired.isNull <;> simp [heq, hd] at h
  · exact ⟨fun _ => rfl, fun _ => rfl⟩

/-- A filling of a text changed nothing exactly if the text is what it was. -/
theorem changed_fillText_eq_false_iff {desired observed : Value} :
    (fillText desired observed).changed = false ↔ (fillText desired observed).value = desired := by
  unfold fillText
  split
  · next h =>
    constructor
    · nofun
    · intro heq
      have heq : observed = desired := heq
      cases hd : desired.truthy <;> simp [heq, hd] at h
  · exact ⟨fun _ => rfl, fun _ => rfl⟩

/-- A value filled from itself stays. -/
theorem fill_self (v : Value) : fill v v = ⟨v, false⟩ := by
  cases hv : v.isNull <;> simp [fill, hv]

/-- What is open after filling was open in what it was filled from. -/
theorem isNull_of_fill {desired observed : Value} (h : (fill desired observed).value.isNull = true) :
    observed.isNull = true := by
  by_cases hd : desired.isNull = true <;> by_cases ho : observed.isNull = true <;>
    simp [fill, hd, ho] at h ⊢

/-- A value that is not null stays. -/
theorem fill_of_not_isNull {desired : Value} (h : desired.isNull = false) (observed : Value) :
    fill desired observed = ⟨desired, false⟩ := by
  simp [fill, h]

end InfluxKeeper
