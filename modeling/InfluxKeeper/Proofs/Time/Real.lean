import Mathlib.Data.Option.Basic
import InfluxKeeper.Proofs.Time.RoundTrip

/-!
# What is read as a point in time is real

> `ofText_real`: a text that reads as a point in time reads as a real one.
> `ofInt_real`, `ofBinary64_real`: so does a number, in a year after year 0.

Every part of a text is checked as it is read, the date against the calendar and the rest against its bounds, so
there is one lemma for each part. A number gives a number of days, and `ofDays_exists` says that those are dates.
-/

namespace InfluxKeeper.Time

open Text

/-! ## Parts of a text -/

theorem takeDigits_lt {count n : Nat} {flaw : Flaw} {s rest : List Char}
    (h : takeDigits count flaw s = .ok (n, rest)) : n < 10 ^ count := by
  unfold takeDigits at h
  dsimp only at h
  split at h
  · next hdigits =>
    cases h
    have hlt := digitsValue_lt (s.take count)
    rw [hdigits.1] at hlt
    exact hlt
  · cases h

theorem takeTwo?_lt {bound n : Nat} {s rest : List Char} (h : takeTwo? bound s = some (n, rest)) :
    n < bound := by
  unfold takeTwo? at h
  split at h
  · split at h
    · next hlt => cases h; exact hlt
    · cases h
  · cases h

theorem readDatePart_exists {s rest : List Char} {d : Date} (h : readDatePart s = .ok (d, rest)) :
    d.exists? = true ∧ d.year ≤ 9999 := by
  unfold readDatePart at h
  split at h
  · cases h
  · obtain ⟨⟨year, s₁⟩, hyear, h⟩ := bind_ok_iff.mp h
    obtain ⟨s₂, -, h⟩ := bind_ok_iff.mp h
    obtain ⟨⟨month, s₃⟩, -, h⟩ := bind_ok_iff.mp h
    obtain ⟨s₄, -, h⟩ := bind_ok_iff.mp h
    obtain ⟨⟨day, s₅⟩, -, h⟩ := bind_ok_iff.mp h
    dsimp only at h
    split at h
    · cases h
    · next days hdays =>
      split at h
      · cases h
      · next hday =>
        cases h
        have hfour := takeDigits_lt hyear
        have hexists : Date.exists? ⟨year, month, day⟩ = true :=
          Date.exists_iff.mpr ⟨days, hdays, by dsimp only; omega, by dsimp only; omega⟩
        exact ⟨hexists, by dsimp only; omega⟩

theorem microOf_lt (digits : List Char) : microOf digits < 1000000 := by
  have hlength : (digits.take 6).length ≤ 6 := List.length_take_le 6 digits
  have hlt := Nat.mul_lt_mul_of_pos_right (digitsValue_lt (digits.take 6))
    (Nat.pow_pos (n := 6 - (digits.take 6).length) (show 0 < 10 by decide))
  rw [← Nat.pow_add, Nat.add_sub_cancel' hlength] at hlt
  exact hlt

theorem takeSeconds?_lt {s rest : List Char} {second micro : Nat}
    (h : takeSeconds? s = some ((second, micro), rest)) : second < 60 ∧ micro < 1000000 := by
  unfold takeSeconds? at h
  split at h
  · cases h; exact ⟨by decide, by decide⟩
  · obtain ⟨⟨n, s₁⟩, htwo, h⟩ := Option.bind_eq_some_iff.mp h
    have hlt := takeTwo?_lt htwo
    dsimp only at h
    split at h
    · split at h
      · split at h
        · cases h
        · cases h; exact ⟨hlt, microOf_lt _⟩
      · cases h; exact ⟨hlt, by decide⟩
    · cases h; exact ⟨hlt, by decide⟩

theorem readOffset?_lt {s : List Char} {offset : Option Int} (h : readOffset? s = some offset)
    (minutes : Int) (hm : offset = some minutes) : minutes.natAbs < 1440 := by
  unfold readOffset? at h
  split at h
  · cases h; cases hm
  · cases h; cases hm; decide
  · cases h; cases hm; decide
  · split at h
    · obtain ⟨⟨hours, s₁⟩, hhours, h⟩ := Option.bind_eq_some_iff.mp h
      obtain ⟨⟨rest, s₂⟩, hrest, h⟩ := Option.bind_eq_some_iff.mp h
      have hhours' := takeTwo?_lt hhours
      have hrest' := takeTwo?_lt hrest
      dsimp only at h
      split at h
      · cases h
        obtain rfl := Option.some.inj hm
        split <;> omega
      · cases h
    · cases h

theorem readClock?_real {date : Date} {s : List Char} {t : Timestamp}
    (h : readClock? date s = some t) (hd : date.Real) : t.Real := by
  unfold readClock? at h
  split at h
  · split at h
    · obtain ⟨⟨hour, s₁⟩, hhour, h⟩ := Option.bind_eq_some_iff.mp h
      obtain ⟨s₂, -, h⟩ := Option.bind_eq_some_iff.mp h
      obtain ⟨⟨minute, s₃⟩, hminute, h⟩ := Option.bind_eq_some_iff.mp h
      obtain ⟨⟨⟨second, micro⟩, s₄⟩, hsecond, h⟩ := Option.bind_eq_some_iff.mp h
      obtain ⟨offset, hoffset, h⟩ := Option.bind_eq_some_iff.mp h
      cases h
      obtain ⟨hs, hm⟩ := takeSeconds?_lt hsecond
      exact ⟨hd, takeTwo?_lt hhour, takeTwo?_lt hminute, hs, hm, readOffset?_lt hoffset⟩
    · cases h
  · cases h

theorem date_readClock? {date : Date} {s : List Char} {t : Timestamp}
    (h : readClock? date s = some t) : t.date = date := by
  unfold readClock? at h
  split at h
  · split at h
    · obtain ⟨_, -, h⟩ := Option.bind_eq_some_iff.mp h
      obtain ⟨_, -, h⟩ := Option.bind_eq_some_iff.mp h
      obtain ⟨_, -, h⟩ := Option.bind_eq_some_iff.mp h
      obtain ⟨_, -, h⟩ := Option.bind_eq_some_iff.mp h
      obtain ⟨_, -, h⟩ := Option.bind_eq_some_iff.mp h
      cases h
      rfl
    · cases h
  · cases h

/-! ## Numbers -/

theorem ofSeconds_real {seconds : Int} {micro : Nat} {t : Timestamp}
    (h : ofSeconds seconds micro = .ok t) (hm : micro < 1000000) (hy : t.date.year ≠ 0) : t.Real := by
  unfold ofSeconds at h
  split at h
  · cases h
  · split at h
    · cases h
    · next hlate =>
      cases h
      have hdays : Int.fdiv seconds 86400 ≤ 2932896 := by
        rw [Int.fdiv_eq_ediv_of_nonneg _ (by decide)]
        omega
      have hrest : (seconds - Int.fdiv seconds 86400 * 86400).toNat < 86400 := by
        rw [Int.fdiv_eq_ediv_of_nonneg _ (by decide)]
        omega
      unfold Timestamp.ofSeconds at hy ⊢
      dsimp only at hy ⊢
      refine ⟨⟨Date.ofDays_exists hy, hy, Date.year_ofDays_le hdays⟩, ?_, ?_, ?_, hm, ?_⟩
      · dsimp only; omega
      · exact Nat.mod_lt _ (by decide)
      · exact Nat.mod_lt _ (by decide)
      · intro minutes hm
        cases hm
        decide

theorem ofInt_real {n : Int} {t : Timestamp} (h : ofInt n = .ok t) (hy : t.date.year ≠ 0) : t.Real := by
  unfold ofInt at h
  split at h
  · exact ofSeconds_real h (by decide) hy
  · refine ofSeconds_real h ?_ hy
    rw [Int.fdiv_eq_ediv_of_nonneg _ (by decide)]
    omega

theorem ofBinary64_real {x : Binary64} {t : Timestamp} (h : ofBinary64 x = .ok t)
    (hy : t.date.year ≠ 0) : t.Real := by
  unfold ofBinary64 at h
  split at h
  · cases h
  · exact ofSeconds_real h (Nat.mod_lt _ (by decide)) hy

/-! ## Texts -/

theorem rejectYearZero_ok_iff {t t' : Timestamp} :
    rejectYearZero t = .ok t' ↔ t' = t ∧ t.date.year ≠ 0 := by
  unfold rejectYearZero
  split
  · next hz => exact ⟨nofun, fun h => absurd hz h.2⟩
  · next hz => exact ⟨fun h => by cases h; exact ⟨rfl, hz⟩, fun h => congrArg Except.ok h.1.symm⟩

theorem readDate_real {s : List Char} {d : Date} (h : readDate s = .ok d) (hy : d.year ≠ 0) :
    d.Real := by
  unfold readDate at h
  split at h
  · next hdate =>
    cases h
    obtain ⟨hexists, hyear⟩ := readDatePart_exists hdate
    exact ⟨hexists, hy, hyear⟩
  · split at h
    · next n _ =>
      cases ht : ofInt n with
      | error flaw => rw [ht] at h; cases h
      | ok t =>
        rw [ht] at h
        cases h
        exact (ofInt_real ht hy).date
    · split at h
      · cases h
      · cases h

/-- **What is read is real.** -/
theorem ofText_real {s : List Char} {t : Timestamp} (h : ofText s = .ok t) : t.Real := by
  unfold ofText at h
  dsimp only at h
  split at h
  · next t' hread =>
    obtain ⟨rfl, hy⟩ := rejectYearZero_ok_iff.mp h
    rcases (Option.orElse_eq_some _ _ _).mp hread with hclock | ⟨-, hnumber⟩
    · split at hclock
      · next date rest hdate =>
        obtain ⟨hexists, hyear⟩ := readDatePart_exists hdate
        have hd := date_readClock? hclock
        exact readClock?_real hclock ⟨hexists, hd ▸ hy, hyear⟩
      · cases hclock
    · split at hnumber
      · exact ofInt_real (ok_of_toOption hnumber) hy
      · exact ofBinary64_real (ok_of_toOption hnumber) hy
      · cases hnumber
  · split at h
    · next d hdate =>
      obtain ⟨rfl, hy⟩ := rejectYearZero_ok_iff.mp h
      exact Timestamp.real_midnight (readDate_real hdate hy)
    · cases h

end InfluxKeeper.Time
