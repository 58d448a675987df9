import InfluxKeeper.Proofs.Schema.RoundTrip
import InfluxKeeper.Yaml.Scalar

/-!
# Points in time that are read as YAML

> `readTime_timely`: a date or a point in time that is read is real.

The reader checks them against the calendar and the clock. The other readers of scalars give no dates.
-/

namespace InfluxKeeper.Yaml

open Text

/-! ## Points in time -/

theorem takeDigits?_lt {least most n : Nat} {s rest : List Char}
    (h : takeDigits? least most s = some (n, rest)) : n < 10 ^ most := by
  unfold takeDigits? at h
  dsimp only at h
  split at h
  · cases h
  · cases h
    have hlength : ((s.take most).takeWhile isAsciiDigit).length ≤ most :=
      (List.takeWhile_prefix _).length_le.trans (List.length_take_le most s)
    exact (digitsValue_lt _).trans_le (Nat.pow_le_pow_right (by decide) hlength)

theorem timeParts?_year {s : List Char} {parts : TimeParts} (h : timeParts? s = some parts) :
    parts.year ≤ 9999 := by
  obtain ⟨⟨year, _⟩, hyear, h⟩ := Option.bind_eq_some_iff.mp h
  have hlt := takeDigits?_lt hyear
  obtain ⟨_, -, h⟩ := Option.bind_eq_some_iff.mp h
  obtain ⟨_, -, h⟩ := Option.bind_eq_some_iff.mp h
  obtain ⟨_, -, h⟩ := Option.bind_eq_some_iff.mp h
  obtain ⟨_, -, h⟩ := Option.bind_eq_some_iff.mp h
  dsimp only at h
  split at h
  · cases h; dsimp only; omega
  · -- whatever stands between the date and the clock, the year has been read
    split at h
    on_goal 2 => split at h
    all_goals
      obtain ⟨_, -, h⟩ := Option.bind_eq_some_iff.mp h
      obtain ⟨_, -, h⟩ := Option.bind_eq_some_iff.mp h
      obtain ⟨_, -, h⟩ := Option.bind_eq_some_iff.mp h
      obtain ⟨_, -, h⟩ := Option.bind_eq_some_iff.mp h
      obtain ⟨_, -, h⟩ := Option.bind_eq_some_iff.mp h
      obtain ⟨_, -, h⟩ := Option.bind_eq_some_iff.mp h
      obtain ⟨_, -, h⟩ := Option.bind_eq_some_iff.mp h
      cases h
      dsimp only
      omega

theorem checkDate_real {year month day : Nat} {d : Date} (h : checkDate year month day = .ok d)
    (hy : year ≤ 9999) : d.Real := by
  unfold checkDate at h
  split at h
  · cases h
  · next hzero =>
    split at h
    · cases h
    · next days hdays =>
      split at h
      · cases h
      · next hday =>
        cases h
        exact ⟨Date.exists_iff.mpr ⟨days, hdays, by dsimp only; omega, by dsimp only; omega⟩, hzero, hy⟩

theorem readTime_timely {s : String} {v : Scalar} (h : readTime s = .ok v) : v.Timely := by
  unfold readTime at h
  split at h
  · cases h
  · next parts hparts =>
    have hyear := timeParts?_year hparts
    split at h
    · obtain ⟨d, hdate, rfl⟩ := map_ok_iff.mp h
      exact checkDate_real hdate hyear
    · next hour minute second hclock =>
      have hoffset (minutes : Int) (hm : parts.offset = some minutes) : minutes.natAbs < 1440 := by
        rw [hm] at h
        dsimp only at h
        split at h
        · cases h
        · next hlt => exact Nat.lt_of_not_le hlt
      dsimp only at h
      split at h
      on_goal 1 => split at h
      · cases h
      all_goals
        obtain ⟨d, hdate, h⟩ := bind_ok_iff.mp h
        split at h
        · cases h
        split at h
        · cases h
        split at h
        · cases h
        cases h
        have hd := checkDate_real hdate hyear
        exact ⟨hd, by dsimp only; omega, by dsimp only; omega, by dsimp only; omega,
          Time.microOf_lt parts.fraction, hoffset⟩

end InfluxKeeper.Yaml
