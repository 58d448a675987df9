import Mathlib.Data.List.Induction
import Mathlib.Data.String.Basic
import InfluxKeeper.Proofs.Success
import InfluxKeeper.Proofs.Time.Calendar
import InfluxKeeper.Time.Reader

/-!
# Points in time are read back

A point in time that a calendar and a clock can show is `Real`. What is read is real, and what is real is read
back as it was written.

> `ofText_recordText`: the text of a real point in time in a record reads as that point in time.
> `ofText_real`: a text that reads as a point in time reads as a real one.

Both go through the text from left to right: date, hour, minute, second, fraction and the distance from universal
time, one lemma for each part, with what follows it left open.
-/

namespace InfluxKeeper

open Text Time

/-- A date of a calendar whose years have one to four digits. -/
structure Date.Real (d : Date) : Prop where
  ofCalendar : d.exists? = true
  positive : d.year ≠ 0
  fourDigits : d.year ≤ 9999

/-- A point in time that a calendar and a clock can show. -/
structure Timestamp.Real (t : Timestamp) : Prop where
  date : t.date.Real
  hour : t.hour < 24
  minute : t.minute < 60
  second : t.second < 60
  micro : t.micro < 1000000
  offset : ∀ minutes, t.offset = some minutes → minutes.natAbs < 1440

theorem Timestamp.real_midnight {d : Date} (h : d.Real) : (Timestamp.midnight d).Real :=
  ⟨h, Nat.zero_lt_succ _, Nat.zero_lt_succ _, Nat.zero_lt_succ _, Nat.zero_lt_succ _, nofun⟩

/-! ## Digits -/

theorem asciiDigit?_of_isDigit {c : Char} (h : c.isDigit = true) :
    asciiDigit? c = some (c.toNat - 48) := by
  obtain ⟨hlow, hhigh⟩ := Bool.and_eq_true_iff.mp h
  have hrange : '0' ≤ c ∧ c ≤ '9' := ⟨of_decide_eq_true hlow, of_decide_eq_true hhigh⟩
  unfold asciiDigit?
  rw [if_pos hrange]

theorem isAsciiDigit_of_isDigit {c : Char} (h : c.isDigit = true) : isAsciiDigit c = true := by
  unfold isAsciiDigit
  rw [asciiDigit?_of_isDigit h]
  rfl

/-- Digits read as the number that they are digits of. -/
theorem digitsValue_of_isDigit {digits : List Char} (h : ∀ c ∈ digits, c.isDigit = true) :
    digitsValue digits = Nat.ofDigitChars 10 digits 0 := by
  unfold digitsValue Nat.ofDigitChars
  refine List.foldl_ext _ _ _ fun n c hc => ?_
  rw [asciiDigit?_of_isDigit (h c hc)]
  rfl

/-- Digits read as a number with no more digits. -/
theorem digitsValue_lt (digits : List Char) : digitsValue digits < 10 ^ digits.length := by
  induction digits using List.reverseRecOn with
  | nil => decide
  | append_singleton rest c ih =>
    have hdigit : (asciiDigit? c).getD 0 < 10 := by
      unfold asciiDigit?
      split
      · next h =>
        have h9 : c.toNat ≤ '9'.toNat := h.2
        have : '9'.toNat = 57 := rfl
        simp only [Option.getD_some]
        omega
      · decide
    rw [digitsValue_append_singleton, List.length_append, List.length_singleton, Nat.pow_succ]
    omega

/-- A padded number consists of as many digits as asked for, and they read as the number. -/
theorem padded_digits {width n : Nat} (hw : 0 < width) (h : n < 10 ^ width) :
    (padded width n).toList.length = width ∧ (∀ c ∈ (padded width n).toList, isAsciiDigit c = true) ∧
      digitsValue (padded width n).toList = n := by
  have hdigits : ∀ c ∈ (padded width n).toList, c.isDigit = true := by
    intro c hc
    rw [padded, String.toList_ofList] at hc
    rcases List.mem_append.mp hc with hzero | hdigit
    · rw [List.eq_of_mem_replicate hzero]; rfl
    · exact Nat.isDigit_of_mem_toDigits (by decide) (by decide) hdigit
  have hlength := (Nat.length_toDigits_le_iff (b := 10) (by decide) hw).mpr h
  refine ⟨?_, fun c hc => isAsciiDigit_of_isDigit (hdigits c hc), ?_⟩
  · rw [padded, String.toList_ofList, List.length_append, List.length_replicate]
    omega
  · rw [digitsValue_of_isDigit hdigits, padded, String.toList_ofList, Nat.ofDigitChars_append,
      Nat.ofDigitChars_replicate_zero, Nat.mul_zero, Nat.ofDigitChars_ten_toDigits]

/-! ## Reading what was written -/

theorem takeDigits_padded {width n : Nat} (hw : 0 < width) (h : n < 10 ^ width) (flaw : Flaw)
    (rest : List Char) :
    takeDigits width flaw ((padded width n).toList ++ rest) = .ok (n, rest) := by
  obtain ⟨hlength, hdigits, hvalue⟩ := padded_digits hw h
  unfold takeDigits
  dsimp only
  rw [List.take_left' hlength, List.drop_left' hlength, if_pos ⟨hlength, List.all_eq_true.mpr hdigits⟩, hvalue]

theorem takeChar_self (c : Char) (flaw : Flaw) (rest : List Char) :
    takeChar c flaw (c :: rest) = .ok rest := if_pos rfl

theorem takeTwo?_padded {bound n : Nat} (h : n < bound) (hb : bound ≤ 100) (rest : List Char) :
    takeTwo? bound ((padded 2 n).toList ++ rest) = some (n, rest) := by
  unfold takeTwo?
  rw [takeDigits_padded (by decide) (by omega)]
  dsimp only
  rw [if_pos h]

/-- A text has no fewer octets than characters. -/
theorem length_le_utf8ByteSize (s : List Char) : s.length ≤ (String.ofList s).utf8ByteSize := by
  rw [String.utf8ByteSize_ofList]
  induction s with
  | nil => exact Nat.le_refl 0
  | cons c rest ih =>
    rw [String.utf8Len_cons, List.length_cons]
    have := c.utf8Size_pos
    omega

theorem daysInMonth?_some {year month days : Nat} (h : daysInMonth? year month = some days) :
    month ≤ 12 ∧ days ≤ 31 := by
  unfold daysInMonth? at h
  split at h
  · next hm => cases h; simp only [List.mem_cons, List.not_mem_nil, or_false] at hm; omega
  · split at h
    · next hm => cases h; simp only [List.mem_cons, List.not_mem_nil, or_false] at hm; omega
    · split at h
      · next hm =>
        cases h
        rw [hm]
        exact ⟨by decide, by split <;> decide⟩
      · cases h

/-- A date of the calendar is in a month, on a day of it. -/
theorem Date.exists_iff {d : Date} : d.exists? = true ↔
    ∃ days, daysInMonth? d.year d.month = some days ∧ 1 ≤ d.day ∧ d.day ≤ days := by
  unfold Date.exists?
  cases daysInMonth? d.year d.month <;> simp

theorem toList_dateText (d : Date) : d.text.toList = (padded 4 d.year).toList ++
    '-' :: ((padded 2 d.month).toList ++ '-' :: (padded 2 d.day).toList) := by
  simp [Date.text]

theorem readDatePart_text {d : Date} (h : d.Real) (rest : List Char) :
    readDatePart (d.text.toList ++ rest) = .ok (d, rest) := by
  obtain ⟨hcalendar, -, hyear⟩ := h
  obtain ⟨days, hdays, hfirst, hlast⟩ := Date.exists_iff.mp hcalendar
  obtain ⟨hmonth, hshort⟩ := daysInMonth?_some hdays
  have hyear' := padded_digits (by decide) (show d.year < 10 ^ 4 by omega)
  have hmonth' := padded_digits (by decide) (show d.month < 10 ^ 2 by omega)
  have hday' := padded_digits (by decide) (show d.day < 10 ^ 2 by omega)
  rw [toList_dateText]
  have hlength : ¬(String.ofList ((padded 4 d.year).toList ++ '-' :: ((padded 2 d.month).toList ++
      '-' :: (padded 2 d.day).toList) ++ rest)).utf8ByteSize < 10 := by
    refine Nat.not_lt.mpr (Nat.le_trans ?_ (length_le_utf8ByteSize _))
    simp only [List.length_append, List.length_cons, hyear'.1, hmonth'.1, hday'.1]
    omega
  unfold readDatePart
  rw [if_neg hlength]
  simp only [List.append_assoc, List.cons_append]
  refine bind_ok_iff.mpr ⟨_, takeDigits_padded (by decide) (by omega) _ _, ?_⟩
  refine bind_ok_iff.mpr ⟨_, takeChar_self _ _ _, ?_⟩
  refine bind_ok_iff.mpr ⟨_, takeDigits_padded (by decide) (by omega) _ _, ?_⟩
  refine bind_ok_iff.mpr ⟨_, takeChar_self _ _ _, ?_⟩
  refine bind_ok_iff.mpr ⟨_, takeDigits_padded (by decide) (by omega) _ _, ?_⟩
  dsimp only
  rw [hdays]
  exact if_neg (by omega)

/-- The millionths of a second as they are written, with the point before them. -/
def fractionChars (micro : Nat) : List Char :=
  if micro = 0 then [] else '.' :: (padded 6 micro).toList

/-- The distance from universal time as it is written in a record. -/
def zoneChars (offset : Option Int) : List Char :=
  (match offset with
    | none => ""
    | some 0 => "Z"
    | some minutes => Timestamp.offsetText minutes).toList

theorem toList_recordText (t : Timestamp) :
    t.recordText.toList = t.date.text.toList ++ 'T' :: ((padded 2 t.hour).toList ++
      ':' :: ((padded 2 t.minute).toList ++ ':' :: ((padded 2 t.second).toList ++
        (fractionChars t.micro ++ zoneChars t.offset)))) := by
  have hclock : t.clockText.toList = (padded 2 t.hour).toList ++
      ':' :: ((padded 2 t.minute).toList ++ ':' :: ((padded 2 t.second).toList ++
        fractionChars t.micro)) := by
    unfold Timestamp.clockText fractionChars
    split
    · simp
    · simp
  have hrender : t.recordText.toList = (t.date.text ++ "T" ++ t.clockText).toList ++ zoneChars t.offset :=
    String.toList_append
  rw [hrender, String.toList_append, String.toList_append, hclock]
  simp

/-- What is written of the distance: nothing, a letter for none, or a sign with hours and minutes. -/
theorem zoneChars_cases (offset : Option Int) :
    (offset = none ∧ zoneChars offset = []) ∨ (offset = some 0 ∧ zoneChars offset = ['Z']) ∨
      ∃ minutes : Int, offset = some minutes ∧ zoneChars offset =
        (if minutes < 0 then '-' else '+') :: ((padded 2 (minutes.natAbs / 60)).toList ++
          ':' :: (padded 2 (minutes.natAbs % 60)).toList) := by
  unfold zoneChars
  split
  · exact Or.inl ⟨rfl, rfl⟩
  · exact Or.inr (Or.inl ⟨rfl, rfl⟩)
  · next minutes _ =>
    refine Or.inr (Or.inr ⟨minutes, rfl, ?_⟩)
    unfold Timestamp.offsetText
    split
    · simp
    · simp

/-- What is written of the distance does not go on with what comes before it. -/
theorem zoneChars_head {offset : Option Int} {c : Char} {rest : List Char}
    (h : zoneChars offset = c :: rest) : isAsciiDigit c = false ∧ c ≠ '.' ∧ c ≠ ',' := by
  have hmarks : c = 'Z' ∨ c = '-' ∨ c = '+' := by
    rcases zoneChars_cases offset with ⟨-, hnone⟩ | ⟨-, hzero⟩ | ⟨minutes, -, hsome⟩
    · rw [hnone] at h; cases h
    · rw [hzero] at h; cases h; exact Or.inl rfl
    · rw [hsome] at h
      split at h
      · exact Or.inr (Or.inl (List.cons.inj h).1.symm)
      · exact Or.inr (Or.inr (List.cons.inj h).1.symm)
  rcases hmarks with rfl | rfl | rfl <;> decide

theorem takeColon?_self (rest : List Char) : takeColon? (':' :: rest) = some rest := rfl

/-- Six digits are as many millionths. -/
theorem microOf_padded {micro : Nat} (h : micro < 1000000) :
    microOf (padded 6 micro).toList = micro := by
  obtain ⟨hlength, -, hvalue⟩ := padded_digits (by decide) (show micro < 10 ^ 6 from h)
  unfold microOf
  dsimp only
  rw [List.take_of_length_le (by omega), hlength, hvalue]
  exact Nat.mul_one micro

theorem takeSeconds?_text {second micro : Nat} (hs : second < 60) (hm : micro < 1000000)
    (offset : Option Int) :
    takeSeconds? (':' :: ((padded 2 second).toList ++ (fractionChars micro ++ zoneChars offset)))
      = some ((second, micro), zoneChars offset) := by
  unfold takeSeconds?
  rw [takeColon?_self]
  dsimp only
  rw [takeTwo?_padded hs (by decide)]
  dsimp only [Option.bind_eq_bind, Option.bind_some]
  by_cases hzero : micro = 0
  · subst hzero
    rw [show fractionChars 0 = [] from rfl, List.nil_append]
    split
    · next c rest hzone =>
      obtain ⟨-, hpoint, hcomma⟩ := zoneChars_head hzone
      rw [if_neg (not_or.mpr ⟨hpoint, hcomma⟩)]
    · rfl
  · obtain ⟨hlength, hdigits, -⟩ := padded_digits (by decide) (show micro < 10 ^ 6 from hm)
    have hstops : (zoneChars offset).takeWhile isAsciiDigit = [] ∧
        (zoneChars offset).dropWhile isAsciiDigit = zoneChars offset := by
      cases hzone : zoneChars offset with
      | nil => exact ⟨rfl, rfl⟩
      | cons c rest => simp [(zoneChars_head hzone).1]
    have hsome : ¬(padded 6 micro).toList.isEmpty = true := by
      rw [List.isEmpty_iff_length_eq_zero, hlength]
      decide
    rw [show fractionChars micro = '.' :: (padded 6 micro).toList from if_neg hzero, List.cons_append]
    dsimp only
    rw [if_pos (Or.inl rfl), List.takeWhile_append_of_pos hdigits, List.dropWhile_append_of_pos hdigits,
      hstops.1, hstops.2, List.append_nil, if_neg hsome, microOf_padded hm]

theorem readOffset?_zoneChars {offset : Option Int}
    (h : ∀ minutes, offset = some minutes → minutes.natAbs < 1440) :
    readOffset? (zoneChars offset) = some offset := by
  rcases zoneChars_cases offset with ⟨rfl, hnone⟩ | ⟨rfl, hzero⟩ | ⟨minutes, rfl, hsome⟩
  · rw [hnone]; rfl
  · rw [hzero]; rfl
  · have hlt := h minutes rfl
    have hhours := takeTwo?_padded (show minutes.natAbs / 60 < 24 by omega) (by decide)
    have hminutes := takeTwo?_padded (show minutes.natAbs % 60 < 60 by omega) (by decide) []
    rw [List.append_nil] at hminutes
    have hread (sign : Char) (hsign : sign = '+' ∨ sign = '-') :
        readOffset? (sign :: ((padded 2 (minutes.natAbs / 60)).toList ++
          ':' :: (padded 2 (minutes.natAbs % 60)).toList)) =
          some (some (if sign = '+' then (minutes.natAbs : Int) else -minutes.natAbs)) := by
      unfold readOffset?
      split
      · next heq => cases heq
      · next heq => exact absurd (List.cons.inj heq).2 (by simp)
      · next heq => exact absurd (List.cons.inj heq).2 (by simp)
      · next heq =>
        obtain ⟨rfl, rfl⟩ := List.cons.inj heq
        rw [if_pos (hsign.imp id Or.inl), hhours]
        dsimp only [Option.bind_eq_bind, Option.bind_some]
        rw [takeColon?_self, Option.getD_some, hminutes]
        dsimp only [Option.bind_some]
        rw [if_pos (show ([] : List Char).isEmpty = true from rfl)]
        have hdistance : ((minutes.natAbs / 60 : Nat) * 60 + (minutes.natAbs % 60 : Nat) : Int)
            = minutes.natAbs := by omega
        rw [hdistance]
    rw [hsome]
    by_cases hneg : minutes < 0
    · have hbehind : -(minutes.natAbs : Int) = minutes := by omega
      rw [if_pos hneg, hread '-' (Or.inr rfl), if_neg (show '-' ≠ '+' by decide), hbehind]
    · have hahead : (minutes.natAbs : Int) = minutes := by omega
      rw [if_neg hneg, hread '+' (Or.inl rfl), if_pos rfl, hahead]

theorem readClock?_text {t : Timestamp} (h : t.Real) :
    readClock? t.date ('T' :: ((padded 2 t.hour).toList ++
      ':' :: ((padded 2 t.minute).toList ++ ':' :: ((padded 2 t.second).toList ++
        (fractionChars t.micro ++ zoneChars t.offset))))) = some t := by
  unfold readClock?
  dsimp only
  rw [if_pos (Or.inl rfl), takeTwo?_padded h.hour (by decide)]
  dsimp only [Option.bind_eq_bind, Option.bind_some]
  rw [takeColon?_self]
  dsimp only [Option.bind_some]
  rw [takeTwo?_padded h.minute (by decide)]
  dsimp only [Option.bind_some]
  rw [takeSeconds?_text h.second h.micro]
  dsimp only [Option.bind_some]
  rw [readOffset?_zoneChars h.offset]
  rfl

/-- **What is real is read back.** -/
theorem ofText_recordText {t : Timestamp} (h : t.Real) : ofText t.recordText.toList = .ok t := by
  rw [toList_recordText]
  unfold ofText
  rw [readDatePart_text h.date]
  dsimp only
  rw [readClock?_text h]
  exact if_neg h.date.positive

end InfluxKeeper
