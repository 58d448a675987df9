import InfluxKeeper.Json.Reader
import InfluxKeeper.Proofs.Success
import InfluxKeeper.Proofs.Time.RoundTrip
import InfluxKeeper.Value.Text

/-!
# Whole numbers in JSON

A JSON text may hold a whole number with more digits than are read. Reading stops there, and that is no flaw
of the text. All other numbers are short enough to have a text.

> `read_hasText`: what is read as JSON has a text.
> `read_tooLong`: reading stops at a whole number only if the text has a run of digits that is too long.

Both follow from what a reader comes to (`Within`): it leaves an end of the text that it was given, and stops
at a number in that text. Values, items and members are read by functions that call each other with one step of
fuel less, so one induction on the fuel covers them (`readValue_within`).
-/

namespace InfluxKeeper

open Text

/-! ## Texts of entries -/

/-- Entries that have a text have one after another is inserted under a text. -/
theorem Value.entriesHaveText_insert {entries : Entries} {key : String} {v : Value}
    (h : entriesHaveText entries = true) (hv : v.hasText = true) :
    entriesHaveText (entries.insert (.text key) v) = true := by
  induction entries with
  | nil => simp [Entries.insert, entriesHaveText, Scalar.hasText, hv]
  | cons e rest ih =>
    obtain ⟨k, old⟩ := e
    simp only [entriesHaveText, Bool.and_eq_true] at h
    unfold Entries.insert
    split
    · simp [entriesHaveText, h, hv]
    · simp [entriesHaveText, h, ih h.2]

namespace Json

/-- Digits that are too many for a number. -/
structure LongRun (run : List Char) : Prop where
  digits : ∀ c ∈ run, isAsciiDigit c = true
  long : maxDigits < run.length

/-! ## What a reader comes to -/

variable {α β : Type} {P : α → Prop} {Q : β → Prop} {s t : List Char}

/-- What a reader of a text comes to: something with a property and an end of the text, a flaw, or a number with
too many digits that stand in the text. -/
def Within (P : α → Prop) (s : List Char) : Except Stop (α × List Char) → Prop
  | .ok (a, rest) => P a ∧ rest <:+ s
  | .error (.flaw _ _) => True
  | .error (.tooLong n) => ∃ run, LongRun run ∧ run.length = n ∧ run <:+: s

theorem Within.ok {a : α} {rest : List Char} (h : P a) (hr : rest <:+ s) : Within P s (.ok (a, rest)) :=
  ⟨h, hr⟩

theorem Within.flaw {f : Flaw} {rest : List Char} : Within P s (.error (.flaw f rest)) := trivial

/-- What holds of the end of a text holds of the text. -/
theorem Within.mono {x : Except Stop (α × List Char)} (h : Within P s x) (hs : s <:+ t) : Within P t x := by
  match x with
  | .ok (a, rest) => exact ⟨h.1, h.2.trans hs⟩
  | .error (.flaw _ _) => trivial
  | .error (.tooLong n) =>
    obtain ⟨run, hrun, hlength, hinfix⟩ := h
    exact ⟨run, hrun, hlength, hinfix.trans hs.isInfix⟩

/-- A reader goes on with what another one leaves. -/
theorem Within.bind {x : Except Stop (α × List Char)} {f : α × List Char → Except Stop (β × List Char)}
    (h : Within P s x) (hf : ∀ a rest, P a → rest <:+ s → Within Q s (f (a, rest))) :
    Within Q s (x >>= f) := by
  match x with
  | .ok (a, rest) => exact hf a rest h.1 h.2
  | .error (.flaw _ _) => trivial
  | .error (.tooLong n) => exact h

theorem skipBlanks_suffix (s : List Char) : skipBlanks s <:+ s := List.dropWhile_suffix _

/-! ## Texts and numbers -/

theorem takeCode_within (s : List Char) : Within (fun _ => True) s (takeCode s) := by
  unfold takeCode
  split
  · split
    · exact .flaw
    · exact .ok trivial (List.drop_suffix 4 s)
  · exact .flaw

theorem takeCodeEscape_within (s : List Char) : Within (fun _ => True) s (takeCodeEscape s) := by
  unfold takeCodeEscape
  refine (takeCode_within s).bind fun high rest _ hrest => ?_
  dsimp only
  split
  · split
    · next more =>
      have hmore : more <:+ s := ((List.suffix_cons _ _).trans (List.suffix_cons _ _)).trans hrest
      split
      · exact .ok trivial hrest
      · refine ((takeCode_within more).mono hmore).bind fun low rest' _ hrest' => ?_
        dsimp only
        split
        · exact .ok trivial hrest'
        · exact .ok trivial hrest
    · exact .ok trivial hrest
  · split
    · exact .ok trivial hrest
    · exact .ok trivial hrest

theorem readText_within (fuel : Nat) (opening letters s : List Char) :
    Within (fun _ => True) s (readText fuel opening letters s) := by
  induction fuel generalizing letters s with
  | zero => exact .flaw
  | succ fuel ih =>
    cases s with
    | nil => exact .flaw
    | cons c rest =>
      have hrest : rest <:+ c :: rest := List.suffix_cons c rest
      unfold readText
      split
      · exact .ok trivial hrest
      split
      · split
        · exact .flaw
        · next code =>
          have hcode : code <:+ c :: 'u' :: code := (List.suffix_cons _ _).trans hrest
          exact ((takeCodeEscape_within code).mono hcode).bind fun letter rest' _ hrest' =>
            (ih _ rest').mono hrest'
        · next e more _ =>
          have hmore : more <:+ c :: e :: more := (List.suffix_cons _ _).trans hrest
          split
          · exact (ih _ more).mono hmore
          · exact .flaw
      split
      · exact .flaw
      · exact (ih _ rest).mono hrest

/-- A whole part that is too long is a run of digits in front of the text. -/
theorem longRun_wholePart (h : maxDigits < (wholePart s).length) :
    LongRun (wholePart s) ∧ wholePart s <:+: s := by
  have hwhole : wholePart s = s.takeWhile isAsciiDigit := by
    unfold wholePart at h ⊢
    split
    · simp [maxDigits] at h
    · rfl
  rw [hwhole] at h ⊢
  refine ⟨⟨fun c hc => ?_, h⟩, (List.takeWhile_prefix _).isInfix⟩
  exact List.all_eq_true.mp List.all_takeWhile c hc

theorem digitsValue_lt_of_length_le {digits : List Char} {limit : Nat} (h : digits.length ≤ limit) :
    digitsValue digits < Nat.pow 10 limit :=
  (digitsValue_lt digits).trans_le (Nat.pow_le_pow_right (by decide) h)

theorem hasText_withSign {negative : Bool} {digits : List Char} (h : digits.length ≤ maxDigits) :
    (Value.int (withSign negative (digitsValue digits))).hasText = true := by
  have habs : (withSign negative (digitsValue digits)).natAbs = digitsValue digits := by
    unfold withSign
    split
    · rw [Int.natAbs_neg, Int.natAbs_natCast]
    · exact Int.natAbs_natCast _
  show decide ((withSign negative (digitsValue digits)).natAbs < Nat.pow 10 maxDigits) = true
  rw [habs]
  exact decide_eq_true (digitsValue_lt_of_length_le h)

theorem readNumber_within (start : List Char) (negative : Bool) (s : List Char) :
    Within (fun v : Value => v.hasText = true) s (readNumber start negative s) := by
  unfold readNumber
  generalize (if negative = true then ['-'] else []) = sign
  dsimp only
  split
  · exact .flaw
  split
  · split
    · next hlong =>
      obtain ⟨hrun, hinfix⟩ := longRun_wholePart hlong
      exact ⟨wholePart s, hrun, rfl, hinfix⟩
    · next hshort =>
      refine .ok (hasText_withSign (Nat.le_of_not_lt hshort)) ?_
      exact ((List.drop_suffix _ _).trans (List.drop_suffix _ _)).trans (List.drop_suffix _ _)
  · split
    · refine .ok rfl ?_
      exact ((List.drop_suffix _ _).trans (List.drop_suffix _ _)).trans (List.drop_suffix _ _)
    · exact .flaw

theorem hasText_of_mem_words : ∀ w ∈ words, w.2.hasText = true := by
  intro w hw
  simp only [words, List.mem_cons, List.not_mem_nil, or_false] at hw
  rcases hw with rfl | rfl | rfl | rfl | rfl | rfl <;> rfl

theorem readPlain_within (s : List Char) :
    Within (fun v : Value => v.hasText = true) s (readPlain s) := by
  unfold readPlain
  split
  · next word value hw =>
    exact .ok (hasText_of_mem_words _ (List.mem_of_find?_eq_some hw)) (List.drop_suffix _ _)
  · split
    · next rest _ => exact (readNumber_within _ true rest).mono (List.suffix_cons _ _)
    · exact readNumber_within s false s

/-! ## Values -/

/-- Whatever is read with some fuel comes to values that have a text. -/
theorem readValue_within (fuel : Nat) :
    (∀ s, Within (fun v : Value => v.hasText = true) s (readValue fuel s)) ∧
    (∀ s, Within (fun items => Value.itemsHaveText items = true) s (readItems fuel s)) ∧
    (∀ entries s, Value.entriesHaveText entries = true →
      Within (fun all => Value.entriesHaveText all = true) s (readMembers fuel entries s)) := by
  induction fuel with
  | zero =>
    refine ⟨fun s => ?_, fun s => ?_, fun entries s _ => ?_⟩
    · rw [readValue]; exact .flaw
    · rw [readItems]; exact .flaw
    · rw [readMembers]; exact .flaw
  | succ fuel ih =>
    obtain ⟨ihValue, ihItems, ihMembers⟩ := ih
    refine ⟨fun s => ?_, fun s => ?_, fun entries s hentries => ?_⟩
    · unfold readValue
      split
      · next rest =>
        refine ((readText_within _ _ _ rest).mono (List.suffix_cons _ _)).bind fun t rest' _ hrest' => ?_
        exact .ok rfl hrest'
      · next rest =>
        have hblanks : skipBlanks rest <:+ '\x7b' :: rest := (skipBlanks_suffix rest).trans (List.suffix_cons _ _)
        split
        · next more hmore =>
          rw [hmore] at hblanks
          exact .ok rfl ((List.suffix_cons _ _).trans hblanks)
        · refine ((ihMembers [] _ rfl).mono hblanks).bind fun all rest' hall hrest' => ?_
          exact .ok hall hrest'
      · next rest =>
        have hblanks : skipBlanks rest <:+ '[' :: rest := (skipBlanks_suffix rest).trans (List.suffix_cons _ _)
        split
        · next more hmore =>
          rw [hmore] at hblanks
          exact .ok rfl ((List.suffix_cons _ _).trans hblanks)
        · refine ((ihItems _).mono hblanks).bind fun items rest' hitems hrest' => ?_
          exact .ok hitems hrest'
      · exact readPlain_within s
    · unfold readItems
      refine (ihValue s).bind fun item rest hitem hrest => ?_
      have hblanks : skipBlanks rest <:+ s := (skipBlanks_suffix rest).trans hrest
      dsimp only
      split
      · next more hmore =>
        rw [hmore] at hblanks
        exact .ok (by simp [Value.itemsHaveText, hitem]) ((List.suffix_cons _ _).trans hblanks)
      · next more hmore =>
        rw [hmore] at hblanks
        have hnext : skipBlanks more <:+ s :=
          ((skipBlanks_suffix more).trans (List.suffix_cons _ _)).trans hblanks
        refine ((ihItems _).mono hnext).bind fun items rest' hitems hrest' => ?_
        exact .ok (by simp [Value.itemsHaveText, hitem, hitems]) hrest'
      · exact .flaw
    · unfold readMembers
      split
      · next rest =>
        refine ((readText_within _ _ _ rest).mono (List.suffix_cons _ _)).bind fun key rest' _ hrest' => ?_
        have hblanks : skipBlanks rest' <:+ '"' :: rest := (skipBlanks_suffix rest').trans hrest'
        dsimp only
        split
        · next more hmore =>
          rw [hmore] at hblanks
          have hvalue : skipBlanks more <:+ '"' :: rest :=
            ((skipBlanks_suffix more).trans (List.suffix_cons _ _)).trans hblanks
          refine ((ihValue _).mono hvalue).bind fun value rest'' hv hrest'' => ?_
          have hinsert : Value.entriesHaveText (Entries.insert (.text key) value entries) = true :=
            Value.entriesHaveText_insert hentries hv
          have hafter : skipBlanks rest'' <:+ '"' :: rest := (skipBlanks_suffix rest'').trans hrest''
          dsimp only
          split
          · next last hlast =>
            rw [hlast] at hafter
            exact .ok hinsert ((List.suffix_cons _ _).trans hafter)
          · next last hlast =>
            rw [hlast] at hafter
            have hnext : skipBlanks last <:+ '"' :: rest :=
              ((skipBlanks_suffix last).trans (List.suffix_cons _ _)).trans hafter
            exact (ihMembers _ _ hinsert).mono hnext
          · exact .flaw
        · exact .flaw
      · exact .flaw

/-- What a text comes to up to the blanks around it. -/
theorem readAll_within (s : List Char) : Within (fun v : Value => v.hasText = true) s
    (readValue (2 * s.length + 2) (skipBlanks s)) :=
  ((readValue_within _).1 _).mono (skipBlanks_suffix s)

/-- **What is read as JSON has a text.** -/
theorem read_hasText {s : String} {v : Value} (h : read s = .ok v) : v.hasText = true := by
  unfold read at h
  split at h
  · next value hall =>
    cases h
    unfold readAll at hall
    split at hall
    · cases hall
    · obtain ⟨⟨value', rest⟩, hvalue, hall⟩ := bind_ok_iff.mp hall
      have hwithin := readAll_within s.toList
      rw [hvalue] at hwithin
      dsimp only at hall
      split at hall
      · cases hall; exact hwithin.1
      · cases hall
  · cases h
  · cases h

/-- **Reading stops at a whole number only if that is a run of too many digits in the text.** -/
theorem read_tooLong {s : String} {n : Nat} (h : read s = .error (.tooLong n)) :
    ∃ run, LongRun run ∧ run.length = n ∧ run <:+: s.toList := by
  unfold read at h
  split at h
  · cases h
  · cases h
  · next digits hall =>
    cases h
    unfold readAll at hall
    split at hall
    · cases hall
    · rcases bind_error_iff.mp hall with hvalue | ⟨⟨value, rest⟩, -, hall⟩
      · have hwithin := readAll_within s.toList
        rw [hvalue] at hwithin
        exact hwithin
      · dsimp only at hall
        split at hall
        · cases hall
        · cases hall

end Json

end InfluxKeeper
