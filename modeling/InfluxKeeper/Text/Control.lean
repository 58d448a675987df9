/-!
# Control sequences of terminals

A control sequence sets colours and the like: the escape character, a bracket, characters for its numbers,
characters between them and the end, and the letter or sign that ends it. A link is a longer sequence
around the text that a terminal shows for it. Output that goes to no terminal is written without control
sequences; the width of a text is that of what a terminal shows of it.

Main statements: `withoutControls_eq_self` and `shownText_eq_self` say that a text without escape
characters is left alone.
-/

namespace InfluxKeeper.Text

/-- Whether a character may stand for a number in a control sequence. -/
def isControlNumber (c : Char) : Bool := '0' ≤ c && c ≤ '?'

/-- Whether a character may stand between the numbers and the end of a control sequence. -/
def isControlMiddle (c : Char) : Bool := ' ' ≤ c && c ≤ '/'

/-- Whether a character ends a control sequence. -/
def isControlEnd (c : Char) : Bool := '@' ≤ c && c ≤ '~'

/-- What follows the control sequence that a text starts with. -/
def afterControl? : List Char → Option (List Char)
  | '\x1b' :: '[' :: rest =>
    match (rest.dropWhile isControlNumber).dropWhile isControlMiddle with
    | c :: after => if isControlEnd c then some after else none
    | [] => none
  | _ => none

/-! ## Links -/

/-- Where a reader of the settings of a link is: before a key, in a key, behind its equals sign, behind
the first character of a value, or further in it, where the key of the next setting may have begun. -/
inductive LinkPlace
  | start
  | key
  | equals
  | value
  | more

/-- Whether a character may stand in the key or the value of a setting. -/
def isLinkWord (c : Char) : Bool := c.isAlphanum || c == '_' || 0x7F < c.toNat

/-- What follows the settings of a link and the semicolon behind them. -/
def afterSettings? (place : LinkPlace) : List Char → Option (List Char)
  | [] => none
  | c :: rest =>
    match place with
    | .start => if c = ';' then some rest else if isLinkWord c then afterSettings? .key rest else none
    | .key =>
      if c = '=' then afterSettings? .equals rest
      else if isLinkWord c then afterSettings? .key rest else none
    | .equals => if isLinkWord c then afterSettings? .value rest else none
    | .value =>
      if c = ';' then some rest else if c = ':' then afterSettings? .start rest
      else if isLinkWord c then afterSettings? .more rest else none
    | .more =>
      if c = ';' then some rest else if c = ':' then afterSettings? .start rest
      else if c = '=' then afterSettings? .equals rest
      else if isLinkWord c then afterSettings? .more rest else none

/-- What follows a given part of a text. -/
def after? (part : List Char) (s : List Char) : Option (List Char) :=
  if part.isPrefixOf s then some (s.drop part.length) else none

/-- A run of at least one character up to the next escape character, and what follows it. -/
def untilEscape? (s : List Char) : Option (List Char × List Char) :=
  let run := s.takeWhile (· != '\x1b')
  if run.isEmpty then none else some (run, s.drop run.length)

/-- The text of the link that a text starts with, and what follows the link. -/
def link? (s : List Char) : Option (List Char × List Char) := do
  let rest ← after? "\x1b]8;".toList s
  let rest ← afterSettings? .start rest
  let (_, rest) ← untilEscape? rest
  let rest ← after? "\x1b\\".toList rest
  let (text, rest) ← untilEscape? rest
  let rest ← after? "\x1b]8;;\x1b\\".toList rest
  return (text, rest)

/-! ## Texts -/

/-- What a sequence at the start of a text leaves of itself, and what follows it. -/
abbrev SequenceReader := List Char → Option (List Char × List Char)

/-- Control sequences, which leave nothing. -/
def controlReader : SequenceReader := fun s => (afterControl? s).map ([], ·)

/-- Control sequences and links. -/
def shownReader : SequenceReader := fun s => (controlReader s).or (link? s)

/-- A text in which sequences are replaced by what they leave, when some characters of one are still to be
left out. -/
def replaceSequences (read : SequenceReader) (left : Nat) : List Char → List Char
  | [] => []
  | c :: rest =>
    if 0 < left then replaceSequences read (left - 1) rest
    else
      match read (c :: rest) with
      | none => c :: replaceSequences read 0 rest
      | some (kept, after) => kept ++ replaceSequences read (rest.length - after.length) rest

/-- A text without control sequences. -/
def withoutControls (s : List Char) : List Char := replaceSequences controlReader 0 s

/-- What a terminal shows of a text. -/
def shownText (s : List Char) : List Char := replaceSequences shownReader 0 s

/-- Whether a text has a control sequence or a link. -/
def hasSequence : List Char → Bool
  | [] => false
  | c :: rest => (shownReader (c :: rest)).isSome || hasSequence rest

/-- Without an escape character no sequence starts. -/
theorem shownReader_of_ne {c : Char} (h : c ≠ '\x1b') (rest : List Char) :
    shownReader (c :: rest) = none := by
  have control : afterControl? (c :: rest) = none := by
    unfold afterControl?
    split
    · rename_i heq
      exact absurd (List.cons.inj heq).1 h
    · rfl
  have opening : after? "\x1b]8;".toList (c :: rest) = none := by
    have letters : "\x1b]8;".toList = ['\x1b', ']', '8', ';'] := rfl
    have apart : ('\x1b' == c) = false := beq_false_of_ne (Ne.symm h)
    rw [after?, letters, List.isPrefixOf, apart]
    rfl
  have link : link? (c :: rest) = none := by
    rw [link?, opening]
    rfl
  simp [shownReader, controlReader, control, link]

/-- A text is left alone by a reader that finds nothing where no escape character is. -/
theorem replaceSequences_eq_self {read : SequenceReader}
    (quiet : ∀ c rest, c ≠ '\x1b' → read (c :: rest) = none) {s : List Char} (h : '\x1b' ∉ s) :
    replaceSequences read 0 s = s := by
  induction s with
  | nil => rfl
  | cons c rest ih =>
    have hc : c ≠ '\x1b' := fun e => h (e ▸ List.mem_cons_self)
    simp [replaceSequences, quiet c rest hc, ih fun hm => h (List.mem_cons_of_mem _ hm)]

/-- A text without escape characters has no control sequence. -/
theorem withoutControls_eq_self {s : List Char} (h : '\x1b' ∉ s) : withoutControls s = s := by
  refine replaceSequences_eq_self (fun c rest hc => ?_) h
  have := shownReader_of_ne hc rest
  simp only [shownReader, Option.or_eq_none_iff] at this
  exact this.1

/-- A text without escape characters is shown as it stands. -/
theorem shownText_eq_self {s : List Char} (h : '\x1b' ∉ s) : shownText s = s :=
  replaceSequences_eq_self (fun _ _ hc => shownReader_of_ne hc _) h

end InfluxKeeper.Text
