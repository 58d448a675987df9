import InfluxKeeper.Yaml.Scalar
import InfluxKeeper.Yaml.Tokens

/-!
# Where faults of tokens come from

A YAML text is malformed, or spells a scalar that no value has, or it has a flaw where its octets are no text or a
character is not allowed. Nothing else can go wrong (`Fault.Arises`).

> `tokens_arises`: the fault that tokens end with arises from their text.

Of a lexeme it is enough that reading it is safe (`Safe`). A step of the lexer also keeps the flaw of the text
(`Steps`, a case of `Sound`), so that the fault of a later step is one of the same text.
-/

namespace InfluxKeeper.Yaml

open Text

/-- A scalar that no value has, as a text can spell it: under a tag that it does not fit, as a mapping, by an escape
that no character has, or as a number of a directive with too many digits. -/
inductive ScalarFault.Arises : ScalarFault → Prop
  | boolean {text : String} {f : ScalarFault} (h : readBoolean text = .error f) : Arises f
  | integer {text : String} {f : ScalarFault} (h : readInteger text = .error f) : Arises f
  | float {text : String} {f : ScalarFault} (h : readFloat text = .error f) : Arises f
  | time {text : String} {f : ScalarFault} (h : readTime text = .error f) : Arises f
  | timeMapping : Arises .timeMapping
  | code {n : Nat} {f : ScalarFault} (h : charOfCode n = .error (.scalar f)) : Arises f
  | directive {digits : List Char} (only : digits.all isAsciiDigit = true) (long : maxDigits < digits.length) :
      Arises (.longInteger digits.length)

/-- A fault that arises from a text with a flaw or without one. -/
inductive Fault.Arises (flaw : Option Fault) : Fault → Prop
  | malformed : Arises flaw .malformed
  | ended : Arises flaw .ended
  | scalar {f : ScalarFault} (h : f.Arises) : Arises flaw (.scalar f)
  | flaw {f : Fault} (h : flaw = some f) : Arises flaw f

/-! ## What a step comes to -/

variable {α β : Type} {flaw : Option Fault}

/-- A step that fails does so with a fault that arises. -/
def Safe (flaw : Option Fault) (x : Except Fault α) : Prop := ∀ f, x = .error f → f.Arises flaw

@[simp] theorem safe_ok (a : α) : Safe flaw (.ok a) := nofun

@[simp] theorem safe_pure (a : α) : Safe flaw (pure a) := nofun

@[simp] theorem safe_error_iff {f : Fault} : Safe flaw (.error f : Except Fault α) ↔ f.Arises flaw :=
  ⟨fun h => h f rfl, fun h _ hf => Except.error.inj hf ▸ h⟩

@[simp] theorem safe_malformed : Safe flaw (malformed : Except Fault α) := safe_error_iff.mpr .malformed

@[simp] theorem safe_fail (c : Cursor) : Safe flaw (c.fail : Except Fault α) := by
  unfold Cursor.fail
  rw [safe_error_iff]
  split
  · exact .ended
  · exact .malformed

@[simp] theorem safe_map {x : Except Fault α} {f : α → β} : Safe flaw (x.map f) ↔ Safe flaw x := by
  cases x with
  | ok a => exact iff_of_true nofun nofun
  | error fault => exact safe_error_iff.trans safe_error_iff.symm

@[simp] theorem safe_functor_map {x : Except Fault α} {f : α → β} : Safe flaw (f <$> x) ↔ Safe flaw x :=
  safe_map

@[simp] theorem safe_ite {c : Prop} [Decidable c] {x y : Except Fault α} :
    Safe flaw (if c then x else y) ↔ (c → Safe flaw x) ∧ (¬c → Safe flaw y) := by
  split
  · next hc => exact ⟨fun h => ⟨fun _ => h, fun hn => absurd hc hn⟩, fun h => h.1 hc⟩
  · next hc => exact ⟨fun h => ⟨fun hp => absurd hp hc, fun _ => h⟩, fun h => h.2 hc⟩

@[simp] theorem safe_bind {x : Except Fault α} {f : α → Except Fault β} :
    Safe flaw (x >>= f) ↔ Safe flaw x ∧ ∀ a, x = .ok a → Safe flaw (f a) := by
  cases x with
  | ok a => exact ⟨fun h => ⟨safe_ok a, fun b hb => by cases hb; exact h⟩, fun h => h.2 a rfl⟩
  | error fault => exact ⟨fun h => ⟨safe_error_iff.mpr (h fault rfl), nofun⟩,
      fun h => safe_error_iff.mpr (h.1 fault rfl)⟩

/-- A step that is safe and comes to something with a property, if it comes to anything. -/
structure Sound (flaw : Option Fault) (P : α → Prop) (x : Except Fault α) : Prop where
  safe : Safe flaw x
  holds : ∀ a, x = .ok a → P a

namespace Sound

variable {P : α → Prop} {Q : β → Prop}

theorem ok {a : α} (h : P a) : Sound flaw P (.ok a) := ⟨safe_ok a, fun _ ha => by cases ha; exact h⟩

theorem malformed : Sound flaw P malformed := ⟨safe_malformed, nofun⟩

theorem ite {c : Prop} [Decidable c] {x y : Except Fault α} (hx : Sound flaw P x) (hy : Sound flaw P y) :
    Sound flaw P (if c then x else y) := by
  split
  · exact hx
  · exact hy

/-- A step goes on with what another one is safe to find. -/
theorem read {x : Except Fault α} {f : α → Except Fault β} (h : Safe flaw x)
    (hf : ∀ a, x = .ok a → Sound flaw Q (f a)) : Sound flaw Q (x >>= f) := by
  cases x with
  | ok a => exact hf a rfl
  | error fault => exact ⟨safe_error_iff.mpr (h fault rfl), nofun⟩

theorem bind {x : Except Fault α} {f : α → Except Fault β} (h : Sound flaw P x)
    (hf : ∀ a, P a → Sound flaw Q (f a)) : Sound flaw Q (x >>= f) :=
  .read h.safe fun a ha => hf a (h.holds a ha)

end Sound

/-! ## Lexemes -/

@[simp] theorem safe_readName (c : Cursor) : Safe flaw (readName c) := by
  simp [readName]

@[simp] theorem safe_readOctets (fuel : Nat) (octets : List UInt8) (c : Cursor) :
    Safe flaw (readOctets fuel octets c) := by
  induction fuel generalizing octets c with
  | zero => exact safe_malformed
  | succ fuel ih =>
    unfold readOctets
    split
    · split
      · exact ih _ _
      · exact safe_fail _
    · exact safe_ok _

@[simp] theorem safe_readTagText (fuel : Nat) (text : List Char) (c : Cursor) :
    Safe flaw (readTagText fuel text c) := by
  induction fuel generalizing text c with
  | zero => exact safe_malformed
  | succ fuel ih =>
    unfold readTagText
    split
    · split
      · next fault hfault => exact safe_error_iff.mpr (safe_readOctets _ _ _ fault hfault)
      · split
        · exact ih _ _
        · exact safe_fail _
    · simp [ih]

@[simp] theorem safe_readTagUri (c : Cursor) : Safe flaw (readTagUri c) := by
  simp [readTagUri]

@[simp] theorem safe_readTagHandle (c : Cursor) : Safe flaw (readTagHandle c) := by
  simp [readTagHandle]

@[simp] theorem safe_readTag (c : Cursor) : Safe flaw (readTag c) := by
  simp [readTag]

@[simp] theorem safe_readDirectiveNumber (c : Cursor) : Safe flaw (readDirectiveNumber flaw c) := by
  unfold readDirectiveNumber
  dsimp only
  split
  · exact safe_fail _
  split
  · next long =>
    have arises : Fault.Arises flaw (.scalar (.longInteger (c.take isAsciiDigit).1.length)) :=
      .scalar (.directive List.all_takeWhile long)
    rw [safe_error_iff]
    split
    · cases flaw with
      | none => exact arises
      | some f => exact .flaw rfl
    · exact arises
  · exact safe_ok _

@[simp] theorem safe_readLineRest (c : Cursor) : Safe flaw (readLineRest c) := by
  simp [readLineRest]

@[simp] theorem safe_readDirective (c : Cursor) : Safe flaw (readDirective flaw c) := by
  simp [readDirective]

@[simp] theorem safe_readBlockMarks (c : Cursor) : Safe flaw (readBlockMarks c) := by
  unfold readBlockMarks
  split
  · refine safe_bind.mpr ⟨?_, fun _ _ => by simp⟩
    dsimp only
    split <;> simp
  · refine safe_bind.mpr ⟨?_, fun _ _ => ?_⟩
    all_goals
      dsimp only
      split <;> simp

@[simp] theorem safe_readBlockScalar (parent : Int) (folded : Bool) (c : Cursor) :
    Safe flaw (readBlockScalar parent folded c) := by
  simp [readBlockScalar]

/-- An escape beyond all characters is a scalar that no value has. -/
@[simp] theorem safe_charOfCode (n : Nat) : Safe flaw (charOfCode n) := by
  intro f h
  cases f with
  | malformed => exact .malformed
  | ended => exact .ended
  | scalar f => exact .scalar (.code h)
  | notText e =>
    unfold charOfCode at h
    split at h
    · cases h
    split at h
    · cases h
    split at h
    · cases h
    · cases h

@[simp] theorem safe_readQuotedBreaks (fuel : Nat) (breaks : List Char) (c : Cursor) :
    Safe flaw (readQuotedBreaks fuel breaks c) := by
  induction fuel generalizing breaks c with
  | zero => exact safe_malformed
  | succ fuel ih => simp [readQuotedBreaks, ih]

@[simp] theorem safe_readEscape (c : Cursor) : Safe flaw (readEscape c) := by
  unfold readEscape
  split
  · exact safe_ok _
  · dsimp only
    split
    · simp
    · exact safe_fail _
  · simp

@[simp] theorem safe_readQuotedSpaces (c : Cursor) : Safe flaw (readQuotedSpaces c) := by
  simp [readQuotedSpaces]

@[simp] theorem safe_readQuoted (fuel : Nat) (double : Bool) (text : List Char) (c : Cursor) :
    Safe flaw (readQuoted fuel double text c) := by
  induction fuel generalizing text c with
  | zero => exact safe_malformed
  | succ fuel ih =>
    unfold readQuoted
    generalize (if double = true then '"' else '\'') = quote
    dsimp only
    split
    · split
      · exact ih _ _
      · next fault hfault => exact safe_error_iff.mpr (safe_readQuotedSpaces _ fault hfault)
    split
    · exact ih _ _
    split
    · exact safe_ok _
    split
    · split
      · exact ih _ _
      · next fault hfault => exact safe_error_iff.mpr (safe_readEscape _ fault hfault)
    · exact ih _ _

@[simp] theorem safe_readQuotedScalar (double : Bool) (c : Cursor) : Safe flaw (readQuotedScalar double c) := by
  simp [readQuotedScalar]

/-! ## Tokens -/

namespace Lexer

/-- A step of the lexer of a text: a lexer of the same text, or a fault that arises from it. -/
abbrev Steps (flaw : Option Fault) (x : Except Fault Lexer) : Prop := Sound flaw (fun l => l.flaw = flaw) x

variable {l : Lexer}

@[simp] theorem flaw_closeBlocks (l : Lexer) (column : Int) (outer : List Int) :
    (l.closeBlocks column outer).flaw = l.flaw := by
  induction outer generalizing l with
  | nil => rfl
  | cons indent rest ih =>
    unfold closeBlocks
    split
    · exact ih _
    · rfl

@[simp] theorem flaw_unwind (l : Lexer) (column : Int) : (l.unwind column).flaw = l.flaw := by
  unfold unwind
  split
  · exact l.flaw_closeBlocks _ _
  · rfl

@[simp] theorem flaw_openBlock (l : Lexer) (column : Nat) : (l.openBlock column).2.flaw = l.flaw := by
  unfold openBlock
  split
  · rfl
  · rfl

@[simp] theorem flaw_skipToToken (l : Lexer) (fuel : Nat) : (l.skipToToken fuel).flaw = l.flaw := by
  induction fuel generalizing l with
  | zero => rfl
  | succ fuel ih =>
    unfold skipToToken
    generalize l.cursor.skipWhile (· == ' ') = c
    dsimp only
    generalize (if c.peek = '#' then c.skipWhile fun x => !isBreakOrEnd x else c) = d
    split
    · exact ih _
    · rfl

section

variable (h : l.flaw = flaw)

include h

theorem dropStale_steps : Steps flaw l.dropStale := by
  unfold dropStale
  split
  · exact .malformed
  · exact .ok h

theorem dropKey_steps : Steps flaw l.dropKey := by
  unfold dropKey
  split
  · split
    · exact .malformed
    · exact .ok h
  · exact .ok h

theorem noteKey_steps : Steps flaw l.noteKey := by
  unfold noteKey
  split
  · exact (dropKey_steps h).bind fun l hl => .ok hl
  · exact .ok h

theorem dropKey_unwind_steps (column : Int) : Steps flaw (l.unwind column).dropKey :=
  dropKey_steps ((l.flaw_unwind column).trans h)

theorem finish_steps : Steps flaw l.finish :=
  (dropKey_unwind_steps h _).bind fun _ hl => .ok hl

theorem directive_steps : Steps flaw l.directive :=
  (dropKey_unwind_steps h _).bind fun _ hl => .read (hl ▸ safe_readDirective _) fun _ _ => .ok hl

theorem separator_steps (t : Token) : Steps flaw (l.separator t) :=
  (dropKey_unwind_steps h _).bind fun _ hl => .ok hl

theorem openBracket_steps (t : Token) : Steps flaw (l.openBracket t) :=
  (noteKey_steps h).bind fun _ hl => .ok hl

theorem closeBracket_steps (t : Token) : Steps flaw (l.closeBracket t) :=
  (dropKey_steps h).bind fun _ hl => .ok hl

theorem comma_steps : Steps flaw l.comma :=
  Sound.bind (dropKey_steps h) fun _ hl => .ok hl

theorem openFor_steps (t : Token) : Steps flaw (l.openFor t) := by
  have hopen := (l.flaw_openBlock l.cursor.column).trans h
  unfold openFor
  split
  · split
    · dsimp only
      split
      · exact .ok hopen
      · exact .ok hopen
    · exact .malformed
  · exact .ok h

theorem dash_steps : Steps flaw l.dash :=
  (openFor_steps h _).bind fun _ hl => Sound.bind (dropKey_steps hl) fun _ hl' => .ok hl'

theorem question_steps : Steps flaw l.question :=
  (openFor_steps h _).bind fun _ hl => Sound.bind (dropKey_steps hl) fun _ hl' => .ok hl'

theorem colon_steps : Steps flaw l.colon := by
  unfold colon
  split
  · next k _ =>
    refine .ok ?_
    show Lexer.flaw (if _ then _ else _) = flaw
    split
    · show Lexer.flaw (if _ then _ else _) = flaw
      split
      · exact (flaw_openBlock _ _).trans h
      · exact (flaw_openBlock _ _).trans h
    · exact h
  · exact (openFor_steps h _).bind fun _ hl => Sound.bind (dropKey_steps hl) fun _ hl' => .ok hl'

theorem nodePart_steps {read : Cursor → Except Fault (Token × Cursor)} (hread : ∀ c, Safe flaw (read c)) :
    Steps flaw (l.nodePart read) :=
  (noteKey_steps h).bind fun _ hl => .read (hread _) fun _ _ => .ok hl

theorem blockScalar_steps (folded : Bool) : Steps flaw (l.blockScalar folded) :=
  Sound.bind (dropKey_steps h) fun _ hl => .read (safe_readBlockScalar _ _ _) fun _ _ => .ok hl

theorem plainScalar_steps : Steps flaw l.plainScalar :=
  (noteKey_steps h).bind fun _ hl => .ok hl

theorem token_steps : Steps flaw l.token := by
  unfold token
  refine .ite (finish_steps h) <| .ite (directive_steps h) <| .ite (separator_steps h _) <|
    .ite (separator_steps h _) <| .ite (openBracket_steps h _) <| .ite (openBracket_steps h _) <|
    .ite (closeBracket_steps h _) <| .ite (closeBracket_steps h _) <| .ite (comma_steps h) <|
    .ite (dash_steps h) <| .ite (question_steps h) <| .ite (colon_steps h) <|
    .ite (nodePart_steps h fun c => ?_) <| .ite (nodePart_steps h fun c => ?_) <|
    .ite (nodePart_steps h safe_readTag) <| .ite (blockScalar_steps h _) <| .ite (blockScalar_steps h _) <|
    .ite (nodePart_steps h fun c => ?_) <| .ite (nodePart_steps h fun c => ?_) <|
    .ite (plainScalar_steps h) .malformed
  all_goals simp

theorem withinText_steps : Steps flaw l.withinText := by
  unfold withinText
  split
  · next f hf =>
    split
    · exact ⟨safe_error_iff.mpr (.flaw (h ▸ hf)), nofun⟩
    · exact .ok h
  · exact .ok h

theorem advance_steps : Steps flaw l.advance := by
  unfold advance
  refine (withinText_steps ((l.flaw_skipToToken _).trans h)).bind fun l₁ h₁ => ?_
  refine (dropStale_steps h₁).bind fun l₂ h₂ => ?_
  refine (token_steps ((l₂.flaw_unwind _).trans h₂)).bind fun l₃ h₃ => ?_
  exact withinText_steps h₃

end

/-- The fault of the text that a fault is arises as well. -/
theorem arises_blame {fault : Fault} (h : l.flaw = flaw) (hf : fault.Arises flaw) :
    (l.blame fault).Arises flaw := by
  unfold blame
  split
  · rw [h]
    cases flaw with
    | none => exact .malformed
    | some f => exact .flaw rfl
  · exact hf

theorem run_arises (h : l.flaw = flaw) (fuel : Nat) {fault : Fault} (hf : (l.run fuel).2 = some fault) :
    fault.Arises flaw := by
  induction fuel generalizing l with
  | zero => cases hf; exact .malformed
  | succ fuel ih =>
    unfold run at hf
    split at hf
    · next stale hstale => cases hf; exact (dropStale_steps h).safe _ hstale
    · next l₁ hl₁ =>
      have h₁ := (dropStale_steps h).holds l₁ hl₁
      split at hf
      · next fault' hfault => cases hf; exact arises_blame h₁ ((advance_steps h₁).safe _ hfault)
      · next l₂ hl₂ =>
        split at hf
        · cases hf
        · exact ih ((advance_steps h₁).holds l₂ hl₂) hf

end Lexer

/-- The fault that tokens end with arises from their text. -/
theorem tokens_arises {s : Source} {fault : Fault} (h : (tokens s).2 = some fault) : fault.Arises s.flaw :=
  Lexer.run_arises (show (Lexer.start s).flaw = s.flaw from rfl) _ h

end InfluxKeeper.Yaml
