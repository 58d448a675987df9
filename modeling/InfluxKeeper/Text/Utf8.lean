import InfluxKeeper.Text.Quoted

/-!
# UTF-8

Octets are read as text by a machine that holds at most one character under way. What is wrong with
octets that are no text is reported with their position: an octet that starts no character, one that
does not continue the character under way, or an end in the middle of a character.
-/

namespace InfluxKeeper.Text.Utf8

/-- What is wrong with octets that are no text. -/
inductive Flaw
  | badStart
  | badContinuation
  | truncated
  deriving DecidableEq, Repr

/-- The wording of a flaw. -/
def Flaw.message : Flaw → String
  | .badStart => "invalid start byte"
  | .badContinuation => "invalid continuation byte"
  | .truncated => "unexpected end of data"

/-- Where octets stop being text: the position of the character at fault, the octets of it that were
read, and the flaw. -/
structure Error where
  position : Nat
  octets : List UInt8
  flaw : Flaw
  deriving DecidableEq, Repr

/-- The wording of an error: one octet is shown, several are given by their positions. -/
def Error.message (e : Error) : String :=
  let what := match e.octets with
    | [b] => "byte 0x" ++ String.ofList (hexDigits 2 b.toNat) ++ " in position " ++ toString e.position
    | octets => "bytes in position " ++ toString e.position ++ "-" ++
        toString (e.position + octets.length - 1)
  "'utf-8' codec can't decode " ++ what ++ ": " ++ e.flaw.message

/-- A character under way: the bits read so far, how many octets are missing, the range that the next
one has to lie in, and the octets read, the last one first. -/
structure Pending where
  bits : Nat
  missing : Nat
  low : Nat
  high : Nat
  octets : List UInt8

/-- The character that an octet above the ASCII range starts. The range of the second octet shuts out
overlong forms, surrogates and numbers beyond the last code point. -/
def Pending.start? (b : UInt8) : Option Pending :=
  let n := b.toNat
  if 0xC2 ≤ n ∧ n ≤ 0xDF then some ⟨n - 0xC0, 1, 0x80, 0xBF, [b]⟩
  else if 0xE0 ≤ n ∧ n ≤ 0xEF then
    some ⟨n - 0xE0, 2, if n = 0xE0 then 0xA0 else 0x80, if n = 0xED then 0x9F else 0xBF, [b]⟩
  else if 0xF0 ≤ n ∧ n ≤ 0xF4 then
    some ⟨n - 0xF0, 3, if n = 0xF0 then 0x90 else 0x80, if n = 0xF4 then 0x8F else 0xBF, [b]⟩
  else none

/-- What octets hold: the text up to the first error, and the error if there is one. -/
structure Decoded where
  text : List Char
  error : Option Error

/-- Reads octets from a position on, with the character under way and the characters read so far, the
last one first. -/
def decodeFrom (position : Nat) (pending : Option Pending) (text : List Char) : List UInt8 → Decoded
  | [] =>
    match pending with
    | none => ⟨text.reverse, none⟩
    | some p => ⟨text.reverse, some ⟨position, p.octets.reverse, .truncated⟩⟩
  | b :: rest =>
    match pending with
    | some p =>
      if p.low ≤ b.toNat ∧ b.toNat ≤ p.high then
        let bits := p.bits * 64 + (b.toNat - 0x80)
        if p.missing = 1 then
          decodeFrom (position + p.octets.length + 1) none (Char.ofNat bits :: text) rest
        else
          decodeFrom position (some ⟨bits, p.missing - 1, 0x80, 0xBF, b :: p.octets⟩) text rest
      else ⟨text.reverse, some ⟨position, p.octets.reverse, .badContinuation⟩⟩
    | none =>
      if b < 0x80 then decodeFrom (position + 1) none (Char.ofNat b.toNat :: text) rest
      else
        match Pending.start? b with
        | some p => decodeFrom position (some p) text rest
        | none => ⟨text.reverse, some ⟨position, [b], .badStart⟩⟩

/-- The text that octets encode. -/
def decode (octets : List UInt8) : Except Error (List Char) :=
  match decodeFrom 0 none [] octets with
  | ⟨text, none⟩ => .ok text
  | ⟨_, some e⟩ => .error e

@[simp] theorem decode_nil : decode [] = .ok [] := rfl

/-- Whether octets stop where the next ones tell what is wrong: within a character, or after two octets
of a surrogate. -/
def isOpen (octets : List UInt8) (e : Error) : Bool :=
  e.flaw == .truncated ||
    match octets.drop e.position with
    | [first, second] => first == 0xED && 0xA0 ≤ second && second < 0xC0
    | _ => false

/-- The text that octets encode that others follow, and the octets at the end that the following ones
decide on. -/
def decodePart (octets : List UInt8) : Except Error (List Char × List UInt8) :=
  match decodeFrom 0 none [] octets with
  | ⟨text, none⟩ => .ok (text, [])
  | ⟨text, some e⟩ => if isOpen octets e then .ok (text, octets.drop e.position) else .error e

/-- Octets as characters one by one; one beyond ASCII, which is no character alone, is the null
character. -/
def oneByOne (octets : List UInt8) : List Char :=
  octets.map fun b => if b < 0x80 then Char.ofNat b.toNat else '\x00'

end InfluxKeeper.Text.Utf8
