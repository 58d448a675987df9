import InfluxKeeper.Text.Stream
import InfluxKeeper.Yaml.Token

/-!
# Sources of YAML

A YAML text is read piece by piece while its documents are read. A piece that cannot be decoded, or that
holds a character that no YAML text has, is a flaw of the text: what stands before the piece is read, and
documents there may have faults of their own, but going on to the piece is the flaw. The first two pieces
are read together.

Main statement: `text_all_isAllowed` says that what is read has allowed characters only.
-/

namespace InfluxKeeper.Yaml

open Text

/-- Whether a character may stand in a YAML text. -/
def isAllowed (c : Char) : Bool :=
  let n := c.toNat
  n == 0x9 || n == 0xA || n == 0xD || (0x20 ≤ n && n ≤ 0x7E) || n == 0x85 ||
    (0xA0 ≤ n && n ≤ 0xFFFD) || 0x10000 ≤ n

/-- A text that is read, and the flaw of what follows it; without a flaw, the text is whole. -/
structure Source where
  text : List Char
  flaw : Option Fault

namespace Source

/-- The number of letters in a piece. -/
def pieceSize : Nat := 4096

/-- Reads a piece. -/
def readPiece (s : Stream) : Except Fault (List Char × Stream) :=
  (s.read pieceSize).mapError .notText

/-- A piece if all of its characters are allowed. -/
def checkPiece (piece : List Char) : Except Fault (List Char) :=
  if piece.all isAllowed then .ok piece else .error .malformed

/-- The source of the pieces that are left. -/
def later (s : Stream) : Nat → Source
  | 0 => ⟨[], none⟩
  | fuel + 1 =>
    match readPiece s with
    | .error flaw => ⟨[], some flaw⟩
    | .ok (piece, s) =>
      if piece.isEmpty then ⟨[], none⟩
      else
        match checkPiece piece with
        | .error flaw => ⟨[], some flaw⟩
        | .ok piece =>
          let rest := later s fuel
          ⟨piece ++ rest.text, rest.flaw⟩

/-- The first two pieces, and what is left. -/
def readStart (s : Stream) : Except Fault (List Char × Stream) := do
  let (first, s) ← readPiece s
  let (second, s) ← readPiece s
  return (← checkPiece (first ++ second), s)

/-- The source of octets. No more pieces are needed than there are octets. -/
def ofOctets (octets : List UInt8) : Source :=
  match readStart (.start octets) with
  | .error flaw => ⟨[], some flaw⟩
  | .ok (piece, s) =>
    let rest := later s (octets.length + 1)
    ⟨piece ++ rest.text, rest.flaw⟩

/-- A piece that passes is the piece, and its characters are allowed. -/
theorem checkPiece_eq_ok {piece text : List Char} (h : checkPiece piece = .ok text) :
    text.all isAllowed = true := by
  unfold checkPiece at h
  split at h <;> simp_all

/-- What is read of later pieces has allowed characters only. -/
theorem later_all_isAllowed (s : Stream) (fuel : Nat) : (later s fuel).text.all isAllowed = true := by
  induction fuel generalizing s with
  | zero => rfl
  | succ fuel ih =>
    unfold later
    split
    · rfl
    · split
      · rfl
      · split
        · rfl
        · rename_i h
          rw [List.all_append, checkPiece_eq_ok h, ih]
          rfl

/-- What is read has allowed characters only. -/
theorem text_all_isAllowed (octets : List UInt8) : (ofOctets octets).text.all isAllowed = true := by
  unfold ofOctets
  split
  · rfl
  · rename_i piece s h
    have hp : piece.all isAllowed = true := by
      unfold readStart at h
      cases h1 : readPiece (.start octets) with
      | error e => simp [h1, bind, Except.bind] at h
      | ok r =>
        cases h2 : readPiece r.2 with
        | error e => simp [h1, h2, bind, Except.bind] at h
        | ok q =>
          cases h3 : checkPiece (r.1 ++ q.1) with
          | error e => simp [h1, h2, h3, bind, Except.bind] at h
          | ok text =>
            simp [h1, h2, h3, bind, Except.bind, pure, Except.pure] at h
            exact h.1 ▸ checkPiece_eq_ok h3
    rw [List.all_append, hp, later_all_isAllowed]
    rfl

end Source

end InfluxKeeper.Yaml
