import InfluxKeeper.Text.Lines
import InfluxKeeper.Text.Utf8

/-!
# Reading a text piece by piece

A file is read in pieces of a number of letters. Its octets are decoded in chunks that are larger than a
piece, and the letters that a piece does not need wait for the next one. A chunk may end within a character
or between the two characters of a line end; both are settled by the next chunk.

A chunk that is no text is an error of the piece that needs it, with a position within that chunk. Nothing
of that piece is read.
-/

namespace InfluxKeeper.Text

/-- The least number of octets in a chunk that is not the last. -/
def chunkSize : Nat := 8192

/-- A file that is being read: the octets not decoded yet, the octets and the carriage return at the end of
the last chunk that the next one decides on, the letters ready to be read, and how many octets and letters
the last chunk had. -/
structure Stream where
  octets : List UInt8
  undecided : List UInt8
  heldReturn : Bool
  ready : List Char
  lastOctets : Nat
  lastLetters : Nat

namespace Stream

/-- The start of a file. -/
def start (octets : List UInt8) : Stream := ⟨octets, [], false, [], 0, 0⟩

/-- The number of octets of the next chunk if some letters are wanted: as many as letters had these octets
in the last chunk, if that is more than the least number. -/
def nextSize (s : Stream) (wanted : Nat) : Nat :=
  max chunkSize (s.lastOctets * wanted / s.lastLetters)

/-- Letters with the carriage return that was held back in front of them, and without the last one if it is
a carriage return that more may follow. -/
def holdReturn (held final : Bool) (letters : List Char) : List Char × Bool :=
  if letters.isEmpty && !final then ([], held)
  else
    let letters := if held then '\r' :: letters else letters
    if !final && letters.getLast? == some '\r' then (letters.dropLast, true) else (letters, false)

/-- Decodes the next chunk; at the end of the file there is none, and what was undecided is decided. -/
def readChunk (wanted : Nat) (s : Stream) : Except Utf8.Error Stream := do
  let chunk := s.octets.take (s.nextSize wanted)
  let final := chunk.isEmpty
  let (letters, undecided) ←
    if final then (fun text => (text, [])) <$> Utf8.decode s.undecided
    else Utf8.decodePart (s.undecided ++ chunk)
  let (letters, heldReturn) := holdReturn s.heldReturn final letters
  let letters := unifyLineEnds letters
  return {
    octets := s.octets.drop chunk.length
    undecided
    heldReturn
    ready := s.ready ++ letters
    lastOctets := chunk.length
    lastLetters := letters.length }

/-- Whether the file was at its end when the last chunk was looked for, and that gave no letters. -/
def atEnd (s : Stream) : Bool := s.lastOctets == 0 && s.lastLetters == 0

/-- Decodes chunks until a number of letters are ready or the file ends. -/
def fillUp (count : Nat) (s : Stream) : Nat → Except Utf8.Error Stream
  | 0 => .ok s
  | fuel + 1 =>
    if count ≤ s.ready.length then .ok s
    else do
      let s ← s.readChunk (count - s.ready.length)
      if s.atEnd then return s else s.fillUp count fuel

/-- Reads a piece of a number of letters, or fewer at the end of the file. Every chunk but the last two takes
an octet. -/
def read (count : Nat) (s : Stream) : Except Utf8.Error (List Char × Stream) := do
  let s ← s.fillUp count (s.octets.length + 3)
  return (s.ready.take count, { s with ready := s.ready.drop count })

end Stream

end InfluxKeeper.Text
