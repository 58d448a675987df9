import InfluxKeeper.Number.Decimal
import InfluxKeeper.Number.Integer
import InfluxKeeper.Number.Shortest
import InfluxKeeper.Text.Control
import InfluxKeeper.Text.Lines

/-!
# Tables

A table has a head and rows of cells, drawn with a frame around every cell. A column of numbers is set to
the right, its points below each other, and its numbers with a fraction are rounded; any other column is
set to the left without the blanks around its cells. A column is two wider than its head at least. Where
a cell has line breaks, every row is as high as its highest cell.

In a table with control sequences widths are those of what a terminal shows.

Main statements: `length_padLeft` and `length_padRight` say that a padded text fills its width.
-/

namespace InfluxKeeper.Table

open Text

/-! ## What a column holds -/

/-- What the cells of a column are, from what says least to what says most. -/
inductive CellType
  | empty
  | truth
  | whole
  | decimal
  | words
  deriving DecidableEq, Repr

namespace CellType

/-- How much a type admits. -/
def rank : CellType → Nat
  | empty => 0
  | truth => 1
  | whole => 2
  | decimal => 3
  | words => 4

/-- The type that admits what either of two does. -/
def max (a b : CellType) : CellType := if a.rank < b.rank then b else a

/-- Whether cells of a type are set to the right. -/
def isNumeric : CellType → Bool
  | whole => true
  | decimal => true
  | _ => false

end CellType

/-- Whether a text is groups of three digits with commas between them. -/
def isGroups : List Char → Bool
  | [] => true
  | ',' :: a :: b :: c :: rest => [a, b, c].all isAsciiDigit && isGroups rest
  | _ => false

/-- Whether a text is a number with commas between the thousands, and perhaps a point. A line end after it
does not count. -/
def isGrouped (s : List Char) : Bool :=
  let s := if s.getLast? = some '\n' then s.dropLast else s
  let whole := s.takeWhile (· != '.')
  let fraction := s.dropWhile (· != '.')
  if whole.isEmpty then
    fraction.isEmpty || (fraction.length ≠ 1 && (fraction.drop 1).all isAsciiDigit)
  else
    let digits := (splitSign whole).2
    let first := digits.takeWhile isAsciiDigit
    1 ≤ first.length && first.length ≤ 3 && isGroups (digits.drop first.length) &&
      (fraction.drop 1).all isAsciiDigit

/-- Whether a text reads as a whole number. -/
def isWhole (s : List Char) : Bool :=
  match readSettingInteger (String.ofList s) with
  | .ok _ => true
  | .error _ => false

/-- Whether a text reads as a decimal number; of the infinities and NaN only the short names count. -/
def isDecimal (s : List Char) : Bool :=
  match readDecimal? s with
  | none => false
  | some (.finite ..) => true
  | some _ => ["inf", "-inf", "nan"].contains (String.ofList (s.map Char.toLower))

/-- What a cell is, as a terminal shows it. -/
def cellType (cell : List Char) : CellType :=
  let s := shownText cell
  if s.isEmpty then .empty
  else if s = "True".toList ∨ s = "False".toList then .truth
  else if isWhole s || (isGrouped s && !s.contains '.') then .whole
  else if isDecimal s || isGrouped s then .decimal
  else .words

/-- What a column is. -/
def columnType (cells : List (List Char)) : CellType :=
  cells.foldl (fun t cell => t.max (cellType cell)) .truth

/-! ## Cells -/

/-- A text with every occurrence of a part that is not empty replaced, when some letters of one are still
to be left out. -/
def replaceFrom (part new : List Char) (left : Nat) : List Char → List Char
  | [] => []
  | c :: rest =>
    if 0 < left then replaceFrom part new (left - 1) rest
    else if part.isPrefixOf (c :: rest) then new ++ replaceFrom part new (part.length - 1) rest
    else c :: replaceFrom part new 0 rest

/-- Whether a character stands for itself in a plain ASCII text with a backslash for all that is special. -/
def standsForItself (c : Char) : Bool := ' ' ≤ c && c ≤ '~' && c != '\\'

/-- The first coloured number of a cell, from its colour to the end of the cell, with its digits written
as a number. A number is coloured if a colour of one code stands right before its digits and a special
character right behind them. -/
def colouredNumber? : List Char → Option (List Char)
  | [] => none
  | c :: rest =>
    let code := (rest.drop 1).takeWhile isAsciiDigit
    let digits := (rest.drop (code.length + 2)).takeWhile isAsciiDigit
    let behind := rest.drop (code.length + 2 + digits.length)
    let colour := c == '\x1b' && rest.head? == some '[' && !code.isEmpty &&
      (rest[code.length + 1]?).any fun m => m == 'm' || m == 'M'
    if colour && !digits.isEmpty && behind.head?.any (!standsForItself ·) then
      some (c :: rest.take (code.length + 2) ++ (toString (digitsValue digits)).toList ++ behind)
    else colouredNumber? rest

/-- A cell of a column of a type as it is set. A coloured whole number is written anew and loses what
stands before its colour. Numbers with a fraction are rounded; in a table with control sequences they keep
those around them, and elsewhere they lose their commas. A cell that is no number stays as it is. -/
def setCell (controls : Bool) (t : CellType) (cell : List Char) : List Char :=
  match t with
  | .whole => (colouredNumber? cell).getD cell
  | .decimal =>
    let number := if controls then shownText cell else cell.filter (· != ',')
    match readDecimal? number with
    | none => cell
    | some x => if controls then replaceFrom number x.rounded.toList 0 cell else x.rounded.toList
  | _ => cell

/-- The number of characters that a terminal shows of a text. -/
def shownWidth (s : List Char) : Nat := (shownText s).length

/-- The parts of a text between line breaks. -/
def pieces : List Char → List (List Char)
  | [] => [[]]
  | c :: rest =>
    if c = '\r' ∨ c = '\n' then [] :: pieces rest
    else
      match pieces rest with
      | part :: parts => (c :: part) :: parts
      | [] => [[c]]

/-- The width of the widest part of a cell. -/
def cellWidth (cell : List Char) : Nat := (pieces cell).foldl (fun w s => max w (shownWidth s)) 0

/-- How many characters of a number stand from its point on, or else from its exponent on. -/
def pointDistance (s : List Char) : Nat :=
  if !(isDecimal s || isGrouped s) || isWhole s then 0
  else
    let back (mark : Char → Bool) : Option Nat := (s.reverse.findIdx? mark).map (· + 1)
    ((back (· == '.')).or (back fun c => c == 'e' || c == 'E')).getD 0

/-- A text set to the right of a width. -/
def padLeft (width : Nat) (s : List Char) : List Char := List.replicate (width - s.length) ' ' ++ s

/-- A text set to the left of a width. -/
def padRight (width : Nat) (s : List Char) : List Char := s ++ List.replicate (width - s.length) ' '

/-- A text that fits a width fills it. -/
theorem length_padLeft {width : Nat} {s : List Char} (fits : s.length ≤ width) :
    (padLeft width s).length = width := by
  simp only [padLeft, List.length_append, List.length_replicate]
  omega

/-- A text that fits a width fills it. -/
theorem length_padRight {width : Nat} {s : List Char} (fits : s.length ≤ width) :
    (padRight width s).length = width := by
  simp only [padRight, List.length_append, List.length_replicate]
  omega

/-! ## Columns -/

/-- What the drawing of a table depends on as a whole: whether it has control sequences, and whether it
has line breaks. -/
structure Look where
  controls : Bool
  broken : Bool
  deriving DecidableEq, Repr

/-- A column as it is drawn: its width, its head, and the lines of its cells. -/
structure Column where
  width : Nat
  head : List Char
  cells : List (List (List Char))

/-- Whether a text has line breaks. -/
def hasBreak (s : List Char) : Bool := s.any fun c => c == '\r' || c == '\n'

/-- The lines of a cell, padded to a width. A line is padded by what its control sequences take beyond
that; they are counted in the part between line breaks at its place, so that parts that end in other line
ends are padded by more, and lines without such a part are left out. -/
def cellLines (look : Look) (pad : Nat → List Char → List Char) (width : Nat) (cell : List Char) :
    List (List Char) :=
  let hidden (s : List Char) : Nat := s.length - shownWidth s
  if !look.broken then [pad (width + hidden cell) cell]
  else if look.controls then
    List.zipWith (fun line piece => pad (width + hidden piece) line) (linesFrom [] cell) (pieces cell)
  else (linesFrom [] cell).map (pad width)

/-- A column with a head and cells. -/
def column (look : Look) (head : String) (cells : List (List Char)) : Column :=
  let t := columnType cells
  let texts := cells.map (setCell look.controls t)
  let aligned := if t.isNumeric then
      let distance (s : List Char) : Nat := pointDistance (shownText s)
      let most := texts.foldl (fun n s => max n (distance s)) 0
      texts.map fun s => s ++ List.replicate (most - distance s) ' '
    else texts.map (strip isBlank)
  let pad := if t.isNumeric then padLeft else padRight
  let width := aligned.foldl (fun w s => max w (cellWidth s)) (head.length + 2)
  let drawn := aligned.map (cellLines look pad width)
  let width := drawn.flatten.foldl (fun w s => max w (shownWidth s)) width
  ⟨width, pad width head.toList, drawn⟩

/-! ## Drawing -/

/-- A line of a frame. -/
def frameLine (mark : Char) (columns : List Column) : List Char :=
  '+' :: columns.flatMap fun c => List.replicate (c.width + 2) mark ++ ['+']

/-- A line of texts that fill their columns. -/
def textLine (texts : List (List Char)) : List Char :=
  '|' :: texts.flatMap fun s => ' ' :: s ++ [' ', '|']

/-- The lines of a row; cells with fewer lines than the highest have blank ones below. -/
def rowLines (columns : List Column) (row : Nat) : List (List Char) :=
  let cells := columns.map fun c => (c.width, c.cells.getD row [])
  let height := cells.foldl (fun n c => max n c.2.length) 0
  (List.range height).map fun i =>
    textLine (cells.map fun c => c.2.getD i (List.replicate c.1 ' '))

/-- The lines of a table. -/
def tableLines (columns : List Column) (rows : Nat) : List (List Char) :=
  [frameLine '-' columns, textLine (columns.map (·.head)), frameLine '=' columns] ++
    if rows = 0 then [frameLine '-' columns]
    else (List.range rows).flatMap fun row => rowLines columns row ++ [frameLine '-' columns]

/-- A table with heads and rows of cells. -/
def render (heads : List String) (rows : List (List String)) : String :=
  let cells := rows.map fun row => row.map String.toList
  let all := ['\t'].intercalate (heads.map String.toList ++ cells.flatten)
  let look : Look := ⟨hasSequence all, hasBreak all⟩
  let columns := heads.zipIdx.map fun h => column look h.1 (cells.map fun row => row.getD h.2 [])
  String.ofList (['\n'].intercalate (tableLines columns rows.length))

end InfluxKeeper.Table
