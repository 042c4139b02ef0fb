import Proctor.Literal.Diagnostic
import Proctor.Text.Segments
import Proctor.Text.Wrapping

/-! A diagnostic as a picture: the lines around its place, with the place underlined. -/
namespace Proctor.Literal

/-- A row of a picture: its number, the offset of its first byte, its size in bytes with the end of
its line, and its text. -/
structure Row where
  number : Nat
  start : Nat
  size : Nat
  text : List Char
deriving DecidableEq, Repr

namespace Row

def stop (row : Row) : Nat := row.start + row.size

/-- The rows of a text. `before` rows come before the first one, which starts at `start` and whose
characters up to `offset`, in opposite order, are `sofar`. A line ends at a newline, alone or after a
carriage return. A last line that nothing ends counts as one, unless its last character is a carriage
return. -/
def split (before start offset : Nat) (sofar : List Char) : List Char → List Row
  | [] => []
  | '\r' :: '\n' :: rest =>
    ⟨before + 1, start, offset + 2 - start, sofar.reverse⟩ ::
      split (before + 1) (offset + 2) (offset + 2) [] rest
  | '\n' :: rest =>
    ⟨before + 1, start, offset + 1 - start, sofar.reverse⟩ ::
      split (before + 1) (offset + 1) (offset + 1) [] rest
  | [c] =>
    let number := if c = '\r' then before else before + 1
    [⟨number, start, offset + c.utf8Size - start, (c :: sofar).reverse⟩]
  | c :: rest => split before start (offset + c.utf8Size) (c :: sofar) rest

/-- The columns of each character: a tab reaches to the next multiple of four, and what stands between
an escape character and the next `m` takes none. -/
def widths (column : Nat) (escaped : Bool) : List Char → List Nat
  | [] => []
  | c :: rest =>
    if escaped then 0 :: widths column (c ≠ 'm') rest
    else if c = '\x1b' then 0 :: widths column true rest
    else
      let width := if c = '\t' then 4 - column % 4 else Text.columns c
      width :: widths (column + width) false rest

def expanded (row : Row) : List Char :=
  (row.text.zip (widths 0 false row.text)).flatMap fun (c, width) =>
    if c = '\t' then List.replicate width ' ' else [c]

def firstBytes : Nat → List Char → List Char
  | _, [] => []
  | 0, _ => []
  | n, c :: rest => c :: firstBytes (n - c.utf8Size) rest

def column (row : Row) (offset : Nat) : Nat :=
  let width := (widths 0 false (firstBytes (offset - row.start) row.text)).foldl (· + ·) 0
  if Text.Utf8.size row.text < offset - row.start then width + 1 else width

end Row

/-! ### The part of a source that is shown -/

structure Reading where
  offset : Nat
  /-- Where the line starts that holds the start of the place, or the last line before it so far. -/
  lineStart : Nat
  /-- Where the lines start that end before the place, the last of them first. -/
  earlier : List Nat
  passed : Bool
  ended : Nat
deriving DecidableEq, Repr

namespace Reading

def step (offset length size : Nat) (isEnd : Bool) (reading : Reading) : Reading :=
  let last := reading.offset + size - 1
  let reading :=
    if !isEnd then reading
    else if last < offset then
      { reading with earlier := reading.lineStart :: reading.earlier, lineStart := last + 1 }
    else { reading with ended := if reading.passed then reading.ended + 1 else reading.ended }
  { reading with offset := last + 1, passed := reading.passed || offset + length - 1 ≤ last }

/-- Reads until one line is read to its end after that of the place. Here a carriage return ends a
line too. -/
def run (offset length : Nat) (reading : Reading) : List UInt8 → Reading
  | [] => reading
  | b :: rest =>
    if 2 ≤ reading.ended then reading
    else if b = 0x0d then
      match rest with
      | 0x0a :: rest => run offset length (reading.step offset length 2 true) rest
      | rest => run offset length (reading.step offset length 1 true) rest
    else run offset length (reading.step offset length 1 (b = 0x0a)) rest

end Reading

namespace Diagnostic

def reading (diagnostic : Diagnostic) : Reading :=
  Reading.run diagnostic.offset diagnostic.length ⟨0, 0, [], false, 0⟩
    (Text.Utf8.encode diagnostic.source.toList)

def rows (diagnostic : Diagnostic) : List Row :=
  let reading := diagnostic.reading
  let start := reading.earlier.headD 0
  let shown := ((Text.Utf8.encode diagnostic.source.toList).take reading.offset).drop start
  Row.split (reading.earlier.length - 1) start start [] (Text.Utf8.decodeLossy shown)

/-! ### Rows and the place -/

def stop (diagnostic : Diagnostic) : Nat := diagnostic.offset + diagnostic.length

def isWithin (diagnostic : Diagnostic) (row : Row) : Bool :=
  row.start ≤ diagnostic.offset && diagnostic.stop ≤ row.stop

def borders (diagnostic : Diagnostic) (row : Row) : Bool × Bool :=
  let stop := diagnostic.offset + max 1 diagnostic.length
  (row.start ≤ diagnostic.offset && diagnostic.offset < row.stop,
    row.start < stop && stop ≤ row.stop)

def touches (diagnostic : Diagnostic) (row : Row) : Bool :=
  let (starts, ends) := diagnostic.borders row
  let passes := diagnostic.offset < row.start && row.stop < diagnostic.offset + max 1 diagnostic.length
  starts || ends || passes

def isPartial (diagnostic : Diagnostic) (row : Row) : Bool :=
  diagnostic.touches row && diagnostic.borders row ≠ (true, true)

/-! ### Drawing -/

def blanks (n : Nat) : String := String.ofList (List.replicate n ' ')

def bar (n : Nat) : String :=
  String.ofList (List.replicate (n / 2) '─' ++ '┬' :: List.replicate (n - n / 2 - 1) '─')

def arrow (diagnostic : Diagnostic) (row : Row) : String :=
  if !diagnostic.isPartial row then "    "
  else if row.start ≤ diagnostic.offset then "╭─▶ "
  else if row.start ≤ diagnostic.stop && diagnostic.stop ≤ row.stop then "├─▶ "
  else "│   "

def marksUnder (diagnostic : Diagnostic) (row : Row) : List String :=
  if !diagnostic.touches row then []
  else if diagnostic.isWithin row then
    let start := row.column diagnostic.offset
    let (mark, width) :=
      if diagnostic.length = 0 then ("▲", 1)
      else
        let width := max 1 (row.column diagnostic.stop - start)
        (bar width, width)
    [blanks start ++ mark, blanks (start + width / 2) ++ "╰── here"]
  else if row.start ≤ diagnostic.stop && diagnostic.stop ≤ row.stop &&
      diagnostic.offset < row.start then
    ["╰──── here"]
  else []

def rowLines (diagnostic : Diagnostic) (arrows : Bool) (width : Nat) (row : Row) : List String :=
  let number := toString row.number
  let arrow := if arrows then diagnostic.arrow row else ""
  s!" {blanks (width - number.length)}{number} │ {arrow}{String.ofList row.expanded}" ::
    (diagnostic.marksUnder row).map fun marks => s!"{blanks (width + 2)}· {marks}"

def heading (diagnostic : Diagnostic) (rows : List Row) : String :=
  let reading := diagnostic.reading
  let column := diagnostic.offset - reading.lineStart + 1
  if rows.length ≤ 1 then "╭────" else s!"╭─[{reading.earlier.length + 1}:{column}]"

def pictureWidth : Nat := 198

def paragraph (first other : String) (text : String) : List String :=
  let limit := pictureWidth - Text.columnsOf first.toList
  let lines := (Text.fields '\n' text.toList).flatMap (Text.wrapped limit)
  lines.zipIdx.map fun (line, n) => (if n = 0 then first else other) ++ String.ofList line

def picture (diagnostic : Diagnostic) : String :=
  let rows := diagnostic.rows
  let arrows := rows.any fun row => diagnostic.isPartial row && !diagnostic.isWithin row
  let width := (toString ((rows.getLast?.map Row.number).getD 0)).length
  let lines :=
    ["scriptest::literal::syntax", ""] ++ paragraph "  × " "  │ " diagnostic.describe ++
    [blanks (width + 2) ++ diagnostic.heading rows] ++
    rows.flatMap (diagnostic.rowLines arrows width) ++
    [blanks (width + 2) ++ "╰────"] ++
    (diagnostic.help?.map (paragraph "  help: " "        ")).getD []
  String.join (lines.map (· ++ "\n"))

end Diagnostic
end Proctor.Literal
