import Proctor.Text.Columns

/-! Breaking a text into lines of a limited width, so that the cost of all lines is least: a line
that overflows costs most, every line costs something, and an unfilled one the square of its gap. -/
namespace Proctor.Text.Wrapping

/-- A word and the number of blanks after it. -/
structure Piece where
  word : List Char
  blanks : Nat
deriving DecidableEq, Repr

namespace Piece

def columns (piece : Piece) : Nat := columnsOf piece.word

def ofText : List Char → List Piece
  | [] => []
  | c :: rest =>
    match ofText rest with
    | [] => if c = ' ' then [⟨[], 1⟩] else [⟨[c], 0⟩]
    | ⟨word, n⟩ :: others =>
      if c ≠ ' ' then ⟨c :: word, n⟩ :: others
      else if word = [] then ⟨[], n + 1⟩ :: others
      else ⟨[], 1⟩ :: ⟨word, n⟩ :: others

/-- Cuts a text into parts that take at most some columns, each of at least one character; `part` is
the start of the first one, backwards, and `width` its columns. -/
def cuts (limit : Nat) (width : Nat) (part : List Char) : List Char → List (List Char)
  | [] => [part.reverse]
  | c :: rest =>
    let n := Text.columns c
    if 0 < width && limit < width + n then part.reverse :: cuts limit n [c] rest
    else cuts limit (width + n) (c :: part) rest

def parts (limit : Nat) (piece : Piece) : List Piece :=
  if piece.columns ≤ limit then [piece]
  else
    match (cuts limit 0 [] piece.word).reverse with
    | [] => [piece]
    | last :: others => (others.reverse.map (⟨·, 0⟩)) ++ [⟨last, piece.blanks⟩]

end Piece

def cost (limit : Nat) (isLast : Bool) (line : List Piece) : Nat :=
  let full := line.foldl (fun n piece => n + piece.columns + piece.blanks) 0
  let width := full - ((line.getLast?.map Piece.blanks).getD 0)
  let filling :=
    if limit < width then (width - limit) * 2500
    else if !isLast then (limit - width) * (limit - width)
    else if line.length = 1 && 4 * width < limit then 25
    else 0
  1000 + filling

abbrev Priced := Nat × List (List Piece)

/-- The best lines for pieces, and for each of their tails, down to the empty one. -/
def bestOfTails (limit : Nat) : List Piece → List Priced
  | [] => [(0, [])]
  | piece :: rest =>
    let tails := bestOfTails limit rest
    let choices := tails.zipIdx.map fun ((price, lines), n) =>
      let line := (piece :: rest).take (n + 1)
      (cost limit (lines = []) line + price, line :: lines)
    let best := choices.foldl (fun (best? : Option Priced) choice =>
      match best? with
      | some best => some (if choice.1 < best.1 then choice else best)
      | none => some choice) none
    best.getD (0, []) :: tails

def lineText (line : List Piece) : List Char :=
  let text := line.flatMap fun piece => piece.word ++ List.replicate piece.blanks ' '
  (text.reverse.dropWhile (· == ' ')).reverse

end Wrapping

def wrapped (limit : Nat) (text : List Char) : List (List Char) :=
  let pieces := (Wrapping.Piece.ofText text).flatMap (Wrapping.Piece.parts limit)
  match Wrapping.bestOfTails limit (⟨[], 0⟩ :: pieces) with
  | (_, lines) :: _ => lines.map Wrapping.lineText
  | [] => []

end Proctor.Text
