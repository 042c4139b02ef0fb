/-! Cutting a sequence at a separator: into segments that the separator ends, into lines, and
into the fields between separators. -/
namespace Proctor.Text

/-- The segments of a sequence, each with whether a separator ended it. A last segment that no
separator ends is listed only if it holds something. -/
def segments {α : Type} [DecidableEq α] (separator : α) : List α → List (List α × Bool)
  | [] => []
  | x :: rest =>
    if x = separator then ([], true) :: segments separator rest
    else
      match segments separator rest with
      | [] => [([x], false)]
      | (segment, ended) :: others => (x :: segment, ended) :: others

def dropFinal {α : Type} [DecidableEq α] (x : α) (items : List α) : List α :=
  if items.getLast? = some x then items.dropLast else items

/-- The lines of a text: a newline ends each, and a carriage return before it belongs to the end
of the line. -/
def lines (text : List Char) : List (List Char) :=
  (segments '\n' text).map fun (line, ended) => if ended then dropFinal '\r' line else line

def fields {α : Type} [DecidableEq α] (separator : α) : List α → List (List α)
  | [] => [[]]
  | x :: rest =>
    if x = separator then [] :: fields separator rest
    else
      match fields separator rest with
      | [] => [[x]]
      | field :: others => (x :: field) :: others

def cutLast? {α : Type} [DecidableEq α] (separator : α) : List α → Option (List α × List α)
  | [] => none
  | x :: rest =>
    match cutLast? separator rest with
    | some (before, after) => some (x :: before, after)
    | none => if x = separator then some ([], rest) else none

def cutFirst? {α : Type} [DecidableEq α] (separator : α) : List α → Option (List α × List α)
  | [] => none
  | x :: rest =>
    if x = separator then some ([], rest)
    else (cutFirst? separator rest).map fun (before, after) => (x :: before, after)

def occursIn {α : Type} [DecidableEq α] (part : List α) : List α → Bool
  | [] => part.isEmpty
  | x :: rest => part.isPrefixOf (x :: rest) || occursIn part rest

end Proctor.Text
