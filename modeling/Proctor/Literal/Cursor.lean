import Proctor.Literal.Token

/-! A place in a source that is being read: the byte offset and the text from there on. -/
namespace Proctor.Literal

structure Cursor where
  offset : Nat
  rest : List Char
deriving DecidableEq, Repr

namespace Cursor

def next (cursor : Cursor) : Cursor :=
  match cursor.rest with
  | [] => cursor
  | c :: rest => ⟨cursor.offset + c.utf8Size, rest⟩

def skip (cursor : Cursor) : Nat → Cursor
  | 0 => cursor
  | n + 1 => cursor.next.skip n

def peek? (cursor : Cursor) : Option Char := cursor.rest.head?

def run (p : Char → Bool) (cursor : Cursor) : List Char := cursor.rest.takeWhile p

def pass (p : Char → Bool) (cursor : Cursor) : Cursor := cursor.skip (cursor.run p).length

def upTo (start stop : Cursor) : List Char :=
  start.rest.take (start.rest.length - stop.rest.length)

end Cursor
end Proctor.Literal
