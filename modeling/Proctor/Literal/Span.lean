/-! Places in a source text, in bytes, and faults that are found at a place. -/
namespace Proctor.Literal

/-- The bytes of a source from `start` up to `stop`. -/
structure Span where
  start : Nat
  stop : Nat
deriving DecidableEq, Repr, Inhabited

def Span.length (span : Span) : Nat := span.stop - span.start

structure Located (α : Type) where
  what : α
  span : Span
deriving DecidableEq, Repr

/-- A complaint about a source: a sentence, its place, and hints on what may help. -/
structure SyntaxError where
  message : String
  span : Span
  hints : List String
deriving DecidableEq, Repr

end Proctor.Literal
