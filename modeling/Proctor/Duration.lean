import Proctor.Number.Shortest

/-! Durations in nanoseconds: the double of their seconds, and the two texts in which they are
shown. -/
namespace Proctor

abbrev Nanoseconds := Nat

namespace Nanoseconds

def perSecond : Nat := 1000000000

def perMillisecond : Nat := 1000000

/-- The whole seconds and the fraction, each rounded to a double and then added. -/
def seconds (duration : Nanoseconds) : Binary64 :=
  (Binary64.ofNat (duration / perSecond)).addNonneg
    (.ofRatio false (duration % perSecond) perSecond)

def shortText (duration : Nanoseconds) : String :=
  String.ofList (seconds duration).plain ++ "s"

def clockText (duration : Nanoseconds) : String :=
  String.ofList ((seconds duration).fixed 2) ++ "s"

end Nanoseconds
end Proctor
