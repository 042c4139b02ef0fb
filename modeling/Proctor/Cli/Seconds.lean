import Proctor.Duration
import Proctor.Number.Typed

/-! A number of seconds as an argument. -/
namespace Proctor.Cli

inductive SecondsFault where
  | notNumber (text : String)
  | notPositive (text : String)
  | tooLong (text : String)
deriving DecidableEq, Repr

def SecondsFault.message : SecondsFault → String
  | .notNumber text => s!"invalid number of seconds: '{text}'"
  | .notPositive text => s!"timeout must be a positive number of seconds, got '{text}'"
  | .tooLong text =>
    s!"invalid timeout '{text}': cannot convert float seconds to Duration: value is either too big or NaN"

def tooManySeconds : Nat := 18446744073709551616

/-- The nanoseconds nearest to the seconds that a text spells; of two equally near the even number.
Blanks around the number do not matter. -/
def secondsOf (text : String) : Except SecondsFault Nanoseconds :=
  match Binary64.ofText? (Text.trim text.toList) with
  | none => .error (.notNumber text)
  | some x =>
    if !x.isFinite || x.isZero || x.negative then .error (.notPositive text)
    else if tooManySeconds * x.ratio.2 ≤ x.ratio.1 then .error (.tooLong text)
    else .ok (Binary64.roundEven (x.ratio.1 * Nanoseconds.perSecond) x.ratio.2)

end Proctor.Cli
