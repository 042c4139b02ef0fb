import Proctor.Spec.Param
import Proctor.Spec.Targets

/-! Test specifications: a function, the cases to call it with, and the scripts to try. -/
namespace Proctor

structure Specification where
  function : String
  cases : List (Params × TypedValue)
  targets : Targets
deriving DecidableEq, Repr, Inhabited

namespace Specification

def new (function : String) : Specification := ⟨function, [], []⟩

def addCase (spec : Specification) (params : Params) (expected : TypedValue) : Specification :=
  { spec with cases := OrderedMap.put params expected spec.cases }

def expectedFor? (spec : Specification) (params : Params) : Option TypedValue :=
  OrderedMap.get? params spec.cases

def removeCase (spec : Specification) (params : Params) : Specification :=
  { spec with cases := OrderedMap.erase params spec.cases }

def takeCase (spec : Specification) (params : Params) : Option TypedValue × Specification :=
  match OrderedMap.take? params spec.cases with
  | some (expected, cases) => (some expected, { spec with cases })
  | none => (none, spec)

def addTarget (spec : Specification) (path : String) : Except SpecError Specification :=
  (spec.targets.add path).map fun (_, targets) => { spec with targets }

def same (spec other : Specification) : Bool :=
  spec.function == other.function && spec.cases == other.cases && spec.targets.same other.targets

end Specification
end Proctor
