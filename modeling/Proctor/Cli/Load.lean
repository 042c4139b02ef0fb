import Proctor.Cli.Arguments
import Proctor.Machine.Failure
import Proctor.Spec.Codec

/-! Loading a specification with what the command line adds to it. -/
namespace Proctor.Cli

structure Complaint where
  message : String
  code : Nat
deriving DecidableEq, Repr

def usageCode : Nat := 2

def failureCode : Nat := 1

inductive LoadError where
  | unreadable (path : String) (failure : Machine.Failure)
  | malformed (path : String) (error : SpecError)
  | target (error : SpecError)
  | noFunction
deriving DecidableEq, Repr

def LoadError.message : LoadError → String
  | .unreadable path failure => s!"Error reading {path}: {failure.message}"
  | .malformed path error => s!"Error in {path}: {error.message}"
  | .target error => s!"Error: {error.message}"
  | .noFunction => "Error: no function under test (set \"testfunc\" or pass --function)"

def LoadError.complaint (error : LoadError) : Complaint := ⟨error.message, usageCode⟩

def addTargets (spec : Specification) (scripts : List String) : Except SpecError Specification :=
  scripts.foldlM (fun spec script => spec.addTarget script) spec

def loadSpec (path : String) (content : Except Machine.Failure String) (options : RunOptions) :
    Except LoadError Specification :=
  match content with
  | .error failure => .error (.unreadable path failure)
  | .ok text =>
    match Specification.ofText text with
    | .error error => .error (.malformed path error)
    | .ok spec =>
      match addTargets { spec with function := options.function?.getD spec.function }
          options.scripts with
      | .error error => .error (.target error)
      | .ok spec => if spec.function = "" then .error .noFunction else .ok spec

end Proctor.Cli
