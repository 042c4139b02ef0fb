import Proctor.Decision
import Proctor.Text.Segments
import Proctor.Text.Utf8

/-! Ways to ask what to do with a suspicious target: a console, a queue of prepared answers, and
one fixed answer. -/
namespace Proctor

structure Request where
  name : String
  path : String
  reasons : String
deriving DecidableEq, Repr

/-- An answer, and what the prompt showed while it asked. -/
structure Answer where
  decision : Decision
  shown : String
deriving DecidableEq, Repr

/-- The lines of the input that a console has not read yet; a line that is no text counts as
`none`. -/
structure ConsolePrompt where
  lines : List (Option String)
deriving DecidableEq, Repr

namespace ConsolePrompt

def ofBytes (bytes : List UInt8) : ConsolePrompt :=
  ⟨(Text.segments 0x0a bytes).map fun (line, ended) =>
    (Text.Utf8.decode? (if ended then Text.dropFinal 0x0d line else line)).map String.ofList⟩

def menu : String :=
  "  ".intercalate (Decision.all.map fun decision =>
    "[" ++ String.ofList [decision.shortcut] ++ "] " ++ decision.label) ++ " > "

def heading (request : Request) : String :=
  s!"\n{request.name} was flagged by the safety scan:\n{request.reasons}\n\n"

/-- Shows the menu until a line stands for a decision: what was shown, the decision, and the lines
left. The end of the input, and a line that is no text, cancel. -/
def choose : List (Option String) → String × Decision × List (Option String)
  | [] => (menu ++ "\n", .cancel, [])
  | none :: rest => (menu ++ "\n", .cancel, rest)
  | some line :: rest =>
    match Decision.ofAnswer? line with
    | some decision => (menu, decision, rest)
    | none =>
      let (shown, decision, rest) := choose rest
      (menu ++ Decision.unrecognized line ++ "\n" ++ shown, decision, rest)

def ask (prompt : ConsolePrompt) (request : Request) : Answer × ConsolePrompt :=
  let (shown, decision, rest) := choose prompt.lines
  (⟨decision, heading request ++ shown⟩, ⟨rest⟩)

end ConsolePrompt

def nextAnswer : List Decision → Decision × List Decision
  | [] => (.cancel, [])
  | decision :: others => (decision, others)

inductive Prompt where
  | console (prompt : ConsolePrompt)
  | queue (answers : List Decision)
  | fixed (decision : Decision)
deriving DecidableEq, Repr

namespace Prompt

def ask (prompt : Prompt) (request : Request) : Answer × Prompt :=
  match prompt with
  | .console inner =>
    let (answer, inner) := inner.ask request
    (answer, .console inner)
  | .queue answers =>
    let (decision, answers) := nextAnswer answers
    (⟨decision, ""⟩, .queue answers)
  | .fixed decision => (⟨decision, ""⟩, .fixed decision)

/-- A number of questions after which the prompt has given an answer that ends a series of
questions, unless its fixed answer never does. -/
def patience : Prompt → Nat
  | .console prompt => prompt.lines.length + 1
  | .queue answers => answers.length + 1
  | .fixed _ => 1

end Prompt
end Proctor
