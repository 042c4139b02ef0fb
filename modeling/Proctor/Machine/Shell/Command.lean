/-! Shell commands, and the words of which they are made. -/
namespace Proctor.Machine.Shell

inductive Connection where
  | readFrom
  | writeTo
  /-- To a file that may be there already, whatever the shell is asked to keep. -/
  | overwrite
  | appendTo
  | readAndWrite
  /-- To where another stream of the command goes; the two signs differ in nothing else. -/
  | sameAs
  /-- The text that is read stands in the script itself, under a number. -/
  | textHere (number : Nat)
deriving DecidableEq, Repr

/-- A connection of a stream, which has a number. -/
structure Redirection (word : Type) where
  stream : Nat
  connection : Connection
  target : word
deriving Repr

/-- The words of one command, with the number of its line. -/
structure Simple (word : Type) where
  line : Nat
  assignments : List (List Char × word)
  words : List word
  redirections : List (Redirection word)
deriving Repr

mutual
/-- A part of a word. What is quoted is neither split nor a wildcard. -/
inductive Part where
  | text (octets : List Char) (quoted : Bool)
  | parameter (name : List Char) (modifier : Modifier) (quoted : Bool)
  | output (command : Command) (quoted : Bool)
  | sum (word : List Part) (quoted : Bool)

/-- What becomes of the value of a parameter. -/
inductive Modifier where
  | none
  | length
  /-- Another word stands in for the value; `sign` tells when and how, and an empty value counts as
  none if `emptyToo` holds. -/
  | instead (sign : Char) (emptyToo : Bool) (word : List Part)
  | cut (fromEnd longest : Bool) (pattern : List Part)
  | unknown

inductive Command where
  | nothing
  | simple (command : Simple (List Part))
  | sequence (first second : Command)
  /-- The second command runs only if the first succeeded. -/
  | both (first second : Command)
  /-- The second command runs only if the first failed. -/
  | either (first second : Command)
  | negated (command : Command)
  | pipe (commands : List Command)
  | background (command : Command)
  | inner (line : Nat) (command : Command)
  | redirected (line : Nat) (command : Command) (redirections : List (Redirection (List Part)))
  | choice (condition yes no : Command)
  /-- The body runs as long as the condition succeeds, or fails if `negated` holds. -/
  | loop (negated : Bool) (condition body : Command)
  | each (line : Nat) (name : List Char) (words : List (List Part)) (body : Command)
  | select (line : Nat) (word : List Part) (cases : List (List (List Part) × Command))
  | define (line : Nat) (name : List Char) (body : Command)
end

abbrev Word := List Part

instance : Inhabited Part := ⟨.text [] false⟩

instance : Inhabited Command := ⟨.nothing⟩

end Proctor.Machine.Shell
