import Proctor.Machine.Regex

/-! Programs that scan records: patterns with actions, and functions. -/
namespace Proctor.Machine.Awk

/-- A variable by its number: of the program, or of the function that runs. -/
inductive Variable where
  | shared (n : Nat)
  | own (n : Nat)
deriving DecidableEq, Repr, Inhabited

inductive Builtin where
  | length | substr | index | split | sub | gsub | matchIn | sprintf
  | sine | cosine | arctangent | exponential | logarithm | root | integer | random | seed
  | lower | upper | system | close | flush | now
deriving DecidableEq, Repr, Inhabited

inductive Operator where
  | add | subtract | multiply | divide | modulo | power
  | join
  | less | lessEqual | equal | notEqual | greater | greaterEqual
deriving DecidableEq, Repr, Inhabited

mutual

inductive Expr where
  | number (x : Float)
  | text (octets : List Char)
  | regex (regex : Regex)
  | read (target : Target)
  /-- Gives a value, or the one that an operator makes of the old value and another one. -/
  | assign (target : Target) (operator? : Option Operator) (value : Expr)
  /-- Adds a number; the value is that after the change, or the one before it. -/
  | step (target : Target) (amount : Float) (before : Bool)
  | negate (operand : Expr)
  | plus (operand : Expr)
  | not (operand : Expr)
  | binary (operator : Operator) (left right : Expr)
  | and (left right : Expr)
  | or (left right : Expr)
  | choice (condition yes no : Expr)
  | fits (negated : Bool) (subject pattern : Expr)
  | contains (keys : List Expr) (array : Variable)
  | call (function : Nat) (args : List Expr)
  | builtin (name : Builtin) (args : List Expr)
  /-- How many elements an array has, or how long a variable is. -/
  | extent (v : Variable)
  /-- Reads a record into a target or as the next one: from the input, a file, or the output of a
  command. -/
  | readMain (target? : Option Target)
  | readFile (target? : Option Target) (path : Expr)
  | readCommand (target? : Option Target) (command : Expr)

inductive Target where
  | variable (v : Variable)
  | element (array : Variable) (keys : List Expr)
  | field (number : Expr)

end

deriving instance Repr, Inhabited for Expr, Target

/-- Where output goes: into a file that is new or goes on, or to a command. -/
inductive Way where
  | file
  | after
  | command
deriving DecidableEq, Repr, Inhabited

inductive Statement where
  | expr (value : Expr)
  | print (values : List Expr) (target? : Option (Way × Expr))
  | printf (values : List Expr) (target? : Option (Way × Expr))
  | block (statements : List Statement)
  | branch (condition : Expr) (yes no : Statement)
  | loop (condition : Expr) (body : Statement)
  | loopAfter (body : Statement) (condition : Expr)
  | count (start : Statement) (condition? : Option Expr) (step body : Statement)
  | each (key : Variable) (array : Variable) (body : Statement)
  | next
  | nextFile
  | exit (status? : Option Expr)
  | give (value? : Option Expr)
  | leave
  | again
  | delete (array : Variable) (keys? : Option (List Expr))
deriving Repr, Inhabited

inductive Pattern where
  | always
  | when (condition : Expr)
  | from (first last : Expr)
deriving Repr, Inhabited

/-- A function: its name, how many values it takes, and what it does. -/
structure Function where
  name : List Char
  arity : Nat
  body : Statement
deriving Repr, Inhabited

/-- A program: what it does at its start and its end, and for each record. -/
structure Program where
  start : List Statement
  rules : List (Pattern × Statement)
  finish : List Statement
  functions : Array Function
  names : List (List Char)
deriving Repr, Inhabited

/-! ### Variables with a meaning -/

namespace Variable

def known : List String :=
  ["NF", "NR", "FNR", "FS", "OFS", "ORS", "RS", "SUBSEP", "CONVFMT", "OFMT", "RSTART", "RLENGTH",
    "FILENAME", "ENVIRON", "ARGC", "ARGV"]

def fieldCount : Nat := 0

def recordCount : Nat := 1

def fileRecordCount : Nat := 2

def fieldSeparator : Nat := 3

def outputFieldSeparator : Nat := 4

def outputRecordSeparator : Nat := 5

def recordSeparator : Nat := 6

def keySeparator : Nat := 7

def conversionFormat : Nat := 8

def outputFormat : Nat := 9

def matchStart : Nat := 10

def matchLength : Nat := 11

def fileName : Nat := 12

def environment : Nat := 13

def argumentCount : Nat := 14

def arguments : Nat := 15

end Variable
end Proctor.Machine.Awk
