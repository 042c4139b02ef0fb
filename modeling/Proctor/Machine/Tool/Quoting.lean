import Proctor.Machine.Octets
import Proctor.Number.Decimal

/-! How names are shown in complaints. -/
namespace Proctor.Machine.Quoting

def escapes : List (Char × Char) :=
  [('\x07', 'a'), ('\x08', 'b'), ('\x0c', 'f'), ('\n', 'n'), ('\r', 'r'), ('\t', 't'), ('\x0b', 'v')]

def isHidden (c : Char) : Bool := c < ' ' || '~' < c

def escaped (c : Char) : List Char :=
  match escapes.lookup c with
  | some letter => ['\\', letter]
  | none => '\\' :: padded 3 (digitsOf 8 c.toNat)

def special : List Char := " !\"$&()*;<=>?[\\^|\x60".toList

def needsQuotes (name : List Char) : Bool :=
  name.isEmpty || name.any (fun c => isHidden c || c == '\'' || special.contains c) ||
    name.head? = some '#' || name.head? = some '~' || name = ['\x7b'] || name = ['\x7d']

def isSafe (c : Char) : Bool :=
  c.isAlphanum || "%+,-./:]_\x7b\x7d @' #~".toList.contains c

/-- The inside of a quoted name; `open` tells that an escape has left the quotes. -/
def inside (opened : Bool) : List Char → List Char
  | [] => []
  | c :: rest =>
    if isHidden c then
      (if opened then [] else ['\'', '$', '\'']) ++ escaped c ++ inside true rest
    else
      let back := if opened then ['\'', '\''] else []
      let shown := if c = '\'' then ['\'', '\\', '\'', '\''] else [c]
      back ++ shown ++ inside false rest

def always (name : List Char) : String :=
  if name.contains '\'' && name.all isSafe then String.ofList ('"' :: name ++ ['"'])
  else String.ofList ('\'' :: inside false name ++ ['\''])

/-- A name, in quotes if a shell would not read it as it stands. -/
def ifNeeded (name : List Char) : String :=
  if needsQuotes name then always name else String.ofList name

def text (octets : List Char) : String :=
  String.ofList ('\'' :: octets.flatMap (fun c =>
    if isHidden c then escaped c else if c = '\'' || c = '\\' then ['\\', c] else [c]) ++ ['\''])

end Proctor.Machine.Quoting
