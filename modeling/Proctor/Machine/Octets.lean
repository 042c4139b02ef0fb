import Proctor.Text.Segments
import Proctor.Text.Utf8

/-! Bytes as characters. The programs of the machine take texts byte by byte: a byte is the character
whose code point is the number of the byte, and a text of such characters is called octets. -/
namespace Proctor.Machine.Octets

def ofBytes (bytes : List UInt8) : List Char := bytes.map fun b => Char.ofNat b.toNat

def toBytes (octets : List Char) : List UInt8 := octets.map fun c => UInt8.ofNat c.toNat

def ofString (text : String) : List Char := ofBytes (Text.Utf8.encode text.toList)

def toText (octets : List Char) : String :=
  String.ofList (Text.Utf8.decodeLossy (toBytes octets))

/-- Whether one text comes before another: the first octet that differs decides, and a start comes
before the whole. -/
def before : List Char → List Char → Bool
  | [], other => !other.isEmpty
  | _ :: _, [] => false
  | a :: as, b :: bs => if a = b then before as bs else a < b

/-- The pieces of octets that a separator ends, without it. A last piece that no separator ends is listed
only if it holds something. -/
def piecesBy (separator : Char) (octets : List Char) : List (List Char) :=
  let (first?, others) := octets.foldr (fun c (piece?, later) =>
    if c = separator then (some [], piece?.toList ++ later)
    else (some (c :: piece?.getD []), later)) ((none : Option (List Char)), ([] : List (List Char)))
  first?.toList ++ others

def lines (octets : List Char) : List (List Char) := piecesBy '\n' octets

def ofLines (lines : List (List Char)) : List Char := lines.flatMap (· ++ ['\n'])

def char (n : Nat) : Char := Char.ofNat (n % 256)

end Proctor.Machine.Octets
