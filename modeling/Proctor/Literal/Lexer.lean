import Proctor.Literal.Numeral
import Proctor.Literal.Quoted

/-! Cutting literal text into tokens. -/
namespace Proctor.Literal

def isGap (c : Char) : Bool :=
  c == ' ' || c == '\t' || c == '\n' || c == '\r' || c == '\x0c'

def isNameStart (c : Char) : Bool := c.isAlpha || c == '_'

def isNamePart (c : Char) : Bool := c.isAlphanum || c == '_'

def isQuote (c : Char) : Bool := c == '"' || c == '\''

def scanName (start : Cursor) : Scan :=
  let name := start.run isNamePart
  let after := start.pass isNamePart
  match after.peek?.filter isQuote, Style.ofName? name with
  | some quote, some style => scanString quote style after.next
  | _, _ =>
    let name := String.ofList name
    .token ((Kind.keyword? name).getD (.ident name)) after

def scanToken (cursor : Cursor) (c : Char) : Scan :=
  match Mark.ofChar? c with
  | some mark => .token (.mark mark) cursor.next
  | none =>
    if isQuote c then scanString c ⟨false, false⟩ cursor.next
    else if isDecimalDigit c then scanNumber cursor
    else if isNameStart c then scanName cursor
    else .fault (.unexpected c) cursor.next

/-- The tokens from the cursor to the end and the faults in them. The first argument bounds the
number of steps. -/
def scanAll : Nat → Cursor → List Token × List (Located LexFault)
  | 0, cursor => ([⟨.finish, ⟨cursor.offset, cursor.offset⟩⟩], [])
  | steps + 1, cursor =>
    match cursor.rest with
    | [] => ([⟨.finish, ⟨cursor.offset, cursor.offset⟩⟩], [])
    | c :: _ =>
      if isGap c then scanAll steps cursor.next
      else
        let scan := scanToken cursor c
        let (tokens, faults) := scanAll steps scan.after
        let here := scan.kind?.toList.map fun kind =>
          (⟨kind, ⟨cursor.offset, scan.after.offset⟩⟩ : Token)
        (here ++ tokens,
          scan.faults.map (fun (fault, stop) => ⟨fault, ⟨cursor.offset, stop⟩⟩) ++ faults)

/-- The tokens of a source, the last of which marks the end; or every fault in it. -/
def lex (source : String) : Except (List (Located LexFault)) (List Token) :=
  match scanAll (source.toList.length + 1) ⟨0, source.toList⟩ with
  | (tokens, []) => .ok tokens
  | (_, faults) => .error faults

def Located.toSyntaxError (fault : Located LexFault) : SyntaxError :=
  ⟨fault.what.message, fault.span, []⟩

end Proctor.Literal
