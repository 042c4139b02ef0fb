import Proctor.Machine.Shell.Source

/-! Reading the commands of a script. A script is read line by line, so that the commands of a line
run before the next line is read. -/
namespace Proctor.Machine.Shell

/-- What a token counts as when it is read: whether newlines are skipped, words may have a meaning of
their own, and words may be aliases. -/
structure Expecting where
  newlines : Bool
  reserved : Bool
  aliases : Bool
deriving DecidableEq, Repr

namespace Expecting

def anything : Expecting := ⟨false, false, false⟩

def command : Expecting := ⟨true, true, true⟩

def commandHere : Expecting := ⟨false, true, true⟩

def keyword : Expecting := ⟨true, true, false⟩

end Expecting

/-- How much a list of commands holds. -/
inductive ListKind where
  | line
  | nonempty
  | any
deriving DecidableEq, Repr

/-- The readers of what is nested in a command. -/
structure Inner where
  list : ListKind → Reader Command
  command : Reader Command
  close : Reader Unit

def reservedWords : List String :=
  ["!", "case", "do", "done", "elif", "else", "esac", "fi", "for", "if", "in", "then", "until",
    "while", "\x7b", "\x7d"]

def specialCommands : List String :=
  [".", ":", "break", "continue", "eval", "exec", "exit", "export", "local", "readonly", "return",
    "set", "shift", "times", "trap", "unset"]

namespace Token

def describe : Token → String
  | .word _ => "word"
  | .reserved text => "\"" ++ text ++ "\""
  | .operator text => "\"" ++ text ++ "\""
  | .redirect _ _ _ => "redirection"
  | .newline => "newline"
  | .finish => "end of file"

def endsList : Token → Bool
  | .finish => true
  | .operator text => text == ")" || text == ";;"
  | .reserved text => ["do", "done", "elif", "else", "esac", "fi", "then", "\x7d"].contains text
  | _ => false

def isOperator (text : String) : Token → Bool
  | .operator other => other == text
  | _ => false

def isReserved (text : String) : Token → Bool
  | .reserved other => other == text
  | _ => false

/-- The word that a token is, also if it has a meaning of its own elsewhere. -/
def word? : Token → Option Word
  | .word parts => some parts
  | .reserved text => some [.text text.toList false]
  | _ => none

end Token

namespace Reader

/-! ### Tokens -/

/-- Fails because of a token; the complaint may tell what should be there. -/
def unexpected {α : Type} (token : Token) (expected? : Option String) : Reader α :=
  let hint := match expected? with
    | some text => s!" (expecting {text})"
    | none => ""
  fail s!"{token.describe} unexpected{hint}"

def hold (token : Token) : Reader Unit :=
  modify fun source => { source with held? := some token }

def skipBlanks : Nat → Reader Unit
  | 0 => return
  | bound + 1 => do
    match ← peek with
    | some '#' =>
      modify fun source => { source with rest := source.rest.dropWhile (· ≠ '\n') }
      skipBlanks bound
    | some c =>
      if isSpace c then
        drop
        skipBlanks bound
    | none => return

/-- Forgets the aliases whose text has ended: whether the last one ends with a blank. -/
def endAliases : Reader Bool := fun source =>
  let ended := source.inserted.takeWhile fun word => source.rest.length ≤ word.left
  .ok (ended.any (·.endsBlank), { source with inserted := source.inserted.drop ended.length })

def operator? : Char → Reader (Option Token)
  | '(' => do
    drop
    return some (.operator "(")
  | ')' => do
    drop
    return some (.operator ")")
  | c => do
    if c = ';' || c = '&' || c = '|' then
      drop
      return some (.operator (String.ofList (if ← accept c then [c, c] else [c])))
    else return none

def redirection (c : Char) (stream? : Option Nat) : Reader Token := do
  drop
  if c = '>' then
    let stream := stream?.getD 1
    if ← accept '>' then return .redirect stream .appendTo false
    else if ← accept '|' then return .redirect stream .overwrite false
    else if ← accept '&' then return .redirect stream .sameAs false
    else return .redirect stream .writeTo false
  else
    let stream := stream?.getD 0
    if ← accept '<' then
      let indented ← accept '-'
      let number := (← get).numbered
      modify fun source => { source with numbered := number + 1 }
      return .redirect stream (.textHere number) indented
    else if ← accept '&' then return .redirect stream .sameAs false
    else if ← accept '>' then return .redirect stream .readAndWrite false
    else return .redirect stream .readFrom false

/-- The stream that is named before a redirection: none or one digit. -/
def streamBefore? : Word → Option (Option Nat)
  | [] => some none
  | [.text [c] false] => if isDecimalDigit c then some (some (c.toNat - 48)) else none
  | _ => none

/-- The next token as it stands. Without `expanding` nothing in a word is expanded. -/
def plainToken (inner : Inner) (expanding : Bool) : Reader Token := do
  let bound ← bound
  match ← peek with
  | none => return .finish
  | some '\n' =>
    drop
    return .newline
  | some c =>
    match ← operator? c with
    | some token => return token
    | none =>
      let word ← parts (inner.list .any) inner.close expanding bound .plain
      match ← peek, streamBefore? word with
      | some '<', some stream? => redirection '<' stream?
      | some '>', some stream? => redirection '>' stream?
      | _, _ => return .word word

/-- Reads a token that counts as expected. The number bounds the newlines that are skipped and the
aliases that are put in. -/
def tokenFrom (inner : Inner) (expecting : Expecting) : Nat → Reader Token
  | 0 => return .finish
  | bound + 1 => do
    let held? := (← get).held?
    let afterBlank ← match held? with
      | some _ => pure false
      | none =>
        skipBlanks (← Reader.bound)
        endAliases
    let token ← match held? with
      | some token =>
        modify fun source => { source with held? := none }
        pure token
      | none => plainToken inner true
    match token with
    | .newline =>
      if expecting.newlines then
        textsHere (inner.list .any) inner.close
        tokenFrom inner expecting bound
      else return .newline
    | .word [.text chars false] =>
      let source ← get
      if expecting.reserved && reservedWords.contains (String.ofList chars) then
        return .reserved (String.ofList chars)
      else if (expecting.aliases || afterBlank) && source.inserted.all (·.name ≠ chars) then
        match OrderedMap.get? chars source.aliases with
        | some text =>
          let endsBlank := text.getLast?.any isSpace
          set { source with
            rest := text ++ source.rest
            inserted := ⟨chars, source.rest.length, endsBlank⟩ :: source.inserted }
          tokenFrom inner expecting bound
        | none => return token
      else return token
    | token => return token

def token (inner : Inner) (expecting : Expecting) : Reader Token := do
  tokenFrom inner expecting (← bound)

def expectReserved (inner : Inner) (expecting : Expecting) (text : String) : Reader Unit := do
  let token ← token inner expecting
  if !token.isReserved text then unexpected token (some ("\"" ++ text ++ "\""))

def expectOperator (inner : Inner) (text : String) : Reader Unit := do
  let token ← token inner .anything
  if !token.isOperator text then unexpected token (some ("\"" ++ text ++ "\""))

/-! ### Simple commands -/

/-- The text that ends a text in the script: a word whose quotes are dropped. -/
def terminatorText (word : Word) : List Char := word.flatMap fun
  | .text octets _ => octets
  | _ => []

def isQuotedPart : Part → Bool
  | .text _ quoted => quoted
  | _ => false

def target (inner : Inner) (stream : Nat) (connection : Connection) (indented : Bool) :
    Reader (Redirection Word) := do
  match connection with
  | .textHere number =>
    skipBlanks (← bound)
    match ← plainToken inner false with
    | .word word =>
      let literal := word.any isQuotedPart
      modify fun source => { source with
        pending := source.pending ++ [⟨number, terminatorText word, indented, literal⟩] }
      return ⟨stream, connection, []⟩
    | token => unexpected token none
  | connection =>
    match ← token inner .anything with
    | .word word => return ⟨stream, connection, word⟩
    | token => unexpected token none

def assignment? : Word → Option (List Char × Word)
  | .text chars false :: parts =>
    let name := chars.takeWhile isNamePart
    match chars.drop name.length with
    | '=' :: rest =>
      if isName name then some (name, if rest = [] then parts else .text rest false :: parts)
      else none
    | _ => none
  | _ => none

/-- What becomes of the name before two brackets: the definition of a function. -/
def definition (inner : Inner) (name : Word) : Reader Command := do
  expectOperator inner ")"
  match name with
  | [.text chars false] =>
    if isName chars && !specialCommands.contains (String.ofList chars) then
      let line := (← get).line
      return .define line chars (← inner.command)
    else fail "Bad function name"
  | _ => fail "Bad function name"

def simpleFrom (inner : Inner) : Nat → Simple Word → Reader Command
  | 0, found => return .simple found
  | bound + 1, found => do
    match ← token inner ⟨false, false, found.words.isEmpty⟩ with
    | .word word =>
      match assignment? word with
      | some assignment =>
        if found.words.isEmpty then
          simpleFrom inner bound { found with assignments := found.assignments ++ [assignment] }
        else simpleFrom inner bound { found with words := found.words ++ [word] }
      | none => simpleFrom inner bound { found with words := found.words ++ [word] }
    | .redirect stream connection indented =>
      let redirection ← target inner stream connection indented
      simpleFrom inner bound { found with redirections := found.redirections ++ [redirection] }
    | .operator "(" =>
      match found with
      | ⟨_, [], [name], []⟩ => definition inner name
      | found =>
        hold (.operator "(")
        return .simple found
    | token =>
      hold token
      return .simple found

/-! ### Commands made of commands -/

def redirections (inner : Inner) : Nat → Reader (List (Redirection Word))
  | 0 => return []
  | bound + 1 => do
    match ← token inner .commandHere with
    | .redirect stream connection indented =>
      let redirection ← target inner stream connection indented
      return redirection :: (← redirections inner bound)
    | token =>
      hold token
      return []

def choice (inner : Inner) : Nat → Reader Command
  | 0 => return .nothing
  | bound + 1 => do
    let condition ← inner.list .nonempty
    expectReserved inner .anything "then"
    let yes ← inner.list .nonempty
    match ← token inner .anything with
    | .reserved "elif" => return .choice condition yes (← choice inner bound)
    | .reserved "else" => return .choice condition yes (← inner.list .nonempty)
    | token =>
      hold token
      return .choice condition yes .nothing

def loop (inner : Inner) (negated : Bool) : Reader Command := do
  let condition ← inner.list .nonempty
  expectReserved inner .anything "do"
  return .loop negated condition (← inner.list .nonempty)

def wordsUpTo (inner : Inner) : Nat → Reader (List Word × Token)
  | 0 => return ([], .finish)
  | bound + 1 => do
    match ← token inner .anything with
    | .word word =>
      let (words, last) ← wordsUpTo inner bound
      return (word :: words, last)
    | token => return ([], token)

/-- A loop over words, or over the parameters if there are none, after the word that starts it. -/
def each (inner : Inner) (line : Nat) : Reader Command := do
  match ← token inner .anything with
  | .word [.text name false] =>
    if !isName name then fail "Bad for loop variable"
    let words ← match ← token inner .command with
      | .reserved "in" => do
        let (words, last) ← wordsUpTo inner (← bound)
        match last with
        | .newline => pure words
        | .operator ";" => pure words
        | token => unexpected token none
      | token => do
        if !token.isOperator ";" then hold token
        pure [[.parameter ['@'] .none true]]
    expectReserved inner .command "do"
    return .each line name words (← inner.list .nonempty)
  | _ => fail "Bad for loop variable"

/-- The patterns of a case from the first one on. A sign in the place of a pattern repeats the
word before it. -/
def patterns (inner : Inner) (before : Word) (first : Token) : Nat → Reader (List Word)
  | 0 => return []
  | bound + 1 => do
    let word := first.word?.getD before
    match ← token inner .anything with
    | .operator "|" => return word :: (← patterns inner word (← token inner .anything) bound)
    | .operator ")" => return [word]
    | token => unexpected token (some "\")\"")

def cases (inner : Inner) (subject : Word) : Nat → Reader (List (List Word × Command))
  | 0 => return []
  | bound + 1 => do
    let first ← token inner .keyword
    if first.isReserved "esac" then return []
    let first ← if first.isOperator "(" then token inner .anything else pure first
    let found ← patterns inner subject first bound
    let body ← inner.list .any
    match ← token inner .keyword with
    | .reserved "esac" => return [(found, body)]
    | .operator ";;" => return (found, body) :: (← cases inner subject bound)
    | token => unexpected token (some "\";;\"")

def selection (inner : Inner) (line : Nat) : Reader Command := do
  match ← token inner .anything with
  | .word word =>
    expectReserved inner .command "in"
    return .select line word (← cases inner word (← bound))
  | token => unexpected token (some "word")

def connected (inner : Inner) (line : Nat) (command : Command) : Reader Command := do
  match ← redirections inner (← bound) with
  | [] => return command
  | found => return .redirected line command found

def command (inner : Inner) (expecting : Expecting) : Reader Command := do
  let first ← token inner expecting
  let line := (← get).line
  match first with
  | .reserved "if" =>
    let found ← choice inner (← bound)
    expectReserved inner .anything "fi"
    connected inner line found
  | .reserved "while" =>
    let found ← loop inner false
    expectReserved inner .anything "done"
    connected inner line found
  | .reserved "until" =>
    let found ← loop inner true
    expectReserved inner .anything "done"
    connected inner line found
  | .reserved "for" =>
    let found ← each inner line
    expectReserved inner .anything "done"
    connected inner line found
  | .reserved "case" => connected inner line (← selection inner line)
  | .operator "(" =>
    let body ← inner.list .nonempty
    expectOperator inner ")"
    match ← redirections inner (← bound) with
    | [] => return .inner line body
    | found => return .inner line (.redirected line body found)
  | .reserved "\x7b" =>
    let body ← inner.list .nonempty
    expectReserved inner .anything "\x7d"
    connected inner line body
  | .word word =>
    hold (.word word)
    simpleFrom inner (← bound) ⟨line, [], [], []⟩
  | .redirect stream connection indented =>
    hold (.redirect stream connection indented)
    simpleFrom inner (← bound) ⟨line, [], [], []⟩
  | token => unexpected token none

def piped (inner : Inner) : Nat → Reader (List Command)
  | 0 => return []
  | bound + 1 => do
    match ← token inner .anything with
    | .operator "|" =>
      let next ← command inner .command
      return next :: (← piped inner bound)
    | token =>
      hold token
      return []

def pipeline (inner : Inner) (expecting : Expecting) : Reader Command := do
  let first ← token inner expecting
  let negated := first.isReserved "!"
  if !negated then hold first
  let first ← command inner (if negated then .commandHere else .anything)
  let command ← match ← piped inner (← bound) with
    | [] => pure first
    | others => pure (.pipe (first :: others))
  return if negated then .negated command else command

def conditional (inner : Inner) : Nat → Command → Reader Command
  | 0, sofar => return sofar
  | bound + 1, sofar => do
    match ← token inner .anything with
    | .operator "&&" => conditional inner bound (.both sofar (← pipeline inner .command))
    | .operator "||" => conditional inner bound (.either sofar (← pipeline inner .command))
    | token =>
      hold token
      return sofar

/-! ### Lists -/

/-- The commands of a list, the first ones of which may be read already: nothing if there is none. -/
def listFrom (inner : Inner) (kind : ListKind) : Nat → Bool → List Command → Reader (List Command)
  | 0, _, found => return found
  | bound + 1, mayEnd, found => do
    let onLine := kind == .line
    let first ← token inner ⟨!onLine, true, true⟩
    match first with
    | .newline =>
      textsHere (inner.list .any) inner.close
      return found
    | .finish =>
      textsHere (inner.list .any) inner.close
      hold .finish
      return found
    | first =>
      hold first
      if !onLine && mayEnd && first.endsList then return found
      let next ← conditional inner (← Reader.bound) (← pipeline inner .anything)
      match ← token inner .anything with
      | .operator "&" => listFrom inner kind bound true (found ++ [.background next])
      | .operator ";" => listFrom inner kind bound true (found ++ [next])
      | .newline =>
        hold .newline
        listFrom inner kind bound true (found ++ [next])
      | .finish =>
        textsHere (inner.list .any) inner.close
        hold .finish
        return found ++ [next]
      | token =>
        if onLine then unexpected token none
        hold token
        return found ++ [next]

def Command.ofList : List Command → Command
  | [] => .nothing
  | [command] => command
  | command :: others => .sequence command (ofList others)

def list (inner : Inner) (kind : ListKind) : Reader Command := do
  return Command.ofList (← listFrom inner kind (← bound) (kind == .any) [])

def innerOf : Nat → Inner
  | 0 => ⟨fun _ => return .nothing, return .nothing, return⟩
  | depth + 1 =>
    { list := fun kind source => list (innerOf depth) kind source
      command := fun source => command (innerOf depth) .command source
      close := fun source => expectOperator (innerOf depth) ")" source }

/-- The commands of the next line; nothing at the end of the script. -/
def nextLine : Reader (Option Command) := do
  modify fun source => { source with held? := none, pending := [] }
  let bound ← bound
  let inner := innerOf bound
  let first ← token inner .commandHere
  match first with
  | .finish =>
    hold .finish
    return none
  | first =>
    hold first
    return some (← list inner .line)

def document : Reader Word := do
  let bound ← bound
  let inner := innerOf bound
  parts (inner.list .any) inner.close true bound .document

def atEnd : Reader Bool := fun source =>
  .ok (source.held? matches some .finish, source)

end Reader
end Proctor.Machine.Shell
