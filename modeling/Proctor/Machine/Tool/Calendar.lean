import Proctor.Machine.Tool.Basic

/-! Dates and times: how they are told, how they are read, and the tool for both. Days are counted from
the first of January 1970, and all times are those of Greenwich. -/
namespace Proctor.Machine

/-! ### Days -/

namespace Calendar

def civil (day : Int) : Int × Nat × Nat :=
  let z := day + 719468
  let era := z.fdiv 146097
  let inEra := (z - era * 146097).toNat
  let yearOfEra := (inEra - inEra / 1460 + inEra / 36524 - inEra / 146096) / 365
  let dayOfYear := inEra - (365 * yearOfEra + yearOfEra / 4 - yearOfEra / 100)
  let m := (5 * dayOfYear + 2) / 153
  let day := dayOfYear - (153 * m + 2) / 5 + 1
  let month := if m < 10 then m + 3 else m - 9
  let year : Int := yearOfEra + era * 400
  (if month ≤ 2 then year + 1 else year, month, day)

def dayOf (year : Int) (month day : Nat) : Int :=
  let y := if month ≤ 2 then year - 1 else year
  let era := y.fdiv 400
  let yearOfEra := (y - era * 400).toNat
  let m := if 2 < month then month - 3 else month + 9
  let dayOfYear := (153 * m + 2) / 5 + day - 1
  let inEra := yearOfEra * 365 + yearOfEra / 4 - yearOfEra / 100 + dayOfYear
  era * 146097 + (inEra : Int) - 719468

def isLeap (year : Int) : Bool := year % 4 = 0 && (year % 100 ≠ 0 || year % 400 = 0)

def daysIn (year : Int) (month : Nat) : Nat :=
  if month = 2 then (if isLeap year then 29 else 28)
  else if [4, 6, 9, 11].contains month then 30 else 31

def weekday (day : Int) : Nat := ((day + 4) % 7).toNat

def dayOfYear (day : Int) : Nat := (day - dayOf (civil day).1 1 1).toNat

/-- The year and the week of a day, where the first week of a year holds its first Thursday. -/
def week (day : Int) : Int × Nat :=
  let thursday := day - ((day + 3) % 7) + 3
  ((civil thursday).1, dayOfYear thursday / 7 + 1)

def monthNames : List String :=
  ["January", "February", "March", "April", "May", "June", "July", "August", "September", "October",
    "November", "December"]

def dayNames : List String :=
  ["Sunday", "Monday", "Tuesday", "Wednesday", "Thursday", "Friday", "Saturday"]

/-! ### Telling -/

def filled (fill : Char) (width : Nat) (n : Int) : List Char :=
  let digits := digitsOf 10 n.natAbs
  let digits := if n < 0 then '-' :: digits else digits
  List.replicate (width - digits.length) fill ++ digits

/-- The text that a letter of a format stands for, and how it is filled up if it is a number: the number,
the character and the width. -/
inductive Told where
  | number (n : Int) (fill : Char) (width : Nat)
  | text (octets : List Char)

/-- What a letter tells about a time in seconds, if it has a meaning. -/
def told? (seconds : Int) (letter : Char) : Option Told :=
  let day := seconds.fdiv 86400
  let second := (seconds % 86400).toNat
  let (year, month, dayOfMonth) := civil day
  let hour := second / 3600
  let half := if hour % 12 = 0 then 12 else hour % 12
  let name (names : List String) (i : Nat) : List Char := ((names.getD i "").toList)
  let weekday := weekday day
  match letter with
  | 'Y' => some (.number year '0' 1)
  | 'C' => some (.number (year / 100) '0' 2)
  | 'y' => some (.number (year % 100) '0' 2)
  | 'm' => some (.number month '0' 2)
  | 'd' => some (.number dayOfMonth '0' 2)
  | 'e' => some (.number dayOfMonth ' ' 2)
  | 'j' => some (.number (dayOfYear day + 1) '0' 3)
  | 'H' => some (.number hour '0' 2)
  | 'k' => some (.number hour ' ' 2)
  | 'I' => some (.number half '0' 2)
  | 'l' => some (.number half ' ' 2)
  | 'M' => some (.number (second / 60 % 60) '0' 2)
  | 'S' => some (.number (second % 60) '0' 2)
  | 'N' => some (.number 0 '0' 9)
  | 's' => some (.number seconds '0' 1)
  | 'q' => some (.number ((month + 2) / 3) '0' 1)
  | 'u' => some (.number (if weekday = 0 then 7 else weekday) '0' 1)
  | 'w' => some (.number weekday '0' 1)
  | 'U' => some (.number ((dayOfYear day + 7 - weekday) / 7) '0' 2)
  | 'W' => some (.number ((dayOfYear day + 7 - (weekday + 6) % 7) / 7) '0' 2)
  | 'V' => some (.number (week day).2 '0' 2)
  | 'G' => some (.number (week day).1 '0' 1)
  | 'g' => some (.number ((week day).1 % 100) '0' 2)
  | 'a' => some (.text ((name dayNames weekday).take 3))
  | 'A' => some (.text (name dayNames weekday))
  | 'b' => some (.text ((name monthNames (month - 1)).take 3))
  | 'h' => some (.text ((name monthNames (month - 1)).take 3))
  | 'B' => some (.text (name monthNames (month - 1)))
  | 'p' => some (.text (if hour < 12 then "AM" else "PM").toList)
  | 'P' => some (.text (if hour < 12 then "am" else "pm").toList)
  | 'z' => some (.text "+0000".toList)
  | 'Z' => some (.text "UTC".toList)
  | 'n' => some (.text ['\n'])
  | 't' => some (.text ['\t'])
  | '%' => some (.text ['%'])
  | _ => none

def composed : List (Char × String) :=
  [('F', "%Y-%m-%d"), ('T', "%H:%M:%S"), ('D', "%m/%d/%y"), ('R', "%H:%M"), ('r', "%I:%M:%S %p"),
    ('c', "%a %b %e %H:%M:%S %Y"), ('x', "%m/%d/%y"), ('X', "%H:%M:%S")]

def shown (seconds : Int) : Nat → List Char → List Char
  | 0, format => format
  | _, [] => []
  | bound + 1, '%' :: rest =>
    let flags := rest.takeWhile fun c => "-_0^#+".toList.contains c
    let digits := (rest.drop flags.length).takeWhile isDecimalDigit
    let width? := if digits = [] then none else some (ofDigits 10 digits)
    let after := rest.drop (flags.length + digits.length)
    match after with
    | ':' :: 'z' :: after => "+00:00".toList ++ shown seconds bound after
    | letter :: after =>
      let inside? := (composed.lookup letter).map fun format => shown seconds bound format.toList
      let told? := match inside? with
        | some octets => some (Told.text octets)
        | none => told? seconds letter
      match told? with
      | none => '%' :: shown seconds bound rest
      | some (.text octets) =>
        let octets := if flags.contains '^' then octets.map Char.toUpper
          else if flags.contains '#' then
            (if letter = 'p' || letter = 'Z' then octets.map Char.toLower else octets.map Char.toUpper)
          else octets
        let fill := if flags.contains '0' then '0' else ' '
        List.replicate (width?.getD 0 - octets.length) fill ++ octets ++ shown seconds bound after
      | some (.number n fill width) =>
        let fill := if flags.contains '_' then ' ' else if flags.contains '0' then '0' else fill
        let width := if flags.contains '-' then 1 else max width (width?.getD 0)
        let width := if letter = 'N' then width?.getD 9 else width
        (filled fill width n).take (if letter = 'N' then width else 1000) ++ shown seconds bound after
    | [] => ['%']
  | bound + 1, c :: rest => c :: shown seconds bound rest

/-! ### Reading -/

/-- What was read of a time so far: its day, its second in that day, what is added in months and seconds,
and the number before a unit. -/
structure Reading where
  day : Int
  second? : Option Int
  dated : Bool
  months : Int
  seconds : Int

def named? (names : List String) (word : List Char) : Option Nat :=
  let word := word.map Char.toLower
  names.findIdx? fun name =>
    let name := name.toList.map Char.toLower
    word = name || word = name.take 3

/-- The seconds of a day that a text such as `10:30` spells. -/
def clock? (text : List Char) : Option Int :=
  let whole := text.takeWhile (· ≠ '.')
  match (Text.fields ':' whole).mapM fun part =>
      if part.length ≤ 2 then Tool.number? part else none with
  | some [h, m] => if h < 24 && m < 60 then some (h * 3600 + m * 60 : Nat) else none
  | some [h, m, s] => if h < 24 && m < 60 && s < 61 then some (h * 3600 + m * 60 + s : Nat) else none
  | _ => none

def validDay? (year : Int) (month day : Nat) : Option Int :=
  if 1 ≤ month && month ≤ 12 && 1 ≤ day && day ≤ daysIn year month then some (dayOf year month day)
  else none

def day? (text : List Char) : Option Int := do
  match (Text.fields '-' text).mapM Tool.number? with
  | some [y, m, d] => validDay? y m d
  | _ =>
    match (Text.fields '/' text).mapM Tool.number? with
    | some [m, d, y] => if 31 < m then validDay? m d y else validDay? y m d
    | _ =>
      let n ← Tool.number? text
      if text.length = 8 then validDay? (n / 10000 : Nat) (n / 100 % 100) (n % 100) else none

def zone? (text : List Char) : Option Int :=
  match text with
  | ['Z'] => some 0
  | sign :: digits =>
    if ["UTC", "GMT", "utc", "z"].contains (String.ofList text) then some 0
    else
      let digits := digits.filter (· ≠ ':')
      match Tool.number? digits with
      | some n =>
        let seconds : Int := if digits.length = 4 then (n / 100 * 3600 + n % 100 * 60 : Nat) else (n * 3600 : Nat)
        if sign = '+' then some seconds else if sign = '-' then some (-seconds) else none
      | none => none
  | [] => none

def unit? (word : List Char) : Option (Int × Int) :=
  let word := word.map Char.toLower
  let word := if word.getLast? = some 's' then word.dropLast else word
  [("year", (12, 0)), ("month", (1, 0)), ("fortnight", (0, 1209600)), ("week", (0, 604800)),
    ("day", (0, 86400)), ("hour", (0, 3600)), ("minute", (0, 60)), ("min", (0, 60)), ("second", (0, 1)),
    ("sec", (0, 1))].lookup (String.ofList word)

def Reading.add (reading : Reading) (n : Int) (unit : Int × Int) : Reading :=
  { reading with
    months := reading.months + n * unit.1, seconds := reading.seconds + n * unit.2 }

def clockIn? (word : List Char) : Option (Int × Int) :=
  let clock := word.takeWhile fun c => isDecimalDigit c || c == ':' || c == '.'
  let zone := word.drop clock.length
  match clock? clock, zone with
  | some second, [] => some (second, 0)
  | some second, zone => (zone? zone).map fun ahead => (second, ahead)
  | none, _ => none

def ofWord? (word : List Char) (reading : Reading) : Option Reading :=
  let lower := String.ofList (word.map Char.toLower)
  let dated (day : Int) : Reading :=
    { reading with day, dated := true }
  match lower with
  | "now" => some reading
  | "today" => some reading
  | "tomorrow" => some (reading.add 1 (0, 86400))
  | "yesterday" => some (reading.add (-1) (0, 86400))
  | _ =>
    match day? word, clockIn? word, Text.cutFirst? 'T' word with
    | some day, _, _ => some (dated day)
    | none, some (second, ahead), _ =>
      some { reading with second? := some second, seconds := reading.seconds - ahead }
    | none, none, parts? =>
      let (first, rest) := parts?.getD ([], [])
      match day? first, clockIn? rest with
      | some day, some (second, ahead) =>
        some { dated day with second? := some second, seconds := reading.seconds - ahead }
      | _, _ =>
        if reading.second?.isNone then none
        else (zone? word).map fun ahead => { reading with seconds := reading.seconds - ahead }

def namedDay? (year : Int) (words : List (List Char)) : Option (Int × List (List Char)) :=
  let words := words.map fun word => word.filter (· ≠ ',')
  let go (month : Nat) (day : List Char) (rest : List (List Char)) : Option (Int × List (List Char)) := do
    let day ← Tool.number? day
    match rest.head?.bind Tool.number? with
    | some year => return (← validDay? year (month + 1) day, rest.tail)
    | none => return (← validDay? year (month + 1) day, rest)
  match words with
  | first :: second :: rest =>
    match named? monthNames first, named? monthNames second with
    | some month, _ => go month second rest
    | none, some month => go month first rest
    | none, none => none
  | _ => none

def readWords : Nat → List (List Char) → Reading → Option Reading
  | 0, _, reading => some reading
  | _, [], reading => some reading
  | bound + 1, word :: others, reading =>
    let signless := match word with
      | '+' :: digits => digits
      | digits => digits
    let count? : Option Int := match String.ofList word with
      | "next" => some 1
      | "last" => some (-1)
      | _ => Tool.integer? signless
    match namedDay? (civil reading.day).1 (word :: others) with
    | some (day, rest) => readWords bound rest { reading with day, dated := true }
    | none =>
      match count?, others with
      | some n, unit :: rest =>
        match unit? unit with
        | some unit =>
          if rest.head? = some "ago".toList then readWords bound rest.tail (reading.add (-n) unit)
          else readWords bound rest (reading.add n unit)
        | none => (ofWord? word reading).bind (readWords bound others)
      | _, _ => (ofWord? word reading).bind (readWords bound others)

/-- The time in seconds that a text names, if one is now. -/
def ofText? (now : Int) (text : List Char) : Option Int :=
  match text with
  | '@' :: rest => Tool.integer? rest
  | text => do
    let words := (Text.fields ' ' text).filter (· ≠ [])
    let start : Reading := ⟨now.fdiv 86400, none, false, 0, 0⟩
    let reading ← readWords (words.length + 1) words start
    let second := reading.second?.getD (if reading.dated || text = [] then 0 else now % 86400)
    let (year, month, day) := civil reading.day
    let months := year * 12 + (month - 1 : Nat) + reading.months
    let first := dayOf (months.fdiv 12) ((months % 12).toNat + 1) 1
    return (first + (day - 1 : Nat)) * 86400 + second + reading.seconds

end Calendar

namespace Tool

def timeNow : Int := 1767225600

def exactFormats : List (String × String) :=
  [("date", "%Y-%m-%d"), ("hours", "%Y-%m-%dT%H%:z"), ("minutes", "%Y-%m-%dT%H:%M%:z"),
    ("seconds", "%Y-%m-%dT%H:%M:%S%:z"), ("ns", "%Y-%m-%dT%H:%M:%S,%N%:z")]

def date : Tool Unit := do
  let (options, names) ← options "uIRŘ" "drsfIŘ"
    [("date", 'd'), ("reference", 'r'), ("utc", 'u'), ("universal", 'u'), ("iso-8601", 'I'),
      ("rfc-email", 'R'), ("rfc-3339", 'Ř'), ("set", 's'), ("file", 'f')] 1
  let format? ← match names with
    | [] => pure none
    | ['+' :: format] => pure (some format)
    | [_] => pure none
    | _ :: extra :: _ => misused s!"extra operand {Quoting.text extra}" 1
  let invalid {α : Type} (text : List Char) : Tool α := refuse s!"invalid date {Quoting.text text}" 1
  let seconds ← match options.last? 'd', options.last? 'r', names with
    | some text, _, _ =>
      match Calendar.ofText? timeNow text with
      | some seconds => pure seconds
      | none => invalid text
    | none, some path, _ =>
      match (← files).find path with
      | .ok _ => pure timeNow
      | .error failure => refuse (plainly path failure) 1
    | none, none, [('+' :: _)] => pure timeNow
    | none, none, [text] => invalid text
    | _, _, _ => pure timeNow
  let exact (letter : Char) : Option String := (options.last? letter).map fun text =>
    ((exactFormats.find? fun (name, _) => text.isPrefixOf name.toList).map (·.2)).getD "%Y-%m-%d"
  let format := match format?, exact 'I', exact 'Ř' with
    | some format, _, _ => format
    | none, some format, _ => format.toList
    | none, none, some format => (format.replace "T" " ").toList
    | none, none, none =>
      (if options.has 'R' then "%a, %d %b %Y %H:%M:%S %z" else "%a %b %e %H:%M:%S %Z %Y").toList
  printLine (Calendar.shown seconds (40 * format.length + 40) format)

end Tool
end Proctor.Machine
