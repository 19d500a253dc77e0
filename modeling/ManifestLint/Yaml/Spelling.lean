import ManifestLint.Yaml.Graph

/-!
# Tags of plain scalars

A scalar without quotes is a null, a boolean, a number, a moment or a text, told apart by its
spelling alone.  Whole numbers may be binary, octal or hexadecimal, underscores may group digits,
and colons may separate sexagesimal places.  A double needs a point, and its exponent a sign.

* `spelledTag` finds the tag of a plain scalar.
-/

namespace ManifestLint.Yaml

/-- The words that are no text. -/
def words : List (String × Tag) := [
  ("", .null), ("~", .null), ("null", .null), ("Null", .null), ("NULL", .null),
  ("yes", .boolean), ("Yes", .boolean), ("YES", .boolean),
  ("no", .boolean), ("No", .boolean), ("NO", .boolean),
  ("true", .boolean), ("True", .boolean), ("TRUE", .boolean),
  ("false", .boolean), ("False", .boolean), ("FALSE", .boolean),
  ("on", .boolean), ("On", .boolean), ("ON", .boolean),
  ("off", .boolean), ("Off", .boolean), ("OFF", .boolean),
  ("<<", .merge), ("=", .principal), ("!", .other), ("&", .other), ("*", .other)]

/-- A text behind the sign that it may start with. -/
def unsigned : List Char → List Char
  | '-' :: rest => rest
  | '+' :: rest => rest
  | text => text

/-- A digit, or an underscore between digits. -/
def isGroupDigit (c : Char) : Bool := c.isDigit || c = '_'

/-- Whether a text is a digit followed by digits and underscores. -/
def isGrouped : List Char → Bool
  | [] => false
  | c :: rest => c.isDigit && rest.all isGroupDigit

/-- Whether a text is a sexagesimal place behind the first one: at most two digits, below sixty. -/
def isPlace : List Char → Bool
  | [d] => d.isDigit
  | [t, d] => '0' ≤ t && t ≤ '5' && d.isDigit
  | _ => false

/-- Whether a text is a hexadecimal digit or an underscore. -/
def isHexGroupDigit (c : Char) : Bool :=
  isGroupDigit c || ('a' ≤ c && c ≤ 'f') || ('A' ≤ c && c ≤ 'F')

/-- Whether a text is spelled as a whole number.  A binary, octal or hexadecimal one starts with a
zero, and underscores count as digits of these. -/
def isWhole (text : List Char) : Bool :=
  match unsigned text with
  | ['0'] => true
  | '0' :: 'b' :: digits => !digits.isEmpty && digits.all fun c => c ∈ ['0', '1', '_']
  | '0' :: 'x' :: digits => !digits.isEmpty && digits.all isHexGroupDigit
  | '0' :: digits => digits.all fun c => ('0' ≤ c && c ≤ '7') || c = '_'
  | digits =>
    match digits.splitOn ':' with
    | [] => false
    | whole :: places => isGrouped whole && places.all isPlace

/-- Whether a text is an exponent: its letter, a sign and digits; or nothing at all. -/
def isExponent : List Char → Bool
  | [] => true
  | e :: sign :: digits =>
    (e = 'e' || e = 'E') && (sign = '+' || sign = '-') && !digits.isEmpty
      && digits.all Char.isDigit
  | _ => false

/-- Whether a text is spelled as a decimal with a point.  Before the point stands a group of digits;
without one there has to be a digit behind the point, and no sign. -/
def isDecimal (text : List Char) : Bool :=
  let whole := (unsigned text).takeWhile (· ≠ '.')
  match (unsigned text).dropWhile (· ≠ '.') with
  | [] => false
  | _ :: rest =>
    let places := rest.takeWhile isGroupDigit
    isExponent (rest.dropWhile isGroupDigit)
      && (isGrouped whole || (text.head? = some '.' && isGrouped places))

/-- Whether a text is spelled as sexagesimal places with a point behind the last one. -/
def isSexagesimal (text : List Char) : Bool :=
  match (unsigned text).dropWhile (· ≠ '.') with
  | [] => false
  | _ :: rest =>
    match ((unsigned text).takeWhile (· ≠ '.')).splitOn ':' with
    | whole :: place :: places =>
      isGrouped whole && (place :: places).all isPlace && rest.all isGroupDigit
    | _ => false

/-- The words for infinity, which may have a sign. -/
def infinities : List String := [".inf", ".Inf", ".INF"]

/-- The words for the undefined value. -/
def undefinedWords : List String := [".nan", ".NaN", ".NAN"]

/-- Whether a text is spelled as a double. -/
def isDouble (text : List Char) : Bool :=
  infinities.contains (.ofList (unsigned text)) || undefinedWords.contains (.ofList text)
    || isDecimal text || isSexagesimal text

/-- A date and a time as they are written: the digits of the parts, those behind the point of the
seconds, and the zone, which is a letter, or a sign with hours and perhaps minutes. -/
structure WrittenMoment where
  year : List Char
  month : List Char
  day : List Char
  time : Option (List Char × List Char × List Char)
  fraction : List Char
  zone : Option (Option (Bool × List Char × List Char))

/-- A row of `least` to `most` digits at the start of a text, as long as possible, and what follows
it. -/
def someDigits? (least most : Nat) (text : List Char) : Option (List Char × List Char) :=
  let digits := (text.take most).takeWhile Char.isDigit
  if digits.length < least then none else some (digits, text.drop digits.length)

/-- What follows a character that a text starts with. -/
def behind? (c : Char) : List Char → Option (List Char)
  | [] => none
  | d :: rest => if c = d then some rest else none

/-- The zone that a text is. -/
def writtenZone? (text : List Char) : Option (Option (Bool × List Char × List Char)) :=
  match text with
  | ['Z'] => some none
  | sign :: rest =>
    if sign = '+' || sign = '-' then do
      let (hours, rest) ← someDigits? 1 2 rest
      if rest.isEmpty then return some (sign = '-', hours, [])
      else
        let (minutes, rest) ← someDigits? 2 2 (← behind? ':' rest)
        if rest.isEmpty then return some (sign = '-', hours, minutes) else none
    else none
  | [] => none

/-- The moment that a text is. -/
def writtenMoment? (text : List Char) : Option WrittenMoment := do
  let (year, rest) ← someDigits? 4 4 text
  let (month, rest) ← someDigits? 1 2 (← behind? '-' rest)
  let (day, rest) ← someDigits? 1 2 (← behind? '-' rest)
  if rest.isEmpty then return ⟨year, month, day, none, [], none⟩
  else
    let isGap (c : Char) : Bool := c = ' ' || c = '\t'
    let rest ←
      match rest with
      | 'T' :: rest | 't' :: rest => some rest
      | _ => if rest.head?.any isGap then some (rest.dropWhile isGap) else none
    let (hour, rest) ← someDigits? 1 2 rest
    let (minute, rest) ← someDigits? 2 2 (← behind? ':' rest)
    let (second, rest) ← someDigits? 2 2 (← behind? ':' rest)
    let (fraction, rest) :=
      match rest with
      | '.' :: rest => (rest.takeWhile Char.isDigit, rest.dropWhile Char.isDigit)
      | _ => ([], rest)
    let written : WrittenMoment := ⟨year, month, day, some (hour, minute, second), fraction, none⟩
    if rest.isEmpty then return written
    else return { written with zone := some (← writtenZone? (rest.dropWhile isGap)) }

/-- Whether a text is spelled as a moment.  A date without a time has two digits for the month and
two for the day. -/
def isMoment (text : List Char) : Bool :=
  match writtenMoment? text with
  | none => false
  | some written => written.time.isSome || text.length = 10

/-- The tag of a plain scalar.  A line feed at the end of a number or word does not count. -/
def spelledTag (text : List Char) : Tag :=
  let core := if 1 < text.length && text.getLast? = some '\n' then text.dropLast else text
  match words.find? fun (word, _) => word.toList = core with
  | some (_, tag) => tag
  | none =>
    if isDouble core then .double
    else if isWhole core then .whole
    else if isMoment core then .moment
    else .text

end ManifestLint.Yaml
