import ManifestLint.Text.Digit

/-!
# Addresses of hosts

A host may be named by a number, in one of two notations: four numbers with points between them, or
eight groups of hexadecimal digits with colons between them.

* `isFourPart` and `isEightGroup` tell which texts are addresses, `resemblesFourPart` which texts
  are taken for one and refused if they are none.
-/

namespace ManifestLint.HostName

open ManifestLint.Text

/-- Whether a text is a number below 256 without leading zeros. -/
def isOctet (text : List Char) : Bool :=
  !text.isEmpty && text.length ≤ 3 && text.all Char.isDigit
    && (text = ['0'] || text.head? ≠ some '0') && Nat.ofDigitChars 10 text 0 < 256

/-- Whether a text is an address of four numbers. -/
def isFourPart (text : List Char) : Bool :=
  let parts := text.splitOn '.'
  parts.length = 4 && parts.all isOctet

/-- Whether a text looks like four numbers with one character of any kind between each two of them;
a digit may be such a character too. -/
def resemblesFourPart (text : List Char) : Bool :=
  let rows := (text.map fun c => if c.isDigit then c else '.').splitOn '.'
  let places := rows.foldl (fun places row => places + (row.length - 1) / 2) 0
  rows.all (!·.isEmpty) && rows.length ≤ 4 && 4 ≤ rows.length + places

/-- Whether a text is a group of hexadecimal digits. -/
def isGroup (text : List Char) : Bool :=
  !text.isEmpty && text.length ≤ 4 && text.all fun c => (hexValue? c).isSome

/-- The groups on one side of a gap: none if the address starts or ends with the gap. -/
def sideGroups (side : List (List Char)) : List (List Char) := if side = [[]] then [] else side

/-- Whether the parts between colons are an address.  One empty part, a gap, may stand for groups
of zeros; at either end of the address a gap takes two colons. -/
def areGroups : List (List Char) → Bool
  | [] => false
  | first :: rest =>
    let inner := rest.dropLast
    if inner.any (·.isEmpty) then
      let start := (inner.takeWhile (!·.isEmpty)).length
      let groups := sideGroups (first :: rest.take start) ++ sideGroups (rest.drop (start + 1))
      groups.all isGroup && groups.length < 8
    else rest.length = 7 && isGroup first && rest.all isGroup

/-- Whether a text is an address of eight groups, the last two of which may be written as four
numbers.  Behind a percent sign may stand the name of a zone. -/
def isEightGroup (text : List Char) : Bool :=
  let address := text.takeWhile (· ≠ '%')
  let parts := address.splitOn ':'
  let zoneFits :=
    match text.dropWhile (· ≠ '%') with
    | [] => true
    | _ :: zone => !zone.isEmpty && '%' ∉ zone
  let groups? :=
    match parts.getLast? with
    | some last =>
      if '.' ∉ last then some parts
      else if isFourPart last then some (parts.dropLast ++ [['0'], ['0']])
      else none
    | none => none
  zoneFits && groups?.any areGroups

end ManifestLint.HostName
