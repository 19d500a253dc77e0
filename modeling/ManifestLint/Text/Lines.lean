/-!
# Lines

A text is cut into lines at every line end that Unicode knows, a carriage return with a line feed
counting as one.  A line end closes its line, so a text that ends with one has no empty last line.
`unifyLineEnds` is the other reading of line ends, of files: there the two ASCII line ends and
their pair all become a line feed, and nothing else counts.
-/

namespace ManifestLint.Text

/-- Whether a character ends a line by itself. -/
def isLineEnd (c : Char) : Bool :=
  c.toNat ∈ [0x0A, 0x0B, 0x0C, 0x0D, 0x1C, 0x1D, 0x1E, 0x85, 0x2028, 0x2029]

/-- The lines of a text, without their ends. -/
def splitLines : List Char → List (List Char)
  | [] => []
  | '\r' :: '\n' :: rest => [] :: splitLines rest
  | c :: rest =>
    if isLineEnd c then [] :: splitLines rest
    else
      match splitLines rest with
      | [] => [[c]]
      | line :: lines => (c :: line) :: lines

/-- A text whose line ends are all single line feeds. -/
def unifyLineEnds : List Char → List Char
  | [] => []
  | '\r' :: '\n' :: rest => '\n' :: unifyLineEnds rest
  | c :: rest => (if c = '\r' then '\n' else c) :: unifyLineEnds rest

end ManifestLint.Text
