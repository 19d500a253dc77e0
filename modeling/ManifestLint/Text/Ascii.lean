import ManifestLint.Text.Quoted

/-!
# ASCII text

Some texts may hold ASCII characters only.  `asciiError?` says where a text holds others.
-/

namespace ManifestLint.Text

/-- Whether a character is of ASCII. -/
def isAscii (c : Char) : Bool := c.toNat < 0x80

/-- The first run of characters in a text that are not of ASCII: its first character, its place and
its length. -/
structure AsciiError where
  first : Char
  offset : Nat
  length : Nat
  deriving DecidableEq, Repr

/-- Where a text is not ASCII, if anywhere. -/
def asciiError? (text : List Char) : Option AsciiError :=
  match text.dropWhile isAscii with
  | [] => none
  | first :: rest =>
    some ⟨first, (text.takeWhile isAscii).length, (rest.takeWhile (!isAscii ·)).length + 1⟩

/-- The wording of an error: one character is shown by its code, several by their places. -/
def AsciiError.message (error : AsciiError) : String :=
  let place :=
    if error.length = 1 then
      let shown := String.ofList (codeEscape error.first)
      s!"character '\\{shown}' in position {error.offset}"
    else s!"characters in position {error.offset}-{error.offset + error.length - 1}"
  s!"'ascii' codec can't encode {place}: ordinal not in range(128)"

end ManifestLint.Text
