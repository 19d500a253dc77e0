import ManifestLint.Collections.Entries

/-!
# Working folder

The folder in which the program runs, as far as the program can see it: the files that it may be
asked for, under their paths.  Different spellings of a path name one file; `normalPath` is the
spelling that messages show.
-/

namespace ManifestLint

/-- The parts of a path that lead somewhere. -/
def pathSteps (path : List Char) : List (List Char) :=
  (path.splitOn '/').filter fun part => part ≠ [] && part ≠ ['.']

/-- The root that a path starts at: none, or one slash; exactly two slashes are kept. -/
def pathRoot (path : List Char) : List Char :=
  match (path.takeWhile (· = '/')).length with
  | 0 => []
  | 2 => ['/', '/']
  | _ => ['/']

/-- A path without repeated slashes, without steps that stay in place and without a slash at its
end. -/
def normalPath (path : String) : String :=
  let text := pathRoot path.toList ++ List.intercalate ['/'] (pathSteps path.toList)
  if text.isEmpty then "." else .ofList text

/-- The working folder: where it lies, and the texts of its files under their normal paths. -/
structure Folder where
  location : String
  files : Entries String String

namespace Folder

/-- The text of the file under a path. -/
def read? (folder : Folder) (path : String) : Option String :=
  folder.files.get? (normalPath path)

/-- Whether a path as it was written leads to a file; if it ends in a slash or a point it could only
lead to a folder. -/
def leadsToFile (folder : Folder) (path : String) : Bool :=
  match (path.toList.splitOn '/').getLast? with
  | some last => last ≠ [] && last ≠ ['.'] && (folder.read? path).isSome
  | none => false

end Folder

end ManifestLint
