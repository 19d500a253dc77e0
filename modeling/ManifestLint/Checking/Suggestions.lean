import ManifestLint.Manifest.Realm
import ManifestLint.Registry.Lookup
import ManifestLint.Suggestion.Closest

/-!
# Suggestions of the checks

What a user may have meant by a realm, the address of an index, an author, a package or a version.
An address is taken for the public index while it is a part of its address, or close to the part of
the same length.  A suggestion that only repeats what was written is none.
-/

namespace ManifestLint

/-- The realm that was most likely meant. -/
def closestRealm (text : String) : String :=
  Suggestion.closest text Realm.names Realm.shared.name

/-- The public index, if it is what was most likely meant. -/
def closestIndex? (text : String) : Option String :=
  let url := publicIndexUrl.toList
  let typed := text.toList
  if typed.isPrefixOf url
      || (Suggestion.relativeDistance typed (url.take typed.length)).atMostQuarter then
    some publicIndexUrl
  else none

/-- The closest one of some options, if there are any and it is not the text itself. -/
def closestOther? (text : String) (options : Option (List String)) : Option String :=
  match options.getD [] with
  | [] => none
  | option :: rest =>
    let closest := Suggestion.closest text (option :: rest) text
    if closest = text then none else some closest

namespace Lookup

/-- The author that was most likely meant. -/
def closestAuthor (handle : Handle) (author : String) : Lookup (Option String) := do
  return closestOther? author (← authorNames handle)

/-- The package of an author that was most likely meant. -/
def closestPackage (handle : Handle) (author name : String) : Lookup (Option String) := do
  return closestOther? name (← packageNames handle author)

/-- The version of a package that was most likely meant. -/
def closestVersion (handle : Handle) (author name version : String) :
    Lookup (Option String) := do
  return closestOther? version (← versions handle author name)

end Lookup

end ManifestLint
