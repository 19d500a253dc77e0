import ManifestLint.Text.Blank
import ManifestLint.Text.Lower

/-!
# Addresses of indexes

An index is a repository of one host.  Its address is written as a URL in any letter case, with
blanks around it, slashes behind it or a `.git` at its end; the address itself holds owner and
repository in lower case, so that spellings of one index are one address.

* `Address.parse` reads a URL, `Address.url` writes one.
-/

namespace ManifestLint

open ManifestLint.Text

/-- The owner and the name of a repository, in lower case. -/
structure Address where
  owner : String
  repository : String
  deriving DecidableEq, Repr

/-- What all URLs of indexes start with, in lower case. -/
def hostUrl : String := "https://github.com/"

/-- Why a URL is no address of an index. -/
inductive AddressError where
  /-- It does not lead to the host. -/
  | otherHost (url : String)
  /-- It leads to no repository of the host. -/
  | noRepository (url : String)
  /-- It was asked for and is no address of an index. -/
  | unsupported (url : String)
  deriving DecidableEq, Repr

/-- The wording of an address error. -/
def AddressError.message : AddressError → String
  | otherHost url => s!"Unsupported registry '{url}': only GitHub indexes are supported"
  | noRepository url =>
    s!"Unsupported registry '{url}': expected {hostUrl}" ++ "<owner>/<repo>"
  | unsupported url => s!"Unsupported registry '{url}'"

namespace Address

/-- The URL of an index. -/
def url (address : Address) : String := hostUrl ++ address.owner ++ "/" ++ address.repository

/-- Owner and repository of an index. -/
def text (address : Address) : String := address.owner ++ "/" ++ address.repository

/-- A path without a `.git` at its end. -/
def dropGit (path : List Char) : List Char :=
  if ['.', 'g', 'i', 't'].isSuffixOf path then path.take (path.length - 4) else path

/-- The parts of a path between its slashes. -/
def pathParts (path : List Char) : List (List Char) :=
  (path.splitOn '/').filter (!·.isEmpty)

/-- Reads a URL. -/
def parse (url : String) : Except AddressError Address :=
  let text := trim isBlank url.toList
  if hostUrl.toList.isPrefixOf (lowerChars text) then
    let path := trim (· = '/') (text.drop hostUrl.length)
    match pathParts (dropGit path) with
    | [owner, repository] =>
      .ok ⟨.ofList (lowerChars owner), .ofList (lowerChars repository)⟩
    | _ => .error (.noRepository url)
  else .error (.otherHost url)

end Address

end ManifestLint
