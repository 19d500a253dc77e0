import ManifestLint.Version.Order

/-!
# Requirements

A requirement is an operator and the version it is anchored on.  No operator means the same as a
caret: the same major version, or the same minor version while the major one is zero, from the
anchor upwards.  A pre-release is accepted only if the requirement is anchored on a pre-release of
the same three numbers.  A version whose text equals the requirement's is always accepted.

* `Operator.accepts` decides on a version from its order relative to the anchor.
* `satisfies` decides on a text, `latestSatisfying?` picks the newest of a list.
-/

namespace ManifestLint.Version

open ManifestLint.Text

/-- The operators of requirements. -/
inductive Operator where
  | caret
  | tilde
  | exact
  | atLeast
  | above
  | atMost
  | below
  deriving DecidableEq, Repr

/-- The spellings of the operators, each before those that start it. -/
def operatorTexts : List (List Char × Operator) := [
  (['>', '='], .atLeast), (['<', '='], .atMost), (['>'], .above), (['<'], .below),
  (['^'], .caret), (['~'], .tilde), (['='], .exact)]

/-- The operator of a requirement and the text of its version. -/
def splitOperator (requirement : List Char) : Operator × List Char :=
  let text := trim isBlank requirement
  match operatorTexts.find? fun spelling => spelling.1.isPrefixOf text with
  | some (spelling, operator) => (operator, trim isBlank (text.drop spelling.length))
  | none => (.caret, text)

/-- The version that a requirement is anchored on. -/
def anchor? (requirement : String) : Option Version :=
  parseChars? (splitOperator requirement.toList).2

/-- Whether an offered version is in the range of a requirement, given its order relative to the
anchor. -/
def Operator.accepts (operator : Operator) (anchor offered : Version) (order : Ordering) : Bool :=
  match operator with
  | .caret =>
    offered.major = anchor.major && (anchor.major ≠ 0 || offered.minor = anchor.minor)
      && order != .lt
  | .tilde => offered.major = anchor.major && offered.minor = anchor.minor && order != .lt
  | .exact => order == .eq
  | .atLeast => order != .lt
  | .above => order == .gt
  | .atMost => order != .gt
  | .below => order == .lt

/-- Whether a requirement may consider an offered version at all: a release, or a pre-release of the
anchor's own numbers where the anchor is a pre-release too. -/
def admitsPrerelease (anchor offered : Version) : Bool :=
  offered.prerelease = "" || (anchor.prerelease ≠ "" && anchor.triple = offered.triple)

/-- Whether a published version satisfies a requirement. -/
def satisfies (requirement published : String) : Except NotANumber Bool :=
  if strip requirement = strip published then .ok true
  else
    match anchor? requirement, parse? published with
    | some anchor, some offered =>
      if admitsPrerelease anchor offered then
        (compare offered anchor).map
          ((splitOperator requirement.toList).1.accepts anchor offered)
      else .ok false
    | _, _ => .ok false

/-- Whether some version of a list satisfies a requirement. -/
def anySatisfies (requirement : String) : List String → Except NotANumber Bool
  | [] => .ok false
  | published :: rest => do
    if ← satisfies requirement published then return true
    else anySatisfies requirement rest

/-- One version, or a choice of several. -/
inductive Offer where
  | one (text : String)
  | choice (offers : List Offer)

mutual

/-- Whether some version of an offer satisfies a requirement. -/
def Offer.satisfies (requirement : String) : Offer → Except NotANumber Bool
  | .one text => Version.satisfies requirement text
  | .choice offers => Offer.anySatisfies requirement offers

/-- Whether some version of a list of offers satisfies a requirement. -/
def Offer.anySatisfies (requirement : String) : List Offer → Except NotANumber Bool
  | [] => .ok false
  | offer :: rest => do
    if ← offer.satisfies requirement then return true
    else Offer.anySatisfies requirement rest

end

/-- The newest version of a list that satisfies a requirement. -/
def latestSatisfying? (requirement : String) (published : List String) :
    Except NotANumber (Option String) := do
  let matching ← published.filterM (satisfies requirement)
  if matching.isEmpty then return none
  return (← sortTexts true matching).head?

end ManifestLint.Version
