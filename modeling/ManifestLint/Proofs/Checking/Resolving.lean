import ManifestLint.Checking.Rules
import ManifestLint.Proofs.Manifest.Dependencies
import ManifestLint.Proofs.Registry.Offering
import ManifestLint.Proofs.Registry.Raising

/-!
# Dependencies that resolve

A dependency **resolves** if the chain of its index offers the package with a version
that satisfies the requirement.  If all indexes of the chain are well answered, the check
of a dependency finds a problem if and only if the dependency does not resolve; what it
finds otherwise is for information only.

* `Finding.IsProblem`, `Finding.IsNotice`: the two kinds of findings.
* `Rule.keeps_author` and so on: what the rules find, one after the other.
* `Rule.keeps_dependency`: what the check of a dependency finds.
* `Rule.ended_dependency`: the same without anything that could hinder it.
-/

namespace ManifestLint

/-- The finding is an error or a warning. -/
def Finding.IsProblem (finding : Finding) : Prop :=
  finding.severity = .error ∨ finding.severity = .warning

/-- The finding is for information only: the number of its code starts with a three. -/
def Finding.IsNotice (finding : Finding) : Prop := finding.severity = .info

theorem Finding.IsNotice.not_isProblem {finding : Finding} (h : finding.IsNotice) :
    ¬ finding.IsProblem := by
  rintro (herror | hwarning)
  · cases h.symm.trans herror
  · cases h.symm.trans hwarning

/-- The package that the chain of a client offers for a specifier. -/
def Specifier.offered? (replies : Request → Reply) (handle : Handle) (specifier : Specifier) :
    Option Index.Package :=
  Plain.offered? replies (Plain.chain replies handle) (Text.lower specifier.author)
    (Text.lower specifier.name)

/-- The specifier asks for a version, and the package that is offered has one that
satisfies it. -/
def Specifier.IsMet (replies : Request → Reply) (handle : Handle) (specifier : Specifier) :
    Prop :=
  specifier.requirement ≠ "" ∧ ∃ package, specifier.offered? replies handle = some package ∧
    ∃ version ∈ package.versionTexts, Version.satisfies specifier.requirement version = .ok true

/-- The dependency is written in full, and the first index of the chain that lists the
package has published a version that satisfies the requirement. -/
def Dependency.Resolves (replies : Request → Reply) (handle : Handle)
    (dependency : Dependency) : Prop :=
  ∃ author name requirement : String, Specifier.IsWord author.toList ∧
    Specifier.IsWord name.toList ∧ requirement ≠ "" ∧
    dependency.text = author ++ "/" ++ name ++ "@" ++ requirement ∧
    ∃ index, Plain.FirstToList replies (Plain.chain replies handle) (Text.lower author)
        (Text.lower name) index ∧
      ∃ version, Plain.Publishes replies index (Text.lower author) (Text.lower name) version ∧
        Version.satisfies requirement version = .ok true

/-- A dependency resolves if and only if its specifier is met. -/
theorem Specifier.isMet_parse_iff {replies : Request → Reply} {handle : Handle}
    (hanswered : ∀ index ∈ Plain.chain replies handle, Plain.WellAnswered replies index)
    {dependency : Dependency}
    (hspecifier : dependency.specifier = Specifier.parse dependency.text) :
    dependency.specifier.IsMet replies handle ↔ dependency.Resolves replies handle := by
  have hoffered {author name : String} (hauthor : IsWord author.toList)
      (hname : IsWord name.toList) (requirement : String) (package : Index.Package) :
      (parse (author ++ "/" ++ name ++ "@" ++ requirement)).offered? replies handle =
          some package ↔
        ∃ index, Plain.FirstToList replies (Plain.chain replies handle) (Text.lower author)
            (Text.lower name) index ∧
          Plain.package replies index (Text.lower author) (Text.lower name) =
            .ok (some package) := by
    rw [parse_eq hauthor hname]
    exact Plain.offered?_eq_some_iff hanswered (Text.lower_lower_of_ascii hauthor.ascii)
      (Text.lower name) package
  rw [hspecifier]
  constructor
  · rintro ⟨hrequirement, package, hpackage, version, hversion, hsatisfies⟩
    obtain ⟨author, name, requirement, hauthor, hname, htext⟩ := eq_of_requirement hrequirement
    rw [htext] at hrequirement hpackage hsatisfies
    rw [parse_eq hauthor hname] at hrequirement hsatisfies
    obtain ⟨index, hfirst, hread⟩ := (hoffered hauthor hname requirement package).mp hpackage
    exact ⟨author, name, requirement, hauthor, hname, hrequirement, htext, index, hfirst, version,
      ⟨package, hread, hversion⟩, hsatisfies⟩
  · rintro ⟨author, name, requirement, hauthor, hname, hrequirement, htext, index, hfirst, version,
      ⟨package, hread, hversion⟩, hsatisfies⟩
    have hpackage := (hoffered hauthor hname requirement package).mpr ⟨index, hfirst, hread⟩
    rw [htext]
    refine ⟨?_, package, hpackage, version, hversion, ?_⟩
    · rw [parse_eq hauthor hname]
      exact hrequirement
    · rw [parse_eq hauthor hname]
      exact hsatisfies

namespace Rule

open Registry (coherence cooling)
open Instant

/-- The rule has found a problem. -/
def Flagged (answer : Option (Option Finding)) : Prop :=
  ∃ finding : Finding, answer = some (some finding) ∧ finding.IsProblem

/-- What may hinder the check of a dependency: a notice without a cooldown, of which there
is one if the configuration cannot be read, and a refused comparison. -/
inductive Hindered (replies : Request → Reply) (handle : Handle) (specifier : Specifier) :
    Fault → Prop where
  | notice (hconfig : ∀ config, Plain.config replies handle ≠ .ok config) :
    Hindered replies handle specifier .noCooldown
  | published {package : Index.Package} {error : Version.NotANumber}
    (hoffered : specifier.offered? replies handle = some package)
    (hdeceives : Version.SomeDeceives package.versionTexts error) :
    Hindered replies handle specifier (.notANumber error)
  | required {error : Version.NotANumber}
    (hdeceives : Version.AnchorDeceives specifier.requirement error) :
    Hindered replies handle specifier (.notANumber error)

/-- What is found in the requirement of a specifier is a release. -/
theorem prerelease_of_specifier {text : String} {version : Version}
    (h : Version.parse? (Specifier.parse text).coerced = some version) :
    version.prerelease = "" := by
  rw [Specifier.parse, Specifier.ofChars] at h
  split at h
  · cases h
  · split at h
    · cases h
    · next requirement _ _ =>
        cases hcoerced : Version.coerced? (.ofList requirement) with
        | none =>
            rw [hcoerced] at h
            cases h
        | some found =>
            rw [hcoerced] at h
            exact Version.prerelease_of_coerced hcoerced h
    · cases h
  · cases h

variable {answer replies : Request → Reply} {handle : Handle} {dependency : Dependency}
  (hanswered : ∀ index ∈ Plain.chain replies handle, Plain.WellAnswered replies index)

/-- Where versions and requirement are regular only a notice is left to hinder a check. -/
theorem Hindered.of_regular {replies : Request → Reply} {handle : Handle}
    {specifier : Specifier} {fault : Fault} (h : Hindered replies handle specifier fault)
    (hversions : ∀ index ∈ Plain.chain replies handle, Plain.RegularVersions replies index)
    (hrequirement : ∀ version, Version.anchor? specifier.requirement = some version →
      version.Regular) :
    fault = .noCooldown ∧ ∀ config, Plain.config replies handle ≠ .ok config := by
  cases h with
  | notice hconfig => exact ⟨rfl, hconfig⟩
  | published hoffered hdeceives =>
      obtain ⟨index, hindex, hread⟩ := List.exists_of_findSome?_eq_some hoffered
      obtain ⟨found, hfound, rfl⟩ := Option.bind_eq_some_iff.mp hread
      obtain ⟨text, htext, version, hparse, hdeceives⟩ := hdeceives
      have hpublishes : Plain.Publishes replies index _ _ text :=
        ⟨_, eq_ok_of_toOption hfound, htext⟩
      have hregular := hversions index hindex _ _ text version hpublishes hparse
      exact absurd hdeceives (hregular.not_deceives _)
  | required hdeceives =>
      obtain ⟨version, hanchor, hdeceives⟩ := hdeceives
      exact absurd hdeceives ((hrequirement version hanchor).not_deceives _)

theorem hindered_notice (replies : Request → Reply) (handle : Handle) (specifier : Specifier) :
    (∃ config, Plain.config replies handle = .ok config) ∨
      Hindered replies handle specifier .noCooldown := by
  cases hconfig : Plain.config replies handle with
  | ok config => exact .inl ⟨config, rfl⟩
  | error error => exact .inr (.notice fun config => by simp [hconfig])

theorem isProblem_of {code : Code} (hcode : code.severity = .error ∨ code.severity = .warning)
    (span : Toml.Span) (substitutions : List (String × Option String)) :
    (Finding.of code span substitutions).IsProblem := hcode

theorem isNotice_of {code : Code} (hcode : code.severity = .info) (span : Toml.Span)
    (substitutions : List (String × Option String)) :
    (Finding.of code span substitutions).IsNotice := hcode

/-- The value of a comparison, unless it is refused. -/
theorem keeps_compared {α : Type} {result : α → Prop} {refused : Version.NotANumber → Prop}
    {failure : Fault → Prop} {computed : Except Version.NotANumber α}
    (h : EndsIn result refused computed)
    (hrefused : ∀ error, refused error → failure (.notANumber error)) :
    Keeps (coherence answer replies) (fun value => result value ∧ computed = .ok value) failure
      (Lookup.ofVersions computed) := by
  cases computed with
  | ok value => exact keeps_pure ⟨h, rfl⟩
  | error error => exact keeps_throw (hrefused error h)

include hanswered

/-- The rule for authors finds a problem only if no index lists the author. -/
theorem keeps_author :
    Keeps (coherence answer replies)
      (fun found => found = none ∨ Flagged found ∧
        ¬ ∃ index ∈ Plain.chain replies handle,
          Plain.ListsAuthor replies index (Text.lower dependency.specifier.author))
      (Hindered replies handle dependency.specifier) (Rule.author handle dependency) := by
  have hnotice := hindered_notice replies handle dependency.specifier
  refine (tells_authorValidity hnotice hanswered _).bind fun validity hvalidity => ?_
  cases validity with
  | valid => exact keeps_pure (.inl rfl)
  | indeterminate => exact hvalidity.elim
  | invalid =>
      dsimp only
      split
      · exact keeps_pure (.inr ⟨⟨_, rfl, isProblem_of (.inr rfl) _ _⟩, hvalidity⟩)
      · have hclosest : Keeps (coherence answer replies) (fun _ => True)
            (Hindered replies handle dependency.specifier)
            (Lookup.closestAuthor handle dependency.specifier.author) :=
          (keeps_authorNames hnotice hanswered).bind fun _ _ => keeps_pure trivial
        refine hclosest.bind fun suggestion _ => keeps_pure (.inr ⟨⟨_, rfl, ?_⟩, hvalidity⟩)
        exact isProblem_of (.inl rfl) _ _

section

variable (hlower : Text.lower (Text.lower dependency.specifier.author) =
  Text.lower dependency.specifier.author)

include hlower

/-- The rule for packages finds a problem if and only if no index lists the package. -/
theorem keeps_package :
    Keeps (coherence answer replies)
      (fun found =>
        (found = none ∧ ∃ package, dependency.specifier.offered? replies handle = some package) ∨
        (Flagged found ∧ dependency.specifier.offered? replies handle = none))
      (Hindered replies handle dependency.specifier) (Rule.package handle dependency) := by
  have hnotice := hindered_notice replies handle dependency.specifier
  have hoffered := Plain.offered?_isSome_iff hanswered hlower
    (Text.lower dependency.specifier.name)
  refine (tells_packageValidity hnotice hanswered _ _).bind fun validity hvalidity => ?_
  cases validity with
  | valid => exact keeps_pure (.inl ⟨rfl, Option.isSome_iff_exists.mp (hoffered.mpr hvalidity)⟩)
  | indeterminate => exact hvalidity.elim
  | invalid =>
      have hnone : dependency.specifier.offered? replies handle = none :=
        Option.not_isSome_iff_eq_none.mp fun hsome => hvalidity (hoffered.mp hsome)
      dsimp only
      split
      · exact keeps_pure (.inr ⟨⟨_, rfl, isProblem_of (.inr rfl) _ _⟩, hnone⟩)
      · have hclosest : Keeps (coherence answer replies) (fun _ => True)
            (Hindered replies handle dependency.specifier)
            (Lookup.closestPackage handle dependency.specifier.author
              dependency.specifier.name) :=
          (keeps_packageNames hnotice hanswered _).bind fun _ _ => keeps_pure trivial
        refine hclosest.bind fun suggestion _ => keeps_pure (.inr ⟨⟨_, rfl, ?_⟩, hnone⟩)
        exact isProblem_of (.inl rfl) _ _

variable {package : Index.Package}
  (hoffered : dependency.specifier.offered? replies handle = some package)

include hoffered

/-- The versions of the package that is offered. -/
theorem keeps_versions :
    Keeps (coherence answer replies)
      (fun found => ∃ versions, found = some versions ∧ package.newestFirst = .ok versions)
      (Hindered replies handle dependency.specifier)
      (Lookup.versions handle dependency.specifier.author dependency.specifier.name) := by
  have hnotice := hindered_notice replies handle dependency.specifier
  refine (settles_offered hnotice hanswered hlower dependency.specifier.name).keeps.bind ?_
  rintro found rfl
  rw [← Specifier.offered?, hoffered]
  refine (keeps_compared package.newestFirst_outcome fun error herror => ?_).bind ?_
  · exact .published hoffered herror
  · exact fun versions hversions => keeps_pure ⟨versions, rfl, hversions.2⟩

/-- A version exists if the package that is offered has one that satisfies the
requirement. -/
theorem tells_versionValidity :
    Keeps (coherence answer replies)
      (Validity.Tells (∃ version ∈ package.versionTexts,
        Version.satisfies dependency.specifier.requirement version = .ok true))
      (Hindered replies handle dependency.specifier)
      (Lookup.versionValidity handle dependency.specifier.author dependency.specifier.name
        dependency.specifier.requirement) := by
  have hnotice := hindered_notice replies handle dependency.specifier
  have hsatisfies := package.anySatisfies_newestFirst_outcome dependency.specifier.requirement
  refine (settles_offered hnotice hanswered hlower dependency.specifier.name).keeps.bind ?_
  rintro found rfl
  rw [← Specifier.offered?, hoffered]
  refine (keeps_compared package.newestFirst_outcome fun error herror => ?_).bind ?_
  · exact .published hoffered herror
  · rintro versions ⟨-, hversions⟩
    rw [hversions] at hsatisfies
    refine (keeps_compared hsatisfies fun error herror => ?_).bind ?_
    · rcases herror with hrequired | hpublished
      · exact .required hrequired
      · exact .published hoffered hpublished
    · rintro satisfied ⟨hsatisfied, -⟩
      cases satisfied with
      | true => exact keeps_pure (hsatisfied.mp rfl)
      | false => exact keeps_pure fun hsome => Bool.false_ne_true (hsatisfied.mpr hsome)

/-- The rule for versions finds a problem unless the requirement is satisfied. -/
theorem keeps_requirement :
    Keeps (coherence answer replies)
      (fun found =>
        (found = none ∧ dependency.specifier.IsMet replies handle) ∨
        (Flagged found ∧ ¬ dependency.specifier.IsMet replies handle))
      (Hindered replies handle dependency.specifier) (Rule.requirement handle dependency) := by
  have hnotice := hindered_notice replies handle dependency.specifier
  have hmet : dependency.specifier.IsMet replies handle ↔
      dependency.specifier.requirement ≠ "" ∧ ∃ version ∈ package.versionTexts,
        Version.satisfies dependency.specifier.requirement version = .ok true := by
    rw [Specifier.IsMet, hoffered]
    simp
  rw [hmet]
  unfold Rule.requirement
  dsimp only
  split
  · next hempty =>
      refine keeps_pure (.inr ⟨⟨_, rfl, isProblem_of (.inr rfl) _ _⟩, fun hboth => ?_⟩)
      exact hboth.1 hempty
  · next hpresent =>
      refine (tells_versionValidity hanswered hlower hoffered).bind fun validity htells => ?_
      cases validity with
      | valid => exact keeps_pure (.inl ⟨rfl, hpresent, htells⟩)
      | indeterminate => exact htells.elim
      | invalid =>
          have hclosest : Keeps (coherence answer replies) (fun _ => True)
              (Hindered replies handle dependency.specifier)
              (Lookup.closestVersion handle dependency.specifier.author
                dependency.specifier.name dependency.specifier.requirement) :=
            (keeps_versions hanswered hlower hoffered).bind fun _ _ => keeps_pure trivial
          refine hclosest.bind fun suggestion _ => keeps_pure (.inr ⟨⟨_, rfl, ?_⟩, ?_⟩)
          · exact isProblem_of (.inl rfl) _ _
          · exact fun hboth => htells hboth.2

/-- A dependency in the wrong realm is noticed. -/
theorem keeps_placement (listed : Realm) :
    Keeps (coherence answer replies)
      (fun found => ∀ value, found = some value → ∃ finding, value = some finding ∧
        finding.IsNotice)
      (Hindered replies handle dependency.specifier)
      (Rule.placement handle dependency listed) := by
  have hnotice := hindered_notice replies handle dependency.specifier
  have hrecord : Keeps (coherence answer replies) (fun _ => True)
      (Hindered replies handle dependency.specifier)
      (Lookup.bestRecord handle dependency.specifier.author dependency.specifier.name
        dependency.specifier.requirement) := by
    refine (settles_offered hnotice hanswered hlower dependency.specifier.name).keeps.bind ?_
    rintro found rfl
    rw [← Specifier.offered?, hoffered]
    have houtcome := package.findSatisfying?_outcome dependency.specifier.requirement
    refine (keeps_compared houtcome fun error herror => ?_).mono fun _ _ => trivial
    rcases herror with hrequired | hpublished
    · exact .required hrequired
    · exact .published hoffered hpublished
  refine hrecord.bind fun record? _ => keeps_pure fun value hvalue => ?_
  obtain ⟨finding, hfinding, rfl⟩ := Option.map_eq_some_iff.mp hvalue
  obtain ⟨record, -, hmisplaced⟩ := Option.bind_eq_some_iff.mp hfinding
  obtain ⟨correction, -, rfl⟩ := Option.map_eq_some_iff.mp hmisplaced
  exact ⟨_, rfl, isNotice_of rfl _ _⟩

/-- A later version is noticed. -/
theorem keeps_upgrade
    (hcoerced : ∀ version, Version.parse? dependency.specifier.coerced = some version →
      version.prerelease = "") :
    Keeps (coherence answer replies) (fun found => ∀ finding ∈ found, finding.IsNotice)
      (Hindered replies handle dependency.specifier) (Rule.upgrade handle dependency) := by
  have hlatest : Keeps (coherence answer replies)
      (fun found => ∀ latest, found = some latest → latest ∈ package.versionTexts)
      (Hindered replies handle dependency.specifier)
      (Lookup.latest handle dependency.specifier.author dependency.specifier.name) := by
    refine (keeps_versions hanswered hlower hoffered).bind ?_
    rintro found ⟨versions, rfl, hversions⟩
    have hperm : versions.Perm package.versionTexts :=
      package.newestFirst_outcome.of_ok hversions
    exact keeps_pure fun latest hlatest => hperm.subset (List.mem_of_head? hlatest)
  refine hlatest.bind fun found hfound => ?_
  split
  · next latest desired hdesired =>
      split
      · exact keeps_pure fun _ hfound => absurd hfound (Option.not_mem_none _)
      · have houtcome := Version.compareOptions_outcome (Version.parse? latest) (some desired)
        refine (keeps_compared houtcome fun error herror => ?_).bind fun order _ => ?_
        · obtain ⟨version, hlast | hwanted, hdeceives⟩ := herror
          · exact .published hoffered ⟨latest, hfound latest rfl, version, hlast, hdeceives⟩
          · obtain rfl := Option.some.inj hwanted
            rcases Option.or_eq_some_iff.mp hdesired with hanchor | ⟨-, hparse⟩
            · exact .required ⟨desired, hanchor, hdeceives⟩
            · have hregular := Version.regular_of_release (hcoerced desired hparse)
              exact absurd hdeceives (hregular.not_deceives error)
        · cases order with
          | gt =>
              refine keeps_pure fun finding hfinding => ?_
              obtain rfl := Option.some.inj hfinding
              exact isNotice_of rfl _ _
          | _ => exact keeps_pure fun _ hfound => absurd hfound (Option.not_mem_none _)
  · exact keeps_pure fun _ hfound => absurd hfound (Option.not_mem_none _)

end

/-- What the check of a dependency finds: a problem unless the dependency resolves, and
nothing but notices if it does. -/
def Judges (replies : Request → Reply) (handle : Handle) (specifier : Specifier)
    (found : Option Finding) : Prop :=
  (specifier.IsMet replies handle ∧ ∀ finding ∈ found, finding.IsNotice) ∨
  (¬ specifier.IsMet replies handle ∧ ∃ finding ∈ found, finding.IsProblem)

omit hanswered in
theorem Flagged.judges {specifier : Specifier} {found : Option (Option Finding)}
    (h : Flagged found) (hnot : ¬ specifier.IsMet replies handle) :
    ∃ value, found = some value ∧ Judges replies handle specifier value := by
  obtain ⟨finding, rfl, hproblem⟩ := h
  exact ⟨some finding, rfl, .inr ⟨hnot, finding, rfl, hproblem⟩⟩

omit hanswered in
/-- A rule that may settle the check comes before the rest of it. -/
theorem keeps_settle {agreement : Agreement Registry} {rule : Lookup (Option (Option Finding))}
    {rest : Lookup (Option Finding)} {unsettled : Prop} {result : Option Finding → Prop}
    {failure : Fault → Prop}
    (hrule : Keeps agreement
      (fun found => (found = none ∧ unsettled) ∨ ∃ value, found = some value ∧ result value)
      failure rule)
    (hrest : unsettled → Keeps agreement result failure rest) :
    Keeps agreement result failure
      (do if let some answer ← rule then return answer else rest) := by
  refine hrule.bind fun found hfound => ?_
  rcases hfound with ⟨rfl, hunsettled⟩ | ⟨value, rfl, hvalue⟩
  · exact hrest hunsettled
  · exact keeps_pure hvalue

/-- **Dependencies.**  The check of a dependency finds a problem if and only if the
dependency does not resolve, unless it is hindered. -/
theorem keeps_dependency (hspecifier : dependency.specifier = Specifier.parse dependency.text)
    (listed : Realm) :
    Keeps (coherence answer replies) (Judges replies handle dependency.specifier)
      (Hindered replies handle dependency.specifier)
      (Rule.dependency handle listed dependency) := by
  have hlower : Text.lower (Text.lower dependency.specifier.author) =
      Text.lower dependency.specifier.author := by
    rw [hspecifier]
    exact Specifier.lower_author dependency.text
  have hcoerced : ∀ version, Version.parse? dependency.specifier.coerced = some version →
      version.prerelease = "" := by
    rw [hspecifier]
    exact fun version => prerelease_of_specifier
  have hauthor : Keeps (coherence answer replies)
      (fun found => (found = none ∧ True) ∨
        ∃ value, found = some value ∧ Judges replies handle dependency.specifier value)
      (Hindered replies handle dependency.specifier) (Rule.author handle dependency) := by
    refine (keeps_author hanswered).mono fun found hfound => ?_
    rcases hfound with rfl | ⟨hflagged, hunlisted⟩
    · exact .inl ⟨rfl, trivial⟩
    · refine .inr (hflagged.judges ?_)
      rintro ⟨-, package, hoffered, -⟩
      have hsome : (dependency.specifier.offered? replies handle).isSome = true := by
        rw [hoffered]
        rfl
      obtain ⟨index, hindex, author, hlists, -⟩ :=
        (Plain.offered?_isSome_iff hanswered hlower _).mp hsome
      exact hunlisted ⟨index, hindex, author, hlists⟩
  have hpackage : Keeps (coherence answer replies)
      (fun found =>
        (found = none ∧ ∃ package, dependency.specifier.offered? replies handle = some package) ∨
        ∃ value, found = some value ∧ Judges replies handle dependency.specifier value)
      (Hindered replies handle dependency.specifier) (Rule.package handle dependency) := by
    refine (keeps_package hanswered hlower).mono fun found hfound => ?_
    refine hfound.imp_right fun ⟨hflagged, hnone⟩ => hflagged.judges ?_
    rintro ⟨-, package, hoffered, -⟩
    cases hnone.symm.trans hoffered
  refine keeps_settle hauthor fun _ => keeps_settle hpackage fun ⟨package, hoffered⟩ => ?_
  have hrequirement : Keeps (coherence answer replies)
      (fun found => (found = none ∧ dependency.specifier.IsMet replies handle) ∨
        ∃ value, found = some value ∧ Judges replies handle dependency.specifier value)
      (Hindered replies handle dependency.specifier) (Rule.requirement handle dependency) :=
    (keeps_requirement hanswered hlower hoffered).mono fun found hfound =>
      hfound.imp_right fun ⟨hflagged, hnot⟩ => hflagged.judges hnot
  refine keeps_settle hrequirement fun hmet => ?_
  have hplacement : Keeps (coherence answer replies)
      (fun found => (found = none ∧ True) ∨
        ∃ value, found = some value ∧ Judges replies handle dependency.specifier value)
      (Hindered replies handle dependency.specifier)
      (Rule.placement handle dependency listed) := by
    refine (keeps_placement hanswered hlower hoffered listed).mono fun found hfound => ?_
    cases found with
    | none => exact .inl ⟨rfl, trivial⟩
    | some value =>
        obtain ⟨finding, rfl, hnotice⟩ := hfound value rfl
        refine .inr ⟨some finding, rfl, .inl ⟨hmet, fun other hother => ?_⟩⟩
        exact Option.some.inj hother ▸ hnotice
  refine keeps_settle hplacement fun _ => ?_
  exact (keeps_upgrade hanswered hlower hoffered hcoerced).mono fun found hfound =>
    .inl ⟨hmet, hfound⟩

/-- Where versions and requirement are regular, and notices have a cooldown or there are
none, the check of a dependency ends with a value.  It finds nothing but notices if and
only if the dependency resolves. -/
theorem ended_dependency (hspecifier : dependency.specifier = Specifier.parse dependency.text)
    (hversions : ∀ index ∈ Plain.chain replies handle, Plain.RegularVersions replies index)
    (hrequirement : ∀ version, Version.anchor? dependency.specifier.requirement = some version →
      version.Regular)
    {world : World Registry} (hworld : world.Keeps (coherence answer replies))
    {instant : Instant Registry} (hstate : instant.state.Coherent answer replies)
    (hnotices : (∃ config, Plain.config replies handle = .ok config) ∨
      world.Keeps cooling ∧ cooling.state instant.state)
    (listed : Realm) :
    ∃ value, instant.ended world (Rule.dependency handle listed dependency) = .ok value ∧
      ((∀ finding ∈ value, finding.IsNotice) ↔ dependency.Resolves replies handle) := by
  have hended : EndsIn (Judges replies handle dependency.specifier)
      (Hindered replies handle dependency.specifier)
      (instant.ended world (Rule.dependency handle listed dependency)) :=
    (keeps_dependency hanswered hspecifier listed).ended hworld hstate
  cases hvalue : instant.ended world (Rule.dependency handle listed dependency) with
  | error fault =>
      obtain ⟨rfl, hunread⟩ := (hended.of_error hvalue).of_regular hversions hrequirement
      rcases hnotices with ⟨config, hconfig⟩ | ⟨hcooling, hcooldown⟩
      · exact absurd hconfig (hunread config)
      · have hbrowses : Lookup.Browses (fun _ => True) (Rule.dependency handle listed dependency) :=
          browses_dependency handle dependency (fun _ _ => trivial) listed
        obtain ⟨error, -, hother⟩ :=
          ((keeps_cooling_browses hbrowses).ended hcooling hcooldown).of_error hvalue
        cases hother
  | ok value =>
      refine ⟨value, rfl, ?_⟩
      rw [← Specifier.isMet_parse_iff hanswered hspecifier]
      rcases hended.of_ok hvalue with ⟨hmet, hnotices⟩ | ⟨hnot, finding, hfinding, hproblem⟩
      · exact ⟨fun _ => hmet, fun _ => hnotices⟩
      · exact ⟨fun hall => absurd hproblem (hall finding hfinding).not_isProblem,
          fun hmet => absurd hmet hnot⟩

omit hanswered in
/-- That the index of a manifest is none is a problem. -/
theorem keeps_index {manifest : Manifest} (hformed : manifest.Formed)
    (hnone : Handle.find? manifest.indexUrl = none) :
    Keeps (coherence answer replies) (fun found => ∃ finding ∈ found, finding.IsProblem)
      (fun _ => False) (Rule.index manifest) := by
  unfold Rule.index
  dsimp only
  split
  · next hplaceholder =>
      have hpublic : (Handle.find? publicIndexUrl).isSome = true := by decide
      rw [← hformed.registry hplaceholder, hnone] at hpublic
      cases hpublic
  · refine (settles_find? manifest.indexUrl).keeps.bind ?_
    rintro found rfl
    rw [hnone]
    exact keeps_pure ⟨_, rfl, isProblem_of (.inl rfl) _ _⟩

end Rule

end ManifestLint
