import ManifestLint.Proofs.Checking.Resolving
import ManifestLint.Proofs.Registry.Searching

/-!
# Suggestions that can be accepted

A finding about an author, a package or a version of a dependency suggests another
text for it.  What is suggested is drawn from what the indexes list; whether a text is
valid is asked of the indexes in another walk.  Both walks see the same indexes in the
same order, so that what is suggested is valid, and the finding does not come back once
the suggestion stands where the text was.

* `Part` names the three parts of a dependency with their rules; `judged_correct` says of
  each of them that what it may suggest is valid.
* `keeps_traced_dependency`: a finding about a part comes from the verdict on that part,
  and suggests what is closest.
* `suggestion_clears` puts both together over whole checks.
-/

namespace ManifestLint

/-! ## What is suggested is one of the options -/

namespace Suggestion

theorem nearest_mem (text best : List Char) (options : List (List Char)) :
    nearest text best options ∈ best :: options := by
  induction options generalizing best with
  | nil => exact List.mem_singleton.mpr rfl
  | cons option rest ih =>
      rw [nearest]
      split
      · exact List.mem_cons_of_mem _ (ih option)
      · rcases List.mem_cons.mp (ih best) with hbest | hrest
        · rw [hbest]
          exact List.mem_cons_self
        · exact List.mem_cons_of_mem _ (List.mem_cons_of_mem _ hrest)

theorem closestChars_mem {text option : List Char} {rest : List (List Char)} (htext : text ≠ [])
    (fallback : List Char) : closestChars text (option :: rest) fallback ∈ option :: rest := by
  cases text with
  | nil => exact absurd rfl htext
  | cons c more =>
      unfold closestChars
      dsimp only
      split
      · next found hfound => exact List.mem_of_find?_eq_some hfound
      · exact nearest_mem _ _ _

end Suggestion

/-- A suggestion is one of the options, and another text than the one it is for. -/
theorem mem_of_closestOther? {text suggestion : String} {options : Option (List String)}
    (h : closestOther? text options = some suggestion) :
    suggestion ∈ options.getD [] ∧ suggestion ≠ text := by
  rw [closestOther?] at h
  cases hoptions : options.getD [] with
  | nil =>
      rw [hoptions] at h
      cases h
  | cons option rest =>
      rw [hoptions] at h
      dsimp only at h
      split at h
      · cases h
      · next hother =>
          obtain rfl := Option.some.inj h
          refine ⟨?_, hother⟩
          have htext : text.toList ≠ [] := by
            intro hempty
            refine hother ?_
            rw [Suggestion.closest, hempty, Suggestion.closestChars]
            exact String.toList_inj.mp (by rw [String.toList_ofList, hempty])
          have hmem : Suggestion.closestChars text.toList ((option :: rest).map String.toList)
              text.toList ∈ (option :: rest).map String.toList :=
            Suggestion.closestChars_mem htext text.toList
          obtain ⟨found, hfound, hsame⟩ := List.mem_map.mp hmem
          rw [Suggestion.closest, ← hsame, String.ofList_toList]
          exact hfound

namespace Rule

/-! ## The parts of a dependency -/

/-- The parts of a dependency for which another text may be suggested. -/
inductive Part where
  | author
  | name
  | requirement
  deriving DecidableEq, Repr

namespace Part

/-- The code of the finding that a part is not valid. -/
def code : Part → Code
  | author => .invalidAuthor
  | name => .invalidName
  | requirement => .invalidVersion

/-- The placeholder that the suggestion of a finding stands for. -/
def placeholder : Part → String
  | author => "PACKAGE_AUTHOR"
  | name => "PACKAGE_NAME"
  | requirement => "VERSION_IDENTIFIER"

/-- The text of a part. -/
def text (specifier : Specifier) : Part → String
  | author => specifier.author
  | name => specifier.name
  | requirement => specifier.requirement

/-- The specifier with another text for a part. -/
def correct (specifier : Specifier) (text : String) : Part → Specifier
  | author => { specifier with author := text }
  | name => { specifier with name := text }
  | requirement => { specifier with requirement := text }

/-- Two specifiers have the same texts up to a part. -/
def Agrees (a b : Specifier) : Part → Prop
  | author => a.author = b.author
  | name => a.author = b.author ∧ a.name = b.name
  | requirement => a.author = b.author ∧ a.name = b.name ∧ a.requirement = b.requirement

/-- The question whether a part is valid. -/
def validity (handle : Handle) (specifier : Specifier) : Part → Lookup Validity
  | author => Lookup.authorValidity handle specifier.author
  | name => Lookup.packageValidity handle specifier.author specifier.name
  | requirement =>
    Lookup.versionValidity handle specifier.author specifier.name specifier.requirement

/-- What is suggested for a part. -/
def closest (handle : Handle) (specifier : Specifier) : Part → Lookup (Option String)
  | author => Lookup.closestAuthor handle specifier.author
  | name => Lookup.closestPackage handle specifier.author specifier.name
  | requirement =>
    Lookup.closestVersion handle specifier.author specifier.name specifier.requirement

/-- The verdict on a part, from the replies. -/
def judged (replies : Request → Reply) (handle : Handle) (specifier : Specifier) :
    Part → Except Fault Validity
  | author => .ok (Plain.authorValidity replies handle specifier.author)
  | name => .ok (Plain.packageValidity replies handle specifier.author specifier.name)
  | requirement =>
    Plain.versionValidity replies handle specifier.author specifier.name specifier.requirement

/-- What may be suggested for a part, from the replies. -/
def options (replies : Request → Reply) (handle : Handle) (specifier : Specifier) :
    Part → Except Fault (Option (List String))
  | author => .ok (Plain.authorNames replies handle)
  | name => .ok (Plain.packageNames replies handle specifier.author)
  | requirement => Plain.versions replies handle specifier.author specifier.name

variable {replies : Request → Reply} {handle : Handle} {specifier other : Specifier} {part : Part}

theorem code_inj {a b : Part} (h : a.code = b.code) : a = b := by
  cases a <;> cases b <;> first | rfl | cases h

/-- The verdict on a part depends on nothing behind it. -/
theorem judged_congr (h : part.Agrees specifier other) :
    part.judged replies handle specifier = part.judged replies handle other := by
  cases part with
  | author => rw [judged, judged, (h : specifier.author = other.author)]
  | name =>
      obtain ⟨hauthor, hname⟩ := h
      rw [judged, judged, hauthor, hname]
  | requirement =>
      obtain ⟨hauthor, hname, hrequirement⟩ := h
      rw [judged, judged, hauthor, hname, hrequirement]

/-- **What may be suggested is valid.** -/
theorem judged_correct (hnamed : Plain.WellNamed replies)
    (hregular : ∀ index ∈ Plain.chain replies handle, ∀ author name text,
      Plain.Publishes replies index author name text → Version.RegularText text)
    {found : Option (List String)} (hoptions : part.options replies handle specifier = .ok found)
    {suggestion : String} (hmem : suggestion ∈ found.getD []) :
    part.judged replies handle (part.correct specifier suggestion) = .ok .valid := by
  cases part with
  | author =>
      obtain rfl := Except.ok.inj hoptions
      exact congrArg Except.ok (Plain.authorValidity_of_mem hnamed hmem)
  | name =>
      obtain rfl := Except.ok.inj hoptions
      exact congrArg Except.ok (Plain.packageValidity_of_mem hnamed hmem)
  | requirement =>
      cases found with
      | none => cases hmem
      | some versions => exact Plain.versionValidity_of_mem hregular hoptions hmem

end Part

open Instant
open Registry (coherence cooling)

variable {answer replies : Request → Reply} {handle : Handle} {dependency : Dependency}

theorem settles_validity (specifier : Specifier) (part : Part) :
    Settles (coherence answer replies) (· = .noCooldown) (part.validity handle specifier)
      (part.judged replies handle specifier) := by
  cases part with
  | author => exact settles_authorValidity handle _
  | name => exact settles_packageValidity handle _ _
  | requirement => exact settles_versionValidity handle _ _ _

theorem settles_closest (specifier : Specifier) (part : Part) :
    Settles (coherence answer replies) (· = .noCooldown) (part.closest handle specifier)
      ((part.options replies handle specifier).map (closestOther? (part.text specifier))) := by
  cases part with
  | author => exact (settles_authorNames handle).bind fun names _ => settles_pure _
  | name => exact (settles_packageNames handle _).bind fun names _ => settles_pure _
  | requirement => exact (settles_versions handle _ _).bind fun versions _ => settles_pure _

theorem browses_validity (specifier : Specifier) (part : Part) :
    Lookup.Browses Version.NotANumber.Justified (part.validity handle specifier) := by
  cases part with
  | author => exact Lookup.browses_authorValidity handle _
  | name => exact Lookup.browses_packageValidity handle _ _
  | requirement => exact Lookup.browses_versionValidity handle _ _ _ fun _ => id

/-! ## Where findings come from -/

/-- A finding about a part comes from the verdict that the part is not valid, and it
suggests the option that is closest. -/
def Traced (replies : Request → Reply) (handle : Handle) (dependency : Dependency)
    (found : Option Finding) : Prop :=
  ∀ finding ∈ found, ∀ part : Part, finding.code = part.code →
    part.judged replies handle dependency.specifier = .ok .invalid ∧
      ∃ options, part.options replies handle dependency.specifier = .ok options ∧
        finding = .of part.code dependency.valueSpan
          [(part.placeholder, closestOther? (part.text dependency.specifier) options)]

/-- A rule settles nothing, or with a traced finding. -/
def TracedRule (replies : Request → Reply) (handle : Handle) (dependency : Dependency)
    (found : Option (Option Finding)) : Prop :=
  (found = none ∧ True) ∨ ∃ value, found = some value ∧ Traced replies handle dependency value

/-- Findings with other codes are about no part. -/
theorem traced_other {code : Code}
    (hcode : code ≠ .invalidAuthor ∧ code ≠ .invalidName ∧ code ≠ .invalidVersion)
    (span : Toml.Span) (substitutions : List (String × Option String)) :
    Traced replies handle dependency (some (.of code span substitutions)) := by
  intro finding hfinding part hsame
  obtain rfl := Option.some.inj hfinding
  cases part with
  | author => exact absurd hsame hcode.1
  | name => exact absurd hsame hcode.2.1
  | requirement => exact absurd hsame hcode.2.2

/-- The suggestion of a part that was found not to be valid. -/
theorem keeps_suggested {part : Part}
    (hinvalid : part.judged replies handle dependency.specifier = .ok .invalid) :
    Keeps (coherence answer replies) (TracedRule replies handle dependency) (fun _ => True)
      (do
        let suggestion ← part.closest handle dependency.specifier
        return some (some (.of part.code dependency.valueSpan
          [(part.placeholder, suggestion)])) : Lookup (Option (Option Finding))) := by
  have hclosest : Settles (coherence answer replies) (· = .noCooldown)
      (part.closest handle dependency.specifier)
      ((part.options replies handle dependency.specifier).map
        (closestOther? (part.text dependency.specifier))) := settles_closest _ part
  refine (Keeps.weaken hclosest fun _ _ => trivial).bind fun suggestion hsuggestion => ?_
  refine keeps_pure (.inr ⟨_, rfl, ?_⟩)
  intro finding hfinding other hcode
  obtain rfl := Option.some.inj hfinding
  obtain rfl : part = other := Part.code_inj hcode
  cases hoptions : part.options replies handle dependency.specifier with
  | error fault =>
      rw [hoptions] at hsuggestion
      cases hsuggestion
  | ok options =>
      rw [hoptions] at hsuggestion
      obtain rfl := Except.ok.inj hsuggestion
      exact ⟨hinvalid, options, rfl, rfl⟩

/-- The verdict on a part, with what follows if it is that the part is not valid. -/
theorem keeps_judged (part : Part) {whenInvalid : Lookup (Option (Option Finding))}
    (hinvalid : part.judged replies handle dependency.specifier = .ok .invalid →
      Keeps (coherence answer replies) (TracedRule replies handle dependency) (fun _ => True)
        whenInvalid) :
    Keeps (coherence answer replies) (TracedRule replies handle dependency) (fun _ => True)
      (do match ← part.validity handle dependency.specifier with
        | .valid => return none
        | .indeterminate => return some none
        | .invalid => whenInvalid) := by
  have hvalidity : Settles (coherence answer replies) (· = .noCooldown)
      (part.validity handle dependency.specifier)
      (part.judged replies handle dependency.specifier) := settles_validity _ part
  refine (Keeps.weaken hvalidity fun _ _ => trivial).bind fun validity hjudged => ?_
  cases validity with
  | valid => exact keeps_pure (.inl ⟨rfl, trivial⟩)
  | indeterminate =>
      exact keeps_pure (.inr ⟨none, rfl, fun _ hfound => absurd hfound (Option.not_mem_none _)⟩)
  | invalid => exact hinvalid hjudged

theorem keeps_traced_author :
    Keeps (coherence answer replies) (TracedRule replies handle dependency) (fun _ => True)
      (Rule.author handle dependency) := by
  refine keeps_judged .author fun hinvalid => ?_
  split
  · exact keeps_pure (.inr ⟨_, rfl, traced_other (by simp) _ _⟩)
  · exact keeps_suggested hinvalid

theorem keeps_traced_package :
    Keeps (coherence answer replies) (TracedRule replies handle dependency) (fun _ => True)
      (Rule.package handle dependency) := by
  refine keeps_judged .name fun hinvalid => ?_
  split
  · exact keeps_pure (.inr ⟨_, rfl, traced_other (by simp) _ _⟩)
  · exact keeps_suggested hinvalid

theorem keeps_traced_requirement :
    Keeps (coherence answer replies) (TracedRule replies handle dependency) (fun _ => True)
      (Rule.requirement handle dependency) := by
  unfold Rule.requirement
  dsimp only
  split
  · exact keeps_pure (.inr ⟨_, rfl, traced_other (by simp) _ _⟩)
  · exact keeps_judged .requirement keeps_suggested

/-- The other rules find nothing about a part. -/
theorem keeps_traced_placement (listed : Realm) :
    Keeps (coherence answer replies) (TracedRule replies handle dependency) (fun _ => True)
      (Rule.placement handle dependency listed) := by
  have hrecord : Lookup.Browses Version.NotANumber.Justified
      (Lookup.bestRecord handle dependency.specifier.author dependency.specifier.name
        dependency.specifier.requirement) := Lookup.browses_bestRecord _ _ _ _ fun _ => id
  refine hrecord.keeps_coherence.bind fun record? _ => keeps_pure ?_
  cases hmisplaced : record?.bind (misplacement? dependency listed) with
  | none => exact .inl ⟨rfl, trivial⟩
  | some finding =>
      obtain ⟨record, -, hcorrected⟩ := Option.bind_eq_some_iff.mp hmisplaced
      obtain ⟨correction, -, rfl⟩ := Option.map_eq_some_iff.mp hcorrected
      exact .inr ⟨_, rfl, traced_other (by simp) _ _⟩

theorem keeps_traced_upgrade :
    Keeps (coherence answer replies) (Traced replies handle dependency) (fun _ => True)
      (Rule.upgrade handle dependency) := by
  have hlatest : Lookup.Browses Version.NotANumber.Justified
      (Lookup.latest handle dependency.specifier.author dependency.specifier.name) :=
    Lookup.browses_latest _ _ _ fun _ => id
  refine hlatest.keeps_coherence.bind fun latest? _ => ?_
  split
  · next latest desired _ =>
    split
    · exact keeps_pure fun _ hfound => absurd hfound (Option.not_mem_none _)
    · have horder : Settles (coherence answer replies) (· = .noCooldown)
          (Lookup.ofVersions (Version.compareOptions (Version.parse? latest) (some desired))) _ :=
        settles_ofVersions _
      refine (Keeps.weaken horder fun _ _ => trivial).bind fun order _ => ?_
      cases order with
      | gt => exact keeps_pure (traced_other (by simp) _ _)
      | _ => exact keeps_pure fun _ hfound => absurd hfound (Option.not_mem_none _)
  · exact keeps_pure fun _ hfound => absurd hfound (Option.not_mem_none _)

/-- **Where findings come from.**  What the check of a dependency finds about a part is
traced to the verdict on that part. -/
theorem keeps_traced_dependency (listed : Realm) :
    Keeps (coherence answer replies) (Traced replies handle dependency) (fun _ => True)
      (Rule.dependency handle listed dependency) :=
  keeps_settle keeps_traced_author fun _ => keeps_settle keeps_traced_package fun _ =>
    keeps_settle keeps_traced_requirement fun _ => keeps_settle (keeps_traced_placement listed)
      fun _ => keeps_traced_upgrade

/-! ## Whole checks -/

section

variable {world : World Registry} (hworld : world.Keeps (coherence answer replies))

include hworld

theorem traced_ended {instant : Instant Registry} (hstate : instant.state.Coherent answer replies)
    {listed : Realm} {found : Option Finding}
    (hended : instant.ended world (Rule.dependency handle listed dependency) = .ok found) :
    Traced replies handle dependency found :=
  ((keeps_traced_dependency listed).ended hworld hstate).of_ok hended

/-- Where notices have a cooldown, a question whose verdict is known is answered with
it. -/
theorem ended_validity (hcooling : world.Keeps cooling) {instant : Instant Registry}
    (hstate : instant.state.Coherent answer replies) (hcooldown : cooling.state instant.state)
    {specifier : Specifier} {part : Part} {validity : Validity}
    (hjudged : part.judged replies handle specifier = .ok validity) :
    instant.ended world (part.validity handle specifier) = .ok validity := by
  have hsettles : Settles (coherence answer replies) (· = .noCooldown)
      (part.validity handle specifier) (part.judged replies handle specifier) :=
    settles_validity specifier part
  rcases hsettles.ended_cases hworld hstate with hended | ⟨fault, rfl, hended⟩
  · exact hended.trans hjudged
  · have hbrowses : Lookup.Browses Version.NotANumber.Justified
        (part.validity handle specifier) := browses_validity specifier part
    have hfaults := (keeps_cooling_browses hbrowses).ended hcooling hcooldown
    obtain ⟨error, -, hother⟩ := hfaults.of_error hended
    cases hother

/-- **Accepting a suggestion.**  If the check of a dependency finds an author, a package
or a version that is not valid and suggests a text for it, the text is another one and
is valid.  So the finding is gone wherever the suggestion stands in its place: no check
of a dependency with the same texts before it, and the suggestion there, finds it.  The
indexes may fail in any way, as long as they always do so in the same way. -/
theorem suggestion_clears (hcooling : world.Keeps cooling) (hnamed : Plain.WellNamed replies)
    (hregular : ∀ index ∈ Plain.chain replies handle, ∀ author name text,
      Plain.Publishes replies index author name text → Version.RegularText text)
    {instant : Instant Registry} (hstate : instant.state.Coherent answer replies)
    {listed : Realm} {finding : Finding}
    (hfound : instant.ended world (Rule.dependency handle listed dependency) =
      .ok (some finding))
    {part : Part} (hcode : finding.code = part.code) {suggestion : String}
    (hsuggestion : finding.substitutions.get? part.placeholder = some suggestion)
    (hpresent : suggestion ≠ "") :
    suggestion ≠ part.text dependency.specifier ∧
      ∀ later : Instant Registry, later.state.Coherent answer replies →
        cooling.state later.state →
        later.ended world (part.validity handle
            (part.correct dependency.specifier suggestion)) = .ok .valid ∧
          ∀ (realm : Realm) (other : Dependency) (next : Finding),
            part.Agrees (part.correct dependency.specifier suggestion) other.specifier →
            later.ended world (Rule.dependency handle realm other) = .ok (some next) →
              next.code ≠ part.code := by
  obtain ⟨-, options, hoptions, hfinding⟩ :=
    traced_ended hworld hstate hfound finding rfl part hcode
  -- an empty suggestion stands for none
  have hclosest : closestOther? (part.text dependency.specifier) options = some suggestion := by
    have hclean : finding.substitutions.get? part.placeholder =
        some ((closestOther? (part.text dependency.specifier) options).getD "") := by
      rw [hfinding]
      exact (Entries.get?_put ..).trans (if_pos rfl)
    have hsame := Option.some.inj (hclean.symm.trans hsuggestion)
    cases hclosest : closestOther? (part.text dependency.specifier) options with
    | none =>
        rw [hclosest] at hsame
        exact absurd hsame.symm hpresent
    | some other =>
        rw [hclosest] at hsame
        exact congrArg some hsame
  obtain ⟨hmem, hdifferent⟩ := mem_of_closestOther? hclosest
  have hjudged := Part.judged_correct hnamed hregular hoptions hmem
  refine ⟨hdifferent, fun later hlater hcooldown => ⟨?_, ?_⟩⟩
  · exact ended_validity hworld hcooling hlater hcooldown hjudged
  · intro realm other next hagrees hended hsame
    obtain ⟨hinvalid, -⟩ := traced_ended hworld hlater hended next rfl part hsame
    rw [← Part.judged_congr hagrees, hjudged] at hinvalid
    cases hinvalid

end

end Rule

/-! ## A misspelt author

An index with one author, who has one package with one version.  A dependency names the
author with one letter wrong. -/

namespace Misspelt

/-- The history of the package. -/
def history : String := "\x7b\"package\": \x7b\"version\": \"1.0.0\"\x7d\x7d\n"

/-- The one entry of a tree. -/
def tree (path kind id : String) : Json :=
  .array [.object [("path", .string path), ("type", .string kind), ("sha", .string id)]]

/-- The replies of the host. -/
def answer (request : Request) : Reply :=
  match request.kind, request.idText with
  | .tree, "main" => .ok (.found (tree "Ann" "tree" "a"))
  | .tree, _ => .ok (.found (tree "knit" "blob" "k"))
  | .blob, _ => .ok (.found (.string history))

/-- The client of the index. -/
def client : Handle := .alone "own" ⟨"owner", "index"⟩

/-- A new registry with the usual cooldown. -/
def start : Instant Registry := ⟨.new {} (some defaultCooldown) none, 0⟩

/-- The dependency of a text. -/
def dependency (text : String) : Dependency := { key := "knit", text, specifier := .parse text }

/-- What is found about the misspelt author. -/
def finding : Finding := .of .invalidAuthor .empty [("PACKAGE_AUTHOR", some "ann")]

theorem wellNamed : Plain.WellNamed answer := by
  intro request entries hkind hentries
  have hlisted : entries = [[("path", .string "Ann"), ("type", .string "tree"),
        ("sha", .string "a")]] ∨
      entries = [[("path", .string "knit"), ("type", .string "blob"), ("sha", .string "k")]] := by
    rw [answer, hkind] at hentries
    split at hentries
    · exact .inl (Option.some.inj hentries).symm
    · exact .inr (Option.some.inj hentries).symm
    · contradiction
  intro entry hentry
  rcases hlisted with rfl | rfl
  · obtain rfl := List.mem_singleton.mp hentry
    exact ⟨⟨⟨"Ann", rfl⟩, "a", rfl⟩, by decide⟩
  · obtain rfl := List.mem_singleton.mp hentry
    exact ⟨⟨⟨"knit", rfl⟩, "k", rfl⟩, by decide⟩

/-- The only version that is published. -/
theorem regularText {index : Handle} {author name text : String}
    (h : Plain.Publishes answer index author name text) : Version.RegularText text := by
  obtain ⟨id, stored, hstored, hversion⟩ := h.exists_blob
  obtain rfl : history = stored := Json.string.inj (Except.ok.inj hstored)
  have hversions : (Record.history history.toList).map (·.version) = ["1.0.0"] := by
    decide +kernel
  rw [hversions] at hversion
  obtain rfl := List.mem_singleton.mp hversion
  have hparse : Version.parse? "1.0.0" = some ⟨1, 0, 0, "", ""⟩ := by decide
  have hanchor : Version.anchor? "1.0.0" = some ⟨1, 0, 0, "", ""⟩ := by decide
  constructor
  · intro version hversion
    exact Version.regular_of_release (Option.some.inj (hparse.symm.trans hversion) ▸ rfl)
  · intro version hversion
    exact Version.regular_of_release (Option.some.inj (hanchor.symm.trans hversion) ▸ rfl)

end Misspelt

open Misspelt in
/-- The author that is suggested exists, and with it the finding is gone. -/
theorem author_suggestion_clears :
    let world : World Registry := .steady answer
    start.ended world (Rule.dependency client .shared (dependency "anm/knit@1.0.0")) =
        .ok (some finding) ∧
      start.ended world (Lookup.authorValidity client "ann") = .ok .valid ∧
      ∀ next, start.ended world (Rule.dependency client .shared (dependency "ann/knit@1.0.0")) =
        .ok (some next) → next.code ≠ .invalidAuthor := by
  intro world
  have hfound : start.ended world
      (Rule.dependency client .shared (dependency "anm/knit@1.0.0")) = .ok (some finding) :=
    eq_ok_of_toOption (by decide +kernel)
  have hsuggestion : finding.substitutions.get? Rule.Part.author.placeholder = some "ann" := by
    decide
  have hcoherent : start.state.Coherent answer answer :=
    Registry.coherent_new answer {} (some defaultCooldown) none
  obtain ⟨-, hlater⟩ := Rule.suggestion_clears (World.keeps_coherence_steady answer answer)
    (World.keeps_cooling_steady answer) wellNamed (fun _ _ _ _ _ => regularText) hcoherent
    hfound rfl hsuggestion (by decide)
  obtain ⟨hvalid, hcleared⟩ := hlater start hcoherent rfl
  refine ⟨hfound, hvalid, fun next hnext => hcleared .shared _ next ?_ hnext⟩
  exact (by decide : "ann" = (Specifier.parse "ann/knit@1.0.0").author)

end ManifestLint
