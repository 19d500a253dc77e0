import ManifestLint.Proofs.Registry.Validity

/-!
# A configuration that cannot be read

If the configuration of an index cannot be read, its fall-backs are not known,
and nothing can be said about a name that the index itself does not list.  The
chain forgets this: it is then the client alone, as if there were no
fall-backs, and what the index does not list is said not to exist.

`chain_unread` is the step at which the failure is lost;
`not_invalid_iff_of_unread` says when the answers are nevertheless cautious.
-/

namespace ManifestLint

namespace Instant

variable {world : World Registry} (instant : Instant Registry) {address : Address}

/-- Without its configuration a client is alone on its chain. -/
theorem chain_unread (hworld : world.Orderly) (hready : instant.state.Ready)
    (hunread : instant.configShown world (.shared address) = none) :
    instant.value world (Lookup.chain (.shared address)) = some [.shared address] := by
  have hvalue := value_attempt hworld hready (.shared address) (keeps_config (.shared address))
  rw [value_config, hunread] at hvalue
  rw [Lookup.chain, value_bind_some _ _ hvalue]
  rfl

/-- One index alone is judged by what it shows. -/
theorem judged_single_iff {validity : Validity} {shown : Option (List String)} {name : String}
    (h : Judged validity [shown] name) :
    validity ≠ .invalid ↔ shown = none ∨ ∃ names, shown = some names ∧ name ∈ names := by
  rw [ne_eq, h.invalid]
  cases shown <;> simp

/-- Whether a package has a version that satisfies a requirement. -/
def satisfies (requirement : String) (package : Index.Package) :
    Except Version.NotANumber Bool :=
  package.newestFirst.bind fun versions => Version.anySatisfies requirement versions

/-- The answer about a version, if there is one, where one index shows a package. -/
def versionVerdict (requirement : String) : Option (Option Index.Package) → Option Validity
  | none => some .indeterminate
  | some none => some .invalid
  | some (some package) =>
    (satisfies requirement package).toOption.map fun satisfied =>
      if satisfied then .valid else .invalid

theorem versionVerdict_ne_invalid_iff (requirement : String)
    (shown : Option (Option Index.Package)) :
    versionVerdict requirement shown ≠ some .invalid ↔
      shown = none ∨ ∃ package, shown = some (some package) ∧
        satisfies requirement package ≠ .ok false := by
  rcases shown with _ | (_ | package)
  · simp [versionVerdict]
  · simp [versionVerdict]
  · rcases hsatisfied : satisfies requirement package with error | (_ | _) <;>
      simp [versionVerdict, hsatisfied, Except.toOption]

theorem value_ofVersions {α : Type} (value : Except Version.NotANumber α) :
    instant.value world (Lookup.ofVersions value) = value.toOption := by
  cases value <;> rfl

theorem after_ofVersions {α : Type} (value : Except Version.NotANumber α) :
    instant.after world (Lookup.ofVersions value) = instant := by
  cases value <;> rfl

/-- What a search finds where the client is alone on its chain. -/
theorem value_search_single {α β : Type} {handle : Handle} (hworld : world.Orderly)
    (hready : instant.state.Ready) (read : Handle → Read α) (pick : α → Option β)
    (hchain : instant.value world (Lookup.chain handle) = some [handle])
    (hread : Keeps Registry.readiness (fun _ => True) (fun _ => True) (read handle)) :
    instant.value world (Lookup.search handle read pick) =
      some (match (instant.after world (Lookup.chain handle)).value world (read handle) with
        | none => ⟨none, true⟩
        | some level => ⟨pick level, false⟩) := by
  have hstart := (keeps_chain handle).after hworld.keeps hready
  have hvalue := value_attempt hworld hstart handle hread
  rw [Lookup.search, value_bind_some _ _ hchain, Lookup.searchFrom, value_bind_some _ _ hvalue]
  cases (instant.after world (Lookup.chain handle)).value world (read handle) with
  | none => rfl
  | some level => cases hpicked : pick level <;> simp [hpicked, Lookup.searchFrom]

/-- The answer about a version, where the client is alone on its chain. -/
theorem version_unread (hworld : world.Orderly) (hready : instant.state.Ready)
    (hunread : instant.configShown world (.shared address) = none)
    (author name requirement : String) :
    instant.value world (Lookup.versionValidity (.shared address) author name requirement) =
      versionVerdict requirement ((instant.after world
        (Lookup.chain (.shared address))).packageShown world (.shared address) author name) := by
  have hchain := chain_unread instant hworld hready hunread
  have hfound := value_search_single instant hworld hready (Read.package · author name) id
    hchain (keeps_package (.shared address) author name)
  rw [Lookup.versionValidity, Lookup.package, value_bind_some _ _ hfound,
    value_package (.shared address) hworld]
  rcases (instant.after world (Lookup.chain (.shared address))).packageShown world
    (.shared address) author name with _ | (_ | package)
  · rfl
  · rfl
  · simp only [id, value_bind, value_ofVersions, after_ofVersions, versionVerdict, satisfies]
    cases package.newestFirst with
    | error error => rfl
    | ok versions =>
        show (Version.anySatisfies requirement versions).toOption.bind _ =
          Option.map _ (Version.anySatisfies requirement versions).toOption
        cases Version.anySatisfies requirement versions <;> rfl

/-- **The answers without a configuration.**  If the configuration of a client's
index cannot be read the chain is the client alone.  An author or a package is
then said not to exist unless the index itself could not be read or lists it, and
a version unless the package could not be read, or was found and has such a
version or versions that cannot be compared. -/
theorem not_invalid_iff_of_unread (hworld : world.Orderly) (hready : instant.state.Ready)
    (hunread : instant.configShown world (.shared address) = none)
    (author name requirement : String) :
    let handle : Handle := .shared address
    let start := instant.after world (Lookup.chain handle)
    instant.value world (Lookup.chain handle) = some [handle] ∧
      (instant.value world (Lookup.authorValidity handle author) ≠ some .invalid ↔
        start.authorsShown world handle = none ∨
          ∃ names, start.authorsShown world handle = some names ∧
            Text.lower author ∈ names) ∧
      (instant.value world (Lookup.packageValidity handle author name) ≠ some .invalid ↔
        start.packageNamesShown world handle author = none ∨
          ∃ names, start.packageNamesShown world handle author = some names ∧
            Text.lower name ∈ names) ∧
      (instant.value world (Lookup.versionValidity handle author name requirement) ≠
          some .invalid ↔
        start.packageShown world handle author name = none ∨
          ∃ package, start.packageShown world handle author name = some (some package) ∧
            satisfies requirement package ≠ .ok false) := by
  intro handle start
  have hchain := chain_unread instant hworld hready hunread
  refine ⟨hchain, ?_, ?_, ?_⟩
  · obtain ⟨validity, hvalue, hjudged⟩ :=
      judged_author instant handle hworld hready author hchain
    rw [hvalue, ne_eq, Option.some.injEq]
    exact judged_single_iff hjudged
  · obtain ⟨validity, hvalue, hjudged⟩ :=
      judged_package instant handle hworld hready author name hchain
    rw [hvalue, ne_eq, Option.some.injEq]
    exact judged_single_iff hjudged
  · rw [version_unread instant hworld hready hunread]
    exact versionVerdict_ne_invalid_iff requirement _

/-- Without the configuration an author whom the index lists is still found. -/
theorem author_not_invalid_of_unread :
    let entry (path kind id : String) : Json :=
      .object [("path", .string path), ("type", .string kind), ("sha", .string id)]
    let root : Json := .array [entry "a" "tree" "a1", entry "config.json" "blob" "c1"]
    let world : World Registry := .steady fun request =>
      match request.kind with
      | .tree => .ok (.found root)
      | .blob => .ok { status := 404, message := "GitHub returned 404" }
    let start : Instant Registry := ⟨.new {} (some defaultCooldown) none, 0⟩
    start.value world (Lookup.authorValidity (.shared ⟨"o", "r"⟩) "A") ≠ some .invalid := by
  intro entry root world start
  have hworld : world.Orderly := by
    refine World.orderly_steady fun request entries hkind hentries entry hmem => ?_
    rw [hkind] at hentries
    obtain rfl := Option.some.inj hentries
    rcases List.mem_cons.mp hmem with rfl | hmem
    · exact ⟨⟨"a", rfl⟩, "a1", rfl⟩
    · obtain rfl := List.mem_singleton.mp hmem
      exact ⟨⟨"config.json", rfl⟩, "c1", rfl⟩
  have hunread : start.configShown world (.shared ⟨"o", "r"⟩) = none := rfl
  have hauthor :=
    (not_invalid_iff_of_unread start hworld (Registry.ready_new ..) hunread "A" "" "").2.1
  exact hauthor.mpr (.inr ⟨["a"], rfl, by decide⟩)

/-- An author whom the index does not list is said not to exist, though the
fall-backs are not known: the root names a configuration, and the request for it
is answered with 404. -/
theorem author_invalid_of_unread :
    let entry (path kind id : String) : Json :=
      .object [("path", .string path), ("type", .string kind), ("sha", .string id)]
    let root : Json := .array [entry "a" "tree" "ta", entry "config.json" "blob" "c1"]
    let world : World Registry := .steady fun request =>
      match request.kind with
      | .tree => .ok (.found root)
      | .blob => .ok { status := 404, message := "GitHub returned 404" }
    let start : Instant Registry := ⟨.new {} (some defaultCooldown) none, 0⟩
    let handle : Handle := .shared ⟨"o", "r"⟩
    start.configShown world handle = none ∧
      start.authorsShown world handle = some ["a"] ∧
      start.value world (Lookup.authorValidity handle "nobody") = some .invalid :=
  ⟨rfl, rfl, rfl⟩

end Instant

end ManifestLint
