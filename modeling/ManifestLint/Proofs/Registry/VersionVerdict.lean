import ManifestLint.Fetching.Host
import ManifestLint.Proofs.Registry.Passing
import ManifestLint.Proofs.Registry.UnreadConfiguration

/-!
# Whether a version exists

A version is looked for in one package: that of the first index of the chain which
has the package at all.  An index that was passed before it and could not be read
may have the package too, with other versions, and it would have come first.  So
the package that was found can confirm a version, but it cannot rule one out
unless everything before it was read.

The search knows whether something before the package could not be read, and the
verdict uses it when no index has the package.  When one has, it is dropped, and
the version is said not to exist.

* `version_verdict` says which answer is given when.
* `version_invalid_of_unread` is the chain of two indexes on which an index that
  could not be read is passed over.
-/

namespace ManifestLint

namespace Lookup

/-- The verdict on a version, given what was found of its package. -/
def verdictOn (requirement : String) (found : Found Index.Package) : Except Fault Validity :=
  match found.value with
  | none => .ok found.validity
  | some package => ((Instant.satisfies requirement package).mapError .notANumber).map
      fun satisfied => if satisfied then .valid else .invalid

variable {requirement : String} {readings before : List (Option (Option Index.Package))}
  {package : Index.Package}

/-- Where no index has the package it depends on whether all could be read. -/
theorem verdictOn_of_passed (hpassed : AllPassed id readings) :
    verdictOn requirement (foundAmong id false readings) =
      .ok (if readings.any (·.isNone) then .indeterminate else .invalid) := by
  rw [foundAmong_of_passed hpassed]
  rfl

/-- Where an index has the package it depends on its versions, and on nothing that
was passed before. -/
theorem verdictOn_of_hit (hhit : HitAfter id readings before package) :
    verdictOn requirement (foundAmong id false readings) =
      ((Instant.satisfies requirement package).mapError .notANumber).map
        fun satisfied => if satisfied then .valid else .invalid := by
  rw [foundAmong_of_hit hhit]
  rfl

theorem verdictOn_of_hit_eq_iff (hhit : HitAfter id readings before package)
    (validity : Validity) :
    verdictOn requirement (foundAmong id false readings) = .ok validity ↔
      (Instant.satisfies requirement package = .ok true ∧ validity = .valid) ∨
        (Instant.satisfies requirement package = .ok false ∧ validity = .invalid) := by
  rw [verdictOn_of_hit hhit]
  rcases Instant.satisfies requirement package with error | (_ | _) <;>
    delta Except.mapError <;> simp [Except.map, eq_comm]

theorem any_isNone_iff {α : Type} (levels : List (Option α)) :
    levels.any (·.isNone) = true ↔ none ∈ levels := by
  simp

/-- Nothing is in doubt where no index has the package and all were read. -/
theorem all_read_iff (readings : List (Option (Option Index.Package))) :
    (∀ reading ∈ readings, reading = some none) ↔
      AllPassed id readings ∧ none ∉ readings := by
  constructor
  · intro hread
    refine ⟨fun reading hmem => hread reading hmem ▸ rfl, fun hnone => ?_⟩
    exact Option.some_ne_none none (hread none hnone).symm
  · rintro ⟨hpassed, hread⟩ reading hmem
    cases reading with
    | none => exact absurd hmem hread
    | some level => exact congrArg some (hpassed (some level) hmem)

end Lookup

namespace Instant

open Lookup (AllPassed HitAfter verdictOn)
open Registry (cooling)

variable {world : World Registry} {instant : Instant Registry} {handle : Handle}
  {chain : List Handle} {author name : String}

theorem ended_of_value {σ ε α : Type} {world : World σ} {instant : Instant σ}
    {action : ExceptT ε (Action σ) α} {value : α}
    (hvalue : instant.value world action = some value) :
    instant.ended world action = .ok value := by
  rw [Instant.value] at hvalue
  rw [ended]
  cases hplayed : (action.run.play world instant).1 with
  | ok other =>
      rw [hplayed] at hvalue
      exact congrArg Except.ok (Option.some.inj hvalue)
  | error error =>
      rw [hplayed] at hvalue
      cases hvalue

/-- What the indexes of a chain have of a package. -/
def holdings (world : World Registry) (instant : Instant Registry) (author name : String)
    (chain : List Handle) : List (Option (Option Index.Package)) :=
  readings world instant (Read.package · author name) chain

/-- The verdict on a version is that on what is found among the readings. -/
theorem ended_versionValidity (hworld : world.Keeps cooling)
    (hcooldown : cooling.state instant.state)
    (hchain : instant.value world (Lookup.chain handle) = some chain) (requirement : String) :
    instant.ended world (Lookup.versionValidity handle author name requirement) =
      verdictOn requirement (Lookup.foundAmong id false
        (holdings world (instant.after world (Lookup.chain handle)) author name chain)) := by
  have hfound : instant.value world (Lookup.package handle author name) = some _ :=
    value_search hworld hcooldown hchain
      (fun handle => Fallible.obeys_package handle author name) id
  rw [Lookup.versionValidity, ended_bind, ended_of_value hfound, holdings]
  generalize Lookup.foundAmong id false _ = found
  rcases found with ⟨_ | package, failed⟩
  · rfl
  · simp only [ended_bind, ended_ofVersions, after_ofVersions, verdictOn, satisfies]
    cases package.newestFirst with
    | error error => rfl
    | ok versions =>
        delta Except.mapError
        dsimp only [Except.bind]
        cases Version.anySatisfies requirement versions <;> rfl

/-- **The answers about a version.**  Whatever the requests are answered with and
whatever others do meanwhile, a version is valid if the first package that the
chain has offers it.  It is invalid if that package does not offer it, or if all
indexes were read and none has the package; and it is open if none has the
package and one was not read.  So a version is said not to exist past an index
that could not be read if and only if a package was found behind that index and
does not offer it. -/
theorem version_verdict (hworld : world.Keeps cooling) (instant : Instant Registry)
    (hcooldown : cooling.state instant.state) (handle : Handle)
    (author name requirement : String) :
    ∃ chain, instant.value world (Lookup.chain handle) = some chain ∧
      let held := holdings world (instant.after world (Lookup.chain handle)) author name chain
      let ended := instant.ended world (Lookup.versionValidity handle author name requirement)
      (ended = .ok .valid ↔ ∃ before package, HitAfter id held before package ∧
        satisfies requirement package = .ok true) ∧
      (ended = .ok .invalid ↔ (∀ reading ∈ held, reading = some none) ∨
        ∃ before package, HitAfter id held before package ∧
          satisfies requirement package = .ok false) ∧
      (ended = .ok .indeterminate ↔ AllPassed id held ∧ none ∈ held) ∧
      ((ended = .ok .invalid → ∀ before package, HitAfter id held before package →
          none ∉ before) ↔
        ∀ before package, HitAfter id held before package → none ∈ before →
          satisfies requirement package ≠ .ok false) := by
  obtain ⟨chain, hchain⟩ := value_chain hworld hcooldown handle
  refine ⟨chain, hchain, ?_⟩
  intro held ended
  have hended : ended = verdictOn requirement (Lookup.foundAmong id false held) :=
    ended_versionValidity hworld hcooldown hchain requirement
  rw [hended, Lookup.all_read_iff]
  rcases Lookup.passed_or_hit id held with hpassed | ⟨before, package, hhit⟩
  · have hnever : ∀ before package, ¬ HitAfter id held before package :=
      fun before package hhit => hhit.not_allPassed hpassed
    rw [Lookup.verdictOn_of_passed hpassed]
    cases hnone : held.any (·.isNone) with
    | true =>
        have hmem : none ∈ held := (Lookup.any_isNone_iff held).mp hnone
        simp [hnever, hpassed, hmem]
    | false =>
        have hmem : none ∉ held := fun hmem =>
          Bool.false_ne_true (hnone.symm.trans ((Lookup.any_isNone_iff held).mpr hmem))
        simp [hnever, hpassed, hmem]
  · have hsame : ∀ others other, HitAfter id held others other →
        other = package ∧ (none ∈ others ↔ none ∈ before) := by
      intro others other hother
      obtain ⟨hvalue, hunread⟩ := hother.unique hhit
      rw [← Lookup.any_isNone_iff, ← Lookup.any_isNone_iff, hunread]
      exact ⟨hvalue, Iff.rfl⟩
    have hfirst : ∀ p : Index.Package → Prop,
        (∃ before package, HitAfter id held before package ∧ p package) ↔ p package := by
      intro p
      constructor
      · rintro ⟨others, other, hother, hp⟩
        exact (hsame others other hother).1 ▸ hp
      · exact fun hp => ⟨before, package, hhit, hp⟩
    have hnot : ¬ AllPassed id held := hhit.not_allPassed
    rw [hfirst, hfirst]
    simp only [Lookup.verdictOn_of_hit_eq_iff hhit, hnot, false_and, false_or, reduceCtorEq,
      and_true, and_false, or_false, true_and]
    constructor
    · intro hclaim others other hother hunread hfalse
      obtain ⟨rfl, hiff⟩ := hsame others other hother
      exact hclaim hfalse before other hhit (hiff.mp hunread)
    · intro hoffers hfalse others other hother hunread
      exact hoffers others other hother hunread ((hsame others other hother).1 ▸ hfalse)

end Instant

/-! ## An index that could not be read

The client's own index names an author and a fall-back.  The author's tree cannot be
had; the fall-back has a package of that author with one version. -/

namespace PassedOver

/-- An entry of a tree. -/
def entry (path kind id : String) : Json :=
  .object [("path", .string path), ("type", .string kind), ("sha", .string id)]

/-- The configuration with the fall-back. -/
def configuration : String :=
  "\x7b\"fallback_registries\": [\"https://github.com/o/f\"]\x7d"

/-- The history with the one version. -/
def history : String := "\x7b\"package\": \x7b\"version\": \"1.0.0\"\x7d\x7d\n"

/-- Both indexes. -/
def host : Host := .repositories [
  ("o/r", {
    trees := [("main",
      .payload (.array [entry "a" "tree" "ta", entry "config.json" "blob" "c"]))]
    blobs := [("c", .payload (.string configuration))] }),
  ("o/f", {
    trees := [("main", .payload (.array [entry "a" "tree" "tf"])),
      ("tf", .payload (.array [entry "b" "blob" "bf"]))]
    blobs := [("bf", .payload (.string history))] })]

/-- A new registry with the usual cooldown. -/
def start : Instant Registry := ⟨.new {} (some defaultCooldown) none, 0⟩

/-- The client of the first index. -/
def client : Handle := .shared ⟨"o", "r"⟩

/-- The package that the fall-back has. -/
def package : Index.Package := ⟨"a", "b", Record.history history.toList⟩

end PassedOver

open PassedOver in
/-- A version that the fall-back has is valid, though the first index was not read. -/
theorem version_valid_past_unread :
    start.ended (.steady host.answer) (Lookup.versionValidity client "a" "b" "1.0.0") =
      .ok .valid := by
  obtain ⟨chain, hchain, hvalid, -⟩ :=
    Instant.version_verdict (World.keeps_cooling_steady host.answer) start rfl client
      "a" "b" "1.0.0"
  have hsame : start.value (.steady host.answer) (Lookup.chain client) =
      some [client, .shared ⟨"o", "f"⟩] := by decide +kernel
  obtain rfl := Option.some.inj (hsame.symm.trans hchain)
  have hheld : Instant.holdings (.steady host.answer)
      (start.after (.steady host.answer) (Lookup.chain client)) "a" "b"
        [client, .shared ⟨"o", "f"⟩] = [none, some (some package)] := by decide +kernel
  rw [hheld] at hvalid
  have hoffers : (Instant.satisfies "1.0.0" package).toOption = some true := by decide +kernel
  refine hvalid.mpr ⟨[none], package, ⟨?_, some package, [], rfl, rfl⟩, ?_⟩
  · exact List.forall_mem_singleton.mpr rfl
  · cases hsatisfied : Instant.satisfies "1.0.0" package with
    | ok satisfied =>
        rw [hsatisfied] at hoffers
        exact congrArg Except.ok (Option.some.inj hoffers)
    | error error =>
        rw [hsatisfied] at hoffers
        cases hoffers

open PassedOver in
/-- **Passed over.**  The first index of the chain could not be read, and a version
that the second one does not have is said not to exist. -/
theorem version_invalid_of_unread :
    let world : World Registry := .steady host.answer
    let chain : List Handle := [client, .shared ⟨"o", "f"⟩]
    start.value world (Lookup.chain client) = some chain ∧
      Instant.holdings world (start.after world (Lookup.chain client)) "a" "b" chain =
        [none, some (some package)] ∧
      start.value world (Lookup.versionValidity client "a" "b" "2.0.0") = some .invalid := by
  decide +kernel

end ManifestLint
