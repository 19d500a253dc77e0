import ManifestLint.Proofs.Registry.Searching
import ManifestLint.Proofs.Version.Picking

/-!
# The best version of a package

There are two ways to ask a chain for a version that satisfies a requirement.  One asks whether
any version in the list does.  The other filters the list, sorts what is left, takes the first
text and looks its record up.  If each request has one reply, and the identifiers of digits are
written the usual way, both find the same package and tell the same of it.

* `Plain.bestRecord`: the record for a requirement.
* `Instant.version_valid_iff_best`: both ways compared.
-/

namespace ManifestLint

namespace Plain

variable (replies : Request → Reply) (handle : Handle) (author name requirement : String)

/-- The record of the newest version that satisfies a requirement. -/
def bestRecord : Except Fault (Option Record) :=
  match (packageFound replies handle author name).value with
  | none => .ok none
  | some package => (package.findSatisfying? requirement).mapError .notANumber

variable {replies handle author name requirement}

/-- If no package is found, no version is valid. -/
theorem versionValidity_of_none
    (hfound : (packageFound replies handle author name).value = none) :
    ∃ validity, versionValidity replies handle author name requirement = .ok validity ∧
      validity ≠ .valid := by
  refine ⟨_, by rw [versionValidity, Lookup.verdictOn, hfound], ?_⟩
  rw [Lookup.Found.validity, hfound]
  dsimp only
  split <;> decide

/-- If a package is found, its versions tell whether one is valid. -/
theorem versionValidity_of_some {package : Index.Package} {satisfied : Bool}
    (hfound : (packageFound replies handle author name).value = some package)
    (hsatisfies : (package.newestFirst >>= Version.anySatisfies requirement) = .ok satisfied) :
    versionValidity replies handle author name requirement =
      .ok (if satisfied then .valid else .invalid) := by
  have hsame : Instant.satisfies requirement package = .ok satisfied := hsatisfies
  rw [versionValidity, Lookup.verdictOn, hfound]
  dsimp only
  rw [hsame]
  rfl

end Plain

namespace Instant

open Registry (coherence cooling)

variable {answer replies : Request → Reply} {world : World Registry} {handle : Handle}
  {author name requirement : String}

theorem settles_bestRecord :
    Settles (coherence answer replies) (· = .noCooldown)
      (Lookup.bestRecord handle author name requirement)
      (Plain.bestRecord replies handle author name requirement) := by
  refine (settles_packageFound handle author name).bind_ok ?_
  rw [Plain.bestRecord]
  cases (Plain.packageFound replies handle author name).value with
  | none => exact settles_pure _
  | some package => exact settles_ofVersions _

theorem settles_latestSatisfying {best : Option Record}
    (hbest : Plain.bestRecord replies handle author name requirement = .ok best) :
    Settles (coherence answer replies) (· = .noCooldown)
      (Lookup.latestSatisfying handle author name requirement) (.ok (best.map (·.version))) := by
  have hsettles : Settles (coherence answer replies) (· = .noCooldown)
      (Lookup.bestRecord handle author name requirement)
      (Plain.bestRecord replies handle author name requirement) := settles_bestRecord
  rw [hbest] at hsettles
  exact hsettles.bind_ok (settles_pure _)

/-- **The best version.**  Let each request have one reply, and let a requirement with a text and
the published versions be canonical; indexes may be unreadable.  Whatever is in the caches, the
version is valid if and only if a record is found, and the version that is found is that of the
record.  The record is one of the package, its version satisfies the requirement, and no
published version that does is above it; if none is found, none does. -/
theorem version_valid_iff_best (hrequirement : Text.strip requirement ≠ "")
    (hanchor : ∀ version ∈ Version.anchor? requirement, version.Canonical)
    (hpublished : ∀ index ∈ Plain.chain replies handle, ∀ text,
      Plain.Publishes replies index (Text.lower author) (Text.lower name) text →
        Version.TextCanonical text)
    (hcoherence : world.Keeps (coherence answer replies)) (hcooling : world.Keeps cooling) :
    ∃ validity best,
      (∀ instant : Instant Registry, instant.state.Coherent answer replies →
        cooling.state instant.state →
        instant.ended world (Lookup.versionValidity handle author name requirement) =
            .ok validity ∧
          instant.ended world (Lookup.bestRecord handle author name requirement) = .ok best ∧
          instant.ended world (Lookup.latestSatisfying handle author name requirement) =
            .ok (best.map (·.version))) ∧
      (validity = .valid ↔ best.isSome = true) ∧
      (∀ record ∈ best, ∃ package,
        (Plain.packageFound replies handle author name).value = some package ∧
        record ∈ package.records ∧ Version.satisfies requirement record.version = .ok true ∧
        ∀ other ∈ package.records, Version.satisfies requirement other.version = .ok true →
          ∃ order, Version.compareTexts other.version record.version = .ok order ∧ order ≠ .gt) ∧
      (best = none → ∀ package,
        (Plain.packageFound replies handle author name).value = some package →
        ∀ record ∈ package.records,
          Version.satisfies requirement record.version = .ok false) := by
  have hended {validity : Validity} {best : Option Record}
      (hvalidity : Plain.versionValidity replies handle author name requirement = .ok validity)
      (hbest : Plain.bestRecord replies handle author name requirement = .ok best)
      (instant : Instant Registry) (hcoherent : instant.state.Coherent answer replies)
      (hcooldown : cooling.state instant.state) :
      instant.ended world (Lookup.versionValidity handle author name requirement) =
          .ok validity ∧
        instant.ended world (Lookup.bestRecord handle author name requirement) = .ok best ∧
        instant.ended world (Lookup.latestSatisfying handle author name requirement) =
          .ok (best.map (·.version)) := by
    refine ⟨?_, ?_, ?_⟩
    · exact (ended_eq_of_settles (settles_versionValidity handle author name requirement)
        (Lookup.browses_versionValidity _ _ _ _ fun _ _ => trivial) hcoherence hcooling hcoherent
        hcooldown).trans hvalidity
    · exact (ended_eq_of_settles settles_bestRecord
        (Lookup.browses_bestRecord _ _ _ _ fun _ _ => trivial) hcoherence hcooling hcoherent
        hcooldown).trans hbest
    · exact ended_eq_of_settles (settles_latestSatisfying hbest)
        (Lookup.browses_latestSatisfying _ _ _ _ fun _ _ => trivial) hcoherence hcooling
        hcoherent hcooldown
  cases hfound : (Plain.packageFound replies handle author name).value with
  | none =>
      obtain ⟨validity, hvalidity, hinvalid⟩ : ∃ validity,
          Plain.versionValidity replies handle author name requirement = .ok validity ∧
            validity ≠ .valid := Plain.versionValidity_of_none hfound
      have hbest : Plain.bestRecord replies handle author name requirement = .ok none := by
        rw [Plain.bestRecord, hfound]
      refine ⟨validity, none, hended hvalidity hbest, ?_, nofun, nofun⟩
      exact iff_of_false hinvalid nofun
  | some package =>
      obtain ⟨index, hindex, htexts⟩ := Plain.exists_of_packageFound hfound
      obtain ⟨best, hpicked, hany, hnone, hrecord⟩ :=
        package.findSatisfying?_newest hrequirement hanchor
          fun text htext => hpublished index hindex text (htexts text htext)
      have hbest : Plain.bestRecord replies handle author name requirement = .ok best := by
        rw [Plain.bestRecord, hfound]
        dsimp only
        rw [hpicked]
        rfl
      refine ⟨_, best, hended (Plain.versionValidity_of_some hfound hany) hbest, ?_, ?_, ?_⟩
      · cases best <;> simp
      · exact fun record hmem => ⟨package, rfl, hrecord record hmem⟩
      · rintro hempty other hother
        obtain rfl := Option.some.inj hother
        exact hnone hempty

end Instant

/-! ## A package behind an unread index

The root of the first index cannot be read, and the second index has published some versions
twice, one that denotes none, and two that are equal but for their metadata. -/

namespace PassedOver

/-- A line of a history. -/
def line (version : String) : String :=
  "\x7b\"package\": \x7b\"version\": \"" ++ version ++ "\"\x7d\x7d\n"

/-- The published versions. -/
def versions : List String :=
  ["1.0.0", "soon", "1.2.0+linux", "1.3.0-rc.10", "2.0.0", "1.2.0+mac", "1.0.0"]

/-- The replies of the host. -/
def answer (request : Request) : Reply :=
  match request.repository, request.idText with
  | "r", "main" => .ok (.found (.array [entry "a" "tree" "ta", entry "config.json" "blob" "c"]))
  | "r", "c" => .ok (.found (.string configuration))
  | "f", "main" => .ok (.found (.array [entry "a" "tree" "tf"]))
  | "f", "tf" => .ok (.found (.array [entry "b" "blob" "bf"]))
  | "f", "bf" => .ok (.found (.string (.join (versions.map line))))
  | _, _ => .ok { status := 404 }

/-- The package in an index of the chain, if the index could be read. -/
def reading (index : Handle) : Option (Option Index.Package) :=
  (Plain.package answer index (Text.lower "A") (Text.lower "B")).toOption

/-- The characters of a history. -/
theorem toList_lines (versions : List String) : (String.join (versions.map line)).toList =
    versions.flatMap fun version => "\x7b\"package\": \x7b\"version\": \"".toList
      ++ version.toList ++ "\"\x7d\x7d\n".toList := by
  have hline (version : String) : (line version).toList =
      "\x7b\"package\": \x7b\"version\": \"".toList ++ version.toList
        ++ "\"\x7d\x7d\n".toList :=
    String.toList_append.trans (congrArg (· ++ _) String.toList_append)
  rw [String.toList_join, List.flatMap_map, funext hline]

/-- The history has the published versions. -/
theorem history_eq : (Record.history (String.join (versions.map line)).toList).map (·.version) =
    versions := by
  rw [toList_lines, String.toList_ofList, String.toList_ofList]
  decide +kernel

theorem readings_eq :
    ((Plain.chain answer client).map reading).map (·.map (·.map (·.versionTexts))) =
      [none, some (some versions)] := by
  have hchain : Plain.chain answer client = [client, .shared ⟨"o", "f"⟩] := by decide
  have hunread : reading client = none := rfl
  have hread : reading (.shared ⟨"o", "f"⟩) =
      some (some ⟨"a", "b", Record.history (String.join (versions.map line)).toList⟩) := rfl
  simp only [hchain, List.map_cons, List.map_nil, hunread, hread, Option.map_none,
    Option.map_some, Index.Package.versionTexts, history_eq]

/-- All versions that the chain has published are canonical. -/
theorem published_canonical :
    ∀ index ∈ Plain.chain answer client, ∀ text,
      Plain.Publishes answer index (Text.lower "A") (Text.lower "B") text →
        Version.TextCanonical text := by
  have hcanonical : ∀ text ∈ versions, Version.TextCanonical text := by decide
  rintro index hindex text ⟨package, hpackage, htext⟩
  have hreading : reading index = some (some package) := by
    rw [reading, hpackage]
    rfl
  have hmem := List.mem_map_of_mem (f := (·.map (·.map (·.versionTexts))))
    (List.mem_map_of_mem (f := reading) hindex)
  rw [readings_eq, hreading] at hmem
  have htexts : package.versionTexts = versions := by simpa using hmem
  exact hcanonical text (htexts ▸ htext)

/-- The package is found in the second index. -/
theorem found_versions :
    (Plain.packageFound answer client "A" "B").value.map (·.versionTexts) = some versions := by
  change (Lookup.foundAmong id false ((Plain.chain answer client).map reading)).value.map _ = _
  rw [← Lookup.value_foundAmong_map, readings_eq]
  rfl

end PassedOver

open PassedOver in
/-- The highest of the versions is found behind the index that could not be read. -/
theorem best_of_versions :
    let world : World Registry := .steady answer
    start.ended world (Lookup.versionValidity client "A" "B" ">= 1.0") = .ok .valid ∧
      start.ended world (Lookup.latestSatisfying client "A" "B" ">= 1.0") =
        .ok (some "2.0.0") := by
  intro world
  have hrequirement : Text.strip ">= 1.0" ≠ "" := by decide
  obtain ⟨validity, best, hended, hvalid, hbest, hnone⟩ :=
    Instant.version_valid_iff_best hrequirement (by decide) published_canonical
      (World.keeps_coherence_steady answer answer) (World.keeps_cooling_steady answer)
  obtain ⟨hvalidity, -, hlatest⟩ :=
    hended start (Registry.coherent_new answer {} (some defaultCooldown) none) rfl
  obtain ⟨package, hpackage, htexts⟩ := Option.map_eq_some_iff.mp found_versions
  obtain ⟨highest, hhighest, hversion⟩ : ∃ record ∈ package.records, record.version = "2.0.0" :=
    List.mem_map.mp (htexts ▸ by decide : "2.0.0" ∈ package.versionTexts)
  have hsatisfies : Version.satisfies ">= 1.0" "2.0.0" = .ok true := by decide
  cases best with
  | none =>
      have hfails := hnone rfl package hpackage highest hhighest
      rw [hversion, hsatisfies] at hfails
      cases hfails
  | some record =>
      obtain ⟨other, hother, hmem, hrecord, habove⟩ := hbest record rfl
      obtain rfl := Option.some.inj (hpackage.symm.trans hother)
      obtain ⟨order, hcompare, horder⟩ := habove highest hhighest (by rw [hversion, hsatisfies])
      have htext : record.version ∈ versions := htexts ▸ List.mem_map_of_mem hmem
      have hbelow : ∀ text ∈ versions, text = "2.0.0" ∨
          Version.compareTexts "2.0.0" text = .ok .gt := by
        decide
      have hbest : record.version = "2.0.0" := (hbelow _ htext).resolve_right fun hgt => by
        rw [hversion, hgt] at hcompare
        exact horder (Except.ok.inj hcompare).symm
      rw [hvalidity, hlatest, hvalid.mpr rfl, Option.map_some, hbest]
      exact ⟨rfl, rfl⟩

end ManifestLint
