import ManifestLint.Proofs.Session.InTurn

/-!
# What ends in a fault

Reading is inside the border that no failure crosses; comparing what was read is
outside.  A version of a package may hold an identifier that looks like a number and
denotes none, such as a superscript two, and the comparison of two such identifiers is
refused.  So is the query that has asked for it, and a refresh one of whose checks has.

* `ended_in_fault_iff`: when queries and refreshes end in a fault.  There is no other
  case, whatever the host replies and whatever others do meanwhile.
* `Superscript`: an index on which they do.
-/

namespace ManifestLint

open Registry (cooling)

namespace Workshop

variable {shop : Workshop}

/-- What the checks of a manifest end with, if the notices have a cooldown. -/
theorem checked_justified (hcooldown : cooling.state shop.registry) {manifest : Manifest}
    {fault : Fault} (hfault : gathered (shop.checked manifest) = .error fault) :
    ∃ error : Version.NotANumber, error.Justified ∧ fault = .notANumber error := by
  let found := shop.registry.find? manifest.indexUrl
  have hkeeps : ∀ check ∈ Rule.checks manifest found.1,
      Instant.Keeps cooling (fun _ => True) (fun fault => ∃ error : Version.NotANumber,
        error.Justified ∧ fault = .notANumber error) check :=
    fun check hcheck => Instant.keeps_cooling_browses (Rule.browses_of_mem (fun _ => id) hcheck)
  let instant : Instant Registry := ⟨found.2, 0⟩
  have hfound : cooling.state instant.state :=
    Registry.cooling_of_cooldown (shop.registry.untouched_find? _).cooldown hcooldown
  have hmem : .error fault ∈
      instant.inTurn (.steady shop.host.answer) (Rule.checks manifest found.1) :=
    mem_of_gathered_error hfault
  exact Instant.endsIn_of_mem_inTurn hkeeps (World.keeps_cooling_steady _) hfound hmem

/-- A refresh that starts while the gate is open ends at once, and in a fault if and
only if one of its checks does. -/
theorem startRefresh_fault_iff (hgate : shop.gateOpen = true) (uri text : String) :
    ∃ outcome, (shop.startRefresh uri text).1.outcome? (shop.startRefresh uri text).2 =
        some outcome ∧
      ∀ fault, outcome = .error fault ↔ ∃ manifest, shop.tracker.isTracked uri = true ∧
        shop.tracker.enabled = true ∧ Manifest.parse? text = some manifest ∧
          gathered (shop.checked manifest) = .error fault := by
  by_cases hruns : shop.tracker.isTracked uri = true ∧ shop.tracker.enabled = true ∧
      ∃ manifest, Manifest.parse? text = some manifest
  · obtain ⟨htracked, hon, manifest, hparse⟩ := hruns
    cases hgathered : gathered (shop.checked manifest) with
    | ok values =>
        refine ⟨_, (shop.startRefresh_ok hgate htracked hon hparse hgathered).1, ?_⟩
        refine fun fault => ⟨nofun, ?_⟩
        rintro ⟨other, -, -, hother, hfault⟩
        obtain rfl := Option.some.inj (hparse.symm.trans hother)
        cases hgathered.symm.trans hfault
    | error first =>
        refine ⟨_, shop.startRefresh_fault hgate htracked hon hparse hgathered, ?_⟩
        intro fault
        constructor
        · intro hfirst
          cases hfirst
          exact ⟨manifest, htracked, hon, hparse, hgathered⟩
        · rintro ⟨other, -, -, hother, hfault⟩
          obtain rfl := Option.some.inj (hparse.symm.trans hother)
          cases hgathered.symm.trans hfault
          rfl
  · obtain ⟨answer, houtcome⟩ := shop.startRefresh_unchecked uri text fun htracked hon =>
      Option.eq_none_iff_forall_ne_some.mpr fun manifest hparse =>
        hruns ⟨htracked, hon, manifest, hparse⟩
    refine ⟨_, houtcome, fun fault => ⟨nofun, ?_⟩⟩
    rintro ⟨manifest, htracked, hon, hparse, -⟩
    exact absurd ⟨htracked, hon, manifest, hparse⟩ hruns

end Workshop

/-- What a refresh of a session gives. -/
theorem Session.step_refresh (session : Session) (uri text : String) :
    (session.step (.refresh uri text)).2 =
      (session.startRefresh uri text).1.outcome? (session.startRefresh uri text).2 := rfl

/-- **Faults.**  A query ends in a fault if and only if it finds a package whose
versions it cannot compare, and a comparison is refused only for an identifier that
looks like a number and denotes none, of a published version or of the requirement.
This holds whatever the replies are and whatever others do.  The checks of a manifest
end in no other fault either; and a refresh ends in the first one of its checks, or
else in none. -/
theorem ended_in_fault_iff {world : World Registry} (hworld : world.Keeps cooling)
    (instant : Instant Registry) (hinstant : cooling.state instant.state) (query : Query)
    (hquery : query.IsLookup) (handle : Handle) (session : Session)
    (hgate : session.gateOpen = true) (hsession : cooling.state session.registry)
    (uri text : String) (fault : Fault) :
    (instant.ended world (query.run handle) = .error fault ↔
      ∃ author name package failed error, query.package? = some (author, name) ∧
        instant.ended world (Lookup.package handle author name) = .ok ⟨some package, failed⟩ ∧
        query.comparison package = .error error ∧ fault = .notANumber error) ∧
    (∀ package error, query.comparison package = .error error →
      Version.SomeDeceives package.versionTexts error ∨
        ∃ requirement, query.requirement? = some requirement ∧
          Version.AnchorDeceives requirement error) ∧
    (∀ manifest client, ∀ check ∈ Rule.checks manifest client,
      instant.ended world check = .error fault →
        ∃ error : Version.NotANumber, error.Justified ∧ fault = .notANumber error) ∧
    ∃ outcome, (session.step (.refresh uri text)).2 = some outcome ∧
      (outcome = .error fault ↔ ∃ manifest, session.tracker.isTracked uri = true ∧
        session.tracker.enabled = true ∧ Manifest.parse? text = some manifest ∧
          gathered (session.checked manifest) = .error fault) ∧
      (outcome = .error fault →
        ∃ error : Version.NotANumber, error.Justified ∧ fault = .notANumber error) := by
  refine ⟨instant.ended_query_iff hworld hinstant hquery handle fault, ?_, ?_, ?_⟩
  · exact fun package error => (query.comparison_outcome package).of_error
  · exact fun manifest client check hcheck => instant.ended_check hworld hinstant hcheck
  · obtain ⟨outcome, houtcome, hiff⟩ :=
      Workshop.startRefresh_fault_iff hgate uri text
    refine ⟨outcome, houtcome, hiff fault, fun hfault => ?_⟩
    obtain ⟨manifest, -, -, -, hgathered⟩ := (hiff fault).mp hfault
    exact Workshop.checked_justified hsession hgathered

namespace Superscript

/-- The line of a history. -/
def line (version : String) : String :=
  "\x7b\"package\": \x7b\"version\": \"" ++ version ++ "\"\x7d\x7d\n"

/-- An entry of a tree. -/
def entry (path kind id : String) : Json :=
  .array [.object [("path", .string path), ("type", .string kind), ("sha", .string id)]]

/-- Two pre-releases, one of which is numbered with a superscript. -/
def history : String := line "1.0.0-1" ++ line "1.0.0-²"

/-- An index with one package. -/
def host : Host := .repositories [("o/r", {
  trees := [("main", .payload (entry "a" "tree" "ta")), ("ta", .payload (entry "b" "blob" "bb"))]
  blobs := [("bb", .payload (.string history))] })]

/-- A new registry with the usual cooldown. -/
def start : Instant Registry := ⟨.new {} (some defaultCooldown) none, 0⟩

/-- The client of the index. -/
def client : Handle := .shared ⟨"o", "r"⟩

/-- The published package. -/
def package : Index.Package := ⟨"a", "b", Record.history history.toList⟩

/-- A manifest that depends on the package. -/
def manifest : String :=
  "[package]\nname = \"m/t\"\nversion = \"0.1.0\"\nregistry = \"https://github.com/o/r\"\n"
    ++ "realm = \"shared\"\n\n[dependencies]\nb = \"a/b@1.0.0\"\n"

/-- A session in which a document is tracked. -/
def session : Session := { registry := start.state, host, tracker := { documents := [("u", "")] } }

end Superscript

open Superscript in
/-- The newest version that satisfies a requirement is looked for among versions that
cannot be compared. -/
theorem latestSatisfying_ends_in_fault :
    start.ended (.steady host.answer) (Query.run client (.latestSatisfying "a" "b" "^1")) =
      .error (.notANumber ⟨"²"⟩) := by
  have hpackage : start.ended (.steady host.answer) (Lookup.package client "a" "b") =
      .ok ⟨some package, false⟩ := rfl
  have hrefused : Query.comparison package (.latestSatisfying "a" "b" "^1") = .error ⟨"²"⟩ :=
    eq_error_of_error? (by decide +kernel)
  have hfaults := ended_in_fault_iff (World.keeps_cooling_steady host.answer) start rfl
    (.latestSatisfying "a" "b" "^1") trivial client session rfl rfl "u" manifest
    (.notANumber ⟨"²"⟩)
  exact hfaults.1.mpr ⟨"a", "b", package, false, ⟨"²"⟩, rfl, hpackage, hrefused, rfl⟩

open Superscript in
/-- The versions of the package are asked for, and a document that depends on it is
refreshed: both end in a fault. -/
theorem versions_end_in_fault :
    start.ended (.steady host.answer) (Query.run client (.versions "a" "b")) =
        .error (.notANumber ⟨"²"⟩) ∧
      (session.step (.refresh "u" manifest)).2 = some (.error (.notANumber ⟨"²"⟩)) := by
  constructor
  · exact eq_error_of_error? (by decide +kernel)
  · have hfault : (Manifest.parse? manifest).bind (fun parsed =>
        error? (gathered (session.checked parsed))) = some (.notANumber ⟨"²"⟩) := by
      rw [Manifest.parse?, Manifest.parse, show manifest.toList = _ from String.toList_append,
        String.toList_ofList, String.toList_ofList]
      decide +kernel
    obtain ⟨parsed, hparse, herror⟩ := Option.bind_eq_some_iff.mp hfault
    have htracked : session.tracker.isTracked "u" = true := by decide
    rw [session.step_refresh]
    exact session.startRefresh_fault rfl htracked rfl hparse (eq_error_of_error? herror)

end ManifestLint
