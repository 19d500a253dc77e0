import ManifestLint.Checking.Rules
import ManifestLint.Proofs.Version.Refusals
import ManifestLint.Session.Query

/-!
# What lookups are made of

Every lookup that asks something of a client, and every check of a manifest, is put
together from a few parts: attempts to read a level of an index, clients that are
found under a URL, and comparisons of versions, which may be refused.  Such a lookup
**browses**.  Whoever wants to know something of all of them has to know it of the
parts.

* `Lookup.Browses` says what lookups are put together from; `browses_search`,
  `browses_describe` and so on, that the lookups are.
* `Query.browses`: all queries browse but those that are orders.
* `Rule.browses_of_mem`: the checks of a manifest browse.
-/

namespace ManifestLint

namespace Lookup

/-- The lookup is put together from the parts that every lookup has, and comparisons
in it are refused only for reasons of some kind. -/
inductive Browses (refusal : Version.NotANumber → Prop) : {α : Type} → Lookup α → Prop where
  | pure {α : Type} (value : α) : Browses refusal (Pure.pure value)
  | bind {α β : Type} {first : Lookup α} {next : α → Lookup β} (hfirst : Browses refusal first)
      (hnext : ∀ value, Browses refusal (next value)) : Browses refusal (first >>= next)
  | root (handle : Handle) : Browses refusal (attempt handle (Read.root handle))
  | author (handle : Handle) (name : String) :
      Browses refusal (attempt handle (Read.author handle name))
  | package (handle : Handle) (author name : String) :
      Browses refusal (attempt handle (Read.package handle author name))
  | config (handle : Handle) : Browses refusal (attempt handle (Read.config handle))
  | reachable (handle : Handle) : Browses refusal (reachable handle)
  | find? (url : String) : Browses refusal (find? url)
  | ofVersions {α : Type} {value : Except Version.NotANumber α}
      (hrefusal : EndsIn (fun _ => True) refusal value) : Browses refusal (ofVersions value)

variable {refusal : Version.NotANumber → Prop} {α β : Type} (handle : Handle)
  (author name requirement : String)

theorem Browses.map {first : Lookup α} (hfirst : Browses refusal first) (f : α → β) :
    Browses refusal (f <$> first) := by
  rw [← bind_pure_comp]
  exact hfirst.bind fun value => .pure (f value)

/-! ## Along the chain -/

theorem browses_extend (chain : List Handle) (urls : List String) :
    Browses refusal (extend chain urls) := by
  induction urls generalizing chain with
  | nil => exact .pure chain
  | cons url rest ih =>
      refine (Browses.find? url).bind fun found => ?_
      cases found with
      | none => exact ih chain
      | some handle =>
          dsimp only
          split
          · exact ih chain
          · exact ih (chain ++ [handle])

theorem browses_chain : Browses refusal (chain handle) := by
  cases handle with
  | alone url address => exact .pure _
  | shared address =>
      refine (Browses.config _).bind fun found => ?_
      rcases found with _ | _ | config
      · exact .pure _
      · exact .pure _
      · exact browses_extend _ _

theorem browses_searchFrom {read : Handle → Read α}
    (hread : ∀ handle, Browses refusal (attempt handle (read handle))) (pick : α → Option β)
    (failed : Bool) (chain : List Handle) :
    Browses refusal (searchFrom read pick failed chain) := by
  induction chain generalizing failed with
  | nil => exact .pure _
  | cons handle rest ih =>
      refine (hread handle).bind fun found => ?_
      cases found with
      | none => exact ih true
      | some level =>
          dsimp only
          split
          · exact .pure _
          · exact ih failed

theorem browses_search {read : Handle → Read α}
    (hread : ∀ handle, Browses refusal (attempt handle (read handle))) (pick : α → Option β) :
    Browses refusal (search handle read pick) :=
  (browses_chain handle).bind fun chain => browses_searchFrom hread pick false chain

/-! ## The lookups -/

theorem browses_namesAlong (names : Option (List String)) (chain : List Handle) :
    Browses refusal (namesAlong names chain) := by
  induction chain generalizing names with
  | nil => exact .pure names
  | cons handle rest ih =>
      refine (Browses.root handle).bind fun found => ?_
      cases found with
      | none => exact ih names
      | some root => exact ih _

theorem browses_authorNames : Browses refusal (authorNames handle) :=
  (browses_chain handle).bind fun chain => browses_namesAlong none chain

theorem browses_packageNames : Browses refusal (packageNames handle author) :=
  (browses_search handle (fun handle => .author handle author) id).bind fun _ => .pure _

theorem browses_package : Browses refusal (package handle author name) :=
  browses_search handle (fun handle => .package handle author name) id

section

variable (hrefusal : ∀ error : Version.NotANumber, error.Justified → refusal error)

include hrefusal

/-- Sorting the versions of a package is refused for a deceptive identifier. -/
theorem browses_newestFirst (package : Index.Package) :
    Browses refusal (ofVersions package.newestFirst) := by
  refine .ofVersions ((package.newestFirst_outcome.mono fun _ _ => trivial).weaken ?_)
  exact fun error herror => hrefusal error herror.justified

theorem browses_findSatisfying? (package : Index.Package) :
    Browses refusal (ofVersions (package.findSatisfying? requirement)) := by
  refine .ofVersions ((package.findSatisfying?_outcome requirement).weaken fun error herror => ?_)
  rcases herror with hrequired | hpublished
  · exact hrefusal error hrequired.justified
  · exact hrefusal error hpublished.justified

theorem browses_anySatisfies (versions : List String) :
    Browses refusal (ofVersions (Version.anySatisfies requirement versions)) := by
  refine .ofVersions (((Version.anySatisfies_outcome requirement versions).mono
    fun _ _ => trivial).weaken fun error herror => ?_)
  rcases herror with hrequired | hpublished
  · exact hrefusal error hrequired.justified
  · exact hrefusal error hpublished.justified

theorem browses_versions : Browses refusal (versions handle author name) := by
  refine (browses_package handle author name).bind fun found => ?_
  rcases found with ⟨_ | package, failed⟩
  · exact .pure none
  · exact (browses_newestFirst hrefusal package).bind fun _ => .pure _

theorem browses_bestRecord : Browses refusal (bestRecord handle author name requirement) := by
  refine (browses_package handle author name).bind fun found => ?_
  rcases found with ⟨_ | package, failed⟩
  · exact .pure none
  · exact browses_findSatisfying? requirement hrefusal package

theorem browses_latest : Browses refusal (latest handle author name) :=
  (browses_versions handle author name hrefusal).bind fun _ => .pure _

theorem browses_latestSatisfying :
    Browses refusal (latestSatisfying handle author name requirement) :=
  (browses_bestRecord handle author name requirement hrefusal).bind fun _ => .pure _

theorem browses_describe : Browses refusal (describe handle author name requirement) := by
  refine (browses_package handle author name).bind fun found => ?_
  rcases found with ⟨_ | package, failed⟩
  · exact .pure none
  · refine (browses_findSatisfying? requirement hrefusal package).bind fun record => ?_
    cases record with
    | none => exact .pure none
    | some record => exact (browses_newestFirst hrefusal package).bind fun _ => .pure _

end

theorem browses_config : Browses refusal (config handle) :=
  (Browses.config handle).bind fun _ => .pure _

theorem browses_authorValidity : Browses refusal (authorValidity handle author) :=
  (browses_search handle (fun handle => .root handle) _).bind fun _ => .pure _

theorem browses_packageValidity : Browses refusal (packageValidity handle author name) :=
  (browses_search handle (fun handle => .author handle author) _).bind fun _ => .pure _

theorem browses_versionValidity
    (hrefusal : ∀ error : Version.NotANumber, error.Justified → refusal error) :
    Browses refusal (versionValidity handle author name requirement) := by
  refine (browses_package handle author name).bind fun found => ?_
  rcases found with ⟨_ | package, failed⟩
  · exact .pure _
  · refine (browses_newestFirst hrefusal package).bind fun versions => ?_
    exact (browses_anySatisfies requirement hrefusal versions).bind fun _ => .pure _

/-! ## The suggestions -/

theorem browses_closestAuthor : Browses refusal (closestAuthor handle author) :=
  (browses_authorNames handle).bind fun _ => .pure _

theorem browses_closestPackage : Browses refusal (closestPackage handle author name) :=
  (browses_packageNames handle author).bind fun _ => .pure _

theorem browses_closestVersion (version : String)
    (hrefusal : ∀ error : Version.NotANumber, error.Justified → refusal error) :
    Browses refusal (closestVersion handle author name version) :=
  (browses_versions handle author name hrefusal).bind fun _ => .pure _

end Lookup

/-! ## The queries -/

/-- The query asks something, and is no order to clear a cache or to change a token. -/
def Query.IsLookup : Query → Prop
  | invalidate => False
  | setToken _ => False
  | tokenChanged _ => False
  | _ => True

/-- The author and name of the package whose versions a query compares, if it does. -/
def Query.package? : Query → Option (String × String)
  | versions author name => some (author, name)
  | bestRecord author name _ => some (author, name)
  | latest author name => some (author, name)
  | latestSatisfying author name _ => some (author, name)
  | describe author name _ => some (author, name)
  | versionValidity author name _ => some (author, name)
  | closestVersion author name _ => some (author, name)
  | _ => none

/-- Every query that is no order browses. -/
theorem Query.browses {refusal : Version.NotANumber → Prop} {query : Query}
    (hquery : query.IsLookup) (handle : Handle)
    (hcompares : query.package? ≠ none → ∀ error : Version.NotANumber,
      error.Justified → refusal error) :
    Lookup.Browses refusal (query.run handle) := by
  have hanswer {α : Type} {lookup : Lookup α} (answer : α → Answer)
      (h : Lookup.Browses refusal lookup) :
      Lookup.Browses refusal (do return answer (← lookup)) :=
    h.bind fun value => .pure (answer value)
  cases query with
  | authorNames => exact hanswer _ (Lookup.browses_authorNames handle)
  | packageNames author => exact hanswer _ (Lookup.browses_packageNames handle author)
  | versions author name =>
      exact hanswer _ (Lookup.browses_versions handle author name (hcompares nofun))
  | bestRecord author name requirement =>
      exact hanswer _ (Lookup.browses_bestRecord handle author name requirement (hcompares nofun))
  | latest author name =>
      exact hanswer _ (Lookup.browses_latest handle author name (hcompares nofun))
  | latestSatisfying author name requirement =>
      exact hanswer _
        (Lookup.browses_latestSatisfying handle author name requirement (hcompares nofun))
  | describe author name requirement =>
      exact hanswer _ (Lookup.browses_describe handle author name requirement (hcompares nofun))
  | config => exact hanswer _ (Lookup.browses_config handle)
  | authorValidity author => exact hanswer _ (Lookup.browses_authorValidity handle author)
  | packageValidity author name =>
      exact hanswer _ (Lookup.browses_packageValidity handle author name)
  | versionValidity author name requirement =>
      exact hanswer _
        (Lookup.browses_versionValidity handle author name requirement (hcompares nofun))
  | reachable => exact hanswer _ (.reachable handle)
  | closestAuthor author => exact hanswer _ (Lookup.browses_closestAuthor handle author)
  | closestPackage author name =>
      exact hanswer _ (Lookup.browses_closestPackage handle author name)
  | closestVersion author name version =>
      exact hanswer _ (Lookup.browses_closestVersion handle author name version (hcompares nofun))
  | invalidate => exact hquery.elim
  | setToken token => exact hquery.elim
  | tokenChanged token => exact hquery.elim

/-! ## The checks -/

namespace Rule

open Lookup (Browses)

variable {refusal : Version.NotANumber → Prop} (handle : Handle) (dependency : Dependency)

theorem browses_author : Browses refusal (Rule.author handle dependency) := by
  refine (Lookup.browses_authorValidity handle _).bind fun validity => ?_
  cases validity with
  | valid => exact .pure none
  | indeterminate => exact .pure (some none)
  | invalid =>
      dsimp only
      split
      · exact .pure _
      · exact (Lookup.browses_closestAuthor handle _).bind fun _ => .pure _

theorem browses_package : Browses refusal (Rule.package handle dependency) := by
  refine (Lookup.browses_packageValidity handle _ _).bind fun validity => ?_
  cases validity with
  | valid => exact .pure none
  | indeterminate => exact .pure (some none)
  | invalid =>
      dsimp only
      split
      · exact .pure _
      · exact (Lookup.browses_closestPackage handle _ _).bind fun _ => .pure _

/-- A rule that may settle the check comes before the rest of it. -/
theorem browses_settle {rule : Lookup (Option (Option Finding))} {rest : Lookup (Option Finding)}
    (hrule : Browses refusal rule) (hrest : Browses refusal rest) :
    Browses refusal (do if let some answer ← rule then return answer else rest) := by
  refine hrule.bind fun settled => ?_
  cases settled with
  | none => exact hrest
  | some answer => exact .pure answer

section

variable (hrefusal : ∀ error : Version.NotANumber, error.Justified → refusal error)

include hrefusal

theorem browses_requirement : Browses refusal (Rule.requirement handle dependency) := by
  unfold Rule.requirement
  dsimp only
  split
  · exact .pure _
  · refine (Lookup.browses_versionValidity handle _ _ _ hrefusal).bind fun validity => ?_
    cases validity with
    | valid => exact .pure none
    | indeterminate => exact .pure (some none)
    | invalid => exact (Lookup.browses_closestVersion handle _ _ _ hrefusal).bind fun _ => .pure _

theorem browses_placement (listed : Realm) :
    Browses refusal (Rule.placement handle dependency listed) :=
  (Lookup.browses_bestRecord handle _ _ _ hrefusal).bind fun _ => .pure _

theorem browses_upgrade : Browses refusal (Rule.upgrade handle dependency) := by
  refine (Lookup.browses_latest handle _ _ hrefusal).bind fun latest => ?_
  split
  · split
    · exact .pure none
    · refine (Browses.ofVersions ((Version.compareOptions_outcome _ _).weaken ?_)).bind
        fun order => ?_
      · rintro error ⟨version, -, hdeceives⟩
        exact hrefusal error hdeceives.justified
      · cases order <;> exact .pure _
  · exact .pure none

theorem browses_dependency (listed : Realm) :
    Browses refusal (Rule.dependency handle listed dependency) :=
  browses_settle (browses_author handle dependency) <|
    browses_settle (browses_package handle dependency) <|
      browses_settle (browses_requirement handle dependency hrefusal) <|
        browses_settle (browses_placement handle dependency hrefusal listed) <|
          browses_upgrade handle dependency hrefusal

end

theorem browses_index (manifest : Manifest) : Browses refusal (Rule.index manifest) := by
  unfold Rule.index
  dsimp only
  split
  · exact .pure none
  · refine (Browses.find? _).bind fun found => ?_
    cases found with
    | none =>
        refine (Browses.pure Validity.invalid).bind fun validity => ?_
        split <;> exact .pure _
    | some handle =>
        refine (Browses.reachable handle).bind fun validity => ?_
        split <;> exact .pure _

/-- Every check of a manifest browses. -/
theorem browses_of_mem {manifest : Manifest} {handle : Option Handle}
    {check : Lookup (Option Finding)}
    (hrefusal : ∀ error : Version.NotANumber, error.Justified → refusal error)
    (hmem : check ∈ checks manifest handle) : Browses refusal check := by
  have hfields : ∀ check ∈ [pure (realm manifest), index manifest, pure (version manifest)],
      Browses refusal check := by
    simp only [List.mem_cons, List.not_mem_nil, or_false]
    rintro check (rfl | rfl | rfl)
    · exact .pure _
    · exact browses_index manifest
    · exact .pure _
  cases handle with
  | none => exact hfields check hmem
  | some handle =>
      rcases List.mem_append.mp hmem with hfield | hdependency
      · exact hfields check hfield
      · obtain ⟨item, -, rfl⟩ := List.mem_map.mp hdependency
        exact browses_dependency handle item.2 hrefusal item.1

end Rule

end ManifestLint
