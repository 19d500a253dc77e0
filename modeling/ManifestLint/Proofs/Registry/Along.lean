import ManifestLint.Proofs.Fetching.Asking
import ManifestLint.Proofs.Registry.Browsing

/-!
# Lookups along a chain

A lookup walks **along** a chain if it visits its indexes in their order and each once.
On a visit it reads the root of the index, or an author, or a package, and of a root it
takes note of the list of the authors alone.  So no configuration comes into it, and no
index but those of the chain.  Nor is an index left out: a walk goes on past every index
that cannot be read or does not have what is read there, and it may stop early only at
one that was read.

All queries that walk find the chain of their client first, and then walk along it.

* `Lookup.Along`: the walks, one visit at a time.
* `Query.walks`: the queries that walk do it along the chain of their client.
-/

namespace ManifestLint

namespace Lookup

/-- The lookup visits the indexes of a chain in their order, each once, and reads no
configuration.  It goes on to the end of the chain, unless it stops behind an index that was
read; whether it may stop where it begins is said beforehand.  What comes behind a walk
compares versions at most. -/
inductive Along : Bool → List Handle → {α : Type} → Lookup α → Prop where
  | pure {α : Type} (value : α) : Along false [] (Pure.pure value)
  | ofVersions {α : Type} (value : Except Version.NotANumber α) :
      Along false [] (ofVersions value)
  | stop {α : Type} (chain : List Handle) {lookup : Lookup α} (hdone : Along false [] lookup) :
      Along true chain lookup
  | root {α : Type} (stops : Bool) (handle : Handle) {rest : List Handle}
      {next : Option (List Index.Entry) → Lookup α} (hunread : Along false rest (next none))
      (hread : ∀ authors, Along true rest (next (some authors))) :
      Along stops (handle :: rest) do
        next ((← attempt handle (Read.root handle)).map (·.authors))
  | author {α : Type} (stops : Bool) (handle : Handle) (name : String) {rest : List Handle}
      {next : Option (Option Index.Author) → Lookup α} (hunread : Along false rest (next none))
      (hunlisted : Along false rest (next (some none)))
      (hread : ∀ author, Along true rest (next (some (some author)))) :
      Along stops (handle :: rest) (attempt handle (Read.author handle name) >>= next)
  | package {α : Type} (stops : Bool) (handle : Handle) (author name : String)
      {rest : List Handle} {next : Option (Option Index.Package) → Lookup α}
      (hunread : Along false rest (next none)) (hunlisted : Along false rest (next (some none)))
      (hread : ∀ package, Along true rest (next (some (some package)))) :
      Along stops (handle :: rest) (attempt handle (Read.package handle author name) >>= next)
  | bind {α β : Type} {stops : Bool} {chain : List Handle} {first : Lookup α}
      {next : α → Lookup β} (hfirst : Along stops chain first)
      (hnext : ∀ value, Along false [] (next value)) : Along stops chain (first >>= next)

variable {α β γ : Type} {lookup : Lookup α}

/-- Whoever may stop need not. -/
theorem Along.onward {stops : Bool} {chain : List Handle} (h : Along stops chain lookup) :
    Along true chain lookup := by
  induction h with
  | pure value => exact .stop [] (.pure value)
  | ofVersions value => exact .stop [] (.ofVersions value)
  | stop chain hdone => exact .stop chain hdone
  | root stops handle hunread hread => exact .root true handle hunread hread
  | author stops handle name hunread hunlisted hread =>
      exact .author true handle name hunread hunlisted hread
  | package stops handle author name hunread hunlisted hread =>
      exact .package true handle author name hunread hunlisted hread
  | bind hfirst hnext ih => exact ih.bind hnext

/-- A visit to the first index of a chain reads it in this way, and may be the last one only if
something is picked out of what was read. -/
def Visited (read : Handle → Read α) (pick : α → Option β) : Prop :=
  ∀ {γ : Type} (handle : Handle) (rest : List Handle) (next : Option (Option β) → Lookup γ),
    Along false rest (next none) → Along false rest (next (some none)) →
      (∀ value, Along true rest (next (some (some value)))) →
        Along false (handle :: rest) (do next ((← attempt handle (read handle)).map pick))

theorem visited_root (pick : List Index.Entry → Option β) :
    Visited Read.root fun root => pick root.authors := by
  intro γ handle rest next hunread hnone hsome
  have hread (authors : List Index.Entry) : Along true rest (next (some (pick authors))) := by
    cases pick authors with
    | none => exact hnone.onward
    | some value => exact hsome value
  have halong : Along false (handle :: rest) _ :=
    @Along.root γ false handle rest (fun authors => next (authors.map pick)) hunread hread
  simpa only [Option.map_map, Function.comp_def] using halong

theorem visited_author (name : String) {pick : Option Index.Author → Option β}
    (hpick : pick none = none) : Visited (Read.author · name) pick := by
  intro γ handle rest next hunread hnone hsome
  have hunlisted : Along false rest (next ((some none).map pick)) := by
    rw [Option.map_some, hpick]
    exact hnone
  refine .author false handle name hunread hunlisted fun author => ?_
  rw [Option.map_some]
  cases pick (some author) with
  | none => exact hnone.onward
  | some value => exact hsome value

theorem visited_package (author name : String) : Visited (Read.package · author name) id := by
  intro γ handle rest next hunread hnone hsome
  exact .package false handle author name hunread hnone hsome

/-- A search is a walk. -/
theorem along_searchFrom {read : Handle → Read α} {pick : α → Option β}
    (hread : Visited read pick) (failed : Bool) (chain : List Handle) :
    Along false chain (searchFrom read pick failed chain) := by
  induction chain generalizing failed with
  | nil => exact .pure _
  | cons handle rest ih =>
      let next : Option (Option β) → Lookup (Found β)
        | none => searchFrom read pick true rest
        | some none => searchFrom read pick failed rest
        | some (some value) => return ⟨some value, failed⟩
      have hstep : searchFrom read pick failed (handle :: rest) =
          (do next ((← attempt handle (read handle)).map pick)) := by
        refine congrArg (attempt handle (read handle) >>= ·) (funext fun found => ?_)
        cases found with
        | none => rfl
        | some level => cases hpick : pick level <;> simp [hpick, next]
      rw [hstep]
      exact hread handle rest next (ih true) (ih failed) fun value => .stop rest (.pure _)

/-- The search for all authors is a walk that never stops early. -/
theorem along_namesAlong (names : Option (List String)) (chain : List Handle) :
    Along false chain (namesAlong names chain) := by
  induction chain generalizing names with
  | nil => exact .pure names
  | cons handle rest ih =>
      let next : Option (List Index.Entry) → Lookup (Option (List String))
        | none => namesAlong names rest
        | some authors =>
          namesAlong (some (addNames (names.getD []) (authors.map (·.name)))) rest
      have hstep : namesAlong names (handle :: rest) =
          (do next ((← attempt handle (Read.root handle)).map (·.authors))) := by
        refine congrArg (attempt handle (Read.root handle) >>= ·) (funext fun found => ?_)
        cases found <;> rfl
      rw [hstep]
      exact .root false handle (ih names) fun authors => (ih _).onward

/-! ## Walks along the chain of a client -/

/-- The lookup finds the chain of a client, and walks along it. -/
def Walks (own : Handle) (lookup : Lookup α) : Prop :=
  ∃ walk : List Handle → Lookup α,
    (∀ chain, Along false chain (walk chain)) ∧ lookup = chain own >>= walk

variable {own : Handle} (author name requirement : String)

theorem Walks.bind (h : Walks own lookup) {next : α → Lookup β}
    (hnext : ∀ value, Along false [] (next value)) : Walks own (lookup >>= next) := by
  obtain ⟨walk, halong, rfl⟩ := h
  exact ⟨fun chain => walk chain >>= next, fun chain => (halong chain).bind hnext,
    bind_assoc ..⟩

theorem walks_search {read : Handle → Read α} {pick : α → Option β}
    (hread : Visited read pick) : Walks own (search own read pick) :=
  ⟨searchFrom read pick false, along_searchFrom hread false, rfl⟩

theorem walks_authorNames : Walks own (authorNames own) :=
  ⟨namesAlong none, along_namesAlong none, rfl⟩

theorem walks_packageNames : Walks own (packageNames own author) :=
  (walks_search (visited_author author rfl)).bind fun _ => .pure _

theorem walks_package : Walks own (package own author name) :=
  walks_search (visited_package author name)

theorem walks_versions : Walks own (versions own author name) :=
  (walks_package author name).bind fun found => by
    rcases found with ⟨_ | package, failed⟩
    · exact .pure none
    · exact (Along.ofVersions _).bind fun _ => .pure _

theorem walks_bestRecord : Walks own (bestRecord own author name requirement) :=
  (walks_package author name).bind fun found => by
    rcases found with ⟨_ | package, failed⟩
    · exact .pure none
    · exact .ofVersions _

theorem walks_describe : Walks own (describe own author name requirement) :=
  (walks_package author name).bind fun found => by
    rcases found with ⟨_ | package, failed⟩
    · exact .pure none
    · refine (Along.ofVersions _).bind fun record => ?_
      cases record with
      | none => exact .pure none
      | some record => exact (Along.ofVersions _).bind fun _ => .pure _

theorem walks_authorValidity : Walks own (authorValidity own author) :=
  (walks_search (visited_root (Index.idOf? · (Text.lower author)))).bind fun _ => .pure _

theorem walks_packageValidity : Walks own (packageValidity own author name) :=
  (walks_search (visited_author author rfl)).bind fun _ => .pure _

theorem walks_versionValidity : Walks own (versionValidity own author name requirement) :=
  (walks_package author name).bind fun found => by
    rcases found with ⟨_ | package, failed⟩
    · exact .pure _
    · exact (Along.ofVersions _).bind fun _ => (Along.ofVersions _).bind fun _ => .pure _

end Lookup

/-- The query is about more than the client's own index. -/
def Query.IsWalk : Query → Prop
  | config => False
  | reachable => False
  | query => query.IsLookup

open Lookup in
/-- **The walks.**  A query that is about more than the client's own index finds the
chain of the client, and walks along it. -/
theorem Query.walks {query : Query} (hquery : query.IsWalk) (own : Handle) :
    Walks own (query.run own) := by
  have hanswer {α : Type} {lookup : Lookup α} (answer : α → Answer) (h : Walks own lookup) :
      Walks own (do return answer (← lookup)) :=
    h.bind fun value => .pure (answer value)
  cases query with
  | authorNames => exact hanswer _ walks_authorNames
  | packageNames author => exact hanswer _ (walks_packageNames author)
  | versions author name => exact hanswer _ (walks_versions author name)
  | bestRecord author name requirement =>
      exact hanswer _ (walks_bestRecord author name requirement)
  | latest author name => exact hanswer _ ((walks_versions author name).bind fun _ => .pure _)
  | latestSatisfying author name requirement =>
      exact hanswer _ ((walks_bestRecord author name requirement).bind fun _ => .pure _)
  | describe author name requirement =>
      exact hanswer _ (walks_describe author name requirement)
  | config => exact hquery.elim
  | authorValidity author => exact hanswer _ (walks_authorValidity author)
  | packageValidity author name => exact hanswer _ (walks_packageValidity author name)
  | versionValidity author name requirement =>
      exact hanswer _ (walks_versionValidity author name requirement)
  | reachable => exact hquery.elim
  | closestAuthor author => exact hanswer _ (walks_authorNames.bind fun _ => .pure _)
  | closestPackage author name =>
      exact hanswer _ ((walks_packageNames author).bind fun _ => .pure _)
  | closestVersion author name version =>
      exact hanswer _ ((walks_versions author name).bind fun _ => .pure _)
  | invalidate => exact hquery.elim
  | setToken token => exact hquery.elim
  | tokenChanged token => exact hquery.elim

end ManifestLint
