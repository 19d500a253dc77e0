import ManifestLint.Proofs.Registry.Showing

/-!
# Walking along a chain

A lookup visits the indexes of a chain one after the other.  Each is visited at
an instant of its own, because every failure on the way is reported and every
success is kept.  `visits` lists the instants of a walk along the whole chain;
a lookup that finds something stops there, and the visits up to that point are
its own.

A name exists if an index that can be read lists it, it does not exist if every
index of the chain was read and none lists it, and nothing is known otherwise
(`Judged`).
-/

namespace ManifestLint

namespace Instant

variable {world : World Registry} {instant : Instant Registry}

/-- A read that is attempted always has a value: what was read, or nothing. -/
theorem value_attempt {α : Type} (hworld : world.Orderly) (hready : instant.state.Ready)
    (handle : Handle) {read : Read α} {kind : α → Prop}
    (hread : Keeps Registry.readiness kind (fun _ => True) read) :
    instant.value world (Lookup.attempt handle read) = some (instant.value world read) := by
  have hafter : (instant.after world read).state.Ready := hread.after hworld.keeps hready
  rcases hplayed : read.run.play world instant with ⟨result, later⟩
  have hvalue : instant.value world read = result.toOption :=
    congrArg (fun played => played.1.toOption) hplayed
  have hlater : instant.after world read = later := congrArg Prod.snd hplayed
  rw [hlater] at hafter
  rw [Lookup.attempt, value_bind_some _ _ (value_lift ..), after_lift, hplayed, hvalue]
  cases result with
  | ok value => rfl
  | error error =>
      let note (client : Client) : Client := { client with lastFailure := error.status? }
      let noted : Instant Registry := { later with state := later.state.update handle note }
      have hnoted : noted.state.Ready := hafter.update handle note fun _ => .inl
      obtain ⟨delivered, hnotified, -⟩ :=
        (keeps_notify (error.report handle.url)).value hworld.keeps hnoted
      exact value_bind_some world noted hnotified fun _ => (pure none : Lookup (Option α))

end Instant

/-! ## The verdict -/

/-- What is to be said about a name, given what the indexes of a chain show:
their names, or nothing of an index that could not be read. -/
structure Judged (validity : Validity) (levels : List (Option (List String)))
    (name : String) : Prop where
  valid : validity = .valid ↔ ∃ names, some names ∈ levels ∧ name ∈ names
  invalid : validity = .invalid ↔ ∀ level ∈ levels, ∃ names, level = some names ∧ name ∉ names
  indeterminate : validity = .indeterminate ↔
    none ∈ levels ∧ ∀ names, some names ∈ levels → name ∉ names

section

variable {levels : List (Option (List String))} {name : String}

/-- One index that lists the name is enough. -/
theorem judged_listed {names : List String} (hmem : some names ∈ levels)
    (hname : name ∈ names) : Judged .valid levels name where
  valid := iff_of_true rfl ⟨names, hmem, hname⟩
  invalid := by
    refine iff_of_false (by simp) fun hnone => ?_
    obtain ⟨others, hsame, hnot⟩ := hnone _ hmem
    exact hnot (Option.some.inj hsame ▸ hname)
  indeterminate := iff_of_false (by simp) fun hnone => hnone.2 names hmem hname

/-- Where no index lists the name it depends on whether all could be read. -/
theorem judged_unlisted {failed : Bool}
    (hunlisted : ∀ names, some names ∈ levels → name ∉ names)
    (hfailed : failed = true ↔ none ∈ levels) :
    Judged (if failed then .indeterminate else .invalid) levels name := by
  have hnot : ¬ ∃ names, some names ∈ levels ∧ name ∈ names :=
    fun ⟨names, hmem, hname⟩ => hunlisted names hmem hname
  cases failed with
  | true =>
      have hnone : none ∈ levels := hfailed.mp rfl
      refine ⟨iff_of_false (by simp) hnot, iff_of_false (by simp) fun hall => ?_,
        iff_of_true rfl ⟨hnone, hunlisted⟩⟩
      obtain ⟨_, hsome, -⟩ := hall none hnone
      cases hsome
  | false =>
      have hread : none ∉ levels := fun hnone => Bool.false_ne_true (hfailed.mpr hnone)
      refine ⟨iff_of_false (by simp) hnot, iff_of_true rfl fun level hmem => ?_,
        iff_of_false (by simp) fun hnone => hread hnone.1⟩
      cases level with
      | none => exact absurd hmem hread
      | some names => exact ⟨names, rfl, hunlisted names hmem⟩

end

/-! ## The walk -/

namespace Instant

variable {world : World Registry} {instant : Instant Registry} {α β : Type} {name : String}

/-- The indexes of a chain, each with the instant at which a walk along the whole
chain comes to it. -/
def visits (world : World Registry) (read : Handle → Read α) :
    Instant Registry → List Handle → List (Instant Registry × Handle)
  | _, [] => []
  | instant, handle :: rest =>
    (instant, handle) ::
      visits world read (instant.after world (Lookup.attempt handle (read handle))) rest

/-- What the indexes of a chain show when a walk comes to them. -/
def levels (world : World Registry) (instant : Instant Registry) (read : Handle → Read α)
    (shown : Instant Registry → Handle → Option (List String)) (chain : List Handle) :
    List (Option (List String)) :=
  (visits world read instant chain).map fun visit => shown visit.1 visit.2

/-- Reads fail if nothing is shown, and are found good if the name is among those
that are shown. -/
def Finds (world : World Registry) (read : Handle → Read α) (pick : α → Option β)
    (shown : Instant Registry → Handle → Option (List String)) (name : String) : Prop :=
  ∀ instant handle, instant.state.Ready →
    match instant.value world (read handle) with
    | none => shown instant handle = none
    | some level => ∃ names, shown instant handle = some names ∧
        ((pick level).isSome = true ↔ name ∈ names)

variable {read : Handle → Read α} {pick : α → Option β}
  {shown : Instant Registry → Handle → Option (List String)}

/-- **The walk.**  A search along a chain judges a name by what it has passed
and by what the chain shows. -/
theorem judged_searchFrom (hworld : world.Orderly) (hready : instant.state.Ready)
    (hread : ∀ handle, Keeps Registry.readiness (fun _ => True) (fun _ => True) (read handle))
    (hfinds : Finds world read pick shown name) (chain : List Handle) (failed : Bool)
    (passed : List (Option (List String)))
    (hpassed : ∀ names, some names ∈ passed → name ∉ names)
    (hfailed : failed = true ↔ none ∈ passed) :
    ∃ found, instant.value world (Lookup.searchFrom read pick failed chain) = some found ∧
      Judged found.validity (passed ++ levels world instant read shown chain) name := by
  induction chain generalizing instant failed passed with
  | nil =>
      refine ⟨⟨none, failed⟩, rfl, ?_⟩
      rw [levels, visits, List.map_nil, List.append_nil]
      exact judged_unlisted hpassed hfailed
  | cons handle rest ih =>
      have hshown := hfinds instant handle hready
      have hvalue := value_attempt hworld hready handle (hread handle)
      have hnext := (keeps_attempt handle (hread handle)).after hworld.keeps hready
      have hlevels : levels world instant read shown (handle :: rest) =
          shown instant handle :: levels world
            (instant.after world (Lookup.attempt handle (read handle))) read shown rest := rfl
      rw [Lookup.searchFrom, value_bind_some _ _ hvalue, hlevels]
      split at hshown
      · next hnone =>
          have hcons := ih hnext true (passed ++ [none]) (by simpa using hpassed) (by simp)
          simpa [hnone, hshown] using hcons
      · next level hlevel =>
          obtain ⟨names, hnames, hpick⟩ := hshown
          rw [hlevel, hnames]
          cases hpicked : pick level with
          | some value =>
              refine ⟨⟨some value, failed⟩, by simp [hpicked], ?_⟩
              exact judged_listed (by simp) (hpick.mp (by simp [hpicked]))
          | none =>
              have hunlisted : name ∉ names := fun hname => by
                simpa [hpicked] using hpick.mpr hname
              have hcons := ih hnext failed (passed ++ [some names]) ?_ ?_
              · simpa [hpicked] using hcons
              · intro others hmem
                rcases List.mem_append.mp hmem with hold | hnew
                · exact hpassed others hold
                · obtain rfl := Option.some.inj (List.mem_singleton.mp hnew)
                  exact hunlisted
              · simpa using hfailed

end Instant

end ManifestLint
