import ManifestLint.Proofs.Registry.Raising
import ManifestLint.Proofs.Registry.Walking

/-!
# What a search passes

A search along a chain stops at the first index that has what it looks for.  The
indexes before that one it has **passed**: they were read and do not have it, or
they could not be read.  What is found is a matter of what was read alone, and
`foundAmong` computes it from there: the value of the first index that has one,
and whether an index that was passed before it could not be read.

* `foundAmong_of_passed` and `foundAmong_of_hit` are the two ways in which a
  search ends; `passed_or_hit` says that there is no third.
* `Instant.value_searchFrom`: a search finds just that, whatever the requests are
  answered with and whatever others do meanwhile.
-/

namespace ManifestLint

namespace Lookup

variable {α β : Type} (pick : α → Option β)

/-- What a search finds among the readings of a chain.  A reading is nothing if the
index could not be read. -/
def foundAmong (failed : Bool) : List (Option α) → Found β
  | [] => ⟨none, failed⟩
  | none :: rest => foundAmong true rest
  | some level :: rest =>
    match pick level with
    | some value => ⟨some value, failed⟩
    | none => foundAmong failed rest

/-- The readings of indexes that a search passes. -/
def AllPassed (readings : List (Option α)) : Prop :=
  ∀ reading ∈ readings, reading.bind pick = none

/-- The readings up to the first one in which a search finds a value. -/
def HitAfter (readings before : List (Option α)) (value : β) : Prop :=
  AllPassed pick before ∧
    ∃ level after, readings = before ++ some level :: after ∧ pick level = some value

variable {pick} {readings before : List (Option α)} {value : β}

/-- Whatever is passed is remembered only if it could not be read. -/
theorem foundAmong_append (hpassed : AllPassed pick before) (failed : Bool)
    (rest : List (Option α)) :
    foundAmong pick failed (before ++ rest) =
      foundAmong pick (failed || before.any (·.isNone)) rest := by
  induction before generalizing failed with
  | nil => simp
  | cons first others ih =>
      obtain ⟨hfirst, hothers⟩ := List.forall_mem_cons.mp hpassed
      cases first with
      | none => simpa [foundAmong] using ih hothers true
      | some level =>
          have hpick : pick level = none := hfirst
          simpa [foundAmong, hpick] using ih hothers failed

theorem foundAmong_of_passed (hpassed : AllPassed pick readings) (failed : Bool) :
    foundAmong pick failed readings = ⟨none, failed || readings.any (·.isNone)⟩ := by
  have happend := foundAmong_append hpassed failed []
  rw [List.append_nil] at happend
  exact happend

theorem foundAmong_of_hit (hhit : HitAfter pick readings before value) (failed : Bool) :
    foundAmong pick failed readings = ⟨some value, failed || before.any (·.isNone)⟩ := by
  obtain ⟨hpassed, level, after, rfl, hpick⟩ := hhit
  rw [foundAmong_append hpassed, foundAmong]
  simp only [hpick]

/-- It makes no difference if what is found is looked at before the search or after it. -/
theorem value_foundAmong_map {γ : Type} (view : β → γ) (readings : List (Option (Option β)))
    (failed : Bool) :
    (foundAmong id failed (readings.map (·.map (·.map view)))).value =
      (foundAmong id failed readings).value.map view := by
  induction readings generalizing failed with
  | nil => rfl
  | cons reading rest ih =>
      rcases reading with _ | _ | value
      · exact ih true
      · exact ih failed
      · rfl

/-- A search passes all indexes, or it stops at one. -/
theorem passed_or_hit (pick : α → Option β) (readings : List (Option α)) :
    AllPassed pick readings ∨ ∃ before value, HitAfter pick readings before value := by
  induction readings with
  | nil => exact .inl (List.forall_mem_nil _)
  | cons first rest ih =>
      cases hfirst : first.bind pick with
      | some value =>
          obtain ⟨level, rfl, hpick⟩ := Option.bind_eq_some_iff.mp hfirst
          exact .inr ⟨[], value, List.forall_mem_nil _, level, rest, rfl, hpick⟩
      | none =>
          rcases ih with hpassed | ⟨before, value, hpassed, level, after, rfl, hpick⟩
          · exact .inl (List.forall_mem_cons.mpr ⟨hfirst, hpassed⟩)
          · exact .inr ⟨first :: before, value, List.forall_mem_cons.mpr ⟨hfirst, hpassed⟩,
              level, after, rfl, hpick⟩

/-- What is stopped at is not passed. -/
theorem HitAfter.not_allPassed (hhit : HitAfter pick readings before value) :
    ¬ AllPassed pick readings := by
  obtain ⟨-, level, after, rfl, hpick⟩ := hhit
  intro hpassed
  have hnone := hpassed (some level) (by simp)
  exact Option.some_ne_none value (hpick.symm.trans hnone)

/-- A search stops once. -/
theorem HitAfter.unique {others : List (Option α)} {other : β}
    (hhit : HitAfter pick readings before value) (hother : HitAfter pick readings others other) :
    value = other ∧ before.any (·.isNone) = others.any (·.isNone) := by
  have hsame := (foundAmong_of_hit hhit false).symm.trans (foundAmong_of_hit hother false)
  simpa using hsame

end Lookup

namespace Instant

open Registry (cooling hearsay)

variable {world : World Registry} {instant : Instant Registry} {α β : Type}

/-- If an attempt ends with a value at all, it is what was read, or nothing. -/
theorem read_of_value_attempt {handle : Handle} {read : Read α} {found : Option α}
    (hvalue : instant.value world (Lookup.attempt handle read) = some found) :
    found = instant.value world read := by
  rcases hplayed : read.run.play world instant with ⟨result, later⟩
  have hread : instant.value world read = result.toOption :=
    congrArg (fun played => played.1.toOption) hplayed
  rw [Lookup.attempt, value_bind_some _ _ (value_lift ..), after_lift, hplayed] at hvalue
  rw [hread]
  cases result with
  | ok value => exact (Option.some.inj hvalue).symm
  | error error =>
      rw [value_bind, value_modify, Option.bind_some, value_bind] at hvalue
      obtain ⟨delivered, -, hnone⟩ := Option.bind_eq_some_iff.mp hvalue
      exact (Option.some.inj hnone).symm

/-- An attempt has a value: what was read, or nothing. -/
theorem value_attempt_of_obeys (hworld : world.Keeps cooling)
    (hcooldown : cooling.state instant.state) (handle : Handle) {read : Read α}
    (hread : Fallible.Obeys hearsay (fun _ => True) (fun _ _ => True) read) :
    instant.value world (Lookup.attempt handle read) = some (instant.value world read) := by
  have hkeeps : Keeps cooling (fun _ => True) (fun _ => False) (Lookup.attempt handle read) :=
    keeps_cooling_attempt handle hread
  obtain ⟨found, hfound, -⟩ := hkeeps.value hworld hcooldown
  rw [hfound, read_of_value_attempt hfound]

/-- What the indexes of a chain are read as when a walk comes to them. -/
def readings (world : World Registry) (instant : Instant Registry) (read : Handle → Read α)
    (chain : List Handle) : List (Option α) :=
  (visits world read instant chain).map fun visit => visit.1.value world (read visit.2)

/-- **The search.**  What a search finds is what is found among the readings. -/
theorem value_searchFrom (hworld : world.Keeps cooling) (hcooldown : cooling.state instant.state)
    {read : Handle → Read α}
    (hread : ∀ handle, Fallible.Obeys hearsay (fun _ => True) (fun _ _ => True) (read handle))
    (pick : α → Option β) (failed : Bool) (chain : List Handle) :
    instant.value world (Lookup.searchFrom read pick failed chain) =
      some (Lookup.foundAmong pick failed (readings world instant read chain)) := by
  induction chain generalizing instant failed with
  | nil => rfl
  | cons handle rest ih =>
      have hvalue := value_attempt_of_obeys hworld hcooldown handle (hread handle)
      have hkeeps : Keeps cooling (fun _ => True) (fun _ => False)
          (Lookup.attempt handle (read handle)) := keeps_cooling_attempt handle (hread handle)
      have hafter := hkeeps.after hworld hcooldown
      have hreadings : readings world instant read (handle :: rest) =
          instant.value world (read handle) :: readings world
            (instant.after world (Lookup.attempt handle (read handle))) read rest := rfl
      rw [Lookup.searchFrom, value_bind_some _ _ hvalue, hreadings]
      cases instant.value world (read handle) with
      | none => exact ih hafter true
      | some level =>
          simp only [Lookup.foundAmong]
          cases pick level with
          | some value => rfl
          | none => exact ih hafter failed

/-- Every client has a chain, whatever fails on the way. -/
theorem keeps_cooling_chain (handle : Handle) :
    Keeps cooling (fun _ => True) (fun _ => False) (Lookup.chain handle) := by
  have hbrowses : Lookup.Browses (fun _ => False) (Lookup.chain handle) :=
    Lookup.browses_chain handle
  exact (keeps_cooling_browses hbrowses).weaken fun _ ⟨_, hnone, _⟩ => hnone

theorem value_chain (hworld : world.Keeps cooling) (hcooldown : cooling.state instant.state)
    (handle : Handle) : ∃ chain, instant.value world (Lookup.chain handle) = some chain := by
  obtain ⟨chain, hchain, -⟩ := (keeps_cooling_chain handle).value hworld hcooldown
  exact ⟨chain, hchain⟩

theorem value_search (hworld : world.Keeps cooling) (hcooldown : cooling.state instant.state)
    {handle : Handle} {chain : List Handle}
    (hchain : instant.value world (Lookup.chain handle) = some chain) {read : Handle → Read α}
    (hread : ∀ handle, Fallible.Obeys hearsay (fun _ => True) (fun _ _ => True) (read handle))
    (pick : α → Option β) :
    instant.value world (Lookup.search handle read pick) =
      some (Lookup.foundAmong pick false
        (readings world (instant.after world (Lookup.chain handle)) read chain)) := by
  have hstart := (keeps_cooling_chain handle).after hworld hcooldown
  rw [Lookup.search, value_bind_some _ _ hchain]
  exact value_searchFrom hworld hstart hread pick false chain

end Instant

end ManifestLint
