import ManifestLint.Proofs.Registry.Hearsay

/-!
# When lookups end in a fault

A failed request never ends a lookup: it is reported, and the lookup goes on.  There
is one way for a lookup to end in a fault all the same.  The versions of a package
come from the host as they are, and are compared after they were read; if that is
refused, so is the lookup.

* `Instant.keeps_cooling_browses`: whatever the replies are and whatever others do, a
  lookup ends in no other fault, if the notices have a cooldown.
* `Instant.ended_query_iff`: a query ends in a fault if and only if it finds a package
  whose versions it cannot compare.
-/

namespace ManifestLint

/-- What lookups leave to each other that count on no replies: the notices have a
cooldown. -/
def Registry.cooling : Agreement Registry where
  state registry := registry.notifier.cooldown.isSome = true
  reply _ _ := True

theorem Registry.cooling_of_cooldown {before after : Registry}
    (hcooldown : after.notifier.cooldown = before.notifier.cooldown)
    (hbefore : cooling.state before) : cooling.state after :=
  (congrArg Option.isSome hcooldown).trans hbefore

theorem World.keeps_cooling_steady (answer : Request → Reply) :
    (World.steady answer : World Registry).Keeps Registry.cooling where
  reply _ _ := trivial
  others _ _ hstate := hstate

namespace Instant

open Registry (cooling hearsay)

/-! ## No other fault -/

theorem keeps_cooling_of_obeys {α ε : Type} {action : ExceptT ε (Action Registry) α}
    (h : Fallible.Obeys hearsay (fun _ => True) (fun _ _ => True) action) :
    Keeps cooling (fun _ => True) (fun _ => True) action := by
  intro registry hregistry
  have hobeys : (action.run registry).Obeys hearsay (fun _ _ => True) none registry :=
    (h none registry trivial).mono fun _ _ _ => trivial
  refine (hobeys.keeps hregistry ?_).mono fun ended _ => by cases ended <;> trivial
  exact fun heard before after hallows => Registry.cooling_of_cooldown hallows.2

theorem keeps_cooling_notify {failure : Fault → Prop} (message : String) :
    Keeps cooling (fun _ => True) failure (Lookup.notify message) := by
  intro registry hregistry
  obtain ⟨next, delivered, hnotify, hcooldown⟩ :=
    registry.notifier.notify_isSome message hregistry
  rw [Fallible.run_notify, hnotify]
  exact ⟨Registry.cooling_of_cooldown hcooldown hregistry, trivial⟩

/-- No read error crosses an attempt. -/
theorem keeps_cooling_attempt {α : Type} {failure : Fault → Prop} (handle : Handle)
    {read : Read α} (hread : Fallible.Obeys hearsay (fun _ => True) (fun _ _ => True) read) :
    Keeps cooling (fun _ => True) failure (Lookup.attempt handle read) := by
  refine (keeps_lift (keeps_cooling_of_obeys hread)).bind fun ended _ => ?_
  cases ended with
  | ok value => exact keeps_pure trivial
  | error error =>
      refine (keeps_modify ?_).bind fun _ _ => ?_
      · exact fun _ hcooling => hcooling
      · exact (keeps_cooling_notify _).bind fun _ _ => keeps_pure trivial

/-- **Faults.**  A lookup ends in no fault but the refusal of a comparison. -/
theorem keeps_cooling_browses {refusal : Version.NotANumber → Prop} {α : Type}
    {lookup : Lookup α} (h : Lookup.Browses refusal lookup) :
    Keeps cooling (fun _ => True) (fun fault => ∃ error, refusal error ∧
      fault = .notANumber error) lookup := by
  induction h with
  | pure value => exact keeps_pure trivial
  | bind hfirst hnext hkeeps hlater => exact hkeeps.bind fun value _ => hlater value
  | root handle => exact keeps_cooling_attempt handle (Fallible.obeys_root handle)
  | author handle name =>
      exact keeps_cooling_attempt handle (Fallible.obeys_author handle name)
  | package handle author name =>
      exact keeps_cooling_attempt handle (Fallible.obeys_package handle author name)
  | config handle => exact keeps_cooling_attempt handle (Fallible.obeys_config handle)
  | reachable handle =>
      refine (keeps_cooling_attempt handle (Fallible.obeys_root handle)).bind fun found _ => ?_
      cases found with
      | some root => exact keeps_pure trivial
      | none => exact keeps_get.bind fun _ _ => keeps_pure trivial
  | find? url =>
      refine keeps_modifyGet fun registry hregistry => ⟨?_, trivial⟩
      exact Registry.cooling_of_cooldown (registry.untouched_find? url).cooldown hregistry
  | @ofVersions _ value hrefusal =>
      cases value with
      | ok value => exact keeps_pure trivial
      | error error => exact keeps_throw ⟨error, hrefusal, rfl⟩

end Instant

/-! ## Queries that compare versions -/

namespace Lookup

variable {α β : Type} (computed : Except Version.NotANumber α)

/-- Comparisons may be made before they are looked at. -/
theorem ofVersions_bind (next : α → Except Version.NotANumber β) :
    ofVersions (computed >>= next) = (do ofVersions (next (← ofVersions computed))) := by
  cases computed <;> rfl

theorem ofVersions_map (f : α → β) :
    ofVersions (computed.map f) = (do return f (← ofVersions computed)) := by
  cases computed <;> rfl

end Lookup

namespace Query

/-- The requirement that a query holds the versions against, if it does. -/
def requirement? : Query → Option String
  | bestRecord _ _ requirement => some requirement
  | latestSatisfying _ _ requirement => some requirement
  | describe _ _ requirement => some requirement
  | versionValidity _ _ requirement => some requirement
  | _ => none

/-- The comparison that a query makes once it has found a package: the versions among
each other, and with the requirement if there is one. -/
def comparison (package : Index.Package) : Query → Except Version.NotANumber Unit
  | versions _ _ => package.newestFirst.map fun _ => ()
  | latest _ _ => package.newestFirst.map fun _ => ()
  | closestVersion _ _ _ => package.newestFirst.map fun _ => ()
  | bestRecord _ _ requirement => (package.findSatisfying? requirement).map fun _ => ()
  | latestSatisfying _ _ requirement => (package.findSatisfying? requirement).map fun _ => ()
  | describe _ _ requirement => (package.findSatisfying? requirement).map fun _ => ()
  | versionValidity _ _ requirement =>
    (package.newestFirst >>= Version.anySatisfies requirement).map fun _ => ()
  | _ => .ok ()

/-- A comparison is refused only for a deceptive identifier of a published version or
of the requirement. -/
theorem comparison_outcome (query : Query) (package : Index.Package) :
    EndsIn (fun _ => True)
      (fun error => Version.SomeDeceives package.versionTexts error ∨
        ∃ requirement, query.requirement? = some requirement ∧
          Version.AnchorDeceives requirement error)
      (query.comparison package) := by
  have hnewest := package.newestFirst_outcome
  have hbest := package.findSatisfying?_outcome
  have hany := package.anySatisfies_newestFirst_outcome
  cases query with
  | versions author name => exact (hnewest.weaken fun _ => .inl).map fun _ _ => trivial
  | latest author name => exact (hnewest.weaken fun _ => .inl).map fun _ _ => trivial
  | closestVersion author name version =>
      exact (hnewest.weaken fun _ => .inl).map fun _ _ => trivial
  | bestRecord author name requirement =>
      exact ((hbest requirement).weaken fun _ herror =>
        herror.symm.imp_right fun h => ⟨_, rfl, h⟩).map fun _ _ => trivial
  | latestSatisfying author name requirement =>
      exact ((hbest requirement).weaken fun _ herror =>
        herror.symm.imp_right fun h => ⟨_, rfl, h⟩).map fun _ _ => trivial
  | describe author name requirement =>
      exact ((hbest requirement).weaken fun _ herror =>
        herror.symm.imp_right fun h => ⟨_, rfl, h⟩).map fun _ _ => trivial
  | versionValidity author name requirement =>
      exact ((hany requirement).weaken fun _ herror =>
        herror.symm.imp_right fun h => ⟨_, rfl, h⟩).map fun _ _ => trivial
  | _ => exact trivial

/-- The query finds a package first and computes its answer from what it has found,
which is refused where the comparison is. -/
def Compares (query : Query) (handle : Handle) (author name : String) : Prop :=
  ∃ answer : Lookup.Found Index.Package → Except Version.NotANumber Answer,
    query.run handle = (Lookup.package handle author name >>= fun found =>
      Lookup.ofVersions (answer found)) ∧
    ∀ found error, answer found = .error error ↔
      ∃ package, found.value = some package ∧ query.comparison package = .error error

theorem compares_of {query : Query} {handle : Handle} {author name : String}
    {rest : Lookup.Found Index.Package → Lookup Answer}
    (answer : Index.Package → Except Version.NotANumber Answer) (absent : Bool → Answer)
    (hrun : query.run handle = Lookup.package handle author name >>= rest)
    (hsome : ∀ package failed, rest ⟨some package, failed⟩ = Lookup.ofVersions (answer package))
    (hnone : ∀ failed, rest ⟨none, failed⟩ = pure (absent failed))
    (hrefused : ∀ package error, answer package = .error error ↔
      query.comparison package = .error error) :
    query.Compares handle author name := by
  refine ⟨fun found => found.value.elim (.ok (absent found.failed)) answer, ?_, ?_⟩
  · rw [hrun]
    refine congrArg (Lookup.package handle author name >>= ·) (funext fun found => ?_)
    rcases found with ⟨_ | package, failed⟩
    · exact hnone failed
    · exact hsome package failed
  · intro found error
    rcases found with ⟨_ | package, failed⟩
    · simp
    · simp [hrefused]

/-- Most answers are worked out from what the comparison gives, which may be refused. -/
theorem compares_of_map {query : Query} {handle : Handle} {author name : String}
    {rest : Lookup.Found Index.Package → Lookup Answer} {α : Type}
    (compared : Index.Package → Except Version.NotANumber α) (answer : α → Answer)
    (absent : Bool → Answer)
    (hcomparison : ∀ package, query.comparison package = (compared package).map fun _ => ())
    (hrun : query.run handle = Lookup.package handle author name >>= rest)
    (hsome : ∀ package failed, rest ⟨some package, failed⟩ =
      (do return answer (← Lookup.ofVersions (compared package))))
    (hnone : ∀ failed, rest ⟨none, failed⟩ = pure (absent failed)) :
    query.Compares handle author name := by
  refine compares_of (fun package => (compared package).map answer) absent hrun
    (fun package failed => ?_) hnone fun package error => ?_
  · rw [hsome, Lookup.ofVersions_map]
  · rw [hcomparison]
    cases compared package <;> simp [Except.map]

/-- An overview names the newest version too, which can be compared if the others can. -/
theorem compares_describe (handle : Handle) (author name requirement : String) :
    (describe author name requirement).Compares handle author name := by
  let overview (package : Index.Package) (record : Record) :
      Except Version.NotANumber Answer :=
    package.newestFirst.map fun newest => .overview {
      record
      latest := newest.head?.getD ""
      latestSatisfying := record.version
      indexUrl := handle.url }
  let answer (package : Index.Package) : Except Version.NotANumber Answer := do
    let found ← package.findSatisfying? requirement
    found.elim (pure .nothing) (overview package)
  refine compares_of answer (fun _ => .nothing) (bind_assoc ..) ?_ (fun _ => rfl) ?_
  · intro package failed
    rw [Lookup.ofVersions_bind]
    dsimp only
    rw [bind_assoc]
    refine congrArg (Lookup.ofVersions (package.findSatisfying? requirement) >>= ·)
      (funext fun found => ?_)
    cases found with
    | none => rfl
    | some record =>
        dsimp only [overview, Option.elim_some]
        rw [Lookup.ofVersions_map]
        exact bind_assoc ..
  · intro package error
    refine (?_ : answer package = .error error ↔
      (package.findSatisfying? requirement).map (fun _ => ()) = .error error)
    cases hfound : package.findSatisfying? requirement with
    | error refused => simp [answer, hfound, Except.map, bind, Except.bind]
    | ok found =>
        cases found with
        | none => simp [answer, hfound, Except.map, bind, Except.bind, pure, Except.pure]
        | some record =>
            obtain ⟨newest, hnewest⟩ := Index.Package.newestFirst_of_findSatisfying? hfound
            simp [answer, overview, hfound, hnewest, Except.map, bind, Except.bind, pure,
              Except.pure]

/-- Every query that is about the versions of a package compares them. -/
theorem compares {query : Query} {author name : String}
    (h : query.package? = some (author, name)) (handle : Handle) :
    query.Compares handle author name := by
  cases query with
  | versions author name =>
      obtain ⟨rfl, rfl⟩ := Prod.mk.inj (Option.some.inj h)
      exact compares_of_map (·.newestFirst) .texts (fun _ => .nothing) (fun _ => rfl)
        (bind_assoc ..) (fun _ _ => bind_assoc ..) fun _ => rfl
  | latest author name =>
      obtain ⟨rfl, rfl⟩ := Prod.mk.inj (Option.some.inj h)
      exact compares_of_map (·.newestFirst) (fun versions => .ofOption .text versions.head?)
        (fun _ => .nothing) (fun _ => rfl) ((bind_assoc ..).trans (bind_assoc ..))
        (fun _ _ => bind_assoc ..) fun _ => rfl
  | closestVersion author name version =>
      obtain ⟨rfl, rfl⟩ := Prod.mk.inj (Option.some.inj h)
      exact compares_of_map (·.newestFirst)
        (fun versions => .ofOption .text (closestOther? version (some versions)))
        (fun _ => .ofOption .text (closestOther? version none)) (fun _ => rfl)
        ((bind_assoc ..).trans (bind_assoc ..)) (fun _ _ => bind_assoc ..) fun _ => rfl
  | bestRecord author name requirement =>
      obtain ⟨rfl, rfl⟩ := Prod.mk.inj (Option.some.inj h)
      exact compares_of_map (·.findSatisfying? requirement)
        (fun record : Option Record => .ofOption .record record) (fun _ => .nothing)
        (fun _ => rfl) (bind_assoc ..) (fun _ _ => rfl) fun _ => rfl
  | latestSatisfying author name requirement =>
      obtain ⟨rfl, rfl⟩ := Prod.mk.inj (Option.some.inj h)
      exact compares_of_map (·.findSatisfying? requirement)
        (fun record : Option Record => .ofOption .text (record.map (·.version)))
        (fun _ => .nothing) (fun _ => rfl) ((bind_assoc ..).trans (bind_assoc ..))
        (fun _ _ => rfl) fun _ => rfl
  | describe author name requirement =>
      obtain ⟨rfl, rfl⟩ := Prod.mk.inj (Option.some.inj h)
      exact compares_describe handle author name requirement
  | versionValidity author name requirement =>
      obtain ⟨rfl, rfl⟩ := Prod.mk.inj (Option.some.inj h)
      refine compares_of_map
        (fun package => package.newestFirst >>= Version.anySatisfies requirement)
        (fun satisfied => .validity (if satisfied then .valid else .invalid))
        (fun failed => .validity (if failed then .indeterminate else .invalid)) (fun _ => rfl)
        (bind_assoc ..) (fun package failed => ?_) fun _ => rfl
      rw [Lookup.ofVersions_bind]
      simp only [bind_assoc, pure_bind]
  | _ => cases h

end Query

namespace Instant

open Registry (cooling)

variable {world : World Registry} (instant : Instant Registry)

theorem ended_ofVersions {α : Type} (computed : Except Version.NotANumber α) :
    instant.ended world (Lookup.ofVersions computed) = computed.mapError .notANumber := by
  cases computed <;> rfl

/-- Finding a package ends in no fault. -/
theorem ended_package (hworld : world.Keeps cooling) (hcooldown : cooling.state instant.state)
    (handle : Handle) (author name : String) :
    ∃ found, instant.ended world (Lookup.package handle author name) = .ok found := by
  have hbrowses : Lookup.Browses (fun _ => False) (Lookup.package handle author name) :=
    Lookup.browses_package handle author name
  have hended : EndsIn (fun _ => True) (fun fault => ∃ error, False ∧ fault = .notANumber error)
      (instant.ended world (Lookup.package handle author name)) :=
    (keeps_cooling_browses hbrowses).ended hworld hcooldown
  cases hfound : instant.ended world (Lookup.package handle author name) with
  | ok found => exact ⟨found, rfl⟩
  | error fault =>
      obtain ⟨error, hnone, -⟩ := hended.of_error hfound
      exact hnone.elim

/-- **Refused comparisons.**  A query ends in a fault if and only if it finds a package
whose versions it cannot compare, whatever the replies are and whatever others do. -/
theorem ended_query_iff (hworld : world.Keeps cooling) (hcooldown : cooling.state instant.state)
    {query : Query} (hquery : query.IsLookup) (handle : Handle) (fault : Fault) :
    instant.ended world (query.run handle) = .error fault ↔
      ∃ author name package failed error, query.package? = some (author, name) ∧
        instant.ended world (Lookup.package handle author name) = .ok ⟨some package, failed⟩ ∧
        query.comparison package = .error error ∧ fault = .notANumber error := by
  cases hpackage : query.package? with
  | none =>
      have hbrowses : Lookup.Browses (fun _ => False) (query.run handle) :=
        Query.browses hquery handle fun hsome => absurd hpackage hsome
      have hended : EndsIn (fun _ => True) (fun fault => ∃ error, False ∧ fault = .notANumber error)
          (instant.ended world (query.run handle)) :=
        (keeps_cooling_browses hbrowses).ended hworld hcooldown
      constructor
      · intro hfault
        obtain ⟨error, hnone, -⟩ := hended.of_error hfault
        exact hnone.elim
      · rintro ⟨author, name, package, failed, error, hsome, -⟩
        cases hsome
  | some about =>
      obtain ⟨author, name⟩ := about
      obtain ⟨answer, hrun, hrefused⟩ := Query.compares hpackage handle
      obtain ⟨found, hfound⟩ := instant.ended_package hworld hcooldown handle author name
      have hended : instant.ended world (query.run handle) =
          (answer found).mapError .notANumber := by
        rw [hrun, ended_bind, hfound]
        exact ended_ofVersions ..
      rw [hended]
      constructor
      · intro hfault
        cases hanswer : answer found with
        | ok value =>
            rw [hanswer] at hfault
            cases hfault
        | error error =>
            rw [hanswer] at hfault
            obtain ⟨package, hvalue, hcomparison⟩ := (hrefused found error).mp hanswer
            obtain ⟨value, failed⟩ := found
            obtain rfl : value = some package := hvalue
            exact ⟨author, name, package, failed, error, rfl, hfound, hcomparison,
              (Except.error.inj hfault).symm⟩
      · rintro ⟨_, _, package, failed, error, hsome, hother, hcomparison, rfl⟩
        obtain ⟨rfl, rfl⟩ := Prod.mk.inj (Option.some.inj hsome)
        obtain rfl := Except.ok.inj (hfound.symm.trans hother)
        rw [(hrefused _ error).mpr ⟨package, rfl, hcomparison⟩]
        rfl

/-- A check of a manifest ends in no fault but the refusal to compare versions, for an
identifier that looks like a number and denotes none. -/
theorem ended_check (hworld : world.Keeps cooling) (hcooldown : cooling.state instant.state)
    {manifest : Manifest} {handle : Option Handle} {check : Lookup (Option Finding)}
    (hcheck : check ∈ Rule.checks manifest handle) {fault : Fault}
    (hfault : instant.ended world check = .error fault) :
    ∃ error : Version.NotANumber, error.Justified ∧ fault = .notANumber error := by
  have hbrowses : Lookup.Browses Version.NotANumber.Justified check :=
    Rule.browses_of_mem (fun _ => id) hcheck
  have hended : EndsIn (fun _ => True)
      (fun fault => ∃ error : Version.NotANumber, error.Justified ∧ fault = .notANumber error)
      (instant.ended world check) := (keeps_cooling_browses hbrowses).ended hworld hcooldown
  exact hended.of_error hfault

end Instant

end ManifestLint
