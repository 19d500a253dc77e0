import ManifestLint.Proofs.Registry.Plain

/-!
# Lookups are determined by the replies

If each request has one reply, what a lookup ends with is determined: it does not
depend on what is in the caches, on the other lookups, or on the order in which the
replies come.  The one exception is a notice that finds no cooldown, which depends on
the notices before it.

* `Handle.find?`: the client for a URL is the same in every registry.
* `Lookup.Browses.determined_alike`: what a lookup ends with, through every coherent registry and
  with all replies that indexes are read the same from.
-/

namespace ManifestLint

/-- The client of the store for a URL, if the URL is the address of an index. -/
def Handle.find? (url : String) : Option Handle :=
  match Address.parse url with
  | .ok address => some (.shared address)
  | .error _ => none

theorem Registry.find?_fst (registry : Registry) (url : String) :
    (registry.find? url).1 = Handle.find? url := by
  unfold find? Handle.find?
  cases Address.parse url <;> rfl

namespace Instant

open Registry (coherence)

variable {answer replies : Request → Reply}

section

variable (handle : Handle) {α β : Type} {read : Read α} {plain : Except ReadError α}

/-- A failure is noted and reported, and then the lookup goes on; nobody comes in
between. -/
theorem run_failed (error : ReadError) (next : Option α → Lookup β) (registry : Registry) :
    let noted := registry.update handle fun client =>
      { client with lastFailure := error.status? }
    ((do
        modify (·.update handle fun client => { client with lastFailure := error.status? })
        let _ ← Lookup.notify (error.report handle.url)
        return none : Lookup (Option α)) >>= next).run registry =
      match noted.notifier.notify (error.report handle.url) with
      | some (notifier, _) => (next none).run { noted with notifier }
      | none => .done noted (.error .noCooldown) := by
  intro noted
  simp only [bind_assoc, pure_bind]
  have hnotify := Fallible.run_notify (error.report handle.url) noted
  have hbind : ((Lookup.notify (error.report handle.url) >>= fun _ => next none).run noted) =
      ((Lookup.notify (error.report handle.url)).run noted).bind fun ended =>
        match ended with
        | .ok _ => (next none).run
        | .error fault => fun registry => .done registry (.error fault) := by
    refine congrArg (Program.bind _) (funext fun ended => ?_)
    cases ended <;> rfl
  refine Eq.trans ?_ (hbind.trans ?_)
  · rfl
  · rw [hnotify]
    cases noted.notifier.notify (error.report handle.url) <;> rfl

/-- What follows an attempt is settled if it is for what the plain reading gives, and
if need be with the status of the failure that was just noted. -/
theorem settles_attempt_bind {next : Option α → Lookup β} {expected : Except Fault β}
    (hread : Settles (coherence answer replies) (fun _ => False) read plain)
    (hok : ∀ value, plain = .ok value →
      Settles (coherence answer replies) (· = .noCooldown) (next (some value)) expected)
    (hfailed : ∀ error, plain = .error error → ∀ registry : Registry,
      registry.Coherent answer replies →
      (registry.client handle).lastFailure = error.status? →
        ((next none).run registry).Keeps (coherence answer replies)
          (EndsIn (fun value => expected = .ok value)
            (fun fault => expected = .error fault ∨ fault = .noCooldown))) :
    Settles (coherence answer replies) (· = .noCooldown)
      (Lookup.attempt handle read >>= next) expected := by
  unfold Lookup.attempt
  rw [bind_assoc]
  refine (keeps_lift hread).bind fun ended hended => ?_
  cases ended with
  | ok value => exact hok value hended
  | error error =>
      intro registry hregistry
      let noted := registry.update handle fun client =>
        { client with lastFailure := error.status? }
      have hnoted : noted.Coherent answer replies :=
        hregistry.update handle fun _ _ hitem => .inl hitem
      have hstatus : (noted.client handle).lastFailure = error.status? := by
        rw [Registry.client_update, if_pos rfl]
      have hplain : plain = .error error := hended.resolve_right id
      have hrun := run_failed handle error next registry
      dsimp only at hrun ⊢
      rw [hrun]
      cases noted.notifier.notify (error.report handle.url) with
      | none => exact ⟨hnoted, .inr rfl⟩
      | some notified =>
          exact hfailed error hplain _ (hnoted.frame rfl fun _ => rfl) hstatus

/-- An attempt gives what the plain reading gives, if it gives anything. -/
theorem settles_attempt
    (hread : Settles (coherence answer replies) (fun _ => False) read plain) :
    Settles (coherence answer replies) (· = .noCooldown) (Lookup.attempt handle read)
      (.ok plain.toOption) := by
  rw [← bind_pure (Lookup.attempt handle read)]
  refine settles_attempt_bind handle hread ?_ ?_
  · rintro value rfl
    exact settles_pure _
  · rintro error rfl registry hregistry -
    exact ⟨hregistry, rfl⟩

/-- Whether an index is reachable, by what its root is read as. -/
def reachability : Except ReadError Index.Root → Validity
  | .ok _ => .valid
  | .error error => if error.status? = some 404 then .invalid else .indeterminate

theorem settles_reachable :
    Settles (coherence answer replies) (· = .noCooldown) (Lookup.reachable handle)
      (.ok (reachability (Plain.root replies handle))) := by
  refine settles_attempt_bind handle (settles_root handle) ?_ ?_
  · intro root hroot
    rw [hroot]
    exact settles_pure _
  · intro error herror registry hregistry hstatus
    rw [herror, reachability, ← hstatus]
    exact ⟨hregistry, rfl⟩

end

theorem settles_find? {spurious : Fault → Prop} (url : String) :
    Settles (coherence answer replies) spurious (Lookup.find? url) (.ok (Handle.find? url)) :=
  keeps_modifyGet fun registry hregistry =>
    ⟨hregistry.find? url, congrArg Except.ok (registry.find?_fst url).symm⟩

theorem settles_ofVersions {spurious : Fault → Prop} {α : Type}
    (computed : Except Version.NotANumber α) :
    Settles (coherence answer replies) spurious (Lookup.ofVersions computed)
      (computed.mapError .notANumber) := by
  cases computed with
  | ok value => exact settles_pure value
  | error error => exact settles_throw _

end Instant

/-- From other replies all indexes are read the same. -/
structure Plain.Alike (replies others : Request → Reply) : Prop where
  root : ∀ handle, Plain.root others handle = Plain.root replies handle
  author : ∀ handle key, Plain.author others handle key = Plain.author replies handle key
  package : ∀ handle author name,
    Plain.package others handle author name = Plain.package replies handle author name
  config : ∀ handle, Plain.config others handle = Plain.config replies handle

theorem Plain.Alike.refl (replies : Request → Reply) : Plain.Alike replies replies :=
  ⟨fun _ => rfl, fun _ _ => rfl, fun _ _ _ => rfl, fun _ => rfl⟩

open Instant in
/-- **Determined.**  Whatever a lookup is put together from, what it ends with is
determined by what indexes are read as. -/
theorem Lookup.Browses.determined_alike {replies others : Request → Reply}
    (halike : Plain.Alike replies others) (answer other : Request → Reply)
    {refusal : Version.NotANumber → Prop} {α : Type} {lookup : Lookup α}
    (h : Lookup.Browses refusal lookup) :
    ∃ expected, Settles (Registry.coherence answer replies) (· = .noCooldown) lookup expected ∧
      Settles (Registry.coherence other others) (· = .noCooldown) lookup expected := by
  induction h with
  | pure value => exact ⟨.ok value, settles_pure value, settles_pure value⟩
  | bind hfirst hnext hdetermined hlater =>
      obtain ⟨expected, hsettles, htwin⟩ := hdetermined
      obtain ⟨later, hrest⟩ := Classical.skolem.mp hlater
      exact ⟨expected >>= later, hsettles.bind fun value _ => (hrest value).1,
        htwin.bind fun value _ => (hrest value).2⟩
  | root handle =>
      refine ⟨_, settles_attempt handle (settles_root handle), ?_⟩
      rw [← halike.root]
      exact settles_attempt handle (settles_root handle)
  | author handle name =>
      refine ⟨_, settles_attempt handle (settles_author handle name), ?_⟩
      rw [← halike.author]
      exact settles_attempt handle (settles_author handle name)
  | package handle author name =>
      refine ⟨_, settles_attempt handle (settles_package handle author name), ?_⟩
      rw [← halike.package]
      exact settles_attempt handle (settles_package handle author name)
  | config handle =>
      refine ⟨_, settles_attempt handle (settles_config handle), ?_⟩
      rw [← halike.config]
      exact settles_attempt handle (settles_config handle)
  | reachable handle =>
      refine ⟨_, settles_reachable handle, ?_⟩
      rw [← halike.root]
      exact settles_reachable handle
  | find? url => exact ⟨_, settles_find? url, settles_find? url⟩
  | @ofVersions _ computed hrefusal =>
      exact ⟨_, settles_ofVersions computed, settles_ofVersions computed⟩

open Instant in
/-- What a lookup ends with is determined by the replies. -/
theorem Lookup.Browses.determined (answer replies : Request → Reply)
    {refusal : Version.NotANumber → Prop} {α : Type} {lookup : Lookup α}
    (h : Lookup.Browses refusal lookup) :
    ∃ expected, Settles (Registry.coherence answer replies) (· = .noCooldown) lookup expected := by
  obtain ⟨expected, hsettles, -⟩ := h.determined_alike (Plain.Alike.refl replies) answer answer
  exact ⟨expected, hsettles⟩

open Instant in
/-- Lookups leave a registry coherent. -/
theorem Lookup.Browses.keeps_coherence {answer replies : Request → Reply}
    {refusal : Version.NotANumber → Prop} {α : Type} {lookup : Lookup α}
    (h : Lookup.Browses refusal lookup) :
    Keeps (Registry.coherence answer replies) (fun _ => True) (fun _ => True) lookup := by
  obtain ⟨expected, hsettles⟩ := h.determined answer replies
  exact (hsettles.mono fun _ _ => trivial).weaken fun _ _ => trivial

end ManifestLint
