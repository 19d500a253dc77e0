import ManifestLint.Manifest.Reading
import ManifestLint.Proofs.Manifest.Specifiers
import ManifestLint.Text.Lower

/-!
# Dependencies of a manifest

What is known of the dependencies of a manifest that was read, whatever its text is.

* `Specifier.lower_author`: an author has one spelling in lower case.
* `Manifest.parse_formed`: where the parts of a manifest come from.
-/

namespace ManifestLint

namespace Text

/-- The lower case of a character: 32 code points on for a capital letter. -/
theorem toNat_toLower (c : Char) :
    c.toLower.toNat = if 65 ≤ c.toNat ∧ c.toNat ≤ 90 then c.toNat + 32 else c.toNat := by
  have hnat : c.toNat = c.val.toNat := rfl
  unfold Char.toLower
  by_cases h : 65 ≤ c.toNat ∧ c.toNat ≤ 90
  · have hupper : c.val ≥ 'A'.val ∧ c.val ≤ 'Z'.val := h
    rw [dif_pos hupper, if_pos h]
    change (c.val + ('a'.val - 'A'.val)).toNat = _
    rw [UInt32.toNat_add]
    have : ('a'.val - 'A'.val).toNat = 32 := rfl
    omega
  · have hupper : ¬ (c.val ≥ 'A'.val ∧ c.val ≤ 'Z'.val) := h
    rw [dif_neg hupper, if_neg h]

theorem lower_lower_of_ascii {text : String} (h : ∀ c ∈ text.toList, c.toNat < 0x80) :
    lower (lower text) = lower text := by
  have hascii : ∀ c ∈ text.toList.map Char.toLower, c.toNat < 0x80 := by
    intro c hc
    obtain ⟨other, hother, rfl⟩ := List.mem_map.mp hc
    have hsmall := h other hother
    rw [toNat_toLower]
    split <;> omega
  have htwice : ∀ c : Char, c.toLower.toLower = c.toLower := by
    intro c
    apply Char.toNat_inj.mp
    rw [toNat_toLower, toNat_toLower]
    split
    · rw [if_neg (by omega)]
    · rfl
  have hlower : lower text = .ofList (text.toList.map Char.toLower) := by
    rw [lower, lowerChars, lowerFrom_ascii [] _ h]
  rw [hlower, lower, lowerChars, String.toList_ofList, lowerFrom_ascii [] _ hascii, List.map_map]
  exact congrArg String.ofList (List.map_congr_left fun c _ => htwice c)

end Text

/-- The author of a specifier has one spelling in lower case. -/
theorem Specifier.lower_author (text : String) :
    Text.lower (Text.lower (parse text).author) = Text.lower (parse text).author := by
  by_cases hempty : (parse text).author = ""
  · rw [hempty]
    rfl
  · exact Text.lower_lower_of_ascii (isWord_author hempty).ascii

/-! ## Manifests -/

/-- The specifiers of a manifest are those of the texts, and a registry that is not
declared is the public one. -/
structure Manifest.Formed (manifest : Manifest) : Prop where
  specifiers : ∀ realm, ∀ dependency ∈ manifest.dependencies.get realm,
    dependency.specifier = Specifier.parse dependency.text
  registry : manifest.package.registry.placeholder = true → manifest.indexUrl = publicIndexUrl

namespace Manifest

theorem formed_new : ({} : Manifest).Formed where
  specifiers realm _ hmem := by cases realm <;> cases hmem
  registry _ := rfl

variable {manifest : Manifest}

theorem Formed.set (h : manifest.Formed) (slot : PackageKey) (key value : Toml.Token) :
    ({ manifest with package := manifest.package.set slot (packageField slot key value) } :
      Manifest).Formed := by
  refine ⟨h.specifiers, ?_⟩
  cases slot with
  | registry =>
      intro hplaceholder
      have hfield : (packageField .registry key value).placeholder = true := hplaceholder
      change (packageField .registry key value).text = publicIndexUrl
      unfold packageField at hfield ⊢
      dsimp only at hfield ⊢
      split at hfield
      · next htemplate =>
          rw [if_pos htemplate]
          rfl
      · cases hfield
  | _ => exact h.registry

theorem get_set (package : Package) (key other : PackageKey) (field : Field) :
    (package.set key field).get other = if key = other then field else package.get other := by
  cases key <;> cases other <;> rfl

theorem get_add (lists : DependencyLists) (realm other : Realm) (dependency : Dependency) :
    (lists.add realm dependency).get other =
      if realm = other then lists.get other ++ [dependency] else lists.get other := by
  cases realm <;> cases other <;> rfl

theorem mem_get_add {lists : DependencyLists} {realm other : Realm} {new dependency : Dependency}
    (h : dependency ∈ (lists.add realm new).get other) :
    dependency ∈ lists.get other ∨ dependency = new := by
  rw [get_add] at h
  split at h
  · exact (List.mem_append.mp h).imp_right List.mem_singleton.mp
  · exact .inl h

theorem Formed.add (h : manifest.Formed) (realm : Realm) (key value : Toml.Token) :
    ({ manifest with dependencies := manifest.dependencies.add realm (dependency key value) } :
      Manifest).Formed := by
  refine ⟨fun other found hfound => ?_, h.registry⟩
  rcases mem_get_add hfound with hold | rfl
  · exact h.specifiers other found hold
  · rfl

theorem Formed.heading {progress : Progress} (h : progress.manifest.Formed)
    (token : Toml.Token) : (progress.heading token).manifest.Formed :=
  ⟨h.specifiers, h.registry⟩

theorem Formed.assignment {progress : Progress} (h : progress.manifest.Formed)
    (key value : Toml.Token) : (progress.assignment key value).manifest.Formed := by
  unfold Progress.assignment
  dsimp only
  split
  · split
    · exact h.set _ key value
    · exact h
  · split
    · exact h.add _ key value
    · exact h

theorem Formed.step {progress : Progress} (h : progress.manifest.Formed)
    (before token after : Toml.Token) : (progress.step before token after).manifest.Formed := by
  unfold Progress.step
  split
  · exact h.heading token
  · split
    · exact h.assignment before after
    · exact h

theorem Formed.read {progress : Progress} (h : progress.manifest.Formed)
    (tokens : List Toml.Token) : (progress.read tokens).manifest.Formed := by
  fun_induction Progress.read progress tokens with
  | case1 progress before token after rest ih => exact ih (h.step before token after)
  | case2 progress tokens hshort => exact h

/-- **Manifests.**  Whatever text a manifest was read from, it is well formed. -/
theorem parse_formed {text : String} (h : parse text = .ok manifest) : manifest.Formed := by
  unfold parse ofChars at h
  dsimp only at h
  split at h
  · cases h
  · split at h
    · cases h
    · cases h
      exact formed_new.read _

theorem Formed.specifier (h : manifest.Formed) {item : Realm × Dependency}
    (hitem : item ∈ manifest.dependencies.items) :
    item.2.specifier = Specifier.parse item.2.text := by
  obtain ⟨realm, -, hmem⟩ := List.mem_flatMap.mp hitem
  obtain ⟨dependency, hdependency, rfl⟩ := List.mem_map.mp hmem
  exact h.specifiers realm dependency hdependency

end Manifest

end ManifestLint
