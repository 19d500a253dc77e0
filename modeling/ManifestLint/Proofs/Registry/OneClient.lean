import ManifestLint.Proofs.Index.Spellings

/-!
# One client for all spellings of an index

A store has one client for each address, and with it one cache.  Whether two URLs share it
depends on the URLs alone, not on what was asked before: the second one is answered with the
client of the first, and no other one is opened.

* `Registry.Shares`: two URLs share a client.
* `Registry.shares_spelling_iff`: which spellings of the URL of an index do so.
* `Registry.capital_ending_not_shared`: an ending in capitals leads to another index.
-/

namespace ManifestLint

namespace Registry

open Address (EndsInBlank EndsInGit Around)

variable {url other : String}

/-- Once a URL was asked for, another one is answered with the same client, and opens no other
client. -/
def Shares (registry : Registry) (url other : String) : Prop :=
  (registry.find? url).2.find? other = registry.find? url

theorem opened_opened (registry : Registry) (address : Address) :
    (registry.opened address).opened address = registry.opened address := by
  by_cases hhas : registry.clients.has (.shared address) = true
  · have hopened : registry.opened address = registry := if_pos hhas
    rw [hopened, hopened]
  · have hnow : (registry.opened address).clients.has (.shared address) = true := by
      unfold opened
      rw [if_neg hhas, Entries.has, Entries.get?_put, if_pos rfl]
      rfl
    exact if_pos hnow

/-- Which client a URL has does not depend on the registry. -/
theorem shares_iff (registry : Registry) :
    registry.Shares url other ↔ Handle.find? other = Handle.find? url := by
  constructor
  · intro hshares
    rw [← find?_fst, hshares, find?_fst]
  · intro hfind
    unfold Handle.find? at hfind
    unfold Shares find?
    cases hurl : Address.parse url with
    | ok address =>
        cases hother : Address.parse other with
        | ok otherAddress =>
            rw [hurl, hother] at hfind
            obtain rfl := Handle.shared.inj (Option.some.inj hfind)
            simp only [opened_opened]
        | error error =>
            rw [hurl, hother] at hfind
            cases hfind
    | error error =>
        cases hother : Address.parse other with
        | ok otherAddress =>
            rw [hurl, hother] at hfind
            cases hfind
        | error otherError => rfl

/-- **Spellings.**  In every registry, and for every URL of an index:

The URL of its address leads back to the address, and shares its client, unless it ends in a
blank or in `.git`.  The same URL with blanks around it, and slashes and an ending behind
it, shares its client if no blank gets between, and the ending is in lower case and the first
one.  A URL in another case shares its client, if the one does not end in `.git` and if the
other does not either.  So of all spellings of a URL that ends neither in a blank nor in
`.git`, those that do not share its client are the ones with a capital letter in the
ending. -/
theorem shares_spelling_iff (registry : Registry) :
    (∀ url address, Address.parse url = .ok address →
      (Address.parse address.url = .ok address ↔
        ¬ EndsInGit address.url ∧ ¬ EndsInBlank address.url) ∧
      (registry.Shares url address.url ↔
        ¬ EndsInGit address.url ∧ ¬ EndsInBlank address.url)) ∧
    ∀ url : String, (registry.find? url).1.isSome = true →
      (∀ before early ending late after : String, Around before early ending late after →
        (registry.Shares url (before ++ url ++ early ++ ending ++ late ++ after) ↔
          (early ++ ending ++ late = "" ∨ ¬ EndsInBlank url) ∧
            (ending = "" ∨ ending = ".git" ∧ ¬ EndsInGit url))) ∧
      (¬ EndsInGit url → ∀ other : String, Text.lower other = Text.lower url →
        (registry.Shares url other ↔ ¬ EndsInGit other) ∧
        (¬ EndsInBlank url → ¬ EndsInGit other →
          ∀ before early ending late after : String, Around before early ending late after →
            (registry.Shares url (before ++ other ++ early ++ ending ++ late ++ after) ↔
              ending = "" ∨ ending = ".git"))) := by
  refine ⟨?_, ?_⟩
  · intro url address hparse
    have hroundtrip := Address.url_roundtrip_iff hparse
    refine ⟨hroundtrip, ?_⟩
    have hfind : Handle.find? url = some (.shared address) :=
      Address.find?_eq_some_iff.mpr ⟨address, rfl, hparse⟩
    rw [shares_iff, hfind, ← hroundtrip, Address.find?_eq_some_iff]
    constructor
    · rintro ⟨same, hsame, hok⟩
      obtain rfl := Handle.shared.inj hsame
      exact hok
    · exact fun hok => ⟨address, rfl, hok⟩
  · intro url hurl
    rw [find?_fst] at hurl
    refine ⟨?_, ?_⟩
    · intro before early ending late after haround
      rw [shares_iff]
      exact Address.find?_spelling_iff hurl haround
    · intro hgit other hlower
      refine ⟨?_, ?_⟩
      · rw [shares_iff]
        exact Address.find?_of_lower_eq_iff hurl hlower hgit
      · intro hblank hother before early ending late after haround
        rw [shares_iff]
        exact Address.find?_spelling_of_lower_iff hurl hblank hgit hlower hother haround

/-- A URL in capitals, with all that may stand around it, shares the client. -/
theorem shares_capitals :
    Shares {} "https://github.com/o/r" " HTTPS://GitHub.com/O/R//.git/\t" ∧
      Shares {} "HTTPS://GitHub.com/O/R" (Address.mk "o" "r").url := by
  obtain ⟨hroundtrip, hspelling⟩ := shares_spelling_iff {}
  have haround : Around " " "//" ".git" "/" "\t" := by
    refine ⟨?_, by simp, .inr (by decide), by simp, ?_⟩ <;>
      exact List.all_eq_true.mp (by decide)
  have hurl : (find? {} "https://github.com/o/r").1.isSome = true := by decide
  have hparse : Address.parse "HTTPS://GitHub.com/O/R" = .ok ⟨"o", "r"⟩ := by
    apply eq_ok_of_toOption
    decide
  obtain ⟨-, hletters⟩ := hspelling _ hurl
  obtain ⟨-, hboth⟩ := hletters (by decide) "HTTPS://GitHub.com/O/R" (by decide)
  refine ⟨?_, ?_⟩
  · exact (hboth (by decide) (by decide) _ _ _ _ _ haround).mpr (.inr rfl)
  · exact (hroundtrip _ _ hparse).2.mpr ⟨by decide, by decide⟩

/-- **Capitals in the ending.**  The ending in capitals becomes part of the repository's name.
The URL of the address leads to another address then, and another client. -/
theorem capital_ending_not_shared :
    (Address.parse "https://github.com/o/r.GIT").toOption = some ⟨"o", "r.git"⟩ ∧
      (Address.parse (Address.mk "o" "r.git").url).toOption = some ⟨"o", "r"⟩ ∧
      ¬ Shares {} "https://github.com/o/r.GIT" (Address.mk "o" "r.git").url ∧
      ¬ Shares {} "https://github.com/o/r" "https://github.com/o/r.GIT" := by
  rw [shares_iff, shares_iff]
  decide

end Registry

end ManifestLint
