import Mathlib.Data.String.Basic
import ManifestLint.Completion
import ManifestLint.Proofs.Manifest.Dependencies
import ManifestLint.Proofs.Manifest.Sources
import ManifestLint.Proofs.Registry.BestVersion
import ManifestLint.Proofs.Version.Latest

/-!
# Candidates

What is being typed in a dependency shows at its separators.  Where nothing but words and
separators is there, an author is being typed until a slash stands behind it, then a name until an
at sign stands behind that, and then a version.

If each request has one reply, what is offered is determined by what the lookup for that part
gives: of the names or versions that it lists, those that start with what was typed, in their
order.  Versions are completed rather than replaced.  Their sort keys are their places in the list,
filled up with zeros to five digits, so that sorting up to 100000 of them keeps the list.

Versions come newest first, if comparing any two that were published gives the opposite the other
way round.  Two spellings of one number are each above the other, and a list with them may be sorted
wrongly.

* `Typing.of_iff`: what is being typed in a text.
* `placeKey_lt_placeKey`: the order of the keys.
* `Typing.offers_candidates`: what is offered, given what is listed.
* `Instant.candidates_offered`: what is offered at a position of a manifest.
-/

namespace ManifestLint

/-! ## What is being typed -/

/-- What is being typed of a dependency: an author, the name of a package of an author, or a version
of a package. -/
inductive Typing where
  | author (typed : String)
  | name (author typed : String)
  | version (author name typed : String)
  deriving DecidableEq

namespace Typing

open Specifier (IsWord isWordChar isWordStart spanWord spanWord_append of_spanWord)

/-- A word ends where the rest of a text begins, or no word starts there. -/
def Begins (word rest : List Char) : Prop :=
  IsWord word ∧ (∀ c ∈ rest.head?, isWordChar c = false) ∨
    word = [] ∧ ∀ c ∈ rest.head?, isWordStart c = false

/-- What is being typed in a text.  A part is finished by the separator right behind it. -/
inductive Of : List Char → Typing → Prop
  | author {word rest : List Char} (hword : Begins word rest)
      (hopen : word = [] ∨ rest.head? ≠ some '/') : Of (word ++ rest) (.author (.ofList word))
  | name {author word rest : List Char} (hauthor : IsWord author) (hword : Begins word rest)
      (hopen : word = [] ∨ rest.head? ≠ some '@') :
      Of (author ++ '/' :: (word ++ rest)) (.name (.ofList author) (.ofList word))
  | version {author name : List Char} (typed : List Char) (hauthor : IsWord author)
      (hname : IsWord name) :
      Of (author ++ '/' :: (name ++ '@' :: typed))
        (.version (.ofList author) (.ofList name) (.ofList typed))

end Typing

/-- What is being typed, by which parts of a specifier are complete. -/
def Specifier.typing (specifier : Specifier) : Typing :=
  if !specifier.fullAuthor then .author specifier.author
  else if !specifier.fullName then .name specifier.author specifier.name
  else .version specifier.author specifier.name specifier.requirement

namespace Typing

open Specifier (IsWord isWordChar isWordStart spanWord spanWord_append of_spanWord)

variable {text word rest : List Char}

theorem Begins.spanWord_eq (h : Begins word rest) : spanWord (word ++ rest) = (word, rest) := by
  rcases h with ⟨hword, hrest⟩ | ⟨rfl, hrest⟩
  · exact spanWord_append hword hrest
  · cases rest with
    | nil => rfl
    | cons c others =>
        have hstart : isWordStart c = false := hrest c rfl
        rw [List.nil_append, spanWord, hstart]
        rfl

/-- Every text begins with a word, or no word starts there. -/
theorem begins_of_spanWord (h : spanWord text = (word, rest)) :
    Begins word rest ∧ text = word ++ rest := by
  cases text with
  | nil =>
      cases h
      exact ⟨.inr ⟨rfl, by rintro c ⟨⟩⟩, rfl⟩
  | cons first more =>
      by_cases hstart : isWordStart first = true
      · rw [spanWord, if_pos hstart] at h
        cases h
        refine ⟨.inl ⟨⟨hstart, fun c hc => List.all_eq_true.mp List.all_takeWhile c hc⟩, ?_⟩, ?_⟩
        · intro c hc
          have hnot := List.head?_dropWhile_not isWordChar more
          rw [hc] at hnot
          simpa using hnot
        · rw [List.cons_append, List.takeWhile_append_dropWhile]
      · rw [spanWord, if_neg hstart] at h
        cases h
        refine ⟨.inr ⟨rfl, ?_⟩, rfl⟩
        rintro c ⟨⟩
        exact eq_false_of_ne_true hstart

/-- A specifier tells what is being typed. -/
theorem of_ofChars (text : List Char) : Of text (Specifier.ofChars text).typing := by
  rw [Specifier.ofChars]
  split
  · next rest hfirst =>
      obtain ⟨hbegins, rfl⟩ := begins_of_spanWord hfirst
      exact .author hbegins (.inl rfl)
  · next author rest hauthor hfirst =>
      obtain ⟨hword, rfl⟩ := of_spanWord hfirst hauthor
      split
      · next behind hsecond =>
          obtain ⟨hbegins, rfl⟩ := begins_of_spanWord hsecond
          exact .name hword hbegins (.inl rfl)
      · next name requirement hname hsecond =>
          obtain ⟨hother, rfl⟩ := of_spanWord hsecond hname
          exact .version requirement hword hother
      · next name others hname hat hsecond =>
          obtain ⟨hbegins, rfl⟩ := begins_of_spanWord hsecond
          refine .name hword hbegins (.inr fun hhead => ?_)
          obtain ⟨requirement, rfl⟩ := List.head?_eq_some_iff.mp hhead
          exact hat requirement rfl
  · next author rest hauthor hslash hfirst =>
      obtain ⟨hbegins, rfl⟩ := begins_of_spanWord hfirst
      refine .author hbegins (.inr fun hhead => ?_)
      obtain ⟨behind, rfl⟩ := List.head?_eq_some_iff.mp hhead
      exact hslash behind rfl

/-- What is being typed in a text is what its specifier tells. -/
theorem Of.eq_typing {typing : Typing} (h : Of text typing) :
    (Specifier.ofChars text).typing = typing := by
  have hword {word : List Char} (h : IsWord word) (c : Char) (hc : isWordChar c = false)
      (rest : List Char) : spanWord (word ++ c :: rest) = (word, c :: rest) :=
    spanWord_append h (by rintro _ ⟨⟩; exact hc)
  cases h with
  | @author word rest hbegins hopen =>
      rw [Specifier.ofChars, hbegins.spanWord_eq]
      cases word with
      | nil => rfl
      | cons first more =>
          have hhead := hopen.resolve_left (List.cons_ne_nil _ _)
          split
          · next hsame => cases hsame
          · next hsame =>
              cases hsame
              exact absurd rfl hhead
          · next hsame =>
              cases hsame
              rfl
  | @name author word rest hauthor hbegins hopen =>
      rw [Specifier.ofChars, hword hauthor '/' (by decide)]
      cases author with
      | nil => exact hauthor.elim
      | cons first more =>
          simp only [hbegins.spanWord_eq]
          cases word with
          | nil => rfl
          | cons next others =>
              have hhead := hopen.resolve_left (List.cons_ne_nil _ _)
              split
              · next hsame => cases hsame
              · next hsame =>
                  cases hsame
                  exact absurd rfl hhead
              · next hsame =>
                  cases hsame
                  rfl
  | @version author name typed hauthor hname =>
      rw [Specifier.ofChars, hword hauthor '/' (by decide)]
      cases author with
      | nil => exact hauthor.elim
      | cons first more =>
          simp only [hword hname '@' (by decide)]
          cases name with
          | nil => exact hname.elim
          | cons next others => rfl

/-- **Typing.**  Of every text one thing is being typed. -/
theorem of_iff {typing : Typing} : Of text typing ↔ (Specifier.ofChars text).typing = typing :=
  ⟨Of.eq_typing, fun h => h ▸ of_ofChars text⟩

end Typing

/-! ## Keys of places -/

/-- The number of a row of digits is below the least number of one digit more. -/
theorem ofDigitChars_lt {digits : List Char} (h : ∀ c ∈ digits, c.isDigit = true) :
    Nat.ofDigitChars 10 digits 0 < 10 ^ digits.length := by
  rw [← Version.ofDigits_digitValues]
  have hlength : (Version.digitValues digits).length = digits.length := by
    simp [Version.digitValues]
  rw [← hlength]
  apply Nat.ofDigits_lt_base_pow_length (by decide)
  intro value hvalue
  obtain ⟨c, hc, rfl⟩ := List.mem_map.mp (List.mem_reverse.mp hvalue)
  exact (Version.value_of_isDigit (h c hc)).2

/-- Rows of digits of one length are in the order of their numbers. -/
theorem lt_of_ofDigitChars_lt {first second : List Char} (hfirst : ∀ c ∈ first, c.isDigit = true)
    (hsecond : ∀ c ∈ second, c.isDigit = true) (hlength : first.length = second.length)
    (h : Nat.ofDigitChars 10 first 0 < Nat.ofDigitChars 10 second 0) : first < second := by
  induction first generalizing second with
  | nil =>
      rw [List.eq_nil_of_length_eq_zero hlength.symm] at h
      exact absurd h (Nat.lt_irrefl _)
  | cons c more ih =>
      cases second with
      | nil => cases hlength
      | cons d others =>
          obtain ⟨hc, hmore⟩ := List.forall_mem_cons.mp hfirst
          obtain ⟨hd, hothers⟩ := List.forall_mem_cons.mp hsecond
          have hrest : more.length = others.length := Nat.succ.inj hlength
          rw [Nat.ofDigitChars_cons, Nat.ofDigitChars_cons, Nat.ofDigitChars_eq_ofDigitChars_zero,
            Nat.ofDigitChars_eq_ofDigitChars_zero (l := others), ← hrest] at h
          rcases lt_trichotomy c d with hlower | rfl | hhigher
          · exact List.Lex.rel hlower
          · exact List.Lex.cons (ih hmore hothers hrest (by omega))
          · have hvalues : d.toNat < c.toNat := hhigher
            have hbound := ofDigitChars_lt hothers
            have hnext := (Version.value_of_isDigit hd).1
            have hstep : 10 ^ more.length * (10 * 0 + (d.toNat - '0'.toNat) + 1) ≤
                10 ^ more.length * (10 * 0 + (c.toNat - '0'.toNat)) :=
              Nat.mul_le_mul_left _ (by omega)
            rw [Nat.mul_add, Nat.mul_one] at hstep
            rw [← hrest] at hbound
            omega

namespace Candidate

variable {place other : Nat}

/-- The key of a place below 100000 has five digits, and they denote the place. -/
theorem placeKey_digits (h : place < 100000) :
    (∀ c ∈ (placeKey place).toList, c.isDigit = true) ∧ (placeKey place).toList.length = 5 ∧
      Nat.ofDigitChars 10 (placeKey place).toList 0 = place := by
  have hshort : (Nat.toDigits 10 place).length ≤ 5 :=
    (Nat.length_toDigits_le_iff (by decide) (by decide)).mpr h
  rw [placeKey, String.toList_ofList]
  refine ⟨fun c hc => ?_, ?_, ?_⟩
  · rcases List.mem_append.mp hc with hzero | hdigit
    · rw [List.eq_of_mem_replicate hzero]
      rfl
    · exact Nat.isDigit_of_mem_toDigits (by decide) (by decide) hdigit
  · rw [List.length_append, List.length_replicate]
    omega
  · simp [Nat.ofDigitChars_append]

/-- **Keys** of places below 100000 are in the order of the places. -/
theorem placeKey_lt_placeKey (h : place < other) (hbound : other < 100000) :
    placeKey place < placeKey other := by
  obtain ⟨hfirst, hlength, hplace⟩ := placeKey_digits (h.trans hbound)
  obtain ⟨hsecond, hsame, hother⟩ := placeKey_digits hbound
  apply String.lt_iff.mpr
  apply lt_of_ofDigitChars_lt hfirst hsecond (hlength.trans hsame.symm)
  rw [hplace, hother]
  exact h

/-! ## What is offered -/

variable {typed : String} {names : List String}

theorem labels_ofVersions :
    (ofVersions typed names).map (·.label) = startingWith typed names := by
  rw [ofVersions, List.map_map]
  exact List.zipIdx_map_fst ..

theorem sortKeys_ofVersions :
    (ofVersions typed names).map (·.sortKey) =
      (List.range (startingWith typed names).length).map placeKey := by
  rw [ofVersions, List.map_map, List.range_eq_range', ← List.zipIdx_map_snd, List.map_map]
  rfl

/-- What is inserted completes what was typed. -/
theorem typed_append_insertion {candidate : Candidate} (h : candidate ∈ ofVersions typed names) :
    typed ++ candidate.insertion = candidate.label := by
  obtain ⟨⟨label, place⟩, hmem, rfl⟩ := List.mem_map.mp h
  have hlabel : label ∈ startingWith typed names := List.fst_mem_of_mem_zipIdx hmem
  obtain ⟨rest, hrest⟩ := List.isPrefixOf_iff_prefix.mp (List.mem_filter.mp hlabel).2
  rw [← String.toList_inj, String.toList_append, String.toList_ofList, ← hrest,
    ← String.length_toList, List.drop_left]

/-- The keys of up to 100000 versions are in order. -/
theorem sortKeys_rising (h : (ofVersions typed names).length ≤ 100000) :
    (ofVersions typed names).Pairwise fun first second => first.sortKey < second.sortKey := by
  have hcount : (ofVersions typed names).length = (startingWith typed names).length := by
    rw [← labels_ofVersions, List.length_map]
  have hkeys : ((ofVersions typed names).map (·.sortKey)).Pairwise (· < ·) := by
    rw [sortKeys_ofVersions, List.pairwise_map]
    apply List.pairwise_lt_range.imp_of_mem
    intro place other hplace hother hlt
    apply placeKey_lt_placeKey hlt
    have hbound := List.mem_range.mp hother
    omega
  exact List.pairwise_map.mp hkeys

/-- Candidates whose keys rise are found again by sorting them in any order. -/
theorem eq_of_sorted {offered sorted : List Candidate}
    (h : offered.Pairwise fun first second => first.sortKey < second.sortKey)
    (hperm : sorted.Perm offered)
    (hsorted : sorted.Pairwise fun first second => first.sortKey ≤ second.sortKey) :
    sorted = offered := by
  have hdifferent : offered.Pairwise fun first second => first.sortKey ≠ second.sortKey :=
    h.imp ne_of_lt
  have : Std.Symm fun first second : Candidate => first.sortKey ≠ second.sortKey :=
    ⟨fun _ _ hne => hne.symm⟩
  refine List.Perm.eq_of_pairwise (fun a b ha hb hle hge => ?_) hsorted (h.imp le_of_lt) hperm
  by_contra hne
  exact hdifferent.forall (hperm.subset ha) hb hne (le_antisymm hle hge)

end Candidate

namespace Typing

/-- The part that is being typed. -/
def typed : Typing → String
  | author typed => typed
  | name _ typed => typed
  | version _ _ typed => typed

/-- The kind of what is being typed. -/
def kind : Typing → CandidateKind
  | author _ => .author
  | name _ _ => .package
  | version _ _ _ => .version

/-- The lookup that lists what could be typed. -/
def lookup (handle : Handle) : Typing → Lookup (Option (List String))
  | author _ => Lookup.authorNames handle
  | name owner _ => Lookup.packageNames handle owner
  | version owner package _ => Lookup.versions handle owner package

/-- The candidates among the names or versions that are listed. -/
def candidates (typing : Typing) (listed : List String) : List Candidate :=
  match typing with
  | author typed => Candidate.ofNames .author typed listed
  | name _ typed => Candidate.ofNames .package typed listed
  | version _ _ typed => Candidate.ofVersions typed listed

/-- What is offered, given what is listed: exactly the names or versions that start with what was
typed, in their order.  A name is inserted as a whole and sorted by itself.  Of a version only what
is missing is inserted, and sorting up to 100000 candidates by their keys gives the list. -/
structure Offers (typing : Typing) (listed : List String) (offered : List Candidate) : Prop where
  labels : offered.map (·.label) =
    listed.filter fun name => decide (typing.typed.toList <+: name.toList)
  kinds : ∀ candidate ∈ offered, candidate.kind = typing.kind
  names : typing.kind ≠ .version → ∀ candidate ∈ offered,
    candidate.insertion = candidate.label ∧ candidate.sortKey = candidate.label
  versions : typing.kind = .version →
    (∀ candidate ∈ offered, typing.typed ++ candidate.insertion = candidate.label) ∧
      (offered.length ≤ 100000 → ∀ sorted : List Candidate, sorted.Perm offered →
        sorted.Pairwise (fun first second => first.sortKey ≤ second.sortKey) → sorted = offered)

theorem startingWith_eq (typed : String) (listed : List String) :
    Candidate.startingWith typed listed =
      listed.filter fun name => decide (typed.toList <+: name.toList) := by
  apply List.filter_congr
  intro name _
  rw [Bool.eq_iff_iff, List.isPrefixOf_iff_prefix, decide_eq_true_iff]

/-- Names are offered as they are. -/
theorem offers_ofNames {typing : Typing} {listed : List String} (h : typing.kind ≠ .version) :
    typing.Offers listed (Candidate.ofNames typing.kind typing.typed listed) where
  labels := by
    rw [← startingWith_eq, Candidate.ofNames, List.map_map]
    exact List.map_id _
  kinds := by
    intro candidate hmem
    obtain ⟨label, -, rfl⟩ := List.mem_map.mp hmem
    rfl
  names := by
    intro _ candidate hmem
    obtain ⟨label, -, rfl⟩ := List.mem_map.mp hmem
    exact ⟨rfl, rfl⟩
  versions := fun hversion => absurd hversion h

/-- **Offers.**  The candidates among what is listed are what is offered. -/
theorem offers_candidates (typing : Typing) (listed : List String) :
    typing.Offers listed (typing.candidates listed) := by
  cases typing with
  | author typed => exact offers_ofNames fun hversion => by cases hversion
  | name author typed => exact offers_ofNames fun hversion => by cases hversion
  | version author name typed =>
      refine ⟨?_, ?_, fun h => absurd rfl h, fun _ => ⟨?_, ?_⟩⟩
      · exact Candidate.labels_ofVersions.trans (startingWith_eq typed listed)
      · intro candidate hmem
        obtain ⟨labelled, -, rfl⟩ := List.mem_map.mp hmem
        rfl
      · exact fun candidate hmem => Candidate.typed_append_insertion hmem
      · intro hcount sorted hperm hsorted
        exact Candidate.eq_of_sorted (Candidate.sortKeys_rising hcount) hperm hsorted

end Typing

/-! ## Looking up -/

namespace Lookup

/-- The candidates for a dependency are those among what the lookup for the part that is being typed
lists. -/
theorem candidatesFor_eq (handle : Handle) (specifier : Specifier) :
    candidatesFor handle specifier = do
      return specifier.typing.candidates ((← specifier.typing.lookup handle).getD []) := by
  obtain ⟨author, name, requirement, coerced, fullAuthor, fullName⟩ := specifier
  cases fullAuthor with
  | false => rfl
  | true => cases fullName <;> rfl

variable {refusal : Version.NotANumber → Prop}
  (hrefusal : ∀ error : Version.NotANumber, error.Justified → refusal error)

include hrefusal

theorem browses_candidatesFor (handle : Handle) (specifier : Specifier) :
    Browses refusal (candidatesFor handle specifier) := by
  rw [candidatesFor_eq]
  refine Browses.bind ?_ fun _ => .pure _
  cases specifier.typing with
  | author typed => exact browses_authorNames handle
  | name author typed => exact browses_packageNames handle author
  | version author name typed => exact browses_versions handle author name hrefusal

theorem browses_candidatesAt (manifest : Manifest) (position : Toml.Position) :
    Browses refusal (candidatesAt manifest position) := by
  rw [candidatesAt]
  split
  · exact .pure _
  · refine (Browses.find? _).bind fun found => ?_
    cases found with
    | none => exact .pure _
    | some handle => exact browses_candidatesFor hrefusal handle _

end Lookup

/-- What the lookup for the part that is being typed lists, by the replies. -/
def Plain.listed (replies : Request → Reply) (handle : Handle) :
    Typing → Except Fault (Option (List String))
  | .author _ => .ok (authorNames replies handle)
  | .name author _ => .ok (packageNames replies handle author)
  | .version author name _ => versions replies handle author name

/-- The published versions of the package that is found. -/
def Plain.published (replies : Request → Reply) (handle : Handle) (author name : String) :
    List String :=
  ((packageFound replies handle author name).value.map (·.versionTexts)).getD []

namespace Instant

open Registry (coherence cooling)

variable {answer replies : Request → Reply} {world : World Registry} {handle : Handle}
  {typing : Typing} {listed : Option (List String)}

theorem settles_lookup (handle : Handle) (typing : Typing) :
    Settles (coherence answer replies) (· = .noCooldown) (typing.lookup handle)
      (Plain.listed replies handle typing) := by
  cases typing with
  | author typed => exact settles_authorNames handle
  | name author typed => exact settles_packageNames handle author
  | version author name typed => exact settles_versions handle author name

/-- The candidates at a position are settled by what is listed. -/
theorem settles_candidatesAt {manifest : Manifest} {position : Toml.Position}
    {item : Realm × Dependency} (hitem : manifest.dependencyAt? position = some item)
    (hhandle : Handle.find? manifest.indexUrl = some handle)
    (htyping : item.2.specifier.typing = typing)
    (hlisted : Plain.listed replies handle typing = .ok listed) :
    Settles (coherence answer replies) (· = .noCooldown) (Lookup.candidatesAt manifest position)
      (.ok (typing.candidates (listed.getD []))) := by
  have hlookup : Settles (coherence answer replies) (· = .noCooldown) (typing.lookup handle)
      (.ok listed) := hlisted ▸ settles_lookup handle typing
  rw [Lookup.candidatesAt, hitem]
  refine (settles_find? manifest.indexUrl).bind_ok ?_
  rw [hhandle]
  dsimp only
  rw [Lookup.candidatesFor_eq, htyping]
  exact hlookup.bind_ok (settles_pure _)

end Instant

namespace Plain

variable {replies : Request → Reply} {handle : Handle} {author name typed : String}
  {listed : Option (List String)}

/-- The versions that are listed are those that were published. -/
theorem perm_published (h : Plain.versions replies handle author name = .ok listed) :
    (listed.getD []).Perm (published replies handle author name) := by
  rw [Plain.versions] at h
  rw [published]
  cases hfound : (packageFound replies handle author name).value with
  | none =>
      rw [hfound] at h
      cases h
      exact List.Perm.refl _
  | some package =>
      rw [hfound] at h
      dsimp only at h
      cases hnewest : package.newestFirst with
      | error error =>
          rw [hnewest] at h
          cases h
      | ok sorted =>
          rw [hnewest] at h
          cases h
          exact package.newestFirst_outcome.of_ok hnewest

/-- The versions are listed newest first, if comparing them is consistent. -/
theorem newest_first (h : Plain.versions replies handle author name = .ok listed)
    (hconsistent : Version.Consistent (published replies handle author name)) :
    (listed.getD []).Pairwise fun newer older =>
      ∃ order, Version.compareTexts newer older = .ok order ∧ order ≠ .lt := by
  rw [Plain.versions] at h
  rw [published] at hconsistent
  cases hfound : (packageFound replies handle author name).value with
  | none =>
      rw [hfound] at h
      cases h
      exact List.Pairwise.nil
  | some package =>
      rw [hfound] at h hconsistent
      obtain ⟨sorted, hsorts, hsorted⟩ := Version.sortTexts_isSorted_of_consistent true hconsistent
      have hnewest : package.newestFirst = .ok sorted := hsorts
      dsimp only at h
      rw [hnewest] at h
      cases h
      exact hsorted.ordered

end Plain

/-- A position in a dependency belongs to no other one. -/
theorem Manifest.dependencyAt?_eq_some {text : String} {manifest : Manifest}
    (hparse : parse text = .ok manifest) {item : Realm × Dependency}
    (hitem : item ∈ manifest.dependencies.items) {position : Toml.Position}
    (hposition : item.2.span.contains position = true) :
    manifest.dependencyAt? position = some item := by
  obtain ⟨-, -, rfl⟩ := parse_eq_ok_iff.mp hparse
  have hsingle := (items_apart text.toList).imp fun hapart => hapart position
  exact (find?_eq_some_iff_of_pairwise hsingle).mpr ⟨hitem, hposition⟩

namespace Instant

open Registry (coherence cooling)

variable {answer replies : Request → Reply} {world : World Registry} {handle : Handle}
  {typing : Typing} {listed : Option (List String)}

/-- **Candidates.**  Let each request have one reply, and let the lookup for what is being typed in
a dependency list something at some time.  At every position in the dependency and at any time the
same is offered, and something is if the notices have a cooldown: exactly what is listed and starts
with what was typed.  Versions that are listed are those that were published, and they are offered
newest first if comparing any two of these gives the opposite the other way round. -/
theorem candidates_offered {text : String} {manifest : Manifest}
    (hparse : Manifest.parse text = .ok manifest) {item : Realm × Dependency}
    (hitem : item ∈ manifest.dependencies.items) {position : Toml.Position}
    (hposition : item.2.span.contains position = true)
    (hhandle : Handle.find? manifest.indexUrl = some handle)
    (htyping : Typing.Of item.2.text.toList typing)
    (hcoherence : world.Keeps (coherence answer replies)) {earlier : Instant Registry}
    (hearlier : earlier.state.Coherent answer replies)
    (hlisted : earlier.ended world (typing.lookup handle) = .ok listed) :
    ∃ offered,
      (∀ instant : Instant Registry, instant.state.Coherent answer replies →
        (∀ given, instant.ended world (Lookup.candidatesAt manifest position) = .ok given →
          given = offered) ∧
        (world.Keeps cooling → cooling.state instant.state →
          instant.ended world (Lookup.candidatesAt manifest position) = .ok offered)) ∧
      typing.Offers (listed.getD []) offered ∧
      ∀ author name typed, typing = .version author name typed →
        (listed.getD []).Perm (Plain.published replies handle author name) ∧
        (Version.Consistent (Plain.published replies handle author name) →
          offered.Pairwise fun newer older =>
            ∃ order, Version.compareTexts newer.label older.label = .ok order ∧ order ≠ .lt) := by
  have hat := Manifest.dependencyAt?_eq_some hparse hitem hposition
  have hspecifier : item.2.specifier.typing = typing := by
    rw [(Manifest.parse_formed hparse).specifier hitem]
    exact htyping.eq_typing
  have hplain : Plain.listed replies handle typing = .ok listed :=
    (settles_lookup handle typing).eq_of_ended hcoherence hearlier hlisted
  have hsettles : Settles (coherence answer replies) (· = .noCooldown)
      (Lookup.candidatesAt manifest position) (.ok (typing.candidates (listed.getD []))) :=
    settles_candidatesAt hat hhandle hspecifier hplain
  refine ⟨typing.candidates (listed.getD []), fun instant hcoherent => ⟨?_, ?_⟩,
    typing.offers_candidates _, ?_⟩
  · intro given hgiven
    exact (Except.ok.inj (hsettles.eq_of_ended hcoherence hcoherent hgiven)).symm
  · intro hcooling hcooldown
    have hbrowses : Lookup.Browses (fun _ => True) (Lookup.candidatesAt manifest position) :=
      Lookup.browses_candidatesAt (fun _ _ => trivial) manifest position
    exact ended_eq_of_settles hsettles hbrowses hcoherence hcooling hcoherent hcooldown
  · rintro author name typed rfl
    refine ⟨Plain.perm_published hplain, fun hconsistent => ?_⟩
    have hlabels : (((Typing.version author name typed).candidates (listed.getD [])).map
        (·.label)).Pairwise fun newer older =>
          ∃ order, Version.compareTexts newer older = .ok order ∧ order ≠ .lt := by
      rw [(Typing.offers_candidates _ _).labels]
      exact (Plain.newest_first hplain hconsistent).filter _
    exact List.pairwise_map.mp hlabels

end Instant

/-! ## A version that is being typed -/

namespace TypedVersion

open PassedOver (client entry line start)

/-- The replies of a host whose one package has published some versions. -/
def answer (versions : List String) (request : Request) : Reply :=
  match request.repository, request.idText with
  | "r", "main" => .ok (.found (.array [entry "a" "tree" "ta"]))
  | "r", "ta" => .ok (.found (.array [entry "b" "blob" "bb"]))
  | "r", "bb" => .ok (.found (.string (.join (versions.map line))))
  | _, _ => .ok { status := 404 }

/-- A manifest with one dependency. -/
def text (typed : String) : String :=
  "[package]\nregistry = \"https://github.com/o/r\"\n[dependencies]\nb = \"a/b@" ++ typed ++ "\"\n"

/-- What is read from the manifest. -/
def manifest (typed : String) : Manifest :=
  .ofTokens (Toml.scan (text typed).toList).tokens

theorem toList_text (typed : String) : (text typed).toList =
    "[package]\nregistry = \"https://github.com/o/r\"\n[dependencies]\nb = \"a/b@".toList
      ++ typed.toList ++ "\"\n".toList :=
  String.toList_append.trans (congrArg (· ++ _) String.toList_append)

variable {versions sorted : List String}

theorem packageFound_eq (versions : List String) :
    (Plain.packageFound (answer versions) client "a" "b").value =
      some ⟨"a", "b", Record.history (String.join (versions.map line)).toList⟩ := rfl

theorem published_eq
    (h : (Record.history (String.join (versions.map line)).toList).map (·.version) = versions) :
    Plain.published (answer versions) client "a" "b" = versions := by
  rw [Plain.published, packageFound_eq, Option.map_some, Option.getD_some,
    Index.Package.versionTexts, h]

/-- What is listed if the history has the published versions. -/
theorem listed_eq
    (h : (Record.history (String.join (versions.map line)).toList).map (·.version) = versions)
    (hsorted : Version.sortTexts true versions = .ok sorted) (typed : String) :
    Plain.listed (answer versions) client (.version "a" "b" typed) = .ok (some sorted) := by
  rw [Plain.listed, Plain.versions, packageFound_eq]
  dsimp only
  rw [Index.Package.newestFirst, h, hsorted]
  rfl

/-- What is offered then behind the version that is being typed. -/
theorem ended_candidatesAt
    (h : (Record.history (String.join (versions.map line)).toList).map (·.version) = versions)
    (hsorted : Version.sortTexts true versions = .ok sorted) {typed : String}
    (hread : (Handle.find? (manifest typed).indexUrl,
      ((manifest typed).dependencyAt? ⟨3, 8⟩).map (·.2.specifier.typing)) =
        (some client, some (.version "a" "b" typed))) :
    start.ended (.steady (answer versions)) (Lookup.candidatesAt (manifest typed) ⟨3, 8⟩) =
      .ok (Candidate.ofVersions typed sorted) := by
  obtain ⟨hhandle, hfound⟩ := Prod.mk.inj hread
  obtain ⟨item, hitem, htyping⟩ := Option.map_eq_some_iff.mp hfound
  have hbrowses : Lookup.Browses (fun _ => True) (Lookup.candidatesAt (manifest typed) ⟨3, 8⟩) :=
    Lookup.browses_candidatesAt (fun _ _ => trivial) _ _
  exact Instant.ended_eq_of_settles
    (Instant.settles_candidatesAt hitem hhandle htyping (listed_eq h hsorted typed)) hbrowses
    (World.keeps_coherence_steady (answer versions) (answer versions))
    (World.keeps_cooling_steady _)
    (Registry.coherent_new (answer versions) {} (some defaultCooldown) none) rfl

end TypedVersion

open TypedVersion PassedOver in
/-- Of four versions those that start with `1.` are offered, newest first. -/
theorem candidates_of_versions :
    let versions := ["1.0.0-rc.09", "2.0.0", "1.0.0", "1.0.0-rc.10"]
    ∃ offered,
      start.ended (.steady (answer versions))
        (Lookup.candidatesAt (manifest "1.") ⟨3, 8⟩) = .ok offered ∧
      offered.map (·.label) = ["1.0.0", "1.0.0-rc.10", "1.0.0-rc.09"] ∧
      offered.Pairwise fun newer older =>
        ∃ order, Version.compareTexts newer.label older.label = .ok order ∧ order ≠ .lt := by
  intro versions
  have hhistory : (Record.history (String.join (versions.map line)).toList).map (·.version) =
      versions := by
    rw [toList_lines, String.toList_ofList, String.toList_ofList]
    decide +kernel
  have hscan : (Toml.scan (text "1.").toList).errors = [] ∧
      (Toml.scan (text "1.").toList).tokens ≠ [] := by
    rw [toList_text, String.toList_ofList, String.toList_ofList, String.toList_ofList]
    decide +kernel
  have hparse : Manifest.parse (text "1.") = .ok (manifest "1.") :=
    Manifest.parse_eq_ok_iff.mpr ⟨hscan.1, hscan.2, rfl⟩
  have hread : (Handle.find? (manifest "1.").indexUrl,
      ((manifest "1.").dependencyAt? ⟨3, 8⟩).map (·.2.text)) = (some client, some "a/b@1.") := by
    rw [manifest, toList_text, String.toList_ofList, String.toList_ofList, String.toList_ofList]
    decide +kernel
  obtain ⟨hhandle, hfound⟩ := Prod.mk.inj hread
  obtain ⟨item, hitem, htext⟩ := Option.map_eq_some_iff.mp hfound
  have hposition : item.2.span.contains ⟨3, 8⟩ = true :=
    List.find?_some (p := fun item : Realm × Dependency => item.2.span.contains ⟨3, 8⟩) hitem
  have htyping : Typing.Of item.2.text.toList (.version "a" "b" "1.") := by
    rw [htext]
    exact Typing.of_iff.mpr (by decide)
  have hcoherence := World.keeps_coherence_steady (answer versions) (answer versions)
  have hcooling := World.keeps_cooling_steady (answer versions)
  have hcoherent : start.state.Coherent (answer versions) (answer versions) :=
    Registry.coherent_new (answer versions) {} (some defaultCooldown) none
  have hlisted : start.ended (.steady (answer versions))
      (Typing.lookup client (.version "a" "b" "1.")) =
        .ok (some ["2.0.0", "1.0.0", "1.0.0-rc.10", "1.0.0-rc.09"]) := by
    have hbrowses : Lookup.Browses (fun _ => True)
        (Typing.lookup client (.version "a" "b" "1.")) :=
      Lookup.browses_versions client "a" "b" fun _ _ => trivial
    rw [Instant.ended_eq_of_settles (Instant.settles_lookup client _) hbrowses hcoherence hcooling
      hcoherent rfl]
    exact listed_eq hhistory (eq_ok_of_toOption (by decide +kernel)) "1."
  obtain ⟨offered, hended, hoffers, hversions⟩ :=
    Instant.candidates_offered hparse (List.mem_of_find?_eq_some hitem) hposition hhandle htyping
      hcoherence hcoherent hlisted
  have hconsistent : Version.Consistent (Plain.published (answer versions) client "a" "b") := by
    rw [published_eq hhistory]
    decide
  refine ⟨offered, ?_, ?_, (hversions "a" "b" "1." rfl).2 hconsistent⟩
  · exact (hended start hcoherent).2 hcooling rfl
  · rw [hoffers.labels]
    decide

open TypedVersion PassedOver in
/-- Two spellings of one number stand between two versions, and the older one is offered first. -/
theorem older_version_offered_first :
    let versions := ["1.0.0-1.3", "1.0.0-01.4", "1.0.0-1.5"]
    start.ended (.steady (answer versions)) (Lookup.candidatesAt (manifest "1.0.0-1") ⟨3, 8⟩) =
        .ok [⟨"1.0.0-1.3", .version, ".3", "00000"⟩, ⟨"1.0.0-1.5", .version, ".5", "00001"⟩] ∧
      Version.compareTexts "1.0.0-1.3" "1.0.0-1.5" = .ok .lt := by
  intro versions
  have hhistory : (Record.history (String.join (versions.map line)).toList).map (·.version) =
      versions := by
    rw [toList_lines, String.toList_ofList, String.toList_ofList]
    decide +kernel
  have hsorted : Version.sortTexts true versions =
      .ok ["1.0.0-1.3", "1.0.0-01.4", "1.0.0-1.5"] := by
    decide +kernel
  have hread : (Handle.find? (manifest "1.0.0-1").indexUrl,
      ((manifest "1.0.0-1").dependencyAt? ⟨3, 8⟩).map (·.2.specifier.typing)) =
        (some client, some (.version "a" "b" "1.0.0-1")) := by
    rw [manifest, toList_text, String.toList_ofList, String.toList_ofList, String.toList_ofList]
    decide +kernel
  rw [ended_candidatesAt hhistory hsorted hread]
  decide

end ManifestLint
