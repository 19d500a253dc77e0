import ManifestLint.Proofs.Manifest.Specifiers
import ManifestLint.Proofs.Version.Writing

/-!
# Releases found in texts

A release that is found in a text starts at the first ASCII digit of it.  In front of the version
that a requirement is anchored on there stand blanks, an operator and perhaps a `v`, none of which
has a digit, and behind it there are blanks only.  So what is found in a requirement are the three
numbers of its anchor: the two ways to read a requirement never disagree.

* `readRelease_eq`: looking ahead for a digit behind a point changes nothing.
* `coerced?_of_anchor?`: what is found in a requirement.
-/

namespace ManifestLint.Version

open ManifestLint.Text

variable {c : Char} {text rest back : List Char}

/-! ## Numbers in front of something else -/

theorem readNumber?_eq_none (h : ∀ c ∈ text.head?, c.isDigit = false) : readNumber? text = none := by
  have htake : ([] ++ text).takeWhile Char.isDigit = [] := (span_append (by simp) h).1
  rw [List.nil_append] at htake
  rw [readNumber?, List.span_eq_takeWhile_dropWhile, htake]

theorem exists_of_readNumber?_eq_none (h : readNumber? text = none) :
    ∀ c ∈ text.head?, c.isDigit = false := by
  intro c hc
  cases text with
  | nil => cases hc
  | cons first more =>
      obtain rfl : first = c := Option.some.inj hc
      by_contra hdigit
      rw [readNumber?, List.span_eq_takeWhile_dropWhile,
        List.takeWhile_cons_of_pos (eq_true_of_ne_false hdigit)] at h
      cases h

/-- What stands behind a text does not change its first number, unless it goes on with it. -/
theorem readNumber?_append_right (hback : ∀ c ∈ back.head?, c.isDigit = false) (text : List Char) :
    readNumber? (text ++ back) =
      (readNumber? text).map fun found => (found.1, found.2 ++ back) := by
  have hinside : ∀ c ∈ text.takeWhile Char.isDigit, c.isDigit = true := fun c hc =>
    List.all_eq_true.mp List.all_takeWhile c hc
  have hstop : ∀ c ∈ (text.dropWhile Char.isDigit ++ back).head?, c.isDigit = false := by
    intro c hc
    rw [List.head?_append] at hc
    rcases Option.or_eq_some_iff.mp hc with hrest | ⟨-, hbehind⟩
    · have hnot := List.head?_dropWhile_not Char.isDigit text
      rw [hrest] at hnot
      simpa using hnot
    · exact hback c hbehind
  obtain ⟨htake, hdrop⟩ := span_append hinside hstop
  rw [← List.append_assoc, List.takeWhile_append_dropWhile] at htake hdrop
  rw [readNumber?, readNumber?, List.span_eq_takeWhile_dropWhile,
    List.span_eq_takeWhile_dropWhile, htake, hdrop]
  cases text.takeWhile Char.isDigit <;> rfl

/-- A number, and behind a point the others. -/
theorem fst_readNumbers (count : Nat) (text : List Char) :
    (readNumbers (count + 1) text).1 = (readNumber? text).elim [] fun found =>
      found.1 :: if found.2.head? = some '.' then (readNumbers count found.2.tail).1 else [] := by
  rw [readNumbers]
  split
  · next hread => rw [hread, Option.elim_none]
  · next number rest hread =>
      rw [hread, Option.elim_some, if_pos List.head?_cons]
      split
      · next hlast =>
          subst hlast
          rfl
      · rfl
  · next number rest hother hread =>
      have hpoint : rest.head? ≠ some '.' := by
        intro hpoint
        obtain ⟨more, rfl⟩ := List.head?_eq_some_iff.mp hpoint
        exact hother more rfl
      rw [hread, Option.elim_some, if_neg hpoint]

theorem fst_readNumbers_eq_nil (count : Nat) (h : ∀ c ∈ text.head?, c.isDigit = false) :
    (readNumbers count text).1 = [] := by
  cases count with
  | zero => rfl
  | succ count => rw [fst_readNumbers, readNumber?_eq_none h, Option.elim_none]

/-- Looking ahead for a digit behind a point changes nothing: without one there is no number. -/
theorem readRelease_eq (count : Nat) (text : List Char) :
    readRelease count text = (readNumbers count text).1 := by
  induction count generalizing text with
  | zero => rfl
  | succ count ih =>
      rw [fst_readNumbers, readRelease]
      split
      · next hread => rw [hread, Option.elim_none]
      · next number c rest hread =>
          rw [hread, Option.elim_some, if_pos List.head?_cons, List.tail_cons]
          split
          · rw [ih]
          · next hother =>
              have hnone : ∀ d ∈ (c :: rest).head?, d.isDigit = false := by
                rintro d ⟨⟩
                by_contra hdigit
                have hascii := isAscii_of_isDigit (eq_true_of_ne_false hdigit)
                exact hother ((digits_of_ascii hascii).2.trans (eq_true_of_ne_false hdigit))
              rw [fst_readNumbers_eq_nil count hnone]
      · next number rest hother hread =>
          rw [hread, Option.elim_some]
          split
          · next hpoint =>
              obtain ⟨more, rfl⟩ := List.head?_eq_some_iff.mp hpoint
              cases more with
              | nil => rw [List.tail_cons, fst_readNumbers_eq_nil count (by rintro c ⟨⟩)]
              | cons c others => exact absurd rfl (hother c others)
          · rfl

/-- What stands behind a text does not change its numbers, unless it goes on with them. -/
theorem readNumbers_append (hback : ∀ c ∈ back.head?, c.isDigit = false ∧ c ≠ '.') (count : Nat)
    (text : List Char) : (readNumbers count (text ++ back)).1 = (readNumbers count text).1 := by
  have hnone : ∀ c ∈ back.head?, c.isDigit = false := fun c hc => (hback c hc).1
  induction count generalizing text with
  | zero => rfl
  | succ count ih =>
      rw [fst_readNumbers, fst_readNumbers, readNumber?_append_right hnone]
      cases readNumber? text with
      | none => rfl
      | some found =>
          obtain ⟨number, rest⟩ := found
          simp only [Option.map_some, Option.elim_some]
          cases rest with
          | nil =>
              have hpoint : back.head? ≠ some '.' := fun hpoint => (hback '.' hpoint).2 rfl
              rw [List.nil_append, if_neg hpoint, if_neg (by simp)]
          | cons c more =>
              rw [List.cons_append, List.head?_cons, List.head?_cons, List.tail_cons,
                List.tail_cons, ih]

/-! ## What stands around an anchor -/

theorem exists_dropV (text : List Char) :
    ∃ lead, text = lead ++ dropV text ∧ ∀ c ∈ lead, c.isDigit = false := by
  unfold dropV
  split
  · exact ⟨['v'], rfl, List.forall_mem_singleton.mpr (by decide)⟩
  · exact ⟨['V'], rfl, List.forall_mem_singleton.mpr (by decide)⟩
  · exact ⟨[], rfl, by simp⟩

theorem not_isDigit_of_isBlank (h : isBlank c = true) : c.isDigit = false ∧ c ≠ '.' := by
  constructor
  · by_contra hdigit
    have hinside := isIdentifierChar_of_isDigit (eq_true_of_ne_false hdigit)
    rw [not_isBlank_of_isIdentifierChar hinside] at h
    cases h
  · rintro rfl
    exact absurd h (by decide)

/-- In front of the anchor of a requirement stands no digit, and behind it there are blanks. -/
theorem exists_around_anchor (requirement : List Char) :
    ∃ front back, requirement =
        front ++ (dropV (trim isBlank (splitOperator requirement).2) ++ back) ∧
      (∀ c ∈ front, c.isDigit = false) ∧ ∀ c ∈ back, c.isDigit = false ∧ c ≠ '.' := by
  obtain ⟨spelling, hspelling, rest, htrim, hanchor, -⟩ := consists_splitOperator requirement
  obtain ⟨lead, trail, hrequirement, hlead, htrail⟩ := exists_trimmed isBlank requirement
  obtain ⟨middle, last, hrest, hmiddle, hlast⟩ := exists_trimmed isBlank rest
  obtain ⟨start, hstart, hdigits⟩ := exists_dropV (trim isBlank rest)
  have hsame : trim isBlank (splitOperator requirement).2 = trim isBlank rest := by
    rw [hanchor, trim_of_bare (bare_trim isBlank rest)]
  refine ⟨lead ++ (spelling ++ (middle ++ start)), last ++ trail, ?_, ?_, ?_⟩
  · calc requirement
        = lead ++ (spelling ++ rest ++ trail) := by rw [← htrim]; exact hrequirement
      _ = lead ++ (spelling ++ (middle ++ (trim isBlank rest ++ last)) ++ trail) := by rw [← hrest]
      _ = lead ++ (spelling ++ (middle ++ (start ++ dropV (trim isBlank rest) ++ last)) ++ trail) :=
          by rw [← hstart]
      _ = _ := by simp [hsame]
  · simp only [List.forall_mem_append]
    exact ⟨fun c hc => (not_isDigit_of_isBlank (hlead c hc)).1,
      fun c hc => (char_of_spelling hspelling hc).1,
      fun c hc => (not_isDigit_of_isBlank (hmiddle c hc)).1, hdigits⟩
  · simp only [List.forall_mem_append]
    exact ⟨fun c hc => not_isDigit_of_isBlank (hlast c hc),
      fun c hc => not_isDigit_of_isBlank (htrail c hc)⟩

/-! ## Finding -/

/-- The numbers of a version that was read. -/
theorem of_parseChars? {v : Version} (h : parseChars? text = some v) :
    ∃ more, (readNumbers 3 (dropV (trim isBlank text))).1 = v.major :: more ∧
      v.minor = more[0]?.getD 0 ∧ v.patch = more[1]?.getD 0 := by
  rw [parseChars?] at h
  split at h
  · cases h
  · next major more rest hread =>
      cases h
      exact ⟨more, congrArg Prod.fst hread, rfl, rfl⟩

/-- A release is found just where a digit is. -/
theorem coercedChars?_eq_none_iff :
    coercedChars? text = none ↔ ∀ c ∈ text, c.isDigit = false := by
  have hfirst : (∀ c ∈ (text.dropWhile fun c => !c.isDigit).head?, c.isDigit = false) ↔
      ∀ c ∈ text, c.isDigit = false := by
    constructor
    · intro h
      cases hdrop : text.dropWhile fun c => !c.isDigit with
      | nil =>
          intro c hc
          simpa using List.dropWhile_eq_nil_iff.mp hdrop c hc
      | cons c rest =>
          have hnot := List.head?_dropWhile_not (fun c => !c.isDigit) text
          rw [hdrop] at hnot h
          simp [h c rfl] at hnot
    · intro h c hc
      exact h c (List.dropWhile_subset _ (List.mem_of_mem_head? hc))
  rw [coercedChars?, readRelease_eq, ← hfirst, fst_readNumbers]
  cases hread : readNumber? (text.dropWhile fun c => !c.isDigit) with
  | none =>
      refine ⟨fun _ => exists_of_readNumber?_eq_none hread, fun _ => rfl⟩
  | some found =>
      refine ⟨fun h => ?_, fun h => ?_⟩
      · cases h
      · rw [readNumber?_eq_none h] at hread
        cases hread

/-- **In a requirement** the numbers of its anchor are found. -/
theorem coercedChars?_of_anchor {v : Version}
    (h : parseChars? (splitOperator text).2 = some v) :
    coercedChars? text = some [v.major, v.minor, v.patch] := by
  obtain ⟨more, hnumbers, hminor, hpatch⟩ := of_parseChars? h
  obtain ⟨front, back, htext, hfront, hback⟩ := exists_around_anchor text
  generalize dropV (trim isBlank (splitOperator text).2) = anchor at hnumbers htext
  have hdigit : ∃ first rest, anchor = first :: rest ∧ first.isDigit = true := by
    by_contra hnone
    rw [fst_readNumbers_eq_nil] at hnumbers
    · cases hnumbers
    · intro c hc
      obtain ⟨rest, rfl⟩ := List.head?_eq_some_iff.mp hc
      by_contra hdigit
      exact hnone ⟨c, rest, rfl, eq_true_of_ne_false hdigit⟩
  obtain ⟨first, rest, hanchor, hfirst⟩ := hdigit
  have hfound : (text.dropWhile fun c => !c.isDigit) = anchor ++ back := by
    rw [htext, List.dropWhile_append_of_pos (fun c hc => by rw [hfront c hc]; rfl),
      dropWhile_eq_self_of_head?]
    rw [hanchor]
    rintro c ⟨⟩
    rw [hfirst]
    rfl
  rw [coercedChars?, readRelease_eq, hfound,
    readNumbers_append (fun c hc => hback c (List.mem_of_mem_head? hc)), hnumbers, hminor, hpatch]

/-- A text that denotes a version is a requirement without an operator, anchored on the version. -/
theorem anchor?_of_parse? {text : String} {v : Version} (h : parse? text = some v) :
    anchor? text = some v := by
  obtain ⟨more, hnumbers, -, -⟩ := of_parseChars? h
  obtain ⟨spelling, hspelling, rest, htrim, hanchor, -⟩ := consists_splitOperator text.toList
  have hnone : spelling = [] := by
    cases spelling with
    | nil => rfl
    | cons c others =>
        have hsign : ∀ d ∈ (dropV (c :: (others ++ rest))).head?, d.isDigit = false := by
          have hkept : dropV (c :: (others ++ rest)) = c :: (others ++ rest) := by
            have hletter : c ≠ 'v' ∧ c ≠ 'V' := by
              generalize (splitOperator text.toList).1 = operator at hspelling
              cases operator <;> simp [Operator.spellings] at hspelling <;> simp [hspelling]
            rw [dropV] <;> simp [hletter]
          rw [hkept]
          rintro d ⟨⟩
          exact (char_of_spelling hspelling List.mem_cons_self).1
        rw [htrim, List.cons_append, fst_readNumbers_eq_nil 3 hsign] at hnumbers
        cases hnumbers
  rw [hnone, List.nil_append] at htrim
  have hsame : trim isBlank (splitOperator text.toList).2 = trim isBlank text.toList := by
    rw [hanchor, ← htrim, trim_of_bare (bare_trim isBlank text.toList),
      trim_of_bare (bare_trim isBlank text.toList)]
  rw [anchor?, parseChars?, hsame]
  exact h

/-- The text of a release. -/
theorem intercalate_numbers (major minor patch : Nat) :
    ".".intercalate ([major, minor, patch].map toString) = s!"{major}.{minor}.{patch}" := by
  rw [← String.toList_inj, String.toList_intercalate]
  simp [toString]

theorem coerced?_of_anchor? {requirement : String} {v : Version}
    (h : anchor? requirement = some v) :
    coerced? requirement = some s!"{v.major}.{v.minor}.{v.patch}" := by
  rw [coerced?, coercedChars?_of_anchor h, Option.map_some, intercalate_numbers]

theorem coerced?_eq_none_iff {text : String} :
    coerced? text = none ↔ ∀ c ∈ text.toList, c.isDigit = false := by
  rw [coerced?, Option.map_eq_none_iff, coercedChars?_eq_none_iff]

/-- What is found is the text of a release. -/
theorem exists_of_coerced? {text found : String} (h : coerced? text = some found) :
    ∃ major minor patch : Nat, found = s!"{major}.{minor}.{patch}" := by
  obtain ⟨numbers, hnumbers, rfl⟩ := Option.map_eq_some_iff.mp h
  rw [coercedChars?] at hnumbers
  split at hnumbers
  · cases hnumbers
  · next major more hread =>
      cases hnumbers
      exact ⟨major, more[0]?.getD 0, more[1]?.getD 0, intercalate_numbers ..⟩

/-- The text of a release is a full form and the anchor of a requirement. -/
theorem release_read_back (major minor patch : Nat) :
    isStrict s!"{major}.{minor}.{patch}" = true ∧
      parse? s!"{major}.{minor}.{patch}" = some ⟨major, minor, patch, "", ""⟩ ∧
      anchor? s!"{major}.{minor}.{patch}" = some ⟨major, minor, patch, "", ""⟩ := by
  let release : Version := ⟨major, minor, patch, "", ""⟩
  have htext : release.text = s!"{major}.{minor}.{patch}" := by simp [release, Version.text]
  have hread : parse? release.text = some release := parse?_text isDotted_empty isDotted_empty
  have hsplit : splitOperator ([] ++ ([] ++ ([] ++ (release.text.toList ++ [])))) =
      (.caret, release.text.toList) :=
    splitOperator_text isDotted_empty isDotted_empty (by decide) (by simp)
  simp only [List.nil_append, List.append_nil] at hsplit
  rw [← htext]
  refine ⟨isStrict_text isDotted_empty isDotted_empty, hread, ?_⟩
  rw [anchor?_eq rfl hsplit, ← parse?]
  exact hread

/-- What a specifier holds ready is what is found in its requirement. -/
theorem coerced_parse (typed : String) :
    (Specifier.parse typed).coerced =
      (coerced? (Specifier.parse typed).requirement).getD "" := by
  have htells := Specifier.tells_ofChars typed.toList
  rw [Specifier.parse]
  generalize typed.toList = chars at htells ⊢
  generalize Specifier.ofChars chars = parts at htells ⊢
  cases htells <;> rfl

/-- **Finding.**  A release is found in every text that has an ASCII digit.  It is a full form, and
it is found in itself.  In a requirement with an anchor the numbers of the anchor are found, so what
a specifier holds ready is the anchor of its requirement without tag and metadata. -/
theorem found_release_reads_anchor (text : String) :
    (coerced? text = none ↔ ∀ c ∈ text.toList, c.isDigit = false) ∧
    (∀ found, coerced? text = some found →
      (∃ major minor patch : Nat, found = s!"{major}.{minor}.{patch}") ∧
        isStrict found = true ∧ coerced? found = some found) ∧
    (∀ v, anchor? text = some v → coerced? text = some s!"{v.major}.{v.minor}.{v.patch}") ∧
    ∀ typed v, (Specifier.parse typed).requirement = text → anchor? text = some v →
      (Specifier.parse typed).coerced = s!"{v.major}.{v.minor}.{v.patch}" ∧
        parse? (Specifier.parse typed).coerced = some { v with prerelease := "", build := "" } := by
  refine ⟨coerced?_eq_none_iff, fun found hfound => ?_, fun v hanchor => coerced?_of_anchor? hanchor,
    fun typed v htyped hanchor => ?_⟩
  · obtain ⟨major, minor, patch, rfl⟩ := exists_of_coerced? hfound
    obtain ⟨hstrict, -, hanchor⟩ := release_read_back major minor patch
    have hself := coerced?_of_anchor? hanchor
    exact ⟨⟨major, minor, patch, rfl⟩, hstrict, hself⟩
  · have hready : (Specifier.parse typed).coerced = s!"{v.major}.{v.minor}.{v.patch}" := by
      rw [coerced_parse, htyped, coerced?_of_anchor? hanchor, Option.getD_some]
    refine ⟨hready, ?_⟩
    rw [hready]
    exact (release_read_back v.major v.minor v.patch).2.1

/-- A requirement that is not finished, with blanks around its operator and a digit of another
script behind its last point. -/
theorem found_release_in_requirement :
    coerced? " >= v1.2.\u0663" = some "1.2.0" ∧
      (Specifier.parse "a/b@ >= v1.2.\u0663").requirement = " >= v1.2.\u0663" ∧
      anchor? " >= v1.2.\u0663" = some ⟨1, 2, 0, "", ""⟩ ∧
      (Specifier.parse "a/b@ >= v1.2.\u0663").coerced = "1.2.0" := by
  have hfound := found_release_reads_anchor " >= v1.2.\u0663"
  have hanchor : anchor? " >= v1.2.\u0663" = some ⟨1, 2, 0, "", ""⟩ := by decide
  have htyped : (Specifier.parse "a/b@ >= v1.2.\u0663").requirement = " >= v1.2.\u0663" := by
    decide
  exact ⟨hfound.2.2.1 _ hanchor, htyped, hanchor, (hfound.2.2.2 _ _ htyped hanchor).1⟩

end ManifestLint.Version
