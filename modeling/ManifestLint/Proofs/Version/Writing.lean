import ManifestLint.Proofs.Version.Ranges
import ManifestLint.Proofs.Version.Spelling

/-!
# Writing versions and reading them back

A version is written in its full form.  The lenient reader reads a full form of ASCII as what it
says, and an operator in front of it is found whatever blanks stand around, so that every version
whose tag and metadata are rows of identifiers is found again in its text and in requirements.

What the strict reader takes beyond the grammar of semantic versions is not read back: it has a
digit of another script, where the lenient reader stops.  Zeros in front of the numbers of a tag
are kept.

* `Form.Obeys.parseChars?_text`, `Form.Obeys.text_version`: reading a form and writing it.
* `splitOperator_padded`: an operator and a text with blanks around them.
* `written_version_read_back`: versions are read back.
* `isStrict_iff_wide_form`: the strict reader beside the grammar of semantic versions.
-/

namespace ManifestLint.Version

open ManifestLint.Text

variable {c : Char} {digits rest text : List Char} {identifiers : List (List Char)}

/-! ## What a form says -/

theorem mem_marked {mark : Char} (h : c ∈ marked mark identifiers) :
    c = mark ∨ c = '.' ∨ ∃ part ∈ identifiers, c ∈ part := by
  cases identifiers with
  | nil => cases h
  | cons first more => exact (List.mem_cons.mp h).imp_right mem_dotted

/-- A form of ASCII is made of letters, digits, hyphens, points and plus signs. -/
theorem Form.Obeys.of_mem_text {form : Form} (h : form.Obeys IsNumber IsIdentifier)
    (hc : c ∈ form.text) : isIdentifierChar c = true ∨ c = '.' ∨ c = '+' := by
  have hnumber {digits : List Char} (hdigits : IsNumber digits) (hmem : c ∈ digits) :
      isIdentifierChar c = true :=
    isIdentifierChar_of_isDigit (hdigits.2.1 c hmem)
  have hmarked {mark : Char} {identifiers : List (List Char)}
      (hall : ∀ part ∈ identifiers, IsIdentifier part) (hmem : c ∈ marked mark identifiers) :
      isIdentifierChar c = true ∨ c = '.' ∨ c = mark := by
    rcases mem_marked hmem with hmark | hpoint | ⟨part, hpart, hinside⟩
    · exact .inr (.inr hmark)
    · exact .inr (.inl hpoint)
    · exact .inl ((hall part hpart).2 c hinside)
  simp only [Form.text, List.mem_append, List.mem_cons] at hc
  rcases hc with hmajor | hpoint | hminor | hpoint | hpatch | htag | hmetadata
  · exact .inl (hnumber h.major hmajor)
  · exact .inr (.inl hpoint)
  · exact .inl (hnumber h.minor hminor)
  · exact .inr (.inl hpoint)
  · exact .inl (hnumber h.patch hpatch)
  · rcases hmarked h.tag htag with hinside | hpoint | rfl
    · exact .inl hinside
    · exact .inr (.inl hpoint)
    · exact .inl (by decide)
  · exact hmarked h.metadata hmetadata

theorem Form.Obeys.ascii {form : Form} (h : form.Obeys IsNumber IsIdentifier) :
    ∀ c ∈ form.text, isAscii c = true := by
  intro c hc
  rcases h.of_mem_text hc with hinside | rfl | rfl
  · exact isAscii_of_isIdentifierChar hinside
  · decide
  · decide

theorem Form.Obeys.not_isBlank {form : Form} (h : form.Obeys IsNumber IsIdentifier) :
    ∀ c ∈ form.text, isBlank c = false := by
  intro c hc
  rcases h.of_mem_text hc with hinside | rfl | rfl
  · exact not_isBlank_of_isIdentifierChar hinside
  · decide
  · decide

theorem Form.Obeys.bare {form : Form} (h : form.Obeys IsNumber IsIdentifier) :
    Bare isBlank form.text where
  first := fun c hc => h.not_isBlank c (List.mem_of_mem_head? hc)
  last := fun c hc => h.not_isBlank c (List.mem_of_getLast? hc)

/-- A form starts with a digit. -/
theorem Form.Obeys.exists_cons {form : Form} (h : form.Obeys IsNumber IsIdentifier) :
    ∃ first more, form.text = first :: more ∧ first.isDigit = true := by
  obtain ⟨first, more, hmajor⟩ := List.exists_cons_of_ne_nil h.major.1
  refine ⟨first, _, by rw [Form.text, hmajor, List.cons_append], ?_⟩
  exact h.major.2.1 first (hmajor ▸ List.mem_cons_self)

theorem dropV_of_isDigit (h : c.isDigit = true) : dropV (c :: rest) = c :: rest := by
  unfold dropV
  split
  · next hv =>
      obtain ⟨rfl, -⟩ := List.cons.inj hv
      cases h
  · next hv =>
      obtain ⟨rfl, -⟩ := List.cons.inj hv
      cases h
  · rfl

theorem readNumber?_append (h : IsNumber digits)
    (hrest : ∀ c ∈ rest.head?, c.isDigit = false) :
    readNumber? (digits ++ rest) = some (Nat.ofDigitChars 10 digits 0, rest) := by
  obtain ⟨htake, hdrop⟩ := span_append h.2.1 hrest
  rw [readNumber?, List.span_eq_takeWhile_dropWhile, htake, hdrop]
  obtain ⟨first, more, rfl⟩ := List.exists_cons_of_ne_nil h.1
  rfl

/-- The last number is read whatever stands behind it. -/
theorem readNumbers_one {number : Nat} (h : readNumber? text = some (number, rest)) :
    readNumbers 1 text = ([number], rest) := by
  rw [readNumbers, h]
  split
  · next hnone => cases hnone
  · next hsome =>
      cases hsome
      exact if_pos rfl
  · next hsome =>
      cases hsome
      rfl

/-- Behind the point of a number that is not the last one the next number is read. -/
theorem readNumbers_point {number : Nat} (count : Nat)
    (h : readNumber? text = some (number, '.' :: rest)) :
    readNumbers (count + 2) text =
      (number :: (readNumbers (count + 1) rest).1, (readNumbers (count + 1) rest).2) := by
  rw [readNumbers, h]
  exact if_neg (Nat.succ_ne_zero count)

/-- The lenient reader reads the numbers of a form. -/
theorem Form.Obeys.readNumbers_text {form : Form} (h : form.Obeys IsNumber IsIdentifier) :
    readNumbers 3 form.text =
      ([form.version.major, form.version.minor, form.version.patch],
        marked '-' form.tag ++ marked '+' form.metadata) := by
  have hpoint (more : List Char) : ∀ c ∈ ('.' :: more).head?, c.isDigit = false := by
    rintro c ⟨⟩
    decide
  have hmark : ∀ c ∈ (marked '-' form.tag ++ marked '+' form.metadata).head?,
      c.isDigit = false := by
    intro c hc
    by_contra hdigit
    have hdecimal := (digits_of_ascii (isAscii_of_isDigit (eq_true_of_ne_false hdigit))).1
    rw [form.not_isDecimal_of_head? hc] at hdecimal
    exact hdigit hdecimal.symm
  have hlast := readNumbers_one (readNumber?_append h.patch hmark)
  rw [Form.text, readNumbers_point 1 (readNumber?_append h.major (hpoint _)),
    readNumbers_point 0 (readNumber?_append h.minor (hpoint _)), hlast]
  rfl

theorem readTags_marked {tag metadata : List (List Char)} (h : ∀ part ∈ tag, IsIdentifier part) :
    readTags (marked '-' tag ++ marked '+' metadata) = (dotted tag, dotted metadata) := by
  cases tag with
  | nil => cases metadata <;> rfl
  | cons first more =>
      have hplus : ∀ c ∈ dotted (first :: more), decide (c ≠ '+') = true := by
        intro c hc
        rcases mem_dotted hc with rfl | ⟨part, hpart, hmem⟩
        · decide
        · refine decide_eq_true fun hsame => ?_
          subst hsame
          exact absurd ((h part hpart).2 '+' hmem) (by decide)
      have hstop : ∀ c ∈ (marked '+' metadata).head?, decide (c ≠ '+') = false := by
        intro c hc
        rw [head?_marked hc]
        rfl
      obtain ⟨htake, hdrop⟩ := span_append hplus hstop
      change readTags ('-' :: (dotted (first :: more) ++ marked '+' metadata)) = _
      rw [readTags, htake, hdrop]
      cases metadata <;> rfl

/-- **Reading.**  The lenient reader reads a form of ASCII as what it says. -/
theorem Form.Obeys.parseChars?_text {form : Form} (h : form.Obeys IsNumber IsIdentifier) :
    parseChars? form.text = some form.version := by
  obtain ⟨first, more, hfirst, hdigit⟩ := h.exists_cons
  have hwhole : dropV (trim isBlank form.text) = form.text := by
    rw [trim_of_bare h.bare, hfirst, dropV_of_isDigit hdigit]
  rw [parseChars?, hwhole, h.readNumbers_text]
  dsimp only
  rw [readTags_marked h.tag]
  rfl

/-! ## What is written -/

/-- The tag and the metadata of a version behind their marks. -/
def tail (v : Version) : List Char :=
  (if v.prerelease = "" then [] else '-' :: v.prerelease.toList) ++
    (if v.build = "" then [] else '+' :: v.build.toList)

theorem toList_text (v : Version) : v.text.toList =
    Nat.toDigits 10 v.major ++ '.' :: (Nat.toDigits 10 v.minor ++ '.' ::
      (Nat.toDigits 10 v.patch ++ v.tail)) := by
  have hmark (mark text : String) : (if text = "" then "" else mark ++ text).toList =
      if text = "" then [] else mark.toList ++ text.toList := by
    split
    · rfl
    · rw [String.toList_append]
  rw [Version.text, String.toList_append, String.toList_append, hmark, hmark, tail]
  simp [toString]

theorem marked_eq (mark : Char) (h : ∀ part ∈ identifiers, IsIdentifier part) :
    (if String.ofList (dotted identifiers) = "" then []
      else mark :: (String.ofList (dotted identifiers)).toList) = marked mark identifiers := by
  have hempty : String.ofList (dotted identifiers) = "" ↔ identifiers = [] := by
    rw [← dotted_eq_nil_iff h, ← String.toList_inj, String.toList_ofList]
    rfl
  rw [String.toList_ofList]
  cases identifiers with
  | nil => rfl
  | cons first more => exact if_neg fun hnone => absurd (hempty.mp hnone) (List.cons_ne_nil _ _)

/-- **Writing.**  What a form says is written as that form. -/
theorem Form.Obeys.text_version {form : Form} (h : form.Obeys IsNumber IsIdentifier) :
    form.version.text.toList = form.text := by
  rw [toList_text, tail, Form.version, marked_eq '-' h.tag, marked_eq '+' h.metadata,
    toDigits_ofDigitChars h.major, toDigits_ofDigitChars h.minor, toDigits_ofDigitChars h.patch,
    Form.text]

/-- The tag or the metadata is a row of identifiers, or empty. -/
def IsDotted (text : String) : Prop :=
  ∃ identifiers : List (List Char), (∀ part ∈ identifiers, IsIdentifier part) ∧
    text.toList = dotted identifiers

/-- A version whose tag and metadata are rows of identifiers is what some form says. -/
theorem exists_form {v : Version} (hprerelease : IsDotted v.prerelease)
    (hbuild : IsDotted v.build) :
    ∃ form : Form, form.Obeys IsNumber IsIdentifier ∧ form.version = v := by
  obtain ⟨major, minor, patch, prerelease, build⟩ := v
  obtain ⟨tag, htag, hprerelease⟩ := hprerelease
  obtain ⟨metadata, hmetadata, hbuild⟩ := hbuild
  refine ⟨⟨Nat.toDigits 10 major, Nat.toDigits 10 minor, Nat.toDigits 10 patch, tag, metadata⟩,
    ⟨isNumber_toDigits major, isNumber_toDigits minor, isNumber_toDigits patch, htag,
      hmetadata⟩, ?_⟩
  simp [Form.version, ← hprerelease, ← hbuild,
    Nat.ofDigitChars_toDigits (b := 10) (by decide) (by decide)]

theorem isDotted_empty : IsDotted "" := ⟨[], by simp, rfl⟩

/-! ## Operators in front -/

theorem char_of_spelling {operator : Operator} {spelling : List Char}
    (h : spelling ∈ operator.spellings) (hc : c ∈ spelling) :
    c.isDigit = false ∧ isBlank c = false := by
  have hall : (operator.spellings.all fun spelling =>
      spelling.all fun c => !c.isDigit && !isBlank c) = true := by
    cases operator <;> decide
  have hspelling := List.all_eq_true.mp (List.all_eq_true.mp hall spelling h) c hc
  simpa using hspelling

/-- A spelling with a digit or a blank behind it is the longest one. -/
theorem splitOperator_eq {operator : Operator} {spelling requirement : List Char}
    (hspelling : spelling ∈ operator.spellings) (htrim : trim isBlank requirement = spelling ++ rest)
    (hrest : ∀ c ∈ rest.head?, c.isDigit = true ∨ isBlank c = true) :
    splitOperator requirement = (operator, trim isBlank rest) := by
  apply consists_iff.mp
  refine ⟨spelling, hspelling, rest, htrim, rfl, fun other longer hlonger hstart => ?_⟩
  by_contra hmore
  rw [htrim] at hstart
  have hinside : spelling <+: longer :=
    List.prefix_of_prefix_length_le (List.prefix_append _ _) hstart (by omega)
  obtain ⟨more, rfl⟩ := hinside
  obtain ⟨behind, hbehind⟩ := hstart
  rw [List.append_assoc] at hbehind
  have hsame := List.append_cancel_left hbehind
  cases more with
  | nil => exact hmore (by simp)
  | cons c others =>
      have hchar := char_of_spelling hlonger (List.mem_append_right _ List.mem_cons_self)
      rcases hrest c (hsame ▸ rfl) with hdigit | hblank
      · exact absurd hdigit (ne_true_of_eq_false hchar.1)
      · exact absurd hblank (ne_true_of_eq_false hchar.2)

/-- An operator is found in front of a text that starts with a digit, whatever blanks stand around
both. -/
theorem splitOperator_padded {operator : Operator} {spelling lead middle trail : List Char}
    (hspelling : spelling ∈ operator.spellings) (hbare : Bare isBlank text) (hne : text ≠ [])
    (hdigit : ∀ c ∈ text.head?, c.isDigit = true)
    (hblank : ∀ c ∈ lead ++ (middle ++ trail), isBlank c = true) :
    splitOperator (lead ++ (spelling ++ (middle ++ (text ++ trail)))) = (operator, text) := by
  simp only [List.forall_mem_append] at hblank
  obtain ⟨hlead, hmiddle, htrail⟩ := hblank
  by_cases hnone : spelling = []
  · subst hnone
    have htrim : trim isBlank (lead ++ ([] ++ (middle ++ (text ++ trail)))) = text := by
      rw [trim_append_left hlead, List.nil_append, trim_eq_of_bare hmiddle hbare htrail]
    rw [splitOperator_eq hspelling htrim fun c hc => .inl (hdigit c hc), trim_of_bare hbare]
  · have hwhole : Bare isBlank (spelling ++ (middle ++ text)) := by
      refine ⟨fun c hc => ?_, fun c hc => ?_⟩
      · rw [List.head?_append_of_ne_nil _ hnone] at hc
        exact (char_of_spelling hspelling (List.mem_of_mem_head? hc)).2
      · rw [List.getLast?_append_of_ne_nil _ (List.append_ne_nil_of_right_ne_nil _ hne),
          List.getLast?_append_of_ne_nil _ hne] at hc
        exact hbare.last c hc
    have htrim : trim isBlank (lead ++ (spelling ++ (middle ++ (text ++ trail)))) =
        spelling ++ (middle ++ text) := by
      have hregroup : spelling ++ (middle ++ (text ++ trail)) =
          spelling ++ (middle ++ text) ++ trail := by simp
      rw [hregroup, trim_eq_of_bare hlead hwhole htrail]
    have hfirst : ∀ c ∈ (middle ++ text).head?, c.isDigit = true ∨ isBlank c = true := by
      intro c hc
      rw [List.head?_append] at hc
      rcases Option.or_eq_some_iff.mp hc with hblank | ⟨-, htext⟩
      · exact .inr (hmiddle c (List.mem_of_mem_head? hblank))
      · exact .inl (hdigit c htext)
    rw [splitOperator_eq hspelling htrim hfirst, trim_append_left hmiddle, trim_of_bare hbare]

/-- The anchor of a requirement is what stands behind its operator, as it is read. -/
theorem anchor?_eq {requirement : String} {chars written : List Char} {operator : Operator}
    (hchars : requirement.toList = chars) (hsplit : splitOperator chars = (operator, written)) :
    anchor? requirement = parseChars? written := by
  rw [anchor?, hchars, hsplit]

section

variable {v : Version} (hprerelease : IsDotted v.prerelease) (hbuild : IsDotted v.build)

include hprerelease hbuild

theorem isStrict_text : isStrict v.text = true := by
  obtain ⟨form, hform, rfl⟩ := exists_form hprerelease hbuild
  rw [isStrict, hform.text_version]
  exact isStrictChars_iff.mpr ⟨form, hform.mono (fun _ => IsNumber.isWideNumber) (fun _ h => h), rfl⟩

theorem parse?_text : parse? v.text = some v := by
  obtain ⟨form, hform, rfl⟩ := exists_form hprerelease hbuild
  rw [parse?, hform.text_version]
  exact hform.parseChars?_text

theorem splitOperator_text {operator : Operator} {spelling lead middle trail : List Char}
    (hspelling : spelling ∈ operator.spellings)
    (hblank : ∀ c ∈ lead ++ (middle ++ trail), isBlank c = true) :
    splitOperator (lead ++ (spelling ++ (middle ++ (v.text.toList ++ trail)))) =
      (operator, v.text.toList) := by
  obtain ⟨form, hform, rfl⟩ := exists_form hprerelease hbuild
  obtain ⟨first, more, hfirst, hdigit⟩ := hform.exists_cons
  rw [hform.text_version]
  apply splitOperator_padded hspelling hform.bare (hfirst ▸ List.cons_ne_nil _ _) _ hblank
  rw [hfirst]
  rintro c ⟨⟩
  exact hdigit

end

/-- **Reading back.**  Let the tag and the metadata of a version be rows of identifiers, or empty.
Its text is a full form and is read as the version; and behind any operator, with any blanks around
both, that operator and that version are found. -/
theorem written_version_read_back {v : Version} (hprerelease : IsDotted v.prerelease)
    (hbuild : IsDotted v.build) :
    isStrict v.text = true ∧ parse? v.text = some v ∧
      ∀ operator : Operator, ∀ spelling ∈ operator.spellings, ∀ lead middle trail : List Char,
        (∀ c ∈ lead ++ (middle ++ trail), isBlank c = true) →
          splitOperator (lead ++ (spelling ++ (middle ++ (v.text.toList ++ trail)))) =
              (operator, v.text.toList) ∧
            anchor? (.ofList (lead ++ (spelling ++ (middle ++ (v.text.toList ++ trail))))) =
              some v := by
  have hread : parseChars? v.text.toList = some v := by
    rw [← parse?]
    exact parse?_text hprerelease hbuild
  refine ⟨isStrict_text hprerelease hbuild, parse?_text hprerelease hbuild, ?_⟩
  intro operator spelling hspelling lead middle trail hblank
  have hsplit := splitOperator_text hprerelease hbuild hspelling hblank
  refine ⟨hsplit, ?_⟩
  rw [anchor?_eq String.toList_ofList hsplit]
  exact hread

/-- Hyphens inside a tag and inside metadata, behind an operator that starts with another one. -/
theorem read_back_behind_operator :
    IsDotted "-rc-.0" ∧ IsDotted "b--.-" ∧
      anchor? "\u2003>= 10.0.3--rc-.0+b--.- " = some ⟨10, 0, 3, "-rc-.0", "b--.-"⟩ := by
  have htag : IsDotted "-rc-.0" := ⟨[['-', 'r', 'c', '-'], ['0']], by decide, rfl⟩
  have hmetadata : IsDotted "b--.-" := ⟨[['b', '-', '-'], ['-']], by decide, rfl⟩
  have hread := (written_version_read_back (v := ⟨10, 0, 3, "-rc-.0", "b--.-"⟩) htag hmetadata).2.2
  have hblank : ∀ c ∈ ['\u2003'] ++ ([' '] ++ [' ']), isBlank c = true :=
    List.all_eq_true.mp (by decide)
  exact ⟨htag, hmetadata,
    (hread .atLeast ['>', '='] (by decide) ['\u2003'] [' '] [' '] hblank).2⟩

/-! ## The grammar of semantic versions -/

/-- Of the forms that the strict reader takes, those of ASCII have plain numbers. -/
theorem Form.Obeys.of_ascii {form : Form} (h : form.Obeys IsWideNumber IsIdentifier)
    (hascii : ∀ c ∈ form.text, isAscii c = true) : form.Obeys IsNumber IsIdentifier := by
  simp only [Form.text, List.mem_append, List.mem_cons] at hascii
  exact {
    major := h.major.isNumber fun c hc => hascii c (.inl hc)
    minor := h.minor.isNumber fun c hc => hascii c (.inr (.inr (.inl hc)))
    patch := h.patch.isNumber fun c hc => hascii c (.inr (.inr (.inr (.inr (.inl hc)))))
    tag := h.tag
    metadata := h.metadata }

/-- An identifier looks like a number if all its characters are digits. -/
theorem isNumeric_iff {part : List Char} (h : IsIdentifier part) :
    isNumeric part = true ↔ ∀ c ∈ part, c.isDigit = true := by
  have hdigit {c : Char} (hc : c ∈ part) : isDigit c = c.isDigit :=
    (digits_of_ascii (isAscii_of_isIdentifierChar (h.2 c hc))).2
  rw [isNumeric, List.isEmpty_eq_false_iff.mpr h.1, Bool.not_false, Bool.true_and, List.all_eq_true]
  constructor
  · intro hall c hc
    rw [← hdigit hc]
    exact hall c hc
  · intro hall c hc
    rw [hdigit hc]
    exact hall c hc

/-- The identifiers of a version are those of the form that says it. -/
theorem Form.Obeys.identifiers_version {form : Form} (h : form.Obeys IsNumber IsIdentifier) :
    form.version.identifiers = if form.tag = [] then [[]] else form.tag := by
  rw [identifiers, Form.version, String.toList_ofList]
  split
  · next hnone => rw [hnone, dotted, List.intercalate_nil, List.splitOn_nil]
  · next hne => exact splitOn_dotted hne h.tag

/-- A version is canonical just if the form that says it has no zero in front of the numbers of its
tag. -/
theorem Form.Obeys.canonical_iff {form : Form} (h : form.Obeys IsNumber IsIdentifier) :
    form.version.Canonical ↔ ∀ part ∈ form.tag, IsTagIdentifier part := by
  rw [Canonical, h.identifiers_version]
  split
  · next hnone => simp [hnone, isNumeric]
  · constructor
    · intro hall part hpart
      refine ⟨h.tag part hpart, fun hdigits => ?_⟩
      exact (hall part hpart ((isNumeric_iff (h.tag part hpart)).mpr hdigits)).2
    · intro hall part hpart hnumeric
      have hdigits := (isNumeric_iff (h.tag part hpart)).mp hnumeric
      exact ⟨hdigits, (hall part hpart).2 hdigits⟩

/-- The grammar of semantic versions is the strict reader's, less digits of other scripts and zeros
in front of the numbers of a tag. -/
theorem exists_semantic_form_iff {text : String} :
    (∃ form : Form, form.Obeys IsNumber IsTagIdentifier ∧ form.text = text.toList) ↔
      isStrict text = true ∧ (∀ c ∈ text.toList, isAscii c = true) ∧ TextCanonical text := by
  have hcanonical {form : Form} (hform : form.Obeys IsNumber IsIdentifier)
      (htext : form.text = text.toList) : TextCanonical text ↔ form.version.Canonical := by
    have hread : parse? text = some form.version := by
      rw [parse?, ← htext]
      exact hform.parseChars?_text
    simp [TextCanonical, hread]
  rw [isStrict, isStrictChars_iff]
  constructor
  · rintro ⟨form, hform, htext⟩
    have hplain := hform.mono (fun _ h => h) (fun _ h => h.1 : ∀ part, IsTagIdentifier part → _)
    have hwide := hplain.mono (fun _ => IsNumber.isWideNumber) (fun _ h => h)
    refine ⟨⟨form, hwide, htext⟩, htext ▸ hplain.ascii, ?_⟩
    exact (hcanonical hplain htext).mpr (hplain.canonical_iff.mpr hform.tag)
  · rintro ⟨⟨form, hwide, htext⟩, hascii, hzeros⟩
    have hplain := hwide.of_ascii (htext ▸ hascii)
    have htag := hplain.canonical_iff.mp ((hcanonical hplain htext).mp hzeros)
    exact ⟨form, { hplain with tag := htag }, htext⟩

/-- What stands behind the numbers of a full form is of ASCII. -/
theorem Form.Obeys.ascii_marks {number : List Char → Prop} {form : Form}
    (h : form.Obeys number IsIdentifier) :
    ∀ c ∈ marked '-' form.tag ++ marked '+' form.metadata, isAscii c = true := by
  have hidentifier {identifiers : List (List Char)} (hall : ∀ part ∈ identifiers, IsIdentifier part)
      {mark : Char} (hmark : isAscii mark = true) :
      ∀ c ∈ marked mark identifiers, isAscii c = true := by
    intro c hc
    rcases mem_marked hc with rfl | rfl | ⟨part, hpart, hinside⟩
    · exact hmark
    · decide
    · exact isAscii_of_isIdentifierChar ((hall part hpart).2 c hinside)
  intro c hc
  rcases List.mem_append.mp hc with htag | hmetadata
  · exact hidentifier h.tag (by decide) c htag
  · exact hidentifier h.metadata (by decide) c hmetadata

/-- No digit stands behind the numbers of a version. -/
theorem not_isDecimal_tail (v : Version) : ∀ c ∈ v.tail.head?, isDecimal c = false := by
  intro c hc
  have hmark : c = '-' ∨ c = '+' := by
    unfold tail at hc
    split at hc <;> split at hc
    · cases hc
    · exact .inr (Option.some.inj hc).symm
    · exact .inl (Option.some.inj hc).symm
    · exact .inl (Option.some.inj hc).symm
  rcases hmark with rfl | rfl <;> exact (digits_of_ascii (by decide)).1

/-- If a full form is written by some version, it is of ASCII. -/
theorem Form.Obeys.ascii_of_text_eq {form : Form} (h : form.Obeys IsWideNumber IsIdentifier)
    {v : Version} (hwritten : v.text.toList = form.text) :
    ∀ c ∈ form.text, isAscii c = true := by
  have hnumbers := strictNumbers?_append h.major h.minor h.patch
    (fun c hc => form.not_isDecimal_of_head? hc)
  have hwide (number : Nat) := (isNumber_toDigits number).isWideNumber
  have hown := strictNumbers?_append (hwide v.major) (hwide v.minor) (hwide v.patch)
    v.not_isDecimal_tail
  have htail : marked '-' form.tag ++ marked '+' form.metadata = v.tail := by
    rw [← toList_text, hwritten, Form.text, hnumbers] at hown
    exact Option.some.inj hown
  have hdigits (number : Nat) : ∀ c ∈ Nat.toDigits 10 number, isAscii c = true :=
    fun c hc => isAscii_of_isDigit ((isNumber_toDigits number).2.1 c hc)
  have hpoint : isAscii '.' = true := by decide
  rw [← hwritten, toList_text, ← htail]
  simp only [List.forall_mem_append, List.forall_mem_cons]
  have hmarks := List.forall_mem_append.mp h.ascii_marks
  exact ⟨hdigits _, hpoint, hdigits _, hpoint, hdigits _, hmarks⟩

/-- **The strict reader** takes the full forms in which numbers may go on with decimal digits of any
script and tags may have any identifiers.  Those of them are in the grammar of semantic versions
that are of ASCII and have no zeros in front of the numbers of their tag.  What is taken is read
back from the text of the version that the lenient reader reads just if it is of ASCII. -/
theorem isStrict_iff_wide_form (text : String) :
    (isStrict text = true ↔
      ∃ form : Form, form.Obeys IsWideNumber IsIdentifier ∧ form.text = text.toList) ∧
    ((∃ form : Form, form.Obeys IsNumber IsTagIdentifier ∧ form.text = text.toList) ↔
      isStrict text = true ∧ (∀ c ∈ text.toList, isAscii c = true) ∧ TextCanonical text) ∧
    (isStrict text = true →
      ((∃ v, parse? text = some v ∧ v.text = text) ↔ ∀ c ∈ text.toList, isAscii c = true)) := by
  refine ⟨isStrictChars_iff, exists_semantic_form_iff, fun hstrict => ?_⟩
  obtain ⟨form, hwide, htext⟩ := isStrictChars_iff.mp hstrict
  constructor
  · rintro ⟨v, -, hwritten⟩
    rw [← htext]
    exact hwide.ascii_of_text_eq ((congrArg String.toList hwritten).trans htext.symm)
  · intro hascii
    have hplain := hwide.of_ascii (htext ▸ hascii)
    refine ⟨form.version, ?_, ?_⟩
    · rw [parse?, ← htext]
      exact hplain.parseChars?_text
    · rw [← String.toList_inj, hplain.text_version, htext]

/-- A zero in front of a number of the tag is kept. -/
theorem zeros_of_tag_read_back :
    isStrict "1.0.0-01" = true ∧ ∃ v, parse? "1.0.0-01" = some v ∧ v.text = "1.0.0-01" := by
  have hstrict : isStrict "1.0.0-01" = true := by decide
  have hascii : ∀ c ∈ "1.0.0-01".toList, isAscii c = true := List.all_eq_true.mp (by decide)
  exact ⟨hstrict, ((isStrict_iff_wide_form "1.0.0-01").2.2 hstrict).mpr hascii⟩

/-- The strict reader takes an Arabic zero, at which the lenient reader stops, and a zero in front
of a number of the tag.  The grammar has neither. -/
theorem strict_outside_grammar :
    (isStrict "1\u0660.0.0" = true ∧
      (parse? "1\u0660.0.0").map (·.text) = some "1.0.0" ∧
      ¬ ∃ form : Form, form.Obeys IsNumber IsTagIdentifier ∧ form.text = "1\u0660.0.0".toList) ∧
    isStrict "1.0.0-01" = true ∧
      ¬ ∃ form : Form, form.Obeys IsNumber IsTagIdentifier ∧ form.text = "1.0.0-01".toList := by
  refine ⟨⟨by decide, by decide, fun hform => ?_⟩, by decide, fun hform => ?_⟩
  · have hascii := (exists_semantic_form_iff.mp hform).2.1
    exact absurd (hascii '\u0660' (by decide)) (by decide)
  · exact absurd (exists_semantic_form_iff.mp hform).2.2 (by decide)

end ManifestLint.Version
