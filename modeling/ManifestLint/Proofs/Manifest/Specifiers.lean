import ManifestLint.Specifier
import ManifestLint.Proofs.Text.Lines

/-!
# What a specifier tells

A specifier is read from left to right, and a part counts as complete once the separator
behind it was read.  So nothing that was said to be complete is taken back when more is typed:
a word that a separator ends is the same word whatever follows.

* `Specifier.Tells`: the five ways in which a text is taken apart, each with the shape of the text.
* `Specifier.parse_eq`: a specifier in full is taken apart at its slash and its at sign.
* `Specifier.complete_parts_stay`: what a beginning of a text tells of the whole text.
-/

namespace ManifestLint

namespace Specifier

/-! ## Words -/

/-- A text is a word: a letter, then letters, digits and hyphens, all of ASCII. -/
def IsWord : List Char → Prop
  | [] => False
  | first :: rest => isWordStart first = true ∧ ∀ c ∈ rest, isWordChar c = true

theorem IsWord.ne_nil {word : List Char} (h : IsWord word) : word ≠ [] := by
  rintro rfl
  exact h

/-- A word is taken off a text where another character follows it. -/
theorem spanWord_append {word rest : List Char} (hword : IsWord word)
    (hrest : ∀ c ∈ rest.head?, isWordChar c = false) : spanWord (word ++ rest) = (word, rest) := by
  cases word with
  | nil => exact hword.elim
  | cons first more =>
      obtain ⟨hfirst, hmore⟩ := hword
      obtain ⟨htake, hdrop⟩ := Text.span_append hmore hrest
      rw [List.cons_append, spanWord, if_pos hfirst, htake, hdrop]

/-- What is taken off a text is a word, unless it is nothing. -/
theorem of_spanWord {text word rest : List Char} (h : spanWord text = (word, rest))
    (hword : word ≠ []) : IsWord word ∧ text = word ++ rest := by
  cases text with
  | nil =>
      cases h
      exact absurd rfl hword
  | cons first more =>
      rw [spanWord] at h
      split at h
      · next hfirst =>
          cases h
          refine ⟨⟨hfirst, fun c hc => List.all_eq_true.mp List.all_takeWhile c hc⟩, ?_⟩
          rw [List.cons_append, List.takeWhile_append_dropWhile]
      · cases h
        exact absurd rfl hword

/-! ## Taking apart -/

/-- What can be told of a text, and of what shape the text is then. -/
inductive Tells : List Char → Specifier → Prop
  | nothing (text : List Char) : Tells text {}
  | author {author : List Char} (rest : List Char) (hauthor : IsWord author) :
      Tells (author ++ rest) { author := .ofList author }
  | slash {author : List Char} (rest : List Char) (hauthor : IsWord author) :
      Tells (author ++ '/' :: rest) { author := .ofList author, fullAuthor := true }
  | name {author name : List Char} (rest : List Char) (hauthor : IsWord author)
      (hname : IsWord name) :
      Tells (author ++ '/' :: (name ++ rest))
        { author := .ofList author, name := .ofList name, fullAuthor := true }
  | whole {author name : List Char} (requirement : List Char) (hauthor : IsWord author)
      (hname : IsWord name) :
      Tells (author ++ '/' :: (name ++ '@' :: requirement)) {
        author := .ofList author
        name := .ofList name
        requirement := .ofList requirement
        coerced := (Version.coerced? (.ofList requirement)).getD ""
        fullAuthor := true
        fullName := true }

theorem tells_ofChars (text : List Char) : Tells text (ofChars text) := by
  rw [ofChars]
  split
  · exact .nothing text
  · next author rest hauthor hfirst =>
      obtain ⟨hword, htext⟩ := of_spanWord hfirst hauthor
      rw [htext]
      split
      · exact .slash rest hword
      · next name requirement hname hsecond =>
          obtain ⟨hother, hrest⟩ := of_spanWord hsecond hname
          rw [hrest]
          exact .whole requirement hword hother
      · next name others hname _ hsecond =>
          obtain ⟨hother, hrest⟩ := of_spanWord hsecond hname
          rw [hrest]
          exact .name others hword hother
  · next author rest hauthor _ hfirst =>
      obtain ⟨hword, htext⟩ := of_spanWord hfirst hauthor
      rw [htext]
      exact .author rest hword

/-- A slash behind a word ends the author, whatever follows. -/
theorem ofChars_slash {author : List Char} (hauthor : IsWord author) (rest : List Char) :
    (ofChars (author ++ '/' :: rest)).fullAuthor = true ∧
      (ofChars (author ++ '/' :: rest)).author = .ofList author := by
  have hfirst : spanWord (author ++ '/' :: rest) = (author, '/' :: rest) :=
    spanWord_append hauthor (by simp [isWordChar])
  obtain ⟨first, more, hcons⟩ := List.exists_cons_of_ne_nil hauthor.ne_nil
  rw [ofChars, hfirst, hcons]
  rcases hsecond : spanWord rest with ⟨_ | ⟨c, others⟩, behind⟩
  · simp only [hsecond, and_self]
  · simp only [hsecond]
    split <;> exact ⟨rfl, rfl⟩

/-- A specifier in full is taken apart at its slash and its at sign. -/
theorem parse_eq {author name requirement : String} (hauthor : IsWord author.toList)
    (hname : IsWord name.toList) :
    parse (author ++ "/" ++ name ++ "@" ++ requirement) = {
      author, name, requirement
      coerced := (Version.coerced? requirement).getD ""
      fullAuthor := true
      fullName := true } := by
  have htext : (author ++ "/" ++ name ++ "@" ++ requirement).toList =
      author.toList ++ '/' :: (name.toList ++ '@' :: requirement.toList) := by
    simp
  have hfirst :
      spanWord (author.toList ++ '/' :: (name.toList ++ '@' :: requirement.toList)) =
        (author.toList, '/' :: (name.toList ++ '@' :: requirement.toList)) :=
    spanWord_append hauthor (by simp [isWordChar])
  have hsecond : spanWord (name.toList ++ '@' :: requirement.toList) =
      (name.toList, '@' :: requirement.toList) :=
    spanWord_append hname (by simp [isWordChar])
  obtain ⟨first, more, hcons⟩ := List.exists_cons_of_ne_nil hauthor.ne_nil
  obtain ⟨second, others, hothers⟩ := List.exists_cons_of_ne_nil hname.ne_nil
  rw [hothers] at hsecond
  rw [parse, htext, ofChars, hfirst, hcons, hothers]
  simp only [hsecond]
  rw [← hcons, ← hothers, String.ofList_toList, String.ofList_toList, String.ofList_toList]

/-- An author is complete only in front of a slash. -/
theorem exists_of_fullAuthor {text : String} (h : (parse text).fullAuthor = true) :
    ∃ (author : List Char) (rest : List Char), IsWord author ∧
      text.toList = author ++ '/' :: rest := by
  have htells := tells_ofChars text.toList
  rw [parse] at h
  generalize text.toList = chars at h htells ⊢
  generalize ofChars chars = parts at h htells
  cases htells with
  | nothing => cases h
  | author => cases h
  | slash rest hauthor => exact ⟨_, rest, hauthor, rfl⟩
  | name rest hauthor => exact ⟨_, _, hauthor, rfl⟩
  | whole requirement hauthor => exact ⟨_, _, hauthor, rfl⟩

/-- A name is complete only in a specifier that is written in full. -/
theorem exists_of_fullName {text : String} (h : (parse text).fullName = true) :
    ∃ author name requirement : String, IsWord author.toList ∧ IsWord name.toList ∧
      text = author ++ "/" ++ name ++ "@" ++ requirement := by
  have htells := tells_ofChars text.toList
  rw [parse] at h
  generalize hchars : text.toList = chars at h htells
  generalize ofChars chars = parts at h htells
  cases htells with
  | nothing => cases h
  | author => cases h
  | slash => cases h
  | name => cases h
  | @whole author name requirement hauthor hname =>
      refine ⟨.ofList author, .ofList name, .ofList requirement, ?_, ?_, ?_⟩
      · rwa [String.toList_ofList]
      · rwa [String.toList_ofList]
      · apply String.toList_injective
        simp [hchars]

/-- A specifier with a requirement is written in full. -/
theorem eq_of_requirement {text : String} (h : (parse text).requirement ≠ "") :
    ∃ author name requirement : String, IsWord author.toList ∧ IsWord name.toList ∧
      text = author ++ "/" ++ name ++ "@" ++ requirement := by
  apply exists_of_fullName
  have htells := tells_ofChars text.toList
  rw [parse] at h ⊢
  generalize text.toList = chars at h htells ⊢
  generalize ofChars chars = parts at h htells ⊢
  cases htells with
  | whole => rfl
  | _ => exact absurd rfl h

/-- The author of a specifier is a word, as far as there is one. -/
theorem isWord_author {text : String} (h : (parse text).author ≠ "") :
    IsWord (parse text).author.toList := by
  have htells := tells_ofChars text.toList
  rw [parse] at h ⊢
  generalize text.toList = chars at h htells ⊢
  generalize ofChars chars = parts at h htells ⊢
  cases htells with
  | nothing => exact absurd rfl h
  | author rest hauthor => simpa using hauthor
  | slash rest hauthor => simpa using hauthor
  | name rest hauthor => simpa using hauthor
  | whole requirement hauthor => simpa using hauthor

theorem ascii_of_isWordChar {c : Char} (h : isWordChar c = true) : c.toNat < 0x80 := by
  change (decide (c.val ≥ 'A'.val ∧ c.val ≤ 'Z'.val) ||
    (decide (c.val ≥ 'a'.val) && decide (c.val ≤ 'z'.val)) ||
    (decide (c.val ≥ '0'.val) && decide (c.val ≤ '9'.val)) || decide (c = '-')) = true at h
  simp only [Bool.or_eq_true, Bool.and_eq_true, decide_eq_true_eq, UInt32.le_iff_toNat_le] at h
  have hnat : c.toNat = c.val.toNat := rfl
  rcases h with ((⟨-, hle⟩ | ⟨-, hle⟩) | ⟨-, hle⟩) | rfl
  all_goals simp at *
  all_goals omega

theorem IsWord.ascii {word : List Char} (h : IsWord word) : ∀ c ∈ word, c.toNat < 0x80 := by
  cases word with
  | nil => exact h.elim
  | cons first rest =>
      have hfirst : isWordChar first = true := by
        have hstart : first.isAlpha = true := h.1
        simp [isWordChar, Char.isAlphanum, hstart]
      rintro c hc
      rcases List.mem_cons.mp hc with rfl | hrest
      · exact ascii_of_isWordChar hfirst
      · exact ascii_of_isWordChar (h.2 c hrest)

/-! ## Typing on -/

/-- **Complete parts stay.**  Let more be typed behind a text.  An author that was complete is
so still, and it is the same; a name that was complete is so still, both parts are the same,
and the requirement goes on from where it was.

A name is complete just where a text is an author and a name, both words, with a slash between
and an at sign behind them.  The parts then make up the text, and the author is complete too;
a complete author is never empty. -/
theorem complete_parts_stay {typed text : String} (h : typed.toList <+: text.toList) :
    ((parse typed).fullAuthor = true →
        (parse text).fullAuthor = true ∧ (parse text).author = (parse typed).author) ∧
      ((parse typed).fullName = true →
        (parse text).fullName = true ∧ (parse text).author = (parse typed).author ∧
          (parse text).name = (parse typed).name ∧
          (parse typed).requirement.toList <+: (parse text).requirement.toList) ∧
      ((parse text).fullName = true ↔
        ∃ author name rest : String, IsWord author.toList ∧ IsWord name.toList ∧
          text = author ++ "/" ++ name ++ "@" ++ rest) ∧
      ((parse text).fullName = true →
        (parse text).author ++ "/" ++ (parse text).name ++ "@" ++ (parse text).requirement =
            text ∧ (parse text).fullAuthor = true) ∧
      ((parse text).fullAuthor = true → (parse text).author ≠ "") := by
  obtain ⟨more, hmore⟩ := h
  have htext : text = typed ++ .ofList more := by
    apply String.toList_injective
    rw [String.toList_append, String.toList_ofList, hmore]
  refine ⟨?_, ?_, ?_, ?_, ?_⟩
  · intro hfull
    obtain ⟨author, rest, hauthor, htyped⟩ := exists_of_fullAuthor hfull
    have hwhole : text.toList = author ++ '/' :: (rest ++ more) := by
      rw [← hmore, htyped, List.append_assoc, List.cons_append]
    rw [parse, parse, hwhole, htyped, (ofChars_slash hauthor rest).2]
    exact ofChars_slash hauthor (rest ++ more)
  · intro hfull
    obtain ⟨author, name, rest, hauthor, hname, rfl⟩ := exists_of_fullName hfull
    have hwhole : text = author ++ "/" ++ name ++ "@" ++ (rest ++ .ofList more) := by
      rw [htext, String.append_assoc]
    rw [hwhole, parse_eq hauthor hname, parse_eq hauthor hname]
    refine ⟨rfl, rfl, rfl, ?_⟩
    exact ⟨more, by simp⟩
  · constructor
    · exact exists_of_fullName
    · intro hshape
      obtain ⟨author, name, rest, hauthor, hname, rfl⟩ := hshape
      rw [parse_eq hauthor hname]
  · intro hfull
    obtain ⟨author, name, rest, hauthor, hname, rfl⟩ := exists_of_fullName hfull
    rw [parse_eq hauthor hname]
    exact ⟨rfl, rfl⟩
  · intro hfull hempty
    obtain ⟨author, rest, hauthor, hchars⟩ := exists_of_fullAuthor hfull
    rw [parse, hchars, (ofChars_slash hauthor rest).2] at hempty
    apply hauthor.ne_nil
    simpa using congrArg String.toList hempty

/-- A requirement that is still being typed: the name before it stays, and the requirement
goes on. -/
theorem name_stays_while_requirement_grows :
    "my-org2/cool-pkg@^0".toList <+: "my-org2/cool-pkg@^0.1/x@2".toList ∧
      (parse "my-org2/cool-pkg@^0").fullName = true ∧
      (parse "my-org2/cool-pkg@^0.1/x@2").name = (parse "my-org2/cool-pkg@^0").name ∧
      (parse "my-org2/cool-pkg@^0").requirement.toList <+:
        (parse "my-org2/cool-pkg@^0.1/x@2").requirement.toList := by
  have htyped : "my-org2/cool-pkg@^0".toList <+: "my-org2/cool-pkg@^0.1/x@2".toList := by
    decide
  have hfull : (parse "my-org2/cool-pkg@^0").fullName = true := by decide
  obtain ⟨-, hname, -⟩ := complete_parts_stay htyped
  obtain ⟨-, -, hsame, hgrows⟩ := hname hfull
  exact ⟨htyped, hfull, hsame, hgrows⟩

end Specifier

end ManifestLint
