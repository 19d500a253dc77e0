import ManifestLint.Proofs.Console.StrictCheck
import ManifestLint.Proofs.Manifest.Specifiers

/-!
# Specifiers on the command line

A command that is given the specifier of a package wants an author and a name, and a version behind
an at sign if one is asked for.  It takes the text apart as a manifest is read while it is being
typed, and goes on as soon as there are an author and a name: what stands behind the name counts
only if it starts with an at sign, and is passed over otherwise.

So every text of one of the two forms is accepted with parts that make up the text again.  The
other texts that are accepted are those with something else behind the name, or with an at sign and
no version; their parts make up a shorter text, and the versions that are listed are those that are
listed for the shorter text.

* `Specifier.Splits`, `Specifier.named_iff`: the texts with an author and a name.
* `Specifier.hasForm_iff`: the texts that are made up by their parts.
* `Console.splitSpecifier_accepts`: what the commands accept.
* `Command.lookups_written`, `Command.rejects_unnamed`: what comes of it.
-/

namespace ManifestLint

namespace Specifier

variable {chars author name rest tail : List Char} {text : String}

/-! ## Authors and names -/

/-- A text is an author, a slash, a name and a tail that the name does not go on in. -/
structure Splits (chars author name tail : List Char) : Prop where
  isWord_author : IsWord author
  isWord_name : IsWord name
  ends : ∀ c ∈ tail.head?, isWordChar c = false
  eq : chars = author ++ '/' :: (name ++ tail)

/-- The requirement in the tail behind a name: what follows an at sign. -/
def requirementIn : List Char → List Char
  | '@' :: requirement => requirement
  | _ => []

theorem Splits.parts (h : Splits chars author name tail) :
    (ofChars chars).author = .ofList author ∧ (ofChars chars).name = .ofList name ∧
      (ofChars chars).requirement = .ofList (requirementIn tail) ∧
      (ofChars chars).fullAuthor = true := by
  have hfirst : spanWord chars = (author, '/' :: (name ++ tail)) :=
    h.eq ▸ spanWord_append h.isWord_author (by simp [isWordChar])
  have hsecond : spanWord (name ++ tail) = (name, tail) := spanWord_append h.isWord_name h.ends
  obtain ⟨first, more, hcons⟩ := List.exists_cons_of_ne_nil h.isWord_author.ne_nil
  rw [ofChars, hfirst, hcons]
  simp only [hsecond]
  split
  · next hnone => exact absurd (congrArg Prod.fst hnone) h.isWord_name.ne_nil
  · next hmark =>
      cases hmark
      exact ⟨rfl, rfl, rfl, rfl⟩
  · next hother hrest =>
      cases hrest
      have hnone : requirementIn tail = [] := by
        unfold requirementIn
        split
        · exact absurd rfl (hother _)
        · rfl
      rw [hnone]
      exact ⟨rfl, rfl, rfl, rfl⟩

/-- Behind an author, a slash and a name, the name goes on as far as it can. -/
theorem exists_splits (hauthor : IsWord author) (hname : IsWord name) (rest : List Char) :
    ∃ longest tail, Splits (author ++ '/' :: (name ++ rest)) author longest tail := by
  refine ⟨name ++ rest.takeWhile isWordChar, rest.dropWhile isWordChar, hauthor, ?_, ?_, ?_⟩
  · cases name with
    | nil => exact hname.elim
    | cons first more =>
        refine ⟨hname.1, fun c hc => ?_⟩
        rcases List.mem_append.mp hc with hmore | hrest
        · exact hname.2 c hmore
        · exact List.all_eq_true.mp List.all_takeWhile c hrest
  · intro c hc
    have hhead := List.head?_dropWhile_not isWordChar rest
    rwa [Option.mem_def.mp hc] at hhead
  · rw [List.append_assoc, List.takeWhile_append_dropWhile]

/-- There are an author and a name. -/
def Named (specifier : Specifier) : Prop := specifier.fullAuthor = true ∧ specifier.name ≠ ""

theorem named_iff :
    (parse text).Named ↔ ∃ author name tail, Splits text.toList author name tail := by
  constructor
  · rintro ⟨hfull, hname⟩
    have htells := tells_ofChars text.toList
    rw [parse] at hfull hname
    generalize text.toList = chars at hfull hname htells ⊢
    generalize ofChars chars = parts at hfull hname htells
    cases htells with
    | nothing => cases hfull
    | author => cases hfull
    | slash => exact absurd rfl hname
    | name rest hauthor hword => exact ⟨_, exists_splits hauthor hword rest⟩
    | whole requirement hauthor hword => exact ⟨_, exists_splits hauthor hword _⟩
  · rintro ⟨author, name, tail, hsplits⟩
    obtain ⟨-, hname, -, hfull⟩ := hsplits.parts
    refine ⟨hfull, ?_⟩
    rw [parse, hname]
    simpa using hsplits.isWord_name.ne_nil

/-! ## The two forms -/

/-- A specifier written down again. -/
def written (specifier : Specifier) : String :=
  specifier.author ++ "/" ++ specifier.name ++
    (if specifier.requirement = "" then "" else "@" ++ specifier.requirement)

/-- A text is an author and a name, or these and a version behind an at sign. -/
def HasForm (text : String) : Prop :=
  ∃ author name : String, IsWord author.toList ∧ IsWord name.toList ∧
    (text = author ++ "/" ++ name ∨
      ∃ version, version ≠ "" ∧ text = author ++ "/" ++ name ++ "@" ++ version)

theorem Splits.toList_written (h : Splits text.toList author name tail) :
    (parse text).written.toList = author ++ '/' :: (name ++
      if requirementIn tail = [] then [] else '@' :: requirementIn tail) := by
  obtain ⟨hauthor, hname, hrequirement, -⟩ := h.parts
  rw [written, parse, hauthor, hname, hrequirement]
  by_cases hempty : requirementIn tail = [] <;> simp [hempty]

/-- Nothing stands behind the name, or an at sign and a version. -/
def OptionalVersion (tail : List Char) : Prop :=
  tail = [] ∨ ∃ version, version ≠ [] ∧ tail = '@' :: version

/-- The parts make up the text again iff nothing but a version stands behind the name. -/
theorem Splits.written_iff (h : Splits text.toList author name tail) :
    (parse text).written = text ↔ OptionalVersion tail := by
  rw [← String.toList_inj, h.toList_written, h.eq, List.append_cancel_left_eq, List.cons.injEq,
    List.append_cancel_left_eq]
  constructor
  · rintro ⟨-, htail⟩
    by_cases hempty : requirementIn tail = []
    · rw [if_pos hempty] at htail
      exact .inl htail.symm
    · rw [if_neg hempty] at htail
      exact .inr ⟨_, hempty, htail.symm⟩
  · rintro (rfl | ⟨version, hversion, rfl⟩)
    · exact ⟨rfl, rfl⟩
    · exact ⟨rfl, if_neg hversion⟩

theorem HasForm.splits (h : HasForm text) :
    ∃ author name tail, Splits text.toList author name tail ∧ OptionalVersion tail := by
  obtain ⟨author, name, hauthor, hname, rfl | ⟨version, hversion, rfl⟩⟩ := h
  · exact ⟨author.toList, name.toList, [], ⟨hauthor, hname, by simp, by simp⟩, .inl rfl⟩
  · refine ⟨author.toList, name.toList, '@' :: version.toList,
      ⟨hauthor, hname, by simp [isWordChar], by simp⟩, .inr ⟨version.toList, ?_, rfl⟩⟩
    simpa using hversion

/-- The texts of the two forms are those that have an author and a name and are made up by their
parts. -/
theorem hasForm_iff : HasForm text ↔ (parse text).Named ∧ (parse text).written = text := by
  constructor
  · intro h
    obtain ⟨author, name, tail, hsplits, htail⟩ := h.splits
    exact ⟨named_iff.mpr ⟨author, name, tail, hsplits⟩, hsplits.written_iff.mpr htail⟩
  · rintro ⟨hnamed, hwritten⟩
    obtain ⟨author, name, tail, hsplits⟩ := named_iff.mp hnamed
    refine ⟨.ofList author, .ofList name, by simpa using hsplits.isWord_author,
      by simpa using hsplits.isWord_name, ?_⟩
    rcases hsplits.written_iff.mp hwritten with rfl | ⟨version, hversion, rfl⟩
    · refine .inl (String.toList_injective ?_)
      simp [hsplits.eq]
    · refine .inr ⟨.ofList version, by simpa using hversion, String.toList_injective ?_⟩
      simp [hsplits.eq]

/-- The parts of a text, written down, are read as the same parts. -/
theorem Named.parse_written (h : (parse text).Named) :
    (parse (parse text).written).Named ∧
      (parse (parse text).written).author = (parse text).author ∧
      (parse (parse text).written).name = (parse text).name ∧
      (parse (parse text).written).requirement = (parse text).requirement := by
  obtain ⟨author, name, tail, hsplits⟩ := named_iff.mp h
  obtain ⟨hauthor, hname, hrequirement, -⟩ := hsplits.parts
  have hagain : Splits (parse text).written.toList author name
      (if requirementIn tail = [] then [] else '@' :: requirementIn tail) := by
    refine ⟨hsplits.isWord_author, hsplits.isWord_name, ?_, hsplits.toList_written⟩
    split <;> simp [isWordChar]
  obtain ⟨hauthor', hname', hrequirement', -⟩ := hagain.parts
  refine ⟨named_iff.mpr ⟨_, _, _, hagain⟩, hauthor'.trans hauthor.symm, hname'.trans hname.symm,
    hrequirement'.trans (Eq.trans ?_ hrequirement.symm)⟩
  congr 1
  split
  · next hempty => rw [hempty]; rfl
  · rfl

end Specifier

/-! ## Acceptance -/

namespace Console

open Specifier

variable {α β : Type} {action : Console α} {text : String}

/-- A specifier is taken apart, and nothing is shown. -/
def Accepts (text : String) (specifier : Specifier) : Prop :=
  ∀ transcript, ((splitSpecifier text).run.run transcript : Except Stop Specifier × Transcript) =
    (.ok specifier, transcript)

/-- A command ends with the exit code 1 and has done nothing but show something. -/
def Rejects (action : Console α) : Prop :=
  ∀ transcript, ∃ stop shown, (action.run.run transcript : Except Stop α × Transcript) =
      (.error stop, { transcript with printed := transcript.printed ++ shown }) ∧
    ∀ after, Ending.exitCode ⟨some stop, after⟩ = 1

theorem Rejects.bind (h : Rejects action) (next : α → Console β) : Rejects (action >>= next) := by
  intro transcript
  obtain ⟨stop, shown, hrun, hcode⟩ := h transcript
  exact ⟨stop, shown, by rw [run_bind, hrun], hcode⟩

theorem rejects_print (markup : String) : Rejects (do print markup; exit 1 : Console α) := by
  intro transcript
  cases hmarkup : Markup.render markup with
  | ok shown =>
      have htext : text markup = pure shown := by rw [text, hmarkup]
      refine ⟨.exit 1, [.line shown], ?_, fun _ => rfl⟩
      rw [print, htext, pure_bind]
      rfl
  | error error =>
      have htext : text markup = breakDown (.markup error) := by rw [text, hmarkup]
      refine ⟨.breakdown (.markup error), [], ?_, fun _ => rfl⟩
      rw [print, htext, List.append_nil]
      rfl

theorem splitSpecifier_of_named (h : (Specifier.parse text).Named) :
    splitSpecifier text = pure (Specifier.parse text) := by
  obtain ⟨hfull, hname⟩ := h
  simp [splitSpecifier, hfull, hname]

theorem rejects_of_not_named (h : ¬(Specifier.parse text).Named) :
    Rejects (splitSpecifier text) := by
  have hnot : ¬((Specifier.parse text).fullAuthor && (Specifier.parse text).name ≠ "") = true := by
    simpa [Specifier.Named] using h
  simp only [splitSpecifier, if_neg hnot]
  exact rejects_print _

/-- A specifier is accepted iff it has an author and a name, as what it is taken apart to. -/
theorem accepts_iff {specifier : Specifier} :
    Accepts text specifier ↔ (Specifier.parse text).Named ∧ specifier = Specifier.parse text := by
  by_cases hnamed : (Specifier.parse text).Named
  · rw [Accepts, splitSpecifier_of_named hnamed]
    constructor
    · intro h
      have hended := congrArg Prod.fst (h {})
      cases hended
      exact ⟨hnamed, rfl⟩
    · rintro ⟨-, rfl⟩ transcript
      rfl
  · refine ⟨fun h => ?_, fun h => absurd h.1 hnamed⟩
    obtain ⟨stop, shown, hrun, -⟩ := rejects_of_not_named hnamed {}
    rw [h] at hrun
    cases hrun

/-- **What is accepted.**  A text is accepted, and nothing is shown, iff it starts with an author, a
slash and a name; every other text is rejected with the exit code 1.  The author and the name of an
accepted text are those at its start, each as long as it can be, and the requirement is what stands
behind the name and an at sign, if there is one.  A text has the form of an author and a name, or of
these and a version behind an at sign, iff it is accepted with parts that make it up again; so every
text of this form is accepted, and the parts of all other accepted texts make up another one. -/
theorem splitSpecifier_accepts (text : String) :
    ((∃ specifier, Accepts text specifier) ↔
      ∃ author name tail, Splits text.toList author name tail) ∧
    ((¬∃ specifier, Accepts text specifier) → Rejects (splitSpecifier text)) ∧
    (∀ specifier, Accepts text specifier →
      ∀ author name tail, Splits text.toList author name tail →
        specifier.author = .ofList author ∧ specifier.name = .ofList name ∧
          specifier.requirement = .ofList (requirementIn tail) ∧
          (HasForm text ↔ OptionalVersion tail)) ∧
    (HasForm text ↔ ∃ specifier, Accepts text specifier ∧ specifier.written = text) := by
  refine ⟨?_, fun h => ?_, fun specifier h author name tail hsplits => ?_, ?_⟩
  · simp only [accepts_iff, exists_and_left, exists_eq, and_true, named_iff]
  · exact rejects_of_not_named fun hnamed => h ⟨_, accepts_iff.mpr ⟨hnamed, rfl⟩⟩
  · obtain ⟨hnamed, rfl⟩ := accepts_iff.mp h
    obtain ⟨hauthor, hname, hrequirement, -⟩ := hsplits.parts
    refine ⟨hauthor, hname, hrequirement, ?_⟩
    rw [hasForm_iff, ← hsplits.written_iff, and_iff_right hnamed]
  · simp only [accepts_iff, hasForm_iff, and_assoc, exists_and_left, exists_eq_left]

/-- Of a text with something else behind the name only the author and the name are taken. -/
theorem tag_passed_over :
    splitSpecifier "a/b#1.0.0" = splitSpecifier "a/b" ∧
    ¬∀ text, (∃ specifier, Accepts text specifier) ↔ HasForm text := by
  have hsame : parse "a/b#1.0.0" = parse "a/b" := by decide
  have hnamed : (parse "a/b").Named := ⟨by decide, by decide⟩
  have htagged : (parse "a/b#1.0.0").Named := hsame ▸ hnamed
  refine ⟨?_, fun hall => ?_⟩
  · rw [splitSpecifier_of_named htagged, splitSpecifier_of_named hnamed, hsame]
  · have hform := (hall "a/b#1.0.0").mp ⟨_, accepts_iff.mpr ⟨htagged, rfl⟩⟩
    have hwritten : (parse "a/b#1.0.0").written ≠ "a/b#1.0.0" := by decide
    exact hwritten (hasForm_iff.mp hform).2

end Console

/-! ## Commands -/

namespace Command

open Console Specifier

variable {text : String}

/-- What is looked up for an accepted text is what is looked up for its parts, written down; only
the line that nothing was found quotes the text itself. -/
theorem lookups_written (settings : Settings) (around : Surroundings) (index : Option String)
    (h : (Specifier.parse text).Named) :
    runVersions settings around text index
        = runVersions settings around (Specifier.parse text).written index ∧
      lookUpOverview (Specifier.parse text)
        = lookUpOverview (Specifier.parse (Specifier.parse text).written) := by
  obtain ⟨hnamed, hauthor, hname, hrequirement⟩ := h.parse_written
  constructor
  · rw [runVersions, runVersions, splitSpecifier_of_named h, splitSpecifier_of_named hnamed,
      pure_bind, pure_bind, hauthor, hname, hrequirement]
  · funext handle
    rw [lookUpOverview, lookUpOverview, hauthor, hname, hrequirement]

/-- Without an author and a name no registry is opened. -/
theorem rejects_unnamed (settings : Settings) (around : Surroundings) (index : Option String)
    (h : ¬(Specifier.parse text).Named) :
    Rejects (runInfo settings around text index) ∧
      Rejects (runVersions settings around text index) :=
  ⟨(rejects_of_not_named h).bind _, (rejects_of_not_named h).bind _⟩

end Command

end ManifestLint
