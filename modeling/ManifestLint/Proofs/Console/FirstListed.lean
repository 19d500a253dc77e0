import ManifestLint.Proofs.Console.Specifiers
import ManifestLint.Proofs.Registry.BestVersion
import ManifestLint.Proofs.Registry.FirstCall
import ManifestLint.Proofs.Version.Coercion

/-!
# The first version that is listed

The latest version of a package is the first one that is listed.  To show it, its text is used as a
requirement: the published texts are filtered by it and sorted again, and the record of the first
one is looked up.  If the identifiers of digits are written the usual way, all of this comes back
to the same text.  Either the text denotes a version, which is then canonical and anchors the
requirement, or none of the published texts does, since it is the newest of them.

What is shown is a panel of markup.  Most of the texts in it are escaped, each for itself; the page
is not.  So there is nothing to be shown if the markup closes a style that is not open, as it can
through a name of the public index with a bracket in it.  Without brackets everything is shown.

* `Version.satisfies_newest`, `Index.Package.findSatisfying?_newest_listed`: the text as a
  requirement.
* `Markup.Renders`, `Command.renders_overview`: markup with all closed styles open.
* `Console.ComesTo`: what a command comes down to.
* `Command.first_listed_shown`: what is listed, what is described, and what is shown.
-/

namespace ManifestLint

/-! ## The newest text as a requirement -/

namespace Version

open Sorting (mayPrecede)

variable {requirement newest text : String} {rest texts : List String}

/-- A text that denotes no version is not compared. -/
theorem satisfies_of_unparsed (h : parse? text = none) :
    satisfies requirement text = .ok (meets requirement text) := by
  rw [meets, satisfies, h]
  split
  · rfl
  · cases anchor? requirement <;> rfl

/-- Every text meets itself. -/
theorem meets_self (text : String) : meets text text = true := decide_eq_true (if_pos rfl)

/-- The newest text may be held against all others: it denotes a canonical version, or none of
them denotes any. -/
theorem satisfies_newest (h : ∀ text ∈ texts, TextCanonical text)
    (hsorted : texts.mergeSort (mayPrecede ageRank) = newest :: rest) (htext : text ∈ texts) :
    satisfies newest text = .ok (meets newest text) := by
  have hmem : ∀ other, other ∈ texts ↔ other ∈ newest :: rest := fun other => by
    rw [← hsorted, List.mem_mergeSort]
  cases hparse : parse? newest with
  | some version =>
      have hanchor : ∀ anchored ∈ anchor? newest, anchored.Canonical := by
        rw [anchor?_of_parse? hparse]
        rintro anchored ⟨⟩
        exact h newest ((hmem newest).mpr List.mem_cons_self) version hparse
      exact satisfies_eq_meets hanchor (h text htext)
  | none =>
      have hrank : textRank text ≤ textRank newest := by
        have hrising : Sorting.Rising ageRank (texts.mergeSort (mayPrecede ageRank)) :=
          Sorting.rising_mergeSort texts
        rw [hsorted] at hrising
        rcases List.mem_cons.mp ((hmem text).mp htext) with rfl | hrest
        · exact le_rfl
        · exact (List.pairwise_cons.mp hrising).1 text hrest
      have hnone : parse? text = none := by
        rw [textRank, textRank, hparse] at hrank
        cases htext : parse? text with
        | none => rfl
        | some version =>
            rw [htext] at hrank
            exact absurd (le_bot_iff.mp hrank) WithBot.coe_ne_bot
      exact satisfies_of_unparsed hnone

end Version

namespace Index.Package

open Version
open Sorting (mayPrecede)

/-- **The newest version by its text.**  The record that is picked for the first version of the
list, unless it is empty, has just this version. -/
theorem findSatisfying?_newest_listed {package : Package} {newest : String} {rest : List String}
    (hpublished : ∀ text ∈ package.versionTexts, TextCanonical text)
    (hlisted : package.newestFirst = .ok (newest :: rest)) (hnewest : newest ≠ "") :
    ∃ record, package.findSatisfying? newest = .ok (some record) ∧ record.version = newest := by
  have hsorted : package.versionTexts.mergeSort (mayPrecede ageRank) = newest :: rest :=
    Except.ok.inj ((newestFirst_eq hpublished).symm.trans hlisted)
  have hmem : newest ∈ package.versionTexts := by
    rw [← List.mem_mergeSort, hsorted]
    exact List.mem_cons_self
  obtain ⟨record, hget, -, hversion⟩ := get?_of_mem hmem
  refine ⟨record, ?_, hversion⟩
  rw [findSatisfying?_of_meets hpublished fun _ htext => satisfies_newest hpublished hsorted htext,
    hsorted, List.find?_cons_of_pos (meets_self newest), Option.bind_some, if_neg hnewest, hget]

end Index.Package

/-! ## Markup without brackets of its own -/

namespace Markup

variable {slashes depth : Nat} {c : Char} {chars text : List Char}

/-- Behind some backslashes, and with so many styles open at least, a markup can be rendered. -/
def Renders (slashes depth : Nat) (chars : List Char) : Prop :=
  ∀ steps, slashes + chars.length < steps → ∀ opened, depth ≤ opened.length →
    ∃ shown, renderPieces opened (piecesWithin steps (List.replicate slashes '\\' ++ chars)) =
      .ok shown

/-- The pieces of a text that starts with some backslashes and another character. -/
theorem piecesWithin_slashes (hc : c ≠ '\\') (steps slashes : Nat) (rest : List Char) :
    piecesWithin (steps + 1) (List.replicate slashes '\\' ++ c :: rest) =
      (if c = '[' then tagInside? rest else none).elim
        (.plain slashes (some c) :: piecesWithin steps rest)
        fun tag => .tag slashes tag.1 :: piecesWithin steps tag.2 := by
  have hall : ∀ d ∈ List.replicate slashes '\\', decide (d = '\\') = true :=
    fun d hd => decide_eq_true (List.eq_of_mem_replicate hd)
  have hstop : ∀ d ∈ (c :: rest).head?, decide (d = '\\') = false := by
    rintro _ ⟨⟩
    exact decide_eq_false hc
  obtain ⟨htake, hdrop⟩ := Text.span_append hall hstop
  rw [piecesWithin, htake, hdrop, List.length_replicate]
  dsimp only
  generalize (if c = '[' then tagInside? rest else none) = tag
  cases tag <;> rfl

theorem renderPieces_plain {opened : List (List Char)} {next : Option Char} {rest : List Piece}
    (h : ∃ shown, renderPieces opened rest = .ok shown) :
    ∃ shown, renderPieces opened (.plain slashes next :: rest) = .ok shown := by
  obtain ⟨shown, hshown⟩ := h
  rw [renderPieces, hshown]
  exact ⟨_, rfl⟩

/-- A tag that is escaped changes no style. -/
theorem renderPieces_tag {opened : List (List Char)} {inside : List Char} {rest : List Piece}
    (hescaped : slashes % 2 = 1 → ∃ shown, renderPieces opened rest = .ok shown)
    (happlied : slashes % 2 ≠ 1 → ∃ later, applyTag opened inside = .ok later ∧
      ∃ shown, renderPieces later rest = .ok shown) :
    ∃ shown, renderPieces opened (.tag slashes inside :: rest) = .ok shown := by
  rw [renderPieces]
  dsimp only
  split
  · next hodd =>
      obtain ⟨shown, hshown⟩ := hescaped hodd
      rw [hshown]
      exact ⟨_, rfl⟩
  · next heven =>
      obtain ⟨later, hlater, shown, hshown⟩ := happlied heven
      rw [hlater]
      change ∃ shown, (renderPieces later rest >>= _) = _
      rw [hshown]
      exact ⟨_, rfl⟩

theorem renders_nil : Renders slashes depth [] := by
  intro steps hsteps opened _
  obtain ⟨steps, rfl⟩ := Nat.exists_eq_add_one_of_ne_zero (by omega : steps ≠ 0)
  cases slashes with
  | zero => exact ⟨_, rfl⟩
  | succ slashes =>
      have hpieces : piecesWithin (steps + 1) (List.replicate (slashes + 1) '\\' ++ []) =
          [.plain (slashes + 1) none] := by
        simp [piecesWithin]
      rw [hpieces]
      exact renderPieces_plain ⟨_, rfl⟩

/-- A character of no tag ends the backslashes. -/
theorem renders_cons (hc : c ≠ '[') (hslash : c ≠ '\\') (h : Renders 0 depth chars) :
    Renders slashes depth (c :: chars) := by
  intro steps hsteps opened hopened
  rw [List.length_cons] at hsteps
  obtain ⟨steps, rfl⟩ := Nat.exists_eq_add_one_of_ne_zero (by omega : steps ≠ 0)
  rw [piecesWithin_slashes hslash, if_neg hc]
  exact renderPieces_plain (h steps (by omega) opened hopened)

/-- A text without brackets can be rendered in front of what can be. -/
theorem renders_append (htext : '[' ∉ text) (h : ∀ slashes, Renders slashes depth chars) :
    Renders slashes depth (text ++ chars) := by
  induction text generalizing slashes with
  | nil => exact h slashes
  | cons c rest ih =>
      rw [List.mem_cons, not_or] at htext
      by_cases hslash : c = '\\'
      · subst hslash
        intro steps hsteps
        have hsame : List.replicate slashes '\\' ++ ('\\' :: rest ++ chars) =
            List.replicate (slashes + 1) '\\' ++ (rest ++ chars) := by
          rw [List.replicate_succ', List.append_assoc]
          rfl
        rw [hsame]
        exact ih htext.2 steps (by simp at hsteps ⊢; omega)
      · exact renders_cons (Ne.symm htext.1) hslash (ih htext.2)

theorem renders_of_no_bracket (htext : '[' ∉ text) : Renders slashes depth text :=
  text.append_nil ▸ renders_append htext fun _ => renders_nil

/-- A tag that opens a style. -/
theorem renders_open (inside chars : List Char)
    (hinside : tagInside? (inside ++ ']' :: chars) = some (inside, chars))
    (hname : ∀ opened, ∃ style, applyTag opened inside = .ok (style :: opened))
    (h : Renders 0 (depth + 1) chars) : Renders 0 depth ('[' :: inside ++ ']' :: chars) := by
  intro steps hsteps opened hopened
  obtain ⟨steps, rfl⟩ := Nat.exists_eq_add_one_of_ne_zero (by omega : steps ≠ 0)
  obtain ⟨style, hstyle⟩ := hname opened
  rw [List.cons_append, piecesWithin_slashes (by decide), if_pos rfl, hinside]
  refine renderPieces_tag nofun fun _ => ⟨style :: opened, hstyle, ?_⟩
  exact h steps (by simp at hsteps; omega) (style :: opened) (Nat.succ_le_succ hopened)

/-- The tag that closes the last style. -/
theorem renders_close (h : Renders 0 depth chars) :
    Renders slashes (depth + 1) ("[/]".toList ++ chars) := by
  intro steps hsteps opened hopened
  obtain ⟨steps, rfl⟩ := Nat.exists_eq_add_one_of_ne_zero (by omega : steps ≠ 0)
  obtain ⟨style, rest, rfl⟩ := List.exists_cons_of_length_pos (by omega : 0 < opened.length)
  have htag : piecesWithin (steps + 1) (List.replicate slashes '\\' ++ ("[/]".toList ++ chars)) =
      .tag slashes ['/'] :: piecesWithin steps chars :=
    piecesWithin_slashes (by decide) steps slashes _
  have hbehind : ∀ opened : List (List Char), depth ≤ opened.length →
      ∃ shown, renderPieces opened (piecesWithin steps chars) = .ok shown :=
    h steps (by simp at hsteps; omega)
  rw [htag]
  refine renderPieces_tag (fun _ => hbehind (style :: rest) (by omega)) fun _ => ?_
  exact ⟨rest, rfl, hbehind rest (Nat.le_of_succ_le_succ hopened)⟩

/-- A markup can be rendered if it can be with no style open and nothing in front. -/
theorem exists_render {markup : String} (h : Renders 0 0 markup.toList) :
    ∃ shown, render markup = .ok shown := by
  obtain ⟨shown, hshown⟩ := h (markup.toList.length + 1) (by omega) [] le_rfl
  rw [List.replicate_zero, List.nil_append] at hshown
  rw [render, pieces, hshown]
  exact ⟨_, rfl⟩

theorem no_bracket_piecesWithin (htext : '[' ∉ text) (steps : Nat) :
    '[' ∉ (piecesWithin steps text).flatMap Piece.escaped := by
  induction steps generalizing text with
  | zero => exact List.not_mem_nil
  | succ steps ih =>
      have hslashes (count : Nat) : '[' ∉ List.replicate count '\\' :=
        fun hmem => absurd (List.eq_of_mem_replicate hmem) (by decide)
      rw [piecesWithin]
      split
      · split
        · exact List.not_mem_nil
        · simp [Piece.escaped]
      · next c rest hrest =>
          have hsubset : c :: rest ⊆ text := hrest ▸ List.dropWhile_subset _
          have hc : c ≠ '[' := fun hsame => htext (hsame ▸ hsubset List.mem_cons_self)
          have hbehind : '[' ∉ rest := fun hmem => htext (hsubset (List.mem_cons_of_mem c hmem))
          rw [if_neg hc]
          simp [Piece.escaped, hslashes, Ne.symm hc, ih hbehind]

/-- A text without brackets has none when it is escaped. -/
theorem no_bracket_escape {text : String} (htext : '[' ∉ text.toList) :
    '[' ∉ (escape text).toList := by
  have hescaped := no_bracket_piecesWithin htext (text.toList.length + 1)
  rw [escape, String.toList_ofList, pieces]
  split
  · exact hescaped
  · simpa using hescaped
  · exact hescaped

theorem no_bracket_append {label text : String} (hlabel : '[' ∉ label.toList)
    (htext : '[' ∉ text.toList) : '[' ∉ (label ++ text).toList := by
  rw [String.toList_append, List.mem_append, not_or]
  exact ⟨hlabel, htext⟩

theorem no_bracket_intercalate {lines : List String} (h : ∀ line ∈ lines, '[' ∉ line.toList) :
    '[' ∉ ("\n".intercalate lines).toList := by
  induction lines with
  | nil => exact List.not_mem_nil
  | cons line rest ih =>
      obtain ⟨hline, hrest⟩ := List.forall_mem_cons.mp h
      cases rest with
      | nil => simpa using hline
      | cons next more =>
          rw [String.intercalate_cons_cons]
          exact no_bracket_append (no_bracket_append hline (by decide)) (ih hrest)

end Markup

/-- No text of a record that is shown has an opening bracket. -/
def Record.Unbracketed (record : Record) : Prop :=
  ∀ text ∈ [record.name, record.version, record.description, record.displayAuthor, record.realm,
    record.license], '[' ∉ text.toList

instance (record : Record) : Decidable record.Unbracketed := List.decidableBAll _ _

namespace Command

open Markup

variable {overview : Index.Overview}

/-- The line that shows the description, or that there is none. -/
def descriptionLine (record : Record) : String :=
  if record.description = "" then "[dim]No description[/]" else escape record.description

/-- The lines behind the description. -/
def closingLines (overview : Index.Overview) : List String :=
  let record := overview.record
  ["", s!"Author:  {escape record.displayAuthor}", s!"Realm:   {escape record.realm}"]
    ++ (if record.license = "" then [] else [s!"License: {escape record.license}"])
    ++ (if overview.webUrl = "" then [] else [s!"Page:    {overview.webUrl}"])

theorem no_bracket_closingLines (hplain : overview.record.Unbracketed) :
    ∀ line ∈ closingLines overview, '[' ∉ line.toList := by
  simp only [Record.Unbracketed, List.forall_mem_cons] at hplain
  obtain ⟨hname, -, -, hauthor, hrealm, hlicense, -⟩ := hplain
  have hpage : '[' ∉ overview.webUrl.toList := by
    rw [Index.Overview.webUrl]
    split
    · exact no_bracket_append (by decide) hname
    · exact List.not_mem_nil
  simp only [closingLines, List.forall_mem_append, List.forall_mem_cons]
  refine ⟨⟨⟨List.not_mem_nil, ?_, ?_, List.forall_mem_nil _⟩, ?_⟩, ?_⟩
  · exact no_bracket_append (by decide) (no_bracket_escape hauthor)
  · exact no_bracket_append (by decide) (no_bracket_escape hrealm)
  · split
    · exact List.forall_mem_nil _
    · exact List.forall_mem_singleton.mpr
        (no_bracket_append (by decide) (no_bracket_escape hlicense))
  · split
    · exact List.forall_mem_nil _
    · exact List.forall_mem_singleton.mpr (no_bracket_append (by decide) hpage)

/-- The description can be rendered behind the end of a line. -/
theorem renders_descriptionLine {record : Record} (hdescription : '[' ∉ record.description.toList)
    {behind : List Char} (hbehind : '[' ∉ behind) :
    Renders 0 0 ((descriptionLine record).toList ++ behind) := by
  have hdim (chars : List Char) (h : Renders 0 1 chars) :
      Renders 0 0 ("[dim]".toList ++ chars) :=
    renders_open "dim".toList chars rfl (fun _ => ⟨_, rfl⟩) h
  rw [descriptionLine]
  split
  · have hclosed : ∀ slashes, Renders slashes 1 ("[/]".toList ++ behind) := fun _ =>
      renders_close (renders_of_no_bracket hbehind)
    have hshown : Renders 0 1 ("No description".toList ++ ("[/]".toList ++ behind)) :=
      renders_append (by decide) hclosed
    exact hdim _ hshown
  · exact renders_append (no_bracket_escape hdescription) fun _ => renders_of_no_bracket hbehind

/-- **Without brackets** the panel of a package that is not outdated can be rendered. -/
theorem renders_overview (hplain : overview.record.Unbracketed)
    (hlatest : overview.isOutdated = false) :
    ∃ shown, Markup.render ("\n".intercalate (overviewLines overview)) = .ok shown := by
  have hclosing := no_bracket_intercalate (no_bracket_closingLines hplain)
  simp only [Record.Unbracketed, List.forall_mem_cons] at hplain
  obtain ⟨hname, hversion, hdescription, -⟩ := hplain
  have hlines : overviewLines overview =
      s!"[bold cyan]{escape overview.record.name}[/] {escape overview.record.version}" :: "" ::
        descriptionLine overview.record :: closingLines overview := by
    simp [overviewLines, descriptionLine, closingLines, hlatest]
  have hmore : closingLines overview ≠ [] := by simp [closingLines]
  generalize hbehind : ("\n".intercalate (closingLines overview)).toList = behind at hclosing
  have htext : ("\n".intercalate (overviewLines overview)).toList =
      "[bold cyan]".toList ++ ((escape overview.record.name).toList ++ ("[/]".toList ++
        ((' ' :: (escape overview.record.version).toList ++ ['\n']) ++ ('\n' ::
          ((descriptionLine overview.record).toList ++ '\n' :: behind))))) := by
    rw [hlines, String.intercalate_cons_cons, String.intercalate_cons_cons,
      String.intercalate_cons_of_ne_nil hmore, ← hbehind]
    simp [toString]
  have hstyle (chars : List Char) (h : Renders 0 1 chars) :
      Renders 0 0 ("[bold cyan]".toList ++ chars) :=
    renders_open "bold cyan".toList chars rfl (fun _ => ⟨_, rfl⟩) h
  have hdescribed : Renders 0 0 ((descriptionLine overview.record).toList ++ '\n' :: behind) :=
    renders_descriptionLine hdescription (by simp [hclosing])
  have hversioned : Renders 0 0 ((' ' :: (escape overview.record.version).toList ++ ['\n']) ++
      ('\n' :: ((descriptionLine overview.record).toList ++ '\n' :: behind))) :=
    renders_append (by simp [no_bracket_escape hversion]) fun _ =>
      renders_cons (by decide) (by decide) hdescribed
  apply exists_render
  rw [htext]
  exact hstyle _ (renders_append (no_bracket_escape hname) fun _ => renders_close hversioned)

end Command

/-! ## Lookups -/

/-- The record with a version is shown, as the latest one and as the one that was asked for. -/
structure Index.Overview.Shows (overview : Overview) (version : String) : Prop where
  record : overview.record.version = version
  latest : overview.latest = version
  latestSatisfying : overview.latestSatisfying = version
  upToDate : overview.isOutdated = false

/-- An instant at which caches hold what the replies give and notices have a cooldown, in a world
that leaves it so. -/
structure Instant.Dependable (answer replies : Request → Reply) (world : World Registry)
    (instant : Instant Registry) : Prop where
  keeps_coherence : world.Keeps (Registry.coherence answer replies)
  keeps_cooling : world.Keeps Registry.cooling
  coherent : instant.state.Coherent answer replies
  cooldown : Registry.cooling.state instant.state

namespace Instant

open Registry (coherence cooling)

variable {answer replies : Request → Reply} {handle : Handle} {author name : String}

theorem Dependable.ended_eq {α : Type} {lookup : Lookup α} {expected : Except Fault α}
    {world : World Registry} {instant : Instant Registry}
    (h : instant.Dependable answer replies world)
    (hsettles : Settles (coherence answer replies) (· = .noCooldown) lookup expected)
    (hbrowses : Lookup.Browses (fun _ => True) lookup) : instant.ended world lookup = expected :=
  ended_eq_of_settles hsettles hbrowses h.keeps_coherence h.keeps_cooling h.coherent h.cooldown

theorem settles_latest {found : Option (List String)}
    (hlisted : Plain.versions replies handle author name = .ok found) :
    Settles (coherence answer replies) (· = .noCooldown) (Lookup.latest handle author name)
      (.ok (found.bind (·.head?))) := by
  have hversions : Settles (coherence answer replies) (· = .noCooldown)
      (Lookup.versions handle author name) (.ok found) :=
    hlisted ▸ settles_versions handle author name
  exact hversions.bind_ok (settles_pure _)

/-- What is described is the record that is picked. -/
theorem settles_describe {package : Index.Package} {requirement newest : String}
    {rest : List String} {record : Record}
    (hfound : (Plain.packageFound replies handle author name).value = some package)
    (hpicked : package.findSatisfying? requirement = .ok (some record))
    (hlisted : package.newestFirst = .ok (newest :: rest)) :
    Settles (coherence answer replies) (· = .noCooldown)
      (Lookup.describe handle author name requirement)
      (.ok (some ⟨record, newest, record.version, handle.url⟩)) := by
  refine (settles_packageFound handle author name).bind_ok ?_
  rw [hfound]
  have hrecord : Settles (coherence answer replies) (· = .noCooldown)
      (Lookup.ofVersions (package.findSatisfying? requirement)) (.ok (some record)) := by
    rw [hpicked]
    exact settles_pure _
  have hnewest : Settles (coherence answer replies) (· = .noCooldown)
      (Lookup.ofVersions package.newestFirst) (.ok (newest :: rest)) := by
    rw [hlisted]
    exact settles_pure _
  exact hrecord.bind_ok (hnewest.bind_ok (settles_pure _))

end Instant

namespace Plain

variable {replies : Request → Reply} {handle : Handle} {author name : String}

/-- The versions of a package are listed if they are canonical. -/
theorem exists_versions (hpublished : ∀ package ∈ (packageFound replies handle author name).value,
      ∀ text ∈ package.versionTexts, Version.TextCanonical text) :
    ∃ found, versions replies handle author name = .ok found := by
  rw [versions]
  cases hfound : (packageFound replies handle author name).value with
  | none => exact ⟨none, rfl⟩
  | some package =>
      dsimp only
      rw [Index.Package.newestFirst_eq (hpublished package hfound)]
      exact ⟨_, rfl⟩

theorem of_versions {sorted : List String}
    (hlisted : versions replies handle author name = .ok (some sorted)) :
    ∃ package, (packageFound replies handle author name).value = some package ∧
      package.newestFirst = .ok sorted := by
  rw [versions] at hlisted
  cases hfound : (packageFound replies handle author name).value with
  | none =>
      rw [hfound] at hlisted
      cases hlisted
  | some package =>
      rw [hfound] at hlisted
      dsimp only at hlisted
      cases hsorted : package.newestFirst with
      | error error =>
          rw [hsorted] at hlisted
          cases hlisted
      | ok texts =>
          rw [hsorted] at hlisted
          cases hlisted
          exact ⟨package, rfl, hsorted⟩

end Plain

namespace Instant

open Registry (coherence)

/-- **The latest version is described** when its text is asked for. -/
theorem exists_overview {replies : Request → Reply} {handle : Handle} {author name newest : String}
    {rest : List String}
    (hpublished : ∀ package ∈ (Plain.packageFound replies handle author name).value,
      ∀ text ∈ package.versionTexts, Version.TextCanonical text)
    (hlisted : Plain.versions replies handle author name = .ok (some (newest :: rest)))
    (hnewest : newest ≠ "") :
    ∃ overview : Index.Overview, overview.Shows newest ∧
      ∀ answer, Settles (coherence answer replies) (· = .noCooldown)
        (Lookup.describe handle author name newest) (.ok (some overview)) := by
  obtain ⟨package, hfound, hsorted⟩ := Plain.of_versions hlisted
  obtain ⟨record, hpicked, rfl⟩ :=
    Index.Package.findSatisfying?_newest_listed (hpublished package hfound) hsorted hnewest
  refine ⟨_, ⟨rfl, rfl, rfl, ?_⟩, fun answer => settles_describe hfound hpicked hsorted⟩
  simp [Index.Overview.isOutdated]

end Instant

/-! ## Commands -/

namespace Console

variable {α β : Type} {action other : Console α}

/-- An action does what another one does, behind some use of registries. -/
def ComesTo (action other : Console α) : Prop :=
  ∀ transcript : Transcript, ∃ openings events notices,
    (action.run.run transcript : Except Stop α × Transcript) =
      other.run.run { transcript with openings, events, notices }

theorem ComesTo.bind {value : α} {next : α → Console β} {last : Console β}
    (h : ComesTo action (pure value)) (hnext : ComesTo (next value) last) :
    ComesTo (action >>= next) last := by
  intro transcript
  obtain ⟨openings, events, notices, hrun⟩ := h transcript
  obtain ⟨openings', events', notices', hlast⟩ :=
    hnext { transcript with openings, events, notices }
  refine ⟨openings', events', notices', ?_⟩
  rw [run_bind, hrun]
  exact hlast

theorem comesTo_self (action : Console α) : ComesTo action action := fun transcript =>
  ⟨transcript.openings, transcript.events, transcript.notices, rfl⟩

/-- A lookup that ends with a value shows nothing. -/
theorem comesTo_lookUp {settings : Settings} {host : Host} {lookup : Lookup α} {value : α}
    (h : (⟨openedRegistry settings, 0⟩ : Instant Registry).ended (.steady host.answer) lookup =
      .ok value) : ComesTo (lookUp settings host lookup) (pure (.ok value)) := by
  rw [Instant.ended, Action.play_steady] at h
  intro transcript
  rw [lookUp]
  rcases hrun : Action.run lookup.run host.answer (openedRegistry settings) with ⟨registry, result⟩
  rw [hrun] at h
  obtain rfl : result = .ok value := h
  exact ⟨_, _, _, rfl⟩

/-- A command is given a package without a version.  It asks the client of its index, and its
notices have a cooldown. -/
structure Asks (settings : Settings) (text : String) (index : Option String) (handle : Handle)
    (author name : String) : Prop where
  named : (Specifier.parse text).Named
  author : (Specifier.parse text).author = author
  name : (Specifier.parse text).name = name
  unversioned : (Specifier.parse text).requirement = ""
  client : ((index.filter (· ≠ "")).or settings.defaultIndex).bind Handle.find? = some handle
  cooldown : settings.cooldown.isSome = true

/-- The replies to the requests of a command. -/
def replies (settings : Settings) (host : Host) : Request → Reply :=
  (openedRegistry settings).fetcher.replies host.answer

/-- What a lookup settles on is what a command works with. -/
theorem comesTo_lookUpIn {settings : Settings} {host : Host} {text : String}
    {index : Option String} {handle : Handle} {author name : String}
    (hasks : Asks settings text index handle author name) {lookup : Handle → Lookup α} {value : α}
    (hsettles : Instant.Settles (Registry.coherence host.answer (replies settings host))
      (· = .noCooldown) (lookup handle) (.ok value))
    (hbrowses : ∀ handle, Lookup.Browses (fun _ => True) (lookup handle)) :
    ComesTo (lookUpIn settings host index lookup) (pure value) := by
  obtain ⟨url, hurl, hclient⟩ := Option.bind_eq_some_iff.mp hasks.client
  let start : Instant Registry := ⟨openedRegistry settings, 0⟩
  have hcoherent : start.state.Coherent host.answer (replies settings host) :=
    Registry.coherent_new ..
  have hcooldown : Registry.cooling.state start.state := hasks.cooldown
  have hrequire : Instant.Settles (Registry.coherence host.answer (replies settings host))
      (· = .noCooldown) (Lookup.require url) (.ok handle) := by
    have hfound := @StoreCall.settles_require host.answer (replies settings host) url
    rwa [hclient] at hfound
  have hkeeps : Instant.Keeps Registry.cooling (fun _ => True) (· ≠ .noCooldown)
      (Lookup.require url >>= lookup) := by
    refine (StoreCall.keeps_cooling_require url).bind fun other _ => ?_
    refine (Instant.keeps_cooling_browses (hbrowses other)).weaken ?_
    rintro fault ⟨error, -, rfl⟩
    exact nofun
  have hended : start.ended (.steady host.answer) (Lookup.require url >>= lookup) = .ok value := by
    rcases (hrequire.bind_ok hsettles).ended_cases (World.keeps_coherence_steady ..) hcoherent with
      hexpected | ⟨fault, rfl, hfault⟩
    · exact hexpected
    · have hnever := hkeeps.ended (World.keeps_cooling_steady host.answer) hcooldown
      exact absurd rfl (hnever.of_error hfault)
  rw [lookUpIn, hurl]
  exact (comesTo_lookUp hended).bind (comesTo_self _)

theorem printPanel_ok {markup shown : String} (h : Markup.render markup = .ok shown) :
    printPanel "Package" markup = emit (.panel "Package" shown) := by
  have htitle : text "Package" = pure "Package" := rfl
  have htext : text markup = pure shown := by rw [text, h]
  rw [printPanel, htitle, htext, pure_bind, pure_bind]

theorem printPanel_error {markup : String} {error : Markup.MarkupError}
    (h : Markup.render markup = .error error) :
    printPanel "Package" markup = breakDown (.markup error) := by
  have htitle : text "Package" = pure "Package" := rfl
  have htext : text markup = breakDown (.markup error) := by rw [text, h]
  rw [printPanel, htitle, htext, pure_bind]
  rfl

end Console

namespace Command

open Console
open Markup (escape)

variable {settings : Settings} {around : Surroundings} {text : String} {index : Option String}
  {handle : Handle} {author name newest : String} {rest : List String}

/-- The versions are listed in a table. -/
theorem comesTo_runVersions (hasks : Asks settings text index handle author name)
    (hlisted : Plain.versions (replies settings around.host) handle author name =
      .ok (some (newest :: rest))) :
    ComesTo (runVersions settings around text index)
      (printTable s!"{author}/{name} ({rest.length + 1} versions)" ["Version"]
        ((newest :: rest).map fun version => [escape version])) := by
  have hversions : ComesTo (lookUpIn settings around.host index fun handle =>
      Lookup.versions handle author name) (pure (some (newest :: rest))) :=
    comesTo_lookUpIn hasks (hlisted ▸ Instant.settles_versions handle author name)
      fun other => Lookup.browses_versions other author name fun _ _ => trivial
  have hrow : versionRow "" = fun version => pure [escape version] := rfl
  rw [runVersions, splitSpecifier_of_named hasks.named, pure_bind, hasks.author, hasks.name,
    hasks.unversioned]
  refine hversions.bind ?_
  simp only [Option.getD_some, List.isEmpty_cons, Bool.false_eq_true, if_false, if_true, hrow,
    List.mapM_pure, pure_bind, List.length_cons]
  exact comesTo_self _

/-- What is described for the latest version is shown in a panel. -/
theorem comesTo_runInfo (hasks : Asks settings text index handle author name)
    (hlisted : Plain.versions (replies settings around.host) handle author name =
      .ok (some (newest :: rest))) (hnewest : newest ≠ "") {overview : Index.Overview}
    (hdescribed : Instant.Settles
      (Registry.coherence around.host.answer (replies settings around.host)) (· = .noCooldown)
      (Lookup.describe handle author name newest) (.ok (some overview))) :
    ComesTo (runInfo settings around text index)
      (printPanel "Package" ("\n".intercalate (overviewLines overview))) := by
  have hlookup (other : Handle) : lookUpOverview (Specifier.parse text) other =
      (Lookup.latest other author name >>= fun wanted =>
        (wanted.filter (· ≠ "")).elim (pure none) (Lookup.describe other author name)) := by
    rw [lookUpOverview, if_pos hasks.unversioned, hasks.author, hasks.name]
    refine congrArg (Lookup.latest other author name >>= ·) (funext fun wanted => ?_)
    beta_reduce
    cases wanted.filter (· ≠ "") <;> rfl
  have hoverview : ComesTo (lookUpIn settings around.host index
      (lookUpOverview (Specifier.parse text))) (pure (some overview)) := by
    refine comesTo_lookUpIn hasks ?_ fun other => ?_
    · rw [hlookup]
      refine (Instant.settles_latest hlisted).bind_ok ?_
      have hwanted : (some newest).filter (· ≠ "") = some newest := by simp [hnewest]
      dsimp only [Option.bind_some, List.head?_cons]
      rw [hwanted]
      exact hdescribed
    · rw [hlookup]
      refine (Lookup.browses_latest other author name fun _ _ => trivial).bind fun wanted => ?_
      cases wanted.filter (· ≠ "") with
      | none => exact .pure none
      | some requirement =>
          exact Lookup.browses_describe other author name requirement fun _ _ => trivial
  rw [runInfo, splitSpecifier_of_named hasks.named, pure_bind]
  exact hoverview.bind (comesTo_self _)

/-- **The first listed version is shown.**  Let each request have one reply, and let the versions of
the package that is found be canonical.  Whatever is in the caches, the latest version is the first
one that is listed.  If it has a text, this text as a requirement describes a record with just this
version, which is the latest one and the one that was asked for, and not outdated.  A command that
is given no version comes down to showing it: the lines of the panel are rendered and shown, unless
their markup closes a style that is not open, and then the command breaks down.  If no text of the
record has an opening bracket, they are shown. -/
theorem first_listed_shown {replies : Request → Reply} {handle : Handle} {author name : String}
    (hpublished : ∀ package ∈ (Plain.packageFound replies handle author name).value,
      ∀ text ∈ package.versionTexts, Version.TextCanonical text) :
    ∃ found : Option (List String),
      (∀ answer world (instant : Instant Registry), instant.Dependable answer replies world →
        instant.ended world (Lookup.versions handle author name) = .ok found ∧
          instant.ended world (Lookup.latest handle author name) =
            .ok (found.bind (·.head?))) ∧
      ∀ newest rest, found = some (newest :: rest) → newest ≠ "" →
        ∃ overview : Index.Overview, overview.Shows newest ∧
          (∀ answer world (instant : Instant Registry), instant.Dependable answer replies world →
            instant.ended world (Lookup.describe handle author name newest) =
                .ok (some overview) ∧
              instant.ended world (do
                Lookup.describe handle author name
                  ((← Lookup.latest handle author name).getD "")) = .ok (some overview)) ∧
          ∀ (settings : Settings) (around : Surroundings) (text : String) (index : Option String),
            Asks settings text index handle author name →
            Console.replies settings around.host = replies →
            let markup := "\n".intercalate (overviewLines overview)
            ComesTo (runVersions settings around text index)
                (printTable s!"{author}/{name} ({rest.length + 1} versions)" ["Version"]
                  ((newest :: rest).map fun version => [escape version])) ∧
              (∀ shown, Markup.render markup = .ok shown →
                ComesTo (runInfo settings around text index) (emit (.panel "Package" shown))) ∧
              (∀ error, Markup.render markup = .error error →
                ComesTo (runInfo settings around text index) (breakDown (.markup error))) ∧
              (overview.record.Unbracketed → ∃ shown, Markup.render markup = .ok shown) := by
  obtain ⟨found, hfound⟩ := Plain.exists_versions hpublished
  refine ⟨found, fun answer world instant hdependable => ⟨?_, ?_⟩, ?_⟩
  · have hsettles : Instant.Settles (Registry.coherence answer replies) (· = .noCooldown)
        (Lookup.versions handle author name) (.ok found) :=
      hfound ▸ Instant.settles_versions handle author name
    exact hdependable.ended_eq hsettles (Lookup.browses_versions _ _ _ fun _ _ => trivial)
  · exact hdependable.ended_eq (Instant.settles_latest hfound)
      (Lookup.browses_latest _ _ _ fun _ _ => trivial)
  · rintro newest rest rfl hnewest
    obtain ⟨overview, hshows, hdescribed⟩ := Instant.exists_overview hpublished hfound hnewest
    refine ⟨overview, hshows, fun answer world instant hdependable => ⟨?_, ?_⟩, ?_⟩
    · exact hdependable.ended_eq (hdescribed answer)
        (Lookup.browses_describe _ _ _ _ fun _ _ => trivial)
    · refine hdependable.ended_eq ((Instant.settles_latest hfound).bind_ok (hdescribed answer)) ?_
      exact (Lookup.browses_latest _ _ _ fun _ _ => trivial).bind fun _ =>
        Lookup.browses_describe _ _ _ _ fun _ _ => trivial
    · rintro settings around text index hasks rfl
      have hpanel := comesTo_runInfo hasks hfound hnewest (hdescribed around.host.answer)
      refine ⟨comesTo_runVersions hasks hfound, fun shown hshown => ?_, fun error herror => ?_,
        fun hplain => renders_overview hplain hshows.upToDate⟩
      · rwa [printPanel_ok hshown] at hpanel
      · rwa [printPanel_error herror] at hpanel

end Command

/-! ## A package of the public index -/

namespace PublicPackage

open Superscript (entry)

/-- The index has one package with a history. -/
def around (history : String) : Surroundings where
  folder := ⟨"/work", []⟩
  environment := []
  host := .repositories [("upliftgames/wally-index", {
    trees := [("main", .payload (entry "a" "tree" "ta")), ("ta", .payload (entry "b" "blob" "bb"))]
    blobs := [("bb", .payload (.string history))] })]

/-- The client of the index. -/
def client : Handle := .shared ⟨"upliftgames", "wally-index"⟩

/-- The replies to commands. -/
def replies (history : String) : Request → Reply := Console.replies {} (around history).host

/-- The beginning of a command. -/
def start : Instant Registry := ⟨Console.openedRegistry {}, 0⟩

theorem asks : Console.Asks {} "a/b" none client "a" "b" where
  named := ⟨by decide, by decide⟩
  author := by decide
  name := by decide
  unversioned := by decide
  client := by decide
  cooldown := rfl

theorem dependable (history : String) :
    start.Dependable (around history).host.answer (replies history)
      (.steady (around history).host.answer) where
  keeps_coherence := World.keeps_coherence_steady ..
  keeps_cooling := World.keeps_cooling_steady _
  coherent := Registry.coherent_new (around history).host.answer (Console.openedRegistry {}).fetcher
    (some defaultCooldown) none
  cooldown := rfl

/-- Two spellings of a release, and a candidate for it. -/
def spellings : String :=
  .ofList <| ["2.0.0-rc.10", "v2.0+mac", "2.0.0+linux"].flatMap fun version =>
    "\x7b\"package\": \x7b\"version\": \"".toList ++ version.toList ++ "\"\x7d\x7d\n".toList

/-- The name of the package has a tag in it that closes a style. -/
def bracketed : String :=
  "\x7b\"package\": \x7b\"name\": \"a/[/b]\", \"version\": \"1.0.0\"\x7d\x7d"

theorem spellings_canonical :
    ∀ package ∈ (Plain.packageFound (replies spellings) client "a" "b").value,
      ∀ text ∈ package.versionTexts, Version.TextCanonical text := by
  have htexts : (Plain.packageFound (replies spellings) client "a" "b").value.map
      (·.versionTexts) = some ["2.0.0-rc.10", "v2.0+mac", "2.0.0+linux"] := by
    decide +kernel
  intro package hpackage
  rw [Option.mem_def.mp hpackage] at htexts
  rw [show package.versionTexts = _ from Option.some.inj htexts]
  decide

/-- What is described for a version. -/
def described (history version : String) : Option Index.Overview :=
  (start.ended (.steady (around history).host.answer)
    (Lookup.describe client "a" "b" version)).toOption.join

end PublicPackage

namespace Command

open PublicPackage
open Console (ComesTo emit)

/-- Of two spellings of the latest release the first one is listed, described and shown. -/
theorem newest_spelling_shown :
    (∀ package ∈ (Plain.packageFound (replies spellings) client "a" "b").value,
        ∀ text ∈ package.versionTexts, Version.TextCanonical text) ∧
      start.Dependable (around spellings).host.answer (replies spellings)
        (.steady (around spellings).host.answer) ∧
      Console.Asks {} "a/b" none client "a" "b" ∧
      ∃ overview : Index.Overview, overview.Shows "v2.0+mac" ∧ overview.record.Unbracketed ∧
        described spellings "v2.0+mac" = some overview ∧
        ∃ shown, ComesTo (runInfo {} (around spellings) "a/b" none)
          (emit (.panel "Package" shown)) := by
  refine ⟨spellings_canonical, dependable spellings, asks, ?_⟩
  obtain ⟨found, hlisted, hnewest⟩ := first_listed_shown spellings_canonical
  have hfound : found = some ["v2.0+mac", "2.0.0+linux", "2.0.0-rc.10"] := by
    have hversions : (start.ended (.steady (around spellings).host.answer)
        (Lookup.versions client "a" "b")).toOption =
          some (some ["v2.0+mac", "2.0.0+linux", "2.0.0-rc.10"]) := by
      decide +kernel
    rw [(hlisted _ _ start (dependable spellings)).1] at hversions
    exact Option.some.inj hversions
  obtain ⟨overview, hshows, hdescribed, hshown⟩ := hnewest _ _ hfound (by decide)
  have hoverview : described spellings "v2.0+mac" = some overview := by
    rw [described, (hdescribed _ _ start (dependable spellings)).1]
    rfl
  have hplain : overview.record.Unbracketed := by
    have hall : ∀ other ∈ described spellings "v2.0+mac", other.record.Unbracketed := by
      decide +kernel
    exact hall overview hoverview
  obtain ⟨-, hpanel, -, hrenders⟩ := hshown {} (around spellings) "a/b" none asks rfl
  obtain ⟨shown, hrendered⟩ := hrenders hplain
  exact ⟨overview, hshows, hplain, hoverview, shown, hpanel shown hrendered⟩

/-- On the public index a version may be listed that cannot be shown: the page of its package is
not escaped. -/
theorem unescaped_page_not_shown :
    Console.Asks {} "a/b" none client "a" "b" ∧
      start.ended (.steady (around bracketed).host.answer) (Lookup.versions client "a" "b") =
        .ok (some ["1.0.0"]) ∧ Version.TextCanonical "1.0.0" ∧
      ((described bracketed "1.0.0").map fun overview =>
        (overview.record.version, overview.webUrl)) =
          some ("1.0.0", "https://wally.run/package/a/[/b]") ∧
      (runProgram (around bracketed) ["info", "a/b"]).exitCode = 1 ∧
      (runProgram (around bracketed) ["info", "a/b"]).transcript.printed = [] ∧
      ¬∃ shown, ComesTo (runInfo {} (around bracketed) "a/b" none) (emit shown) := by
  have hended : (runProgram (around bracketed) ["info", "a/b"]).exitCode = 1 ∧
      (runProgram (around bracketed) ["info", "a/b"]).transcript.printed = [] := by
    decide +kernel
  refine ⟨asks, eq_ok_of_toOption (by decide +kernel), by decide, by decide +kernel,
    hended.1, hended.2, ?_⟩
  rintro ⟨shown, hcomes⟩
  obtain ⟨openings, events, notices, hrun⟩ := hcomes {}
  have hstopped : ((runInfo {} (around bracketed) "a/b" none).run.run {} :
      Except Stop Unit × Transcript).1.toOption = none := by
    decide +kernel
  rw [hrun] at hstopped
  cases hstopped

end Command

end ManifestLint
