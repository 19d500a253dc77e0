import ManifestLint.Manifest.Reading
import ManifestLint.Proofs.Manifest.Dependencies
import ManifestLint.Proofs.Toml.Lines

/-!
# Printed manifests

A manifest is printed as blocks, each a heading and the assignments under it, with one of
them on a line.  What a line can hold is part of the data, so every list of blocks can be
printed.

* `Block`, `print`: what is printed, and how.
* `Line.scan_eq`: what the scanner finds on one line.
* `scan_print`: what it finds in a printed manifest.
-/

namespace ManifestLint.Manifest

open ManifestLint.Toml

/-! ## Blocks -/

/-- A text can stand between quotes as it is: it has no quotes, backslashes and line feeds. -/
def IsPlain (text : String) : Prop := ∀ c ∈ text.toList, c ≠ '"' ∧ c ≠ '\\' ∧ c ≠ '\n'

/-- A text is a bare key: ASCII letters, digits, underscores and hyphens, at least one. -/
def IsBareKey (text : String) : Prop :=
  text.toList ≠ [] ∧ ∀ c ∈ text.toList, isKeyChar c = true

instance (text : String) : Decidable (IsPlain text) := List.decidableBAll _ _

instance (text : String) : Decidable (IsBareKey text) :=
  have : Decidable (∀ c ∈ text.toList, isKeyChar c = true) := List.decidableBAll _ _
  inferInstanceAs (Decidable (_ ∧ _))

/-- An assignment in the package table. -/
structure Setting where
  key : PackageKey
  value : String
  plain : IsPlain value
  filled : isTemplate value.toList = false

/-- An assignment in a table of dependencies. -/
structure Entry where
  key : String
  author : String
  name : String
  requirement : String
  bareKey : IsBareKey key
  authorWord : Specifier.IsWord author.toList
  nameWord : Specifier.IsWord name.toList
  plain : IsPlain requirement

/-- The text that stands for a dependency. -/
def Entry.value (entry : Entry) : String :=
  entry.author ++ "/" ++ entry.name ++ "@" ++ entry.requirement

/-- A table with assignments. -/
inductive Block where
  | package (settings : List Setting)
  | dependencies (realm : Realm) (entries : List Entry)

namespace Block

/-- The name of the table. -/
def table : Block → String
  | package _ => "package"
  | dependencies realm _ => realm.table

/-- The assignments, if it is the package table. -/
def settings : Block → List Setting
  | package settings => settings
  | dependencies _ _ => []

/-- The dependencies of a realm, if it is their table. -/
def entries (realm : Realm) : Block → List Entry
  | package _ => []
  | dependencies other entries => if other = realm then entries else []

end Block

/-! ## Lines -/

/-- A line of a printed manifest. -/
inductive Line where
  | heading (name : String)
  | assignment (key value : String)

namespace Line

/-- How a line is printed. -/
def chars : Line → List Char
  | heading name => '[' :: (name.toList ++ [']'])
  | assignment key value => key.toList ++ ' ' :: '=' :: ' ' :: '"' :: (value.toList ++ ['"'])

/-- A line has keys and values that can be printed. -/
def Printable : Line → Prop
  | heading name => IsBareKey name
  | assignment key value => IsBareKey key ∧ IsPlain value

/-- The three tokens that carry meaning on a line that starts at a position. -/
def tokens (start : Position) : Line → List Token
  | heading name =>
    [.placed .leftSquare start ['['],
      .placed .unquotedKey (start.after ['[']) name.toList,
      .placed .rightSquare (start.after ('[' :: name.toList)) [']']]
  | assignment key value =>
    [.placed .unquotedKey start key.toList,
      .placed .equals (start.after (key.toList ++ [' '])) ['='],
      .placed .basicString (start.after (key.toList ++ [' ', '=', ' ']))
        ('"' :: (value.toList ++ ['"']))]

end Line

/-- The lines of a block. -/
def Block.lines : Block → List Line
  | package settings =>
    .heading "package" :: settings.map fun setting => .assignment setting.key.text setting.value
  | dependencies realm entries =>
    .heading realm.table :: entries.map fun entry => .assignment entry.key entry.value

/-- Prints blocks, one line after the other, with or without a line feed behind the last
line. -/
def print (blocks : List Block) (feed : Bool) : String :=
  let lines := blocks.flatMap Block.lines
  .ofList (['\n'].intercalate (lines.map Line.chars) ++ if feed then ['\n'] else [])

/-- A package and one of its dependencies. -/
example :
    print [.package [⟨.name, "a/b", by decide, by decide⟩],
        .dependencies .dev [⟨"x_1", "c", "d", "^1.0", by decide, ⟨rfl, nofun⟩, ⟨rfl, nofun⟩,
          by decide⟩]] false =
      "[package]\nname = \"a/b\"\n[dev-dependencies]\nx_1 = \"c/d@^1.0\"" := by
  decide

theorem isBareKey_package : IsBareKey "package" := by decide

theorem isBareKey_key (key : PackageKey) : IsBareKey key.text := by
  cases key <;> decide

theorem isBareKey_table (realm : Realm) : IsBareKey realm.table := by
  cases realm <;> decide

/-- Words are plain. -/
theorem plain_of_isWord {word : List Char} (h : Specifier.IsWord word) :
    ∀ c ∈ word, c ≠ '"' ∧ c ≠ '\\' ∧ c ≠ '\n' := by
  have hchar (c : Char) (hc : Specifier.isWordChar c = true) :
      c ≠ '"' ∧ c ≠ '\\' ∧ c ≠ '\n' := by
    refine ⟨?_, ?_, ?_⟩ <;> (rintro rfl; cases hc)
  cases word with
  | nil => simp
  | cons first rest =>
      obtain ⟨hfirst, hrest⟩ := h
      have hstart : Specifier.isWordChar first = true := by
        have halpha : first.isAlpha = true := hfirst
        simp [Specifier.isWordChar, Char.isAlphanum, halpha]
      exact List.forall_mem_cons.mpr ⟨hchar first hstart, fun c hc => hchar c (hrest c hc)⟩

theorem Entry.plain_value (entry : Entry) : IsPlain entry.value := by
  have hvalue : entry.value.toList = entry.author.toList ++
      '/' :: (entry.name.toList ++ '@' :: entry.requirement.toList) := by
    simp [value]
  intro c hc
  rw [hvalue, List.mem_append, List.mem_cons, List.mem_append, List.mem_cons] at hc
  rcases hc with hauthor | rfl | hname | rfl | hrequirement
  · exact plain_of_isWord entry.authorWord c hauthor
  · decide
  · exact plain_of_isWord entry.nameWord c hname
  · decide
  · exact entry.plain c hrequirement

/-- All lines of a block can be printed. -/
theorem Block.printable (block : Block) : ∀ line ∈ block.lines, line.Printable := by
  cases block with
  | package settings =>
      rw [lines, List.forall_mem_cons]
      refine ⟨isBareKey_package, fun line hline => ?_⟩
      obtain ⟨setting, -, rfl⟩ := List.mem_map.mp hline
      exact ⟨isBareKey_key setting.key, setting.plain⟩
  | dependencies realm entries =>
      rw [lines, List.forall_mem_cons]
      refine ⟨isBareKey_table realm, fun line hline => ?_⟩
      obtain ⟨entry, -, rfl⟩ := List.mem_map.mp hline
      exact ⟨entry.bareKey, entry.plain_value⟩

/-! ## Scanning -/

namespace Line

variable {line : Line} {start : Position} {more : List Char}

/-- The tokens of a line are found where a text follows that is empty or starts with a line
feed, and what follows is scanned as at the start of a line. -/
theorem scan_eq (hline : line.Printable) (hmore : ∀ c ∈ more.head?, c = '\n') :
    let scanned := scanFrom .initial start (line.chars ++ more)
    let others := scanFrom .initial (start.after line.chars) more
    significant scanned.tokens = line.tokens start ++ significant others.tokens ∧
      scanned.errors = others.errors := by
  intro scanned others
  cases line with
  | heading name =>
      obtain ⟨hne, hname⟩ : IsBareKey name := hline
      have hscanned : scanned = others.behind ((heading name).tokens start) := by
        have hheading := @scanFrom_heading start more _ hne hname
        simpa [scanned, others, chars, tokens] using hheading
      rw [hscanned]
      exact ⟨rfl, rfl⟩
  | assignment key value =>
      obtain ⟨⟨hne, hkey⟩, hvalue⟩ : IsBareKey key ∧ IsPlain value := hline
      have hquote : ∀ c ∈ more.head?, c ≠ '"' := by
        intro c hc
        simp [hmore c hc]
      have hassignment := @scanFrom_assignment start more _ _ hne hkey hvalue hquote
      have htext : (assignment key value).chars ++ more = key.toList ++
          ' ' :: '=' :: ' ' :: ('"' :: (value.toList ++ ['"']) ++ more) := by
        simp [chars]
      rw [← htext, scanFrom_lineEnd true hmore] at hassignment
      have hscanned : scanned = _ := hassignment
      rw [hscanned]
      exact ⟨rfl, rfl⟩

/-- A printed line has no line feed of its own. -/
theorem no_feed (hline : line.Printable) : '\n' ∉ line.chars := by
  have hkey : ∀ text, IsBareKey text → '\n' ∉ text.toList := by
    intro text htext hfeed
    exact ne_of_isKeyChar (htext.2 _ hfeed) '\n' rfl rfl
  cases line with
  | heading name => simpa [chars] using hkey name hline
  | assignment key value =>
      have hvalue : '\n' ∉ value.toList := fun hfeed => (hline.2 _ hfeed).2.2 rfl
      simpa [chars] using ⟨hkey key hline.1, hvalue⟩

end Line

/-- Behind a line feed the next line starts. -/
theorem scan_feed (start : Position) (more : List Char) :
    let scanned := scanFrom .initial start ('\n' :: more)
    let others := scanFrom .initial ⟨start.line + 1, 0⟩ more
    significant scanned.tokens = significant others.tokens ∧ scanned.errors = others.errors := by
  intro scanned others
  have hfeed : lexeme .initial '\n' more = ⟨.newline, 0, .initial, none⟩ := rfl
  have hscanned : scanned = others.behind [.placed .newline start ['\n']] :=
    scanFrom_single hfeed start
  rw [hscanned]
  exact ⟨rfl, rfl⟩

/-- The tokens that carry meaning on some lines, the first of which has a number. -/
def tokensOf : Nat → List Line → List Token
  | _, [] => []
  | row, line :: rest => line.tokens ⟨row, 0⟩ ++ tokensOf (row + 1) rest

/-- The tokens of printed lines are found, whether or not a line feed ends the last one. -/
theorem scan_lines {lines : List Line} (hne : lines ≠ [])
    (hlines : ∀ line ∈ lines, line.Printable) (row : Nat) (feed : Bool) :
    let scanned := scanFrom .initial ⟨row, 0⟩
      (['\n'].intercalate (lines.map Line.chars) ++ if feed then ['\n'] else [])
    significant scanned.tokens = tokensOf row lines ∧ scanned.errors = [] := by
  have hend (start : Position) : significant (scanFrom .initial start []).tokens = [] ∧
      (scanFrom .initial start []).errors = [] := by
    rw [scanFrom]
    exact ⟨rfl, rfl⟩
  induction lines generalizing row with
  | nil => exact absurd rfl hne
  | cons line rest ih =>
      obtain ⟨hline, hrest⟩ := List.forall_mem_cons.mp hlines
      cases rest with
      | nil =>
          rw [List.map_singleton, List.intercalate_singleton, tokensOf, tokensOf]
          cases feed with
          | false =>
              obtain ⟨htokens, herrors⟩ := @Line.scan_eq line ⟨row, 0⟩ [] hline (by simp)
              rw [(hend _).1] at htokens
              exact ⟨htokens, herrors.trans (hend _).2⟩
          | true =>
              obtain ⟨htokens, herrors⟩ := @Line.scan_eq line ⟨row, 0⟩ ['\n'] hline (by simp)
              obtain ⟨hfeed, hnone⟩ := scan_feed ((⟨row, 0⟩ : Position).after line.chars) []
              rw [hfeed, (hend _).1] at htokens
              exact ⟨htokens, (herrors.trans hnone).trans (hend _).2⟩
      | cons next others =>
          obtain ⟨hothers, hnone⟩ := ih (List.cons_ne_nil next others) hrest (row + 1)
          rw [List.map_cons] at hothers hnone
          rw [List.map_cons, List.map_cons, List.intercalate_cons_cons, List.append_assoc,
            List.append_assoc, List.singleton_append, tokensOf]
          generalize ['\n'].intercalate (next.chars :: others.map Line.chars) ++
            (if feed then ['\n'] else []) = more at hothers hnone ⊢
          obtain ⟨htokens, herrors⟩ :=
            @Line.scan_eq line ⟨row, 0⟩ ('\n' :: more) hline (by simp)
          obtain ⟨hfeed, hsame⟩ := scan_feed ((⟨row, 0⟩ : Position).after line.chars) more
          have hrow : (⟨((⟨row, 0⟩ : Position).after line.chars).line + 1, 0⟩ : Position) =
              ⟨(row + 1 : Nat), 0⟩ := by
            rw [Position.after_of_no_feed (Line.no_feed hline)]
            rfl
          rw [hrow] at hfeed hsame
          constructor
          · rw [← hothers, ← hfeed]
            exact htokens
          · rw [← hnone, ← hsame]
            exact herrors

/-- The tokens of a printed manifest. -/
theorem scan_print (first : Block) (others : List Block) (feed : Bool) :
    let scanned := scan (print (first :: others) feed).toList
    significant scanned.tokens = tokensOf 0 ((first :: others).flatMap Block.lines) ∧
      scanned.errors = [] := by
  intro scanned
  have hne : (first :: others).flatMap Block.lines ≠ [] := by
    cases first <;> simp [Block.lines]
  have hprintable : ∀ line ∈ (first :: others).flatMap Block.lines, line.Printable := by
    intro line hline
    obtain ⟨block, -, hmem⟩ := List.mem_flatMap.mp hline
    exact block.printable line hmem
  have htext : (print (first :: others) feed).toList =
      ['\n'].intercalate (((first :: others).flatMap Block.lines).map Line.chars) ++
        if feed then ['\n'] else [] := String.toList_ofList
  have hlines := scan_lines hne hprintable 0 feed
  rwa [← htext] at hlines

end ManifestLint.Manifest
