import ManifestLint.Proofs.Manifest.Printing
import ManifestLint.Proofs.Toml.Quotes

/-!
# Reading printed manifests

A printed manifest is read back with exactly the data it was printed from.  The reader looks
at three neighbouring tokens, and a line has three that carry meaning; so of the windows
over a printed manifest only those count that are a line, and reading is going through the
lines one after the other (`read_tokensOf`).

* `Told`: what has been read tells certain settings, dependencies and headings.
* `Told.block`, `Told.blocks`: what one more block adds, and what all of them do.
* `parse_print`: the whole manifest.
-/

namespace ManifestLint.Manifest

open ManifestLint.Toml

/-! ## Three tokens at a time -/

namespace Progress

variable {progress : Progress}

/-- What has been read after a line that starts at a position. -/
def line (progress : Progress) (start : Position) : Line → Progress
  | .heading name => progress.heading (.placed .unquotedKey (start.after ['[']) name.toList)
  | .assignment key value =>
    progress.assignment (.placed .unquotedKey start key.toList)
      (.placed .basicString (start.after (key.toList ++ [' ', '=', ' ']))
        ('"' :: (value.toList ++ ['"'])))

/-- An assignment stays in the table. -/
theorem table_assignment (start : Position) (key value : String) :
    (progress.line start (.assignment key value)).table = progress.table := by
  rw [line, assignment]
  dsimp only
  split
  · split <;> rfl
  · split <;> rfl

/-- A heading opens its table. -/
theorem table_heading (start : Position) (name : String) :
    (progress.line start (.heading name)).table = name := String.ofList_toList

/-- What has been read after some lines, the first of which has a number. -/
def lines (progress : Progress) : Nat → List Line → Progress
  | _, [] => progress
  | row, line :: rest => (progress.line ⟨row, 0⟩ line).lines (row + 1) rest

theorem lines_append (row : Nat) (first second : List Line) :
    progress.lines row (first ++ second) =
      (progress.lines row first).lines (row + first.length) second := by
  induction first generalizing progress row with
  | nil => rfl
  | cons line rest ih =>
      rw [List.cons_append, lines, lines, ih, List.length_cons, Nat.add_right_comm,
        Nat.add_assoc]

/-- Three tokens that are neither a heading nor an assignment tell nothing. -/
theorem step_inert {before token after : Token}
    (hheading : token.kind ≠ .unquotedKey ∨ before.category ≠ .leftSquare)
    (hassignment : token.category ≠ .equals) : progress.step before token after = progress := by
  have hno : isHeading before token after = false := by
    rcases hheading with hkind | hcategory
    · simp [isHeading, hkind]
    · simp [isHeading, hcategory]
  simp [step, hno, isAssignment, hassignment]

/-- Of the windows over the tokens of a line the first one counts. -/
theorem read_line (line : Line) (start : Position) {more : List Token}
    (hmore : ∀ token ∈ more.head?, token.category ≠ .equals) :
    progress.read (line.tokens start ++ more) = (progress.line start line).read more := by
  obtain ⟨first, second, last, htokens, hstep, hkind, hopen, hequals⟩ :
      ∃ first second last, line.tokens start = [first, second, last] ∧
        progress.step first second last = progress.line start line ∧
        last.kind ≠ .unquotedKey ∧ last.category ≠ .leftSquare ∧ last.category ≠ .equals := by
    cases line with
    | heading name => exact ⟨_, _, _, rfl, rfl, nofun, nofun, nofun⟩
    | assignment key value => exact ⟨_, _, _, rfl, rfl, nofun, nofun, nofun⟩
  rw [htokens, List.cons_append, List.cons_append, List.cons_append, List.nil_append, read,
    hstep]
  -- The other two windows reach into the next line: one has the closing token in its middle,
  -- the other has it in front of a bracket or a key.
  cases more with
  | nil => rfl
  | cons next others =>
      rw [read, step_inert (.inl hkind) hequals]
      cases others with
      | nil => rfl
      | cons third rest => rw [read, step_inert (.inr hopen) (hmore next rfl)]

/-- Reading the tokens of printed lines is going through the lines. -/
theorem read_tokensOf (row : Nat) (lines : List Line) :
    progress.read (tokensOf row lines) = progress.lines row lines := by
  induction lines generalizing progress row with
  | nil => rfl
  | cons line rest ih =>
      have hmore : ∀ token ∈ (tokensOf (row + 1) rest).head?, token.category ≠ .equals := by
        cases rest with
        | nil => simp [tokensOf]
        | cons next others =>
            cases next <;> simp [tokensOf, Line.tokens, Token.placed, Token.category,
              TokenKind.category]
      rw [tokensOf, read_line line _ hmore, ih]
      rfl

end Progress

/-! ## Quotes -/

theorem stripQuotes_quoted {value : List Char} (hvalue : ∀ c ∈ value, c ≠ '"') :
    stripQuotes ('"' :: (value ++ ['"'])) = value := by
  have hopen : openingQuote (['"'] ++ value ++ ['"']) = ['"'] := by
    cases value with
    | nil => rfl
    | cons c rest =>
        have hc : ('"' == c) = false := by simpa using (hvalue c List.mem_cons_self).symm
        simp [openingQuote, List.isPrefixOf, hc]
  exact stripQuotes_between (by simp [quotes]) hopen

theorem stripQuotes_bare {key : String} (hkey : IsBareKey key) :
    stripQuotes key.toList = key.toList := by
  obtain ⟨c, rest, htext⟩ := List.exists_cons_of_ne_nil hkey.1
  have hc : isKeyChar c = true := hkey.2 c (by simp [htext])
  have hdouble : ('"' == c) = false := by simpa using (ne_of_isKeyChar hc '"' rfl).symm
  have hsingle : ('\'' == c) = false := by simpa using (ne_of_isKeyChar hc '\'' rfl).symm
  rw [htext, stripQuotes]
  simp [quotes, List.isPrefixOf, hdouble, hsingle]

/-! ## First occurrences -/

section

variable {tables : Entries String Span} {names : List String}

/-- A name that is put in only where it is missing adds a key at its first occurrence. -/
theorem keys_putNew (hkeys : tables.keys = names.eraseDups) (name : String) (span : Span) :
    (if tables.has name then tables else tables.put name span).keys =
      (names ++ [name]).eraseDups := by
  have hmem : name ∈ names ↔ tables.has name = true := by
    rw [← Entries.mem_keys_iff, hkeys, List.mem_eraseDups]
  rw [List.eraseDups_append, ← hkeys]
  by_cases hhas : tables.has name = true
  · have hnone : [name].removeAll names = [] := by simp [List.removeAll, hmem.mpr hhas]
    rw [if_pos hhas, hnone]
    simp
  · have hsome : [name].removeAll names = [name] := by simp [List.removeAll, hmem, hhas]
    have hnew : name ∉ tables.keys := fun hkey => hhas ((Entries.mem_keys_iff _ _).mp hkey)
    rw [if_neg hhas, hsome, Entries.keys_put, if_neg hnew]
    rfl

theorem get?_putNew (name other : String) (span : Span) :
    (if tables.has name then tables else tables.put name span).get? other =
      (tables.get? other).or (if name = other then some span else none) := by
  by_cases hhas : tables.has name = true
  · rw [if_pos hhas]
    split
    · next hsame =>
        subst hsame
        obtain ⟨found, hfound⟩ := Option.isSome_iff_exists.mp hhas
        rw [hfound, Option.some_or]
    · rw [Option.or_none]
  · rw [if_neg hhas, Entries.get?_put]
    split
    · next hsame =>
        subst hsame
        have hnone : tables.get? name = none := by simpa [Entries.has] using hhas
        rw [hnone, Option.none_or]
    · rw [Option.or_none]

end

/-! ## Assignments -/

/-- The field of a printed assignment. -/
theorem field_eq {key value : String} (hkey : IsBareKey key) (hvalue : IsPlain value)
    {before after : Token} (hbefore : before.text = key.toList)
    (hafter : after.text = '"' :: (value.toList ++ ['"'])) :
    (field before after).key = key ∧ (field before after).raw = "\"" ++ value ++ "\"" ∧
      (field before after).text = value ∧ (field before after).placeholder = false := by
  have hraw : String.ofList ('"' :: (value.toList ++ ['"'])) = "\"" ++ value ++ "\"" := by
    apply String.toList_injective
    simp
  simp only [field, hbefore, hafter, stripQuotes_bare hkey, String.ofList_toList,
    stripQuotes_quoted fun c hc => (hvalue c hc).1, hraw]
  trivial

/-- A field of the package table has the value that was assigned last, or it is a placeholder
with the default. -/
def Declares (key : PackageKey) (field : Field) : Option String → Prop
  | none => field = key.undeclared
  | some value =>
    field.key = key.text ∧ field.raw = "\"" ++ value ++ "\"" ∧ field.text = value ∧
      field.placeholder = false

/-- The value that was assigned to a key last, if one was. -/
def lastValue? (key : PackageKey) (settings : List Setting) : Option String :=
  ((settings.filter fun setting => setting.key = key).getLast?).map Setting.value

theorem lastValue?_append (key : PackageKey) (settings : List Setting) (added : Setting) :
    lastValue? key (settings ++ [added]) =
      if added.key = key then some added.value else lastValue? key settings := by
  by_cases hkey : added.key = key <;> simp [lastValue?, hkey]

/-- The parts of a dependency. -/
def Entry.specifier (entry : Entry) : Specifier where
  author := entry.author
  name := entry.name
  requirement := entry.requirement
  coerced := (Version.coerced? entry.requirement).getD ""
  fullAuthor := true
  fullName := true

/-- The dependency of a printed assignment. -/
theorem dependency_eq (entry : Entry) {before after : Token}
    (hbefore : before.text = entry.key.toList)
    (hafter : after.text = '"' :: (entry.value.toList ++ ['"'])) :
    ((dependency before after).key, (dependency before after).text,
      (dependency before after).specifier) = (entry.key, entry.value, entry.specifier) := by
  obtain ⟨hkey, -, htext, -⟩ := field_eq entry.bareKey entry.plain_value hbefore hafter
  have hspecifier : Specifier.parse entry.value = entry.specifier :=
    Specifier.parse_eq entry.authorWord entry.nameWord
  change ((field before after).key, (field before after).text,
    Specifier.parse (field before after).text) = _
  rw [hkey, htext, hspecifier]

/-- The span of a heading: its name, on its line. -/
def headingSpan (name : String) (row : Nat) : Span :=
  ⟨⟨row, 1⟩, ⟨row, 1 + name.length⟩⟩

/-- The headings of some blocks with their lines, the first of which has a number. -/
def headingsOf : Nat → List Block → List (String × Nat)
  | _, [] => []
  | row, block :: rest => (block.table, row) :: headingsOf (row + block.lines.length) rest

theorem headingsOf_append (row : Nat) (before after : List Block) :
    headingsOf row (before ++ after) = headingsOf row before ++
      headingsOf (row + (before.flatMap Block.lines).length) after := by
  induction before generalizing row with
  | nil => rfl
  | cons first rest ih =>
      simp only [List.cons_append, headingsOf, ih, List.flatMap_cons, List.length_append,
        Nat.add_assoc]

theorem map_headingsOf (row : Nat) (blocks : List Block) :
    (headingsOf row blocks).map Prod.fst = blocks.map Block.table := by
  induction blocks generalizing row with
  | nil => rfl
  | cons first rest ih => simp [headingsOf, ih]

/-- What has been read tells certain settings, dependencies and headings, these with their
lines. -/
structure Told (progress : Progress) (settings : List Setting) (entries : Realm → List Entry)
    (headings : List (String × Nat)) : Prop where
  package : ∀ key, Declares key (progress.manifest.package.get key) (lastValue? key settings)
  dependencies : ∀ realm,
    (progress.manifest.dependencies.get realm).map
        (fun told => (told.key, told.text, told.specifier)) =
      (entries realm).map fun entry => (entry.key, entry.value, entry.specifier)
  keys : progress.manifest.tables.keys = (headings.map Prod.fst).eraseDups
  spans : ∀ name, progress.manifest.tables.get? name =
    (headings.find? fun heading => heading.1 = name).map fun heading =>
      headingSpan heading.1 heading.2

theorem told_new : Told {} [] (fun _ => []) [] where
  package key := by cases key <;> rfl
  dependencies realm := by cases realm <;> rfl
  keys := rfl
  spans _ := rfl

/-! ## Lines that tell something -/

namespace Progress

variable {progress : Progress}

/-- A heading opens its table, and the table is noted where it is new. -/
theorem line_heading {name : String} (hname : IsBareKey name) (row : Nat) :
    progress.line ⟨row, 0⟩ (.heading name) =
      { manifest := { progress.manifest with
          tables := if progress.manifest.tables.has name then progress.manifest.tables
            else progress.manifest.tables.put name (headingSpan name row) }
        table := name } := by
  let token := Token.placed .unquotedKey ((⟨row, 0⟩ : Position).after ['[']) name.toList
  have hspan : token.span = headingSpan name row := by
    have hfeed : '\n' ∉ name.toList := fun hmem => ne_of_isKeyChar (hname.2 _ hmem) '\n' rfl rfl
    have hstart : (⟨row, 0⟩ : Position).after ['['] = ⟨row, 1⟩ := rfl
    change (⟨_, Position.after _ name.toList⟩ : Span) = _
    rw [hstart, Position.after_of_no_feed hfeed, String.length_toList]
    rfl
  have htext : String.ofList token.text = name := String.ofList_toList
  change progress.heading token = _
  rw [heading, ← hspan]
  dsimp only
  rw [htext]

/-- In the package table an assignment sets the field of its key. -/
theorem line_setting (htable : progress.table = "package") (start : Position) (added : Setting) :
    ∃ field, progress.line start (.assignment added.key.text added.value) =
        { progress with manifest := { progress.manifest with
            package := progress.manifest.package.set added.key field } } ∧
      Declares added.key field (some added.value) := by
  let key := Token.placed .unquotedKey start added.key.text.toList
  let value := Token.placed .basicString (start.after (added.key.text.toList ++ [' ', '=', ' ']))
    ('"' :: (added.value.toList ++ ['"']))
  have hdeclares : Declares added.key (field key value) (some added.value) :=
    field_eq (isBareKey_key added.key) added.plain rfl rfl
  have hslot : PackageKey.ofText? (.ofList (stripQuotes key.text)) = some added.key := by
    have hbare : stripQuotes key.text = added.key.text.toList :=
      stripQuotes_bare (isBareKey_key added.key)
    rw [hbare, String.ofList_toList]
    cases added.key <;> decide
  have hfield : packageField added.key key value = field key value := by
    have htext : (field key value).text = added.value := hdeclares.2.2.1
    rw [packageField, htext, if_neg (by simp [added.filled])]
  refine ⟨field key value, ?_, hdeclares⟩
  change progress.assignment key value = _
  rw [assignment, ← hfield]
  dsimp only
  rw [if_pos htable, hslot]

/-- In a table of dependencies an assignment adds a dependency. -/
theorem line_entry {realm : Realm} (htable : progress.table = realm.table) (start : Position)
    (added : Entry) :
    ∃ dependency, progress.line start (.assignment added.key added.value) =
        { progress with manifest := { progress.manifest with
            dependencies := progress.manifest.dependencies.add realm dependency } } ∧
      (dependency.key, dependency.text, dependency.specifier) =
        (added.key, added.value, added.specifier) := by
  let key := Token.placed .unquotedKey start added.key.toList
  let value := Token.placed .basicString (start.after (added.key.toList ++ [' ', '=', ' ']))
    ('"' :: (added.value.toList ++ ['"']))
  have hother : progress.table ≠ "package" := by
    rw [htable]
    cases realm <;> decide
  have hrealm : Realm.ofTable? progress.table = some realm := by
    rw [htable]
    cases realm <;> decide
  refine ⟨dependency key value, ?_, dependency_eq added rfl rfl⟩
  change progress.assignment key value = _
  rw [assignment]
  dsimp only
  rw [if_neg hother, hrealm]

end Progress

namespace Told

variable {progress : Progress} {settings : List Setting} {entries : Realm → List Entry}
  {headings : List (String × Nat)}

theorem heading (h : Told progress settings entries headings) {name : String}
    (hname : IsBareKey name) (row : Nat) :
    Told (progress.line ⟨row, 0⟩ (.heading name)) settings entries
      (headings ++ [(name, row)]) := by
  rw [Progress.line_heading hname row]
  refine ⟨h.package, h.dependencies, ?_, fun other => ?_⟩
  · rw [List.map_append]
    exact keys_putNew h.keys name _
  · refine (get?_putNew name other _).trans ?_
    rw [List.find?_append, Option.map_or, ← h.spans other]
    by_cases hsame : name = other <;> simp [hsame]

theorem setting (h : Told progress settings entries headings)
    (htable : progress.table = "package") (start : Position) (added : Setting) :
    Told (progress.line start (.assignment added.key.text added.value)) (settings ++ [added])
      entries headings := by
  obtain ⟨field, hline, hdeclares⟩ := Progress.line_setting htable start added
  rw [hline]
  refine ⟨fun other => ?_, h.dependencies, h.keys, h.spans⟩
  dsimp only
  rw [get_set, lastValue?_append]
  by_cases hsame : added.key = other
  · subst hsame
    simpa using hdeclares
  · simpa [hsame] using h.package other

theorem entry (h : Told progress settings entries headings) {realm : Realm}
    (htable : progress.table = realm.table) (start : Position) (added : Entry) :
    Told (progress.line start (.assignment added.key added.value)) settings
      (fun other => entries other ++ if realm = other then [added] else []) headings := by
  obtain ⟨dependency, hline, htold⟩ := Progress.line_entry htable start added
  rw [hline]
  refine ⟨h.package, fun other => ?_, h.keys, h.spans⟩
  dsimp only
  rw [get_add]
  by_cases hsame : realm = other
  · rw [if_pos hsame, if_pos hsame, List.map_append, List.map_append, h.dependencies other,
      List.map_singleton, List.map_singleton, htold]
  · rw [if_neg hsame, if_neg hsame, List.append_nil]
    exact h.dependencies other

/-- All assignments of a package table. -/
theorem settings_lines (h : Told progress settings entries headings)
    (htable : progress.table = "package") (row : Nat) (added : List Setting) :
    Told (progress.lines row
        (added.map fun setting => .assignment setting.key.text setting.value))
      (settings ++ added) entries headings := by
  induction added generalizing progress settings row with
  | nil => simpa [Progress.lines] using h
  | cons first rest ih =>
      have hfirst := h.setting htable ⟨row, 0⟩ first
      have hrest := ih hfirst ((Progress.table_assignment ..).trans htable) (row + 1)
      rwa [List.append_assoc] at hrest

/-- All assignments of a table of dependencies. -/
theorem entries_lines (h : Told progress settings entries headings) {realm : Realm}
    (htable : progress.table = realm.table) (row : Nat) (added : List Entry) :
    Told (progress.lines row (added.map fun entry => .assignment entry.key entry.value))
      settings (fun other => entries other ++ if realm = other then added else []) headings := by
  induction added generalizing progress entries row with
  | nil => simpa [Progress.lines] using h
  | cons first rest ih =>
      have hfirst := h.entry htable ⟨row, 0⟩ first
      have hrest := ih hfirst ((Progress.table_assignment ..).trans htable) (row + 1)
      have hsplit (other : Realm) : (entries other ++ if realm = other then [first] else []) ++
          (if realm = other then rest else []) =
            entries other ++ if realm = other then first :: rest else [] := by
        split <;> simp
      simp only [hsplit] at hrest
      exact hrest

/-- A block tells its assignments and its heading. -/
theorem block (h : Told progress settings entries headings) (row : Nat) (block : Block) :
    Told (progress.lines row block.lines) (settings ++ block.settings)
      (fun realm => entries realm ++ block.entries realm)
      (headings ++ [(block.table, row)]) := by
  cases block with
  | package added =>
      have hheading := h.heading isBareKey_package row
      have hall := hheading.settings_lines (Progress.table_heading ..) (row + 1) added
      have hentries : (fun realm => entries realm ++ (Block.package added).entries realm) =
          entries := funext fun realm => List.append_nil _
      rw [hentries]
      exact hall
  | dependencies realm added =>
      have hheading := h.heading (isBareKey_table realm) row
      have hall := hheading.entries_lines (Progress.table_heading ..) (row + 1) added
      rw [Block.settings, List.append_nil]
      exact hall

/-- Blocks tell all their assignments and headings. -/
theorem blocks (h : Told progress settings entries headings) (row : Nat) (blocks : List Block) :
    Told (progress.lines row (blocks.flatMap Block.lines))
      (settings ++ blocks.flatMap Block.settings)
      (fun realm => entries realm ++ blocks.flatMap (Block.entries realm))
      (headings ++ headingsOf row blocks) := by
  induction blocks generalizing progress settings entries headings row with
  | nil => simpa [headingsOf, Progress.lines] using h
  | cons first rest ih =>
      have hall := ih (h.block row first) (row + first.lines.length)
      simp only [List.append_assoc, ← List.flatMap_cons, List.singleton_append] at hall
      rw [List.flatMap_cons, Progress.lines_append]
      exact hall

end Told

/-- **Round trip.**  Blocks that are printed, one line after the other, are read back with
exactly their data: the dependencies of each realm in the order of the lines; in the package
table for each key the value that was assigned last, or a placeholder with the default; and
every table under its name, once, where its first heading stands. -/
theorem parse_print (first : Block) (others : List Block) (feed : Bool) :
    let blocks := first :: others
    ∃ manifest, parse (print blocks feed) = .ok manifest ∧
      (∀ realm,
        (manifest.dependencies.get realm).map
            (fun told => (told.key, told.text, told.specifier)) =
          (blocks.flatMap (Block.entries realm)).map fun entry =>
            (entry.key, entry.value, entry.specifier)) ∧
      (∀ key, Declares key (manifest.package.get key)
        (lastValue? key (blocks.flatMap Block.settings))) ∧
      manifest.tables.keys = (blocks.map Block.table).eraseDups ∧
      ∀ before block after, blocks = before ++ block :: after →
        block.table ∉ before.map Block.table →
          manifest.tables.get? block.table =
            some (headingSpan block.table (before.flatMap Block.lines).length) := by
  intro blocks
  obtain ⟨htokens, herrors⟩ := scan_print first others feed
  have htold := told_new.blocks 0 blocks
  have hparse : parse (print blocks feed) =
      .ok (({} : Progress).lines 0 (blocks.flatMap Block.lines)).manifest := by
    have hsome : (scan (print blocks feed).toList).tokens.isEmpty = false := by
      cases htext : (scan (print blocks feed).toList).tokens with
      | cons token rest => rfl
      | nil =>
          rw [htext] at htokens
          cases first <;> cases htokens
    rw [parse, ofChars, herrors, hsome]
    simp only [Bool.false_eq_true, if_false, ofTokens]
    rw [htokens, Progress.read_tokensOf]
  refine ⟨_, hparse, fun realm => ?_, fun key => ?_, ?_, ?_⟩
  · exact htold.dependencies realm
  · exact htold.package key
  · have hkeys := htold.keys
    rwa [List.nil_append, map_headingsOf] at hkeys
  · intro before block after hsplit hnew
    have hnone : ((headingsOf 0 before).find? fun heading => heading.1 = block.table) = none := by
      apply List.find?_eq_none.mpr
      intro heading hmem hsame
      have hname : heading.1 ∈ before.map Block.table :=
        map_headingsOf 0 before ▸ List.mem_map_of_mem hmem
      exact hnew (of_decide_eq_true hsame ▸ hname)
    rw [htold.spans, List.nil_append, hsplit, headingsOf_append, List.find?_append, hnone,
      Option.none_or, headingsOf, Nat.zero_add]
    simp

end ManifestLint.Manifest
