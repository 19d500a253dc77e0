import Mathlib.Data.List.Forall2
import ManifestLint.Index.Record
import ManifestLint.Proofs.Collections.Ending
import ManifestLint.Proofs.Json.Decoding
import ManifestLint.Proofs.Json.Places
import ManifestLint.Proofs.Text.Lines

/-!
# Histories of published versions

A history has one compact JSON object per line.  It is cut at every line end that Unicode knows,
though, and JSON lets three of these stand in a string as they are: the next line, the line
separator and the paragraph separator.  A line with one of them is torn.  Its first piece ends in a
string and is no document; the others start in a string, and what is an object among them has keys
that are made of marks, so that it says nothing about a version.

* `history_eq`, `history_of_torn`: a line that is not torn, and one that is.
* `history_of_lines`: whole histories.
-/

namespace ManifestLint.Record

open Text (isLineEnd splitLines)
open Json (Place quoted quotes_quoted)

/-! ## Objects -/

/-- An object describes a published version: its package is an object, whose authors are an array
if it has any. -/
def DescribesVersion (json : Json) : Prop :=
  ∃ members package, json = .object members ∧
    Entries.get? members "package" = some (.object package) ∧
      ∀ authors ∈ Entries.get? package "authors", ∃ items, authors = .array items

theorem presentTexts_of_array {members : Entries String Json} {key : String}
    (h : ∀ value ∈ Entries.get? members key, ∃ items, value = .array items) :
    ∃ texts, presentTexts members key = .ok texts := by
  unfold presentTexts
  cases hvalue : Entries.get? members key with
  | none => exact ⟨_, rfl⟩
  | some value =>
      obtain ⟨items, rfl⟩ := h value hvalue
      dsimp only
      split <;> exact ⟨_, rfl⟩

/-- What describes a published version is read. -/
theorem DescribesVersion.isRead {json : Json} (h : DescribesVersion json) :
    ∃ record, ofJson json = .ok record := by
  obtain ⟨members, package, rfl, hpackage, hauthors⟩ := h
  obtain ⟨authors, hread⟩ := presentTexts_of_array hauthors
  simp only [ofJson, Json.members, Except.mapError, bind, Except.bind, hpackage, hread,
    Option.getD_some]
  exact ⟨_, rfl⟩

/-! ## Lines of a history -/

/-- A line of a history: the compact document of an object that describes a published version. -/
structure IsLine (json : Json) (line : List Char) : Prop where
  describes : DescribesVersion json
  compact : Json.Compact (.value json) line

/-- No line end that JSON lets stand in a string tears a line. -/
def IsWhole (line : List Char) : Prop := ∀ c ∈ line, c.toNat ∉ [0x85, 0x2028, 0x2029]

instance (line : List Char) : Decidable (IsWhole line) := List.decidableBAll _ line

section

variable {json : Json} {line : List Char}

theorem IsLine.braces (h : IsLine json line) : ∃ inside, line = '{' :: (inside ++ ['}']) := by
  obtain ⟨⟨members, package, rfl, -⟩, hcompact⟩ := h
  cases hcompact with
  | noMembers => exact ⟨[], rfl⟩
  | object => exact ⟨_, rfl⟩

/-- A line is decoded as the object it was written for. -/
theorem ofLine?_eq (h : IsLine json line) : ofLine? line = (ofJson json).toOption := by
  obtain ⟨inside, rfl⟩ := h.braces
  have htrim := Text.trim_eq_self (c := '{') (d := '}') rfl rfl inside
  have hlast : ('{' :: (inside ++ ['}'])).getLast? = some '}' := by
    rw [← List.cons_append, List.getLast?_concat]
  rw [ofLine?, htrim]
  simp [hlast, Json.decodeChars_compact h.compact]

/-- The only line ends in a line that is not torn would be control characters. -/
theorem IsLine.no_lineEnd (h : IsLine json line) (hwhole : IsWhole line) :
    ∀ c ∈ line, isLineEnd c = false := by
  intro c hc
  have hlow := h.compact.no_control c hc
  have hraw := hwhole c hc
  simp only [List.mem_cons, List.not_mem_nil, or_false, not_or] at hraw
  simp [isLineEnd, hraw]
  omega

/-- A line that is not torn is read as the record of its object. -/
theorem history_eq (h : IsLine json line) (hwhole : IsWhole line) {record : Record}
    (hrecord : ofJson json = .ok record) : history line = [record] := by
  have hne : line ≠ [] := List.ne_nil_of_length_pos h.compact.length_pos
  rw [history, Text.splitLines_eq_singleton hne (h.no_lineEnd hwhole)]
  have hline : ofLine? line = some record := by rw [ofLine?_eq h, hrecord]; rfl
  rw [List.filterMap_cons_some hline, List.filterMap_nil]

end

/-! ## Torn lines -/

/-- A raw line end stands in a string, and leaves it open. -/
theorem inside_of_lineEnd {place : Place} {c : Char} (hend : isLineEnd c = true)
    (hlow : 0x20 ≤ c.toNat) (hallows : place.Allows c) :
    place = .inside ∧ place.step c = .inside := by
  have hascii : ¬ c.toNat < 0x80 := by
    simp only [isLineEnd, List.mem_cons, List.not_mem_nil, or_false, decide_eq_true_eq] at hend
    omega
  have hquote : c ≠ '"' := by
    rintro rfl
    exact hascii (by decide)
  have hescape : c ≠ '\\' := by
    rintro rfl
    exact hascii (by decide)
  cases place with
  | outside => exact absurd (Json.toNat_of_isMark (hallows.resolve_left hquote)) hascii
  | inside => exact ⟨rfl, Place.step_bare hquote hescape (by decide)⟩
  | escaped => exact absurd hallows hascii

/-- The pieces of a torn line.  The first one starts where the line starts and ends in a string, and
all others start in a string. -/
theorem splitLines_fits {place : Place} {text first : List Char} {others : List (List Char)}
    (hfits : place.Fits text) (hlow : ∀ c ∈ text, 0x20 ≤ c.toNat)
    (hsplit : splitLines text = first :: others) :
    place.Fits first ∧ ((∃ c ∈ text, isLineEnd c = true) → place.run first = .inside) ∧
      ∀ piece ∈ others, Place.Fits .inside piece := by
  induction text generalizing place first others with
  | nil => cases hsplit
  | cons c rest ih =>
      obtain ⟨hallows, hmore⟩ := hfits
      obtain ⟨hc, hrest⟩ := List.forall_mem_cons.mp hlow
      cases hend : isLineEnd c with
      | true =>
          obtain ⟨rfl, hstep⟩ := inside_of_lineEnd hend hc hallows
          rw [hstep] at hmore
          have hpair : c = '\r' → rest.head? ≠ some '\n' := by
            rintro rfl
            exact absurd hc (by decide)
          rw [Text.splitLines_lineEnd hend hpair] at hsplit
          obtain ⟨rfl, rfl⟩ := List.cons.inj hsplit
          refine ⟨trivial, fun _ => rfl, ?_⟩
          cases hmoreSplit : splitLines rest with
          | nil => simp
          | cons line lines =>
              obtain ⟨hline, -, hlines⟩ := ih hmore hrest hmoreSplit
              exact List.forall_mem_cons.mpr ⟨hline, hlines⟩
      | false =>
          rw [Text.splitLines_cons hend] at hsplit
          cases hmoreSplit : splitLines rest with
          | nil =>
              obtain rfl : rest = [] := by
                by_contra hne
                exact Text.splitLines_ne_nil hne hmoreSplit
              obtain ⟨rfl, rfl⟩ := List.cons.inj hsplit
              exact ⟨⟨hallows, trivial⟩, by simp [hend], by simp⟩
          | cons line lines =>
              rw [hmoreSplit] at hsplit
              obtain ⟨rfl, rfl⟩ := List.cons.inj hsplit
              obtain ⟨hline, hlast, hlines⟩ := ih hmore hrest hmoreSplit
              refine ⟨⟨hallows, hline⟩, ?_, hlines⟩
              rintro ⟨d, hd, hdend⟩
              rcases List.mem_cons.mp hd with rfl | hd
              · rw [hend] at hdend
                cases hdend
              · exact hlast ⟨d, hd, hdend⟩

theorem bare_of_blank {text : List Char} (h : ∀ c ∈ text, Text.isBlank c = true) :
    Json.Bare text := by
  intro c hc
  have hblank := h c hc
  constructor
  all_goals
    rintro rfl
    cases hblank

/-- A piece that ends in a string holds no record. -/
theorem ofLine?_of_run {piece : List Char} (h : Place.run .outside piece = .inside) :
    ofLine? piece = none := by
  obtain ⟨lead, trail, hpiece, hlead, htrail⟩ := Text.exists_trimmed Text.isBlank piece
  have hread : ∀ json, Json.decodeChars (Text.trim Text.isBlank piece) ≠ .ok json := by
    refine Json.decodeChars_of_run fun hrun => ?_
    rw [hpiece, Place.run_append, Place.run_bare (bare_of_blank hlead) (by decide),
      Place.run_append, hrun, Place.run_bare (bare_of_blank htrail) (by decide)] at h
    cases h
  unfold ofLine?
  dsimp only
  split
  · split
    · next data hdata => exact absurd hdata (hread data)
    · rfl
  · rfl

/-- The record of an object that says nothing about itself. -/
def blank : Record where
  name := ""
  version := ""
  dependencies := Realm.all.map fun realm => (realm, [])

/-- An object whose keys are made of marks says nothing about itself. -/
theorem ofJson_of_marks {data : Json}
    (h : Json.KeysAre (fun key => ∀ c ∈ key.toList, Json.isMark c = true) data) {record : Record}
    (hrecord : ofJson data = .ok record) : record = blank := by
  cases data with
  | object members =>
      have hnone {key : String} (hkey : 'p' ∈ key.toList) : Entries.get? members key = none := by
        cases hvalue : Entries.get? members key with
        | none => rfl
        | some value =>
            have hmark := h _ (Entries.mem_of_get? members key hvalue) 'p' hkey
            cases hmark
      have hpackage : Entries.get? members "package" = none := hnone (by decide)
      have hsection (realm : Realm) : section? members realm = some (realm, []) := by
        have htable : Entries.get? members realm.table = none := by
          cases realm <;> exact hnone (by decide)
        rw [section?, htable]
      simp only [ofJson, Json.members, Except.mapError, bind, Except.bind, hpackage,
        Option.getD_none, funext hsection] at hrecord
      exact (Except.ok.inj hrecord).symm
  | _ => cases hrecord

/-- A piece that starts in a string holds a blank record, if it holds any. -/
theorem ofLine?_of_fits {piece : List Char} (h : Place.Fits .inside piece) {record : Record}
    (hrecord : ofLine? piece = some record) : record = blank := by
  obtain ⟨lead, trail, hpiece, hlead, htrail⟩ := Text.exists_trimmed Text.isBlank piece
  have hfits : Place.Fits .inside (Text.trim Text.isBlank piece) := by
    rw [hpiece, Place.fits_append, Place.run_bare (bare_of_blank hlead) (by decide),
      Place.fits_append] at h
    exact h.2.1
  unfold ofLine? at hrecord
  dsimp only at hrecord
  split at hrecord
  · split at hrecord
    · next data hdata =>
        exact ofJson_of_marks (Json.keysAre_of_fits hfits hdata) (eq_ok_of_toOption hrecord)
    · cases hrecord
  · cases hrecord

/-- A torn line holds nothing but blank records. -/
theorem history_of_torn {json : Json} {line : List Char} (h : IsLine json line)
    (htorn : ¬ IsWhole line) : ∀ record ∈ history line, record = blank := by
  intro record hmem
  obtain ⟨piece, hpiece, hrecord⟩ := List.mem_filterMap.mp hmem
  have hend : ∃ c ∈ line, isLineEnd c = true := by
    simp only [IsWhole, not_forall, not_not] at htorn
    obtain ⟨c, hc, hraw⟩ := htorn
    refine ⟨c, hc, ?_⟩
    simp only [List.mem_cons, List.not_mem_nil, or_false] at hraw
    simp [isLineEnd, hraw]
  cases hsplit : splitLines line with
  | nil =>
      rw [hsplit] at hpiece
      cases hpiece
  | cons first others =>
      obtain ⟨-, hlast, hothers⟩ := splitLines_fits h.compact.closed.1 h.compact.no_control hsplit
      rw [hsplit] at hpiece
      rcases List.mem_cons.mp hpiece with rfl | hother
      · rw [ofLine?_of_run (hlast hend)] at hrecord
        cases hrecord
      · exact ofLine?_of_fits (hothers piece hother) hrecord

/-! ## Whole histories -/

section

variable {objects : List Json} {lines : List (List Char)}

theorem exists_isLine (h : List.Forall₂ IsLine objects lines) :
    ∀ line ∈ lines, ∃ json, IsLine json line := by
  induction h with
  | nil => simp
  | cons hline _ ih => exact List.forall_mem_cons.mpr ⟨⟨_, hline⟩, ih⟩

/-- The lines of a history are read one by one, whether they are torn or not. -/
theorem history_intercalate (h : List.Forall₂ IsLine objects lines) :
    history (['\n'].intercalate lines) = lines.flatMap history := by
  have hcut : splitLines (['\n'].intercalate lines) = lines.flatMap splitLines := by
    refine Text.splitLines_intercalate fun line hmem => ?_
    obtain ⟨json, hline⟩ := exists_isLine h line hmem
    obtain ⟨inside, rfl⟩ := hline.braces
    exact ⟨'{' :: inside, '}', rfl, rfl⟩
  rw [history, hcut, List.filterMap_flatMap]
  rfl

/-- How many records of a history say something: at most one for each line, and fewer if a line is
torn. -/
theorem countP_history (h : List.Forall₂ IsLine objects lines) :
    (lines.flatMap history).countP (· ≠ blank) ≤ lines.length ∧
      (lines.length ≤ (lines.flatMap history).countP (· ≠ blank) →
        ∀ line ∈ lines, IsWhole line) := by
  induction h with
  | nil => simp
  | @cons json line _ lines hline _ ih =>
      obtain ⟨hmost, hall⟩ := ih
      rw [List.flatMap_cons, List.countP_append, List.length_cons]
      by_cases hwhole : IsWhole line
      · obtain ⟨record, hrecord⟩ := hline.describes.isRead
        have hone : (history line).countP (· ≠ blank) ≤ 1 := by
          rw [history_eq hline hwhole hrecord]
          exact List.countP_le_length
        refine ⟨by omega, fun hcount => List.forall_mem_cons.mpr ⟨hwhole, hall ?_⟩⟩
        omega
      · have hzero : (history line).countP (· ≠ blank) = 0 := by
          refine List.countP_eq_zero.mpr fun record hmem => ?_
          simpa using history_of_torn hline hwhole record hmem
        exact ⟨by omega, fun hcount => absurd hcount (by omega)⟩

/-- **Whole histories.**  Every object is a record, and the lines of a history are read one by one.
A line that is not torn gives just the record of its object; a torn one gives none that says
anything.  So the history has the records of all objects, in their order, if no line is torn, and
only then if all objects say something. -/
theorem history_of_lines (h : List.Forall₂ IsLine objects lines) :
    List.Forall₂ (fun json line => ∃ record, ofJson json = .ok record ∧
        (IsWhole line → history line = [record]) ∧
        (¬ IsWhole line → ∀ other ∈ history line, other = blank)) objects lines ∧
      history (['\n'].intercalate lines) = lines.flatMap history ∧
      ((∀ line ∈ lines, IsWhole line) →
        (history (['\n'].intercalate lines)).map .ok = objects.map ofJson) ∧
      ((∀ json ∈ objects, ofJson json ≠ .ok blank) →
        (history (['\n'].intercalate lines)).map .ok = objects.map ofJson →
          ∀ line ∈ lines, IsWhole line) := by
  have hrecords : List.Forall₂ (fun json line => ∃ record, ofJson json = .ok record ∧
      (IsWhole line → history line = [record]) ∧
      (¬ IsWhole line → ∀ other ∈ history line, other = blank)) objects lines := by
    refine h.imp fun json line hline => ?_
    obtain ⟨record, hrecord⟩ := hline.describes.isRead
    exact ⟨record, hrecord, fun hwhole => history_eq hline hwhole hrecord, history_of_torn hline⟩
  rw [history_intercalate h]
  refine ⟨hrecords, rfl, fun hwhole => ?_, fun hsay hall => ?_⟩
  · clear h
    induction hrecords with
    | nil => rfl
    | cons hline _ ih =>
        obtain ⟨record, hrecord, hread, -⟩ := hline
        obtain ⟨hfirst, hothers⟩ := List.forall_mem_cons.mp hwhole
        rw [List.flatMap_cons, hread hfirst, List.map_append, ih hothers, List.map_cons,
          List.map_nil, List.map_cons, hrecord]
        rfl
  · have hlength := congrArg List.length hall
    rw [List.length_map, List.length_map, h.length_eq] at hlength
    have hcount : (lines.flatMap history).countP (· ≠ blank) = (lines.flatMap history).length := by
      refine List.countP_eq_length.mpr fun record hmem => ?_
      have hmap : .ok record ∈ objects.map ofJson := hall ▸ List.mem_map_of_mem hmem
      obtain ⟨json, hjson, hread⟩ := List.mem_map.mp hmap
      have hne : record ≠ blank := by
        rintro rfl
        exact hsay json hjson hread
      simpa using hne
    exact (countP_history h).2 (by omega)

end

/-! ## Releases with a description -/

namespace Release

/-- The object of a release. -/
def object (version description : String) : Json :=
  .object [("package", .object [("name", .string "a/b"), ("version", .string version),
    ("description", .string description)])]

/-- The line of a release. -/
def line (version description : String) : List Char :=
  '{' :: ((quoted "package" ++ ':' :: ('{' :: ((quoted "name" ++ ':' :: (quoted "a/b" ++
    ',' :: (quoted "version" ++ ':' :: (quoted version ++
      ',' :: (quoted "description" ++ ':' :: quoted description))))) ++ ['}']))) ++ ['}'])

theorem isLine {version description : String}
    (hversion : version.toList.all Json.isPlain = true)
    (hdescription : description.toList.all Json.isPlain = true) :
    IsLine (object version description) (line version description) := by
  have hplain : ∀ text ∈ ["package", "name", "a/b", "version", "description"],
      text.toList.all Json.isPlain = true := by decide
  simp only [List.forall_mem_cons] at hplain
  obtain ⟨hpackage, hname, hvalue, hkey, hother, -⟩ := hplain
  have hmembers := Json.Compact.moreMembers (quotes_quoted hname) (.string (quotes_quoted hvalue))
    (.moreMembers (quotes_quoted hkey) (.string (quotes_quoted hversion))
      (.member (quotes_quoted hother) (.string (quotes_quoted hdescription))))
  refine ⟨⟨_, _, rfl, rfl, by simp [Entries.get?]⟩, ?_⟩
  exact .object (.member (quotes_quoted hpackage) (.object hmembers (by simp))) (by simp)

end Release

open Release in
/-- Two releases on two lines are read back. -/
theorem history_of_releases :
    (∀ text ∈ [line "1.0.0" "one", line "1.1.0" "two"], IsWhole text) ∧
      (history (['\n'].intercalate [line "1.0.0" "one", line "1.1.0" "two"])).map .ok =
        [object "1.0.0" "one", object "1.1.0" "two"].map ofJson := by
  have hwhole : ∀ text ∈ [line "1.0.0" "one", line "1.1.0" "two"], IsWhole text := by
    decide
  have hlines : List.Forall₂ IsLine [object "1.0.0" "one", object "1.1.0" "two"]
      [line "1.0.0" "one", line "1.1.0" "two"] :=
    .cons (isLine (by decide) (by decide))
      (.cons (isLine (by decide) (by decide)) .nil)
  exact ⟨hwhole, (history_of_lines hlines).2.2.1 hwhole⟩

open Release in
/-- The line separator in the description of the older release tears its line, and the release
is lost. -/
theorem torn_release_lost :
    List.Forall₂ IsLine [object "1.0.0" "one\u2028two", object "1.1.0" "three"]
        [line "1.0.0" "one\u2028two", line "1.1.0" "three"] ∧
      (history (['\n'].intercalate
        [line "1.0.0" "one\u2028two", line "1.1.0" "three"])).map (·.version) = ["1.1.0"] ∧
      (history (['\n'].intercalate
        [line "1.0.0" "one\u2028two", line "1.1.0" "three"])).map .ok ≠
          [object "1.0.0" "one\u2028two", object "1.1.0" "three"].map ofJson := by
  have hread : (history (['\n'].intercalate
      [line "1.0.0" "one\u2028two", line "1.1.0" "three"])).map (·.version) = ["1.1.0"] := by
    decide +kernel
  refine ⟨.cons (isLine (by decide) (by decide))
    (.cons (isLine (by decide) (by decide)) .nil), hread, fun hall => ?_⟩
  -- One record is read, but there are two objects.
  have hone := congrArg List.length hread
  have htwo := congrArg List.length hall
  simp only [List.length_map, List.length_cons, List.length_nil] at hone htwo
  omega

end ManifestLint.Record
