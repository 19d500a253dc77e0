import ManifestLint.Toml.Scan
import ManifestLint.Proofs.Text.Lines

/-!
# Scanning a line

What the scanner finds on a line that is a heading or assigns a string to a bare key.  Each
lemma takes one token off the front of a text, whatever follows it, so a line is scanned by
rewriting with them from left to right.

* `scanFrom_token`: a token is taken off.
* `lexeme_key`, `lexeme_string`: the tokens whose length has to be found.
* `scanFrom_lineEnd`: behind a value the line ends as behind a heading.
-/

namespace ManifestLint.Toml

/-- Without line feeds a text stays on its line. -/
theorem Position.after_of_no_feed {text : List Char} (htext : '\n' ∉ text) (p : Position) :
    p.after text = ⟨p.line, p.column + text.length⟩ := by
  induction text generalizing p with
  | nil => simp
  | cons c rest ih =>
      obtain ⟨hc, hrest⟩ : '\n' ≠ c ∧ '\n' ∉ rest := by simpa using htext
      have hnext : p.next c = ⟨p.line, p.column + 1⟩ := if_neg hc.symm
      rw [after, List.foldl_cons, hnext]
      refine (ih hrest _).trans ?_
      simp only [List.length_cons, Position.mk.injEq, true_and]
      omega

/-- The token that stands at a position. -/
def Token.placed (kind : TokenKind) (start : Position) (text : List Char) : Token :=
  ⟨kind, text, start, start.after text⟩

/-- A scanned document with tokens in front. -/
def Scan.behind (tokens : List Token) (scanned : Scan) : Scan :=
  ⟨tokens ++ scanned.tokens, scanned.errors⟩

theorem Scan.behind_behind (tokens others : List Token) (scanned : Scan) :
    (scanned.behind others).behind tokens = scanned.behind (tokens ++ others) := by
  simp [behind]

/-- A token without a problem is taken off the front of a text. -/
theorem scanFrom_token {mode after : Mode} {kind : TokenKind} {c : Char} {word more : List Char}
    (h : lexeme mode c (word ++ more) = ⟨kind, word.length, after, none⟩) (start : Position) :
    scanFrom mode start (c :: (word ++ more)) =
      (scanFrom after (start.after (c :: word)) more).behind
        [.placed kind start (c :: word)] := by
  rw [scanFrom, h]
  simp [Scan.behind, Token.placed]

/-- A token of one character is taken off the front of a text. -/
theorem scanFrom_single {mode after : Mode} {kind : TokenKind} {c : Char} {more : List Char}
    (h : lexeme mode c more = ⟨kind, 0, after, none⟩) (start : Position) :
    scanFrom mode start (c :: more) =
      (scanFrom after (start.after [c]) more).behind [.placed kind start [c]] := by
  rw [← List.nil_append more] at h
  exact scanFrom_token h start

/-- A line goes on at a character that is no line feed, and no carriage return before one. -/
theorem not_atLineEnd {c : Char} {rest : List Char} (hc : c ≠ '\n')
    (hreturn : c = '\r' → rest.head? ≠ some '\n') : atLineEnd (c :: rest) = false := by
  unfold atLineEnd
  split
  · next heq => exact absurd (List.cons.inj heq).1 hc
  · next heq =>
      obtain ⟨rfl, rfl⟩ := List.cons.inj heq
      exact absurd rfl (hreturn rfl)
  · rfl

/-- A key character is none of the others. -/
theorem ne_of_isKeyChar {c : Char} (hc : isKeyChar c = true) (d : Char)
    (hd : isKeyChar d = false) : c ≠ d := by
  rintro rfl
  rw [hc] at hd
  cases hd

/-- A bare key reaches up to the first character that can not stand in one. -/
theorem lexeme_key {contexts : List Context} {c : Char} {word more : List Char}
    (hc : isKeyChar c = true) (hword : ∀ d ∈ word, isKeyChar d = true)
    (hmore : ∀ d ∈ more.head?, isKeyChar d = false) :
    lexeme ⟨contexts, false⟩ c (word ++ more) =
      ⟨.unquotedKey, word.length, ⟨contexts, false⟩, none⟩ := by
  have hne := ne_of_isKeyChar hc
  have hend : atLineEnd (c :: (word ++ more)) = false :=
    not_atLineEnd (hne '\n' rfl) fun hreturn => absurd hreturn (hne '\r' rfl)
  simp [lexeme, hend, isInlineBlank, hc, (Text.span_append hword hmore).1, hne ' ' rfl,
    hne '\t' rfl, hne '#' rfl, hne '=' rfl, hne ',' rfl, hne '[' rfl, hne ']' rfl,
    hne '\x7b' rfl, hne '\x7d' rfl, hne '"' rfl, hne '\'' rfl]

/-- A string reaches up to its closing quote. -/
theorem lineStringLength_plain {value : List Char}
    (hvalue : ∀ c ∈ value, c ≠ '"' ∧ c ≠ '\\' ∧ c ≠ '\n') (more : List Char) :
    lineStringLength '"' true (value ++ '"' :: more) = (value.length + 1, true) := by
  induction value with
  | nil => rw [List.nil_append, lineStringLength.eq_def]; simp [atLineEnd]
  | cons c rest ih =>
      obtain ⟨⟨hquote, hescape, hfeed⟩, hrest⟩ := List.forall_mem_cons.mp hvalue
      have hnext : (rest ++ '"' :: more).head? ≠ some '\n' := by
        cases rest with
        | nil => simp
        | cons d others => simpa using (hrest d List.mem_cons_self).2.2
      have hend := not_atLineEnd hfeed fun _ => hnext
      rw [List.cons_append, lineStringLength.eq_def]
      simp [hend, hescape, hquote, ih hrest]

/-- A string that is not followed by a quote reaches up to its closing one. -/
theorem lexeme_string {contexts : List Context} {value more : List Char}
    (hvalue : ∀ c ∈ value, c ≠ '"' ∧ c ≠ '\\' ∧ c ≠ '\n')
    (hmore : ∀ c ∈ more.head?, c ≠ '"') :
    lexeme ⟨contexts, true⟩ '"' ((value ++ ['"']) ++ more) =
      ⟨.basicString, (value ++ ['"']).length, ⟨contexts, true⟩, none⟩ := by
  have hline := lineStringLength_plain hvalue more
  have hsingle : ['"', '"'].isPrefixOf (value ++ '"' :: more) = false := by
    cases value with
    | nil =>
        cases more with
        | nil => rfl
        | cons c rest =>
            have hc : c ≠ '"' := hmore c rfl
            simp [List.isPrefixOf, hc.symm]
    | cons c rest =>
        have hc : c ≠ '"' := (hvalue c List.mem_cons_self).1
        simp [List.isPrefixOf, hc.symm]
  have hopen : lexeme ⟨contexts, true⟩ '"' (value ++ '"' :: more) =
      stringLexeme ⟨contexts, true⟩ '"' (value ++ '"' :: more) := rfl
  rw [List.append_assoc, List.singleton_append, hopen]
  simp [stringLexeme, hsingle, hline]

/-! ## Lines -/

variable {start : Position} {more : List Char}

/-- A bare key is taken off the front of a text. -/
theorem scanFrom_key {word : List Char} (hne : word ≠ [])
    (hword : ∀ c ∈ word, isKeyChar c = true) (hmore : ∀ c ∈ more.head?, isKeyChar c = false) :
    scanFrom .initial start (word ++ more) =
      (scanFrom .initial (start.after word) more).behind [.placed .unquotedKey start word] := by
  obtain ⟨c, rest, rfl⟩ := List.exists_cons_of_ne_nil hne
  obtain ⟨hc, hrest⟩ := List.forall_mem_cons.mp hword
  exact scanFrom_token (lexeme_key hc hrest hmore) start

/-- Behind a value a line ends as behind a heading. -/
theorem scanFrom_lineEnd (value : Bool)
    (hmore : ∀ c ∈ more.head?, c = '\n') :
    scanFrom ⟨[], value⟩ start more = scanFrom .initial start more := by
  cases more with
  | nil => rw [scanFrom, scanFrom]; rfl
  | cons c rest =>
      obtain rfl : c = '\n' := hmore c rfl
      rw [scanFrom, scanFrom]
      simp [lexeme, atLineEnd, Mode.endLine, Mode.initial]

/-- A quoted string is taken off the front of a text where a value is awaited. -/
theorem scanFrom_string {value : List Char}
    (hvalue : ∀ c ∈ value, c ≠ '"' ∧ c ≠ '\\' ∧ c ≠ '\n')
    (hmore : ∀ c ∈ more.head?, c ≠ '"') :
    scanFrom ⟨[], true⟩ start ('"' :: (value ++ ['"']) ++ more) =
      (scanFrom ⟨[], true⟩ (start.after ('"' :: (value ++ ['"']))) more).behind
        [.placed .basicString start ('"' :: (value ++ ['"']))] :=
  scanFrom_token (lexeme_string hvalue hmore) start

/-- A heading is three tokens. -/
theorem scanFrom_heading {name : List Char} (hne : name ≠ [])
    (hname : ∀ c ∈ name, isKeyChar c = true) :
    scanFrom .initial start ('[' :: (name ++ ']' :: more)) =
      (scanFrom .initial (start.after ('[' :: (name ++ [']']))) more).behind
        [.placed .leftSquare start ['['],
          .placed .unquotedKey (start.after ['[']) name,
          .placed .rightSquare (start.after ('[' :: name)) [']']] := by
  have hopen (text : List Char) : lexeme .initial '[' text = ⟨.leftSquare, 0, .initial, none⟩ :=
    rfl
  have hclose : lexeme .initial ']' more = ⟨.rightSquare, 0, .initial, none⟩ := rfl
  rw [scanFrom_single (hopen _), scanFrom_key hne hname (by simp [isKeyChar]),
    scanFrom_single hclose]
  simp only [Scan.behind_behind, ← Position.after_append, List.cons_append, List.nil_append]

/-- An assignment of a string to a bare key is three tokens and two blanks. -/
theorem scanFrom_assignment {key value : List Char} (hne : key ≠ [])
    (hkey : ∀ c ∈ key, isKeyChar c = true)
    (hvalue : ∀ c ∈ value, c ≠ '"' ∧ c ≠ '\\' ∧ c ≠ '\n')
    (hmore : ∀ c ∈ more.head?, c ≠ '"') :
    scanFrom .initial start (key ++ ' ' :: '=' :: ' ' :: ('"' :: (value ++ ['"']) ++ more)) =
      (scanFrom ⟨[], true⟩
        (start.after (key ++ ' ' :: '=' :: ' ' :: '"' :: (value ++ ['"']))) more).behind
        [.placed .unquotedKey start key,
          .placed .whitespace (start.after key) [' '],
          .placed .equals (start.after (key ++ [' '])) ['='],
          .placed .whitespace (start.after (key ++ [' ', '='])) [' '],
          .placed .basicString (start.after (key ++ [' ', '=', ' ']))
            ('"' :: (value ++ ['"']))] := by
  have hfirst (text : List Char) :
      lexeme .initial ' ' ('=' :: text) = ⟨.whitespace, 0, .initial, none⟩ := rfl
  have hequals (text : List Char) :
      lexeme .initial '=' text = ⟨.equals, 0, ⟨[], true⟩, none⟩ := rfl
  have hsecond (text : List Char) :
      lexeme ⟨[], true⟩ ' ' ('"' :: text) = ⟨.whitespace, 0, ⟨[], true⟩, none⟩ := rfl
  rw [scanFrom_key hne hkey (by simp [isKeyChar]), scanFrom_single (hfirst _),
    scanFrom_single (hequals _), List.cons_append, scanFrom_single (hsecond _),
    ← List.cons_append, scanFrom_string hvalue hmore]
  simp only [Scan.behind_behind, ← Position.after_append, List.append_assoc, List.cons_append,
    List.nil_append]

end ManifestLint.Toml
