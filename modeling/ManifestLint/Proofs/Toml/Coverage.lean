import ManifestLint.Toml.Scan
import Mathlib.Data.List.Induction

/-!
# Tokens cover their document

The scanner goes through every text and loses nothing of it.  Each token has at least one
character, all its characters are there, and the next token starts where it ends; so the
texts of the tokens make up the text of the document, and where a token stands can be
counted from what comes before it.

* `extra_le`: a token never claims more characters than there are.
* `Tiles`: tokens that cover a text, and what follows from it.
* `scan_covers`: every document is covered by its tokens.
-/

namespace ManifestLint.Toml

/-! ## Positions -/

namespace Position

/-- The position behind a text, told from its line feeds: their number, and how much
follows the last one. -/
def behind (text : List Char) : Position :=
  ⟨text.count '\n', (text.reverse.takeWhile (· ≠ '\n')).length⟩

/-- Going through a text character by character ends behind it. -/
theorem after_origin (text : List Char) : origin.after text = behind text := by
  induction text using List.reverseRecOn with
  | nil => rfl
  | append_singleton text c ih =>
      have hlast : origin.after (text ++ [c]) = (behind text).next c := by
        rw [after_append, ih]
        rfl
      rw [hlast, next, behind, behind]
      by_cases hc : c = '\n' <;> simp [hc]

end Position

/-! ## Claims of characters -/

theorem length_takeWhile_le (p : Char → Bool) (text : List Char) :
    (text.takeWhile p).length ≤ text.length :=
  (List.takeWhile_prefix p).length_le

theorem commentLength_le (text : List Char) : commentLength text ≤ text.length := by
  fun_induction commentLength text with
  | case1 => simp
  | case2 c rest hend => simp
  | case3 c rest hend ih => simpa using ih

theorem lineStringLength_le (quote : Char) (basic : Bool) (text : List Char) :
    (lineStringLength quote basic text).1 ≤ text.length := by
  fun_induction lineStringLength quote basic text with
  | case1 => simp
  | case2 c rest hend => simp
  | case3 c hescape hend => simp
  | case4 c hescape d more hnext hend => simp
  | case5 c hescape d more hnext length closed hmore hend ih =>
      rw [hmore] at ih
      simpa using ih
  | case6 rest hend hescape => simp
  | case7 c rest hend hescape hquote length closed hmore ih =>
      rw [hmore] at ih
      simpa using ih

theorem multilineStringLength_le (quote : Char) (basic : Bool) (text : List Char) :
    (multilineStringLength quote basic text).1 ≤ text.length := by
  fun_induction multilineStringLength quote basic text with
  | case1 => simp
  | case2 c rest hclose =>
      have hthree := (List.isPrefixOf_iff_prefix.mp hclose).length_le
      have hmore := length_takeWhile_le (· = quote) ((rest.drop 2).take 2)
      simp only [List.length_cons, List.length_nil, List.length_take, List.length_drop] at *
      omega
  | case3 c hescape hclose => simp
  | case4 c hescape d more length closed hmore hclose ih =>
      rw [hmore] at ih
      simpa using ih
  | case5 c rest hclose hescape length closed hmore ih =>
      rw [hmore] at ih
      simpa using ih

theorem stringLexeme_extra_le (mode : Mode) (quote : Char) (rest : List Char) :
    (stringLexeme mode quote rest).extra ≤ rest.length := by
  by_cases hmultiline : [quote, quote].isPrefixOf rest
  · have htwo := (List.isPrefixOf_iff_prefix.mp hmultiline).length_le
    have hmore := multilineStringLength_le quote (quote = '"') (rest.drop 2)
    simp only [List.length_cons, List.length_nil, List.length_drop] at htwo hmore
    simp only [stringLexeme, hmultiline, if_true]
    omega
  · have hline := lineStringLength_le quote (quote = '"') rest
    simpa only [stringLexeme, hmultiline, Bool.false_eq_true, if_false] using hline

theorem valueLength_le (c : Char) (rest : List Char) : valueLength c rest ≤ rest.length := by
  have hword := length_takeWhile_le isValueChar rest
  unfold valueLength
  dsimp only
  split
  · next d more hdrop =>
      have htime := length_takeWhile_le isValueChar (d :: more)
      have hlength := congrArg List.length hdrop
      simp only [List.length_drop, List.length_cons] at hlength htime
      split <;> omega
  · exact hword

/-- What the next token of a text can be: a line end, a token of one character, a run of
characters that are no line feeds, a comment, a string or a value. -/
inductive Reads (mode : Mode) (c : Char) (rest : List Char) : Lexeme → Prop where
  | lineEnd (hend : atLineEnd (c :: rest) = true) :
      Reads mode c rest ⟨.newline, if c = '\r' then 1 else 0, mode.endLine, none⟩
  | single (kind : TokenKind) (after : Mode) (problem : Option Problem) :
      Reads mode c rest ⟨kind, 0, after, problem⟩
  | run (kind : TokenKind) (p : Char → Bool) (hp : p '\n' = false) :
      Reads mode c rest ⟨kind, (rest.takeWhile p).length, mode, none⟩
  | comment : Reads mode c rest ⟨.comment, commentLength rest, mode, none⟩
  | string (hquote : c = '"' ∨ c = '\'') : Reads mode c rest (stringLexeme mode c rest)
  | value : Reads mode c rest (valueLexeme mode c rest)

theorem reads_lexeme (mode : Mode) (c : Char) (rest : List Char) :
    Reads mode c rest (lexeme mode c rest) := by
  fun_cases lexeme mode c rest with
  | case1 hend => exact .lineEnd hend
  | case2 => exact .run _ isInlineBlank rfl
  | case3 => exact .comment
  | case11 _ _ _ _ _ _ _ _ _ hquote => exact .string (by simpa using hquote)
  | case12 => exact .value
  | case13 => exact .run _ isKeyChar rfl
  | _ => exact .single ..

/-- A token never claims more characters than there are. -/
theorem extra_le (mode : Mode) (c : Char) (rest : List Char) :
    (lexeme mode c rest).extra ≤ rest.length := by
  have hreads := reads_lexeme mode c rest
  generalize lexeme mode c rest = next at hreads
  cases hreads with
  | lineEnd hend =>
      cases rest with
      | cons d more => by_cases hc : c = '\r' <;> simp [hc]
      | nil =>
          have hfeed : c ≠ '\r' := by
            rintro rfl
            cases hend
          simp [hfeed]
  | single kind after problem => exact Nat.zero_le _
  | run kind p _ => exact length_takeWhile_le p rest
  | comment => exact commentLength_le rest
  | string => exact stringLexeme_extra_le mode c rest
  | value =>
      unfold valueLexeme
      dsimp only
      split <;> exact valueLength_le c rest

/-! ## Tiles -/

/-- A token is the next one before some text: the scanner, in some mode, decides on its kind
and on as many characters as it has. -/
def Token.IsNext (token : Token) (text : List Char) : Prop :=
  ∃ mode c rest, token.text ++ text = c :: rest ∧ token.kind = (lexeme mode c rest).kind ∧
    token.text.length = (lexeme mode c rest).extra + 1

/-- Tokens cover a text from a position on: each is the next one and ends behind its
characters, and there the one after it starts. -/
inductive Tiles : Position → List Token → List Char → Prop where
  | nil (start : Position) : Tiles start [] []
  | cons {start : Position} {token : Token} {tokens : List Token} {text : List Char}
      (hnext : token.IsNext text) (hstart : token.start = start)
      (hstop : token.stop = start.after token.text) (htiles : Tiles token.stop tokens text) :
      Tiles start (token :: tokens) (token.text ++ text)

theorem Token.IsNext.length_pos {token : Token} {text : List Char} (h : token.IsNext text) :
    0 < token.text.length := by
  obtain ⟨mode, c, rest, -, -, hlength⟩ := h
  omega

namespace Tiles

variable {start : Position} {tokens : List Token} {text : List Char}

theorem flatMap_text (h : Tiles start tokens text) : tokens.flatMap Token.text = text := by
  induction h with
  | nil start => rfl
  | cons hnext hstart hstop htiles ih => rw [List.flatMap_cons, ih]

theorem ne_nil (h : Tiles start tokens text) : ∀ token ∈ tokens, token.text ≠ [] := by
  induction h with
  | nil start => simp
  | cons hnext hstart hstop htiles ih => simpa using ⟨List.length_pos_iff.mp hnext.length_pos, ih⟩

theorem length_le (h : Tiles start tokens text) : tokens.length ≤ text.length := by
  induction h with
  | nil start => simp
  | cons hnext hstart hstop htiles ih =>
      have hpos := hnext.length_pos
      simp only [List.length_cons, List.length_append]
      omega

theorem stop_eq (h : Tiles start tokens text) :
    ∀ token ∈ tokens, token.stop = token.start.after token.text := by
  induction h with
  | nil start => simp
  | cons hnext hstart hstop htiles ih => simpa [hstart] using ⟨hstop, ih⟩

theorem head?_start (h : Tiles start tokens text) :
    ∀ token ∈ tokens.head?, token.start = start := by
  cases h with
  | nil => simp
  | cons hnext hstart => simpa using hstart

theorem isChain (h : Tiles start tokens text) :
    tokens.IsChain fun token next => next.start = token.stop := by
  induction h with
  | nil start => exact .nil
  | cons hnext hstart hstop htiles ih =>
      cases htiles with
      | nil => exact .singleton _
      | cons _ hafter => exact .cons_cons hafter ih

/-- A token starts behind what comes before it. -/
theorem start_eq {before after : List Token} {token : Token}
    (h : Tiles start (before ++ token :: after) text) :
    token.start = start.after (before.flatMap Token.text) := by
  induction before generalizing start text with
  | nil =>
      cases h with
      | cons hnext hstart => exact hstart
  | cons first before ih =>
      cases h with
      | cons hnext hstart hstop htiles =>
          rw [ih htiles, hstop, List.flatMap_cons, Position.after_append]

/-- A token is the next one before what comes after it. -/
theorem isNext {before after : List Token} {token : Token}
    (h : Tiles start (before ++ token :: after) text) :
    token.IsNext (after.flatMap Token.text) := by
  induction before generalizing start text with
  | nil =>
      cases h with
      | cons hnext hstart hstop htiles =>
          rw [htiles.flatMap_text]
          exact hnext
  | cons first before ih =>
      cases h with
      | cons hnext hstart hstop htiles => exact ih htiles

end Tiles

/-- What is scanned from a position on covers the text. -/
theorem tiles_scanFrom (mode : Mode) (start : Position) (text : List Char) :
    Tiles start (scanFrom mode start text).tokens text := by
  fun_induction scanFrom mode start text with
  | case1 mode start => exact .nil start
  | case2 mode start c rest next taken stop others ih =>
      have htext : c :: rest = taken ++ rest.drop next.extra := by
        rw [List.cons_append, List.take_append_drop]
      -- What the lexeme claims is all there, so nothing of it is cut off.
      have hlength : taken.length = next.extra + 1 := by
        rw [List.length_cons, List.length_take_of_le (extra_le mode c rest)]
      have hnext : Token.IsNext ⟨next.kind, taken, start, stop⟩ (rest.drop next.extra) :=
        ⟨mode, c, rest, htext.symm, rfl, hlength⟩
      rw [htext]
      exact .cons hnext rfl rfl ih

/-- **Coverage.**  The tokens of a text are no more than its characters and make it up
without a gap.  Each has the characters that the scanner decides on, at least one; the first
one starts at the start of the text, each starts where the one before it ends, and ends where
its characters lead from there.  So it starts and ends behind as many line feeds, and as far
behind the last of them, as the text up to there has, and the last one ends at the end of the
text. -/
theorem scan_covers (text : List Char) :
    let tokens := (scan text).tokens
    tokens.length ≤ text.length ∧
      tokens.flatMap Token.text = text ∧
      (∀ token ∈ tokens, token.text ≠ []) ∧
      (∀ first ∈ tokens.head?, first.start = ⟨0, 0⟩) ∧
      (tokens.IsChain fun token next => next.start = token.stop) ∧
      (∀ token ∈ tokens, token.stop = token.start.after token.text) ∧
      (∀ before token after, tokens = before ++ token :: after →
        token.IsNext (after.flatMap Token.text) ∧
          token.start = .behind (before.flatMap Token.text) ∧
          token.stop = .behind (before.flatMap Token.text ++ token.text)) ∧
      ∀ last ∈ tokens.getLast?, last.stop = .behind text := by
  intro tokens
  have htiles : Tiles .origin tokens text := tiles_scanFrom .initial .origin text
  have hplace : ∀ before token after, tokens = before ++ token :: after →
      token.start = .behind (before.flatMap Token.text) ∧
        token.stop = .behind (before.flatMap Token.text ++ token.text) := by
    intro before token after hsplit
    have hstart : token.start = Position.origin.after (before.flatMap Token.text) :=
      (hsplit ▸ htiles).start_eq
    have hstop := htiles.stop_eq token (by simp [hsplit])
    rw [hstop, hstart, ← Position.after_append, Position.after_origin, Position.after_origin]
    exact ⟨rfl, rfl⟩
  have hlast : ∀ last ∈ tokens.getLast?, last.stop = .behind text := by
    intro last hmem
    obtain ⟨before, hsplit⟩ := List.getLast?_eq_some_iff.mp hmem
    have hall : before.flatMap Token.text ++ last.text = text := by
      rw [← htiles.flatMap_text, hsplit]
      simp
    rw [(hplace before last [] hsplit).2, hall]
  refine ⟨htiles.length_le, htiles.flatMap_text, htiles.ne_nil, htiles.head?_start,
    htiles.isChain, htiles.stop_eq, fun before token after hsplit => ?_, hlast⟩
  exact ⟨(hsplit ▸ htiles).isNext, hplace before token after hsplit⟩

end ManifestLint.Toml
