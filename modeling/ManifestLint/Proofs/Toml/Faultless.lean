import ManifestLint.Proofs.Toml.Quotes

/-!
# Errors and tokens

An error is found where a token starts, one at most for each token, or at the end of a text that
leaves a list open.  So errors come in the order of the text, and much can be told of the tokens of
a text without errors: all of them are known, every string stands between its quotes, and every
inline table that is opened is closed.

* `standsBefore_of_split`: how a token of a document was scanned.
* `error_places`, `errors_ordered`: where errors are found.
* `tables_lexeme`, `exists_depth`: how many inline tables are open.
* `errors_tell_of_tokens`: all of it.
-/

namespace ManifestLint.Toml

variable {mode : Mode} {start : Position} {text : List Char}

/-! ## Tokens and their problems -/

/-- A token stands before some text: the scanner, in some mode, decides on its kind and on its
characters, and what is wrong with it is among the errors, at its start. -/
def Token.StandsBefore (token : Token) (text : List Char) (errors : List LexicalError) : Prop :=
  ∃ mode c rest, token.text ++ text = c :: rest ∧ token.kind = (lexeme mode c rest).kind ∧
    token.text = c :: rest.take (lexeme mode c rest).extra ∧
    ∀ problem ∈ (lexeme mode c rest).problem, ⟨problem, token.start⟩ ∈ errors

theorem standsBefore_of_split (mode : Mode) (start : Position) (text : List Char) :
    ∀ before token after, (scanFrom mode start text).tokens = before ++ token :: after →
      token.StandsBefore (after.flatMap Token.text) (scanFrom mode start text).errors := by
  fun_induction scanFrom mode start text with
  | case1 => simp
  | case2 mode start c rest next taken stop others ih =>
      intro before token after h
      cases before with
      | nil =>
          obtain ⟨rfl, rfl⟩ := List.cons.inj h
          have htiles : Tiles stop others.tokens (rest.drop next.extra) := tiles_scanFrom ..
          refine ⟨mode, c, rest, ?_, rfl, rfl, fun problem hproblem => ?_⟩
          · rw [htiles.flatMap_text, List.cons_append, List.take_append_drop]
          · have hfirst : next.problem = some problem := hproblem
            simp [hfirst]
      | cons first before =>
          obtain ⟨mode, c, rest, htext, hkind, hchars, hproblem⟩ :=
            ih before token after (List.cons.inj h).2
          exact ⟨mode, c, rest, htext, hkind, hchars, fun problem hmem =>
            List.mem_append_right _ (hproblem problem hmem)⟩

/-- A bare value is of a kind of values, unless something is wrong with it. -/
theorem valueLexeme_kind (mode : Mode) (c : Char) (rest : List Char) :
    (valueLexeme mode c rest).kind.category ∈ [.boolean, .integer, .float, .dateTime] ∨
      (valueLexeme mode c rest).kind = .unknown ∧ (valueLexeme mode c rest).problem ≠ none := by
  unfold valueLexeme
  dsimp only
  split
  · next kind hkind => exact .inl (category_of_classify hkind)
  · exact .inr ⟨rfl, by simp⟩

theorem mode_valueLexeme (mode : Mode) (c : Char) (rest : List Char) :
    (valueLexeme mode c rest).mode = mode := by
  unfold valueLexeme
  dsimp only
  split <;> rfl

theorem stringLexeme_kind (mode : Mode) (c : Char) (rest : List Char) :
    (stringLexeme mode c rest).kind.category ∈ [.key, .string] := by
  unfold stringLexeme
  dsimp only
  split
  · decide
  · split <;> decide

theorem quotes_ne_nil {token : Token} (h : token.category = .string ∨ token.kind = .quotedKey) :
    token.kind.quotes ≠ [] := by
  rw [Token.category] at h
  cases hkind : token.kind <;> simp [hkind, TokenKind.category, TokenKind.quotes, quotes] at h ⊢

/-- What is unknown has something wrong with it. -/
theorem problem_of_unknown (mode : Mode) (c : Char) (rest : List Char) :
    (lexeme mode c rest).kind = .unknown → (lexeme mode c rest).problem ≠ none := by
  have hstring := stringLexeme_kind mode c rest
  have hvalue := valueLexeme_kind mode c rest
  fun_cases lexeme mode c rest with
  | case11 =>
      intro hkind
      simp [hkind, TokenKind.category] at hstring
  | case12 =>
      intro hkind
      simpa [hkind, TokenKind.category] using hvalue
  | _ => simp

/-! ## Places of errors -/

/-- An error is found where a token starts or at the end of the text. -/
theorem error_places (mode : Mode) (start : Position) (text : List Char) :
    ∀ error ∈ (scanFrom mode start text).errors,
      (∃ token ∈ (scanFrom mode start text).tokens, token.start = error.position) ∨
        error.position = start.after text := by
  fun_induction scanFrom mode start text with
  | case1 mode start =>
      intro error herror
      split at herror
      · cases herror
      · rw [List.mem_singleton.mp herror]
        exact .inr rfl
  | case2 mode start c rest next taken stop others ih =>
      intro error herror
      rcases List.mem_append.mp herror with hfirst | hothers
      · obtain ⟨problem, -, rfl⟩ : ∃ problem, next.problem = some problem ∧
            ⟨problem, start⟩ = error := by simpa using hfirst
        exact .inl ⟨_, List.mem_cons_self, rfl⟩
      · rcases ih error hothers with ⟨token, htoken, hplace⟩ | hend
        · exact .inl ⟨token, List.mem_cons_of_mem _ htoken, hplace⟩
        · right
          rw [hend, ← Position.after_append, List.cons_append, List.take_append_drop]

/-- Errors are found further and further on. -/
theorem errors_ordered (mode : Mode) (start : Position) (text : List Char) :
    (∀ error ∈ (scanFrom mode start text).errors, start ≤ error.position) ∧
      ((scanFrom mode start text).errors.map LexicalError.position).Pairwise (· < ·) := by
  fun_induction scanFrom mode start text with
  | case1 mode start =>
      split <;> simp
  | case2 mode start c rest next taken stop others ih =>
      obtain ⟨hbehind, hordered⟩ := ih
      have hstop : start < stop := Position.lt_after start (by simp [taken])
      have hlater : ∀ error ∈ others.errors, start < error.position := fun error herror =>
        hstop.trans_le (hbehind error herror)
      cases next.problem with
      | none => exact ⟨fun error herror => (hlater error herror).le, hordered⟩
      | some problem =>
          refine ⟨List.forall_mem_cons.mpr ⟨le_rfl, fun error herror => ?_⟩, ?_⟩
          · exact (hlater error herror).le
          · exact List.pairwise_cons.mpr ⟨List.forall_mem_map.mpr hlater, hordered⟩

/-! ## Inline tables -/

/-- How many inline tables are open. -/
def Mode.tables (mode : Mode) : Nat := mode.contexts.count .table

/-- How many inline tables some tokens open. -/
def opened (tokens : List Token) : Nat := tokens.countP (·.kind = .leftCurly)

/-- How many inline tables some tokens close. -/
def closed (tokens : List Token) : Nat := tokens.countP (·.kind = .rightCurly)

theorem tables_endLine (mode : Mode) : mode.endLine.tables = mode.tables := by
  unfold Mode.endLine
  split <;> rfl

theorem tables_closeSquare (mode : Mode) : (closeSquare mode).1.tables = mode.tables := by
  unfold closeSquare
  split
  · rfl
  · split
    · next hcontexts => simp [Mode.tables, hcontexts]
    · rfl

theorem tables_closeCurly {mode : Mode} (h : (closeCurly mode).2 = none) :
    (closeCurly mode).1.tables + 1 = mode.tables := by
  unfold closeCurly at h ⊢
  split at h
  · next hcontexts => simp [Mode.tables, hcontexts]
  · cases h

/-- A token with nothing wrong opens or closes an inline table if it is a curly brace, and no other
token does. -/
theorem tables_lexeme (mode : Mode) (c : Char) (rest : List Char) :
    (lexeme mode c rest).problem = none →
      (lexeme mode c rest).mode.tables +
          (if (lexeme mode c rest).kind = .rightCurly then 1 else 0) =
        mode.tables + (if (lexeme mode c rest).kind = .leftCurly then 1 else 0) := by
  have hstring := stringLexeme_kind mode c rest
  have hvalue := valueLexeme_kind mode c rest
  have hother {next : Lexeme} (hmode : next.mode = mode)
      (hkind : next.kind ≠ .rightCurly ∧ next.kind ≠ .leftCurly) :
      next.mode.tables + (if next.kind = .rightCurly then 1 else 0) =
        mode.tables + (if next.kind = .leftCurly then 1 else 0) := by
    rw [if_neg hkind.1, if_neg hkind.2, hmode]
  fun_cases lexeme mode c rest with
  | case1 => simp [tables_endLine]
  | case6 _ _ _ _ _ _ contexts =>
      have hcontexts : contexts.count .table = mode.contexts.count .table := by
        unfold contexts
        split <;> simp
      simp [Mode.tables, hcontexts]
  | case7 _ _ _ _ _ _ _ after problem hclose =>
      have htables := tables_closeSquare mode
      rw [hclose] at htables
      simp [htables]
  | case10 _ _ _ _ _ _ _ _ _ after problem hclose =>
      rintro rfl
      have htables := tables_closeCurly (congrArg Prod.snd hclose)
      rw [hclose] at htables
      simp [htables]
  | case11 =>
      refine fun _ => hother rfl ?_
      constructor <;> (intro hkind; simp [hkind, TokenKind.category] at hstring)
  | case12 =>
      refine fun _ => hother (mode_valueLexeme mode c rest) ?_
      constructor <;> (intro hkind; simp [hkind, TokenKind.category] at hvalue)
  | _ => simp [Mode.tables]

/-- Behind some of the tokens of a text without errors as many inline tables are open as they opened
and did not close. -/
theorem exists_depth (mode : Mode) (start : Position) (text : List Char)
    (herrors : (scanFrom mode start text).errors = []) :
    ∀ before after, (scanFrom mode start text).tokens = before ++ after →
      ∃ depth, depth + closed before = mode.tables + opened before ∧ (after = [] → depth = 0) := by
  fun_induction scanFrom mode start text with
  | case1 mode start =>
      intro before after h
      obtain ⟨rfl, rfl⟩ := List.append_eq_nil_iff.mp h.symm
      refine ⟨mode.tables, rfl, fun _ => ?_⟩
      have hcontexts : mode.contexts = [] := by simpa using herrors
      rw [Mode.tables, hcontexts, List.count_nil]
  | case2 mode start c rest next taken stop others ih =>
      intro before after h
      obtain ⟨hfirst, hothers⟩ := List.append_eq_nil_iff.mp herrors
      have hproblem : next.problem = none := by simpa using hfirst
      have htables : next.mode.tables + (if next.kind = .rightCurly then 1 else 0) =
          mode.tables + (if next.kind = .leftCurly then 1 else 0) :=
        tables_lexeme mode c rest hproblem
      cases before with
      | nil =>
          refine ⟨mode.tables, rfl, ?_⟩
          rintro rfl
          cases h
      | cons first before =>
          obtain ⟨rfl, hmore⟩ := List.cons.inj h
          obtain ⟨depth, hdepth, hend⟩ := ih hothers before after hmore
          refine ⟨depth, ?_, hend⟩
          simp only [opened, closed, List.countP_cons, decide_eq_true_eq] at hdepth ⊢
          omega

/-- **Errors and tokens.**  Let a text have no errors.  Then none of its tokens is unknown.  Every
string and every quoted key is what is left of it without its quotes, between the quote that the
text opens with where the token starts: one of those of its kind, and three characters if there are
three of the same.  Curly braces are never closed more often than they were opened, and in the end
as often.

In every text errors are found further and further on, each where a token starts or at the end of
the text, and there is one where an unknown token starts. -/
theorem errors_tell_of_tokens (text : List Char) :
    let tokens := (scan text).tokens
    let errors := (scan text).errors
    (errors = [] →
      (∀ token ∈ tokens, token.kind ≠ .unknown) ∧
      (∀ before token after, tokens = before ++ token :: after →
        token.category = .string ∨ token.kind = .quotedKey →
          let quote := openingQuote (token.text ++ after.flatMap Token.text)
          quote ∈ token.kind.quotes ∧ token.text = quote ++ stripQuotes token.text ++ quote) ∧
      (∀ before, before <+: tokens → closed before ≤ opened before) ∧
      closed tokens = opened tokens) ∧
    (errors.map LexicalError.position).Pairwise (· < ·) ∧
    (∀ error ∈ errors,
      (∃ token ∈ tokens, token.start = error.position) ∨ error.position = .behind text) ∧
    ∀ token ∈ tokens, token.kind = .unknown → ∃ error ∈ errors, error.position = token.start := by
  intro tokens errors
  have hstands : ∀ before token after, tokens = before ++ token :: after →
      token.StandsBefore (after.flatMap Token.text) errors :=
    standsBefore_of_split .initial .origin text
  have hunknown : ∀ token ∈ tokens, token.kind = .unknown →
      ∃ error ∈ errors, error.position = token.start := by
    intro token htoken hkind
    obtain ⟨before, after, hsplit⟩ := List.append_of_mem htoken
    obtain ⟨mode, c, rest, -, hkindOf, -, hproblem⟩ := hstands before token after hsplit
    obtain ⟨problem, hsome⟩ := Option.ne_none_iff_exists'.mp
      (problem_of_unknown mode c rest (hkindOf.symm.trans hkind))
    exact ⟨_, hproblem problem hsome, rfl⟩
  refine ⟨fun hnone => ⟨fun token htoken hkind => ?_, fun before token after hsplit hquoted => ?_,
    ?_, ?_⟩, (errors_ordered ..).2, fun error herror => ?_, hunknown⟩
  · obtain ⟨error, herror, -⟩ := hunknown token htoken hkind
    rw [hnone] at herror
    cases herror
  · obtain ⟨mode, c, rest, htext, hkind, hchars, hproblem⟩ := hstands before token after hsplit
    have hfine : (lexeme mode c rest).problem = none := by
      refine Option.eq_none_iff_forall_ne_some.mpr fun problem hsome => ?_
      have hmem := hproblem problem hsome
      rw [hnone] at hmem
      cases hmem
    have hquotes : (lexeme mode c rest).kind.quotes ≠ [] := by
      rw [← hkind]
      exact quotes_ne_nil hquoted
    obtain ⟨hopen, hquote, hbetween⟩ := quoted_lexeme hquotes hfine
    rw [← hchars] at hopen hquote hbetween
    rw [htext, ← hopen, hkind]
    exact ⟨hquote, hbetween⟩
  · rintro before ⟨after, hsplit⟩
    obtain ⟨depth, hdepth, -⟩ := exists_depth .initial .origin text hnone before after hsplit.symm
    have hstart : Mode.initial.tables = 0 := rfl
    omega
  · obtain ⟨depth, hdepth, hend⟩ :=
      exists_depth .initial .origin text hnone tokens [] (List.append_nil _).symm
    have hstart : Mode.initial.tables = 0 := rfl
    have hdone := hend rfl
    omega
  · rw [← Position.after_origin]
    exact error_places .initial .origin text error herror

/-- An inline table with a quoted key, a string over several lines that ends with two more quotes,
and an empty table in an array. -/
theorem tokens_of_inline_table :
    let text := "a = \x7b'b' = \"\"\"c\n\\\"\"\"\"\"\", d = [\x7b\x7d, '']\x7d".toList
    let tokens := (scan text).tokens
    (scan text).errors = [] ∧ (∀ token ∈ tokens, token.kind ≠ .unknown) ∧
      (∃ token ∈ tokens, token.kind = .basicMultilineString ∧
        token.text = ['"', '"', '"'] ++ stripQuotes token.text ++ ['"', '"', '"'] ∧
        stripQuotes token.text = ['c', '\n', '\\', '"', '"', '"']) ∧
      closed tokens = opened tokens ∧ opened tokens = 2 := by
  intro text tokens
  have herrors : (scan text).errors = [] := by decide +kernel
  obtain ⟨hall, -⟩ := errors_tell_of_tokens text
  obtain ⟨hknown, hquoted, -, hbalanced⟩ := hall herrors
  obtain ⟨token, htoken, hkind, hinner⟩ : ∃ token ∈ tokens,
      token.kind = .basicMultilineString ∧
        stripQuotes token.text = ['c', '\n', '\\', '"', '"', '"'] := by
    decide +kernel
  obtain ⟨before, after, hsplit⟩ := List.append_of_mem htoken
  obtain ⟨hquote, htext⟩ := hquoted before token after hsplit (.inl (by simp [Token.category, hkind,
    TokenKind.category]))
  rw [hkind] at hquote
  rw [List.mem_singleton.mp hquote] at htext
  exact ⟨herrors, hknown, ⟨token, htoken, hkind, htext, hinner⟩, hbalanced, by decide +kernel⟩

end ManifestLint.Toml
