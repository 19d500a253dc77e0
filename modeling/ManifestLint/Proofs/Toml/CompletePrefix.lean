import ManifestLint.Proofs.Toml.Coverage

/-!
# Complete prefixes

The scanner looks ahead for line ends, closing quotes and the time behind a date, and it
carries open lists along from line to line.  Where a text ends with a line feed and has no
errors, nothing of this is left: its last token is a line end, all lists are closed, and no
value is awaited.  So whatever is written behind it is scanned as if it stood alone, only
further down.

* `lexeme_append`, `extra_lt`: a token does not depend on what follows the last line feed,
  and only a line end reaches it.
* `scanFrom_down`: further down the same tokens are found, further down.
* `scan_append`: a complete prefix and what is written behind it.
-/

namespace ManifestLint.Toml

/-! ## Looking ahead -/

section

variable {text more : List Char}

theorem getLast?_of_ne_nil {c : Char} (hlast : (c :: text).getLast? = some '\n')
    (hne : text ≠ []) : text.getLast? = some '\n' := by
  cases text with
  | nil => exact absurd rfl hne
  | cons d rest => rwa [List.getLast?_cons_cons] at hlast

theorem getLast?_of_cons {c : Char} (hlast : (c :: text).getLast? = some '\n') (hc : c ≠ '\n') :
    text.getLast? = some '\n' := by
  apply getLast?_of_ne_nil hlast
  rintro rfl
  exact hc (Option.some.inj hlast)

theorem ne_feed_of_not_atLineEnd {c : Char} (hend : ¬ atLineEnd (c :: text) = true) :
    c ≠ '\n' := by
  rintro rfl
  exact hend rfl

theorem pos_of_last (hlast : text.getLast? = some '\n') : 0 < text.length := by
  cases text with
  | nil => cases hlast
  | cons c rest => simp

theorem atLineEnd_append {c : Char} (more : List Char)
    (hlast : (c :: text).getLast? = some '\n') :
    atLineEnd (c :: (text ++ more)) = atLineEnd (c :: text) := by
  cases text with
  | nil =>
      obtain rfl : c = '\n' := Option.some.inj hlast
      rfl
  | cons d rest =>
      rw [List.cons_append, atLineEnd.eq_def, atLineEnd.eq_def]
      split <;> simp_all

/-- A run of characters that are no line feeds ends before the last line feed. -/
theorem takeWhile_of_last (p : Char → Bool) (hp : p '\n' = false) (more : List Char)
    (hlast : text.getLast? = some '\n') :
    (text ++ more).takeWhile p = text.takeWhile p ∧
      (text.takeWhile p).length < text.length := by
  induction text with
  | nil => cases hlast
  | cons c rest ih =>
      by_cases hc : p c
      · have hfeed : c ≠ '\n' := by
          rintro rfl
          rw [hp] at hc
          cases hc
        have hrest := ih (getLast?_of_cons hlast hfeed)
        simpa [hc] using hrest
      · simp [hc]

theorem commentLength_of_last (more : List Char) (hlast : text.getLast? = some '\n') :
    commentLength (text ++ more) = commentLength text ∧ commentLength text < text.length := by
  fun_induction commentLength text with
  | case1 => cases hlast
  | case2 c rest hend =>
      have hhere := atLineEnd_append more hlast
      simp [commentLength, hhere, hend]
  | case3 c rest hend ih =>
      have hhere := atLineEnd_append more hlast
      have hrest := ih (getLast?_of_cons hlast (ne_feed_of_not_atLineEnd hend))
      simpa [commentLength, hhere, hend] using hrest

theorem lineStringLength_of_last (quote : Char) (basic : Bool) (more : List Char)
    (hlast : text.getLast? = some '\n') :
    lineStringLength quote basic (text ++ more) = lineStringLength quote basic text ∧
      (lineStringLength quote basic text).1 < text.length := by
  fun_induction lineStringLength quote basic text with
  | case1 => cases hlast
  | case2 c rest hend =>
      have hhere := atLineEnd_append more hlast
      rw [List.cons_append, lineStringLength.eq_def]
      simp [hhere, hend]
  | case3 c hescape hend =>
      exact absurd (getLast?_of_cons hlast (ne_feed_of_not_atLineEnd hend)) (by simp)
  | case4 c hescape d rest hnext hend =>
      have hhere := atLineEnd_append more hlast
      have hrest := getLast?_of_cons hlast (ne_feed_of_not_atLineEnd hend)
      have hthere := atLineEnd_append more hrest
      simp only [List.cons_append] at hhere
      simp [lineStringLength, hhere, hthere, hend, hescape, hnext]
  | case5 c hescape d rest hnext length closed hmore hend ih =>
      have hhere := atLineEnd_append more hlast
      have hrest := getLast?_of_cons hlast (ne_feed_of_not_atLineEnd hend)
      have hthere := atLineEnd_append more hrest
      have hothers := ih (getLast?_of_cons hrest (ne_feed_of_not_atLineEnd hnext))
      rw [hmore] at hothers
      simp only [List.cons_append] at hhere
      simpa [lineStringLength, hhere, hthere, hend, hescape, hnext, hothers.1] using hothers.2
  | case6 rest hend hescape =>
      have hhere := atLineEnd_append more hlast
      have hrest := getLast?_of_cons hlast (ne_feed_of_not_atLineEnd hend)
      rw [List.cons_append, lineStringLength.eq_def]
      simpa [hhere, hend, hescape] using pos_of_last hrest
  | case7 c rest hend hescape hquote length closed hmore ih =>
      have hhere := atLineEnd_append more hlast
      have hrest := ih (getLast?_of_cons hlast (ne_feed_of_not_atLineEnd hend))
      rw [hmore] at hrest
      rw [List.cons_append, lineStringLength.eq_def]
      simpa [hhere, hend, hescape, hquote, hrest.1] using hrest.2

/-- Quotes are found before the last line feed or not at all. -/
theorem isPrefixOf_of_last {quotes : List Char} (hquotes : '\n' ∉ quotes) (more : List Char)
    (hlast : text.getLast? = some '\n') :
    quotes.isPrefixOf (text ++ more) = quotes.isPrefixOf text := by
  induction text generalizing quotes with
  | nil => cases hlast
  | cons c rest ih =>
      cases quotes with
      | nil => rfl
      | cons quote others =>
          obtain ⟨hquote, hothers⟩ : '\n' ≠ quote ∧ '\n' ∉ others := by simpa using hquotes
          by_cases hc : quote = c
          · subst hc
            have hrest := ih hothers (getLast?_of_cons hlast hquote.symm)
            simpa using hrest
          · have hne : (quote == c) = false := by simpa using hc
            rw [List.cons_append, List.isPrefixOf, List.isPrefixOf, hne, Bool.false_and,
              Bool.false_and]

/-- At most two more quotes behind the closing ones are found before the last line feed. -/
theorem takeWhile_take_of_last (p : Char → Bool) (hp : p '\n' = false) (more : List Char)
    (hlast : text.getLast? = some '\n') :
    ((text ++ more).take 2).takeWhile p = (text.take 2).takeWhile p ∧
      ((text.take 2).takeWhile p).length < text.length := by
  match text, hlast with
  | [c], hlast =>
      obtain rfl : c = '\n' := Option.some.inj hlast
      simp [hp]
  | c :: d :: rest, hlast =>
      have htwo : (c :: d :: rest ++ more).take 2 = [c, d] := by simp
      have hlt := length_takeWhile_le p [c, d]
      cases rest with
      | nil =>
          obtain rfl : d = '\n' := Option.some.inj hlast
          by_cases hc : p c <;> simp [hc, hp]
      | cons e others =>
          simp only [htwo, List.take_succ_cons, List.take_zero, List.length_cons] at hlt ⊢
          exact ⟨trivial, by simp at hlt; omega⟩

theorem multilineStringLength_of_last {quote : Char} {basic : Bool} (hquote : quote ≠ '\n')
    (more : List Char) (hlast : text.getLast? = some '\n')
    (hclosed : (multilineStringLength quote basic text).2 = true) :
    multilineStringLength quote basic (text ++ more) = multilineStringLength quote basic text ∧
      (multilineStringLength quote basic text).1 < text.length := by
  have hthree : '\n' ∉ [quote, quote, quote] := by simpa using hquote.symm
  fun_induction multilineStringLength quote basic text with
  | case1 => cases hlast
  | case2 c rest hclose =>
      have hhere := isPrefixOf_of_last hthree more hlast
      obtain ⟨tail, htail⟩ := List.isPrefixOf_iff_prefix.mp hclose
      obtain ⟨rfl, rfl⟩ : quote = c ∧ quote :: quote :: tail = rest := by simpa using htail
      have hend : tail.getLast? = some '\n' :=
        getLast?_of_cons (getLast?_of_cons (getLast?_of_cons hlast hquote) hquote) hquote
      obtain ⟨hsame, hlt⟩ :=
        takeWhile_take_of_last (· = quote) (by simpa using hquote.symm) more hend
      constructor
      · rw [List.cons_append] at hhere ⊢
        rw [multilineStringLength.eq_def]
        dsimp only
        rw [if_pos (hhere.trans hclose)]
        simp only [List.cons_append, List.drop_succ_cons, List.drop_zero, hsame]
      · simp only [List.drop_succ_cons, List.drop_zero, List.length_cons]
        omega
  | case3 c hescape hclose => cases hclosed
  | case4 c hescape d rest length closed hmore hclose ih =>
      have hhere := isPrefixOf_of_last hthree more hlast
      rw [hmore] at ih
      have hne : rest ≠ [] := by
        rintro rfl
        cases hmore
        cases hclosed
      have hrest := getLast?_of_ne_nil (getLast?_of_ne_nil hlast (List.cons_ne_nil d rest)) hne
      have hothers := ih hrest hclosed
      simp only [List.cons_append] at hhere
      simpa [multilineStringLength, hhere, hclose, hescape, hothers.1] using hothers.2
  | case5 c rest hclose hescape length closed hmore ih =>
      have hhere := isPrefixOf_of_last hthree more hlast
      rw [hmore] at ih
      have hne : rest ≠ [] := by
        rintro rfl
        cases hmore
        cases hclosed
      have hothers := ih (getLast?_of_ne_nil hlast hne) hclosed
      rw [List.cons_append, multilineStringLength.eq_def]
      simp only [List.cons_append] at hhere
      simpa [hhere, hclose, hescape, hothers.1] using hothers.2

theorem stringLexeme_of_last {mode : Mode} {quote : Char} (hquote : quote ≠ '\n')
    (more : List Char) (hlast : text.getLast? = some '\n')
    (hclosed : (stringLexeme mode quote text).problem = none) :
    stringLexeme mode quote (text ++ more) = stringLexeme mode quote text ∧
      (stringLexeme mode quote text).extra < text.length := by
  have htwo : '\n' ∉ [quote, quote] := by simpa using hquote.symm
  have hsame := isPrefixOf_of_last htwo more hlast
  by_cases hmultiline : [quote, quote].isPrefixOf text
  · obtain ⟨tail, rfl⟩ := List.isPrefixOf_iff_prefix.mp hmultiline
    have hend : tail.getLast? = some '\n' :=
      getLast?_of_cons (getLast?_of_cons hlast hquote) hquote
    have hstring : (multilineStringLength quote (quote = '"') tail).2 = true := by
      simpa [stringLexeme] using hclosed
    have htail := multilineStringLength_of_last hquote more hend hstring
    constructor
    · simp [stringLexeme, htail.1]
    · simpa [stringLexeme] using htail.2
  · have hline := lineStringLength_of_last quote (quote = '"') more hlast
    rw [Bool.not_eq_true] at hmultiline
    constructor
    · simp [stringLexeme, hsame, hmultiline, hline.1]
    · simpa [stringLexeme, hmultiline] using hline.2

theorem valueLength_of_last (c : Char) (more : List Char) (hlast : text.getLast? = some '\n') :
    valueLength c (text ++ more) = valueLength c text ∧ valueLength c text < text.length := by
  obtain ⟨hword, hlt⟩ := takeWhile_of_last isValueChar rfl more hlast
  unfold valueLength
  simp only [hword]
  generalize text.takeWhile isValueChar = word at hlt
  have hle : word.length ≤ text.length := by omega
  have hend : (text.drop word.length).getLast? = some '\n' := by
    rw [List.getLast?_drop, if_neg (by omega), hlast]
  have hlength : (text.drop word.length).length = text.length - word.length := by simp
  rw [List.drop_append_of_le_length hle]
  -- Behind the word the line feed is left, and the two characters that are looked at are the
  -- same unless it is the only one.
  match text.drop word.length, hend, hlength with
  | [d], hend, _ =>
      obtain rfl : d = '\n' := Option.some.inj hend
      exact ⟨rfl, hlt⟩
  | d :: e :: rest, hend, hlength =>
      rw [List.getLast?_cons_cons] at hend
      have htime := takeWhile_of_last isValueChar rfl more hend
      simp only [List.length_cons] at hlength htime
      by_cases hblank : d = ' '
      · subst hblank
        simp only [List.cons_append] at htime ⊢
        rw [htime.1]
        constructor
        · trivial
        · split <;> omega
      · simp [hblank, hlt]

theorem valueLexeme_of_last (mode : Mode) (c : Char) (more : List Char)
    (hlast : text.getLast? = some '\n') :
    valueLexeme mode c (text ++ more) = valueLexeme mode c text ∧
      (valueLexeme mode c text).extra < text.length := by
  obtain ⟨hsame, hlt⟩ := valueLength_of_last c more hlast
  have htake : (text ++ more).take (valueLength c text) = text.take (valueLength c text) :=
    List.take_append_of_le_length (by omega)
  constructor
  · simp only [valueLexeme, hsame, htake]
  · unfold valueLexeme
    dsimp only
    split <;> exact hlt

end

/-! ## The next token -/

section

variable {mode : Mode} {c : Char} {rest : List Char}

/-- A quote starts a string, whatever the mode is. -/
theorem lexeme_quote (hquote : c = '"' ∨ c = '\'') :
    lexeme mode c rest = stringLexeme mode c rest := by
  rcases hquote with rfl | rfl <;> simp [lexeme, atLineEnd, isInlineBlank]

/-- The next token does not depend on what follows the last line feed. -/
theorem lexeme_append (more : List Char) (hlast : (c :: rest).getLast? = some '\n')
    (hproblem : (lexeme mode c rest).problem = none) :
    lexeme mode c (rest ++ more) = lexeme mode c rest := by
  have hend := atLineEnd_append more hlast
  by_cases hfeed : c = '\n'
  · subst hfeed
    rfl
  · have hrest := getLast?_of_cons hlast hfeed
    by_cases hquote : c = '"' ∨ c = '\''
    · rw [lexeme_quote hquote] at hproblem
      rw [lexeme_quote hquote, lexeme_quote hquote]
      exact (stringLexeme_of_last hfeed more hrest hproblem).1
    · have hstring : (decide (c = '"') || decide (c = '\'')) = false := by simpa using hquote
      have hblank := takeWhile_of_last isInlineBlank rfl more hrest
      have hkey := takeWhile_of_last isKeyChar rfl more hrest
      have hcomment := commentLength_of_last more hrest
      have hvalue := valueLexeme_of_last mode c more hrest
      simp only [lexeme, hend, hblank.1, hcomment.1, hstring, hvalue.1, hkey.1,
        Bool.false_eq_true, if_false]

/-- Only a line end reaches the last line feed. -/
theorem extra_lt (hlast : (c :: rest).getLast? = some '\n')
    (hproblem : (lexeme mode c rest).problem = none) :
    (lexeme mode c rest).extra < rest.length ∨
      (lexeme mode c rest).mode = mode.endLine := by
  by_cases hend : atLineEnd (c :: rest) = true
  · right
    simp [lexeme, hend]
  · left
    have hrest := getLast?_of_cons hlast (ne_feed_of_not_atLineEnd hend)
    have hreads := reads_lexeme mode c rest
    generalize lexeme mode c rest = next at hreads hproblem
    cases hreads with
    | lineEnd hhere => exact absurd hhere hend
    | single => exact pos_of_last hrest
    | run kind p hp => exact (takeWhile_of_last p hp [] hrest).2
    | comment => exact (commentLength_of_last [] hrest).2
    | string => exact (stringLexeme_of_last (ne_feed_of_not_atLineEnd hend) [] hrest hproblem).2
    | value => exact (valueLexeme_of_last mode c [] hrest).2

end

/-! ## Further down -/

/-- A position some lines further down. -/
def Position.down (lines : Nat) (p : Position) : Position := ⟨p.line + lines, p.column⟩

/-- A token some lines further down. -/
def Token.down (lines : Nat) (token : Token) : Token :=
  { token with start := token.start.down lines, stop := token.stop.down lines }

/-- An error some lines further down. -/
def LexicalError.down (lines : Nat) (error : LexicalError) : LexicalError :=
  { error with position := error.position.down lines }

/-- A scanned document some lines further down. -/
def Scan.down (lines : Nat) (scanned : Scan) : Scan :=
  ⟨scanned.tokens.map (·.down lines), scanned.errors.map (·.down lines)⟩

theorem Position.after_down (lines : Nat) (p : Position) (text : List Char) :
    (p.down lines).after text = (p.after text).down lines := by
  induction text generalizing p with
  | nil => rfl
  | cons c rest ih =>
      have hnext : (p.down lines).next c = (p.next c).down lines := by
        by_cases hc : c = '\n'
        · simp only [next, down, hc, if_true, Position.mk.injEq, and_true]
          omega
        · simp [next, down, hc]
      rw [after, List.foldl_cons, hnext]
      exact ih (p.next c)

/-- Further down the same tokens are found, further down. -/
theorem scanFrom_down (lines : Nat) (mode : Mode) (start : Position) (text : List Char) :
    scanFrom mode (start.down lines) text = (scanFrom mode start text).down lines := by
  fun_induction scanFrom mode start text with
  | case1 mode start =>
      rw [scanFrom]
      split <;> rfl
  | case2 mode start c rest next taken stop others ih =>
      have hstop : (start.down lines).after (c :: rest.take (lexeme mode c rest).extra) =
          stop.down lines := Position.after_down lines start taken
      rw [scanFrom, hstop, ih]
      cases (lexeme mode c rest).problem <;>
        simp [Scan.down, Token.down, LexicalError.down, next, taken, others]

/-- Behind a line feed the position is at the start of a line. -/
theorem Position.after_origin_of_last {text : List Char}
    (hline : text = [] ∨ text.getLast? = some '\n') :
    origin.after text = origin.down (text.count '\n') := by
  rw [after_origin, behind, down]
  rcases hline with rfl | hlast
  · rfl
  · obtain ⟨line, rfl⟩ := List.getLast?_eq_some_iff.mp hlast
    simp [origin]

/-! ## Complete prefixes -/

/-- All lists are closed behind a text without errors. -/
theorem contexts_of_no_errors {mode : Mode} {start : Position}
    (herrors : (scanFrom mode start []).errors = []) : mode.contexts = [] := by
  rw [scanFrom] at herrors
  cases hcontexts : mode.contexts with
  | nil => rfl
  | cons context others => simp [hcontexts] at herrors

/-- Behind a line end no value is awaited if all lists are closed. -/
theorem Mode.endLine_of_closed {mode : Mode} (hclosed : mode.endLine.contexts = []) :
    mode.endLine = .initial := by
  have hcontexts : mode.contexts = [] := by
    unfold endLine at hclosed
    split at hclosed <;> exact hclosed
  simp [endLine, hcontexts, initial]

/-- Behind the first token of a complete prefix there is another one, or nothing is left
open. -/
theorem complete_drop {mode : Mode} {c : Char} {rest : List Char} {stop : Position}
    (hlast : (c :: rest).getLast? = some '\n') (hproblem : (lexeme mode c rest).problem = none)
    (herrors : (scanFrom (lexeme mode c rest).mode stop
      (rest.drop (lexeme mode c rest).extra)).errors = []) :
    rest.drop (lexeme mode c rest).extra = [] ∧ (lexeme mode c rest).mode = .initial ∨
      (rest.drop (lexeme mode c rest).extra).getLast? = some '\n' := by
  by_cases hlt : (lexeme mode c rest).extra < rest.length
  · right
    have hne : rest ≠ [] := List.length_pos_iff.mp (by omega)
    rw [List.getLast?_drop, if_neg (by omega)]
    exact getLast?_of_ne_nil hlast hne
  · left
    have hmode := (extra_lt hlast hproblem).resolve_left hlt
    have hnil : rest.drop (lexeme mode c rest).extra = [] :=
      List.drop_eq_nil_of_le (by omega)
    rw [hnil, hmode] at herrors
    exact ⟨hnil, hmode.trans (Mode.endLine_of_closed (contexts_of_no_errors herrors))⟩

/-- What is written behind a text without errors that ends with a line feed is scanned as
at the start of a document. -/
theorem scanFrom_append (mode : Mode) (start : Position) (before text : List Char)
    (hline : before = [] ∧ mode = .initial ∨ before.getLast? = some '\n')
    (herrors : (scanFrom mode start before).errors = []) :
    scanFrom mode start (before ++ text) =
      ⟨(scanFrom mode start before).tokens ++
          (scanFrom .initial (start.after before) text).tokens,
        (scanFrom .initial (start.after before) text).errors⟩ := by
  fun_induction scanFrom mode start before with
  | case1 mode start =>
      rcases hline with ⟨-, rfl⟩ | hlast
      · rfl
      · cases hlast
  | case2 mode start c rest next taken stop others ih =>
      have hlast : (c :: rest).getLast? = some '\n' := by
        rcases hline with ⟨hnil, -⟩ | hlast
        · cases hnil
        · exact hlast
      obtain ⟨hnone, hothers⟩ :
          (next.problem.map (LexicalError.mk · start)).toList = [] ∧ others.errors = [] :=
        List.append_eq_nil_iff.mp herrors
      have hproblem : (lexeme mode c rest).problem = none := by simpa using hnone
      -- The first token is the same with more text behind, and what it leaves is complete again.
      have hsame := lexeme_append text hlast hproblem
      have hle := extra_le mode c rest
      have hafter : start.after (c :: rest) = stop.after (rest.drop next.extra) := by
        rw [← Position.after_append, List.cons_append, List.take_append_drop]
      rw [List.cons_append, scanFrom, hsame, List.take_append_of_le_length hle,
        List.drop_append_of_le_length hle, ih (complete_drop hlast hproblem hothers) hothers,
        hafter, hnone]
      rfl

/-- **Complete prefixes.**  If a text is empty or ends with a line feed, and has no errors,
its tokens stay as they are whatever is written behind it; and that is scanned as if it
stood alone, as many lines further down as the text has line feeds. -/
theorem scan_append (before text : List Char)
    (hline : before = [] ∨ before.getLast? = some '\n') (herrors : (scan before).errors = []) :
    (scan (before ++ text)).tokens =
        (scan before).tokens ++ (scan text).tokens.map (·.down (before.count '\n')) ∧
      (scan (before ++ text)).errors =
        (scan text).errors.map (·.down (before.count '\n')) := by
  have hsplit := scanFrom_append .initial .origin before text
    (hline.imp_left fun hnil => ⟨hnil, rfl⟩) herrors
  rw [Position.after_origin_of_last hline, scanFrom_down] at hsplit
  rw [scan, hsplit]
  exact ⟨rfl, rfl⟩

/-- An array over several lines, and behind it a string that is not closed. -/
theorem scan_append_array :
    let before := "a = [ # 1\n  '', \"\\\"\",\n]\n".toList
    let text := "b = \"\"\"\"\n".toList
    (before = [] ∨ before.getLast? = some '\n') ∧ (scan before).errors = [] ∧
      (scan (before ++ text)).tokens =
        (scan before).tokens ++ (scan text).tokens.map (·.down (before.count '\n')) ∧
      (scan (before ++ text)).errors =
        (scan text).errors.map (·.down (before.count '\n')) ∧
      (scan (before ++ text)).errors = [⟨.unterminatedString, ⟨3, 4⟩⟩] := by
  intro before text
  have hline : before = [] ∨ before.getLast? = some '\n' := .inr (by decide)
  have herrors : (scan before).errors = [] := by decide +kernel
  obtain ⟨htokens, hothers⟩ := scan_append before text hline herrors
  have hquote : (scan (before ++ text)).errors = [⟨.unterminatedString, ⟨3, 4⟩⟩] := by
    decide +kernel
  exact ⟨hline, herrors, htokens, hothers, hquote⟩

end ManifestLint.Toml
