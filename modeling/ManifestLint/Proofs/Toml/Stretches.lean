import Mathlib.Data.List.Chain
import Mathlib.Order.Lattice
import ManifestLint.Proofs.Toml.Coverage
import ManifestLint.Proofs.Toml.Lines

/-!
# Stretches of a document

What lies between two positions of a document.  Every character has a position, and each is
further on than the one before it; so the positions at the two ends of a token are enough to
find its text again, and a token is wholly before those that come later.

* `Position.lt_after`: a text that is not empty leads on.
* `cut_after`: what is cut out between two places of a text is what stands between them.
* `no_key_behind_string`, `stop_lt_start_of_significant`: a string is never directly followed
  by a key, so it ends before the next one starts.
-/

namespace ManifestLint.Toml

/-! ## The order of positions -/

namespace Position

instance : LinearOrder Position where
  le_refl a := by simp [le_iff]
  le_trans a b c := by
    simp only [le_iff]
    omega
  le_antisymm a b := by
    obtain ⟨line, column⟩ := a
    obtain ⟨otherLine, otherColumn⟩ := b
    simp only [le_iff, mk.injEq]
    omega
  le_total a b := by
    simp only [le_iff]
    omega
  toDecidableLE := inferInstance

theorem lt_next (p : Position) (c : Char) : p < p.next c := by
  rw [lt_iff_not_ge, le_iff, next]
  split <;> dsimp only <;> omega

theorem le_after (p : Position) (text : List Char) : p ≤ p.after text := by
  induction text generalizing p with
  | nil => exact le_rfl
  | cons c rest ih => exact (lt_next p c).le.trans (ih (p.next c))

/-- A text that is not empty leads on. -/
theorem lt_after (p : Position) {text : List Char} (htext : text ≠ []) : p < p.after text := by
  obtain ⟨c, rest, rfl⟩ := List.exists_cons_of_ne_nil htext
  exact (lt_next p c).trans_le (le_after (p.next c) rest)

/-- A text goes down as many lines as it has line feeds. -/
theorem line_after (p : Position) (text : List Char) :
    (p.after text).line = p.line + text.count '\n' := by
  induction text generalizing p with
  | nil => simp
  | cons c rest ih =>
      have hnext : (p.after (c :: rest)).line = (p.next c).line + rest.count '\n' := ih (p.next c)
      rw [hnext, next, List.count_cons]
      split
      · simp [*]
        omega
      · simp [*]

end Position

/-! ## Cutting -/

/-- The characters of a text with their positions, the first one at a given position. -/
def charsAt (p : Position) : List Char → List (Position × Char)
  | [] => []
  | c :: rest => (p, c) :: charsAt (p.next c) rest

/-- The text between the ends of a span. -/
def Span.cut (span : Span) (text : List Char) : List Char :=
  ((charsAt .origin text).filter fun place =>
    span.start ≤ place.1 && place.1 < span.stop).map Prod.snd

theorem charsAt_append (p : Position) (first second : List Char) :
    charsAt p (first ++ second) = charsAt p first ++ charsAt (p.after first) second := by
  induction first generalizing p with
  | nil => rfl
  | cons c rest ih => exact congrArg ((p, c) :: ·) (ih (p.next c))

theorem map_charsAt (p : Position) (text : List Char) :
    (charsAt p text).map Prod.snd = text := by
  induction text generalizing p with
  | nil => rfl
  | cons c rest ih => exact congrArg (c :: ·) (ih (p.next c))

/-- The characters of a text stand between its ends. -/
theorem charsAt_between {p : Position} {text : List Char} :
    ∀ place ∈ charsAt p text, p ≤ place.1 ∧ place.1 < p.after text := by
  induction text generalizing p with
  | nil => simp [charsAt]
  | cons c rest ih =>
      refine List.forall_mem_cons.mpr ⟨⟨le_rfl, p.lt_after (by simp)⟩, fun place hplace => ?_⟩
      obtain ⟨hstart, hstop⟩ := ih place hplace
      exact ⟨(p.lt_next c).le.trans hstart, hstop⟩

/-- What is cut out between two places of a text is what stands between them. -/
theorem cut_after (before word after : List Char) :
    Span.cut ⟨Position.origin.after before, Position.origin.after (before ++ word)⟩
      (before ++ word ++ after) = word := by
  let start := Position.origin.after before
  let stop := start.after word
  have hstop : Position.origin.after (before ++ word) = stop := Position.after_append ..
  have hbefore : ((charsAt .origin before).filter fun place =>
      start ≤ place.1 && place.1 < stop) = [] := by
    simp only [List.filter_eq_nil_iff, Bool.and_eq_true, decide_eq_true_eq, not_and]
    exact fun place hplace hstart => absurd hstart (charsAt_between place hplace).2.not_ge
  have hword : ((charsAt start word).filter fun place =>
      start ≤ place.1 && place.1 < stop) = charsAt start word := by
    simp only [List.filter_eq_self, Bool.and_eq_true, decide_eq_true_eq]
    exact charsAt_between
  have hafter : ((charsAt stop after).filter fun place =>
      start ≤ place.1 && place.1 < stop) = [] := by
    simp only [List.filter_eq_nil_iff, Bool.and_eq_true, decide_eq_true_eq, not_and]
    exact fun place hplace _ => (charsAt_between place hplace).1.not_gt
  rw [Span.cut, hstop, charsAt_append, charsAt_append, hstop, List.filter_append,
    List.filter_append, hbefore, hword, hafter, List.nil_append, List.append_nil, map_charsAt]

/-! ## Tokens in their document -/

namespace Tiles

variable {tokens : List Token} {text : List Char}

/-- A token of a document starts and ends behind the texts of the tokens before it and its
own. -/
theorem span_eq {before after : List Token} {token : Token}
    (h : Tiles .origin (before ++ token :: after) text) :
    token.span = ⟨Position.origin.after (before.flatMap Token.text),
      Position.origin.after (before.flatMap Token.text ++ token.text)⟩ := by
  have hstop := h.stop_eq token (by simp)
  rw [h.start_eq, ← Position.after_append] at hstop
  rw [Token.span, hstop, h.start_eq]

/-- The text of a token is what its document has between the ends of the token. -/
theorem cut_span (h : Tiles .origin tokens text) :
    ∀ token ∈ tokens, token.span.cut text = token.text := by
  intro token hmem
  obtain ⟨before, after, rfl⟩ := List.append_of_mem hmem
  have htext : text = before.flatMap Token.text ++ token.text ++ after.flatMap Token.text := by
    rw [← h.flatMap_text]
    simp
  rw [h.span_eq, htext]
  exact cut_after ..

/-- Later tokens do not start before a token ends. -/
theorem pairwise {start : Position} (h : Tiles start tokens text) :
    tokens.Pairwise fun token next => token.stop ≤ next.start := by
  induction h with
  | nil start => exact .nil
  | cons hnext hstart hstop htiles ih =>
      refine List.pairwise_cons.mpr ⟨fun later hmem => ?_, ih⟩
      obtain ⟨before, after, rfl⟩ := List.append_of_mem hmem
      rw [htiles.start_eq]
      exact Position.le_after ..

/-- A token ends before those start that do not follow it directly. -/
theorem stop_lt_start {start : Position} {before between after : List Token} {first second : Token}
    (h : Tiles start (before ++ first :: (between ++ second :: after)) text)
    (hbetween : between ≠ []) : first.stop < second.start := by
  have hsplit : Tiles start ((before ++ first :: between) ++ second :: after) text := by
    simpa using h
  have hstop : first.stop = start.after (before.flatMap Token.text ++ first.text) := by
    rw [h.stop_eq first (by simp), h.start_eq, Position.after_append]
  have hstart : second.start = first.stop.after (between.flatMap Token.text) := by
    rw [hsplit.start_eq, hstop, ← Position.after_append]
    simp
  obtain ⟨next, others, rfl⟩ := List.exists_cons_of_ne_nil hbetween
  have hnext : next.text ≠ [] := h.ne_nil next (by simp)
  rw [hstart]
  exact Position.lt_after _ (by simp [hnext])

end Tiles

/-! ## Keys and values -/

/-- What can be told of a bare value is of a kind of values. -/
theorem category_of_classify {text : List Char} {kind : TokenKind} (h : classify text = some kind) :
    kind.category ∈ [.boolean, .integer, .float, .dateTime] := by
  obtain ⟨shape, hfind, rfl⟩ := Option.map_eq_some_iff.mp h
  have hall : ∀ shape ∈ shapes,
      shape.1.category ∈ [.boolean, .integer, .float, .dateTime] := by
    simp [shapes, TokenKind.category]
  exact hall shape (List.mem_of_find?_eq_some hfind)

/-- Keys stand where no value is awaited, strings where one is; and behind a string a value is
still awaited. -/
theorem lexeme_mode (mode : Mode) (c : Char) (rest : List Char) :
    ((lexeme mode c rest).kind.category = .key → mode.value = false) ∧
      ((lexeme mode c rest).kind.category = .string →
        (lexeme mode c rest).mode.value = true) := by
  have hstring : ((stringLexeme mode c rest).kind.category = .key → mode.value = false) ∧
      ((stringLexeme mode c rest).kind.category = .string →
        (stringLexeme mode c rest).mode.value = true) := by
    unfold stringLexeme
    cases hvalue : mode.value with
    | false => simp [TokenKind.category]
    | true =>
        simp only [Bool.not_true, Bool.false_eq_true, if_false]
        split <;> simp [TokenKind.category]
  have hvalue : (valueLexeme mode c rest).kind.category ≠ .key ∧
      (valueLexeme mode c rest).kind.category ≠ .string := by
    unfold valueLexeme
    dsimp only
    split
    · next kind hkind =>
        have hcategory := category_of_classify hkind
        constructor <;> (intro heq; simp [heq] at hcategory)
    · simp [TokenKind.category]
  fun_cases lexeme mode c rest with
  | case11 => exact hstring
  | case12 => exact ⟨fun hkey => absurd hkey hvalue.1, fun hkey => absurd hkey hvalue.2⟩
  | case13 => simp_all [TokenKind.category]
  | _ => simp [TokenKind.category]

/-- A string is never directly followed by a key. -/
theorem no_key_behind_string (mode : Mode) (start : Position) (text : List Char) :
    (scanFrom mode start text).tokens.IsChain fun token next =>
      token.category = .string → next.category ≠ .key := by
  fun_induction scanFrom mode start text with
  | case1 mode start => exact .nil
  | case2 mode start c rest next taken stop others ih =>
      refine List.isChain_cons.mpr ⟨fun follower hfollower hstring hkey => ?_, ih⟩
      have hmode : next.mode.value = true := (lexeme_mode mode c rest).2 hstring
      -- The follower was scanned in the mode behind the string.
      unfold others at hfollower
      cases hrest : rest.drop next.extra with
      | nil =>
          rw [hrest, scanFrom] at hfollower
          cases hfollower
      | cons d more =>
          rw [hrest, scanFrom] at hfollower
          obtain rfl := Option.mem_some.mp hfollower
          rw [(lexeme_mode next.mode d more).1 hkey] at hmode
          cases hmode

/-- Of the tokens that carry meaning a string ends before every key behind it starts. -/
theorem stop_lt_start_of_significant {text : List Char} {before between after : List Token}
    {string key : Token}
    (h : significant (scan text).tokens = before ++ string :: (between ++ key :: after))
    (hstring : string.category = .string) (hkey : key.category = .key) :
    string.stop < key.start := by
  obtain ⟨front, back, hsplit, -, hback⟩ := List.filter_eq_append_iff.mp h
  obtain ⟨blanks, behind, rfl, -, -, hbehind⟩ := List.filter_eq_cons_iff.mp hback
  obtain ⟨near, far, rfl, -, hfar⟩ := List.filter_eq_append_iff.mp hbehind
  obtain ⟨others, last, rfl, -, -, -⟩ := List.filter_eq_cons_iff.mp hfar
  have htokens : (scan text).tokens =
      (front ++ blanks) ++ string :: ((near ++ others) ++ key :: last) := by simp [hsplit]
  have htiles : Tiles .origin (scan text).tokens text := tiles_scanFrom ..
  rw [htokens] at htiles
  refine htiles.stop_lt_start fun hnil => ?_
  have hchain := no_key_behind_string .initial .origin text
  change (scan text).tokens.IsChain _ at hchain
  rw [htokens, hnil, List.nil_append] at hchain
  exact (List.isChain_cons_cons.mp hchain.right_of_append).1 hstring hkey

end ManifestLint.Toml
