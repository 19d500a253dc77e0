import ManifestLint.Manifest.Reading
import ManifestLint.Proofs.Toml.CompletePrefix
import ManifestLint.Proofs.Toml.Stretches

/-!
# Quotes of strings

A string opens with one quote, or with three of the same if it goes over several lines, and is
closed by as many.  Up to two more quotes may stand before the closing three, and a backslash may
take a quote with it; but what is left without the quotes around it is always what stands between
those that opened the string and those that closed it.

* `openingQuote`: what a string opens with.
* `stripQuotes_between`: what stands between quotes is left without them.
* `quoted_lexeme`: a closed string stands between its quotes.
-/

namespace ManifestLint.Toml

/-- The quote that a text opens with: three characters if there are three of the same, else one. -/
def openingQuote : List Char → List Char
  | [] => []
  | c :: rest => if [c, c].isPrefixOf rest then [c, c, c] else [c]

/-- The quotes that a token of a kind can stand between. -/
def TokenKind.quotes : TokenKind → List (List Char)
  | basicString => [['"']]
  | literalString => [['\'']]
  | basicMultilineString => [['"', '"', '"']]
  | literalMultilineString => [['\'', '\'', '\'']]
  | quotedKey => ManifestLint.quotes
  | _ => []

/-! ## Without quotes -/

theorem not_three_of_openingQuote {c : Char} {rest : List Char}
    (h : openingQuote (c :: rest) = [c]) : [c, c, c].isPrefixOf (c :: rest) = false := by
  rw [openingQuote] at h
  split at h
  · cases h
  · next hrest => rw [List.isPrefixOf, Bool.eq_false_iff.mpr hrest, Bool.and_false]

/-- What stands between quotes is left without them, unless there are three where one was meant. -/
theorem stripQuotes_between {quote inside : List Char} (hquote : quote ∈ quotes)
    (hopen : openingQuote (quote ++ inside ++ quote) = quote) :
    stripQuotes (quote ++ inside ++ quote) = inside := by
  let text := quote ++ inside ++ quote
  let around (quote : List Char) : Bool :=
    2 * quote.length ≤ text.length && quote.isPrefixOf text && quote.isSuffixOf text
  have hlength : text.length = inside.length + 2 * quote.length := by
    simp only [text, List.length_append]
    omega
  have haround : around quote = true := by
    simp only [around, Bool.and_eq_true, decide_eq_true_eq, List.isPrefixOf_iff_prefix,
      List.isSuffixOf_iff_suffix]
    exact ⟨⟨by omega, inside ++ quote, by simp [text]⟩, quote ++ inside, rfl⟩
  have hnot (other : List Char) (h : other.isPrefixOf text = false) : around other = false := by
    simp [around, h]
  -- The quotes that are tried first do not start the text.
  have hfind : quotes.find? around = some quote := by
    simp only [quotes, List.mem_cons, List.not_mem_nil, or_false] at hquote
    refine List.find?_eq_some_iff_append.mpr ⟨haround, ?_⟩
    rcases hquote with rfl | rfl | rfl | rfl
    · exact ⟨[], _, rfl, by simp⟩
    · exact ⟨[_], _, rfl, by simpa using hnot ['"', '"', '"'] rfl⟩
    · refine ⟨[_, _], _, rfl, ?_⟩
      simpa using ⟨hnot ['"', '"', '"'] (not_three_of_openingQuote hopen),
        hnot ['\'', '\'', '\''] rfl⟩
    · refine ⟨[_, _, _], _, rfl, ?_⟩
      simpa using ⟨hnot ['"', '"', '"'] rfl,
        hnot ['\'', '\'', '\''] (not_three_of_openingQuote hopen), hnot ['"'] rfl⟩
  have hstrip : stripQuotes text =
      (text.drop quote.length).take (text.length - 2 * quote.length) := by
    rw [stripQuotes, hfind]
  rw [hstrip, hlength, Nat.add_sub_cancel]
  simp [text]

/-! ## Lengths of strings -/

theorem lineStringLength_closed {quote : Char} {basic : Bool} {text : List Char}
    (h : (lineStringLength quote basic text).2 = true) :
    ∃ inside, text.take (lineStringLength quote basic text).1 = inside ++ [quote] := by
  fun_induction lineStringLength quote basic text with
  | case1 => cases h
  | case2 => cases h
  | case3 => cases h
  | case4 => cases h
  | case5 c hescape d more hnext length closed hmore hend ih =>
      rw [hmore] at ih
      obtain ⟨inside, hinside⟩ := ih h
      exact ⟨c :: d :: inside, by simp [hinside]⟩
  | case6 => exact ⟨[], rfl⟩
  | case7 c rest hend hescape hquote length closed hmore ih =>
      rw [hmore] at ih
      obtain ⟨inside, hinside⟩ := ih h
      exact ⟨c :: inside, by simp [hinside]⟩

theorem multilineStringLength_closed {quote : Char} {basic : Bool} {text : List Char}
    (h : (multilineStringLength quote basic text).2 = true) :
    ∃ inside, text.take (multilineStringLength quote basic text).1 =
      inside ++ [quote, quote, quote] := by
  fun_induction multilineStringLength quote basic text with
  | case1 => cases h
  | case2 c rest hclose =>
      obtain ⟨tail, htail⟩ := List.isPrefixOf_iff_prefix.mp hclose
      obtain ⟨rfl, rfl⟩ : quote = c ∧ quote :: quote :: tail = rest := by simpa using htail
      -- The quotes behind the closing three are as good as before them.
      let more := (tail.take 2).takeWhile (· = quote)
      have hprefix : more <+: tail := (List.takeWhile_prefix _).trans (List.take_prefix 2 tail)
      have hmore : tail.take more.length = more := (List.prefix_iff_eq_take.mp hprefix).symm
      have hsame : more = List.replicate more.length quote := by
        refine List.eq_replicate_iff.mpr ⟨rfl, fun c hc => ?_⟩
        simpa using List.all_eq_true.mp List.all_takeWhile c hc
      refine ⟨more, ?_⟩
      change (List.replicate 3 quote ++ tail).take (3 + more.length) =
        more ++ List.replicate 3 quote
      rw [List.take_append, List.length_replicate, Nat.add_sub_cancel_left, hmore,
        List.take_of_length_le (by simp), hsame]
      simp only [List.replicate_append_replicate, Nat.add_comm]
  | case3 => cases h
  | case4 c hescape d rest length closed hmore hclose ih =>
      rw [hmore] at ih
      obtain ⟨inside, hinside⟩ := ih h
      exact ⟨c :: d :: inside, by simp [hinside]⟩
  | case5 c rest hclose hescape length closed hmore ih =>
      rw [hmore] at ih
      obtain ⟨inside, hinside⟩ := ih h
      exact ⟨c :: inside, by simp [hinside]⟩

/-! ## Strings -/

section

variable {mode : Mode} {c : Char} {rest : List Char}

/-- A text stands between quotes that a kind of token can stand between: those that it opens
with. -/
structure Quoted (kind : TokenKind) (text : List Char) : Prop where
  quote : openingQuote text ∈ kind.quotes
  text : text = openingQuote text ++ stripQuotes text ++ openingQuote text

theorem quoted_of_between {kind : TokenKind} {quote inside text : List Char}
    (hquote : quote ∈ quotes) (hkind : quote ∈ kind.quotes)
    (htext : text = quote ++ inside ++ quote) (hopen : openingQuote text = quote) : Quoted kind text := by
  refine ⟨hopen ▸ hkind, ?_⟩
  rw [hopen, htext, stripQuotes_between hquote (htext ▸ hopen)]

/-- A closed string stands between the quotes that it was opened with. -/
theorem stringLexeme_closed (hquote : c = '"' ∨ c = '\'')
    (hclosed : (stringLexeme mode c rest).problem = none) :
    let text := c :: rest.take (stringLexeme mode c rest).extra
    openingQuote text = openingQuote (c :: rest) ∧
      Quoted (stringLexeme mode c rest).kind text := by
  intro text
  by_cases hmultiline : [c, c].isPrefixOf rest
  · obtain ⟨tail, rfl⟩ := List.isPrefixOf_iff_prefix.mp hmultiline
    have hstring : (multilineStringLength c (c = '"') tail).2 = true := by
      simpa [stringLexeme] using hclosed
    obtain ⟨inside, hinside⟩ := multilineStringLength_closed hstring
    have htext : text = [c, c, c] ++ inside ++ [c, c, c] := by
      simp [text, stringLexeme, hinside]
    have hopen : openingQuote text = [c, c, c] := by
      simp [htext, openingQuote]
    refine ⟨hopen.trans (by simp [openingQuote]), quoted_of_between ?_ ?_ htext hopen⟩
    · rcases hquote with rfl | rfl <;> decide
    · rcases hquote with rfl | rfl <;> cases hvalue : mode.value <;>
        simp [stringLexeme, hvalue, TokenKind.quotes, quotes]
  · have hsingle : [c, c].isPrefixOf rest = false := Bool.eq_false_iff.mpr hmultiline
    have hstring : (lineStringLength c (c = '"') rest).2 = true := by
      simpa [stringLexeme, hsingle] using hclosed
    obtain ⟨inside, hinside⟩ := lineStringLength_closed hstring
    have htext : text = [c] ++ inside ++ [c] := by
      simp [text, stringLexeme, hsingle, hinside]
    have hopen : openingQuote text = [c] := by
      refine if_neg fun hthree => hmultiline ?_
      rw [List.isPrefixOf_iff_prefix] at hthree ⊢
      exact hthree.trans (List.take_prefix _ _)
    refine ⟨hopen.trans (by simp [openingQuote, hmultiline]), quoted_of_between ?_ ?_ htext hopen⟩
    · rcases hquote with rfl | rfl <;> decide
    · rcases hquote with rfl | rfl <;> cases hvalue : mode.value <;>
        simp [stringLexeme, hvalue, hsingle, TokenKind.quotes, quotes]

theorem quotes_of_classify {text : List Char} {kind : TokenKind} (h : classify text = some kind) :
    kind.quotes = [] := by
  have hcategory := category_of_classify h
  cases kind <;> first | rfl | simp [TokenKind.category] at hcategory

/-- Only strings stand between quotes. -/
theorem quote_of_lexeme (mode : Mode) (c : Char) (rest : List Char) :
    (lexeme mode c rest).kind.quotes ≠ [] → c = '"' ∨ c = '\'' := by
  have hvalue : (valueLexeme mode c rest).kind.quotes = [] := by
    unfold valueLexeme
    dsimp only
    split
    · next kind hkind => exact quotes_of_classify hkind
    · rfl
  fun_cases lexeme mode c rest with
  | case11 _ _ _ _ _ _ _ _ _ hquote => exact fun _ => by simpa using hquote
  | case12 => exact fun hquotes => absurd hvalue hquotes
  | _ => exact fun hquotes => absurd rfl hquotes

/-- **Quotes.**  A token that can stand between quotes does so if nothing is wrong with it: it is
opened by the quote that stands there, and closed by the same. -/
theorem quoted_lexeme (hquotes : (lexeme mode c rest).kind.quotes ≠ [])
    (hproblem : (lexeme mode c rest).problem = none) :
    let text := c :: rest.take (lexeme mode c rest).extra
    openingQuote text = openingQuote (c :: rest) ∧ Quoted (lexeme mode c rest).kind text := by
  have hquote := quote_of_lexeme mode c rest hquotes
  rw [lexeme_quote hquote] at hproblem ⊢
  exact stringLexeme_closed hquote hproblem

end

end ManifestLint.Toml
