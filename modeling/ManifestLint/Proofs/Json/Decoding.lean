import Mathlib.Data.List.Induction
import ManifestLint.Proofs.Json.Compact
import ManifestLint.Proofs.Text.Lines

/-!
# Reading compact documents

A compact document is read back as the value it stands for.  The reader takes each part off the
front of a text and leaves what follows it, as long as that closes the part; so what is read is
found by induction on how the part is written.

* `stringBody_spells`, `number_text`: strings and numbers.
* `Compact.isRead`: every part.
* `decodeChars_compact`: whole documents.
-/

namespace ManifestLint

/-! ## Objects -/

namespace Entries

variable {κ ν : Type} [DecidableEq κ]

/-- Pairs with different keys stay as they are. -/
theorem ofPairs_of_nodup {pairs : List (κ × ν)} (h : (pairs.map Prod.fst).Nodup) :
    ofPairs pairs = pairs := by
  induction pairs using List.reverseRecOn with
  | nil => rfl
  | append_singleton pairs pair ih =>
      rw [List.map_append, List.nodup_append] at h
      have hkey : pair.1 ∉ pairs.map Prod.fst := fun hmem => h.2.2 _ hmem pair.1 (by simp) rfl
      have hfold : ofPairs (pairs ++ [pair]) = put (ofPairs pairs) pair.1 pair.2 := by
        simp [ofPairs]
      rw [hfold, ih h.1, put_of_notMem hkey]

end Entries

end ManifestLint

namespace ManifestLint.Json

open ManifestLint.Text (codePoint)

theorem skip_append (offset : Nat) (text rest : List Char) :
    Cursor.skip ⟨offset, text ++ rest⟩ text.length = ⟨offset + text.length, rest⟩ := by
  simp [Cursor.skip]

/-! ## Strings -/

section

variable {steps start offset : Nat} {seen rest : List Char} {c : Char}

theorem stringBody_plain (h : isPlain c = true) :
    stringBody (steps + 1) start seen ⟨offset, c :: rest⟩ =
      stringBody steps start (c :: seen) ⟨offset + 1, rest⟩ := by
  simp only [isPlain, Bool.and_eq_true, decide_eq_true_eq] at h
  obtain ⟨⟨hcontrol, hquote⟩, hescape⟩ := h
  have hlow : ¬ c.toNat ≤ 0x1F := by omega
  rw [stringBody]
  dsimp only
  split
  · next heq => cases heq
  · next heq => exact absurd (List.cons.inj heq).1 hquote
  · next heq => exact absurd (List.cons.inj heq).1 hescape
  · next heq => exact absurd (List.cons.inj heq).1 hescape
  · next heq => exact absurd (List.cons.inj heq).1 hescape
  · next heq =>
      obtain ⟨rfl, rfl⟩ := List.cons.inj heq
      rw [if_neg hlow]
      rfl

theorem stringBody_letter {letter : Char} (h : simpleEscape? letter = some c) :
    stringBody (steps + 1) start seen ⟨offset, '\\' :: letter :: rest⟩ =
      stringBody steps start (c :: seen) ⟨offset + 2, rest⟩ := by
  -- No letter of an escape starts one with four digits.
  have hunicode : letter ≠ 'u' := by
    rintro rfl
    cases h
  rw [stringBody]
  simp [h, Cursor.skip]

theorem stringBody_digits {a b d e f : Char} (hplain : isPlain c = false)
    (h : hexQuad? [a, b, d, e] = some c.toNat) :
    stringBody (steps + 1) start seen ⟨offset, '\\' :: 'u' :: a :: b :: d :: e :: f :: rest⟩ =
      stringBody steps start (c :: seen) ⟨offset + 6, f :: rest⟩ := by
  have hquad : hexQuad? (a :: b :: d :: e :: f :: rest) = some c.toNat := h
  -- Only control characters, quotes and backslashes need an escape, so this is no surrogate.
  have hlow : c.toNat < 0x80 := by
    refine Nat.lt_of_not_le fun hhigh => ?_
    have hquote : c ≠ '"' := by
      rintro rfl
      exact absurd hhigh (by decide)
    have hescape : c ≠ '\\' := by
      rintro rfl
      exact absurd hhigh (by decide)
    simp [isPlain, hquote, hescape] at hplain
    omega
  have hpoint : codePoint c.toNat = c := by
    rw [codePoint, if_neg (by omega), Char.ofNat_toNat]
  have hhalf : ¬ (0xD800 ≤ c.toNat ∧ c.toNat ≤ 0xDBFF) := by omega
  rw [stringBody]
  simp [hquad, hhalf, hpoint, Cursor.skip]

/-- A character is taken off the inside of a string. -/
theorem stringBody_word {word : List Char} (h : Spells c word) (hrest : rest ≠ []) :
    stringBody (steps + 1) start seen ⟨offset, word ++ rest⟩ =
      stringBody steps start (c :: seen) ⟨offset + word.length, rest⟩ := by
  cases h with
  | plain hplain => exact stringBody_plain hplain
  | letter hplain hletter => exact stringBody_letter hletter
  | digits hplain hquad =>
      obtain ⟨f, others, rfl⟩ := List.exists_cons_of_ne_nil hrest
      exact stringBody_digits hplain hquad

theorem Spells.length_pos {word : List Char} (h : Spells c word) : 0 < word.length := by
  cases h <;> simp

/-- The inside of a string is read up to its closing quote. -/
theorem stringBody_spells {chars text : List Char} (h : SpellsAll chars text)
    (hsteps : text.length < steps) :
    stringBody steps start seen ⟨offset, text ++ '"' :: rest⟩ =
      .ok (.ofList (seen.reverse ++ chars), ⟨offset + text.length + 1, rest⟩) := by
  induction h generalizing steps seen offset with
  | nil =>
      obtain ⟨more, rfl⟩ := Nat.exists_eq_add_one_of_ne_zero (Nat.ne_zero_of_lt hsteps)
      simp [stringBody, Cursor.skip]
  | @cons c word chars text hword hrest ih =>
      obtain ⟨more, rfl⟩ := Nat.exists_eq_add_one_of_ne_zero (Nat.ne_zero_of_lt hsteps)
      have hpos := hword.length_pos
      rw [List.length_append] at hsteps
      rw [List.append_assoc, stringBody_word hword (by simp), ih (by omega), List.length_append]
      simp [Nat.add_assoc]

end

/-! ## Numbers -/

/-- What may follow a value in a compact document: the end, a comma or a closing bracket. -/
def Closes (rest : List Char) : Prop := ∀ c ∈ rest.head?, c = ',' ∨ c = ']' ∨ c = '}'

theorem Closes.stops {rest : List Char} (h : Closes rest) :
    ∀ c ∈ rest.head?, c.isDigit = false ∧ c ≠ '.' ∧ c ≠ 'e' ∧ c ≠ 'E' ∧ isSpace c = false := by
  intro c hc
  rcases h c hc with rfl | rfl | rfl <;> decide

namespace Numeral

variable (numeral : Numeral) {rest : List Char}

theorem exponentLength_power (hrest : Closes rest) :
    exponentLength (numeral.power ++ rest) = numeral.power.length := by
  have hstops := hrest.stops
  rcases numeral.power_shape with hnil | ⟨letter, sign, digits, hletter, hsign, hne, hdigits, heq⟩
  · rw [hnil, List.nil_append]
    cases rest with
    | nil => rfl
    | cons c others =>
        obtain ⟨-, -, hsmall, hlarge, -⟩ := hstops c rfl
        simp [exponentLength, hsmall, hlarge]
  · have htake := (Text.span_append hdigits fun c hc => (hstops c hc).1).1
    have hlength : digits.length ≠ 0 := by simpa using hne
    rw [heq]
    obtain rfl | rfl | rfl : sign = [] ∨ sign = ['+'] ∨ sign = ['-'] := by simpa using hsign
    · -- A digit follows the letter, so there is no sign to count.
      obtain ⟨first, others, rfl⟩ := List.exists_cons_of_ne_nil hne
      have hfirst : first.isDigit = true := hdigits first List.mem_cons_self
      rw [List.nil_append, List.cons_append, exponentLength, if_pos hletter]
      · dsimp only
        rw [List.drop_zero, htake, if_neg hlength]
        simp only [List.length_cons]
        omega
      · rintro _ heq
        obtain ⟨rfl, -⟩ := List.cons.inj heq
        cases hfirst
      · rintro _ heq
        obtain ⟨rfl, -⟩ := List.cons.inj heq
        cases hfirst
    · simp [exponentLength, hletter, htake, hne]
      omega
    · simp [exponentLength, hletter, htake, hne]
      omega

theorem head_power (hrest : Closes rest) :
    ∀ c ∈ (numeral.power ++ rest).head?, c.isDigit = false ∧ c ≠ '.' := by
  rcases numeral.power_shape with hnil | ⟨letter, sign, digits, hletter, -, -, -, heq⟩
  · rw [hnil, List.nil_append]
    exact fun c hc => ⟨(hrest.stops c hc).1, (hrest.stops c hc).2.1⟩
  · rw [heq]
    rcases hletter with rfl | rfl <;> simp

theorem fractionLength_places (hrest : Closes rest) :
    fractionLength (numeral.places ++ (numeral.power ++ rest)) = numeral.places.length := by
  have hhead := numeral.head_power hrest
  rcases numeral.places_shape with hnil | ⟨digits, hne, hdigits, heq⟩
  · rw [hnil, List.nil_append]
    cases hpower : numeral.power ++ rest with
    | nil => rfl
    | cons c others =>
        rw [hpower] at hhead
        unfold fractionLength
        split
        · next heq => exact absurd (List.cons.inj heq).1 (hhead c rfl).2
        · rfl
  · have htake := (Text.span_append hdigits fun c hc => (hhead c hc).1).1
    have hlength : digits.length ≠ 0 := by simpa using hne
    rw [heq, List.cons_append, fractionLength, htake, if_neg hlength, List.length_cons]

theorem head_places (hrest : Closes rest) :
    ∀ c ∈ (numeral.places ++ (numeral.power ++ rest)).head?, c.isDigit = false := by
  rcases numeral.places_shape with hnil | ⟨digits, -, -, heq⟩
  · rw [hnil, List.nil_append]
    exact fun c hc => (numeral.head_power hrest c hc).1
  · simp [heq]

theorem wholeLength_whole (hrest : Closes rest) :
    wholeLength (numeral.whole ++ (numeral.places ++ (numeral.power ++ rest))) =
      numeral.whole.length := by
  rcases numeral.whole_shape with hzero | ⟨hne, hhead⟩
  · rw [hzero]
    rfl
  · have htake := (Text.span_append numeral.whole_digits (numeral.head_places hrest)).1
    obtain ⟨first, others, heq⟩ := List.exists_cons_of_ne_nil hne
    rw [heq] at hhead htake ⊢
    unfold wholeLength
    split
    · next hcons => exact absurd (congrArg some (List.cons.inj hcons).1) (by simpa using hhead)
    · rw [htake]

/-- A number is read up to what closes it. -/
theorem number_text (offset : Nat) (hrest : Closes rest) :
    number ⟨offset, numeral.text ++ rest⟩ =
      if numeral.isWhole then .ok (.int numeral.toInt, ⟨offset + numeral.text.length, rest⟩)
      else
        let magnitude := (Decimal.readDecimal? numeral.unsigned).getD 0.0
        .ok (.float (if numeral.negative then -magnitude else magnitude),
          ⟨offset + numeral.text.length, rest⟩) := by
  obtain ⟨first, others, hfirst, hdigit⟩ := numeral.exists_unsigned
  have hparts : numeral.unsigned.length =
      numeral.whole.length + numeral.places.length + numeral.power.length := by
    simp [unsigned, Nat.add_assoc]
  have hassoc : numeral.unsigned ++ rest =
      numeral.whole ++ (numeral.places ++ (numeral.power ++ rest)) := by simp [unsigned]
  have hwhole : wholeLength (numeral.unsigned ++ rest) = numeral.whole.length :=
    hassoc ▸ numeral.wholeLength_whole hrest
  have hplaces : (numeral.unsigned ++ rest).drop numeral.whole.length =
      numeral.places ++ (numeral.power ++ rest) := by rw [hassoc, List.drop_left]
  have hpower : (numeral.unsigned ++ rest).drop (numeral.whole.length + numeral.places.length) =
      numeral.power ++ rest := by rw [← List.drop_drop, hplaces, List.drop_left]
  have htake : (numeral.unsigned ++ rest).take numeral.whole.length = numeral.whole := by
    rw [hassoc, List.take_left]
  have hall : (numeral.unsigned ++ rest).take numeral.unsigned.length = numeral.unsigned :=
    List.take_left ..
  have hpart : numeral.isWhole = true ↔ numeral.places.length + numeral.power.length = 0 := by
    simp [isWhole]
  unfold number text toInt
  cases numeral.negative with
  | true =>
      have hskip : Cursor.skip ⟨offset, '-' :: (numeral.unsigned ++ rest)⟩
          (1 + numeral.whole.length + numeral.places.length + numeral.power.length) =
            ⟨offset + (numeral.unsigned.length + 1), rest⟩ := by
        have hcount : 1 + numeral.whole.length + numeral.places.length + numeral.power.length =
            numeral.unsigned.length + 1 := by omega
        rw [hcount]
        exact skip_append offset ('-' :: numeral.unsigned) rest
      simp only [if_true, List.cons_append, hwhole, numeral.whole_ne_zero, if_false, hplaces,
        numeral.fractionLength_places hrest, hpower, numeral.exponentLength_power hrest, htake,
        ← hparts, hall, hskip, ← hpart, List.length_cons]
  | false =>
      have hskip : Cursor.skip ⟨offset, numeral.unsigned ++ rest⟩
          (0 + numeral.whole.length + numeral.places.length + numeral.power.length) =
            ⟨offset + numeral.unsigned.length, rest⟩ := by
        have hcount : 0 + numeral.whole.length + numeral.places.length + numeral.power.length =
            numeral.unsigned.length := by omega
        rw [hcount]
        exact skip_append offset numeral.unsigned rest
      simp only [Bool.false_eq_true, if_false]
      split
      · next heq =>
          rw [hfirst] at heq
          obtain ⟨rfl, -⟩ := List.cons.inj heq
          cases hdigit
      · simp only [hwhole, numeral.whole_ne_zero, if_false, hplaces,
          numeral.fractionLength_places hrest, hpower, numeral.exponentLength_power hrest, htake,
          ← hparts, hall, hskip, ← hpart, Nat.zero_ne_one]

end Numeral

/-! ## Values -/

theorem skipSpace_eq {cursor : Cursor} (h : ∀ c ∈ cursor.rest.head?, isSpace c = false) :
    cursor.skipSpace = cursor := by
  obtain ⟨offset, rest⟩ := cursor
  cases rest with
  | nil => rfl
  | cons c more =>
      have hc : isSpace c = false := h c rfl
      simp [Cursor.skipSpace, Cursor.skip, hc]

theorem value_scalar {steps offset : Nat} {c : Char} {rest : List Char} (hquote : c ≠ '"')
    (hsquare : c ≠ '[') (hcurly : c ≠ '{') :
    value (steps + 1) ⟨offset, c :: rest⟩ = scalar ⟨offset, c :: rest⟩ := by
  rw [value]
  dsimp only
  split
  · next heq => cases heq
  · next heq => exact absurd (List.cons.inj heq).1 hquote
  · next heq => exact absurd (List.cons.inj heq).1 hsquare
  · next heq => exact absurd (List.cons.inj heq).1 hcurly
  · rfl

/-- No name of a value is mistaken for a number. -/
theorem scalar_text (numeral : Numeral) (offset : Nat) (rest : List Char) :
    scalar ⟨offset, numeral.text ++ rest⟩ = number ⟨offset, numeral.text ++ rest⟩ := by
  obtain ⟨first, others, hfirst, hdigit⟩ := numeral.exists_unsigned
  have hne (d : Char) (hd : d.isDigit = false) : (d == first) = false := by
    simpa using (ne_of_isDigit hdigit d hd).symm
  unfold scalar Numeral.text
  cases numeral.negative with
  | true => simp [hfirst, List.isPrefixOf, hne 'I' rfl]
  | false =>
      simp [hfirst, List.isPrefixOf, hne 'n' rfl, hne 't' rfl, hne 'f' rfl, hne 'N' rfl,
        hne 'I' rfl, hne '-' rfl]

theorem value_text (numeral : Numeral) {steps offset : Nat} {rest : List Char}
    (hrest : Closes rest) :
    value (steps + 1) ⟨offset, numeral.text ++ rest⟩ =
      if numeral.isWhole then .ok (.int numeral.toInt, ⟨offset + numeral.text.length, rest⟩)
      else
        let magnitude := (Decimal.readDecimal? numeral.unsigned).getD 0.0
        .ok (.float (if numeral.negative then -magnitude else magnitude),
          ⟨offset + numeral.text.length, rest⟩) := by
  rw [← numeral.number_text offset hrest, ← scalar_text]
  obtain ⟨c, more, htext, hc⟩ := numeral.head_text
  rw [htext]
  rcases hc with rfl | hdigit
  · rfl
  · have hne := ne_of_isDigit hdigit
    exact value_scalar (hne '"' rfl) (hne '[' rfl) (hne '{' rfl)

section

variable {steps offset : Nat} {c : Char} {rest rest' : List Char}

theorem value_array (hspace : isSpace c = false) (hclose : c ≠ ']') :
    value (steps + 1) ⟨offset, '[' :: c :: rest⟩ = (do
      let (list, next) ← items steps ⟨offset + 1, c :: rest⟩
      return (.array list, next)) := by
  have hinside : (Cursor.skip ⟨offset, '[' :: c :: rest⟩ 1).skipSpace =
      ⟨offset + 1, c :: rest⟩ := skipSpace_eq (by simpa [Cursor.skip] using hspace)
  rw [value]
  simp only [hinside]
  split
  · next heq => exact absurd (List.cons.inj heq).1 hclose
  · rfl

theorem value_object (hspace : isSpace c = false) (hclose : c ≠ '}') :
    value (steps + 1) ⟨offset, '{' :: c :: rest⟩ = (do
      let (list, next) ← memberList steps ⟨offset + 1, c :: rest⟩
      return (.object (Entries.ofPairs list), next)) := by
  have hinside : (Cursor.skip ⟨offset, '{' :: c :: rest⟩ 1).skipSpace =
      ⟨offset + 1, c :: rest⟩ := skipSpace_eq (by simpa [Cursor.skip] using hspace)
  rw [value]
  simp only [hinside]
  split
  · next heq => exact absurd (List.cons.inj heq).1 hclose
  · rfl

theorem value_quotes {value : String} {text : List Char} (h : Quotes value text) :
    Json.value (steps + 1) ⟨offset, text ++ rest⟩ =
      .ok (.string value, ⟨offset + text.length, rest⟩) := by
  obtain ⟨inside, hinside, rfl⟩ := h
  have hcons : '"' :: (inside ++ ['"']) ++ rest = '"' :: (inside ++ '"' :: rest) := by simp
  have hsteps : inside.length < (inside ++ '"' :: rest).length + 1 := by
    rw [List.length_append]
    omega
  have hskip : Cursor.skip ⟨offset, '"' :: (inside ++ '"' :: rest)⟩ 1 =
      ⟨offset + 1, inside ++ '"' :: rest⟩ := rfl
  rw [hcons, Json.value]
  simp only [hskip, stringBody_spells hinside hsteps, List.reverse_nil, List.nil_append,
    String.ofList_toList]
  change Except.ok (Json.string value, Cursor.mk (offset + 1 + inside.length + 1) rest) = _
  simp only [List.length_cons, List.length_append, List.length_nil, Except.ok.injEq,
    Prod.mk.injEq, Cursor.mk.injEq, true_and, and_true]
  omega

/-- Behind a comma the next part is read. -/
theorem skipComma {part : Part} {text : List Char} (h : Compact part text) :
    (Cursor.skip ⟨offset, ',' :: (text ++ rest)⟩ 1).skipSpace = ⟨offset + 1, text ++ rest⟩ := by
  obtain ⟨c, more, rfl, hspace, -, -⟩ := h.opens
  exact skipSpace_eq (by simpa [Cursor.skip] using hspace)

theorem items_last {json : Json} {stop : Nat}
    (h : value steps ⟨offset, rest⟩ = .ok (json, ⟨stop, ']' :: rest'⟩)) :
    items (steps + 1) ⟨offset, rest⟩ = .ok ([json], ⟨stop + 1, rest'⟩) := by
  rw [items, h]
  rfl

theorem items_more {json : Json} {stop : Nat} {part : Part} {text : List Char}
    (htext : Compact part text)
    (h : value steps ⟨offset, rest⟩ = .ok (json, ⟨stop, ',' :: (text ++ rest')⟩)) :
    items (steps + 1) ⟨offset, rest⟩ = (do
      let (list, last) ← items steps ⟨stop + 1, text ++ rest'⟩
      return (json :: list, last)) := by
  rw [items, h, ← skipComma htext]
  rfl

/-- Behind the name of a member and a colon its value is read. -/
theorem memberList_name {key : String} {name : List Char} {part : Part} {text : List Char}
    (hname : Quotes key name) (htext : Compact part text) :
    memberList (steps + 1) ⟨offset, name ++ ':' :: (text ++ rest)⟩ = (do
      let (item, next) ← value steps ⟨offset + name.length + 1, text ++ rest⟩
      let next := next.skipSpace
      match next.rest with
      | '}' :: _ => return ([(key, item)], next.skip 1)
      | ',' :: _ =>
        let (list, last) ← memberList steps (next.skip 1).skipSpace
        return ((key, item) :: list, last)
      | _ => .error ⟨.expectingComma, next.offset⟩) := by
  obtain ⟨inside, hinside, rfl⟩ := hname
  obtain ⟨c, more, rfl, hspace, -, -⟩ := htext.opens
  have hcons : '"' :: (inside ++ ['"']) ++ ':' :: (c :: more ++ rest) =
      '"' :: (inside ++ '"' :: ':' :: (c :: more ++ rest)) := by simp
  have hsteps : inside.length < (inside ++ '"' :: ':' :: (c :: more ++ rest)).length + 1 := by
    rw [List.length_append]
    omega
  have hskip : Cursor.skip ⟨offset, '"' :: (inside ++ '"' :: ':' :: (c :: more ++ rest))⟩ 1 =
      ⟨offset + 1, inside ++ '"' :: ':' :: (c :: more ++ rest)⟩ := rfl
  have hcolon : (Cursor.skip ⟨offset + 1 + inside.length + 1, ':' :: (c :: more ++ rest)⟩
      1).skipSpace = ⟨offset + 1 + inside.length + 1 + 1, c :: more ++ rest⟩ :=
    skipSpace_eq (by simpa [Cursor.skip] using hspace)
  have hlength : offset + 1 + inside.length + 1 =
      offset + ('"' :: (inside ++ ['"'])).length := by
    simp only [List.length_cons, List.length_append, List.length_nil]
    omega
  rw [← hlength, hcons, memberList]
  simp only [hskip, stringBody_spells hinside hsteps, List.reverse_nil, List.nil_append,
    String.ofList_toList]
  rw [← hcolon]
  rfl

theorem memberList_last {key : String} {name : List Char} {part : Part} {text : List Char}
    {json : Json} {stop : Nat} (hname : Quotes key name) (htext : Compact part text)
    (h : value steps ⟨offset + name.length + 1, text ++ '}' :: rest⟩ =
      .ok (json, ⟨stop, '}' :: rest⟩)) :
    memberList (steps + 1) ⟨offset, name ++ ':' :: (text ++ '}' :: rest)⟩ =
      .ok ([(key, json)], ⟨stop + 1, rest⟩) := by
  rw [memberList_name hname htext, h]
  rfl

theorem memberList_more {key : String} {name : List Char} {part other : Part}
    {text more : List Char} {json : Json} {stop : Nat} (hname : Quotes key name)
    (htext : Compact part text) (hmore : Compact other more)
    (h : value steps ⟨offset + name.length + 1, text ++ ',' :: (more ++ rest)⟩ =
      .ok (json, ⟨stop, ',' :: (more ++ rest)⟩)) :
    memberList (steps + 1) ⟨offset, name ++ ':' :: (text ++ ',' :: (more ++ rest))⟩ = (do
      let (list, last) ← memberList steps ⟨stop + 1, more ++ rest⟩
      return ((key, json) :: list, last)) := by
  rw [memberList_name hname htext, h, ← skipComma hmore]
  rfl

end

/-! ## Parts -/

/-- What the reader has to do with a part, at any offset and with enough steps. -/
def Part.IsRead : Part → List Char → Prop
  | .value json, text => ∀ steps offset rest, 2 * text.length ≤ steps + 1 → Closes rest →
      Json.value (steps + 1) ⟨offset, text ++ rest⟩ = .ok (json, ⟨offset + text.length, rest⟩)
  | .items list, text => ∀ steps offset rest, 2 * text.length ≤ steps →
      Json.items (steps + 1) ⟨offset, text ++ ']' :: rest⟩ =
        .ok (list, ⟨offset + text.length + 1, rest⟩)
  | .members list, text => ∀ steps offset rest, 2 * text.length ≤ steps →
      memberList (steps + 1) ⟨offset, text ++ '}' :: rest⟩ =
        .ok (list, ⟨offset + text.length + 1, rest⟩)

theorem stopsAt {α : Type} (found : α) (rest : List Char) {stop other : Nat} (h : stop = other) :
    (Except.ok (found, ⟨stop, rest⟩) : Except DecodeError (α × Cursor)) =
      .ok (found, ⟨other, rest⟩) := by
  rw [h]

section

variable {list : List Json} {json : Json} {text more : List Char}

theorem isRead_array (h : Compact (.items list) text) (ih : (Part.items list).IsRead text) :
    (Part.value (.array list)).IsRead ('[' :: (text ++ [']'])) := by
  intro steps offset rest hsteps hrest
  simp only [List.length_cons, List.length_append, List.length_nil] at hsteps
  obtain ⟨fewer, rfl⟩ := Nat.exists_eq_add_one_of_ne_zero (by omega : steps ≠ 0)
  obtain ⟨c, others, rfl, hspace, hclose, -⟩ := h.opens
  have hitems : items (fewer + 1) ⟨offset + 1, c :: (others ++ ']' :: rest)⟩ =
      .ok (list, ⟨offset + 1 + (c :: others).length + 1, rest⟩) := ih _ _ _ (by omega)
  have hcons : '[' :: (c :: others ++ [']']) ++ rest = '[' :: c :: (others ++ ']' :: rest) := by
    simp
  rw [hcons, value_array hspace hclose, hitems]
  refine stopsAt _ rest ?_
  simp only [List.length_cons, List.length_append, List.length_nil]
  omega

theorem isRead_item (h : Compact (.value json) text) (ih : (Part.value json).IsRead text) :
    (Part.items [json]).IsRead text := by
  intro steps offset rest hsteps
  have hpos := h.length_pos
  obtain ⟨fewer, rfl⟩ := Nat.exists_eq_add_one_of_ne_zero (by omega : steps ≠ 0)
  exact items_last (ih _ _ _ (by omega) (by simp [Closes]))

theorem isRead_moreItems (hmore : Compact (.items list) more) (ih : (Part.value json).IsRead text)
    (ihmore : (Part.items list).IsRead more) :
    (Part.items (json :: list)).IsRead (text ++ ',' :: more) := by
  intro steps offset rest hsteps
  simp only [List.length_cons, List.length_append] at hsteps
  obtain ⟨fewer, rfl⟩ := Nat.exists_eq_add_one_of_ne_zero (by omega : steps ≠ 0)
  have hvalue : value (fewer + 1) ⟨offset, text ++ ',' :: (more ++ ']' :: rest)⟩ =
      .ok (json, ⟨offset + text.length, ',' :: (more ++ ']' :: rest)⟩) :=
    ih _ _ _ (by omega) (by simp [Closes])
  have hlist : items (fewer + 1) ⟨offset + text.length + 1, more ++ ']' :: rest⟩ =
      .ok (list, ⟨offset + text.length + 1 + more.length + 1, rest⟩) := ihmore _ _ _ (by omega)
  rw [List.append_assoc, List.cons_append, items_more hmore hvalue, hlist]
  refine stopsAt _ rest ?_
  simp only [List.length_cons, List.length_append]
  omega

end

section

variable {list : List (String × Json)} {key : String} {json : Json} {name text more : List Char}

theorem isRead_object (h : Compact (.members list) text) (hkeys : (list.map Prod.fst).Nodup)
    (ih : (Part.members list).IsRead text) :
    (Part.value (.object list)).IsRead ('{' :: (text ++ ['}'])) := by
  intro steps offset rest hsteps hrest
  simp only [List.length_cons, List.length_append, List.length_nil] at hsteps
  obtain ⟨fewer, rfl⟩ := Nat.exists_eq_add_one_of_ne_zero (by omega : steps ≠ 0)
  obtain ⟨c, others, rfl, hspace, -, hclose⟩ := h.opens
  have hmembers : memberList (fewer + 1) ⟨offset + 1, c :: (others ++ '}' :: rest)⟩ =
      .ok (list, ⟨offset + 1 + (c :: others).length + 1, rest⟩) := ih _ _ _ (by omega)
  have hcons : '{' :: (c :: others ++ ['}']) ++ rest = '{' :: c :: (others ++ '}' :: rest) := by
    simp
  rw [hcons, value_object hspace hclose, hmembers]
  change Except.ok (Json.object (Entries.ofPairs list), Cursor.mk _ rest) = _
  rw [Entries.ofPairs_of_nodup hkeys]
  refine stopsAt _ rest ?_
  simp only [List.length_cons, List.length_append, List.length_nil]
  omega

theorem isRead_member (hname : Quotes key name) (h : Compact (.value json) text)
    (ih : (Part.value json).IsRead text) :
    (Part.members [(key, json)]).IsRead (name ++ ':' :: text) := by
  intro steps offset rest hsteps
  simp only [List.length_cons, List.length_append] at hsteps
  obtain ⟨fewer, rfl⟩ := Nat.exists_eq_add_one_of_ne_zero (by omega : steps ≠ 0)
  have hvalue : value (fewer + 1) ⟨offset + name.length + 1, text ++ '}' :: rest⟩ =
      .ok (json, ⟨offset + name.length + 1 + text.length, '}' :: rest⟩) :=
    ih _ _ _ (by omega) (by simp [Closes])
  rw [List.append_assoc, List.cons_append, memberList_last hname h hvalue]
  refine stopsAt _ rest ?_
  simp only [List.length_cons, List.length_append]
  omega

theorem isRead_moreMembers (hname : Quotes key name) (h : Compact (.value json) text)
    (hmore : Compact (.members list) more) (ih : (Part.value json).IsRead text)
    (ihmore : (Part.members list).IsRead more) :
    (Part.members ((key, json) :: list)).IsRead (name ++ ':' :: (text ++ ',' :: more)) := by
  intro steps offset rest hsteps
  simp only [List.length_cons, List.length_append] at hsteps
  obtain ⟨fewer, rfl⟩ := Nat.exists_eq_add_one_of_ne_zero (by omega : steps ≠ 0)
  let start := offset + name.length + 1
  have hvalue : value (fewer + 1) ⟨start, text ++ ',' :: (more ++ '}' :: rest)⟩ =
      .ok (json, ⟨start + text.length, ',' :: (more ++ '}' :: rest)⟩) :=
    ih _ _ _ (by omega) (by simp [Closes])
  have hlist : memberList (fewer + 1) ⟨start + text.length + 1, more ++ '}' :: rest⟩ =
      .ok (list, ⟨start + text.length + 1 + more.length + 1, rest⟩) := ihmore _ _ _ (by omega)
  rw [List.append_assoc, List.cons_append, List.append_assoc, List.cons_append,
    memberList_more hname h hmore hvalue, hlist]
  refine stopsAt _ rest ?_
  simp only [List.length_cons, List.length_append]
  omega

end

/-- A compact part is read just as far as it goes. -/
theorem Compact.isRead {part : Part} {text : List Char} (h : Compact part text) :
    part.IsRead text := by
  induction h with
  | null | noItems | noMembers => exact fun _ _ _ _ _ => rfl
  | bool value => cases value <;> exact fun _ _ _ _ _ => rfl
  | int numeral hwhole =>
      intro steps offset rest _ hrest
      rw [value_text numeral hrest, if_pos hwhole]
  | float numeral hpart hx =>
      intro steps offset rest _ hrest
      rw [value_text numeral hrest, if_neg (by simp [hpart]), hx]
      rfl
  | string h => exact fun _ _ _ _ _ => value_quotes h
  | array h ih => exact isRead_array h ih
  | object h hkeys ih => exact isRead_object h hkeys ih
  | item h ih => exact isRead_item h ih
  | moreItems h hmore ih ihmore => exact isRead_moreItems hmore ih ihmore
  | member hname h ih => exact isRead_member hname h ih
  | moreMembers hname h hmore ih ihmore => exact isRead_moreMembers hname h hmore ih ihmore

/-- A compact document is read back. -/
theorem decodeChars_compact {json : Json} {text : List Char} (h : Compact (.value json) text) :
    decodeChars text = .ok json := by
  have hvalue : value (2 * text.length + 2) ⟨0, text⟩ = .ok (json, ⟨0 + text.length, []⟩) := by
    have hread : value (2 * text.length + 2) ⟨0, text ++ []⟩ = _ :=
      h.isRead _ _ _ (by omega) (by simp [Closes])
    rwa [List.append_nil] at hread
  obtain ⟨c, more, htext, hc⟩ := h.head
  have hspace : Cursor.skipSpace ⟨0, text⟩ = ⟨0, text⟩ := by
    obtain ⟨first, others, hcons, hspace, -, -⟩ := h.opens
    exact skipSpace_eq (by simpa [hcons] using hspace)
  have hmark : text.head? ≠ some (Char.ofNat 0xFEFF) := by
    rw [htext, List.head?_cons]
    rintro heq
    obtain rfl := Option.some.inj heq
    revert hc
    decide
  rw [decodeChars, if_neg hmark, document, hspace, hvalue]
  rfl

end ManifestLint.Json
