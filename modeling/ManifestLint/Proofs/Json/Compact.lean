import ManifestLint.Json.Decode

/-!
# Compact documents

A compact document has no blanks between its tokens, and the characters of its strings stand in
it as they are wherever JSON allows that.  How the other characters are escaped and how numbers
are written is left open, so there are several documents for one value.

* `Spells`, `Quotes`, `Numeral`: characters, strings and numbers in a document.
* `Compact`: the documents, with the insides of arrays and objects as parts of their own.
* `Compact.opens`, `Compact.no_control`: how a part starts, and which characters it has.
-/

namespace ManifestLint.Json

/-! ## Strings -/

/-- Whether a character may stand in a string as it is. -/
def isPlain (c : Char) : Bool := 0x20 ≤ c.toNat && c ≠ '"' && c ≠ '\\'

/-- How a character is spelled in a string: as it is, wherever it may be, or else by an escape
with a letter or with four hexadecimal digits. -/
inductive Spells : Char → List Char → Prop where
  | plain {c : Char} (h : isPlain c = true) : Spells c [c]
  | letter {c letter : Char} (h : isPlain c = false) (hletter : simpleEscape? letter = some c) :
      Spells c ['\\', letter]
  | digits {c a b d e : Char} (h : isPlain c = false)
      (hquad : hexQuad? [a, b, d, e] = some c.toNat) : Spells c ['\\', 'u', a, b, d, e]

/-- How the inside of a string is spelled, character by character. -/
inductive SpellsAll : List Char → List Char → Prop where
  | nil : SpellsAll [] []
  | cons {c : Char} {word chars text : List Char} (hword : Spells c word)
      (hrest : SpellsAll chars text) : SpellsAll (c :: chars) (word ++ text)

/-- A text is a string in double quotes. -/
def Quotes (value : String) (text : List Char) : Prop :=
  ∃ inside, SpellsAll value.toList inside ∧ text = '"' :: (inside ++ ['"'])

/-- A string in double quotes, with its characters as they are. -/
def quoted (value : String) : List Char := '"' :: (value.toList ++ ['"'])

theorem spellsAll_self {chars : List Char} (h : ∀ c ∈ chars, isPlain c = true) :
    SpellsAll chars chars := by
  induction chars with
  | nil => exact .nil
  | cons c rest ih =>
      obtain ⟨hc, hrest⟩ := List.forall_mem_cons.mp h
      exact .cons (.plain hc) (ih hrest)

theorem quotes_quoted {value : String} (h : value.toList.all isPlain = true) :
    Quotes value (quoted value) := ⟨_, spellsAll_self (List.all_eq_true.mp h), rfl⟩

/-! ## Numbers -/

/-- The characters of numbers. -/
def isNumeric (c : Char) : Bool := c.isDigit || c ∈ ['-', '+', '.', 'e', 'E']

/-- A number as JSON writes it: a sign or none, a whole part that starts with zero only if it is
zero, and then perhaps places and a power of ten. -/
structure Numeral where
  negative : Bool
  whole : List Char
  places : List Char
  power : List Char
  whole_digits : ∀ c ∈ whole, c.isDigit = true
  whole_shape : whole = ['0'] ∨ whole ≠ [] ∧ whole.head? ≠ some '0'
  places_shape : places = [] ∨ ∃ digits, digits ≠ [] ∧ (∀ c ∈ digits, c.isDigit = true) ∧
    places = '.' :: digits
  power_shape : power = [] ∨ ∃ letter sign digits, (letter = 'e' ∨ letter = 'E') ∧
    sign ∈ [[], ['+'], ['-']] ∧ digits ≠ [] ∧ (∀ c ∈ digits, c.isDigit = true) ∧
      power = letter :: (sign ++ digits)

namespace Numeral

variable (numeral : Numeral)

/-- The number without its sign. -/
def unsigned : List Char := numeral.whole ++ (numeral.places ++ numeral.power)

/-- The number as it is written. -/
def text : List Char := if numeral.negative then '-' :: numeral.unsigned else numeral.unsigned

/-- Whether the number has neither places nor a power of ten. -/
def isWhole : Bool := numeral.places.isEmpty && numeral.power.isEmpty

/-- The whole number. -/
def toInt : Int :=
  let magnitude : Int := Nat.ofDigitChars 10 numeral.whole 0
  if numeral.negative then -magnitude else magnitude

theorem whole_ne_zero : numeral.whole.length ≠ 0 := by
  rcases numeral.whole_shape with hzero | hshape
  · simp [hzero]
  · simpa using hshape.1

/-- A number without its sign starts with a digit. -/
theorem exists_unsigned :
    ∃ first others, numeral.unsigned = first :: others ∧ first.isDigit = true := by
  obtain ⟨first, others, heq⟩ := List.exists_cons_of_length_pos
    (Nat.pos_of_ne_zero numeral.whole_ne_zero)
  have hfirst := numeral.whole_digits first (by simp [heq])
  exact ⟨first, others ++ (numeral.places ++ numeral.power), by simp [unsigned, heq], hfirst⟩

theorem numeric_text : ∀ c ∈ numeral.text, isNumeric c = true := by
  have hdigit {c : Char} (hc : c.isDigit = true) : isNumeric c = true := by simp [isNumeric, hc]
  have hunsigned : ∀ c ∈ numeral.unsigned, isNumeric c = true := by
    refine List.forall_mem_append.mpr ⟨fun c hc => hdigit (numeral.whole_digits c hc),
      List.forall_mem_append.mpr ⟨?_, ?_⟩⟩
    · rcases numeral.places_shape with hnil | ⟨digits, -, hdigits, heq⟩
      · simp [hnil]
      · rw [heq]
        exact List.forall_mem_cons.mpr ⟨rfl, fun c hc => hdigit (hdigits c hc)⟩
    · rcases numeral.power_shape with
        hnil | ⟨letter, sign, digits, hletter, hsign, -, hdigits, heq⟩
      · simp [hnil]
      · have hsigns : ∀ sign ∈ [[], ['+'], ['-']], ∀ c ∈ sign, isNumeric c = true := by
          simp [isNumeric]
        rw [heq]
        refine List.forall_mem_cons.mpr ⟨?_, List.forall_mem_append.mpr ⟨hsigns sign hsign,
          fun c hc => hdigit (hdigits c hc)⟩⟩
        rcases hletter with rfl | rfl <;> rfl
  unfold text
  split
  · exact List.forall_mem_cons.mpr ⟨rfl, hunsigned⟩
  · exact hunsigned

end Numeral

/-! ## Values -/

/-- What a part of a document stands for: a value, or the inside of an array or an object. -/
inductive Part where
  | value (json : Json)
  | items (list : List Json)
  | members (list : List (String × Json))

/-- How a part of a document is written without blanks between its tokens.  Members of one
object have different keys. -/
inductive Compact : Part → List Char → Prop where
  | null : Compact (.value .null) ['n', 'u', 'l', 'l']
  | bool (value : Bool) : Compact (.value (.bool value))
      (if value then ['t', 'r', 'u', 'e'] else ['f', 'a', 'l', 's', 'e'])
  | int (numeral : Numeral) (hwhole : numeral.isWhole = true) :
      Compact (.value (.int numeral.toInt)) numeral.text
  | float (numeral : Numeral) (hpart : numeral.isWhole = false) {x : Float}
      (hx : Decimal.readDecimal? numeral.unsigned = some x) :
      Compact (.value (.float (if numeral.negative then -x else x))) numeral.text
  | string {value : String} {text : List Char} (h : Quotes value text) :
      Compact (.value (.string value)) text
  | noItems : Compact (.value (.array [])) ['[', ']']
  | array {list : List Json} {text : List Char} (h : Compact (.items list) text) :
      Compact (.value (.array list)) ('[' :: (text ++ [']']))
  | noMembers : Compact (.value (.object [])) ['{', '}']
  | object {list : List (String × Json)} {text : List Char} (h : Compact (.members list) text)
      (hkeys : (list.map Prod.fst).Nodup) :
      Compact (.value (.object list)) ('{' :: (text ++ ['}']))
  | item {json : Json} {text : List Char} (h : Compact (.value json) text) :
      Compact (.items [json]) text
  | moreItems {json : Json} {text : List Char} {list : List Json} {more : List Char}
      (h : Compact (.value json) text) (hmore : Compact (.items list) more) :
      Compact (.items (json :: list)) (text ++ ',' :: more)
  | member {key : String} {name : List Char} {json : Json} {text : List Char}
      (hname : Quotes key name) (h : Compact (.value json) text) :
      Compact (.members [(key, json)]) (name ++ ':' :: text)
  | moreMembers {key : String} {name : List Char} {json : Json} {text : List Char}
      {list : List (String × Json)} {more : List Char}
      (hname : Quotes key name) (h : Compact (.value json) text)
      (hmore : Compact (.members list) more) :
      Compact (.members ((key, json) :: list)) (name ++ ':' :: (text ++ ',' :: more))

/-! ## First characters -/

theorem ne_of_isDigit {c : Char} (hc : c.isDigit = true) (d : Char) (hd : d.isDigit = false) :
    c ≠ d := by
  rintro rfl
  rw [hc] at hd
  cases hd

theorem Numeral.head_text (numeral : Numeral) :
    ∃ c more, numeral.text = c :: more ∧ (c = '-' ∨ c.isDigit = true) := by
  obtain ⟨first, others, hfirst, hdigit⟩ := numeral.exists_unsigned
  unfold text
  split
  · exact ⟨_, _, rfl, .inl rfl⟩
  · exact ⟨first, others, hfirst, .inr hdigit⟩

/-- A value starts with a letter of its own, a digit, a sign, a quote or an opening bracket. -/
theorem Compact.head {part : Part} {text : List Char} (h : Compact part text) :
    ∃ c more, text = c :: more ∧
      (c ∈ ['n', 't', 'f', '-', '"', '[', '{'] ∨ c.isDigit = true) := by
  induction h with
  | null => exact ⟨_, _, rfl, .inl (by simp)⟩
  | bool value => cases value <;> exact ⟨_, _, rfl, .inl (by simp)⟩
  | int numeral | float numeral =>
      obtain ⟨c, more, htext, hc⟩ := numeral.head_text
      exact ⟨c, more, htext, hc.imp_left (by rintro rfl; simp)⟩
  | string h =>
      obtain ⟨inside, -, rfl⟩ := h
      exact ⟨_, _, rfl, .inl (by simp)⟩
  | noItems | array | noMembers | object => exact ⟨_, _, rfl, .inl (by simp)⟩
  | item _ ih => exact ih
  | moreItems _ _ ih =>
      obtain ⟨c, more, rfl, hc⟩ := ih
      exact ⟨c, _, rfl, hc⟩
  | member hname | moreMembers hname =>
      obtain ⟨inside, -, rfl⟩ := hname
      exact ⟨_, _, rfl, .inl (by simp)⟩

/-- What a value starts with is no blank and closes nothing. -/
theorem Compact.opens {part : Part} {text : List Char} (h : Compact part text) :
    ∃ c more, text = c :: more ∧ isSpace c = false ∧ c ≠ ']' ∧ c ≠ '}' := by
  obtain ⟨c, more, htext, hc⟩ := h.head
  refine ⟨c, more, htext, ?_⟩
  rcases hc with hmem | hdigit
  · have hopening : ∀ c ∈ ['n', 't', 'f', '-', '"', '[', '{'],
        isSpace c = false ∧ c ≠ ']' ∧ c ≠ '}' := by simp [isSpace]
    exact hopening c hmem
  · have hne := ne_of_isDigit hdigit
    exact ⟨by simp [isSpace, hne ' ' rfl, hne '\t' rfl, hne '\n' rfl, hne '\r' rfl],
      hne ']' rfl, hne '}' rfl⟩

theorem Compact.length_pos {part : Part} {text : List Char} (h : Compact part text) :
    0 < text.length := by
  obtain ⟨c, more, rfl, -⟩ := h.opens
  exact Nat.succ_pos _

/-! ## All characters -/

theorem le_of_hexValue? {c : Char} {value : Nat} (h : Text.hexValue? c = some value) :
    0x20 ≤ c.toNat := by
  unfold Text.hexValue? at h
  split at h
  · next hdigit =>
      have hrange : 0x30 ≤ c.toNat ∧ c.toNat ≤ 0x39 := Char.isDigit_iff_toNat.mp hdigit
      omega
  · split at h
    · next hsmall =>
        have hrange : 0x61 ≤ c.toNat := UInt32.le_iff_toNat_le.mp hsmall.1
        omega
    · split at h
      · next hlarge =>
          have hrange : 0x41 ≤ c.toNat := UInt32.le_iff_toNat_le.mp hlarge.1
          omega
      · cases h

/-- Each of four hexadecimal digits has a value. -/
theorem exists_hexValue? {a b d e : Char} {rest : List Char} {unit : Nat}
    (h : hexQuad? (a :: b :: d :: e :: rest) = some unit) :
    ∀ c ∈ [a, b, d, e], ∃ value, Text.hexValue? c = some value := by
  obtain ⟨x, ha, y, hb, z, hd, w, he, -⟩ := by simpa [hexQuad?, Option.bind_eq_some_iff] using h
  simpa using ⟨⟨x, ha⟩, ⟨y, hb⟩, ⟨z, hd⟩, ⟨w, he⟩⟩

theorem le_of_simpleEscape? {c letter : Char} (h : simpleEscape? letter = some c) :
    0x20 ≤ letter.toNat := by
  unfold simpleEscape? at h
  split at h
  all_goals first
    | decide
    | cases h

theorem le_of_isNumeric {c : Char} (h : isNumeric c = true) : 0x20 ≤ c.toNat := by
  rcases Bool.or_eq_true_iff.mp h with hdigit | hmem
  · have hrange : 0x30 ≤ c.toNat ∧ c.toNat ≤ 0x39 := Char.isDigit_iff_toNat.mp hdigit
    omega
  · have hsigns : ∀ c ∈ ['-', '+', '.', 'e', 'E'], 0x20 ≤ c.toNat := by simp
    exact hsigns c (of_decide_eq_true hmem)

theorem Spells.no_control {c : Char} {word : List Char} (h : Spells c word) :
    ∀ d ∈ word, 0x20 ≤ d.toNat := by
  cases h with
  | plain hplain =>
      have hlow : 0x20 ≤ c.toNat := by
        simp only [isPlain, Bool.and_eq_true, decide_eq_true_eq] at hplain
        exact hplain.1.1
      simpa using hlow
  | letter hplain hletter => simpa using le_of_simpleEscape? hletter
  | digits hplain hquad =>
      refine List.forall_mem_cons.mpr ⟨by decide, List.forall_mem_cons.mpr ⟨by decide, ?_⟩⟩
      intro c hc
      obtain ⟨value, hvalue⟩ := exists_hexValue? hquad c hc
      exact le_of_hexValue? hvalue

theorem SpellsAll.no_control {chars text : List Char} (h : SpellsAll chars text) :
    ∀ c ∈ text, 0x20 ≤ c.toNat := by
  induction h with
  | nil => simp
  | cons hword hrest ih => exact List.forall_mem_append.mpr ⟨hword.no_control, ih⟩

theorem Quotes.no_control {value : String} {text : List Char} (h : Quotes value text) :
    ∀ c ∈ text, 0x20 ≤ c.toNat := by
  obtain ⟨inside, hinside, rfl⟩ := h
  simp only [List.forall_mem_cons, List.forall_mem_append]
  exact ⟨by decide, hinside.no_control, by simp⟩

/-- No control character stands in a compact document. -/
theorem Compact.no_control {part : Part} {text : List Char} (h : Compact part text) :
    ∀ c ∈ text, 0x20 ≤ c.toNat := by
  induction h with
  | null | noItems | noMembers => simp
  | bool value => cases value <;> simp
  | int numeral | float numeral => exact fun c hc => le_of_isNumeric (numeral.numeric_text c hc)
  | string h => exact h.no_control
  | array _ ih | object _ _ ih =>
      simp only [List.forall_mem_cons, List.forall_mem_append]
      exact ⟨by decide, ih, by simp⟩
  | item _ ih => exact ih
  | moreItems _ _ ih ihmore =>
      simp only [List.forall_mem_cons, List.forall_mem_append]
      exact ⟨ih, by decide, ihmore⟩
  | member hname _ ih =>
      simp only [List.forall_mem_cons, List.forall_mem_append]
      exact ⟨hname.no_control, by decide, ih⟩
  | moreMembers hname _ _ ih ihmore =>
      simp only [List.forall_mem_cons, List.forall_mem_append]
      exact ⟨hname.no_control, by decide, ih, by decide, ihmore⟩

end ManifestLint.Json
