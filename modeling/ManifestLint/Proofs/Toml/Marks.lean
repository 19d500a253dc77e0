import ManifestLint.Proofs.Toml.Patterns

/-!
# Marks of values

The shapes of bare values have nothing in common, so it does not matter in which order they are
tried.  They need not be compared two by two, for a value shows its kind itself.  Its mark is the
first character behind the sign that is no digit and no underscore: an integer has none, a float
has a point or the letter of its exponent, an integer of another base the letter of the base, a
time a colon.  Only dates have a mark in common, the hyphen, and they differ in what is left behind
a date and a time.

* `mark_append`: behind digits the mark is what comes next.
* `eq_kindAt`: a text is a value of no other kind than it shows.
* `find?_eq_some_iff`: the first shape that fits is of the kind whose pattern the text matches.
* `classify_in_any_order`: a text matches one pattern at most, whichever shape is tried first.
-/

namespace ManifestLint.Toml

open ManifestLint.Text (isDecimal)
open Pattern

/-- The first character behind the sign that is no digit and no underscore. -/
def mark (text : List Char) : Option Char := ((dropSign text).dropWhile isGroupChar).head?

/-- The kind of values with a mark, given what is left behind a date and a time. -/
def kindFor : Option Char → Option (List Char) → TokenKind
  | none, _ => .decimalInt
  | some 't', _ => .true
  | some 'f', _ => .false
  | some 'x', _ => .hexInt
  | some 'o', _ => .octInt
  | some 'b', _ => .binInt
  | some 'i', _ => .specialFloat
  | some 'n', _ => .specialFloat
  | some ':', _ => .localTime
  | some '-', none => .localDate
  | some '-', some [] => .localDateTime
  | some '-', some (_ :: _) => .offsetDateTime
  | some _, _ => .float

/-- The kind that a text shows. -/
def kindAt (text : List Char) : TokenKind := kindFor (mark text) (dateTime? text)

variable {c : Char} {digit : Char → Bool} {text front rest : List Char} {kind : TokenKind}

/-! ## Where the mark stands -/

theorem dropSign_eq_self (h : ∀ c ∈ text.head?, isSign c = false) : dropSign text = text := by
  fun_cases dropSign text with
  | case1 rest => cases h '+' rfl
  | case2 rest => cases h '-' rfl
  | case3 => rfl

/-- Behind digits the mark is what comes next. -/
theorem mark_append (hne : front ≠ []) (hfront : ∀ c ∈ front, isDecimal c = true)
    (hc : isGroupChar c = false) : mark (front ++ c :: rest) = some c := by
  have hgroup : ∀ c ∈ front, isGroupChar c = true := fun c hmem =>
    isGroupChar_of_isDecimal (hfront c hmem)
  have hsign : dropSign (front ++ c :: rest) = front ++ c :: rest := by
    obtain ⟨first, more, rfl⟩ := List.exists_cons_of_ne_nil hne
    refine dropSign_eq_self ?_
    rintro _ ⟨⟩
    exact isSign_of_isGroupChar (hgroup first List.mem_cons_self)
  rw [mark, hsign, List.dropWhile_append_of_pos hgroup,
    List.dropWhile_cons_of_neg (ne_true_of_eq_false hc)]
  rfl

theorem mark_of_isBased (hc : isGroupChar c = false) :
    isBased c digit text = true → mark text = some c := by
  fun_cases isBased c digit text with
  | case1 d rest =>
      intro h
      obtain ⟨hd, -⟩ := Bool.and_eq_true_iff.mp h
      obtain rfl := of_decide_eq_true hd
      exact mark_append (List.cons_ne_nil '0' []) (List.forall_mem_singleton.mpr (by decide)) hc
  | case2 => simp

theorem mark_of_isDecimalInt (h : isDecimalInt text = true) : mark text = none := by
  have hall : (dropSign text).dropWhile isGroupChar = [] :=
    List.dropWhile_eq_nil_iff.mpr (isGroupChar_of_unsignedInt h)
  rw [mark, hall]
  rfl

theorem head?_of_isFloatTail :
    isFloatTail text = true → text.head? ∈ [some '.', some 'e', some 'E'] := by
  fun_cases isFloatTail text with
  | case1 rest places power => simp
  | case2 text hother =>
      intro h
      cases text with
      | nil => cases h
      | cons c rest =>
          obtain ⟨hc, -⟩ := Bool.and_eq_true_iff.mp h
          exact List.mem_cons_of_mem _ (by simpa using hc)

theorem mark_of_isFloat (h : isFloat text = true) :
    mark text ∈ [some '.', some 'e', some 'E'] :=
  head?_of_isFloatTail (Bool.and_eq_true_iff.mp h).2

theorem mark_of_isSpecialFloat (h : isSpecialFloat text = true) :
    mark text ∈ [some 'i', some 'n'] := by
  rw [isSpecialFloat, Bool.or_eq_true, decide_eq_true_eq, decide_eq_true_eq] at h
  rw [mark]
  rcases h with h | h <;>
  · rw [h]
    decide

theorem mark_of_date? : date? text = some rest → mark text = some '-' := by
  fun_cases date? text with
  | case1 y₁ y₂ y₃ y₄ m₁ m₂ d₁ d₂ rest hall =>
      simp only [List.all_cons, List.all_nil, Bool.and_eq_true] at hall
      exact fun _ => mark_append (List.cons_ne_nil y₁ [y₂, y₃, y₄]) (by simp [hall]) (by decide)
  | case2 => simp
  | case3 => simp

theorem mark_of_time? : time? text = some rest → mark text = some ':' := by
  fun_cases time? text with
  | case1 h₁ h₂ m₁ m₂ s₁ s₂ rest hall =>
      simp only [List.all_cons, List.all_nil, Bool.and_eq_true] at hall
      exact fun _ => mark_append (List.cons_ne_nil h₁ [h₂]) (by simp [hall]) (by decide)
  | case2 => simp
  | case3 => simp

theorem mark_of_dateTime? (h : dateTime? text = some rest) : mark text = some '-' := by
  cases hdate : date? text with
  | none => simp [dateTime?, hdate] at h
  | some behind => exact mark_of_date? hdate

/-! ## Kinds that texts show -/

/-- A text is a value of no other kind than it shows. -/
theorem eq_kindAt (h : text ∈ kind.pattern) : kind = kindAt text := by
  rw [kindAt]
  cases kind with
  | true =>
      obtain rfl := h
      rfl
  | false =>
      obtain rfl := h
      rfl
  | hexInt =>
      rw [mark_of_isBased (by decide) ((isBased_iff 'x' (by decide)).mpr h)]
      rfl
  | octInt =>
      rw [mark_of_isBased (by decide) ((isBased_iff 'o' (by decide)).mpr h)]
      rfl
  | binInt =>
      rw [mark_of_isBased (by decide) ((isBased_iff 'b' (by decide)).mpr h)]
      rfl
  | decimalInt =>
      rw [mark_of_isDecimalInt (isDecimalInt_iff.mpr h)]
      rfl
  | float =>
      have hkind : ∀ found ∈ [some '.', some 'e', some 'E'],
          kindFor found (dateTime? text) = .float := by
        simp [kindFor]
      exact (hkind _ (mark_of_isFloat (isFloat_iff.mpr h))).symm
  | specialFloat =>
      have hkind : ∀ found ∈ [some 'i', some 'n'],
          kindFor found (dateTime? text) = .specialFloat := by
        simp [kindFor]
      exact (hkind _ (mark_of_isSpecialFloat (isSpecialFloat_iff.mpr h))).symm
  | offsetDateTime =>
      have hoffset := isOffsetDateTime_iff.mpr h
      cases hmoment : dateTime? text with
      | none => simp [isOffsetDateTime, hmoment] at hoffset
      | some rest =>
          -- A distance from universal time is not empty.
          cases rest with
          | nil => simp [isOffsetDateTime, hmoment, isOffset] at hoffset
          | cons c more =>
              rw [mark_of_dateTime? hmoment]
              rfl
  | localDateTime =>
      have hmoment : dateTime? text = some [] := of_decide_eq_true (isLocalDateTime_iff.mpr h)
      rw [mark_of_dateTime? hmoment, hmoment]
      rfl
  | localDate =>
      have hdate : date? text = some [] := of_decide_eq_true (isLocalDate_iff.mpr h)
      have hmoment : dateTime? text = none := by rw [dateTime?, hdate]
      rw [mark_of_date? hdate, hmoment]
      rfl
  | localTime =>
      rw [mark_of_time? (of_decide_eq_true (isLocalTime_iff.mpr h))]
      rfl
  | _ => exact absurd h (Language.notMem_zero text)

/-- The hyphen of an exponent stands behind another mark. -/
example : kindAt "1.5e-3".toList = .float := by decide

/-! ## The order of the shapes -/

theorem exists_mem_shapes (h : text ∈ kind.pattern) : ∃ shape ∈ shapes, shape.1 = kind := by
  cases kind <;> first | exact absurd h (Language.notMem_zero text) | simp [shapes]

/-- The first shape that fits, in whatever order they are tried, is of the kind whose pattern the
text matches. -/
theorem find?_eq_some_iff {order : List (TokenKind × (List Char → Bool))} (h : order.Perm shapes) :
    (order.find? fun shape => shape.2 text).map Prod.fst = some kind ↔ text ∈ kind.pattern := by
  have hfits : ∀ shape ∈ order, shape.2 text = true ↔ text ∈ shape.1.pattern := fun shape hmem =>
    shapes_decide_patterns text shape (h.mem_iff.mp hmem)
  have hfirst : ∀ shape, (order.find? fun shape => shape.2 text) = some shape →
      text ∈ shape.1.pattern := by
    intro shape hfind
    have hfit := List.find?_some hfind
    exact (hfits shape (List.mem_of_find?_eq_some hfind)).mp hfit
  rw [Option.map_eq_some_iff]
  constructor
  · rintro ⟨shape, hfind, rfl⟩
    exact hfirst shape hfind
  · intro hpattern
    obtain ⟨shape, hmem, rfl⟩ := exists_mem_shapes hpattern
    have horder : shape ∈ order := h.mem_iff.mpr hmem
    have hsome : (order.find? fun shape => shape.2 text).isSome = true :=
      List.find?_isSome.mpr ⟨shape, horder, (hfits shape horder).mpr hpattern⟩
    obtain ⟨first, hfind⟩ := Option.isSome_iff_exists.mp hsome
    -- Another shape may have been found than the one that is known to fit; the text shows one kind.
    exact ⟨first, hfind, (eq_kindAt (hfirst first hfind)).trans (eq_kindAt hpattern).symm⟩

/-- **The shapes of values are told apart.**  A text matches the pattern of one kind at most, and it
is classified as that kind, in whatever order the shapes are tried. -/
theorem classify_in_any_order (text : List Char) :
    (∀ kind other : TokenKind, text ∈ kind.pattern → text ∈ other.pattern → kind = other) ∧
      (∀ kind, classify text = some kind ↔ text ∈ kind.pattern) ∧
      ∀ order : List (TokenKind × (List Char → Bool)), order.Perm shapes →
        (order.find? fun shape => shape.2 text).map Prod.fst = classify text := by
  have hclassify (kind : TokenKind) : classify text = some kind ↔ text ∈ kind.pattern :=
    find?_eq_some_iff (.refl shapes)
  refine ⟨fun kind other h hother => (eq_kindAt h).trans (eq_kindAt hother).symm, hclassify,
    fun order h => ?_⟩
  ext kind
  exact (find?_eq_some_iff h).trans (hclassify kind).symm

theorem classify_in_reverse :
    "1979-05-27 07:32:00".toList ∈ TokenKind.localDateTime.pattern ∧
      shapes.reverse.Perm shapes ∧
      (shapes.reverse.find? fun shape => shape.2 "1979-05-27 07:32:00".toList).map Prod.fst =
        some .localDateTime := by
  have hclassify : classify "1979-05-27 07:32:00".toList = some .localDateTime := by decide
  obtain ⟨-, hpattern, horder⟩ := classify_in_any_order "1979-05-27 07:32:00".toList
  have hreverse : shapes.reverse.Perm shapes := List.reverse_perm shapes
  exact ⟨(hpattern .localDateTime).mp hclassify, hreverse, (horder _ hreverse).trans hclassify⟩

end ManifestLint.Toml
