import ManifestLint.Proofs.Json.Following

/-!
# Places in a document

A character of a document stands outside of its strings, in one of them, or behind a backslash.
In a compact document only marks and quotes stand outside, and only ASCII behind a backslash.

A reader that starts at the wrong place takes the text between two strings for a string.  So what
it finds in a part of a document that starts in a string are objects whose keys are made of marks,
and what ends in a string is no document at all.

* `Place`, `Place.run`, `Place.Fits`: where the characters of a text stand.
* `Compact.closed`: compact documents.
* `follows_run`, `follows_fits`: the reader at the right place and at the wrong one.
-/

namespace ManifestLint.Json

/-! ## Places -/

/-- Where a character of a document stands. -/
inductive Place where
  | outside
  | inside
  | escaped
  deriving DecidableEq

/-- Whether a character may stand outside of the strings of a compact document, other than a
quote. -/
def isMark (c : Char) : Bool :=
  isNumeric c || c ∈ ['[', ']', '{', '}', ',', ':', 'n', 'u', 'l', 't', 'r', 'f', 'a', 's']

namespace Place

/-- Where the next character stands. -/
def step : Place → Char → Place
  | outside, c => if c = '"' then inside else outside
  | inside, c => if c = '"' then outside else if c = '\\' then escaped else inside
  | escaped, _ => inside

@[simp] theorem step_outside_quote : step outside '"' = inside := rfl

theorem step_bare {place : Place} {c : Char} (hquote : c ≠ '"') (hescape : c ≠ '\\')
    (hplace : place ≠ escaped) : place.step c = place := by
  cases place with
  | outside => exact if_neg hquote
  | inside => exact (if_neg hquote).trans (if_neg hescape)
  | escaped => exact absurd rfl hplace

/-- Whether a character may stand at a place. -/
def Allows : Place → Char → Prop
  | outside, c => c = '"' ∨ isMark c = true
  | inside, _ => True
  | escaped, c => c.toNat < 0x80

/-- Where the next character after a text stands. -/
def run : Place → List Char → Place
  | place, [] => place
  | place, c :: rest => run (place.step c) rest

/-- All characters of a text may stand where they do. -/
def Fits : Place → List Char → Prop
  | _, [] => True
  | place, c :: rest => place.Allows c ∧ Fits (place.step c) rest

variable {place : Place} {text more : List Char}

theorem run_append : run place (text ++ more) = run (run place text) more := by
  induction text generalizing place with
  | nil => rfl
  | cons c rest ih => exact ih

theorem fits_append : Fits place (text ++ more) ↔ Fits place text ∧ Fits (run place text) more := by
  induction text generalizing place with
  | nil => simp [Fits, run]
  | cons c rest ih => simp [Fits, run, ih, and_assoc]

theorem run_bare (h : Bare text) (hplace : place ≠ escaped) : run place text = place := by
  induction text with
  | nil => rfl
  | cons c rest ih =>
      obtain ⟨⟨hquote, hescape⟩, hrest⟩ := List.forall_mem_cons.mp h
      rw [run, step_bare hquote hescape hplace]
      exact ih hrest

theorem fits_bare (h : Bare text) : Fits inside text := by
  induction text with
  | nil => trivial
  | cons c rest ih =>
      obtain ⟨⟨hquote, hescape⟩, hrest⟩ := List.forall_mem_cons.mp h
      refine ⟨trivial, ?_⟩
      rw [step_bare hquote hescape (by decide)]
      exact ih hrest

end Place

/-! ## Compact documents -/

/-- A text that starts and ends outside of strings, with its characters where they may stand. -/
def Closed (text : List Char) : Prop :=
  Place.Fits .outside text ∧ Place.run .outside text = .outside

theorem Closed.append {text more : List Char} (h : Closed text) (hmore : Closed more) :
    Closed (text ++ more) := by
  refine ⟨Place.fits_append.mpr ⟨h.1, ?_⟩, ?_⟩
  · rw [h.2]
    exact hmore.1
  · rw [Place.run_append, h.2]
    exact hmore.2

theorem ne_of_isMark {c : Char} (h : isMark c = true) : c ≠ '"' ∧ c ≠ '\\' := by
  constructor
  all_goals
    rintro rfl
    cases h

/-- Marks are ASCII characters. -/
theorem toNat_of_isMark {c : Char} (h : isMark c = true) : c.toNat < 0x80 := by
  rcases Bool.or_eq_true_iff.mp h with hnumeric | hmem
  · rcases Bool.or_eq_true_iff.mp hnumeric with hdigit | hsign
    · have hrange : 0x30 ≤ c.toNat ∧ c.toNat ≤ 0x39 := Char.isDigit_iff_toNat.mp hdigit
      omega
    · have hsigns : ∀ c ∈ ['-', '+', '.', 'e', 'E'], c.toNat < 0x80 := by simp
      exact hsigns c (of_decide_eq_true hsign)
  · have hmarks : ∀ c ∈ ['[', ']', '{', '}', ',', ':', 'n', 'u', 'l', 't', 'r', 'f', 'a', 's'],
        c.toNat < 0x80 := by simp
    exact hmarks c (of_decide_eq_true hmem)

theorem closed_cons {c : Char} {text : List Char} (hc : isMark c = true) (h : Closed text) :
    Closed (c :: text) := by
  obtain ⟨hquote, hescape⟩ := ne_of_isMark hc
  have hstep : Place.step .outside c = .outside := Place.step_bare hquote hescape (by decide)
  refine ⟨⟨.inr hc, ?_⟩, ?_⟩
  · rw [hstep]
    exact h.1
  · rw [Place.run, hstep]
    exact h.2

theorem closed_marks {text : List Char} (h : ∀ c ∈ text, isMark c = true) : Closed text := by
  induction text with
  | nil => exact ⟨trivial, rfl⟩
  | cons c rest ih =>
      obtain ⟨hc, hrest⟩ := List.forall_mem_cons.mp h
      exact closed_cons hc (ih hrest)

theorem bare_of_hexQuad? {a b d e : Char} {rest : List Char} {unit : Nat}
    (h : hexQuad? (a :: b :: d :: e :: rest) = some unit) : Bare [a, b, d, e] := by
  intro c hc
  obtain ⟨value, hvalue⟩ := exists_hexValue? h c hc
  constructor
  all_goals
    rintro rfl
    cases hvalue

/-- A character is spelled in a string. -/
theorem Spells.fits {c : Char} {word : List Char} (h : Spells c word) :
    Place.Fits .inside word ∧ Place.run .inside word = .inside := by
  cases h with
  | plain hplain =>
      have hbare : Bare [c] := by
        simp only [isPlain, Bool.and_eq_true, decide_eq_true_eq] at hplain
        simpa [Bare] using ⟨hplain.1.2, hplain.2⟩
      exact ⟨Place.fits_bare hbare, Place.run_bare hbare (by decide)⟩
  | @letter letter hplain hletter =>
      have hlow : letter.toNat < 0x80 := by
        unfold simpleEscape? at hletter
        split at hletter
        all_goals first
          | decide
          | cases hletter
      exact ⟨⟨trivial, hlow, trivial⟩, rfl⟩
  | @digits a b d e hplain hquad =>
      have hbare := bare_of_hexQuad? hquad
      have hrun : Place.run .inside [a, b, d, e] = .inside := Place.run_bare hbare (by decide)
      have hlow : 'u'.toNat < 0x80 := by decide
      exact ⟨⟨trivial, hlow, Place.fits_bare hbare⟩, hrun⟩

theorem SpellsAll.fits {chars text : List Char} (h : SpellsAll chars text) :
    Place.Fits .inside text ∧ Place.run .inside text = .inside := by
  induction h with
  | nil => exact ⟨trivial, rfl⟩
  | cons hword hrest ih =>
      obtain ⟨hfits, hrun⟩ := hword.fits
      rw [Place.fits_append, Place.run_append, hrun]
      exact ⟨⟨hfits, ih.1⟩, ih.2⟩

theorem Quotes.closed {value : String} {text : List Char} (h : Quotes value text) :
    Closed text := by
  obtain ⟨inside, hinside, rfl⟩ := h
  obtain ⟨hfits, hrun⟩ := hinside.fits
  constructor
  · refine ⟨.inl rfl, Place.fits_append.mpr ⟨hfits, ?_⟩⟩
    rw [Place.step_outside_quote, hrun]
    exact ⟨trivial, trivial⟩
  · change Place.run .inside (inside ++ ['"']) = .outside
    rw [Place.run_append, hrun]
    rfl

/-- Outside of the strings of a compact document there are only marks. -/
theorem Compact.closed {part : Part} {text : List Char} (h : Compact part text) : Closed text := by
  induction h with
  | null | noItems | noMembers => exact closed_marks (by simp [isMark])
  | bool value => cases value <;> exact closed_marks (by simp [isMark, isNumeric])
  | int numeral | float numeral =>
      exact closed_marks fun c hc => by simp [isMark, numeral.numeric_text c hc]
  | string h => exact h.closed
  | array _ ih | object _ _ ih =>
      exact closed_cons rfl (ih.append (closed_marks (by simp [isMark])))
  | item _ ih => exact ih
  | moreItems _ _ ih ihmore => exact ih.append (closed_cons rfl ihmore)
  | member hname _ ih => exact hname.closed.append (closed_cons rfl ih)
  | moreMembers hname _ _ ih ihmore =>
      exact hname.closed.append (closed_cons rfl (ih.append (closed_cons rfl ihmore)))

/-! ## Reading strings -/

/-- An escape with four digits does not leave a string. -/
theorem run_unicode {rest : List Char} {unit : Nat} (hquad : hexQuad? rest = some unit) :
    Place.run .inside ('\\' :: 'u' :: rest) = Place.run .inside (rest.drop 4) := by
  have h := hquad
  unfold hexQuad? at h
  split at h
  · next a b d e more =>
      change Place.run .inside ([a, b, d, e] ++ more) = Place.run .inside more
      rw [Place.run_append, Place.run_bare (bare_of_hexQuad? hquad) (by decide)]
  · cases h

theorem run_lowSurrogate {rest : List Char} {low : Nat} (h : lowSurrogate? rest = some low) :
    Place.run .inside rest = Place.run .inside (rest.drop 6) := by
  unfold lowSurrogate? at h
  split at h
  · next more =>
      split at h
      · next hquad => exact run_unicode hquad
      · cases h
  · cases h

/-- A string that starts where one starts in the text ends where that one ends. -/
theorem stringBody_run {steps start : Nat} {seen : List Char} {cursor next : Cursor} {text : String}
    (h : stringBody steps start seen cursor = .ok (text, next)) :
    Place.run .inside cursor.rest = Place.run .outside next.rest := by
  induction steps generalizing seen cursor with
  | zero => cases h
  | succ steps ih =>
      rw [stringBody] at h
      split at h
      · cases h
      · next rest hrest =>
          obtain ⟨rfl, rfl⟩ := Prod.mk.inj (Except.ok.inj h)
          rw [hrest, Cursor.skip, hrest]
          rfl
      · cases h
      · next rest hrest =>
          rw [hrest]
          split at h
          · next unit hquad =>
              have hsix : (cursor.skip 6).rest = rest.drop 4 := by rw [Cursor.skip, hrest]; rfl
              have htwelve : (cursor.skip 12).rest = (rest.drop 4).drop 6 := by
                rw [Cursor.skip, hrest, List.drop_drop]
                rfl
              rw [run_unicode hquad]
              split at h
              · cases h
              split at h
              · dsimp only at h
                split at h
                · next low hlow => rw [run_lowSurrogate hlow, ← htwelve, ih h]
                · split at h
                  · cases h
                  · rw [← hsix, ih h]
              · rw [← hsix, ih h]
          · cases h
      · next letter rest hunicode hrest =>
          have htwo : (cursor.skip 2).rest = rest := by rw [Cursor.skip, hrest]; rfl
          split at h
          · rw [hrest, ← ih h, htwo]
            rfl
          · cases h
      · next c rest hquote hsingle hunicode hescape hrest =>
          have hone : (cursor.skip 1).rest = rest := by rw [Cursor.skip, hrest]; rfl
          split at h
          · cases h
          · have hplain : c ≠ '\\' := by
              rintro rfl
              cases rest with
              | nil => exact hsingle rfl rfl
              | cons letter more => exact hescape letter more rfl rfl
            rw [hrest, ← ih h, hone, Place.run, Place.step_bare hquote hplain (by decide)]

/-- No escape stands outside of strings. -/
theorem not_fits_escape {rest : List Char} : ¬ Place.Fits .outside ('\\' :: rest) := by
  rintro ⟨hallows, -⟩
  rcases hallows with hquote | hmark
  · cases hquote
  · cases hmark

/-- A string that starts where one ends in the text is made of what stands between strings. -/
theorem stringBody_marks {steps start : Nat} {seen : List Char} {cursor next : Cursor}
    {text : String} (h : stringBody steps start seen cursor = .ok (text, next))
    (hfits : Place.Fits .outside cursor.rest) (hseen : ∀ c ∈ seen, isMark c = true) :
    Place.Fits .inside next.rest ∧ ∀ c ∈ text.toList, isMark c = true := by
  induction steps generalizing seen cursor with
  | zero => cases h
  | succ steps ih =>
      rw [stringBody] at h
      split at h
      · cases h
      · next rest hrest =>
          obtain ⟨rfl, rfl⟩ := Prod.mk.inj (Except.ok.inj h)
          rw [hrest] at hfits
          rw [Cursor.skip, hrest]
          exact ⟨hfits.2, by simpa using hseen⟩
      · cases h
      · next rest hrest => exact absurd (hrest ▸ hfits) not_fits_escape
      · next letter rest hunicode hrest => exact absurd (hrest ▸ hfits) not_fits_escape
      · next c rest hquote hsingle hunicode hescape hrest =>
          have hone : (cursor.skip 1).rest = rest := by rw [Cursor.skip, hrest]; rfl
          split at h
          · cases h
          · rw [hrest] at hfits
            obtain ⟨hallows, hmore⟩ := hfits
            have hmark : isMark c = true := hallows.resolve_left hquote
            rw [Place.step_bare hquote (ne_of_isMark hmark).2 (by decide), ← hone] at hmore
            exact ih h hmore (List.forall_mem_cons.mpr ⟨hmark, hseen⟩)

/-! ## Reading values -/

/-- Where a text ends goes along with a reader that starts at the right place. -/
theorem follows_run :
    Follows (fun rest => Place.run .outside rest ≠ .outside) (fun _ => True) where
  drop := by
    intro c rest hleft hquote hescape
    rwa [Place.run, Place.step_bare hquote hescape (by decide)] at hleft
  string := by
    intro steps start cursor next rest text hrest hleft hread
    have hrun := stringBody_run hread
    rw [Cursor.skip, hrest] at hrun
    rw [hrest, Place.run, Place.step_outside_quote] at hleft
    exact ⟨hrun ▸ hleft, trivial⟩

/-- A reader that starts at the wrong place finds keys that are made of marks. -/
theorem follows_fits :
    Follows (Place.Fits .inside) (fun text => ∀ c ∈ text.toList, isMark c = true) where
  drop := by
    intro c rest hleft hquote hescape
    have hrest := hleft.2
    rwa [Place.step_bare hquote hescape (by decide)] at hrest
  string := by
    intro steps start cursor next rest text hrest hleft hread
    rw [hrest] at hleft
    refine stringBody_marks hread ?_ (by simp)
    rw [Cursor.skip, hrest]
    exact hleft.2

/-- What ends in a string is no document. -/
theorem decodeChars_of_run {text : List Char} (h : Place.run .outside text ≠ .outside)
    (json : Json) : decodeChars text ≠ .ok json :=
  fun hread => (follows_run.decodeChars hread h).1 rfl

/-- In a part of a document that starts in a string all keys are made of marks. -/
theorem keysAre_of_fits {text : List Char} {json : Json} (h : Place.Fits .inside text)
    (hread : decodeChars text = .ok json) :
    KeysAre (fun key => ∀ c ∈ key.toList, isMark c = true) json :=
  (follows_fits.decodeChars hread h).2

end ManifestLint.Json
