import Mathlib.Data.List.DropRight
import ManifestLint.Text.Blank
import ManifestLint.Text.Lines

/-!
# Cutting and trimming texts

What lines a text has when it is put together from lines, and what trimming takes off a text.
A text is bare of a kind of characters if it neither starts nor ends with one.  To trim a
text is to take the bare part out of the middle, and what is trimmed does not matter.

* `splitLines_append_lineEnd`: a text is cut at every line end in it.
* `splitLines_intercalate`: lines that are joined by line feeds are cut where they were joined.
* `span_append`: a text is cut where a kind of characters ends.
* `exists_trimmed`, `bare_trim`, `trim_eq_of_bare`: what a trimmed text is.
* `trim_append_left`, `trim_append_right`: what is trimmed may be added before.
-/

namespace ManifestLint.Text

variable {p : Char → Bool} {c d : Char} {text rest lead trail : List Char}

/-! ## Lines -/

/-- A line end closes an empty line, unless it is the first half of a pair. -/
theorem splitLines_lineEnd (h : isLineEnd c = true)
    (hpair : c = '\r' → rest.head? ≠ some '\n') :
    splitLines (c :: rest) = [] :: splitLines rest := by
  have hhead : ∀ more, c = '\r' → rest = '\n' :: more → False := by
    rintro more hc rfl
    exact hpair hc rfl
  exact (splitLines.eq_3 c rest hhead).trans (if_pos h)

/-- A character that ends no line stands at the start of the first line. -/
theorem splitLines_cons (h : isLineEnd c = false) (rest : List Char) :
    splitLines (c :: rest) =
      match splitLines rest with
      | [] => [[c]]
      | line :: lines => (c :: line) :: lines := by
  have hpair : ∀ more, c = '\r' → rest = '\n' :: more → False := by
    rintro more rfl -
    cases h
  exact (splitLines.eq_3 c rest hpair).trans (if_neg (by simp [h]))

theorem splitLines_ne_nil (h : text ≠ []) : splitLines text ≠ [] := by
  fun_cases splitLines text <;> simp_all

/-- A line end behind a text closes an empty line: no line is open there, and the line end does
not complete a pair. -/
def AtLineStart (text : List Char) (c : Char) : Prop :=
  ∀ d ∈ text.getLast?, isLineEnd d = true ∧ ¬ (d = '\r' ∧ c = '\n')

instance (text : List Char) (c : Char) : Decidable (AtLineStart text c) :=
  inferInstanceAs (Decidable (∀ d ∈ text.getLast?, _))

theorem atLineStart_cons_cons (e : Char) :
    AtLineStart (e :: d :: rest) c ↔ AtLineStart (d :: rest) c := by
  rw [AtLineStart, AtLineStart, List.getLast?_cons_cons]

/-- A text is cut at every line end in it: what stands before and behind it keeps its lines. -/
theorem splitLines_append_lineEnd (text : List Char) (hend : isLineEnd c = true)
    (hpair : c = '\r' → rest.head? ≠ some '\n') :
    splitLines (text ++ c :: rest) =
      splitLines text ++ ((if AtLineStart text c then [[]] else []) ++ splitLines rest) := by
  induction text using splitLines.induct with
  | case1 =>
      rw [List.nil_append, splitLines_lineEnd hend hpair, if_pos (by simp [AtLineStart])]
      rfl
  | case2 text ih =>
      have hsame : AtLineStart ('\r' :: '\n' :: text) c ↔ AtLineStart text c := by
        rw [atLineStart_cons_cons]
        cases text with
        | nil => simp [AtLineStart, isLineEnd]
        | cons e others => exact atLineStart_cons_cons _
      simp only [hsame]
      exact congrArg (List.cons []) ih
  | case3 d text hbefore hlineEnd ih =>
      cases text with
      | nil =>
          rw [List.singleton_append]
          by_cases hboth : d = '\r' ∧ c = '\n'
          · obtain ⟨rfl, rfl⟩ := hboth
            rw [if_neg (by simp [AtLineStart])]
            rfl
          · have hstart : AtLineStart [d] c := by simpa [AtLineStart, hlineEnd] using hboth
            rw [splitLines_lineEnd hlineEnd (by simpa using hboth), splitLines_lineEnd hend hpair,
              splitLines_lineEnd hlineEnd (by simp), if_pos hstart]
            rfl
      | cons e others =>
          have hhead (tail : List Char) (hd : d = '\r') :
              (e :: (others ++ tail)).head? ≠ some '\n' := by
            rintro heq
            obtain rfl := Option.some.inj heq
            exact hbefore others hd rfl
          simp only [atLineStart_cons_cons]
          rw [List.cons_append, List.cons_append, splitLines_lineEnd hlineEnd (hhead _),
            ← List.cons_append, ih, splitLines_lineEnd hlineEnd (by simpa using hhead [])]
          rfl
  | case4 d text hbefore hlineEnd hnil ih =>
      have hopen : isLineEnd d = false := Bool.eq_false_iff.mpr hlineEnd
      obtain rfl : text = [] := by
        by_contra hne
        exact splitLines_ne_nil hne hnil
      rw [List.singleton_append, splitLines_cons hopen, splitLines_cons hopen,
        splitLines_lineEnd hend hpair, if_neg (by simp [AtLineStart, hopen])]
      rfl
  | case5 d text hbefore hlineEnd line lines hcons ih =>
      have hopen : isLineEnd d = false := Bool.eq_false_iff.mpr hlineEnd
      cases text with
      | nil => cases hcons
      | cons e others =>
          simp only [atLineStart_cons_cons]
          rw [List.cons_append, splitLines_cons hopen, ih, splitLines_cons hopen, hcons]
          rfl

/-- A text that does not end with a line end keeps its lines when a line feed and more
follow. -/
theorem splitLines_append (text : List Char) (hlast : isLineEnd c = false) (more : List Char) :
    splitLines (text ++ c :: '\n' :: more) = splitLines (text ++ [c]) ++ splitLines more := by
  have hopen : ¬ AtLineStart (text ++ [c]) '\n' := by simp [AtLineStart, hlast]
  rw [← List.singleton_append, ← List.append_assoc,
    splitLines_append_lineEnd (text ++ [c]) rfl (by simp), if_neg hopen]
  rfl

/-- A line with no line end in it is one line. -/
theorem splitLines_eq_singleton (hne : text ≠ []) (h : ∀ c ∈ text, isLineEnd c = false) :
    splitLines text = [text] := by
  induction text with
  | nil => exact absurd rfl hne
  | cons c rest ih =>
      obtain ⟨hc, hrest⟩ := List.forall_mem_cons.mp h
      rw [splitLines_cons hc]
      cases rest with
      | nil => rfl
      | cons d others => rw [ih (by simp) hrest]

/-- Lines that do not end with a line end, joined by line feeds, are cut where they were
joined. -/
theorem splitLines_intercalate {lines : List (List Char)}
    (h : ∀ line ∈ lines, ∃ text c, line = text ++ [c] ∧ isLineEnd c = false) :
    splitLines (['\n'].intercalate lines) = lines.flatMap splitLines := by
  induction lines with
  | nil => rfl
  | cons line others ih =>
      obtain ⟨⟨text, c, rfl, hc⟩, hothers⟩ := List.forall_mem_cons.mp h
      cases others with
      | nil => simp
      | cons next rest =>
          rw [List.intercalate_cons_cons, List.append_assoc, List.append_assoc,
            List.singleton_append, List.singleton_append, splitLines_append text hc, ih hothers]
          rfl

/-! ## Separators -/

/-- The parts between separators have no separator in them. -/
theorem not_mem_of_mem_splitOn (separator : Char) (text : List Char) :
    ∀ part ∈ text.splitOn separator, separator ∉ part := by
  induction text with
  | nil => simp
  | cons c rest ih =>
      rw [List.splitOn_cons_eq_if_modifyHead]
      split
      · exact List.forall_mem_cons.mpr ⟨List.not_mem_nil, ih⟩
      · next hother =>
          cases hparts : rest.splitOn separator with
          | nil => exact (List.splitOn_ne_nil _ _ hparts).elim
          | cons part parts =>
              rw [hparts] at ih
              obtain ⟨hpart, hparts⟩ := List.forall_mem_cons.mp ih
              refine List.forall_mem_cons.mpr ⟨?_, hparts⟩
              refine (not_congr List.mem_cons).mpr (not_or.mpr ⟨fun hsame => hother ?_, hpart⟩)
              exact beq_iff_eq.mpr hsame.symm

/-! ## Trimming -/

/-- The text neither starts nor ends with a character of a kind. -/
structure Bare (p : Char → Bool) (text : List Char) : Prop where
  first : ∀ c ∈ text.head?, p c = false
  last : ∀ c ∈ text.getLast?, p c = false

theorem dropWhile_eq_self_of_head? (h : ∀ c ∈ text.head?, p c = false) :
    text.dropWhile p = text := by
  cases text with
  | nil => rfl
  | cons c rest => exact List.dropWhile_cons_of_neg (by simp [h c rfl])

/-- A text is cut where a character of another kind follows. -/
theorem span_append (hinside : ∀ c ∈ text, p c = true)
    (hrest : ∀ c ∈ rest.head?, p c = false) :
    (text ++ rest).takeWhile p = text ∧ (text ++ rest).dropWhile p = rest := by
  rw [List.takeWhile_append_of_pos hinside, List.dropWhile_append_of_pos hinside,
    dropWhile_eq_self_of_head? hrest]
  cases rest with
  | nil => exact ⟨List.append_nil text, rfl⟩
  | cons c others =>
      rw [List.takeWhile_cons_of_neg (ne_true_of_eq_false (hrest c rfl)), List.append_nil]
      exact ⟨rfl, rfl⟩

theorem trimStart_append (h : ∀ c ∈ lead, p c = true) (text : List Char) :
    trimStart p (lead ++ text) = trimStart p text :=
  List.dropWhile_append_of_pos h

theorem trimEnd_append (h : ∀ c ∈ trail, p c = true) (text : List Char) :
    trimEnd p (text ++ trail) = trimEnd p text := by
  rw [trimEnd, List.reverse_append, List.dropWhile_append_of_pos]
  · rfl
  · exact fun c hc => h c (List.mem_reverse.mp hc)

theorem trimEnd_eq_self (h : ∀ c ∈ text.getLast?, p c = false) : trimEnd p text = text := by
  rw [trimEnd, dropWhile_eq_self_of_head?, List.reverse_reverse]
  rwa [List.head?_reverse]

/-- Something is trimmed off the end if and only if there is something to trim. -/
theorem trimEnd_ne_self_iff :
    trimEnd p text ≠ text ↔ ∃ c ∈ text.getLast?, p c = true := by
  constructor
  · intro hne
    by_contra hnone
    refine hne (trimEnd_eq_self fun c hc => ?_)
    exact Bool.eq_false_iff.mpr fun hp => hnone ⟨c, hc, hp⟩
  · rintro ⟨c, hc, hp⟩ hsame
    have hlast : (trimEnd p text).getLast? = some c := hsame.symm ▸ hc
    rw [trimEnd, List.getLast?_reverse] at hlast
    have hnot := List.head?_dropWhile_not p text.reverse
    rw [hlast] at hnot
    simp [hp] at hnot

/-- Only what stands behind the last other character is trimmed off the end. -/
theorem trimEnd_append_cons (h : p c = false) (text rest : List Char) :
    trimEnd p (text ++ c :: rest) = text ++ c :: trimEnd p rest := by
  rw [trimEnd, List.reverse_append, List.reverse_cons, List.append_assoc, List.dropWhile_append]
  cases hrest : rest.reverse.dropWhile p with
  | nil => simp [trimEnd, hrest, h]
  | cons d others => simp [trimEnd, hrest]

theorem trim_append_left (h : ∀ c ∈ lead, p c = true) (text : List Char) :
    trim p (lead ++ text) = trim p text := by
  rw [trim, trimStart_append h, trim]

theorem trim_append_right (h : ∀ c ∈ trail, p c = true) (text : List Char) :
    trim p (text ++ trail) = trim p text := by
  rw [trim, trimStart, List.dropWhile_append, trim, trimStart]
  cases hrest : text.dropWhile p with
  | nil =>
      have hnone : trail.dropWhile p = [] := List.dropWhile_eq_nil_iff.mpr h
      simp [hnone]
  | cons d others => exact trimEnd_append h (d :: others)

/-- Only characters of the kind are trimmed off a text. -/
theorem exists_trimmed (p : Char → Bool) (text : List Char) :
    ∃ lead trail, text = lead ++ (trim p text ++ trail) ∧
      (∀ c ∈ lead, p c = true) ∧ ∀ c ∈ trail, p c = true := by
  let middle := text.dropWhile p
  have hlead : ∀ c ∈ text.takeWhile p, p c = true := List.all_eq_true.mp List.all_takeWhile
  have htrail : ∀ c ∈ (middle.reverse.takeWhile p).reverse, p c = true := by
    intro c hc
    exact List.all_eq_true.mp List.all_takeWhile c (List.mem_reverse.mp hc)
  have hmiddle : trim p text ++ (middle.reverse.takeWhile p).reverse = middle := by
    rw [trim, trimEnd, trimStart, ← List.reverse_append, List.takeWhile_append_dropWhile,
      List.reverse_reverse]
  refine ⟨_, _, ?_, hlead, htrail⟩
  rw [hmiddle, List.takeWhile_append_dropWhile]

theorem trim_of_bare (h : Bare p text) : trim p text = text := by
  rw [trim, trimStart, dropWhile_eq_self_of_head? h.first, trimEnd_eq_self h.last]

/-- **Trimming.**  The bare part of a text is what is left of it. -/
theorem trim_eq_of_bare (hlead : ∀ c ∈ lead, p c = true) (htext : Bare p text)
    (htrail : ∀ c ∈ trail, p c = true) : trim p (lead ++ (text ++ trail)) = text := by
  rw [trim_append_left hlead, trim_append_right htrail, trim_of_bare htext]

theorem bare_trim (p : Char → Bool) (text : List Char) : Bare p (trim p text) where
  first := by
    intro c hc
    have hprefix : trim p text <+: text.dropWhile p := List.rdropWhile_prefix p (text.dropWhile p)
    have hhead : (text.dropWhile p).head? = some c := by
      obtain ⟨rest, hrest⟩ := hprefix
      rw [← hrest, List.head?_append, hc]
      rfl
    simpa [hhead] using List.head?_dropWhile_not p text
  last := by
    intro c hc
    rw [trim, trimEnd, List.getLast?_reverse] at hc
    have hnot := List.head?_dropWhile_not p (trimStart p text).reverse
    rw [hc] at hnot
    simpa using hnot

/-- A text with no blank at either end has nothing to trim. -/
theorem trim_eq_self (hfirst : isBlank c = false) (hlast : isBlank d = false) (text : List Char) :
    trim isBlank (c :: (text ++ [d])) = c :: (text ++ [d]) := by
  simp [trim, trimStart, trimEnd, hfirst, hlast]

end ManifestLint.Text
