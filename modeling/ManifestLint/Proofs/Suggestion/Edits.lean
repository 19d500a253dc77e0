import Mathlib.Data.List.Basic
import Mathlib.Data.List.Induction
import Mathlib.Order.Bounds.Basic
import ManifestLint.Suggestion.Closest

/-!
# The least number of edits

A text becomes another one by edits, each of which inserts, deletes or replaces one character
anywhere in it.  The table of the edit distance knows nothing of such a sequence: it compares the
beginnings of both texts, column by column.  In between stand alignments, in which the characters
of both texts are written in columns from left to right.

An alignment is easy to read as a sequence of edits.  The other way round, an alignment can be cut
wherever one of its texts is cut, so that one more edit changes a piece of it that holds a single
character, and costs no more than one column.  So both need the same least number, and the last
column of an alignment gives the rule of the table.

* `Edits`: what so many edits make of a text.  `Aligned`: alignments.
* `Aligned.split`, `Edits.aligned`: from edits to alignments.
* `Fewest.step`, `isRow_nextRow`, `fewest_distance`: the rule of the table, a row, the table.
* `closest_first_fewest`: the distance, and the option that is closest.
-/

namespace ManifestLint.Suggestion

/-! ## Edits -/

/-- One character of a text is inserted, deleted or replaced. -/
inductive Edit : List Char → List Char → Prop
  | insertion (before after : List Char) (c : Char) : Edit (before ++ after) (before ++ c :: after)
  | deletion (before after : List Char) (c : Char) : Edit (before ++ c :: after) (before ++ after)
  | replacement (before after : List Char) (c d : Char) :
      Edit (before ++ c :: after) (before ++ d :: after)

/-- A text becomes another one by so many edits, one after the other. -/
inductive Edits : Nat → List Char → List Char → Prop
  | none (a : List Char) : Edits 0 a a
  | more {n : Nat} {a b c : List Char} (hedits : Edits n a b) (hedit : Edit b c) :
      Edits (n + 1) a c

/-- What follows both texts makes no difference to an edit. -/
theorem Edit.append {a b : List Char} (h : Edit a b) (rest : List Char) :
    Edit (a ++ rest) (b ++ rest) := by
  cases h with
  | insertion before after c => simpa using Edit.insertion before (after ++ rest) c
  | deletion before after c => simpa using Edit.deletion before (after ++ rest) c
  | replacement before after c d => simpa using Edit.replacement before (after ++ rest) c d

theorem Edits.append {n : Nat} {a b : List Char} (h : Edits n a b) (rest : List Char) :
    Edits n (a ++ rest) (b ++ rest) := by
  induction h with
  | none a => exact .none _
  | more hedits hedit ih => exact .more ih (hedit.append rest)

/-! ## Alignments -/

/-- Two texts written in columns, so many of which cost an edit. -/
inductive Aligned : Nat → List Char → List Char → Prop
  | nil : Aligned 0 [] []
  | keep {n : Nat} {a b : List Char} (c : Char) (h : Aligned n a b) :
      Aligned n (a ++ [c]) (b ++ [c])
  | replace {n : Nat} {a b : List Char} (c d : Char) (h : Aligned n a b) :
      Aligned (n + 1) (a ++ [c]) (b ++ [d])
  | delete {n : Nat} {a b : List Char} (c : Char) (h : Aligned n a b) :
      Aligned (n + 1) (a ++ [c]) b
  | insert {n : Nat} {a b : List Char} (d : Char) (h : Aligned n a b) :
      Aligned (n + 1) a (b ++ [d])

namespace Aligned

variable {m n : Nat} {a b c d : List Char}

/-- The columns of an alignment are edits from left to right. -/
theorem edits (h : Aligned n a b) : Edits n a b := by
  induction h with
  | nil => exact .none []
  | keep c h ih => exact ih.append [c]
  | @replace n a b c d h ih => exact .more (ih.append [c]) (.replacement b [] c d)
  | @delete n a b c h ih =>
      have hlast : Edit (b ++ [c]) b := by simpa using Edit.deletion b [] c
      exact .more (ih.append [c]) hlast
  | @insert n a b d h ih =>
      have hlast : Edit b (b ++ [d]) := by simpa using Edit.insertion b [] d
      exact .more ih hlast

theorem symm (h : Aligned n a b) : Aligned n b a := by
  induction h with
  | nil => exact .nil
  | keep c h ih => exact .keep c ih
  | replace c d h ih => exact .replace d c ih
  | delete c h ih => exact .insert c ih
  | insert d h ih => exact .delete d ih

theorem refl (a : List Char) : Aligned 0 a a := by
  induction a using List.reverseRecOn with
  | nil => exact .nil
  | append_singleton a c ih => exact .keep c ih

/-- Every character of a text can be deleted. -/
theorem deleted (a : List Char) : Aligned a.length a [] := by
  induction a using List.reverseRecOn with
  | nil => exact .nil
  | append_singleton a c ih =>
      rw [List.length_append, List.length_singleton]
      exact .delete c ih

/-- A text is longer than the other one by deletions only. -/
theorem length_le (h : Aligned n a b) : a.length ≤ n + b.length := by
  induction h with
  | nil => exact le_rfl
  | _ => simp only [List.length_append, List.length_singleton]; omega

theorem append (h : Aligned m a b) (hrest : Aligned n c d) : Aligned (m + n) (a ++ c) (b ++ d) := by
  induction hrest with
  | nil => simpa using h
  | keep c hrest ih => simpa [← List.append_assoc] using keep c ih
  | replace c d hrest ih => simpa [← List.append_assoc, ← Nat.add_assoc] using replace c d ih
  | delete c hrest ih => simpa [← List.append_assoc, ← Nat.add_assoc] using delete c ih
  | insert d hrest ih => simpa [← List.append_assoc, ← Nat.add_assoc] using insert d ih

/-- Where a text is cut in two, its last character goes with the second piece, unless that is
empty. -/
theorem last_of_cut {x : Char} (h : c ++ d = b ++ [x]) :
    (d = [] ∧ c = b ++ [x]) ∨ ∃ rest, d = rest ++ [x] ∧ c ++ rest = b := by
  rcases List.eq_nil_or_concat' d with rfl | ⟨rest, y, rfl⟩
  · exact .inl ⟨rfl, by simpa using h⟩
  · rw [← List.append_assoc] at h
    obtain ⟨hrest, hlast⟩ := List.append_inj' h rfl
    exact .inr ⟨rest, by rw [hlast], hrest⟩

/-- An alignment can be cut wherever its second text is cut. -/
theorem split (h : Aligned n a (c ++ d)) :
    ∃ (i j : Nat) (first second : List Char), n = i + j ∧ a = first ++ second ∧
      Aligned i first c ∧ Aligned j second d := by
  generalize hb : c ++ d = b at h
  -- Columns are taken off at the end until nothing is left of the second piece.
  induction h generalizing c d with
  | nil =>
      obtain ⟨rfl, rfl⟩ := List.append_eq_nil_iff.mp hb
      exact ⟨0, 0, [], [], rfl, rfl, nil, nil⟩
  | @keep n a b x h ih =>
      rcases last_of_cut hb with ⟨rfl, rfl⟩ | ⟨rest, rfl, hrest⟩
      · exact ⟨n, 0, a ++ [x], [], rfl, (List.append_nil _).symm, keep x h, nil⟩
      · obtain ⟨i, j, first, second, rfl, rfl, hfirst, hsecond⟩ := ih hrest
        exact ⟨i, j, first, second ++ [x], rfl, List.append_assoc .., hfirst, keep x hsecond⟩
  | @replace n a b x y h ih =>
      rcases last_of_cut hb with ⟨rfl, rfl⟩ | ⟨rest, rfl, hrest⟩
      · exact ⟨n + 1, 0, a ++ [x], [], rfl, (List.append_nil _).symm, replace x y h, nil⟩
      · obtain ⟨i, j, first, second, rfl, rfl, hfirst, hsecond⟩ := ih hrest
        exact ⟨i, j + 1, first, second ++ [x], rfl, List.append_assoc .., hfirst,
          replace x y hsecond⟩
  | @delete n a b x h ih =>
      obtain ⟨i, j, first, second, rfl, rfl, hfirst, hsecond⟩ := ih hb
      exact ⟨i, j + 1, first, second ++ [x], rfl, List.append_assoc .., hfirst, delete x hsecond⟩
  | @insert n a b y h ih =>
      rcases last_of_cut hb with ⟨rfl, rfl⟩ | ⟨rest, rfl, hrest⟩
      · exact ⟨n + 1, 0, a, [], rfl, (List.append_nil _).symm, insert y h, nil⟩
      · obtain ⟨i, j, first, second, rfl, rfl, hfirst, hsecond⟩ := ih hrest
        exact ⟨i, j + 1, first, second, rfl, rfl, hfirst, insert y hsecond⟩

/-- A text is aligned with a single character by deleting what is too much. -/
theorem exists_singleton (a : List Char) (d : Char) :
    ∃ k, k ≤ max 1 a.length ∧ Aligned k a [d] := by
  rcases List.eq_nil_or_concat' a with rfl | ⟨rest, c, rfl⟩
  · exact ⟨1, le_rfl, insert d nil⟩
  · refine ⟨rest.length + 1, ?_, replace c d (deleted rest)⟩
    simp

/-- If a piece of the second text can be exchanged at the cost of one column, so it can within a
text. -/
theorem exchange (before old new after : List Char) (h : Aligned n a (before ++ old ++ after))
    (hpiece : ∀ {j : Nat} {piece : List Char}, Aligned j piece old →
      ∃ k, k ≤ j + 1 ∧ Aligned k piece new) :
    ∃ k, k ≤ n + 1 ∧ Aligned k a (before ++ new ++ after) := by
  obtain ⟨i, last, first, behind, rfl, rfl, hfirst, hlast⟩ := h.split
  obtain ⟨i, j, first, piece, rfl, rfl, hfirst, hold⟩ := hfirst.split
  obtain ⟨k, hk, hnew⟩ := hpiece hold
  exact ⟨i + k + last, by omega, (hfirst.append hnew).append hlast⟩

/-- One more edit costs one more column at most. -/
theorem edited (h : Aligned n a b) (hedit : Edit b c) : ∃ k, k ≤ n + 1 ∧ Aligned k a c := by
  cases hedit with
  | insertion before after x =>
      have hexchange := exchange before [] [x] after (by simpa using h) fun hpiece =>
        ⟨_, le_rfl, insert x hpiece⟩
      simpa using hexchange
  | deletion before after x =>
      have hexchange := exchange before [x] [] after (by simpa using h) fun {_ piece} hpiece =>
        ⟨_, hpiece.length_le, deleted piece⟩
      simpa using hexchange
  | replacement before after x y =>
      have hexchange := exchange before [x] [y] after (by simpa using h) fun {j piece} hpiece => by
          obtain ⟨k, hk, hsingle⟩ := exists_singleton piece y
          have hlength : piece.length ≤ j + 1 := hpiece.length_le
          exact ⟨k, by omega, hsingle⟩
      simpa using hexchange

end Aligned

/-- No sequence of edits is shorter than every alignment. -/
theorem Edits.aligned {n : Nat} {a b : List Char} (h : Edits n a b) :
    ∃ k, k ≤ n ∧ Aligned k a b := by
  induction h with
  | none a => exact ⟨0, le_rfl, .refl a⟩
  | more hedits hedit ih =>
      obtain ⟨k, hk, haligned⟩ := ih
      obtain ⟨j, hj, hnext⟩ := haligned.edited hedit
      exact ⟨j, by omega, hnext⟩

/-! ## The fewest edits -/

/-- The number of columns that cost an edit in the best alignment of two texts. -/
def Fewest (n : Nat) (a b : List Char) : Prop := IsLeast {k | Aligned k a b} n

namespace Fewest

variable {n : Nat} {a b : List Char}

theorem isLeast_edits (h : Fewest n a b) : IsLeast {k | Edits k a b} n := by
  constructor
  · exact h.1.edits
  · intro k hk
    obtain ⟨j, hj, haligned⟩ := Edits.aligned hk
    exact (h.2 haligned).trans hj

theorem symm (h : Fewest n a b) : Fewest n b a :=
  ⟨h.1.symm, fun _ hk => h.2 hk.symm⟩

theorem same (a : List Char) : Fewest 0 a a := ⟨.refl a, fun _ _ => Nat.zero_le _⟩

theorem empty_right (a : List Char) : Fewest a.length a [] :=
  ⟨.deleted a, fun _ hk => hk.length_le⟩

theorem empty_left (b : List Char) : Fewest b.length [] b := (empty_right b).symm

/-- **The rule of the table.**  The last column of a best alignment deletes, inserts, or sets the
last characters below each other. -/
theorem step {up left diagonal : Nat} {c d : Char} (hup : Fewest up a (b ++ [d]))
    (hleft : Fewest left (a ++ [c]) b) (hdiagonal : Fewest diagonal a b) :
    Fewest (min (min (up + 1) (left + 1)) (diagonal + if c = d then 0 else 1))
      (a ++ [c]) (b ++ [d]) := by
  have hdelete : Aligned (up + 1) (a ++ [c]) (b ++ [d]) := .delete c hup.1
  have hinsert : Aligned (left + 1) (a ++ [c]) (b ++ [d]) := .insert d hleft.1
  have hboth : Aligned (diagonal + if c = d then 0 else 1) (a ++ [c]) (b ++ [d]) := by
    by_cases heq : c = d
    · subst heq
      simpa using Aligned.keep c hdiagonal.1
    · simpa [heq] using Aligned.replace c d hdiagonal.1
  constructor
  · have hmin {x y z : Nat} : min (min x y) z = x ∨ min (min x y) z = y ∨ min (min x y) z = z := by
      omega
    change Aligned _ _ _
    rcases hmin (x := up + 1) (y := left + 1) with hbest | hbest | hbest <;> rw [hbest]
    · exact hdelete
    · exact hinsert
    · exact hboth
  · intro k hk
    change Aligned _ _ _ at hk
    generalize hfirst : a ++ [c] = first at hk
    generalize hsecond : b ++ [d] = second at hk
    cases hk with
    | nil => simp at hfirst
    | keep x h =>
        obtain ⟨rfl, hx⟩ := List.append_inj' hfirst rfl
        obtain ⟨rfl, hy⟩ := List.append_inj' hsecond rfl
        obtain rfl : c = d := List.singleton_inj.mp (hx.trans hy.symm)
        have hle := hdiagonal.2 h
        simp
        omega
    | replace x y h =>
        obtain ⟨rfl, -⟩ := List.append_inj' hfirst rfl
        obtain ⟨rfl, -⟩ := List.append_inj' hsecond rfl
        have hle := hdiagonal.2 h
        split <;> omega
    | delete x h =>
        obtain ⟨rfl, -⟩ := List.append_inj' hfirst rfl
        subst hsecond
        have hle := hup.2 h
        omega
    | insert y h =>
        obtain ⟨rfl, -⟩ := List.append_inj' hsecond rfl
        subst hfirst
        have hle := hleft.2 h
        omega

end Fewest

/-! ## The table -/

/-- A part of a row of the table: what turns `a` into the beginnings of a text, of which `left`
stands before the part. -/
inductive IsRow (a : List Char) : List Char → List Char → List Nat → Prop
  | nil (left : List Char) : IsRow a left [] []
  | cons {left b : List Char} {d : Char} {entry : Nat} {row : List Nat}
      (hentry : Fewest entry a (left ++ [d])) (hrow : IsRow a (left ++ [d]) b row) :
      IsRow a left (d :: b) (entry :: row)

variable {a b left : List Char} {row above : List Nat}

/-- In the first row everything is inserted. -/
theorem isRow_first (left b : List Char) :
    IsRow [] left b (List.range' (left.length + 1) b.length) := by
  induction b generalizing left with
  | nil => exact .nil left
  | cons d b ih =>
      have hlength : (left ++ [d]).length = left.length + 1 := by simp
      rw [List.length_cons, List.range'_succ, ← hlength]
      exact .cons (.empty_left _) (ih (left ++ [d]))

/-- A row follows from the one above it. -/
theorem isRow_nextRow (habove : IsRow a left b above) {c : Char} {entry diagonal : Nat}
    (hentry : Fewest entry (a ++ [c]) left) (hdiagonal : Fewest diagonal a left) :
    IsRow (a ++ [c]) left b (nextRow c entry diagonal b above) := by
  induction habove generalizing entry diagonal with
  | nil left => exact .nil left
  | cons hup hrow ih =>
      have hnext := Fewest.step hup hentry hdiagonal
      exact .cons hnext (ih hnext hup)

/-- The last row follows from any row by way of those in between. -/
theorem isRow_lastRow (habove : IsRow a [] b above) (rest : List Char) :
    ∃ row, lastRow b rest (a.length :: above) = (a ++ rest).length :: row ∧
      IsRow (a ++ rest) [] b row := by
  induction rest generalizing a above with
  | nil =>
      rw [List.append_nil]
      exact ⟨above, rfl, habove⟩
  | cons c rest ih =>
      have hlength : (a ++ [c]).length = a.length + 1 := by simp
      have hnext : IsRow (a ++ [c]) [] b (nextRow c (a.length + 1) a.length b above) :=
        isRow_nextRow habove (hlength ▸ .empty_right _) (.empty_right a)
      obtain ⟨row, hlast, hrow⟩ := ih hnext
      rw [List.append_assoc, List.singleton_append] at hlast hrow
      refine ⟨row, ?_, hrow⟩
      rw [lastRow, ← hlast, hlength]

/-- The last entry of a row is that of the whole texts. -/
theorem fewest_getLast (hrow : IsRow a left b row) {entry : Nat} (hentry : Fewest entry a left) :
    Fewest (((entry :: row).getLast?).getD 0) a (left ++ b) := by
  induction hrow generalizing entry with
  | nil left => simpa using hentry
  | cons hnext hrow ih => simpa using ih hnext

theorem fewest_tableDistance (a b : List Char) : Fewest (tableDistance a b) a b := by
  have hfirst : IsRow [] [] b (List.range' 1 b.length) := isRow_first [] b
  obtain ⟨row, hlast, hrow⟩ := isRow_lastRow hfirst a
  have hrange : List.range (b.length + 1) = 0 :: List.range' 1 b.length := by
    rw [List.range_eq_range', List.range'_succ]
  rw [tableDistance, hrange]
  rw [List.length_nil, List.nil_append] at hlast
  rw [hlast]
  exact fewest_getLast hrow (.empty_right a)

/-- **The distance.**  The table, and whatever makes it unnecessary, give the fewest edits.  It
does not matter which text has the rows. -/
theorem fewest_distance (a b : List Char) : Fewest (distance a b) a b := by
  unfold distance
  by_cases hsame : a = b
  · rw [if_pos hsame, hsame]
    exact .same b
  by_cases hleft : a = []
  · rw [if_neg hsame, if_pos hleft, hleft]
    exact .empty_left b
  by_cases hright : b = []
  · rw [if_neg hsame, if_neg hleft, if_pos hright, hright]
    exact .empty_right a
  rw [if_neg hsame, if_neg hleft, if_neg hright]
  by_cases hshorter : a.length < b.length
  · rw [if_pos hshorter]
    exact (fewest_tableDistance b a).symm
  · rw [if_neg hshorter]
    exact fewest_tableDistance a b

theorem distance_comm (a b : List Char) : distance a b = distance b a :=
  (fewest_distance a b).unique (fewest_distance b a).symm

/-! ## The closest option -/

/-- An option is the first one at the least distance from a text. -/
def IsNearest (text : List Char) (options : List (List Char)) (found : List Char) : Prop :=
  ∃ before after, options = before ++ found :: after ∧
    (∀ option ∈ before, distance text found < distance text option) ∧
    ∀ option ∈ after, distance text found ≤ distance text option

theorem IsNearest.le {text found option : List Char} {options : List (List Char)}
    (h : IsNearest text options found) (hmem : option ∈ options) :
    distance text found ≤ distance text option := by
  obtain ⟨before, after, rfl, hbefore, hafter⟩ := h
  rcases List.mem_append.mp hmem with hearly | hlate
  · exact (hbefore option hearly).le
  · rcases List.mem_cons.mp hlate with rfl | hlater
    · exact le_rfl
    · exact hafter option hlater

theorem isNearest_nearest (text best : List Char) (options : List (List Char)) :
    IsNearest text (best :: options) (nearest text best options) := by
  induction options generalizing best with
  | nil => exact ⟨[], [], rfl, List.forall_mem_nil _, List.forall_mem_nil _⟩
  | cons option rest ih =>
      rw [nearest, distance_comm option, distance_comm best]
      by_cases hcloser : distance text option < distance text best
      · rw [if_pos hcloser]
        have hleast := (ih option).le List.mem_cons_self
        obtain ⟨before, after, hoptions, hbefore, hafter⟩ := ih option
        refine ⟨best :: before, after, by rw [hoptions, List.cons_append], ?_, hafter⟩
        exact List.forall_mem_cons.mpr ⟨by omega, hbefore⟩
      · rw [if_neg hcloser]
        obtain ⟨before, after, hoptions, hbefore, hafter⟩ := ih best
        generalize nearest text best rest = found at hoptions hbefore hafter
        cases before with
        | nil =>
            obtain ⟨rfl, rfl⟩ := List.cons.inj hoptions
            refine ⟨[], option :: rest, rfl, List.forall_mem_nil _, ?_⟩
            exact List.forall_mem_cons.mpr ⟨Nat.le_of_not_lt hcloser, hafter⟩
        | cons first before =>
            obtain ⟨rfl, rfl⟩ := List.cons.inj hoptions
            obtain ⟨hfirst, hothers⟩ := List.forall_mem_cons.mp hbefore
            refine ⟨best :: option :: before, after, rfl, ?_, hafter⟩
            refine List.forall_mem_cons.mpr ⟨hfirst, List.forall_mem_cons.mpr ⟨?_, hothers⟩⟩
            omega

/-- An option that is found in a list is the first one of its kind. -/
theorem closestChars_cases {text : List Char} {options : List (List Char)} (htext : text ≠ [])
    (hoptions : options ≠ []) (fallback : List Char) :
    let found := closestChars text options fallback
    let agreeing := agrees (Text.lowerChars text)
    (∃ before after, options = before ++ found :: after ∧
        agreeing found = true ∧ ∀ option ∈ before, agreeing option = false) ∨
      ((∀ option ∈ options, agreeing option = false) ∧ IsNearest text options found) := by
  intro found agreeing
  obtain ⟨c, more, rfl⟩ := List.exists_cons_of_ne_nil htext
  obtain ⟨option, rest, rfl⟩ := List.exists_cons_of_ne_nil hoptions
  cases hfind : (option :: rest).find? agreeing with
  | some first =>
      have hfound : found = first := by
        simp only [found, closestChars]
        rw [hfind]
      obtain ⟨hagrees, before, after, hsplit, hbefore⟩ := List.find?_eq_some_iff_append.mp hfind
      refine .inl ⟨before, after, hfound ▸ hsplit, hfound ▸ hagrees, ?_⟩
      intro earlier hearlier
      simpa using hbefore earlier hearlier
  | none =>
      have hfound : found = nearest (c :: more) option rest := by
        simp only [found, closestChars]
        rw [hfind]
      refine .inr ⟨?_, hfound ▸ isNearest_nearest (c :: more) option rest⟩
      intro other hother
      simpa using List.find?_eq_none.mp hfind other hother

/-- **The closest option.**  The edit distance of two texts is the least number of edits that turns
the one into the other.  If there is a text and an option, the closest one is the first option
that agrees with the text as far as both go, the text in lower case and the option's part put in
lower case; and if none agrees, it is the first one at the least distance from the text. -/
theorem closest_first_fewest {value : String} {options : List String} (hvalue : value ≠ "")
    (hoptions : options ≠ []) (fallback : String) :
    (∀ a b : List Char, IsLeast {n | Edits n a b} (distance a b)) ∧
      let found := closest value options fallback
      let agreeing (option : String) : Bool := agrees (Text.lowerChars value.toList) option.toList
      let far (option : String) : Nat := distance value.toList option.toList
      ∃ before after, options = before ++ found :: after ∧
        ((agreeing found = true ∧ ∀ option ∈ before, agreeing option = false) ∨
          ((∀ option ∈ options, agreeing option = false) ∧
            (∀ option ∈ before, far found < far option) ∧
            ∀ option ∈ after, far found ≤ far option)) := by
  refine ⟨fun a b => (fewest_distance a b).isLeast_edits, ?_⟩
  intro found agreeing far
  have hchars : found.toList =
      closestChars value.toList (options.map String.toList) fallback.toList :=
    String.toList_ofList
  have hlifted : ∀ {before after : List (List Char)},
      options.map String.toList = before ++ found.toList :: after →
        ∃ (first last : List String), options = first ++ found :: last ∧
          before = first.map String.toList ∧ after = last.map String.toList := by
    intro before after hsplit
    obtain ⟨first, behind, rfl, hfirst, hbehind⟩ := List.map_eq_append_iff.mp hsplit
    obtain ⟨middle, last, rfl, hmiddle, hlast⟩ := List.map_eq_cons_iff.mp hbehind
    have hsame : middle = found := String.toList_injective hmiddle
    exact ⟨first, last, by rw [hsame], hfirst.symm, hlast.symm⟩
  have htext : value.toList ≠ [] := by simpa using hvalue
  have hlists : options.map String.toList ≠ [] := by simpa using hoptions
  rcases closestChars_cases htext hlists fallback.toList with
    ⟨before, after, hsplit, hagrees, hbefore⟩ | ⟨hnone, before, after, hsplit, hbefore, hafter⟩
  · rw [← hchars] at hsplit hagrees
    obtain ⟨first, last, hwhole, rfl, rfl⟩ := hlifted hsplit
    rw [List.forall_mem_map] at hbefore
    exact ⟨first, last, hwhole, .inl ⟨hagrees, hbefore⟩⟩
  · rw [← hchars] at hsplit hbefore hafter
    obtain ⟨first, last, hwhole, rfl, rfl⟩ := hlifted hsplit
    rw [List.forall_mem_map] at hnone hbefore hafter
    exact ⟨first, last, hwhole, .inr ⟨hnone, hbefore, hafter⟩⟩

/-- Two options are at the least distance of a misspelt text, which is one edit, and the first of
them is the closest. -/
theorem closest_of_misspelt :
    let options := ["shared", "serv-er", "server", "servor", "dev"]
    "servr" ≠ "" ∧ options ≠ [] ∧ closest "servr" options "?" = "server" ∧
      IsLeast {n | Edits n "servr".toList "server".toList} 1 ∧
      ∃ before after, options = before ++ "server" :: after ∧
        ∀ option ∈ before, 1 < distance "servr".toList option.toList := by
  intro options
  have hvalue : "servr" ≠ "" := by decide
  have hoptions : options ≠ [] := by simp [options]
  have hfound : closest "servr" options "?" = "server" := by decide
  have hone : distance "servr".toList "server".toList = 1 := by decide
  have hdiffers : agrees (Text.lowerChars "servr".toList) "server".toList = false := by
    decide
  obtain ⟨hleast, before, after, hsplit, hchoice⟩ := closest_first_fewest hvalue hoptions "?"
  rw [hfound] at hsplit hchoice
  dsimp only at hchoice
  refine ⟨hvalue, hoptions, hfound, hone ▸ hleast _ _, before, after, hsplit, ?_⟩
  rcases hchoice with ⟨hagrees, -⟩ | ⟨-, hbefore, -⟩
  · rw [hdiffers] at hagrees
    cases hagrees
  · intro option hoption
    have hfarther := hbefore option hoption
    rwa [hone] at hfarther

end ManifestLint.Suggestion
