import Mathlib.Data.List.Infix
import ManifestLint.Finding.Basic

/-!
# Placeholders that are left in a message

In the messages of this program every opening bracket stands in front of a name and a closing one.
Filling in a value without opening brackets keeps that, whatever the pattern is, and can only take
placeholders away: those of the name that is filled in, and more only if the pattern itself has a
closing bracket in it.

A message is therefore free of placeholders if each of its names is given a value.  It is not if
a name is left out of a mapping that has values only, and the one message with placeholders on its
first line shows them whenever a value is empty or there is none at all.

* `placeholdersIn`, `mem_placeholdersIn`: the placeholders that stand in a text.
* `replaceAll_kept`: how a text goes on where the pattern does not start.
* `regular_replaceAll`, `placeholdersIn_replaceAll`: what filling in one value does.
* `placeholders_left`: what is left in a message, for every mapping.
-/

namespace ManifestLint.Message

variable {c : Char} {name rest text value : List Char} {key : String}

/-! ## Placeholders of a text -/

/-- An angle bracket. -/
def isBracket (c : Char) : Bool := c = '<' || c = '>'

/-- The names of the placeholders that stand in a text.  A name is what stands between an opening
bracket and the next bracket, which is a closing one. -/
def placeholdersIn : List Char → List String
  | [] => []
  | c :: rest =>
    if c = '<' ∧ rest.find? isBracket = some '>' then
      .ofList (rest.takeWhile (!isBracket ·)) :: placeholdersIn rest
    else placeholdersIn rest

/-- Every opening bracket of a text opens a placeholder. -/
def Regular : List Char → Prop
  | [] => True
  | c :: rest => (c = '<' → rest.find? isBracket = some '>') ∧ Regular rest

instance Regular.decidable : (text : List Char) → Decidable (Regular text)
  | [] => .isTrue trivial
  | c :: rest =>
    have := Regular.decidable rest
    inferInstanceAs (Decidable ((c = '<' → rest.find? isBracket = some '>') ∧ Regular rest))

theorem find?_isBracket_iff : text.find? isBracket = some '>' ↔
    ∃ name rest, text = name ++ '>' :: rest ∧ '<' ∉ name ∧ '>' ∉ name := by
  simp only [List.find?_eq_some_iff_append]
  constructor
  · rintro ⟨-, name, rest, rfl, hname⟩
    exact ⟨name, rest, rfl, fun h => by simpa [isBracket] using hname _ h,
      fun h => by simpa [isBracket] using hname _ h⟩
  · rintro ⟨name, rest, rfl, hopen, hclose⟩
    refine ⟨rfl, name, rest, rfl, fun c hc => ?_⟩
    simp only [isBracket, Bool.not_eq_true', Bool.or_eq_false_iff, decide_eq_false_iff_not]
    exact ⟨fun h => hopen (h ▸ hc), fun h => hclose (h ▸ hc)⟩

/-- A text without opening brackets has no placeholders and adds none to what stands behind it. -/
theorem placeholdersIn_append (h : '<' ∉ name) :
    placeholdersIn (name ++ rest) = placeholdersIn rest := by
  induction name with
  | nil => rfl
  | cons c more ih =>
      have hc : c ≠ '<' := fun hc => h (hc ▸ List.mem_cons_self)
      rw [List.cons_append, placeholdersIn, if_neg (fun hopen => hc hopen.1),
        ih (fun hmem => h (List.mem_cons_of_mem _ hmem))]

theorem takeWhile_name (hopen : '<' ∉ name) (hclose : '>' ∉ name) :
    (name ++ '>' :: rest).takeWhile (!isBracket ·) = name := by
  rw [List.takeWhile_append_of_pos, List.takeWhile_cons_of_neg (by decide), List.append_nil]
  intro c hc
  simp only [isBracket, Bool.not_eq_true', Bool.or_eq_false_iff, decide_eq_false_iff_not]
  exact ⟨fun h => hopen (h ▸ hc), fun h => hclose (h ▸ hc)⟩

theorem placeholdersIn_closing (h : '<' ∉ name) :
    placeholdersIn (name ++ '>' :: rest) = placeholdersIn rest := by
  rw [List.append_cons, placeholdersIn_append (by simp [h])]

theorem placeholdersIn_opening (hopen : '<' ∉ name) (hclose : '>' ∉ name) :
    placeholdersIn ('<' :: (name ++ '>' :: rest)) = .ofList name :: placeholdersIn rest := by
  rw [placeholdersIn, if_pos ⟨rfl, find?_isBracket_iff.mpr ⟨name, rest, rfl, hopen, hclose⟩⟩,
    takeWhile_name hopen hclose, placeholdersIn_closing hopen]

theorem placeholdersIn_sublist (h : rest <:+ text) :
    (placeholdersIn rest).Sublist (placeholdersIn text) := by
  induction text with
  | nil => rw [List.suffix_nil.mp h]
  | cons c more ih =>
      rcases List.suffix_cons_iff.mp h with rfl | hmore
      · exact .refl _
      · rw [placeholdersIn]
        split
        · exact (ih hmore).trans (List.sublist_cons_self ..)
        · exact ih hmore

/-- A placeholder is in a text iff its name has no brackets and stands there between two. -/
theorem mem_placeholdersIn : key ∈ placeholdersIn text ↔
    '<' ∉ key.toList ∧ '>' ∉ key.toList ∧ placeholder key <:+: text := by
  constructor
  · intro h
    induction text with
    | nil => cases h
    | cons c rest ih =>
        have hlater (hrest : key ∈ placeholdersIn rest) :
            '<' ∉ key.toList ∧ '>' ∉ key.toList ∧ placeholder key <:+: c :: rest :=
          (ih hrest).imp_right (.imp_right fun h => h.trans (List.suffix_cons c rest).isInfix)
        rw [placeholdersIn] at h
        split at h
        case isFalse => exact hlater h
        case isTrue hhere =>
          refine (List.mem_cons.mp h).elim (fun hfirst => ?_) hlater
          obtain ⟨rfl, hnext⟩ := hhere
          obtain ⟨name, more, rfl, hopen, hclose⟩ := find?_isBracket_iff.mp hnext
          rw [takeWhile_name hopen hclose] at hfirst
          rw [hfirst, String.toList_ofList]
          exact ⟨hopen, hclose, [], more, by simp [placeholder]⟩
  · rintro ⟨hopen, hclose, before, after, rfl⟩
    have hsuffix : placeholder key ++ after <:+ before ++ placeholder key ++ after :=
      ⟨before, by simp⟩
    refine (placeholdersIn_sublist hsuffix).subset ?_
    rw [placeholder, List.append_assoc, List.cons_append, List.singleton_append,
      placeholdersIn_opening hopen hclose, String.ofList_toList]
    exact List.mem_cons_self

theorem Regular.suffix (h : Regular text) (hsuffix : rest <:+ text) : Regular rest := by
  induction text with
  | nil => rwa [List.suffix_nil.mp hsuffix]
  | cons c more ih =>
      rcases List.suffix_cons_iff.mp hsuffix with rfl | hmore
      · exact h
      · exact ih h.2 hmore

theorem regular_append (h : '<' ∉ name) (hrest : Regular rest) : Regular (name ++ rest) := by
  induction name with
  | nil => exact hrest
  | cons c more ih =>
      exact ⟨fun hc => absurd (hc ▸ List.mem_cons_self) h,
        ih fun hmem => h (List.mem_cons_of_mem _ hmem)⟩

/-! ## Filling in one value -/

theorem replaceAll_append (h : '<' ∉ name) : replaceAll (placeholder key) value (name ++ rest)
    = name ++ replaceAll (placeholder key) value rest := by
  induction name with
  | nil => rfl
  | cons c more ih =>
      have hc : '<' ≠ c := fun hc => h (hc ▸ List.mem_cons_self)
      have hnot : ¬(placeholder key).isPrefixOf (c :: (more ++ rest)) = true := by
        simp [placeholder, hc]
      rw [List.cons_append, replaceAll, if_neg hnot, ih fun hmem => h (List.mem_cons_of_mem _ hmem),
        List.cons_append]

theorem replaceAll_closing (h : '<' ∉ name) :
    replaceAll (placeholder key) value (name ++ '>' :: rest)
      = name ++ '>' :: replaceAll (placeholder key) value rest := by
  rw [List.append_cons, replaceAll_append (by simp [h]), ← List.append_cons]

theorem placeholder_isPrefixOf :
    (placeholder (.ofList name)).isPrefixOf ('<' :: (name ++ '>' :: rest)) = true := by
  rw [List.isPrefixOf_iff_prefix]
  exact ⟨rest, by simp [placeholder]⟩

/-- Where the pattern does not start, a regular text goes on as before: with a plain character, or
with a bracket that opens another placeholder. -/
theorem replaceAll_kept (value : List Char) (hregular : Regular (c :: rest))
    (hnot : ¬(placeholder key).isPrefixOf (c :: rest) = true) :
    (c = '<' → (replaceAll (placeholder key) value rest).find? isBracket = some '>') ∧
      ∃ here : List String, here.filter (· ≠ key) = here ∧
        placeholdersIn (c :: rest) = here ++ placeholdersIn rest ∧
        placeholdersIn (c :: replaceAll (placeholder key) value rest)
          = here ++ placeholdersIn (replaceAll (placeholder key) value rest) := by
  by_cases hc : c = '<'
  · subst hc
    obtain ⟨name, more, rfl, hopen, hclose⟩ := find?_isBracket_iff.mp (hregular.1 rfl)
    have hother : String.ofList name ≠ key := fun h => hnot (h ▸ placeholder_isPrefixOf)
    rw [replaceAll_closing hopen]
    refine ⟨fun _ => find?_isBracket_iff.mpr ⟨_, _, rfl, hopen, hclose⟩, [.ofList name],
      by simp [hother], ?_, ?_⟩
    · rw [placeholdersIn_opening hopen hclose, placeholdersIn_closing hopen, List.singleton_append]
    · rw [placeholdersIn_opening hopen hclose, placeholdersIn_closing hopen, List.singleton_append]
  · refine ⟨fun h => absurd h hc, [], rfl, ?_, ?_⟩
    · rw [placeholdersIn, if_neg fun h => hc h.1, List.nil_append]
    · rw [placeholdersIn, if_neg fun h => hc h.1, List.nil_append]

/-- **One step.**  Filling in a value keeps a text regular, and the placeholders that are left are
other ones that were there before. -/
theorem regular_replaceAll (key : String) (hvalue : '<' ∉ value) (hregular : Regular text) :
    Regular (replaceAll (placeholder key) value text) ∧
      (placeholdersIn (replaceAll (placeholder key) value text)).Sublist
        ((placeholdersIn text).filter (· ≠ key)) := by
  fun_induction replaceAll (placeholder key) value text with
  | case1 => exact ⟨trivial, .refl _⟩
  | case2 c rest hprefix ih =>
      have hsuffix : rest.drop ((placeholder key).length - 1) <:+ c :: rest :=
        (List.drop_suffix ..).trans (List.suffix_cons ..)
      obtain ⟨hrest, hfewer⟩ := ih (hregular.suffix hsuffix)
      rw [placeholdersIn_append hvalue]
      exact ⟨regular_append hvalue hrest,
        hfewer.trans ((placeholdersIn_sublist hsuffix).filter _)⟩
  | case3 c rest hnot ih =>
      obtain ⟨hrest, hfewer⟩ := ih hregular.2
      obtain ⟨hopens, here, hothers, hbefore, hafter⟩ := replaceAll_kept value hregular hnot
      rw [hbefore, hafter, List.filter_append, hothers]
      exact ⟨⟨hopens, hrest⟩, hfewer.append_left here⟩

/-- A pattern without a closing bracket inside takes only its own placeholder away. -/
theorem placeholdersIn_replaceAll (hvalue : '<' ∉ value) (hkey : '>' ∉ key.toList)
    (hregular : Regular text) : placeholdersIn (replaceAll (placeholder key) value text)
      = (placeholdersIn text).filter (· ≠ key) := by
  fun_induction replaceAll (placeholder key) value text with
  | case1 => rfl
  | case2 c rest hprefix ih =>
      obtain ⟨more, hmore⟩ := List.isPrefixOf_iff_prefix.mp hprefix
      obtain ⟨rfl, rfl⟩ : '<' = c ∧ key.toList ++ '>' :: more = rest := by
        simpa [placeholder] using hmore
      have hopen : '<' ∉ key.toList := by
        intro hmem
        have hsome : (key.toList.find? isBracket).isSome := List.find?_isSome.mpr ⟨'<', hmem, rfl⟩
        obtain ⟨bracket, hbracket⟩ := Option.isSome_iff_exists.mp hsome
        have hnext := hregular.1 rfl
        rw [List.find?_append, hbracket, Option.some_or, Option.some.injEq] at hnext
        exact hkey (hnext ▸ List.mem_of_find?_eq_some hbracket)
      have hdrop : (key.toList ++ '>' :: more).drop ((placeholder key).length - 1) = more := by
        simp [placeholder]
      rw [hdrop] at ih ⊢
      rw [placeholdersIn_append hvalue, placeholdersIn_opening hopen hkey, String.ofList_toList,
        List.filter_cons_of_neg (by simp)]
      exact ih (hregular.suffix ⟨'<' :: key.toList ++ ['>'], by simp⟩)
  | case3 c rest hnot ih =>
      obtain ⟨-, here, hothers, hbefore, hafter⟩ := replaceAll_kept value hregular hnot
      rw [hbefore, hafter, ih hregular.2, List.filter_append, hothers]

/-! ## Messages -/

/-- Only the first line of a message is shown: nothing is filled in, or an empty value. -/
def FallsBack (substitutions : Substitutions) : Prop :=
  substitutions = [] ∨ ∃ pair ∈ substitutions, pair.2 = ""

variable {substitutions : Substitutions} {code : Code}

theorem render_of_fallsBack (h : FallsBack substitutions) :
    (render code substitutions).toList = firstLine code.template.toList := by
  have hback : (substitutions.isEmpty || substitutions.any (·.2 = "")) = true := by
    simpa [FallsBack] using h
  rw [render, if_pos hback, String.toList_ofList]

theorem render_of_not_fallsBack (h : ¬FallsBack substitutions) :
    (render code substitutions).toList = substitutions.foldl (fun message pair =>
      replaceAll (placeholder pair.1) pair.2.toList message) code.template.toList := by
  have hfull : ¬(substitutions.isEmpty || substitutions.any (·.2 = "")) = true := by
    simpa [FallsBack] using h
  rw [render, if_neg hfull, String.toList_ofList]

/-- **All steps.**  After all values are filled in, the placeholders that are left are those of
other names; all of them, if no pattern has a closing bracket inside. -/
theorem placeholdersIn_foldl (hvalues : ∀ pair ∈ substitutions, '<' ∉ pair.2.toList)
    (hregular : Regular text) :
    let filled := substitutions.foldl (fun message pair =>
      replaceAll (placeholder pair.1) pair.2.toList message) text
    let others := (placeholdersIn text).filter (· ∉ substitutions.keys)
    (placeholdersIn filled).Sublist others ∧
      ((∀ pair ∈ substitutions, '>' ∉ pair.1.toList) → placeholdersIn filled = others) := by
  induction substitutions generalizing text with
  | nil => simp [Entries.keys]
  | cons pair rest ih =>
      obtain ⟨hvalue, hrest⟩ := List.forall_mem_cons.mp hvalues
      obtain ⟨hstep, hfewer⟩ := regular_replaceAll pair.1 hvalue hregular
      obtain ⟨hsublist, hall⟩ := ih hrest hstep
      have hothers : (placeholdersIn text).filter (· ∉ Entries.keys (pair :: rest))
          = ((placeholdersIn text).filter (· ≠ pair.1)).filter (· ∉ Entries.keys rest) := by
        have hkeys : Entries.keys (pair :: rest) = pair.1 :: Entries.keys rest := rfl
        simp [hkeys, List.filter_filter, Bool.and_comm]
      simp only [List.foldl_cons, hothers]
      refine ⟨hsublist.trans (hfewer.filter _), fun hkeys => ?_⟩
      obtain ⟨hkey, hkeys⟩ := List.forall_mem_cons.mp hkeys
      rw [hall hkeys, placeholdersIn_replaceAll hvalue hkey hregular]

/-- The messages of this program are regular, and one has placeholders on its first line. -/
theorem template_chars (h : code ∈ Code.known) : ∃ chars, code.template = .ofList chars ∧
    Regular chars ∧ placeholdersIn (firstLine chars)
      = if code = .misplaced then ["REALM_NAME", "REALM_CURRENT"] else [] := by
  cases code with
  | other => simp [Code.known] at h
  | misplaced => exact ⟨_, String.ofList_append.symm, by decide +kernel, by decide⟩
  | _ => exact ⟨_, rfl, by decide, by decide⟩

/-- **What is left of a message.**  If only its first line is shown, placeholders are left in the
message of a dependency in the wrong table, and in no other.  If values are filled in, no other
placeholders are left than those whose names are given no value; and all of those are left, unless
a name is given that has a closing bracket in it.  Hence a message in which values are filled in is
free of placeholders if every name in it is given one, and for names without brackets only then. -/
theorem placeholders_left (hcode : code ∈ Code.known)
    (hvalues : ∀ pair ∈ substitutions, '<' ∉ pair.2.toList) :
    let left := placeholdersIn (render code substitutions).toList
    let missing := (placeholdersIn code.template.toList).filter (· ∉ substitutions.keys)
    (FallsBack substitutions →
      left = if code = .misplaced then ["REALM_NAME", "REALM_CURRENT"] else []) ∧
    (¬FallsBack substitutions →
      left.Sublist missing ∧
      ((∀ pair ∈ substitutions, '>' ∉ pair.1.toList) → left = missing)) := by
  obtain ⟨chars, htemplate, hregular, hfirst⟩ := template_chars hcode
  refine ⟨fun hback => ?_, fun hfull => ?_⟩
  · rw [render_of_fallsBack hback, htemplate, String.toList_ofList, hfirst]
  · rw [render_of_not_fallsBack hfull, htemplate, String.toList_ofList]
    exact placeholdersIn_foldl hvalues hregular

/-- A realm and a table are given, the table to list the dependency under is not. -/
theorem placeholder_of_section_left :
    placeholdersIn (render .misplaced [("REALM_NAME", "server"), ("REALM_CURRENT", "a > b")]).toList
      = ["REALM_SECTION"] := by
  have hnot : ¬FallsBack [("REALM_NAME", "server"), ("REALM_CURRENT", "a > b")] := by
    simp [FallsBack]
  have hcode : Code.misplaced ∈ Code.known := by decide
  obtain ⟨-, hall⟩ := (placeholders_left hcode (by decide)).2 hnot
  rw [hall (by decide)]
  decide +kernel

/-- The message about an invalid author is shown with its placeholder if a value is given for
another name only, and the message about a wrong table if nothing is given. -/
theorem placeholders_shown :
    render .invalidAuthor [("REALM_NAME", "server")]
      = "Invalid package author.\nDid you mean `<PACKAGE_AUTHOR>`?" ∧
    render .misplaced []
      = "Package is a `<REALM_NAME>` dependency but was listed in `<REALM_CURRENT>`." ∧
    ¬∀ code ∈ Code.known, ∀ substitutions : Substitutions,
      (∀ pair ∈ substitutions, '<' ∉ pair.2.toList) →
        placeholdersIn (render code substitutions).toList = [] := by
  have hauthor : Code.invalidAuthor.template = .ofList _ := rfl
  have hshown : render .invalidAuthor [("REALM_NAME", "server")] = Code.invalidAuthor.template := by
    rw [render, hauthor, String.toList_ofList]
    decide +kernel
  refine ⟨hshown, by decide +kernel, fun hnone => ?_⟩
  have hempty := hnone .invalidAuthor (by decide) [("REALM_NAME", "server")] (by decide)
  rw [hshown, hauthor, String.toList_ofList] at hempty
  exact absurd hempty (by decide)

end ManifestLint.Message
