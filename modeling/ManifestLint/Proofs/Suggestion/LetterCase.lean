import ManifestLint.Proofs.Suggestion.Edits
import ManifestLint.Proofs.Text.LowerCase
import ManifestLint.Text.Ascii

/-!
# Suggestions and letter case

Options are named in lower case, and what was typed may be in any.  The letter case makes no
difference as long as an option agrees with the text: the text is put in lower case first.  The
edit distance, though, is that of the text as it was typed.  A capital letter is none of the
letters of an option, so each one costs an edit, and an option that has the letter is no closer
than one that has another letter in its place.

That is enough to lead astray: whatever the text is, if it has a capital letter, there are two
options of which the one is the closest to the text, and the other one to the same text in
lower case.

* `IsNearest.unique`: the first option at the least distance is one option.
* `closestChars_lowerChars_iff`: when the letter case makes no difference to some options.
* `Aligned.length_add_capitals_le`: what capital letters cost.
* `exists_misled`: the two options.
* `closest_lower_iff`: when it makes no difference to any options.
-/

namespace ManifestLint

namespace Suggestion

open ManifestLint.Text

/-! ## The same options -/

theorem IsNearest.mem {text found : List Char} {options : List (List Char)}
    (h : IsNearest text options found) : found ∈ options := by
  obtain ⟨before, after, rfl, -, -⟩ := h
  exact List.mem_append_right before List.mem_cons_self

/-- The first option at the least distance is one option. -/
theorem IsNearest.unique {text found other : List Char} {options : List (List Char)}
    (h : IsNearest text options found) (hother : IsNearest text options other) :
    found = other := by
  have hle := h.le hother.mem
  have hge := hother.le h.mem
  obtain ⟨before, after, hsplit, hbefore, -⟩ := h
  obtain ⟨first, last, hsame, hfirst, -⟩ := hother
  -- whichever comes first would have to be nearer than the other one
  rw [hsplit] at hsame
  rcases List.append_eq_append_iff.mp hsame with ⟨between, rfl, hrest⟩ | ⟨between, rfl, hrest⟩
  · cases between with
    | nil => exact (List.cons.inj hrest).1
    | cons option rest =>
        obtain rfl := (List.cons.inj hrest).1
        have hnearer := hfirst found (by simp)
        omega
  · cases between with
    | nil => exact (List.cons.inj hrest).1.symm
    | cons option rest =>
        obtain rfl := (List.cons.inj hrest).1
        have hnearer := hbefore other (by simp)
        omega

variable {text : List Char} {options : List (List Char)}

/-- The closest option is the first one that agrees, or else the nearest one. -/
theorem closestChars_cons (htext : text ≠ []) (option : List Char) (rest : List (List Char))
    (fallback : List Char) :
    closestChars text (option :: rest) fallback =
      ((option :: rest).find? (agrees (lowerChars text))).getD (nearest text option rest) := by
  obtain ⟨c, more, rfl⟩ := List.exists_cons_of_ne_nil htext
  simp only [closestChars]
  cases (option :: rest).find? (agrees (lowerChars (c :: more))) <;> rfl

/-- **The same options.**  It makes no difference whether a text is in lower case if and only if
some option agrees with it, or what is nearest to it in lower case is nearest to it as it is. -/
theorem closestChars_lowerChars_iff (htext : text ≠ []) (hoptions : options ≠ [])
    (fallback : List Char) :
    closestChars text options fallback = closestChars (lowerChars text) options fallback ↔
      (∃ option ∈ options, agrees (lowerChars text) option = true) ∨
        IsNearest text options (closestChars (lowerChars text) options fallback) := by
  obtain ⟨option, rest, rfl⟩ := List.exists_cons_of_ne_nil hoptions
  have hlowered : lowerChars text ≠ [] := lowerFrom_ne_nil htext
  rw [closestChars_cons htext, closestChars_cons hlowered, lowerChars_lowerChars]
  cases hfind : (option :: rest).find? (agrees (lowerChars text)) with
  | some first =>
      refine iff_of_true rfl (.inl ⟨first, List.mem_of_find?_eq_some hfind, ?_⟩)
      exact List.find?_some hfind
  | none =>
      have hnone : ¬ ∃ other ∈ option :: rest, agrees (lowerChars text) other = true := by
        rintro ⟨other, hmem, hagrees⟩
        exact List.find?_eq_none.mp hfind other hmem hagrees
      have hnearest : IsNearest text (option :: rest) (nearest text option rest) :=
        isNearest_nearest text option rest
      rw [or_iff_right hnone]
      exact ⟨fun hsame => hsame ▸ hnearest, hnearest.unique⟩

/-! ## What capital letters cost -/

theorem toLower_of_not_isUpper {c : Char} (h : ¬ c.isUpper = true) : c.toLower = c := by
  have hrange : ¬ (c.val ≥ 'A'.val ∧ c.val ≤ 'Z'.val) := fun hcapital =>
    h (decide_eq_true hcapital)
  exact dif_neg hrange

theorem ascii_isUpper : ∀ code < 0x80, (Char.ofNat code).toLower.isUpper = false := by
  decide

/-- The number of capital letters in a text. -/
def capitals (text : List Char) : Nat := text.countP (·.isUpper)

/-- Whether a text is of ASCII and has no capital letter. -/
def isSmall (text : List Char) : Bool := text.all fun c => isAscii c && !c.isUpper

theorem isSmall_iff : isSmall text = true ↔ ∀ c ∈ text, c.toNat < 0x80 ∧ c.isUpper = false := by
  simp [isSmall, isAscii]

/-- What is aligned with a text in small letters has a letter of its own for each of them, or
pays for it. -/
theorem Aligned.length_add_capitals_le {n : Nat} {a b : List Char} (h : Aligned n a b)
    (hsmall : ∀ c ∈ b, c.isUpper = false) : b.length + capitals a ≤ n + a.length := by
  induction h with
  | nil => exact le_rfl
  | keep c h ih =>
      have hlast : c.isUpper = false := hsmall c (by simp)
      have hbefore := ih fun d hd => hsmall d (by simp [hd])
      simp only [capitals, List.countP_append, List.countP_singleton, List.length_append,
        List.length_singleton, hlast] at hbefore ⊢
      simp only [Bool.false_eq_true, if_false]
      omega
  | replace c d h ih =>
      have hbefore := ih fun e he => hsmall e (by simp [he])
      simp only [capitals, List.countP_append, List.countP_singleton, List.length_append,
        List.length_singleton] at hbefore ⊢
      split <;> omega
  | delete c h ih =>
      have hbefore := ih hsmall
      simp only [capitals, List.countP_append, List.countP_singleton, List.length_append,
        List.length_singleton] at hbefore ⊢
      split <;> omega
  | insert d h ih =>
      have hbefore := ih fun e he => hsmall e (by simp [he])
      simp only [capitals, List.length_append, List.length_singleton] at hbefore ⊢
      omega

/-- Put in lower case, every capital letter is replaced and all else is kept. -/
theorem aligned_map_toLower (a : List Char) : Aligned (capitals a) a (a.map Char.toLower) := by
  induction a using List.reverseRecOn with
  | nil => exact .nil
  | append_singleton a c ih =>
      rw [capitals, List.countP_append, List.countP_singleton, List.map_append,
        List.map_singleton]
      by_cases hupper : c.isUpper = true
      · rw [if_pos hupper]
        exact .replace c _ ih
      · rw [if_neg hupper, toLower_of_not_isUpper hupper]
        exact .keep c ih

/-- A text that is one longer and one edit away has one character more. -/
theorem exists_inserted {a b : List Char} (hlength : b.length = a.length + 1)
    (hnear : distance a b ≤ 1) :
    ∃ before after c, a = before ++ after ∧ b = before ++ c :: after := by
  have hedits : Edits (distance a b) a b := (fewest_distance a b).isLeast_edits.1
  generalize distance a b = n at hnear hedits
  cases hedits with
  | none => omega
  | @more n _ middle _ hbefore hedit =>
      obtain rfl : n = 0 := by omega
      cases hbefore
      cases hedit with
      | insertion before after c => exact ⟨before, after, c, rfl, rfl⟩
      | deletion before after c => simp at hlength; omega
      | replacement before after c d => simp at hlength

/-! ## Two options -/

/-- Another letter. -/
def otherLetter (c : Char) : Char := if c = 'a' then 'b' else 'a'

theorem otherLetter_ne (c : Char) : otherLetter c ≠ c := by
  unfold otherLetter
  split
  · next hsame => rw [hsame]; decide
  · next hother => exact fun hsame => hother hsame.symm

theorem otherLetter_small (c : Char) :
    (otherLetter c).toNat < 0x80 ∧ (otherLetter c).isUpper = false := by
  unfold otherLetter
  split <;> decide

theorem toLower_small {c : Char} (hascii : c.toNat < 0x80) :
    c.toLower.toNat < 0x80 ∧ c.toLower.isUpper = false := by
  have htable := ascii_toLower c.toNat hascii
  have hupper := ascii_isUpper c.toNat hascii
  rw [Char.ofNat_toNat] at htable hupper
  exact ⟨htable.2.1, hupper⟩

theorem isSmall_map_toLower (hascii : ∀ c ∈ text, c.toNat < 0x80) :
    isSmall (text.map Char.toLower) = true := by
  refine isSmall_iff.mpr fun c hc => ?_
  obtain ⟨d, hd, rfl⟩ := List.mem_map.mp hc
  exact toLower_small (hascii d hd)

/-- Small letters are as they are in lower case. -/
theorem lowerChars_of_isSmall (h : isSmall text = true) : lowerChars text = text := by
  rw [isSmall_iff] at h
  have hascii : ∀ c ∈ text, c.toNat < 0x80 := fun c hc => (h c hc).1
  rw [lowerChars, lowerFrom_ascii [] text hascii]
  refine (List.map_congr_left fun c hc => ?_).trans (List.map_id text)
  exact toLower_of_not_isUpper (by simp [(h c hc).2])

/-- An option with another letter in front does not agree. -/
theorem agrees_cons_eq_false {c d : Char} {rest option : List Char} (hother : d ≠ c)
    (hsmall : isSmall (d :: option) = true) : agrees (c :: rest) (d :: option) = false := by
  have hshared : ∃ shared, min (c :: rest).length (d :: option).length = shared + 1 :=
    ⟨min rest.length option.length, by simp only [List.length_cons]; omega⟩
  obtain ⟨shared, hshared⟩ := hshared
  have hpart : isSmall ((d :: option).take (shared + 1)) = true :=
    isSmall_iff.mpr fun e he => isSmall_iff.mp hsmall e (List.mem_of_mem_take he)
  rw [agrees, hshared, lowerChars_of_isSmall hpart, List.take_succ_cons, List.take_succ_cons]
  simp [hother.symm]

/-- An option in small letters that is one longer than a text is no nearer than one edit for each
capital letter and one more. -/
theorem distance_eq_of_aligned {option : List Char} (hsmall : isSmall option = true)
    (hlong : option.length = text.length + 1)
    (haligned : Aligned (1 + capitals text) text option) :
    distance text option = 1 + capitals text := by
  have hleast : Fewest (1 + capitals text) text option := by
    refine ⟨haligned, fun k hk => ?_⟩
    have hpaid := Aligned.length_add_capitals_le hk fun c hc => (isSmall_iff.mp hsmall c hc).2
    omega
  exact (fewest_distance text option).unique hleast

theorem distance_cons_le (d : Char) (text : List Char) : distance text (d :: text) ≤ 1 := by
  have hinserted : Aligned 1 text (d :: text) := by
    simpa using (Aligned.insert d .nil).append (Aligned.refl text)
  exact (fewest_distance _ _).2 hinserted

/-- Another letter in front of another text takes more than one edit. -/
theorem one_lt_distance_cons {c d : Char} {rest option : List Char} (hother : d ≠ c)
    (hlength : option.length = (c :: rest).length) (hne : c :: rest ≠ option) :
    1 < distance (c :: rest) (d :: option) := by
  refine Nat.lt_of_not_le fun hnear => ?_
  obtain ⟨early, late, inserted, htext, hmore⟩ :=
    exists_inserted (by rw [List.length_cons, hlength]) hnear
  cases early with
  | nil =>
      obtain ⟨-, hlate⟩ := List.cons.inj hmore
      exact hne (htext.trans hlate.symm)
  | cons e early =>
      obtain ⟨hletter, -⟩ := List.cons.inj hmore
      obtain ⟨hsame, -⟩ := List.cons.inj htext
      exact hother (hletter.trans hsame.symm)

section Respelt

variable {before after : List Char} {capital : Char}

/-- A text in lower case, but for one character that is written as a given letter. -/
def respelt (before : List Char) (letter : Char) (after : List Char) : List Char :=
  before.map Char.toLower ++ letter :: after.map Char.toLower

theorem length_respelt (capital letter : Char) :
    (respelt before letter after).length = (before ++ capital :: after).length := by
  simp [respelt]

theorem respelt_ne {letter other : Char} (h : letter ≠ other) :
    respelt before letter after ≠ respelt before other after := fun hsame =>
  h (List.cons.inj (List.append_cancel_left hsame)).1

theorem isSmall_respelt (hbefore : ∀ c ∈ before, c.toNat < 0x80)
    (hafter : ∀ c ∈ after, c.toNat < 0x80) {letter : Char}
    (hletter : letter.toNat < 0x80 ∧ letter.isUpper = false) :
    isSmall (respelt before letter after) = true := by
  refine isSmall_iff.mpr fun c hc => ?_
  rcases List.mem_append.mp hc with hearly | hlate
  · exact isSmall_iff.mp (isSmall_map_toLower hbefore) c hearly
  · rcases List.mem_cons.mp hlate with rfl | hlate
    · exact hletter
    · exact isSmall_iff.mp (isSmall_map_toLower hafter) c hlate

/-- All capital letters are replaced, whatever one of them by, and a letter is inserted in
front. -/
theorem aligned_respelt (hupper : capital.isUpper = true) (d letter : Char) :
    Aligned (1 + capitals (before ++ capital :: after)) (before ++ capital :: after)
      (d :: respelt before letter after) := by
  have hfront : Aligned 1 [] [d] := .insert d .nil
  have hcapital : Aligned 1 [capital] [letter] := .replace capital letter .nil
  have hwhole := hfront.append
    ((aligned_map_toLower before).append (hcapital.append (aligned_map_toLower after)))
  have hcount : capitals (before ++ capital :: after) =
      capitals before + (1 + capitals after) := by
    simp only [capitals, List.countP_append, List.countP_cons, hupper, if_true]
    omega
  rw [hcount]
  simpa [respelt] using hwhole

/-- **Two options.**  Of a text with a capital letter there are two options of which the first
is as near to the text as the second, but the second one is nearer to it in lower case. -/
theorem exists_misled (hascii : ∀ c ∈ text, c.toNat < 0x80)
    (hsplit : text = before ++ capital :: after) (hupper : capital.isUpper = true) :
    ∃ first second, isSmall first = true ∧ isSmall second = true ∧ first ≠ second ∧
      agrees (lowerChars text) first = false ∧ agrees (lowerChars text) second = false ∧
      distance text first = distance text second ∧
      distance (lowerChars text) second < distance (lowerChars text) first := by
  subst hsplit
  have hlowered : lowerChars (before ++ capital :: after) =
      respelt before capital.toLower after := by
    rw [respelt, lowerChars, lowerFrom_ascii [] _ hascii, List.map_append, List.map_cons]
  obtain ⟨head, rest, hhead⟩ : ∃ head rest, respelt before capital.toLower after = head :: rest :=
    List.exists_cons_of_ne_nil (by simp [respelt])
  -- both have another letter in front, and the first also has one in the capital letter's place
  let d := otherLetter head
  let x := otherLetter capital.toLower
  have hsmall {letter : Char} (hletter : letter.toNat < 0x80 ∧ letter.isUpper = false) :
      isSmall (d :: respelt before letter after) = true := by
    have hbefore : ∀ c ∈ before, c.toNat < 0x80 := fun c hc => hascii c (by simp [hc])
    have hafter : ∀ c ∈ after, c.toNat < 0x80 := fun c hc => hascii c (by simp [hc])
    exact isSmall_iff.mpr (List.forall_mem_cons.mpr
      ⟨otherLetter_small head, isSmall_iff.mp (isSmall_respelt hbefore hafter hletter)⟩)
  have hfirst : isSmall (d :: respelt before x after) = true := hsmall (otherLetter_small _)
  have hsecond : isSmall (d :: respelt before capital.toLower after) = true :=
    hsmall (toLower_small (hascii capital (by simp)))
  have hdistance {letter : Char} (hletter : isSmall (d :: respelt before letter after) = true) :
      distance (before ++ capital :: after) (d :: respelt before letter after) =
        1 + capitals (before ++ capital :: after) :=
    distance_eq_of_aligned hletter (congrArg (· + 1) (length_respelt capital letter))
      (aligned_respelt hupper d letter)
  have hne : respelt before capital.toLower after ≠ respelt before x after :=
    respelt_ne (otherLetter_ne _).symm
  refine ⟨d :: respelt before x after, d :: respelt before capital.toLower after, hfirst, hsecond,
    fun hsame => hne (List.cons.inj hsame).2.symm, ?_, ?_, ?_, ?_⟩
  · rw [hlowered, hhead]
    exact agrees_cons_eq_false (otherLetter_ne head) hfirst
  · rw [hhead] at hsecond
    rw [hlowered, hhead]
    exact agrees_cons_eq_false (otherLetter_ne head) hsecond
  · rw [hdistance hfirst, hdistance hsecond]
  · have hlength : (respelt before x after).length = (head :: rest).length := by
      rw [← hhead, length_respelt capital, length_respelt capital]
    have hnear := distance_cons_le d (respelt before capital.toLower after)
    rw [hhead] at hne hnear
    rw [hlowered, hhead]
    exact hnear.trans_lt (one_lt_distance_cons (otherLetter_ne head) hlength hne)

end Respelt

/-! ## Any options -/

/-- Of two options that do not agree the nearest one is the closest. -/
theorem closestChars_pair (htext : text ≠ []) {first second : List Char}
    (hfirst : agrees (lowerChars text) first = false)
    (hsecond : agrees (lowerChars text) second = false) (fallback : List Char) :
    closestChars text [first, second] fallback =
      if distance text second < distance text first then second else first := by
  rw [closestChars_cons htext, List.find?_cons, hfirst, List.find?_cons, hsecond,
    distance_comm text second, distance_comm text first]
  rfl

/-- **Letter case.**  Let something be typed in ASCII, and options be given in ASCII without
capital letters.  What is suggested is the same as for the text in lower case if and only if an
option agrees with the text, letter case aside, or the option that is nearest to the text in
lower case is also nearest to it as it was typed.  And for no other text than one in lower case
is it always the same. -/
theorem closest_lower_iff {value : String} (hvalue : value ≠ "")
    (hascii : value.toList.all isAscii = true) :
    let suits (options : List String) : Prop :=
      options ≠ [] ∧ ∀ option ∈ options, isSmall option.toList = true
    let blind (options : List String) (fallback : String) : Prop :=
      closest value options fallback = closest (lower value) options fallback
    (∀ options fallback, suits options →
      (blind options fallback ↔
        (∃ option ∈ options, agrees (lowerChars value.toList) option.toList = true) ∨
          IsNearest value.toList (options.map String.toList)
            (closest (lower value) options fallback).toList)) ∧
      ((∀ options fallback, suits options → blind options fallback) ↔ lower value = value) := by
  intro suits blind
  replace hascii : ∀ c ∈ value.toList, c.toNat < 0x80 := by simpa [isAscii] using hascii
  have htext : value.toList ≠ [] := by simpa using hvalue
  have hlower : (lower value).toList = lowerChars value.toList := String.toList_ofList
  have hblind (options : List String) (fallback : String) : blind options fallback ↔
      closestChars value.toList (options.map String.toList) fallback.toList =
        closestChars (lowerChars value.toList) (options.map String.toList) fallback.toList := by
    simp only [blind, closest, hlower, String.ofList_inj]
  refine ⟨fun options fallback hsuits => ?_, fun hall => ?_, fun hsame options fallback _ => ?_⟩
  · have hlists : options.map String.toList ≠ [] := by simpa using hsuits.1
    rw [hblind, closestChars_lowerChars_iff htext hlists, closest, String.toList_ofList, hlower]
    refine or_congr_left ?_
    simp only [List.mem_map, exists_exists_and_eq_and]
  · -- a capital letter would be led astray
    by_contra hother
    have hcapital : ∃ c ∈ value.toList, c.isUpper = true := by
      by_contra hnone
      push Not at hnone
      have hsmall : isSmall value.toList = true :=
        isSmall_iff.mpr fun c hc => ⟨hascii c hc, by simpa using hnone c hc⟩
      refine hother (String.toList_inj.mp ?_)
      rw [hlower, lowerChars_of_isSmall hsmall]
    obtain ⟨capital, hmem, hupper⟩ := hcapital
    obtain ⟨before, after, hsplit⟩ := List.append_of_mem hmem
    obtain ⟨first, second, hfirst, hsecond, hdistinct, hunlike, hunlikeSecond, hequal, hnearer⟩ :=
      exists_misled hascii hsplit hupper
    have hsuits : suits [.ofList first, .ofList second] := by
      refine ⟨List.cons_ne_nil _ _, ?_⟩
      simp only [List.mem_cons, List.not_mem_nil, or_false]
      rintro option (rfl | rfl)
      · rwa [String.toList_ofList]
      · rwa [String.toList_ofList]
    have hchars := (hblind _ "").mp (hall _ "" hsuits)
    simp only [List.map_cons, List.map_nil, String.toList_ofList] at hchars
    have hlowered : lowerChars value.toList ≠ [] := lowerFrom_ne_nil htext
    have hagain := lowerChars_lowerChars value.toList
    rw [closestChars_pair htext hunlike hunlikeSecond, closestChars_pair hlowered
      (hagain.symm ▸ hunlike) (hagain.symm ▸ hunlikeSecond), if_neg (by omega),
      if_pos hnearer] at hchars
    exact hdistinct hchars
  · simp only [blind, hsame]

/-- One capital letter is one edit more for every realm here, so that the nearest one stays the
nearest; but there are options for which it does not. -/
theorem closest_of_capital :
    let realms := ["shared", "server", "dev"]
    "Servr" ≠ "" ∧ "Servr".toList.all isAscii = true ∧
      closest "Servr" realms "?" = closest (lower "Servr") realms "?" ∧
      IsNearest "Servr".toList (realms.map String.toList) "server".toList ∧
      ∃ options fallback, options ≠ [] ∧
        (∀ option ∈ options, isSmall option.toList = true) ∧
        closest "Servr" options fallback ≠ closest (lower "Servr") options fallback := by
  intro realms
  have hvalue : "Servr" ≠ "" := by decide
  have hascii : "Servr".toList.all isAscii = true := by decide
  obtain ⟨hsame, halways⟩ := closest_lower_iff hvalue hascii
  have hclosest : closest (lower "Servr") realms "?" = "server" := by decide
  have hblind : closest "Servr" realms "?" = closest (lower "Servr") realms "?" := by
    decide
  have hunlike : ¬ ∃ option ∈ realms, agrees (lowerChars "Servr".toList) option.toList = true := by
    decide
  have hsuits : realms ≠ [] ∧ ∀ option ∈ realms, isSmall option.toList = true := by
    decide
  have hnearest := ((hsame realms "?" hsuits).mp hblind).resolve_left hunlike
  rw [hclosest] at hnearest
  refine ⟨hvalue, hascii, hblind, hnearest, ?_⟩
  have hother : lower "Servr" ≠ "Servr" := by decide
  by_contra hnone
  push Not at hnone
  exact hother (halways.mp fun options fallback hsuits => hnone options fallback hsuits.1 hsuits.2)

/-- A name with two letters the wrong way round, typed in capitals: no option has any of its
letters, so the first of two of the same length counts. -/
theorem capitals_misled :
    let names := ["blackmagi", "sleitnick"]
    "SLIETNICK".toList.all isAscii = true ∧ (∀ name ∈ names, isSmall name.toList = true) ∧
      closest "SLIETNICK" names "?" = "blackmagi" ∧
      closest (lower "SLIETNICK") names "?" = "sleitnick" := by
  decide

end Suggestion

end ManifestLint
