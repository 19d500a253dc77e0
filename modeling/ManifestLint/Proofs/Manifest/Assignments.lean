import Mathlib.Data.List.Infix
import ManifestLint.Proofs.Manifest.Dependencies

/-!
# What is read

The reader looks at three neighbouring tokens at a time.  Seen from the whole text this
comes to two lists: the assignments, each a key with a string, and the headings, each a path
of keys between square brackets.  The reader notices a heading only if its path is a single
bare key, and it takes an assignment for a member of the table it noticed last.

* `assignments`, `headings`: the two lists.
* `assignments_pairwise`: assignments never share a token.
* `get_dependencies_ofTokens`, `get_package_ofTokens`: what is read, told from these lists.
-/

namespace ManifestLint

open ManifestLint.Toml

/-! ## Names -/

theorem Realm.ofTable?_eq_some_iff {text : String} {realm : Realm} :
    ofTable? text = some realm ↔ text = realm.table := by
  constructor
  · intro h
    have hfound := List.find?_some h
    simpa [eq_comm] using hfound
  · rintro rfl
    cases realm <;> decide

theorem PackageKey.ofText?_eq_some_iff {text : String} {slot : PackageKey} :
    ofText? text = some slot ↔ text = slot.text := by
  constructor
  · intro h
    have hfound := List.find?_some h
    simpa [eq_comm] using hfound
  · rintro rfl
    cases slot <;> decide

theorem PackageKey.text_inj {slot other : PackageKey} (h : slot.text = other.text) :
    slot = other := by
  have hslot := ofText?_eq_some_iff.mpr h
  rw [ofText?_eq_some_iff.mpr rfl] at hslot
  exact Option.some.inj hslot

theorem Realm.table_inj {realm other : Realm} (h : realm.table = other.table) : realm = other := by
  have hrealm := ofTable?_eq_some_iff.mpr h
  rw [ofTable?_eq_some_iff.mpr rfl] at hrealm
  exact Option.some.inj hrealm

theorem Realm.table_ne_package (realm : Realm) : realm.table ≠ "package" := by
  cases realm <;> decide

namespace Manifest

/-! ## Assignments -/

/-- An assignment of a string: its key, its value and the tokens before them. -/
structure Assignment where
  before : List Token
  key : Token
  value : Token

/-- The assignments among tokens that follow others, in the order of the text. -/
def assignmentsFrom (before : List Token) : List Token → List Assignment
  | key :: equals :: value :: rest =>
    let others := assignmentsFrom (before ++ [key]) (equals :: value :: rest)
    if isAssignment key equals value then ⟨before, key, value⟩ :: others else others
  | _ => []

/-- The assignments among tokens. -/
def assignments (tokens : List Token) : List Assignment := assignmentsFrom [] tokens

namespace Assignment

/-- The key that is assigned to, without quotes. -/
def name (found : Assignment) : String := .ofList (stripQuotes found.key.text)

/-- An assignment stands among tokens, with an equals sign between its key and its value. -/
def StandsIn (found : Assignment) (tokens : List Token) : Prop :=
  ∃ equals after, isAssignment found.key equals found.value = true ∧
    tokens = found.before ++ found.key :: equals :: found.value :: after

/-- An assignment ends before another one begins. -/
def Precedes (first second : Assignment) : Prop :=
  ∃ equals between,
    second.before = first.before ++ first.key :: equals :: first.value :: between

end Assignment

/-- An assignment behind other tokens stands among those that follow. -/
theorem behind_of_mem {before tokens : List Token} {found : Assignment}
    (h : found ∈ assignmentsFrom before tokens) :
    ∃ passed equals after, found.before = before ++ passed ∧
      isAssignment found.key equals found.value = true ∧
        tokens = passed ++ found.key :: equals :: found.value :: after := by
  fun_induction assignmentsFrom before tokens with
  | case1 before key equals value rest others hassign ih =>
      rcases List.mem_cons.mp h with rfl | hother
      · exact ⟨[], equals, rest, by simp, hassign, rfl⟩
      · obtain ⟨passed, sign, after, hbefore, hfound, htokens⟩ := ih hother
        exact ⟨key :: passed, sign, after, by simpa using hbefore, hfound, by simp [htokens]⟩
  | case2 before key equals value rest others hno ih =>
      obtain ⟨passed, sign, after, hbefore, hfound, htokens⟩ := ih h
      exact ⟨key :: passed, sign, after, by simpa using hbefore, hfound, by simp [htokens]⟩
  | case3 => cases h

theorem standsIn_of_mem {tokens : List Token} {found : Assignment}
    (h : found ∈ assignments tokens) : found.StandsIn tokens := by
  obtain ⟨passed, equals, after, hbefore, hassign, htokens⟩ := behind_of_mem h
  rw [List.nil_append] at hbefore
  exact ⟨equals, after, hassign, hbefore ▸ htokens⟩

theorem isAssignment_iff {key equals value : Token} :
    isAssignment key equals value = true ↔
      equals.category = .equals ∧ key.category = .key ∧ value.category = .string := by
  simp [isAssignment, and_assoc]

/-- Assignments never share a token. -/
theorem assignments_pairwise (tokens : List Token) :
    (assignments tokens).Pairwise Assignment.Precedes := by
  have hfrom (before : List Token) :
      (assignmentsFrom before tokens).Pairwise Assignment.Precedes := by
    fun_induction assignmentsFrom before tokens with
    | case1 before key equals value rest others hassign ih =>
        refine List.pairwise_cons.mpr ⟨fun other hother => ?_, ih⟩
        obtain ⟨passed, sign, after, hbefore, hfound, htokens⟩ := behind_of_mem hother
        obtain ⟨hequals, -, hvalue⟩ := isAssignment_iff.mp hassign
        have hkey := (isAssignment_iff.mp hfound).2.1
        -- The other key is neither this equals sign nor this string.
        match passed, htokens with
        | [], htokens =>
            obtain ⟨rfl, -⟩ := List.cons.inj htokens
            cases hequals.symm.trans hkey
        | [_], htokens =>
            obtain ⟨rfl, -⟩ := List.cons.inj (List.cons.inj htokens).2
            cases hvalue.symm.trans hkey
        | _ :: _ :: between, htokens =>
            obtain ⟨rfl, hrest⟩ := List.cons.inj htokens
            obtain ⟨rfl, -⟩ := List.cons.inj hrest
            exact ⟨_, between, by simpa using hbefore⟩
    | case2 before key equals value rest others hno ih => exact ih
    | case3 => exact .nil
  exact hfrom []

/-! ## Headings -/

/-- A token that can belong to the path of a heading. -/
def isPathToken (token : Token) : Bool := token.category = .key || token.category = .dot

/-- The path of the heading that ends with the last of some tokens. -/
def endedHeading? (tokens : List Token) : Option (List Token) :=
  match tokens.reverse with
  | closing :: before =>
    let path := before.takeWhile isPathToken
    let bracket := (before.dropWhile isPathToken).head?
    if closing.category = .rightSquare && !path.isEmpty &&
        bracket.any fun opening => opening.category = .leftSquare then some path.reverse
    else none
  | [] => none

/-- The paths of all headings among tokens, in the order of the text. -/
def headings (tokens : List Token) : List (List Token) := tokens.inits.filterMap endedHeading?

/-- The name of a path that is a single bare key. -/
def bareName? : List Token → Option String
  | [key] => if key.kind = .unquotedKey then some (.ofList key.text) else none
  | _ => none

/-- The last heading with a single bare key. -/
def noticed? (tokens : List Token) : Option String :=
  ((headings tokens).filterMap bareName?).getLast?

/-- The table that the reader takes an assignment for a member of. -/
def Assignment.heading? (found : Assignment) : Option String := noticed? found.before

theorem headings_append (tokens : List Token) (last : Token) :
    headings (tokens ++ [last]) = headings tokens ++ (endedHeading? (tokens ++ [last])).toList := by
  rw [headings, List.inits_append, List.filterMap_append, headings]
  cases hlast : endedHeading? (tokens ++ [last]) <;> simp [hlast]

theorem endedHeading?_of_ne {last : Token} (h : last.category ≠ .rightSquare)
    (tokens : List Token) : endedHeading? (tokens ++ [last]) = none := by
  simp [endedHeading?, h]

/-- Three tokens end a heading with a single bare key just if the reader sees one there. -/
theorem bareName?_endedHeading? (before : List Token) (first second third : Token) :
    (endedHeading? (before ++ [first, second, third])).bind bareName? =
      if isHeading first second third then some (.ofList second.text) else none := by
  have hreverse : (before ++ [first, second, third]).reverse =
      third :: second :: first :: before.reverse := by simp
  rw [endedHeading?, hreverse]
  dsimp only
  by_cases hclose : third.category = .rightSquare
  case neg => simp [hclose, isHeading]
  by_cases hsecond : isPathToken second
  case neg =>
    have hkind : second.kind ≠ .unquotedKey := by
      intro hkind
      simp [isPathToken, Token.category, hkind, TokenKind.category] at hsecond
    simp [hsecond, isHeading, hkind]
  by_cases hfirst : isPathToken first
  · -- The path has two keys or more.
    have hopen : first.category ≠ .leftSquare := by
      intro hopen
      simp [isPathToken, hopen] at hfirst
    have hlong (path : List Token) : bareName? (path ++ [first, second]) = none := by
      match path with
      | [] => rfl
      | [_] => rfl
      | _ :: _ :: _ => rfl
    simp [hsecond, hfirst, isHeading, hopen, hlong]
  · by_cases hopen : first.category = .leftSquare <;>
      simp [hsecond, hfirst, hclose, isHeading, bareName?, hopen]

theorem noticed?_append (before : List Token) (first second third : Token) :
    noticed? (before ++ [first, second, third]) =
      if isHeading first second third then some (.ofList second.text)
      else noticed? (before ++ [first, second]) := by
  have hsplit : before ++ [first, second, third] = (before ++ [first, second]) ++ [third] := by
    simp
  have hname := bareName?_endedHeading? before first second third
  rw [noticed?, hsplit, headings_append, ← hsplit, List.filterMap_append, noticed?]
  cases hended : endedHeading? (before ++ [first, second, third]) with
  | none =>
      have hno : isHeading first second third = false := by simpa [hended] using hname.symm
      simp [hno]
  | some path =>
      have hpath : bareName? path =
          if isHeading first second third then some (.ofList second.text) else none := by
        simpa [hended] using hname
      cases hyes : isHeading first second third <;> simp [hpath, hyes]

/-- Two tokens more that are no closing brackets end no heading. -/
theorem noticed?_of_assignment {key equals value : Token}
    (h : isAssignment key equals value = true) (before : List Token) :
    noticed? (before ++ [key, equals]) = noticed? before := by
  obtain ⟨hequals, hkey, -⟩ := isAssignment_iff.mp h
  have hsplit : before ++ [key, equals] = (before ++ [key]) ++ [equals] := by simp
  have hfirst : endedHeading? (before ++ [key]) = none :=
    endedHeading?_of_ne (by simp [hkey]) before
  have hsecond : endedHeading? (before ++ [key] ++ [equals]) = none :=
    endedHeading?_of_ne (by simp [hequals]) (before ++ [key])
  rw [noticed?, hsplit, headings_append, headings_append, hfirst, hsecond]
  simp [noticed?]

/-- Two tokens are too few for a heading. -/
theorem noticed?_pair (first second : Token) : noticed? [first, second] = none := by
  have hfirst : endedHeading? [first] = none := by simp [endedHeading?]
  have hsecond : endedHeading? [first, second] = none := by
    by_cases hpath : isPathToken first <;> simp [endedHeading?, hpath]
  have hnil : endedHeading? [] = none := rfl
  simp [noticed?, headings, hnil, hfirst, hsecond]

/-! ## Reading -/

/-- The dependencies of a realm, if assignments are members of tables in a certain way. -/
def dependenciesOf (table? : Assignment → Option String) (found : List Assignment)
    (realm : Realm) : List Dependency :=
  (found.filter fun entry => table? entry = some realm.table).map fun entry =>
    dependency entry.key entry.value

/-- The assignments to a key of the package table. -/
def settingsOf (table? : Assignment → Option String) (found : List Assignment)
    (slot : PackageKey) : List Assignment :=
  found.filter fun entry => table? entry = some "package" && entry.name = slot.text

/-- The field that the last of some assignments to a key sets. -/
def lastField (slot : PackageKey) (initial : Field) (settings : List Assignment) : Field :=
  match settings.getLast? with
  | some entry => packageField slot entry.key entry.value
  | none => initial

theorem lastField_cons (slot : PackageKey) (initial : Field) (entry : Assignment)
    (settings : List Assignment) :
    lastField slot initial (entry :: settings) =
      lastField slot (packageField slot entry.key entry.value) settings := by
  unfold lastField
  rw [List.getLast?_cons]
  cases settings.getLast? <;> rfl

/-- The field under a key of the package table, if assignments are members of tables in a
certain way. -/
def fieldOf (table? : Assignment → Option String) (found : List Assignment) (slot : PackageKey) :
    Field :=
  lastField slot slot.undeclared (settingsOf table? found slot)

namespace Progress

variable (progress : Progress) (first second third : Token)

theorem table_step : (progress.step first second third).table =
    if isHeading first second third then .ofList second.text else progress.table := by
  unfold step assignment
  dsimp only
  split
  · rfl
  · split
    · split
      · split <;> rfl
      · split <;> rfl
    · rfl

theorem not_isHeading_of_isAssignment (h : isAssignment first second third = true) :
    isHeading first second third = false := by
  have hequals := (isAssignment_iff.mp h).1
  have hkind : second.kind ≠ .unquotedKey := by
    intro hkind
    rw [Token.category, hkind] at hequals
    cases hequals
  simp [isHeading, hkind]

theorem step_of_isAssignment (h : isAssignment first second third = true) :
    progress.step first second third = progress.assignment first third := by
  rw [step, not_isHeading_of_isAssignment first second third h, h]
  rfl

/-- Only assignments add to what the package and the dependencies are. -/
theorem frame_of_not_isAssignment (h : ¬ isAssignment first second third = true) :
    (progress.step first second third).manifest.package = progress.manifest.package ∧
      (progress.step first second third).manifest.dependencies =
        progress.manifest.dependencies := by
  unfold step
  rw [if_neg h]
  split <;> exact ⟨rfl, rfl⟩

theorem get_dependencies_step (realm : Realm) :
    (progress.step first second third).manifest.dependencies.get realm =
      progress.manifest.dependencies.get realm ++
        if isAssignment first second third ∧ progress.table = realm.table then
          [dependency first third] else [] := by
  by_cases hassign : isAssignment first second third = true
  case neg =>
    rw [(progress.frame_of_not_isAssignment first second third hassign).2]
    simp [hassign]
  simp only [step_of_isAssignment _ _ _ _ hassign, hassign, true_and]
  unfold assignment
  dsimp only
  split
  · next hpackage =>
      have hother : progress.table ≠ realm.table := hpackage ▸ realm.table_ne_package.symm
      rw [if_neg hother, List.append_nil]
      split <;> rfl
  · split
    · next other hother =>
        obtain htable := Realm.ofTable?_eq_some_iff.mp hother
        dsimp only
        rw [get_add, htable]
        by_cases hsame : other = realm
        · subst hsame
          simp
        · rw [if_neg hsame, if_neg fun h => hsame (Realm.table_inj h), List.append_nil]
    · next hnone =>
        have hother : progress.table ≠ realm.table := by
          intro h
          rw [Realm.ofTable?_eq_some_iff.mpr h] at hnone
          cases hnone
        rw [if_neg hother, List.append_nil]

theorem get_package_step (slot : PackageKey) :
    (progress.step first second third).manifest.package.get slot =
      if isAssignment first second third ∧ progress.table = "package" ∧
          String.ofList (stripQuotes first.text) = slot.text then packageField slot first third
      else progress.manifest.package.get slot := by
  by_cases hassign : isAssignment first second third = true
  case neg =>
    rw [(progress.frame_of_not_isAssignment first second third hassign).1]
    simp [hassign]
  simp only [step_of_isAssignment _ _ _ _ hassign, hassign, true_and]
  unfold assignment
  dsimp only
  split
  · next hpackage =>
      split
      · next other hother =>
          have hname := PackageKey.ofText?_eq_some_iff.mp hother
          dsimp only
          rw [get_set, hname]
          by_cases hsame : other = slot
          · subst hsame
            simp [hpackage]
          · have hother : ¬ other.text = slot.text := fun h => hsame (PackageKey.text_inj h)
            simp [hsame, hother]
      · next hnone =>
          have hother : String.ofList (stripQuotes first.text) ≠ slot.text := by
            intro h
            rw [PackageKey.ofText?_eq_some_iff.mpr h] at hnone
            cases hnone
          simp [hother]
  · next hother =>
      rw [if_neg fun h => hother h.1]
      split <;> rfl

/-- The reader keeps to the last heading it noticed. -/
def Keeps (progress : Progress) (tokens : List Token) : Prop :=
  progress.table = (noticed? tokens).getD ""

variable {progress first second third} {before : List Token}

theorem Keeps.step (h : progress.Keeps (before ++ [first, second])) :
    (progress.step first second third).Keeps (before ++ [first] ++ [second, third]) := by
  rw [List.append_assoc, List.singleton_append, Keeps, table_step, noticed?_append]
  split
  · rfl
  · exact h

/-- The table of an assignment is the one of the heading before it. -/
theorem Keeps.table_iff (h : progress.Keeps (before ++ [first, second]))
    (hassign : isAssignment first second third = true) {table : String} (hne : table ≠ "") :
    progress.table = table ↔ (Assignment.mk before first third).heading? = some table := by
  rw [h, noticed?_of_assignment hassign, Assignment.heading?]
  cases noticed? before with
  | none => simpa using hne.symm
  | some name => simp

/-- What is added to the dependencies behind two tokens. -/
theorem get_dependencies_read {rest : List Token} (h : progress.Keeps (before ++ [first, second]))
    (realm : Realm) :
    (progress.read (first :: second :: rest)).manifest.dependencies.get realm =
      progress.manifest.dependencies.get realm ++ dependenciesOf Assignment.heading?
        (assignmentsFrom before (first :: second :: rest)) realm := by
  induction rest generalizing progress before first second with
  | nil => exact (List.append_nil _).symm
  | cons third rest ih =>
      have hne : realm.table ≠ "" := by cases realm <;> decide
      rw [read, ih h.step, get_dependencies_step, List.append_assoc, assignmentsFrom]
      congr 1
      by_cases hassign : isAssignment first second third = true
      · by_cases htable : progress.table = realm.table
        · simp [hassign, htable, dependenciesOf, (h.table_iff hassign hne).mp htable]
        · have hother := mt (h.table_iff hassign hne).mpr htable
          simp [hassign, htable, dependenciesOf, hother]
      · simp [hassign]

/-- What becomes of a field of the package table behind two tokens. -/
theorem get_package_read {rest : List Token} (h : progress.Keeps (before ++ [first, second]))
    (slot : PackageKey) :
    (progress.read (first :: second :: rest)).manifest.package.get slot =
      lastField slot (progress.manifest.package.get slot) (settingsOf Assignment.heading?
        (assignmentsFrom before (first :: second :: rest)) slot) := by
  induction rest generalizing progress before first second with
  | nil => rfl
  | cons third rest ih =>
      have hne : "package" ≠ "" := by decide
      rw [read, ih h.step, get_package_step, assignmentsFrom]
      by_cases hassign : isAssignment first second third = true
      · have htable := h.table_iff hassign hne
        by_cases hslot : progress.table = "package" ∧
            String.ofList (stripQuotes first.text) = slot.text
        · have hentry := htable.mp hslot.1
          simp [hassign, hslot, settingsOf, hentry, Assignment.name, lastField_cons]
        · have hentry : ¬ ((Assignment.mk before first third).heading? = some "package" ∧
              (Assignment.mk before first third).name = slot.text) :=
            fun hboth => hslot ⟨htable.mpr hboth.1, hboth.2⟩
          simp [hassign, hslot, settingsOf, hentry]
      · simp [hassign]

end Progress

variable {tokens : List Token}

theorem get_dependencies_ofTokens (realm : Realm) :
    (ofTokens tokens).dependencies.get realm =
      dependenciesOf Assignment.heading? (assignments (significant tokens)) realm := by
  rw [ofTokens]
  match significant tokens with
  | [] => cases realm <;> rfl
  | [_] => cases realm <;> rfl
  | first :: second :: rest =>
      have hkeeps : ({} : Progress).Keeps ([] ++ [first, second]) := by
        rw [Progress.Keeps, List.nil_append, noticed?_pair]
        rfl
      rw [Progress.get_dependencies_read hkeeps]
      cases realm <;> rfl

theorem get_package_ofTokens (slot : PackageKey) :
    (ofTokens tokens).package.get slot =
      fieldOf Assignment.heading? (assignments (significant tokens)) slot := by
  rw [ofTokens]
  match significant tokens with
  | [] => cases slot <;> rfl
  | [_] => cases slot <;> rfl
  | first :: second :: rest =>
      have hkeeps : ({} : Progress).Keeps ([] ++ [first, second]) := by
        rw [Progress.Keeps, List.nil_append, noticed?_pair]
        rfl
      rw [Progress.get_package_read hkeeps]
      cases slot <;> rfl

/-- A text is accepted if it has tokens and no lexical errors. -/
theorem parse_eq_ok_iff {text : String} {manifest : Manifest} :
    parse text = .ok manifest ↔ (scan text.toList).errors = [] ∧
      (scan text.toList).tokens ≠ [] ∧ manifest = ofTokens (scan text.toList).tokens := by
  rw [parse, ofChars]
  cases (scan text.toList).errors with
  | cons first others => simp
  | nil => cases (scan text.toList).tokens <;> simp [eq_comm]

end Manifest

end ManifestLint
