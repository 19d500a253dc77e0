import ManifestLint.Index.Address
import ManifestLint.Proofs.Text.LowerCase

/-!
# Paths of addresses

A URL leads to a path of the host, and the path is cut at its slashes into the parts that
become owner and repository.  Slashes at its ends do not count, nor do several in a row,
and a `.git` at its end is taken off once.  A path may be put in lower case before it is
cut or after.

The letters of a path are counted in lower case and without its slashes, so that all of
them are found again in the address that the path gives.

* `pathParts_lowerChars`, `letters_eq`: lower case and the parts of a path.
* `parse_eq_ok_iff`: what a URL has to be for it to give an address.
* `eq_of_url_eq`: addresses that were read are told apart by their URLs.
* `letters_named`: all letters of a path are found again in its address, but for the ending.
-/

namespace ManifestLint

namespace Address

open ManifestLint.Text

variable {path lead trail : List Char} {url : String} {address : Address}

/-! ## Parts -/

/-- What holds of texts without a slash, and with one more of them before another slash, holds
of all paths. -/
theorem parts_induction {P : List Char → Prop} (hlast : ∀ part, '/' ∉ part → P part)
    (hmore : ∀ part rest, '/' ∉ part → P rest → P (part ++ '/' :: rest)) (path : List Char) :
    P path := by
  suffices h : ∀ part, '/' ∉ part → P (part ++ path) from h [] List.not_mem_nil
  induction path with
  | nil =>
      intro part hpart
      rw [List.append_nil]
      exact hlast part hpart
  | cons c rest ih =>
      intro part hpart
      by_cases hslash : c = '/'
      · subst hslash
        exact hmore part rest hpart (ih [] List.not_mem_nil)
      · have hlonger := ih (part ++ [c]) (by simp [hpart, Ne.symm hslash])
        rw [List.append_assoc] at hlonger
        exact hlonger

theorem pathParts_append_slash (path rest : List Char) :
    pathParts (path ++ '/' :: rest) = pathParts path ++ pathParts rest := by
  rw [pathParts, List.splitOn_append_cons_self, List.filter_append]
  rfl

theorem pathParts_of_not_mem (h : '/' ∉ path) :
    pathParts path = if path = [] then [] else [path] := by
  rw [pathParts, List.splitOn_eq_singleton h]
  cases path <;> rfl

theorem pathParts_slashes_append (h : ∀ c ∈ lead, c = '/') (path : List Char) :
    pathParts (lead ++ path) = pathParts path := by
  induction lead with
  | nil => rfl
  | cons c rest ih =>
      obtain ⟨rfl, hrest⟩ := List.forall_mem_cons.mp h
      have hslash := pathParts_append_slash [] (rest ++ path)
      rw [List.nil_append] at hslash
      rw [List.cons_append, hslash, ih hrest]
      rfl

theorem pathParts_append_slashes (h : ∀ c ∈ trail, c = '/') (path : List Char) :
    pathParts (path ++ trail) = pathParts path := by
  cases trail with
  | nil => rw [List.append_nil]
  | cons c rest =>
      obtain ⟨rfl, hrest⟩ := List.forall_mem_cons.mp h
      have hnone := pathParts_slashes_append hrest []
      rw [List.append_nil] at hnone
      rw [pathParts_append_slash, hnone]
      exact List.append_nil _

/-- Slashes at the ends of a path do not count. -/
theorem pathParts_trim (path : List Char) : pathParts (trim (· = '/') path) = pathParts path := by
  obtain ⟨lead, trail, hpath, hlead, htrail⟩ := exists_trimmed (· = '/') path
  have hslashes : ∀ {text : List Char}, (∀ c ∈ text, decide (c = '/') = true) →
      ∀ c ∈ text, c = '/' := fun h c hc => of_decide_eq_true (h c hc)
  conv_rhs => rw [hpath]
  rw [pathParts_slashes_append (hslashes hlead), pathParts_append_slashes (hslashes htrail)]

theorem pathParts_lowerChars_of_not_mem (h : '/' ∉ path) :
    pathParts (lowerChars path) = (pathParts path).map lowerChars := by
  rw [pathParts_of_not_mem h, pathParts_of_not_mem (slash_not_mem_lowerChars h)]
  cases path with
  | nil => rfl
  | cons c rest =>
      have hne : lowerChars (c :: rest) ≠ [] := lowerFrom_ne_nil (List.cons_ne_nil c rest)
      rw [if_neg hne, if_neg (List.cons_ne_nil _ _)]
      rfl

/-- **Parts.**  A path may be put in lower case before it is cut or after. -/
theorem pathParts_lowerChars (path : List Char) :
    pathParts (lowerChars path) = (pathParts path).map lowerChars := by
  induction path using parts_induction with
  | hlast part hpart => exact pathParts_lowerChars_of_not_mem hpart
  | hmore part rest hpart ih =>
      rw [lowerChars_append_slash, pathParts_append_slash, pathParts_append_slash, ih,
        List.map_append, pathParts_lowerChars_of_not_mem hpart]

/-! ## Letters -/

/-- How many characters a path has in lower case, besides its slashes. -/
def letters (path : List Char) : Nat :=
  ((path.filter (· ≠ '/')).map fun c => (lowerChar c).length).sum

theorem letters_append (path rest : List Char) :
    letters (path ++ rest) = letters path + letters rest := by
  simp [letters, List.filter_append]

theorem letters_of_not_mem (h : '/' ∉ path) : letters path = (lowerChars path).length := by
  have hall : path.filter (· ≠ '/') = path := by
    rw [List.filter_eq_self]
    intro c hc
    simpa using fun hsame : c = '/' => h (hsame ▸ hc)
  rw [letters, hall, lowerChars, length_lowerFrom]

theorem letters_slashes (h : ∀ c ∈ path, c = '/') : letters path = 0 := by
  have hnone : path.filter (· ≠ '/') = [] := by
    rw [List.filter_eq_nil_iff]
    intro c hc
    simpa using h c hc
  rw [letters, hnone]
  rfl

/-- All letters of a path are found again in its parts. -/
theorem letters_eq (path : List Char) :
    letters path = ((pathParts path).map lowerChars).flatten.length := by
  have hpart : ∀ part : List Char, '/' ∉ part →
      letters part = ((pathParts part).map lowerChars).flatten.length := by
    intro part hslash
    rw [letters_of_not_mem hslash, pathParts_of_not_mem hslash]
    cases part <;> simp [lowerChars, lowerFrom]
  induction path using parts_induction with
  | hlast part hslash => exact hpart part hslash
  | hmore part rest hslash ih =>
      have hsingle : letters (part ++ '/' :: rest) = letters part + letters rest := by
        rw [letters_append]
        rfl
      rw [hsingle, hpart part hslash, ih, pathParts_append_slash, List.map_append,
        List.flatten_append, List.length_append]

theorem letters_trim (path : List Char) : letters (trim (· = '/') path) = letters path := by
  rw [letters_eq, letters_eq, pathParts_trim]

/-- Paths that differ in the case of their letters have equally many of them. -/
theorem letters_congr {other : List Char} (h : lowerChars path = lowerChars other) :
    letters path = letters other := by
  rw [letters_eq, letters_eq, ← pathParts_lowerChars, ← pathParts_lowerChars, h]

/-! ## The ending -/

/-- The ending that is taken off a path. -/
def dotGit : List Char := ['.', 'g', 'i', 't']

theorem dropGit_append (path : List Char) : dropGit (path ++ dotGit) = path := by
  have hsuffix : dotGit.isSuffixOf (path ++ dotGit) = true :=
    List.isSuffixOf_iff_suffix.mpr (List.suffix_append path dotGit)
  rw [dropGit, ← dotGit, if_pos hsuffix]
  simp [dotGit]

theorem dropGit_of_not_suffix (h : ¬ dotGit <:+ path) : dropGit path = path := by
  rw [dropGit, ← dotGit, if_neg]
  exact fun hsuffix => h (List.isSuffixOf_iff_suffix.mp hsuffix)

theorem letters_dotGit : letters dotGit = 4 := by
  decide

/-- With the ending a path loses four letters. -/
theorem letters_dropGit (path : List Char) :
    letters path = letters (dropGit path) + if dotGit <:+ path then 4 else 0 := by
  by_cases hsuffix : dotGit <:+ path
  · obtain ⟨rest, rfl⟩ := hsuffix
    rw [dropGit_append, letters_append, letters_dotGit, if_pos (List.suffix_append ..)]
  · rw [dropGit_of_not_suffix hsuffix, if_neg hsuffix, Nat.add_zero]

/-! ## Addresses -/

/-- The host, without the slash behind it. -/
def host : List Char := "https://github.com".toList

/-- The text of a URL leads to a path of the host, which may be written in any case. -/
def LeadsTo (text path : List Char) : Prop :=
  ∃ front, text = front ++ '/' :: path ∧ lowerChars front = host

theorem hostUrl_toList : hostUrl.toList = host ++ ['/'] := by
  decide

theorem LeadsTo.drop_eq {text : List Char} (h : LeadsTo text path) :
    text.drop hostUrl.length = path := by
  obtain ⟨front, rfl, hfront⟩ := h
  have hlength : front.length = 18 := by
    have hhost : Char.ofNat 0x307 ∉ lowerChars front := by
      rw [hfront]
      decide
    rw [← length_eq_of_lowerFrom hhost]
    exact congrArg List.length hfront
  have hdrop : hostUrl.length = front.length + 1 := by
    rw [hlength]
    decide
  rw [hdrop, List.drop_append, List.drop_eq_nil_of_le (Nat.le_succ _)]
  simp

theorem isPrefixOf_iff (text : List Char) :
    hostUrl.toList.isPrefixOf (lowerChars text) = true ↔ ∃ path, LeadsTo text path := by
  rw [List.isPrefixOf_iff_prefix, hostUrl_toList]
  constructor
  · rintro ⟨rest, hrest⟩
    rw [List.append_assoc, List.singleton_append] at hrest
    obtain ⟨front, path, htext, hfront, -⟩ := exists_of_lowerFrom_eq hrest.symm
    exact ⟨path, front, htext, hfront⟩
  · rintro ⟨path, front, rfl, hfront⟩
    rw [lowerChars_append_slash, hfront]
    exact ⟨lowerChars path, List.append_assoc ..⟩

/-- What is made of a path: its parts in lower case, without the ending. -/
def named (path : List Char) : List (List Char) :=
  (pathParts (dropGit (trim (· = '/') path))).map lowerChars

/-- **Addresses.**  A URL gives an address if it leads to a path with two parts, which are owner
and repository then. -/
theorem parse_eq_ok_iff : parse url = .ok address ↔
    ∃ path, LeadsTo (trim isBlank url.toList) path ∧
      named path = [address.owner.toList, address.repository.toList] := by
  constructor
  · intro h
    rw [parse] at h
    dsimp only at h
    split at h
    · next hprefix =>
        obtain ⟨path, hpath⟩ := (isPrefixOf_iff _).mp hprefix
        refine ⟨path, hpath, ?_⟩
        rw [hpath.drop_eq] at h
        rw [named]
        split at h
        · next owner repository hparts =>
            obtain rfl := Except.ok.inj h
            simp [hparts]
        · cases h
    · cases h
  · rintro ⟨path, hpath, hnamed⟩
    rw [parse]
    dsimp only
    rw [if_pos ((isPrefixOf_iff _).mpr ⟨path, hpath⟩), hpath.drop_eq]
    rw [named] at hnamed
    obtain ⟨owner, others, hparts, howner, hothers⟩ := List.map_eq_cons_iff.mp hnamed
    obtain ⟨repository, none, rfl, hrepository, hnone⟩ := List.map_eq_cons_iff.mp hothers
    obtain rfl := List.map_eq_nil_iff.mp hnone
    simp [hparts, howner, hrepository]

theorem slash_not_mem_owner (h : parse url = .ok address) : '/' ∉ address.owner.toList := by
  obtain ⟨path, -, hnamed⟩ := parse_eq_ok_iff.mp h
  have hmem : address.owner.toList ∈ named path := hnamed ▸ List.mem_cons_self
  obtain ⟨part, hpart, hlower⟩ := List.mem_map.mp hmem
  have hslash := not_mem_of_mem_splitOn '/' _ part (List.mem_filter.mp hpart).1
  exact hlower ▸ slash_not_mem_lowerChars hslash

/-- Addresses without a slash in the owner are told apart by their URLs. -/
theorem eq_of_url_eq {address other : Address} (h : '/' ∉ address.owner.toList)
    (hother : '/' ∉ other.owner.toList) (hurl : address.url = other.url) : address = other := by
  have htexts := congrArg String.toList hurl
  simp only [url, String.toList_append, List.append_assoc] at htexts
  have hpaths := List.append_cancel_left htexts
  have hparts := congrArg (List.splitOn '/') hpaths
  have hslash : "/".toList = ['/'] := rfl
  rw [hslash, List.singleton_append, List.singleton_append,
    List.splitOn_append_cons_self_of_not_mem h,
    List.splitOn_append_cons_self_of_not_mem hother] at hparts
  have howner := (List.cons.inj hparts).1
  rw [hslash, howner] at hpaths
  have hrepository := List.append_cancel_left (List.append_cancel_left hpaths)
  have hsame : address.owner = other.owner := String.toList_inj.mp howner
  have hnamed : address.repository = other.repository := String.toList_inj.mp hrepository
  cases address
  cases other
  exact (Address.mk.injEq ..).mpr ⟨hsame, hnamed⟩

theorem letters_named (path : List Char) :
    (named path).flatten.length + (if dotGit <:+ trim (· = '/') path then 4 else 0) =
      letters path := by
  rw [named, ← letters_eq, ← letters_trim path]
  exact (letters_dropGit _).symm

end Address

end ManifestLint
