import ManifestLint.Proofs.Index.Paths
import ManifestLint.Proofs.Registry.Determined

/-!
# Spellings of one index

An index has many URLs: blanks may stand around them, slashes and a `.git` behind them, and
letters may be written in any case.  All of them are meant to lead to one address, and so
the URL of an address is meant to lead back to it.

That is so with three exceptions.  The ending is taken off as it is written, before letters
are put in lower case, so with a capital letter in it it becomes part of the name; it is
taken off once; and a blank before a slash or before the ending is part of the name too,
though a blank at the end is not.

* `url_roundtrip_iff`: when the URL of an address leads back to it.
* `find?_spelling_iff`: what may be written around a URL.
* `find?_of_lower_eq_iff`: the case of its letters.
* `find?_spelling_of_lower_iff`: both at once.
-/

namespace ManifestLint

namespace Address

open ManifestLint.Text

/-- The URL ends in a blank. -/
def EndsInBlank (url : String) : Prop := ∃ c ∈ url.toList.getLast?, isBlank c = true

/-- Without blanks around it and slashes behind it, the URL ends in `.git`. -/
def EndsInGit (url : String) : Prop := dotGit <:+ trimEnd (· = '/') (trim isBlank url.toList)

instance (url : String) : Decidable (EndsInBlank url) :=
  decidable_of_iff (url.toList.getLast?.any isBlank = true) (Option.any_eq_true _ _)

instance (url : String) : Decidable (EndsInGit url) :=
  inferInstanceAs (Decidable (dotGit <:+ _))

variable {path text lead early ending late trail : List Char} {url other : String}
  {address : Address}

/-! ## Slashes before an ending -/

theorem suffix_append_slash_iff (h : '/' ∉ ending) (front path : List Char) :
    ending <:+ front ++ '/' :: path ↔ ending <:+ path := by
  constructor
  · rintro ⟨before, hbefore⟩
    rcases List.append_eq_append_iff.mp hbefore with ⟨later, -, hlater⟩ | ⟨later, -, hlater⟩
    · exact absurd (by simp [hlater]) h
    · cases later with
      | nil => exact absurd (by rw [List.nil_append] at hlater; simp [← hlater]) h
      | cons c later => exact ⟨later, (List.cons.inj hlater).2.symm⟩
  · intro hpath
    exact hpath.trans ((List.suffix_cons '/' path).trans (List.suffix_append front _))

theorem suffix_append_slashes_iff (h : '/' ∉ ending) (hlead : ∀ c ∈ lead, c = '/')
    (front path : List Char) :
    ending <:+ front ++ '/' :: (lead ++ path) ↔ ending <:+ path := by
  induction lead generalizing front with
  | nil => exact suffix_append_slash_iff h front path
  | cons c rest ih =>
      obtain ⟨rfl, hrest⟩ := List.forall_mem_cons.mp hlead
      have hnext := ih hrest (front ++ ['/'])
      rw [List.append_assoc] at hnext
      exact hnext

/-- Where no slash stands last, none is trimmed off the end. -/
theorem trim_suffix (h : ∀ c ∈ text.getLast?, c ≠ '/') : trim (· = '/') text <:+ text := by
  obtain ⟨lead, trail, htext, -, htrail⟩ := exists_trimmed (· = '/') text
  have hnone : trail = [] := by
    cases hlast : trail.getLast? with
    | none => exact List.getLast?_eq_none_iff.mp hlast
    | some c =>
        have hslash : c = '/' := of_decide_eq_true (htrail c (List.mem_of_getLast? hlast))
        have hmem : text.getLast? = some c := by
          rw [htext, List.getLast?_append, List.getLast?_append, hlast]
          rfl
        exact absurd hslash (h c hmem)
  rw [hnone, List.append_nil] at htext
  conv_rhs => rw [htext]
  exact List.suffix_append ..

/-- The ending is seen in the URL as it is in the path. -/
theorem endsInGit_iff (hpath : LeadsTo (trim isBlank url.toList) path)
    (hletters : letters path ≠ 0) :
    EndsInGit url ↔ dotGit <:+ trim (· = '/') path := by
  obtain ⟨front, htext, -⟩ := hpath
  obtain ⟨lead, trail, hsplit, hlead, htrail⟩ := exists_trimmed (· = '/') path
  have hbare := bare_trim (· = '/') path
  have hslashes : ∀ c ∈ lead, c = '/' := fun c hc => of_decide_eq_true (hlead c hc)
  have hsome : trim (· = '/') path ≠ [] := by
    intro hnone
    rw [← letters_trim, hnone] at hletters
    exact hletters rfl
  have hend : trimEnd (· = '/') (trim isBlank url.toList) =
      front ++ '/' :: (lead ++ trim (· = '/') path) := by
    have hassoc : trim isBlank url.toList =
        ((front ++ '/' :: lead) ++ trim (· = '/') path) ++ trail := by
      rw [htext]
      conv_lhs => rw [hsplit]
      simp
    rw [hassoc, trimEnd_append htrail, trimEnd_eq_self]
    · simp
    · rw [List.getLast?_append_of_ne_nil _ hsome]
      exact hbare.last
  rw [EndsInGit, hend, suffix_append_slashes_iff (by decide) hslashes]

/-! ## Clients -/

/-- The parts that a path gives are not empty, have no slash in them, and are in lower case. -/
theorem mem_named {part : List Char} (h : part ∈ named path) :
    part ≠ [] ∧ '/' ∉ part ∧ ∀ c ∈ part, IsLower c := by
  obtain ⟨original, hmem, rfl⟩ := List.mem_map.mp h
  obtain ⟨hsplit, hsome⟩ := List.mem_filter.mp hmem
  refine ⟨?_, slash_not_mem_lowerChars (not_mem_of_mem_splitOn '/' _ original hsplit),
    fun c hc => isLower_of_mem_lowerFrom hc⟩
  refine lowerFrom_ne_nil ?_
  rintro rfl
  cases hsome

theorem LeadsTo.parse_iff (h : LeadsTo (trim isBlank url.toList) path) :
    parse url = .ok address ↔
      named path = [address.owner.toList, address.repository.toList] := by
  rw [parse_eq_ok_iff]
  constructor
  · rintro ⟨same, hsame, hnamed⟩
    rwa [← h.drop_eq, hsame.drop_eq]
  · exact fun hnamed => ⟨path, h, hnamed⟩

theorem find?_eq_some_iff {handle : Handle} : Handle.find? url = some handle ↔
    ∃ address, handle = .shared address ∧ parse url = .ok address := by
  unfold Handle.find?
  cases parse url with
  | error error => simp
  | ok address => simp [eq_comm]

/-- Two URLs, one of which has a client, have the same one if their paths give the same names. -/
theorem LeadsTo.find?_eq_iff {otherPath : List Char}
    (h : LeadsTo (trim isBlank url.toList) path)
    (hother : LeadsTo (trim isBlank other.toList) otherPath)
    (hsome : (Handle.find? url).isSome = true) :
    Handle.find? other = Handle.find? url ↔ named otherPath = named path := by
  obtain ⟨handle, hfind⟩ := Option.isSome_iff_exists.mp hsome
  obtain ⟨address, rfl, hparse⟩ := find?_eq_some_iff.mp hfind
  have hnamed := h.parse_iff.mp hparse
  have hiff : Handle.find? other = some (.shared address) ↔ parse other = .ok address := by
    rw [find?_eq_some_iff]
    constructor
    · rintro ⟨same, hsame, hok⟩
      obtain rfl := Handle.shared.inj hsame
      exact hok
    · exact fun hok => ⟨address, rfl, hok⟩
  rw [hfind, hiff, hother.parse_iff, hnamed]

/-- A URL with a client leads to a path with letters. -/
theorem exists_leadsTo (hsome : (Handle.find? url).isSome = true) :
    ∃ path, LeadsTo (trim isBlank url.toList) path ∧ letters path ≠ 0 := by
  obtain ⟨handle, hfind⟩ := Option.isSome_iff_exists.mp hsome
  obtain ⟨address, rfl, hparse⟩ := find?_eq_some_iff.mp hfind
  obtain ⟨path, hpath, hnamed⟩ := parse_eq_ok_iff.mp hparse
  refine ⟨path, hpath, ?_⟩
  have hmem : address.owner.toList ∈ named path := by simp [hnamed]
  have howner : 0 < address.owner.toList.length := List.length_pos_iff.mpr (mem_named hmem).1
  have hletters := letters_named path
  rw [hnamed] at hletters
  simp only [List.flatten_cons, List.length_append] at hletters
  omega

/-! ## The URL of an address -/

/-- A part in lower case has as many letters as characters. -/
theorem letters_of_isLower (hslash : '/' ∉ path) (h : ∀ c ∈ path, IsLower c) :
    letters path = path.length := by
  rw [letters_of_not_mem hslash, lowerChars, lowerFrom_eq_self h]

theorem url_toList (address : Address) : address.url.toList =
    host ++ '/' :: (address.owner.toList ++ '/' :: address.repository.toList) := by
  simp [url, hostUrl_toList]

/-- Blanks are trimmed off the end of the repository only. -/
theorem trim_url (address : Address) : trim isBlank address.url.toList =
    host ++ '/' :: (address.owner.toList ++ '/' :: trimEnd isBlank address.repository.toList) := by
  have hslash : isBlank '/' = false := by decide
  have hstart : ∀ c ∈ address.url.toList.head?, isBlank c = false := by
    intro c hc
    rw [url_toList] at hc
    obtain rfl : 'h' = c := Option.some.inj hc
    decide
  rw [trim, trimStart, dropWhile_eq_self_of_head? hstart, url_toList, trimEnd_append_cons hslash,
    trimEnd_append_cons hslash]

theorem leadsTo_url (address : Address) : LeadsTo (trim isBlank address.url.toList)
    (address.owner.toList ++ '/' :: trimEnd isBlank address.repository.toList) :=
  ⟨host, trim_url address, by decide⟩

theorem endsInBlank_url_iff (address : Address) : EndsInBlank address.url ↔
    trimEnd isBlank address.repository.toList ≠ address.repository.toList := by
  have hslash : isBlank '/' = false := by decide
  rw [EndsInBlank, ← trimEnd_ne_self_iff, url_toList, trimEnd_append_cons hslash,
    trimEnd_append_cons hslash]
  simp

/-- **Round trip.**  The URL of an address leads back to it, unless it ends in a blank or in
`.git`. -/
theorem url_roundtrip_iff (h : parse url = .ok address) :
    parse address.url = .ok address ↔ ¬ EndsInGit address.url ∧ ¬ EndsInBlank address.url := by
  obtain ⟨path, -, hnamed⟩ := parse_eq_ok_iff.mp h
  have hownerMem : address.owner.toList ∈ named path := by simp [hnamed]
  have hrepositoryMem : address.repository.toList ∈ named path := by simp [hnamed]
  obtain ⟨hownerSome, hownerSlash, howner⟩ := mem_named hownerMem
  obtain ⟨hsome, hslash, hrepository⟩ := mem_named hrepositoryMem
  have htrimmed : trimEnd isBlank address.repository.toList <+: address.repository.toList :=
    List.rdropWhile_prefix isBlank address.repository.toList
  have hletters : letters
      (address.owner.toList ++ '/' :: trimEnd isBlank address.repository.toList) =
        address.owner.toList.length + (trimEnd isBlank address.repository.toList).length := by
    have hsame : letters ('/' :: trimEnd isBlank address.repository.toList) =
        letters (trimEnd isBlank address.repository.toList) := rfl
    rw [letters_append, hsame, letters_of_isLower hownerSlash howner,
      letters_of_isLower (fun hmem => hslash (htrimmed.subset hmem))
        fun c hc => hrepository c (htrimmed.subset hc)]
  have hpos := List.length_pos_iff.mpr hownerSome
  rw [(leadsTo_url address).parse_iff, endsInGit_iff (leadsTo_url address) (by omega),
    endsInBlank_url_iff, not_not]
  constructor
  · intro hagain
    have hcount := letters_named
      (address.owner.toList ++ '/' :: trimEnd isBlank address.repository.toList)
    rw [hagain, hletters] at hcount
    simp only [List.flatten_cons, List.flatten_nil, List.append_nil, List.length_append] at hcount
    have hle := htrimmed.length_le
    refine ⟨fun hgit => ?_, htrimmed.eq_of_length ?_⟩
    · rw [if_pos hgit] at hcount
      omega
    · omega
  · rintro ⟨hgit, hblank⟩
    rw [hblank] at hgit ⊢
    rw [named, dropGit_of_not_suffix hgit, pathParts_trim, pathParts_append_slash,
      pathParts_of_not_mem hownerSlash, pathParts_of_not_mem hslash, if_neg hownerSome,
      if_neg hsome, List.singleton_append, List.map_cons, List.map_singleton, lowerChars,
      lowerFrom_eq_self howner, lowerChars, lowerFrom_eq_self hrepository]

/-! ## What is written around a URL -/

theorem letters_of_isBlank (h : ∀ c ∈ path, isBlank c = true) : letters path = path.length := by
  have hslash : '/' ∉ path := fun hmem => absurd (h '/' hmem) (by decide)
  have hlower := lowerChars_append_blanks h []
  rw [List.nil_append] at hlower
  rw [letters_of_not_mem hslash, hlower]
  rfl

/-- An ending that is spelt in any case has four letters, none of which is a slash or a blank. -/
theorem ending_of_lower (h : lowerChars ending = dotGit) :
    ending.length = 4 ∧ letters ending = 4 ∧ ∀ c ∈ ending, isBlank c = false ∧ c ≠ '/' := by
  have hdotted : Char.ofNat 0x307 ∉ lowerChars ending := by
    rw [h]
    decide
  have hlength : (lowerChars ending).length = ending.length := length_eq_of_lowerFrom hdotted
  have hends : ∀ c ∈ ending, EndsWords c → ∃ d ∈ lowerChar c, d ∈ dotGit := by
    intro c hc hwords
    obtain ⟨before, behind, rfl⟩ := List.append_of_mem hc
    obtain ⟨d, hd⟩ := List.exists_mem_of_ne_nil _ (lowerChar_ne_nil c)
    refine ⟨d, hd, ?_⟩
    rw [← h, lowerChars_append_cons hwords]
    simp [hd]
  have hslash : '/' ∉ ending := by
    intro hmem
    obtain ⟨d, hd, hgit⟩ := hends '/' hmem endsWords_slash
    obtain rfl : d = '/' := List.mem_singleton.mp hd
    exact absurd hgit (by decide)
  rw [h] at hlength
  refine ⟨hlength.symm, ?_, fun c hc => ⟨?_, fun hsame => hslash (hsame ▸ hc)⟩⟩
  · rw [letters_of_not_mem hslash, h]
    rfl
  · rw [Bool.eq_false_iff]
    intro hblank
    obtain ⟨d, hd, hgit⟩ := hends c hc (endsWords_of_isBlank hblank)
    rw [lowerChar_of_isBlank hblank, List.mem_singleton] at hd
    have hnone : dotGit.all (!isBlank ·) = true := by decide
    have hbare := List.all_eq_true.mp hnone d hgit
    rw [hd, hblank] at hbare
    cases hbare

/-- The ending of a path is the one that was written, if it is written behind the path. -/
theorem eq_dotGit_of_suffix (hlength : ending.length = 4) (hslash : ∀ c ∈ ending, c ≠ '/')
    (h : dotGit <:+ trim (· = '/') (path ++ ending)) : ending = dotGit := by
  have hsome : ending ≠ [] := List.ne_nil_of_length_pos (by omega)
  have hlast : ∀ c ∈ (path ++ ending).getLast?, c ≠ '/' := by
    intro c hc
    rw [List.getLast?_append_of_ne_nil _ hsome] at hc
    exact hslash c (List.mem_of_getLast? hc)
  have hwhole := h.trans (trim_suffix hlast)
  have hboth : dotGit <:+ ending :=
    List.suffix_of_suffix_length_le hwhole (List.suffix_append path ending)
      (by simp [hlength, dotGit])
  exact (hboth.eq_of_length (by simp [hlength, dotGit])).symm

/-- No ending is seen behind a blank. -/
theorem not_suffix_of_blank {blanks : List Char} (h : ∀ c ∈ blanks, isBlank c = true)
    (hsome : blanks ≠ []) (path : List Char) :
    ¬ dotGit <:+ trim (· = '/') (path ++ blanks) := by
  obtain ⟨c, hc⟩ := Option.ne_none_iff_exists'.mp (mt List.getLast?_eq_none_iff.mp hsome)
  have hblank := h c (List.mem_of_getLast? hc)
  have hwhole : (path ++ blanks).getLast? = some c := by
    rw [List.getLast?_append_of_ne_nil _ hsome, hc]
  intro hgit
  have hlast : ∀ d ∈ (path ++ blanks).getLast?, d ≠ '/' := by
    rintro d hd rfl
    obtain rfl := Option.some.inj (hwhole.symm.trans hd)
    exact absurd hblank (by decide)
  obtain ⟨before, hbefore⟩ := hgit.trans (trim_suffix hlast)
  rw [← hbefore, List.getLast?_append_of_ne_nil _ (by decide)] at hwhole
  obtain rfl : 't' = c := Option.some.inj hwhole
  exact absurd hblank (by decide)

/-- The ending is taken off together with the slashes around it. -/
theorem pathParts_append_dotGit (hearly : ∀ c ∈ early, c = '/') (path : List Char) :
    pathParts (dropGit (trim (· = '/') (path ++ early ++ dotGit))) = pathParts path := by
  have htrim : trim (· = '/') (path ++ early ++ dotGit) =
      trimStart (· = '/') (path ++ early) ++ dotGit := by
    have hlast : ∀ c ∈ (trimStart (· = '/') (path ++ early) ++ dotGit).getLast?,
        decide (c = '/') = false := by
      rw [List.getLast?_append_of_ne_nil _ (by decide)]
      rintro c ⟨⟩
      decide
    rw [trim, trimStart, List.dropWhile_append]
    split
    · next hnone =>
        rw [List.isEmpty_iff] at hnone
        rw [trimStart, hnone]
        decide
    · exact trimEnd_eq_self hlast
  have hslashes : ∀ c ∈ (path ++ early).takeWhile (· = '/'), c = '/' := fun c hc =>
    of_decide_eq_true (List.all_eq_true.mp List.all_takeWhile c hc)
  have hwhole := pathParts_slashes_append hslashes (trimStart (· = '/') (path ++ early))
  rw [trimStart, List.takeWhile_append_dropWhile] at hwhole
  rw [htrim, dropGit_append, trimStart, ← hwhole, pathParts_append_slashes hearly]

section

variable {blanks : List Char} (hblanks : ∀ c ∈ blanks, isBlank c = true)
  (hearly : ∀ c ∈ early, c = '/') (hlate : ∀ c ∈ late, c = '/')

include hblanks hearly hlate

/-- **Endings.**  A path gives the same names with something written behind it if there is no
blank between, and if the ending is the one that is taken off, and the first one. -/
theorem named_append_iff (hending : ending = [] ∨ lowerChars ending = dotGit) :
    named (path ++ (blanks ++ (early ++ (ending ++ late)))) = named path ↔
      blanks = [] ∧ (ending = [] ∨ ending = dotGit ∧ ¬ dotGit <:+ trim (· = '/') path) := by
  have htrim : trim (· = '/') (path ++ (blanks ++ (early ++ (ending ++ late)))) =
      trim (· = '/') (path ++ blanks ++ early ++ ending) := by
    have hright := trim_append_right (p := (· = '/')) (fun c hc => decide_eq_true (hlate c hc))
      (path ++ blanks ++ early ++ ending)
    rw [← hright]
    simp only [List.append_assoc]
  have hletters : letters (path ++ (blanks ++ (early ++ (ending ++ late)))) =
      letters path + blanks.length + letters ending := by
    rw [letters_append, letters_append, letters_append, letters_append, letters_slashes hearly,
      letters_slashes hlate, letters_of_isBlank hblanks]
    omega
  have hcount := letters_named path
  have hother := letters_named (path ++ (blanks ++ (early ++ (ending ++ late))))
  rw [hletters, htrim] at hother
  rcases hending with rfl | hending
  · have hnone : trim (· = '/') (path ++ blanks ++ early ++ []) =
        trim (· = '/') (path ++ blanks) := by
      rw [List.append_nil]
      exact trim_append_right (fun c hc => decide_eq_true (hearly c hc)) _
    rw [hnone] at hother htrim
    constructor
    · intro hnamed
      refine ⟨?_, .inl rfl⟩
      by_contra hsome
      have hpos := List.length_pos_iff.mpr hsome
      rw [if_neg (not_suffix_of_blank hblanks hsome path), hnamed] at hother
      omega
    · rintro ⟨rfl, -⟩
      rw [named, htrim, List.append_nil, named]
  · obtain ⟨hlength, hfour, hchars⟩ := ending_of_lower hending
    rw [hfour] at hother
    constructor
    · intro hnamed
      rw [hnamed] at hother
      by_cases hgit : dotGit <:+ trim (· = '/') (path ++ blanks ++ early ++ ending)
      · rw [if_pos hgit] at hother
        have hblank : blanks = [] := List.length_eq_zero_iff.mp (by omega)
        have hend := eq_dotGit_of_suffix hlength (fun c hc => (hchars c hc).2) hgit
        refine ⟨hblank, .inr ⟨hend, fun hagain => ?_⟩⟩
        rw [if_pos hagain] at hcount
        omega
      · rw [if_neg hgit] at hother
        omega
    · rintro ⟨rfl, rfl | ⟨rfl, hgit⟩⟩
      · cases hending
      · rw [named, htrim, List.append_nil, pathParts_append_dotGit hearly, named,
          dropGit_of_not_suffix hgit, pathParts_trim]

end

/-- What is written around a URL or behind it. -/
structure Around (before early ending late after : String) : Prop where
  before : ∀ c ∈ before.toList, isBlank c = true
  early : ∀ c ∈ early.toList, c = '/'
  ending : ending = "" ∨ Text.lower ending = ".git"
  late : ∀ c ∈ late.toList, c = '/'
  after : ∀ c ∈ after.toList, isBlank c = true

variable {body before early ending late after : String}

theorem Around.lower_ending (h : Around before early ending late after) :
    ending.toList = [] ∨ lowerChars ending.toList = dotGit := by
  rcases h.ending with rfl | hlower
  · exact .inl rfl
  · have hchars := congrArg String.toList hlower
    rw [Text.lower, String.toList_ofList] at hchars
    exact .inr hchars

/-- What is written behind a URL has no blank in it. -/
theorem Around.not_isBlank (h : Around before early ending late after) :
    ∀ c ∈ early.toList ++ (ending.toList ++ late.toList), isBlank c = false := by
  have hslash : isBlank '/' = false := by decide
  intro c hc
  rcases List.mem_append.mp hc with hearly | hc
  · rw [h.early c hearly]
    exact hslash
  · rcases List.mem_append.mp hc with hending | hlate
    · rcases h.lower_ending with hnone | hlower
      · exact absurd (hnone ▸ hending) List.not_mem_nil
      · exact ((ending_of_lower hlower).2.2 c hending).1
    · rw [h.late c hlate]
      exact hslash

/-- A URL ends in a blank if one is trimmed off its end. -/
theorem endsInBlank_iff (hsome : trim isBlank url.toList ≠ [])
    (hsplit : url.toList = lead ++ (trim isBlank url.toList ++ trail))
    (htrail : ∀ c ∈ trail, isBlank c = true) : EndsInBlank url ↔ trail ≠ [] := by
  rw [EndsInBlank]
  cases hlast : trail.getLast? with
  | none =>
      obtain rfl := List.getLast?_eq_none_iff.mp hlast
      rw [hsplit, List.append_nil, List.getLast?_append_of_ne_nil _ hsome]
      refine iff_of_false ?_ (fun hne => hne rfl)
      rintro ⟨c, hc, hblank⟩
      exact Bool.eq_false_iff.mp ((bare_trim isBlank url.toList).last c hc) hblank
  | some c =>
      have hne : trail ≠ [] := by
        rintro rfl
        cases hlast
      refine iff_of_true ⟨c, ?_, htrail c (List.mem_of_getLast? hlast)⟩ hne
      rw [hsplit, List.getLast?_append_of_ne_nil _ (List.append_ne_nil_of_right_ne_nil _ hne),
        List.getLast?_append_of_ne_nil _ hne]
      exact hlast

/-- **Around a URL.**  A URL of an index has the same client with blanks around it, and slashes or
an ending behind it, if no blank gets between, and the ending is in lower case and the first
one. -/
theorem find?_spelling_iff (hbody : (Handle.find? body).isSome = true)
    (h : Around before early ending late after) :
    Handle.find? (before ++ body ++ early ++ ending ++ late ++ after) = Handle.find? body ↔
      (early ++ ending ++ late = "" ∨ ¬ EndsInBlank body) ∧
        (ending = "" ∨ ending = ".git" ∧ ¬ EndsInGit body) := by
  obtain ⟨path, hpath, hletters⟩ := exists_leadsTo hbody
  obtain ⟨lead, trail, hsplit, hlead, htrail⟩ := exists_trimmed isBlank body.toList
  have hpath' := hpath
  obtain ⟨front, htext, hfront⟩ := hpath'
  have hsome : trim isBlank body.toList ≠ [] := by simp [htext]
  have hwhole : (before ++ body ++ early ++ ending ++ late ++ after).toList =
      before.toList ++ lead ++ ((trim isBlank body.toList ++
        (trail ++ (early.toList ++ (ending.toList ++ late.toList)))) ++ after.toList) := by
    simp only [String.toList_append, List.append_assoc]
    conv_lhs => rw [hsplit]
    simp only [List.append_assoc]
  have hstart : ∀ c ∈ before.toList ++ lead, isBlank c = true := by
    intro c hc
    exact (List.mem_append.mp hc).elim (h.before c) (hlead c)
  have hnone : early ++ ending ++ late = "" ↔
      early.toList ++ (ending.toList ++ late.toList) = [] := by
    rw [← String.toList_inj]
    simp
  have hgit : ending.toList = dotGit ↔ ending = ".git" := by
    rw [← String.toList_inj]
    rfl
  have hempty : ending.toList = [] ↔ ending = "" := by
    rw [← String.toList_inj]
    rfl
  rw [hnone, endsInBlank_iff hsome hsplit htrail, endsInGit_iff hpath hletters, not_not, ← hgit,
    ← hempty]
  by_cases htail : early.toList ++ (ending.toList ++ late.toList) = []
  · rw [htail, List.append_nil] at hwhole
    have hsame : trim isBlank (before ++ body ++ early ++ ending ++ late ++ after).toList =
        trim isBlank body.toList := by
      have hend : ∀ c ∈ trail ++ after.toList, isBlank c = true := by
        intro c hc
        exact (List.mem_append.mp hc).elim (htrail c) (h.after c)
      rw [hwhole, List.append_assoc (trim isBlank body.toList)]
      exact trim_eq_of_bare hstart (bare_trim isBlank body.toList) hend
    have hending : ending.toList = [] := (List.append_eq_nil_iff.mp
      (List.append_eq_nil_iff.mp htail).2).1
    rw [hpath.find?_eq_iff (hsame ▸ hpath) hbody]
    exact iff_of_true rfl ⟨.inl htail, .inl hending⟩
  · have hbare : Bare isBlank (trim isBlank body.toList ++
        (trail ++ (early.toList ++ (ending.toList ++ late.toList)))) := by
      refine ⟨?_, ?_⟩
      · rw [List.head?_append_of_ne_nil _ hsome]
        exact (bare_trim isBlank body.toList).first
      · rw [List.getLast?_append_of_ne_nil _ (List.append_ne_nil_of_right_ne_nil _ htail),
          List.getLast?_append_of_ne_nil _ htail]
        exact fun c hc => h.not_isBlank c (List.mem_of_getLast? hc)
    have hother : LeadsTo (trim isBlank (before ++ body ++ early ++ ending ++ late ++ after).toList)
        (path ++ (trail ++ (early.toList ++ (ending.toList ++ late.toList)))) := by
      rw [hwhole, trim_eq_of_bare hstart hbare h.after, htext]
      exact ⟨front, by simp, hfront⟩
    rw [hpath.find?_eq_iff hother hbody,
      named_append_iff htrail h.early h.late h.lower_ending, or_iff_right htail]

/-! ## The case of letters -/

/-- **Letters.**  URLs that differ in the case of their letters, one of which is that of an index
and does not end in `.git`, have one client if the other one does not end so either. -/
theorem find?_of_lower_eq_iff (hurl : (Handle.find? url).isSome = true)
    (hlower : Text.lower other = Text.lower url) (hgit : ¬ EndsInGit url) :
    Handle.find? other = Handle.find? url ↔ ¬ EndsInGit other := by
  obtain ⟨path, hpath, hletters⟩ := exists_leadsTo hurl
  have hchars : lowerChars (trim isBlank other.toList) = lowerChars (trim isBlank url.toList) := by
    have htexts := congrArg String.toList hlower
    rw [Text.lower, Text.lower, String.toList_ofList, String.toList_ofList] at htexts
    rw [← trim_lowerChars, ← trim_lowerChars, htexts]
  obtain ⟨front, htext, hfront⟩ := hpath
  rw [htext, lowerChars_append_slash, hfront] at hchars
  obtain ⟨otherFront, otherPath, hotherText, hotherFront, hsame⟩ := exists_of_lowerFrom_eq hchars
  have hother : LeadsTo (trim isBlank other.toList) otherPath :=
    ⟨otherFront, hotherText, hotherFront⟩
  have hcount := letters_congr hsame
  rw [endsInGit_iff ⟨front, htext, hfront⟩ hletters] at hgit
  rw [LeadsTo.find?_eq_iff ⟨front, htext, hfront⟩ hother hurl,
    endsInGit_iff hother (by omega)]
  constructor
  · intro hnamed hend
    have hall := letters_named path
    have hothers := letters_named otherPath
    rw [if_neg hgit] at hall
    rw [if_pos hend, hnamed] at hothers
    omega
  · intro hend
    rw [named, named, dropGit_of_not_suffix hend, dropGit_of_not_suffix hgit, pathParts_trim,
      pathParts_trim, ← pathParts_lowerChars, ← pathParts_lowerChars, hsame]

theorem endsInBlank_of_lower_eq (hlower : Text.lower other = Text.lower url)
    (h : EndsInBlank other) : EndsInBlank url := by
  obtain ⟨c, hc, hblank⟩ := h
  have htexts := congrArg String.toList hlower
  rw [Text.lower, Text.lower, String.toList_ofList, String.toList_ofList] at htexts
  have hsome : lowerChars other.toList ≠ [] :=
    lowerFrom_ne_nil (List.ne_nil_of_mem (List.mem_of_getLast? hc))
  obtain ⟨d, hd⟩ := Option.ne_none_iff_exists'.mp (mt List.getLast?_eq_none_iff.mp hsome)
  obtain ⟨last, hlast, hsame⟩ := exists_of_getLast?_lowerFrom hd
  obtain rfl := Option.some.inj (hc.symm.trans hlast)
  rw [htexts] at hd
  obtain ⟨other, hother, hagain⟩ := exists_of_getLast?_lowerFrom hd
  exact ⟨other, hother, by rw [← hagain, hsame, hblank]⟩

/-- **Spellings.**  A URL of an index that ends neither in a blank nor in `.git` may be written in
another case, with blanks around it and slashes and an ending behind it: it has the same
client if and only if the ending is in lower case. -/
theorem find?_spelling_of_lower_iff (hbody : (Handle.find? body).isSome = true)
    (hblank : ¬ EndsInBlank body) (hgit : ¬ EndsInGit body)
    (hlower : Text.lower other = Text.lower body) (hother : ¬ EndsInGit other)
    (h : Around before early ending late after) :
    Handle.find? (before ++ other ++ early ++ ending ++ late ++ after) = Handle.find? body ↔
      ending = "" ∨ ending = ".git" := by
  have hsame := (find?_of_lower_eq_iff hbody hlower hgit).mpr hother
  have hsome : (Handle.find? other).isSome = true := hsame ▸ hbody
  have hnot : ¬ EndsInBlank other := fun hends => hblank (endsInBlank_of_lower_eq hlower hends)
  rw [← hsame, find?_spelling_iff hsome h]
  simp [hnot, hother]

end Address

end ManifestLint
