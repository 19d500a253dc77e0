import ManifestLint.Index.Layout

/-!
# What a tree lists

The entries of a tree are JSON tables, of which only the path, the id and the
type are read.  A table is **well formed** if path and id are texts; hosts give
no others.  The root and the subtrees of well-formed entries can always be
read, and what they list is a filter of the entries, in their order:
`Root.ofEntries_wellFormed`, `Author.ofEntries_wellFormed`.

For the root it is enough that the paths are texts.  Its configuration is the
last of the files that are named like a JSON file: `Root.ofEntries_eq`.
-/

namespace ManifestLint.Index

/-- The path of an entry is a text. -/
def HasPath (entry : Entries String Json) : Prop :=
  ∃ path, valueOf entry "path" = .string path

/-- The path and the id of an entry are texts. -/
def WellFormed (entry : Entries String Json) : Prop :=
  (∃ path, valueOf entry "path" = .string path) ∧ ∃ id, valueOf entry "sha" = .string id

/-- The path of an entry in lower case. -/
def nameOf (entry : Entries String Json) : String :=
  match valueOf entry "path" with
  | .string path => Text.lower path
  | _ => ""

/-- The name of an entry, and the id of what it names. -/
def entryOf (entry : Entries String Json) : Entry := ⟨nameOf entry, valueOf entry "sha"⟩

/-- The subtrees among the entries of a root. -/
def subtreesIn (entries : List (Entries String Json)) : List Entry :=
  (entries.filter isTree).map entryOf

/-- An entry under its path as it is written, if it is a file that is named like a JSON file. -/
def jsonFile? (entry : Entries String Json) : Option Entry :=
  match valueOf entry "path" with
  | .string path =>
    if isTree entry = false ∧ ".json".toList <:+ path.toList then
      some ⟨path, valueOf entry "sha"⟩
    else none
  | _ => none

/-- The files among the entries of a root that are named like a JSON file. -/
def jsonFilesIn (entries : List (Entries String Json)) : List Entry :=
  entries.filterMap jsonFile?

/-- The packages among the entries of an author's subtree. -/
def packagesIn (entries : List (Entries String Json)) : List Entry :=
  (entries.filter isPackage).map entryOf

/-- An id of an entry that counts. -/
def HasId (entry : Entry) : Prop := entry.id.kind ≠ .null

variable {entries : List (Entries String Json)} {entry : Entries String Json}

theorem entryOf_of_path {path : String} (hpath : valueOf entry "path" = .string path) :
    entryOf entry = ⟨Text.lower path, valueOf entry "sha"⟩ := by
  rw [entryOf, nameOf, hpath]

theorem WellFormed.hasId (h : WellFormed entry) : HasId (entryOf entry) := by
  obtain ⟨-, id, hid⟩ := h
  simp [HasId, entryOf, hid, Json.kind]

theorem hasId_subtreesIn (h : ∀ entry ∈ entries, WellFormed entry) :
    ∀ subtree ∈ subtreesIn entries, HasId subtree := by
  intro subtree hmem
  obtain ⟨entry, hentry, rfl⟩ := List.mem_map.mp hmem
  exact (h entry (List.mem_filter.mp hentry).1).hasId

theorem jsonFile?_of_path {path : String} (hpath : valueOf entry "path" = .string path) :
    jsonFile? entry =
      if isTree entry = false ∧ ".json".toList <:+ path.toList then
        some ⟨path, valueOf entry "sha"⟩
      else none := by
  rw [jsonFile?, hpath]

/-- An entry is added to the authors if it is a tree, and it takes the place of the configuration
if it is named like a JSON file. -/
theorem Root.add_eq (root : Root) (h : HasPath entry) :
    root.add entry =
      .ok ⟨root.authors ++ subtreesIn [entry], (jsonFile? entry).or root.config⟩ := by
  obtain ⟨path, hpath⟩ := h
  rw [jsonFile?_of_path hpath]
  cases htree : isTree entry with
  | true =>
      have hadd : root.add entry =
          .ok { root with authors := root.authors ++ [entryOf entry] } := by
        rw [Root.add, htree, entryOf_of_path hpath, hpath]
        rfl
      simp [hadd, subtreesIn, htree]
  | false =>
      have hadd : root.add entry =
          if ".json".toList.isSuffixOf path.toList then
            .ok { root with config := some ⟨path, valueOf entry "sha"⟩ }
          else .ok root := by
        rw [Root.add, htree, hpath]
        rfl
      have hnone : subtreesIn [entry] = [] := by simp [subtreesIn, htree]
      rw [hadd, hnone, List.append_nil]
      by_cases hfile : ".json".toList <:+ path.toList
      · rw [if_pos (List.isSuffixOf_iff_suffix.mpr hfile), if_pos ⟨rfl, hfile⟩]
        rfl
      · rw [if_neg (mt List.isSuffixOf_iff_suffix.mp hfile), if_neg (fun h => hfile h.2)]
        rfl

theorem foldlM_add_eq (root : Root) (h : ∀ entry ∈ entries, HasPath entry) :
    entries.foldlM Root.add root =
      .ok ⟨root.authors ++ subtreesIn entries, (jsonFilesIn entries).getLast?.or root.config⟩ := by
  induction entries generalizing root with
  | nil => simp [subtreesIn, jsonFilesIn, pure, Except.pure]
  | cons entry rest ih =>
      obtain ⟨hentry, hrest⟩ := List.forall_mem_cons.mp h
      have hsubtrees : subtreesIn (entry :: rest) = subtreesIn [entry] ++ subtreesIn rest := by
        rw [← List.singleton_append]
        simp only [subtreesIn, List.filter_append, List.map_append]
      have hfiles : (jsonFilesIn (entry :: rest)).getLast?.or root.config =
          (jsonFilesIn rest).getLast?.or ((jsonFile? entry).or root.config) := by
        rw [jsonFilesIn, List.filterMap_cons]
        cases jsonFile? entry with
        | none => rfl
        | some file =>
            rw [List.getLast?_cons, jsonFilesIn]
            cases (rest.filterMap jsonFile?).getLast? <;> rfl
      rw [List.foldlM_cons, root.add_eq hentry, hsubtrees, hfiles, ← List.append_assoc]
      exact ih _ hrest

/-- **The root.**  It lists the subtrees of its entries, and its configuration is the last of the
files that are named like a JSON file. -/
theorem Root.ofEntries_eq (h : ∀ entry ∈ entries, HasPath entry) :
    Root.ofEntries entries = .ok ⟨subtreesIn entries, (jsonFilesIn entries).getLast?⟩ := by
  rw [ofEntries, foldlM_add_eq {} h, List.nil_append, Option.or_none]

/-- The root of well-formed entries lists their subtrees. -/
theorem Root.ofEntries_wellFormed (h : ∀ entry ∈ entries, WellFormed entry) :
    ∃ root, Root.ofEntries entries = .ok root ∧ root.authors = subtreesIn entries :=
  ⟨_, ofEntries_eq fun entry hmem => (h entry hmem).1, rfl⟩

theorem packageEntry_wellFormed (h : WellFormed entry) :
    packageEntry entry = .ok (entryOf entry) := by
  obtain ⟨⟨path, hpath⟩, -⟩ := h
  rw [packageEntry, entryOf_of_path hpath, hpath]
  rfl

theorem mapM_packageEntry_wellFormed (h : ∀ entry ∈ entries, WellFormed entry) :
    entries.mapM packageEntry = .ok (entries.map entryOf) := by
  induction entries with
  | nil => rfl
  | cons entry rest ih =>
      have hfirst := packageEntry_wellFormed (h entry List.mem_cons_self)
      have hrest := ih fun later hmem => h later (List.mem_cons_of_mem _ hmem)
      rw [List.mapM_cons, hfirst, hrest]
      rfl

/-- The author of well-formed entries lists their packages. -/
theorem Author.ofEntries_wellFormed (name : String) (id : Json)
    (h : ∀ entry ∈ entries, WellFormed entry) :
    Author.ofEntries name id entries = .ok ⟨name, id, packagesIn entries⟩ := by
  have hfilter : ∀ entry ∈ entries.filter isPackage, WellFormed entry :=
    fun entry hmem => h entry (List.mem_filter.mp hmem).1
  rw [Author.ofEntries, mapM_packageEntry_wellFormed hfilter]
  rfl

/-- An author has the id that its subtree was read under. -/
theorem Author.ofEntries_id {name : String} {id : Json} {author : Author}
    (h : Author.ofEntries name id entries = .ok author) : author.id = id := by
  rw [Author.ofEntries] at h
  cases hpackages : (entries.filter isPackage).mapM packageEntry with
  | error error => rw [hpackages] at h; cases h
  | ok packages => rw [hpackages] at h; cases h; rfl

/-! ## Looking a name up -/

variable {listed : List Entry} {name : String}

/-- Where all ids count, an id is found under the names that are listed. -/
theorem idOf?_eq_none_iff (h : ∀ entry ∈ listed, HasId entry) :
    Index.idOf? listed name = none ↔ name ∉ listed.map (·.name) := by
  have hfind : listed.find? (·.name = name) = none ↔ name ∉ listed.map (·.name) := by
    simp [List.find?_eq_none]
  rw [← hfind, Index.idOf?]
  cases hfound : listed.find? (·.name = name) with
  | none => simp
  | some entry =>
      have hid : entry.id.kind ≠ .null := h entry (List.mem_of_find?_eq_some hfound)
      simp [hid]

/-- An id is that of an entry under the name. -/
theorem mem_of_idOf? {id : Json} (h : Index.idOf? listed name = some id) :
    ∃ entry ∈ listed, entry.name = name ∧ entry.id = id := by
  rw [Index.idOf?] at h
  split at h
  · next entry hfound =>
      split at h
      · cases h
      · have hname : entry.name = name := by simpa using List.find?_some hfound
        exact ⟨entry, List.mem_of_find?_eq_some hfound, hname, Option.some.inj h⟩
  · cases h

end ManifestLint.Index
