/-!
# Entries in order of insertion

A finite map that remembers the order in which its keys were first put in.  Putting a value under
a key that is already there keeps the key's place, and a key that was taken out comes last when it
is put in again.

* `get?_put`: what is read after a write.
* `get?_erase`: what is read after a removal.
* `put_put`: of two writes under one key the second counts.
* `keys_put`, `put_of_notMem`: a write adds its key at the end, or not at all if it is there.
* `mem_keys_iff`: the keys are those under which there is a value.
* `mem_of_get?`, `get?_of_mem`: what is under a key is one of the pairs, and the other way round if
  no key is there twice.
-/

namespace ManifestLint

/-- A finite map as its pairs, in order of insertion. -/
abbrev Entries (κ ν : Type) := List (κ × ν)

namespace Entries

variable {κ ν : Type} [DecidableEq κ]

/-- The value under a key. -/
def get? (entries : Entries κ ν) (key : κ) : Option ν :=
  match entries with
  | [] => none
  | (k, v) :: rest => if k = key then some v else get? rest key

/-- Whether a key is there. -/
def has (entries : Entries κ ν) (key : κ) : Bool := (get? entries key).isSome

/-- The map with a value put under a key. -/
def put (entries : Entries κ ν) (key : κ) (value : ν) : Entries κ ν :=
  match entries with
  | [] => [(key, value)]
  | (k, v) :: rest => if k = key then (k, value) :: rest else (k, v) :: put rest key value

/-- The map without a key. -/
def erase (entries : Entries κ ν) (key : κ) : Entries κ ν :=
  List.filter (fun pair => pair.1 ≠ key) entries

/-- The keys, in order of insertion. -/
def keys (entries : Entries κ ν) : List κ := List.map Prod.fst entries

/-- The map that results from putting pairs in one after the other. -/
def ofPairs (pairs : List (κ × ν)) : Entries κ ν :=
  pairs.foldl (fun entries pair => put entries pair.1 pair.2) []

theorem get?_put (entries : Entries κ ν) (key other : κ) (value : ν) :
    get? (put entries key value) other
      = if key = other then some value else get? entries other := by
  induction entries with
  | nil => simp [put, get?]
  | cons pair rest ih =>
    by_cases same : pair.1 = key
    · simp only [put, same, if_true, get?]
      by_cases equal : key = other <;> simp [equal]
    · simp only [put, same, if_false, get?, ih]
      by_cases equal : key = other
      · simp [← equal, same]
      · simp [equal]

theorem get?_erase (entries : Entries κ ν) (key other : κ) :
    get? (erase entries key) other = if key = other then none else get? entries other := by
  induction entries with
  | nil => simp [erase, get?]
  | cons pair rest ih =>
    have step : erase (pair :: rest) key
        = if pair.1 = key then erase rest key else pair :: erase rest key := by
      by_cases same : pair.1 = key <;> simp [erase, same]
    rw [step]
    by_cases same : pair.1 = key
    · rw [if_pos same, ih]
      by_cases equal : key = other
      · simp [equal]
      · simp [get?, same, equal]
    · rw [if_neg same, get?, get?, ih]
      by_cases equal : key = other
      · simp [← equal, same]
      · simp [equal]

theorem put_put (entries : Entries κ ν) (key : κ) (first second : ν) :
    put (put entries key first) key second = put entries key second := by
  induction entries with
  | nil => simp [put]
  | cons pair rest ih =>
    by_cases same : pair.1 = key <;> simp [put, same, ih]

theorem keys_put (entries : Entries κ ν) (key : κ) (value : ν) :
    keys (put entries key value)
      = if key ∈ keys entries then keys entries else keys entries ++ [key] := by
  induction entries with
  | nil => simp [put, keys]
  | cons pair rest ih =>
    by_cases same : pair.1 = key
    · simp [put, keys, same]
    · have other : ¬ key = pair.1 := fun equal => same equal.symm
      simp only [put, same, if_false, keys, List.map_cons, List.mem_cons, other, false_or]
      simp only [keys] at ih
      rw [ih]
      split <;> simp [*]

theorem put_of_notMem {entries : Entries κ ν} {key : κ} (hkey : key ∉ keys entries) (value : ν) :
    put entries key value = entries ++ [(key, value)] := by
  induction entries with
  | nil => rfl
  | cons pair rest ih =>
    obtain ⟨other, hrest⟩ : key ≠ pair.1 ∧ key ∉ keys rest := by simpa [keys] using hkey
    rw [put, if_neg other.symm, ih hrest]
    rfl

theorem mem_keys_iff (entries : Entries κ ν) (key : κ) :
    key ∈ keys entries ↔ (has entries key = true) := by
  induction entries with
  | nil => simp [keys, has, get?]
  | cons pair rest ih =>
    by_cases same : pair.1 = key
    · simp [keys, has, get?, same]
    · have other : ¬ key = pair.1 := fun equal => same equal.symm
      simpa [keys, has, get?, same, other] using ih

theorem mem_of_get? (entries : Entries κ ν) (key : κ) {value : ν}
    (hget : get? entries key = some value) : (key, value) ∈ entries := by
  induction entries with
  | nil => cases hget
  | cons pair rest ih =>
    by_cases same : pair.1 = key
    · simp only [get?, same, if_true, Option.some.injEq] at hget
      simp [← same, ← hget]
    · simp only [get?, same, if_false] at hget
      exact List.mem_cons_of_mem _ (ih hget)

theorem get?_of_mem (entries : Entries κ ν) (unique : (keys entries).Nodup) {pair : κ × ν}
    (hmem : pair ∈ entries) : get? entries pair.1 = some pair.2 := by
  induction entries with
  | nil => cases hmem
  | cons first rest ih =>
    obtain ⟨fresh, unique⟩ := List.nodup_cons.mp unique
    rcases List.mem_cons.mp hmem with rfl | later
    · simp [get?]
    · have other : ¬ first.1 = pair.1 := fun same =>
        fresh (same ▸ List.mem_map_of_mem later)
      simp only [get?, other, if_false]
      exact ih unique later

theorem nodup_keys_put (entries : Entries κ ν) (key : κ) (value : ν)
    (unique : (keys entries).Nodup) : (keys (put entries key value)).Nodup := by
  rw [keys_put]
  split
  · exact unique
  · next fresh =>
    refine List.nodup_append.mpr ⟨unique, by simp, ?_⟩
    intro other hmem last hlast same
    exact fresh (List.mem_singleton.mp hlast ▸ same ▸ hmem)

theorem nodup_keys_erase (entries : Entries κ ν) (key : κ) (unique : (keys entries).Nodup) :
    (keys (erase entries key)).Nodup :=
  (List.filter_sublist.map Prod.fst).nodup unique

end Entries

end ManifestLint
