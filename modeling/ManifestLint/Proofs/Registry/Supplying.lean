import ManifestLint.Proofs.Index.Spellings
import ManifestLint.Proofs.Registry.Declared
import ManifestLint.Proofs.Registry.VersionVerdict

/-!
# Which index a package comes from

What is shown of a package has the URL of an index with it, and the page of the package if
that is the URL of the public index.  The package itself may come from any index of the
chain.  The first one that has it **supplies** it: those before it were read and do not have
the package, or could not be read.

The search gives the package without saying who supplied it, and what is shown gets the URL of
the client that was asked.

* `exists_supplies`: a search that finds something has been supplied with it.
* `isPublic_iff`: the URL of the public index is told from those of all others.
* `Instant.shown_url_iff`: when what is shown has the URL of the index that supplied it.
* `shown_url_of_fallback`: a package that only a fall-back has is shown with a page.
-/

namespace ManifestLint

/-! ## The public index -/

namespace Address

open Text

variable {url : String} {address : Address}

/-- Owner and repository of an address that was read are parts of a path. -/
theorem parts_of_parse (h : parse url = .ok address) :
    ∀ part ∈ [address.owner.toList, address.repository.toList],
      part ≠ [] ∧ '/' ∉ part ∧ ∀ c ∈ part, IsLower c := by
  obtain ⟨path, -, hnamed⟩ := parse_eq_ok_iff.mp h
  exact fun part hpart => mem_named (hnamed ▸ hpart)

/-- The URL of an address that was read is in lower case already. -/
theorem lowerChars_url (h : parse url = .ok address) :
    lowerChars address.url.toList = address.url.toList := by
  obtain ⟨-, -, howner⟩ := parts_of_parse h address.owner.toList (by simp)
  obtain ⟨-, -, hrepository⟩ := parts_of_parse h address.repository.toList (by simp)
  have hhost : lowerChars host = host := by decide
  rw [url_toList, lowerChars_append_slash, lowerChars_append_slash, hhost, lowerChars,
    lowerFrom_eq_self howner, lowerChars, lowerFrom_eq_self hrepository]

/-- The URL of an address that was read does not end in a slash. -/
theorem trimEnd_slash_url (h : parse url = .ok address) :
    trimEnd (· = '/') address.url.toList = address.url.toList := by
  obtain ⟨hsome, hslash, -⟩ := parts_of_parse h address.repository.toList (by simp)
  refine trimEnd_eq_self fun c hc => ?_
  rw [url_toList, ← List.cons_append, ← List.append_assoc,
    List.getLast?_append_of_ne_nil _ (List.cons_ne_nil _ _),
    List.getLast?_cons_of_ne_nil hsome] at hc
  exact decide_eq_false fun hsame => hslash (hsame ▸ List.mem_of_getLast? hc)

theorem parse_publicIndexUrl : parse publicIndexUrl = .ok ⟨"upliftgames", "wally-index"⟩ :=
  eq_ok_of_toOption (by decide +kernel)

/-- Up to the case of its letters, the URL of the public index is the URL of no other address. -/
theorem isPublic_iff (h : parse url = .ok address) :
    trimEnd (· = '/') (lowerChars address.url.toList) = lowerChars publicIndexUrl.toList ↔
      parse publicIndexUrl = .ok address := by
  have hpublic : lowerChars publicIndexUrl.toList =
      (Address.mk "upliftgames" "wally-index").url.toList := by decide +kernel
  rw [lowerChars_url h, trimEnd_slash_url h, hpublic, parse_publicIndexUrl, String.toList_inj]
  constructor
  · intro hurl
    have hsame := eq_of_url_eq (slash_not_mem_owner h)
      (slash_not_mem_owner parse_publicIndexUrl) hurl
    exact congrArg Except.ok hsame.symm
  · intro hsame
    exact congrArg Address.url (Except.ok.inj hsame).symm

end Address

namespace Handle

/-- The address of the client was read from a URL, as those of all clients are. -/
def Addressed (handle : Handle) : Prop := ∃ url, Address.parse url = .ok handle.address

/-- The client is one of the public index. -/
def IsPublic (handle : Handle) : Prop := Address.parse publicIndexUrl = .ok handle.address

theorem Stored.addressed {handle : Handle} (h : handle.Stored) : handle.Addressed := by
  obtain ⟨url, hfind⟩ := h
  obtain ⟨address, rfl, hparse⟩ := Address.find?_eq_some_iff.mp hfind
  exact ⟨url, hparse⟩

end Handle

namespace Index

/-- A package has a page if it is shown with the URL of the public index. -/
theorem Overview.webUrl_ne_iff {overview : Overview} {handle : Handle}
    (hhandle : handle.Addressed) (hurl : overview.indexUrl = handle.url) :
    overview.webUrl ≠ "" ↔ handle.IsPublic := by
  obtain ⟨url, hparse⟩ := hhandle
  rw [Handle.IsPublic, ← Address.isPublic_iff hparse, webUrl, hurl, Handle.url]
  split
  · next hpublic => simpa [String.ext_iff] using hpublic
  · next hother => simpa using hother

/-- The record that is picked for a requirement is one of the package. -/
theorem Package.mem_of_findSatisfying? {package : Package} {requirement : String} {record : Record}
    (h : package.findSatisfying? requirement = .ok (some record)) : record ∈ package.records := by
  obtain ⟨versions, hnewest⟩ := newestFirst_of_findSatisfying? h
  rw [findSatisfying?, hnewest] at h
  change (Version.latestSatisfying? requirement versions >>= _) = _ at h
  cases hpicked : Version.latestSatisfying? requirement versions with
  | error refused =>
      rw [hpicked] at h
      cases h
  | ok picked =>
      rw [hpicked] at h
      cases picked with
      | none => cases h
      | some version =>
          have hget : (if version = "" then none else package.get? version) = some record :=
            Except.ok.inj h
          split at hget
          · cases hget
          · exact List.mem_reverse.mp (List.mem_of_find?_eq_some hget)

end Index

namespace Instant

variable {world : World Registry} {instant : Instant Registry} {own : Handle}

/-! ## The chain -/

/-- The chain of a client starts with the client.  Its indexes all have addresses and are
different from each other. -/
theorem chain_eq_cons (hown : own.Addressed) {chain : List Handle}
    (hchain : instant.value world (Lookup.chain own) = some chain) :
    (∃ rest, chain = own :: rest) ∧ (∀ handle ∈ chain, handle.Addressed) ∧
      (chain.map Handle.url).Nodup := by
  cases own with
  | alone name address =>
      obtain rfl : [.alone name address] = chain := Option.some.inj hchain
      exact ⟨⟨[], rfl⟩, List.forall_mem_singleton.mpr hown, List.pairwise_singleton _ _⟩
  | shared address =>
      obtain ⟨url, hparse⟩ := hown
      have hstored : (Handle.shared address).Stored :=
        ⟨url, Address.find?_eq_some_iff.mpr ⟨address, rfl, hparse⟩⟩
      obtain rfl := chain_of_value hstored hchain
      refine ⟨⟨_, rfl⟩, fun handle hmem => ?_, nodup_url_declaredChain hstored⟩
      rcases mem_declaredChain_iff.mp hmem with rfl | ⟨declared, -, hfind⟩
      · exact hstored.addressed
      · exact Handle.Stored.addressed ⟨declared, hfind⟩

/-- Only the first client of a chain has its URL. -/
theorem url_eq_iff_eq_nil {supplier : Handle} {before after rest : List Handle}
    (hchain : before ++ supplier :: after = own :: rest)
    (hnodup : ((before ++ supplier :: after).map Handle.url).Nodup) :
    own.url = supplier.url ↔ before = [] := by
  cases before with
  | nil => exact iff_of_true (congrArg Handle.url (List.cons.inj hchain).1.symm) rfl
  | cons first others =>
      obtain rfl := (List.cons.inj hchain).1
      refine iff_of_false (fun hsame => ?_) (List.cons_ne_nil _ _)
      have hnew := (List.nodup_cons.mp hnodup).1
      exact hnew (by simp [hsame])

/-! ## Supplying -/

section

variable {α β : Type} {read : Handle → Read α} {pick : α → Option β}

/-- When a walk has passed some indexes. -/
def walked (world : World Registry) (instant : Instant Registry) (read : Handle → Read α)
    (passed : List Handle) : Instant Registry :=
  passed.foldl (fun now handle => now.after world (Lookup.attempt handle (read handle))) instant

/-- Behind some indexes of a chain an index supplies a value: a walk passes those, and then the
index can be read and has the value. -/
structure Supplies (world : World Registry) (instant : Instant Registry)
    (read : Handle → Read α) (pick : α → Option β) (before : List Handle) (supplier : Handle)
    (value : β) : Prop where
  passed : Lookup.AllPassed pick (readings world instant read before)
  has : ∃ level, (walked world instant read before).value world (read supplier) = some level ∧
    pick level = some value

/-- Before a supplier a walk may pass one more index. -/
theorem Supplies.behind {handle supplier : Handle} {before : List Handle} {value : β}
    (h : Supplies world (instant.after world (Lookup.attempt handle (read handle))) read pick
      before supplier value)
    (hpassed : (instant.value world (read handle)).bind pick = none) :
    Supplies world instant read pick (handle :: before) supplier value :=
  ⟨List.forall_mem_cons.mpr ⟨hpassed, h.passed⟩, h.has⟩

/-- The first index of a chain supplies all that it has, and nothing else. -/
theorem Supplies.eq_nil_iff {supplier : Handle} {before after rest : List Handle} {value : β}
    (h : Supplies world instant read pick before supplier value)
    (hchain : before ++ supplier :: after = own :: rest) :
    before = [] ↔ ∃ level, instant.value world (read own) = some level ∧
      (pick level).isSome = true := by
  cases before with
  | nil =>
      obtain rfl := (List.cons.inj hchain).1
      obtain ⟨level, hlevel, hpick⟩ := h.has
      exact iff_of_true rfl ⟨level, hlevel, Option.isSome_of_eq_some hpick⟩
  | cons first others =>
      obtain rfl := (List.cons.inj hchain).1
      have hnone : (instant.value world (read first)).bind pick = none :=
        h.passed _ List.mem_cons_self
      refine iff_of_false (List.cons_ne_nil _ _) ?_
      rintro ⟨level, hlevel, hpick⟩
      rw [hlevel, Option.bind_some] at hnone
      rw [hnone] at hpick
      cases hpick

/-- **Suppliers.**  What a search finds, some index of the chain has supplied. -/
theorem exists_supplies {chain : List Handle} {failed : Bool} {found : Lookup.Found β} {value : β}
    (hfound : instant.value world (Lookup.searchFrom read pick failed chain) = some found)
    (hvalue : found.value = some value) :
    ∃ before supplier after, chain = before ++ supplier :: after ∧
      Supplies world instant read pick before supplier value := by
  induction chain generalizing instant failed with
  | nil =>
      obtain rfl := Option.some.inj hfound
      cases hvalue
  | cons handle rest ih =>
      rw [Lookup.searchFrom, value_bind] at hfound
      obtain ⟨reading, hreading, hrest⟩ := Option.bind_eq_some_iff.mp hfound
      have hread := read_of_value_attempt hreading
      cases reading with
      | none =>
          obtain ⟨before, supplier, after, rfl, hsupplies⟩ := ih hrest
          exact ⟨handle :: before, supplier, after, rfl, hsupplies.behind (hread ▸ rfl)⟩
      | some level =>
          dsimp only at hrest
          cases hpick : pick level with
          | none =>
              rw [hpick] at hrest
              obtain ⟨before, supplier, after, rfl, hsupplies⟩ := ih hrest
              exact ⟨handle :: before, supplier, after, rfl, hsupplies.behind (hread ▸ hpick)⟩
          | some other =>
              rw [hpick] at hrest
              obtain rfl := Option.some.inj hrest
              obtain rfl := Option.some.inj hvalue
              exact ⟨[], handle, rest, rfl, List.forall_mem_nil _, level, hread.symm, hpick⟩

end

/-! ## What is shown -/

variable {author name requirement : String} {overview : Index.Overview}

/-- What is shown is a record of the package that was found, and the URL of the client that was
asked. -/
theorem exists_found_of_shown
    (hshown : instant.value world (Lookup.describe own author name requirement) =
      some (some overview)) :
    ∃ found package,
      instant.value world (Lookup.package own author name) = some found ∧
      found.value = some package ∧
      package.findSatisfying? requirement = .ok (some overview.record) ∧
      overview.indexUrl = own.url := by
  rw [Lookup.describe, value_bind] at hshown
  obtain ⟨found, hfound, hrest⟩ := Option.bind_eq_some_iff.mp hshown
  rcases found with ⟨_ | package, failed⟩
  · cases Option.some.inj hrest
  · dsimp only at hrest
    rw [value_bind, value_ofVersions] at hrest
    obtain ⟨picked, hpicked, hrecord⟩ := Option.bind_eq_some_iff.mp hrest
    cases picked with
    | none => cases Option.some.inj hrecord
    | some record =>
        dsimp only at hrecord
        rw [value_bind] at hrecord
        obtain ⟨newest, -, hoverview⟩ := Option.bind_eq_some_iff.mp hrecord
        obtain rfl := Option.some.inj (Option.some.inj hoverview)
        exact ⟨_, package, hfound, rfl, eq_ok_of_toOption hpicked, rfl⟩

/-- A record comes from an index of a client's chain: the index supplies the package, and the
record is the one that is picked from it for the requirement. -/
def ComesFrom (world : World Registry) (instant : Instant Registry) (own : Handle)
    (author name requirement : String) (record : Record) (supplier : Handle) : Prop :=
  ∃ before after package,
    instant.value world (Lookup.chain own) = some (before ++ supplier :: after) ∧
    Supplies world (instant.after world (Lookup.chain own)) (Read.package · author name) id
      before supplier package ∧
    package.findSatisfying? requirement = .ok (some record) ∧ record ∈ package.records

/-- **The URL of what is shown.**  Whatever the requests are answered with and whatever others do
meanwhile: if something of a package is shown, its record comes from an index of the chain,
but the URL is that of the client that was asked.  So it is the URL of the index that
supplied the package if and only if the client's own index has the package.  And that a
package has a page means that the public index supplied it, unless a client of the public
index was asked for a package that its own index does not have. -/
theorem shown_url_iff (hown : own.Addressed)
    (hshown : instant.value world (Lookup.describe own author name requirement) =
      some (some overview)) :
    let start := instant.after world (Lookup.chain own)
    let has := ∃ package, start.value world (Read.package own author name) = some (some package)
    overview.indexUrl = own.url ∧ (overview.webUrl ≠ "" ↔ own.IsPublic) ∧
      ∃ supplier, ComesFrom world instant own author name requirement overview.record supplier ∧
        (overview.indexUrl = supplier.url ↔ has) ∧
        ((overview.webUrl ≠ "" → supplier.IsPublic) ↔ (own.IsPublic → has)) := by
  intro start has
  obtain ⟨found, package, hfound, hvalue, hrecord, hurl⟩ := exists_found_of_shown hshown
  rw [Lookup.package, Lookup.search, value_bind] at hfound
  obtain ⟨chain, hchain, hsearch⟩ := Option.bind_eq_some_iff.mp hfound
  obtain ⟨before, supplier, after, rfl, hsupplies⟩ := exists_supplies hsearch hvalue
  obtain ⟨⟨rest, hfirst⟩, haddressed, hnodup⟩ := chain_eq_cons hown hchain
  have hpage := Index.Overview.webUrl_ne_iff hown hurl
  have hhas : before = [] ↔ has := by
    rw [hsupplies.eq_nil_iff hfirst]
    simp [has, start, Option.isSome_iff_exists]
  have hsupplier := url_eq_iff_eq_nil hfirst hnodup
  refine ⟨hurl, hpage, supplier, ⟨before, after, package, hchain, hsupplies, hrecord,
    Index.Package.mem_of_findSatisfying? hrecord⟩, ?_, ?_⟩
  · rw [hurl, hsupplier, hhas]
  · rw [hpage, ← hhas, ← hsupplier]
    refine forall_congr' fun hpublic => ?_
    have hsame : supplier.IsPublic ↔ own.address = supplier.address := by
      rw [Handle.IsPublic, hpublic, Except.ok.injEq]
    obtain ⟨url, hparse⟩ := hown
    obtain ⟨other, hother⟩ := haddressed supplier (by simp)
    rw [hsame]
    constructor
    · exact congrArg Address.url
    · exact Address.eq_of_url_eq (Address.slash_not_mem_owner hparse)
        (Address.slash_not_mem_owner hother)

end Instant

/-! ## A page for a package of a fall-back

The public index has a package and names a fall-back, which has a package of an author that the
public index does not list. -/

namespace Borrowed

/-- A history with one version. -/
def history (name : String) : String :=
  "\x7b\"package\": \x7b\"name\": \"" ++ name ++ "\", \"version\": \"1.0.0\"\x7d\x7d\n"

/-- Both indexes. -/
def host : Host := .repositories [
  ("upliftgames/wally-index", {
    trees := [("main", .payload (.array [PassedOver.entry "c" "tree" "tc",
        PassedOver.entry "config.json" "blob" "config"])),
      ("tc", .payload (.array [PassedOver.entry "d" "blob" "bd"]))]
    blobs := [("config", .payload (.string PassedOver.configuration)),
      ("bd", .payload (.string (history "c/d")))] }),
  ("o/f", {
    trees := [("main", .payload (.array [PassedOver.entry "a" "tree" "ta"])),
      ("ta", .payload (.array [PassedOver.entry "b" "blob" "bb"]))]
    blobs := [("bb", .payload (.string (history "a/b")))] })]

/-- The client of the public index. -/
def client : Handle := .shared ⟨"upliftgames", "wally-index"⟩

/-- The client of the fall-back. -/
def fallback : Handle := .shared ⟨"o", "f"⟩

/-- What is shown of a package with the one version. -/
def shown (name : String) : Index.Overview where
  record := {
    name
    version := "1.0.0"
    dependencies := [(.shared, []), (.server, []), (.dev, [])] }
  latest := "1.0.0"
  latestSatisfying := "1.0.0"
  indexUrl := client.url

end Borrowed

open Borrowed in
/-- A package of the public index is shown with its URL, and has a page. -/
theorem shown_url_of_own :
    let world : World Registry := .steady host.answer
    PassedOver.start.value world (Lookup.describe client "c" "d" "1.0.0") =
        some (some (shown "c/d")) ∧
      (shown "c/d").webUrl ≠ "" ∧
      ∃ supplier, Instant.ComesFrom world PassedOver.start client "c" "d" "1.0.0"
          (shown "c/d").record supplier ∧
        (shown "c/d").indexUrl = supplier.url ∧ supplier.IsPublic := by
  intro world
  have hown : client.Addressed := ⟨publicIndexUrl, Address.parse_publicIndexUrl⟩
  have hpublic : client.IsPublic := Address.parse_publicIndexUrl
  have hshown : PassedOver.start.value world (Lookup.describe client "c" "d" "1.0.0") =
      some (some (shown "c/d")) := by decide +kernel
  have hread : (PassedOver.start.after world (Lookup.chain client)).value world
      (Read.package client "c" "d") =
        some (some ⟨"c", "d", Record.history (history "c/d").toList⟩) := by decide +kernel
  obtain ⟨-, hpage, supplier, hfrom, hurl, hclaim⟩ := Instant.shown_url_iff hown hshown
  have hnamed := hpage.mpr hpublic
  exact ⟨hshown, hnamed, supplier, hfrom, hurl.mpr ⟨_, hread⟩,
    hclaim.mpr (fun _ => ⟨_, hread⟩) hnamed⟩

open Borrowed in
/-- **Borrowed pages.**  A package that only the fall-back has is shown with the URL of the public
index, and with the page of a package that the public index does not have. -/
theorem shown_url_of_fallback :
    let world : World Registry := .steady host.answer
    PassedOver.start.value world (Lookup.describe client "a" "b" "1.0.0") =
        some (some (shown "a/b")) ∧
      (shown "a/b").indexUrl ≠ fallback.url ∧
      (shown "a/b").webUrl = "https://wally.run/package/a/b" ∧
      PassedOver.start.value world (Lookup.chain client) = some [client, fallback] ∧
      Instant.holdings world (PassedOver.start.after world (Lookup.chain client)) "a" "b"
          [client, fallback] =
        [some none, some (some ⟨"a", "b", Record.history (history "a/b").toList⟩)] := by
  decide +kernel

end ManifestLint
