import ManifestLint.Proofs.Registry.FirstCall
import ManifestLint.Proofs.Registry.Storing

/-!
# Each level is requested once

A client keeps every level of its index that it has read: the root, the configuration, the
authors and the packages.  Let the clients of a store be asked one thing after the other, with
names in any letter case, and let nobody clear a cache or change the token.  Then each request is
for one level of one client's index, under the names of the call in lower case, and it is sent
again only if no reply to an earlier one was accepted: the requests failed, or their payloads
could not be used.  What the fetcher cannot send at all is no request.

* `Lookup.Seeks`: looking things up along the chain.
* `Query.seeks`, `StoreCall.seeks`: a lookup requests levels that it names.
* `requested_again_only_if_rejected`: sequences of calls.
-/

namespace ManifestLint

/-! ## Looking things up -/

namespace Lookup

/-- The lookup requests some levels, of whichever indexes, as long as they are missing. -/
def Seeks {α : Type} (levels : Level → Prop) (lookup : Lookup α) : Prop :=
  Fallible.Seeks Registry.quest (fun slot => levels slot.level) lookup

variable {levels : Level → Prop} {α β : Type} (handle : Handle)

theorem seeks_pure (value : α) : Seeks levels (pure value : Lookup α) :=
  Fallible.seeks_pure value

theorem Seeks.bind {first : Lookup α} {next : α → Lookup β} (h : Seeks levels first)
    (hnext : ∀ value, Seeks levels (next value)) : Seeks levels (first >>= next) :=
  Fallible.Seeks.bind h hnext

theorem seeks_find? (url : String) : Seeks levels (find? url) :=
  Fallible.seeks_modifyGet fun registry _ =>
    Slot.filled_of_untouched (registry.untouched_find? url)

theorem seeks_notify (message : String) : Seeks levels (notify message) := by
  intro registry
  rw [Fallible.run_notify]
  cases registry.notifier.notify message with
  | none => exact fun _ => Iff.rfl
  | some next => exact fun _ => Iff.rfl

theorem seeks_ofVersions (value : Except Version.NotANumber α) :
    Seeks levels (ofVersions value) := by
  cases value with
  | ok value => exact seeks_pure value
  | error error => exact Fallible.seeks_throw _

/-- A failure to read is noted in the client, whose cache it leaves alone. -/
theorem seeks_attempt {read : Read α}
    (hread : Fallible.Seeks Registry.quest (fun slot => levels slot.level) read) :
    Seeks levels (attempt handle read) := by
  refine Fallible.Seeks.bind (Fallible.seeks_lift hread) fun ended => ?_
  cases ended with
  | ok value => exact seeks_pure (some value)
  | error error =>
      refine Fallible.Seeks.bind (Fallible.seeks_modifyGet fun registry slot => ?_) fun _ =>
        (seeks_notify _).bind fun _ => seeks_pure none
      refine Slot.filled_of_untouched ⟨fun other => ?_, rfl⟩
      rw [Registry.client_update]
      split
      · next hsame => rw [hsame]
      · rfl

/-! ### Along the chain -/

theorem seeks_extend (chain : List Handle) (urls : List String) :
    Seeks levels (extend chain urls) := by
  induction urls generalizing chain with
  | nil => exact seeks_pure chain
  | cons url rest ih =>
      refine (seeks_find? url).bind fun found => ?_
      cases found with
      | none => exact ih chain
      | some handle =>
          dsimp only
          split
          · exact ih chain
          · exact ih (chain ++ [handle])

variable (hroot : levels .root) (hconfig : levels .config)

include hroot hconfig

theorem seeks_attempt_config : Seeks levels (attempt handle (Read.config handle)) :=
  seeks_attempt handle (Fallible.seeks_config handle hroot hconfig)

theorem seeks_chain : Seeks levels (chain handle) := by
  cases handle with
  | alone url address => exact seeks_pure _
  | shared address =>
      refine (seeks_attempt_config _ hroot hconfig).bind fun found => ?_
      rcases found with _ | _ | config
      · exact seeks_pure _
      · exact seeks_pure _
      · exact seeks_extend _ _

omit hroot hconfig in
theorem seeks_searchFrom {read : Handle → Read α}
    (hread : ∀ handle, Seeks levels (attempt handle (read handle))) (pick : α → Option β)
    (failed : Bool) (chain : List Handle) :
    Seeks levels (searchFrom read pick failed chain) := by
  induction chain generalizing failed with
  | nil => exact seeks_pure _
  | cons handle rest ih =>
      refine (hread handle).bind fun found => ?_
      cases found with
      | none => exact ih true
      | some level =>
          dsimp only
          split
          · exact seeks_pure _
          · exact ih failed

theorem seeks_search {read : Handle → Read α}
    (hread : ∀ handle, Seeks levels (attempt handle (read handle))) (pick : α → Option β) :
    Seeks levels (search handle read pick) :=
  (seeks_chain handle hroot hconfig).bind fun chain => seeks_searchFrom hread pick false chain

/-! ### The lookups -/

omit hconfig in
theorem seeks_namesAlong (names : Option (List String)) (chain : List Handle) :
    Seeks levels (namesAlong names chain) := by
  induction chain generalizing names with
  | nil => exact seeks_pure names
  | cons handle rest ih =>
      refine (seeks_attempt handle (Fallible.seeks_root handle hroot)).bind fun found => ?_
      cases found with
      | none => exact ih names
      | some root => exact ih _

theorem seeks_authorNames : Seeks levels (authorNames handle) :=
  (seeks_chain handle hroot hconfig).bind fun chain => seeks_namesAlong hroot none chain

theorem seeks_config : Seeks levels (config handle) :=
  (seeks_attempt_config handle hroot hconfig).bind fun _ => seeks_pure _

omit hconfig in
theorem seeks_reachable : Seeks levels (reachable handle) := by
  refine (seeks_attempt handle (Fallible.seeks_root handle hroot)).bind fun found => ?_
  cases found with
  | none => exact Fallible.Seeks.bind Fallible.seeks_get fun _ => seeks_pure _
  | some root => exact seeks_pure _

theorem seeks_authorValidity (author : String) : Seeks levels (authorValidity handle author) :=
  (seeks_search handle hroot hconfig
    (fun other => seeks_attempt other (Fallible.seeks_root other hroot)) _).bind
      fun _ => seeks_pure _

theorem seeks_closestAuthor (author : String) : Seeks levels (closestAuthor handle author) :=
  (seeks_authorNames handle hroot hconfig).bind fun _ => seeks_pure _

section

variable {author : String} (hauthor : levels (.author (Text.lower author)))

include hauthor

omit hconfig in
theorem seeks_attempt_author (other : Handle) :
    Seeks levels (attempt other (Read.author other author)) :=
  seeks_attempt other (Fallible.seeks_author other hroot hauthor)

theorem seeks_packageNames : Seeks levels (packageNames handle author) :=
  (seeks_search handle hroot hconfig (seeks_attempt_author hroot hauthor) id).bind
    fun _ => seeks_pure _

theorem seeks_packageValidity (name : String) :
    Seeks levels (packageValidity handle author name) :=
  (seeks_search handle hroot hconfig (seeks_attempt_author hroot hauthor) _).bind
    fun _ => seeks_pure _

theorem seeks_closestPackage (name : String) : Seeks levels (closestPackage handle author name) :=
  (seeks_packageNames handle hroot hconfig hauthor).bind fun _ => seeks_pure _

variable {name : String} (hpackage : levels (.package (Text.lower author, Text.lower name)))
  (requirement : String)

include hpackage

theorem seeks_package : Seeks levels (package handle author name) :=
  seeks_search handle hroot hconfig
    (fun other => seeks_attempt other (Fallible.seeks_package other hroot hauthor hpackage)) id

theorem seeks_versions : Seeks levels (versions handle author name) := by
  refine (seeks_package handle hroot hconfig hauthor hpackage).bind fun found => ?_
  rcases found with ⟨_ | package, failed⟩
  · exact seeks_pure none
  · exact (seeks_ofVersions package.newestFirst).bind fun _ => seeks_pure _

theorem seeks_bestRecord : Seeks levels (bestRecord handle author name requirement) := by
  refine (seeks_package handle hroot hconfig hauthor hpackage).bind fun found => ?_
  rcases found with ⟨_ | package, failed⟩
  · exact seeks_pure none
  · exact seeks_ofVersions (package.findSatisfying? requirement)

theorem seeks_latest : Seeks levels (latest handle author name) :=
  (seeks_versions handle hroot hconfig hauthor hpackage).bind fun _ => seeks_pure _

theorem seeks_latestSatisfying : Seeks levels (latestSatisfying handle author name requirement) :=
  (seeks_bestRecord handle hroot hconfig hauthor hpackage requirement).bind fun _ => seeks_pure _

theorem seeks_describe : Seeks levels (describe handle author name requirement) := by
  refine (seeks_package handle hroot hconfig hauthor hpackage).bind fun found => ?_
  rcases found with ⟨_ | package, failed⟩
  · exact seeks_pure none
  · refine (seeks_ofVersions (package.findSatisfying? requirement)).bind fun record => ?_
    cases record with
    | none => exact seeks_pure none
    | some record => exact (seeks_ofVersions package.newestFirst).bind fun _ => seeks_pure _

theorem seeks_versionValidity : Seeks levels (versionValidity handle author name requirement) := by
  refine (seeks_package handle hroot hconfig hauthor hpackage).bind fun found => ?_
  rcases found with ⟨_ | package, failed⟩
  · exact seeks_pure _
  · refine (seeks_ofVersions package.newestFirst).bind fun versions => ?_
    exact (seeks_ofVersions (Version.anySatisfies requirement versions)).bind fun _ => seeks_pure _

theorem seeks_closestVersion (version : String) :
    Seeks levels (closestVersion handle author name version) :=
  (seeks_versions handle hroot hconfig hauthor hpackage).bind fun _ => seeks_pure _

end

end Lookup

/-! ## Calls -/

/-- The author whose packages a query is about, if there is one. -/
def Query.author? : Query → Option String
  | packageNames author => some author
  | packageValidity author _ => some author
  | closestPackage author _ => some author
  | query => query.package?.map (·.1)

/-- A level that a query may look at: the root or the configuration of any index, or the author
or the package that it names, in lower case. -/
def Query.Names (query : Query) : Level → Prop
  | .root => True
  | .config => True
  | .author key => query.author?.map Text.lower = some key
  | .package key => query.package?.map (Prod.map Text.lower Text.lower) = some key

/-- A query requests nothing but levels that it names. -/
theorem Query.seeks {query : Query} (hquery : query.IsLookup) (handle : Handle) :
    Lookup.Seeks query.Names (query.run handle) := by
  have hanswer {α : Type} {lookup : Lookup α} (answer : α → Answer)
      (h : Lookup.Seeks query.Names lookup) :
      Lookup.Seeks query.Names (do return answer (← lookup)) :=
    h.bind fun value => Lookup.seeks_pure (answer value)
  have hroot : query.Names .root := trivial
  have hconfig : query.Names .config := trivial
  cases query with
  | authorNames => exact hanswer _ (Lookup.seeks_authorNames handle hroot hconfig)
  | packageNames author => exact hanswer _ (Lookup.seeks_packageNames handle hroot hconfig rfl)
  | versions author name => exact hanswer _ (Lookup.seeks_versions handle hroot hconfig rfl rfl)
  | bestRecord author name requirement =>
      exact hanswer _ (Lookup.seeks_bestRecord handle hroot hconfig rfl rfl requirement)
  | latest author name => exact hanswer _ (Lookup.seeks_latest handle hroot hconfig rfl rfl)
  | latestSatisfying author name requirement =>
      exact hanswer _ (Lookup.seeks_latestSatisfying handle hroot hconfig rfl rfl requirement)
  | describe author name requirement =>
      exact hanswer _ (Lookup.seeks_describe handle hroot hconfig rfl rfl requirement)
  | config => exact hanswer _ (Lookup.seeks_config handle hroot hconfig)
  | authorValidity author =>
      exact hanswer _ (Lookup.seeks_authorValidity handle hroot hconfig author)
  | packageValidity author name =>
      exact hanswer _ (Lookup.seeks_packageValidity handle hroot hconfig rfl name)
  | versionValidity author name requirement =>
      exact hanswer _ (Lookup.seeks_versionValidity handle hroot hconfig rfl rfl requirement)
  | reachable => exact hanswer _ (Lookup.seeks_reachable handle hroot)
  | closestAuthor author =>
      exact hanswer _ (Lookup.seeks_closestAuthor handle hroot hconfig author)
  | closestPackage author name =>
      exact hanswer _ (Lookup.seeks_closestPackage handle hroot hconfig rfl name)
  | closestVersion author name version =>
      exact hanswer _ (Lookup.seeks_closestVersion handle hroot hconfig rfl rfl version)
  | invalidate => exact hquery.elim
  | setToken token => exact hquery.elim
  | tokenChanged token => exact hquery.elim

namespace StoreCall

/-- A level of some client's index that a lookup may look at. -/
def Names : StoreCall → Slot → Prop
  | query _ asked, slot => asked.Names slot.level
  | setToken _, _ => False
  | invalidateAll, _ => False

/-- A lookup requests nothing but levels that it names. -/
theorem seeks {call : StoreCall} (hcall : call.IsLookup) :
    Fallible.Seeks Registry.quest call.Names call.lookup := by
  cases call with
  | query url asked =>
      have hrequire : Lookup.Seeks asked.Names (Lookup.require url) := by
        refine (Lookup.seeks_find? url).bind fun found => ?_
        cases found with
        | none => exact Fallible.seeks_throw _
        | some handle => exact Lookup.seeks_pure handle
      exact hrequire.bind fun handle => asked.seeks hcall handle
  | setToken token => exact hcall.elim
  | invalidateAll => exact hcall.elim

end StoreCall

/-- **Requested again only if rejected.**  Let lookups be made in turn, whatever the caches are
when the first one starts, and let nobody else touch the caches.  Each request is for exactly
one level of one client's index, which its lookup names and which a good reply would have
supplied; and of two requests for the same level the client has accepted no reply to the earlier
one. -/
theorem requested_again_only_if_rejected {world : World Registry}
    (hworld : world.LeavesItems Registry.quest) (start : Instant Registry)
    {calls : List StoreCall} (hcalls : ∀ call ∈ calls, call.IsLookup) :
    let made := start.inquiries world StoreCall.lookup calls
    (∀ call inquiry, (call, inquiry) ∈ made → ∃ slot : Slot, call.Names slot ∧
      (∃ reply, slot.Accepts inquiry.request reply) ∧
      ∀ other, inquiry.IsFor Registry.quest other ↔ other = slot) ∧
    made.Pairwise fun earlier later => ∀ slot : Slot,
      earlier.2.IsFor Registry.quest slot → later.2.IsFor Registry.quest slot →
        ¬ slot.Accepts earlier.2.request earlier.2.reply := by
  intro made
  obtain ⟨hmade, hpairs⟩ := Instant.asked_again hworld
    (fun call hcall => StoreCall.seeks (hcalls call hcall)) start
  refine ⟨fun call inquiry hmem => ?_, hpairs⟩
  obtain ⟨slot, hnames, -, haccepted, hfor⟩ := hmade (call, inquiry) hmem
  exact ⟨slot, hnames, haccepted, hfor⟩

namespace OneAuthor

/-- The root of an index lists one author, whose subtree is only found the second time. -/
def world : World Registry where
  reply waits request :=
    if request.idText = "main" then
      .ok (.found (.array [.object
        [("path", .string "Ann"), ("type", .string "tree"), ("sha", .string "a")]]))
    else if waits ≤ 1 then .ok { status := 0, message := "timed out" }
    else .ok (.found (.array [.object
      [("path", .string "pack"), ("type", .string "blob"), ("sha", .string "p")]]))
  others _ registry := registry

def start : Instant Registry := ⟨Registry.new {} (some defaultCooldown) none, 0⟩

/-- The packages of the author, in one letter case after the other. -/
def calls : List StoreCall :=
  ["Ann", "ANN", "ann"].map fun author => .query "https://github.com/o/r" (.packageNames author)

end OneAuthor

open OneAuthor in
/-- The first request for the subtree failed, so the second lookup sends another one, and the
third lookup sends none. -/
theorem subtree_requested_twice :
    let made := start.inquiries world StoreCall.lookup calls
    world.LeavesItems Registry.quest ∧ (∀ call ∈ calls, call.IsLookup) ∧
      made.map (·.2.request.idText) = ["main", "a", "a"] ∧
      made.map (·.2.reply.payload?.isSome) = [true, false, true] ∧
      (∀ call inquiry, (call, inquiry) ∈ made → ∃ slot : Slot, call.Names slot ∧
        (∃ reply, slot.Accepts inquiry.request reply) ∧
        ∀ other, inquiry.IsFor Registry.quest other ↔ other = slot) ∧
      made.Pairwise fun earlier later => ∀ slot : Slot,
        earlier.2.IsFor Registry.quest slot → later.2.IsFor Registry.quest slot →
          ¬ slot.Accepts earlier.2.request earlier.2.reply := by
  have hworld : world.LeavesItems Registry.quest := fun _ _ _ => Iff.rfl
  have hcalls : ∀ call ∈ calls, call.IsLookup := by
    intro call hcall
    obtain ⟨author, -, rfl⟩ := List.mem_map.mp hcall
    exact trivial
  exact ⟨hworld, hcalls, by decide +kernel, by decide +kernel,
    requested_again_only_if_rejected hworld start hcalls⟩

end ManifestLint
