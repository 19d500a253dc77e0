import Mathlib.Tactic.Choose
import ManifestLint.Proofs.Fetching.Seeking
import ManifestLint.Proofs.Registry.Hearsay
import ManifestLint.Proofs.Registry.Sending
import ManifestLint.Proofs.Text.LowerCase

/-!
# Requests for missing levels

An index is read level by level, and every request is for one of them: for the level that the
client puts into its cache if it accepts the reply.  It is sent only while the level is
missing.  So reading **seeks** levels, and nothing that it does beside changes which of them are
there.

* `Level`, `Slot`, `Registry.quest`: what requests may be for; `Slot.accepts_root` and so on,
  which replies are accepted.
* `Read.Answers`: reads that depend on one reply alone; `Read.Answers.seeks_store`, that what
  they end with is stored.
* `Fallible.seeks_root`, `seeks_author`, `seeks_package`, `seeks_config`: reading.
-/

namespace ManifestLint

/-! ## Levels -/

/-- A level of an index, as caches keep them. -/
inductive Level where
  | root
  | config
  | author (key : String)
  | package (key : String × String)
  deriving DecidableEq, Repr

/-- The level is in a cache. -/
def Level.isIn (cache : Cache) : Level → Bool
  | root => cache.root.isSome
  | config => cache.config.isSome
  | author key => (cache.authors.get? key).isSome
  | package key => (cache.packages.get? key).isSome

/-- The level that an item is. -/
def Item.level : Item → Level
  | root _ => .root
  | config _ => .config
  | author key _ => .author key
  | package key _ => .package key

theorem Level.isIn_put (cache : Cache) (item : Item) (level : Level) :
    level.isIn (item.put cache) = true ↔ level.isIn cache = true ∨ level = item.level := by
  cases item with
  | root found => cases level <;> simp [isIn, Item.put, Item.level]
  | config found => cases level <;> simp [isIn, Item.put, Item.level]
  | author key found =>
      cases level with
      | author other =>
          simp only [isIn, Item.put, Item.level, Entries.get?_put]
          split
          · next hsame => simp [hsame]
          · next hother => simp [Ne.symm hother]
      | _ => simp [isIn, Item.put, Item.level]
  | package key found =>
      cases level with
      | package other =>
          simp only [isIn, Item.put, Item.level, Entries.get?_put]
          split
          · next hsame => simp [hsame]
          · next hother => simp [Ne.symm hother]
      | _ => simp [isIn, Item.put, Item.level]

/-- A level of a client's index. -/
structure Slot where
  handle : Handle
  level : Level
  deriving DecidableEq, Repr

namespace Slot

/-- The level is in the cache of the client. -/
def Filled (registry : Registry) (slot : Slot) : Prop :=
  slot.level.isIn (registry.client slot.handle).cache = true

/-- The client accepts a reply to a request: it shows an item of the level. -/
def Accepts (slot : Slot) (request : Request) (reply : Reply) : Prop :=
  ∃ item : Item, item.level = slot.level ∧ item.ShownBy slot.handle request reply

variable {registry after : Registry} {slot : Slot}

/-- What leaves the caches alone leaves the levels. -/
theorem filled_of_untouched (h : registry.Untouched after) :
    slot.Filled after ↔ slot.Filled registry := by
  rw [Filled, Filled, h.caches]

theorem filled_put {handle : Handle} {item : Item} :
    slot.Filled (registry.updateCache handle (Item.put · item)) ↔
      slot.Filled registry ∨ slot = ⟨handle, item.level⟩ := by
  rcases slot with ⟨other, level⟩
  rw [Filled, Filled, Registry.updateCache, Registry.client_update]
  split
  · next hsame =>
      subst hsame
      simp only [Level.isIn_put, mk.injEq, true_and]
  · next hother =>
      simp only [mk.injEq, Ne.symm hother, false_and, or_false]

/-! ### What is accepted -/

section

variable (handle : Handle) (id : Json) (reply : Reply)

theorem accepts_root :
    Accepts ⟨handle, .root⟩ (handle.request .tree Read.rootId) reply ↔
      (reply.entries?.bind fun entries => (Index.Root.ofEntries entries).toOption).isSome := by
  constructor
  · rintro ⟨item, hlevel, hshown⟩
    cases item with
    | root found =>
        obtain ⟨-, entries, hentries, hfound⟩ := hshown
        simp [hentries, hfound, Except.toOption]
    | _ => cases hlevel
  · intro hsome
    obtain ⟨found, hfound⟩ := Option.isSome_iff_exists.mp hsome
    obtain ⟨entries, hentries, hread⟩ := Option.bind_eq_some_iff.mp hfound
    exact ⟨.root found, rfl, rfl, entries, hentries, eq_ok_of_toOption hread⟩

theorem accepts_config :
    Accepts ⟨handle, .config⟩ (handle.request .blob id) reply ↔ reply.config?.isSome := by
  constructor
  · rintro ⟨item, hlevel, hshown⟩
    cases item with
    | config found =>
        obtain ⟨-, -, hfound⟩ := hshown
        rw [hfound]
        rfl
    | _ => cases hlevel
  · intro hsome
    obtain ⟨found, hfound⟩ := Option.isSome_iff_exists.mp hsome
    exact ⟨.config found, rfl, id, rfl, hfound⟩

theorem accepts_author (key : String) :
    Accepts ⟨handle, .author key⟩ (handle.request .tree id) reply ↔
      (reply.entries?.bind fun entries =>
        (Index.Author.ofEntries key id entries).toOption).isSome := by
  constructor
  · rintro ⟨item, hlevel, hshown⟩
    cases item with
    | author other found =>
        cases hlevel
        obtain ⟨hrequest, entries, hentries, hfound⟩ := hshown
        obtain rfl : id = found.id := congrArg Request.id hrequest
        simp [hentries, hfound, Except.toOption]
    | _ => cases hlevel
  · intro hsome
    obtain ⟨found, hfound⟩ := Option.isSome_iff_exists.mp hsome
    obtain ⟨entries, hentries, hread⟩ := Option.bind_eq_some_iff.mp hfound
    have hread := eq_ok_of_toOption hread
    obtain rfl := Index.Author.ofEntries_id hread
    exact ⟨.author key found, rfl, rfl, entries, hentries, hread⟩

theorem accepts_package (key : String × String) :
    Accepts ⟨handle, .package key⟩ (handle.request .blob id) reply ↔
      (reply.payload?.bind Json.text?).isSome := by
  have hhistory : reply.history?.isSome = (reply.payload?.bind Json.text?).isSome :=
    Option.isSome_map
  rw [← hhistory]
  constructor
  · rintro ⟨item, hlevel, hshown⟩
    cases item with
    | package other found =>
        obtain ⟨-, -, records, hrecords, -⟩ := hshown
        rw [hrecords]
        rfl
    | _ => cases hlevel
  · intro hsome
    obtain ⟨records, hrecords⟩ := Option.isSome_iff_exists.mp hsome
    exact ⟨.package key ⟨key.1, key.2, records⟩, rfl, id, rfl, records, hrecords, rfl⟩

end

end Slot

/-- Requests are for levels of indexes: those in the caches of the clients are there, and a
reply is accepted for one if the client accepts it. -/
def Registry.quest : Quest Registry Slot where
  Has registry slot := slot.Filled registry
  Accepts slot := slot.Accepts

/-! ## Reading the reply to a request -/

namespace Read

variable {α β : Type} {request : Request} {taken? : Reply → Option α} {read : Read α}

/-- The read does nothing but end, with a value if there is one. -/
def Decides (value? : Option α) (read : Read α) : Prop :=
  ∃ ending : Except ReadError α, ending.toOption = value? ∧ read.run = pure ending

/-- The read sends a request, unless it cannot be sent, and ends with what is taken from the
reply, if anything is.  It does nothing else. -/
def Answers (request : Request) (taken? : Reply → Option α) (read : Read α) : Prop :=
  ∃ ending : Reply → Except ReadError α, (∀ reply, (ending reply).toOption = taken? reply) ∧
    read.run = ending <$> Registry.ask request

theorem decides_pure (value : α) : Decides (some value) (pure value : Read α) :=
  ⟨.ok value, rfl, rfl⟩

theorem decides_throw (error : ReadError) : Decides none (throw error : Read α) :=
  ⟨.error error, rfl, rfl⟩

theorem decides_ofShape (value : Except Json.ShapeError α) :
    Decides value.toOption (ofShape value) := by
  cases value with
  | ok value => exact decides_pure value
  | error error => exact decides_throw _

theorem decides_historyText (payload : Json) : Decides payload.text? (historyText payload) := by
  cases payload with
  | string text => exact decides_pure text
  | _ => exact decides_throw _

theorem decides_configDocument (handle : Handle) (payload : Json) :
    Decides payload.document? (configDocument handle payload) := by
  cases payload with
  | string text =>
      simp only [configDocument, Json.document?]
      rcases Json.decode text with error | document
      · exact decides_throw _
      · cases document with
        | object members => exact decides_pure _
        | _ => exact decides_throw _
  | _ => exact decides_throw _

theorem Decides.bind {value? : Option α} {next? : α → Option β} {next : α → Read β}
    (h : Decides value? read) (hnext : ∀ value, Decides (next? value) (next value)) :
    Decides (value?.bind next?) (read >>= next) := by
  obtain ⟨ending, rfl, hrun⟩ := h
  cases ending with
  | ok value =>
      obtain ⟨last, hlast, hlastRun⟩ := hnext value
      refine ⟨last, hlast, ?_⟩
      rw [ExceptT.run_bind, hrun, pure_bind, ← hlastRun]
  | error error =>
      refine ⟨.error error, rfl, ?_⟩
      rw [ExceptT.run_bind, hrun, pure_bind]

theorem Answers.bind {next? : α → Option β} {next : α → Read β} (h : Answers request taken? read)
    (hnext : ∀ value, Decides (next? value) (next value)) :
    Answers request (fun reply => (taken? reply).bind next?) (read >>= next) := by
  obtain ⟨ending, htaken, hrun⟩ := h
  choose last hlast hlastRun using hnext
  refine ⟨fun reply => ending reply >>= last, fun reply => ?_, ?_⟩
  · dsimp only
    rw [← htaken]
    cases ending reply with
    | ok value => exact hlast value
    | error error => rfl
  · rw [ExceptT.run_bind, hrun, bind_map_left, ← bind_pure_comp]
    refine congrArg (Registry.ask request >>= ·) (funext fun reply => ?_)
    cases ending reply with
    | ok value => exact hlastRun value
    | error error => rfl

theorem Answers.rethrow (h : Answers request taken? read) (f : ReadError → ReadError) :
    Answers request taken? (tryCatch read fun error => throw (f error)) := by
  obtain ⟨ending, htaken, hrun⟩ := h
  refine ⟨fun reply => (ending reply).mapError f, fun reply => ?_, ?_⟩
  · dsimp only
    rw [← htaken]
    cases ending reply <;> rfl
  · change read.run >>= _ = _
    rw [hrun, bind_map_left, ← bind_pure_comp]
    refine congrArg (Registry.ask request >>= ·) (funext fun reply => ?_)
    cases ending reply <;> rfl

variable (handle : Handle) (id : Json)

/-- What the payload of a request is read as, by the reply. -/
def payloadOf (kind : RequestKind) : Reply → Except ReadError Json
  | .ok result =>
    if result.ok then .ok result.payload
    else .error (.unreadable kind (handle.request kind id).idText handle.url result)
  | .error fault => .error (.fault fault)

theorem answers_payload (kind : RequestKind) :
    Answers (handle.request kind id) Reply.payload? (payload handle kind id) := by
  refine ⟨payloadOf handle id kind, fun reply => ?_, ?_⟩
  · cases reply with
    | ok result =>
        simp only [payloadOf, Reply.payload?]
        split <;> rfl
    | error fault => rfl
  · change (Except.ok <$> Registry.ask (handle.request kind id)) >>= _ = _
    rw [bind_map_left, ← bind_pure_comp]
    refine congrArg (Registry.ask (handle.request kind id) >>= ·) (funext fun reply => ?_)
    cases reply with
    | ok result =>
        simp only [payloadOf, ExceptT.bindCont]
        split <;> rfl
    | error fault => rfl

theorem answers_tree : Answers (handle.request .tree id) Reply.entries? (tree handle id) := by
  have hshape (payload : Json) :
      Decides (payload.elements.toOption.map Json.tables) (do
        let elements ← ofShape payload.elements
        return Json.tables elements) := by
    rw [Option.map_eq_bind]
    exact (decides_ofShape _).bind fun elements => decides_pure (Json.tables elements)
  exact (answers_payload handle id .tree).bind hshape

theorem answers_config :
    Answers (handle.request .blob id) Reply.config? (do
      let document ← configDocument handle (← payload handle .blob id)
      ofShape (Index.Config.ofJson document)) := by
  have hconfig (payload : Json) :
      Decides (payload.document?.bind fun document => (Index.Config.ofJson document).toOption) (do
        let document ← configDocument handle payload
        ofShape (Index.Config.ofJson document)) :=
    (decides_configDocument handle payload).bind fun document => decides_ofShape _
  exact (answers_payload handle id .blob).bind hconfig

/-- **A request that is stored.**  While a level is missing, it is requested, and what the
reply shows is stored: then it is there if and only if the reply is accepted. -/
theorem Answers.seeks_store {registry : Registry} {allowed : Slot → Prop} {slot : Slot}
    (store : α → Item) (result : α → β) (h : Answers request taken? read)
    (hallowed : allowed slot) (hmissing : ¬ slot.Filled registry)
    (hlevel : ∀ value, (store value).level = slot.level)
    (hfault : ∀ fault, taken? (.error fault) = none)
    (haccepts : ∀ reply, slot.Accepts request reply ↔ (taken? reply).isSome)
    (haccepted : ∃ reply, slot.Accepts request reply) :
    ((do
      let value ← read
      modify (·.updateCache slot.handle (Item.put · (store value)))
      return result value : Read β).run registry).Seeks Registry.quest allowed
        fun other => other.Filled registry := by
  obtain ⟨ending, htaken, hrun⟩ := h
  rw [ExceptT.run_bind, hrun, bind_map_left]
  change (Program.bind (Registry.ask request registry) _).Seeks _ _ _
  rw [Registry.ask_eq]
  cases (registry.fetcher.send request).1 with
  | some fault =>
      have hended := (htaken (.error fault)).trans (hfault fault)
      cases hending : ending (.error fault) with
      | ok value => rw [hending] at hended; cases hended
      | error error =>
          change (Program.bind (.done _ (Except.error fault)) _).Seeks _ _ _
          simp only [Program.bind, hending]
          exact fun _ => Iff.rfl
  | none =>
      refine ⟨fun _ => Iff.rfl, slot, hallowed, hmissing, haccepted, fun later reply hlater => ?_⟩
      have hended : Registry.quest.Accepts slot request reply ↔ (ending reply).toOption.isSome := by
        rw [htaken]
        exact haccepts reply
      change (Program.bind (.done later reply) _).Seeks _ _ _
      simp only [Program.bind]
      cases hending : ending reply with
      | ok value =>
          intro other
          have haccepts : Registry.quest.Accepts slot request reply := by
            rw [hended, hending]
            rfl
          calc other.Filled (later.updateCache slot.handle (Item.put · (store value)))
            _ ↔ other.Filled later ∨ other = ⟨slot.handle, (store value).level⟩ := Slot.filled_put
            _ ↔ other.Filled registry ∨ other = slot := by
              rw [hlevel]
              exact or_congr_left (hlater other)
            _ ↔ _ := or_congr_right (and_iff_left haccepts).symm
      | error error =>
          intro other
          have hrejects : ¬ Registry.quest.Accepts slot request reply := by
            rw [hended, hending]
            intro haccepted
            cases haccepted
          exact (hlater other).trans (or_iff_left fun h => hrejects h.2).symm

end Read

/-! ## Reading -/

namespace Fallible

variable {allowed : Slot → Prop} {α : Type} (handle : Handle)

theorem seeks_root (hroot : allowed ⟨handle, .root⟩) :
    Seeks Registry.quest allowed (Read.root handle) := by
  refine seeks_get_bind fun registry => ?_
  cases hcached : (registry.client handle).cache.root with
  | some root => exact Action.seeks_pure _ registry
  | none =>
      have hread := ((Read.answers_tree handle Read.rootId).rethrow (Read.rootError handle)).bind
        fun entries => Read.decides_ofShape (Index.Root.ofEntries entries)
      have hmissing : ¬ Slot.Filled registry ⟨handle, .root⟩ := by
        simp [Slot.Filled, Level.isIn, hcached]
      have hstore := hread.seeks_store Item.root id hroot hmissing (fun _ => rfl) (fun _ => rfl)
        (Slot.accepts_root handle)
        ⟨.ok (.found (.array [])), (Slot.accepts_root handle _).mpr rfl⟩
      rw [bind_assoc] at hstore
      exact hstore

theorem seeks_author {name : String} (hroot : allowed ⟨handle, .root⟩)
    (hauthor : allowed ⟨handle, .author (Text.lower name)⟩) :
    Seeks Registry.quest allowed (Read.author handle name) := by
  refine seeks_get_bind fun registry => ?_
  cases hcached : (registry.client handle).cache.authors.get? (Text.lower name) with
  | some author => exact Action.seeks_pure _ registry
  | none =>
      refine (seeks_root handle (rfl : (⟨handle, .root⟩ : Slot) = ⟨handle, .root⟩)).run_bind
        (fun slot hslot => hslot ▸ hroot) fun root later hlater => ?_
      cases root.idOf? (Text.lower name) with
      | none => exact Action.seeks_pure _ later
      | some id =>
          have hmissing : ¬ Slot.Filled later ⟨handle, .author (Text.lower name)⟩ := by
            intro hfilled
            rcases hlater _ hfilled with hbefore | hother
            · simp [Registry.quest, Slot.Filled, Level.isIn, hcached] at hbefore
            · cases hother
          have hread := (Read.answers_tree handle id).bind fun entries =>
            Read.decides_ofShape (Index.Author.ofEntries (Text.lower name) id entries)
          have hstore := hread.seeks_store (Item.author (Text.lower name)) some hauthor hmissing
            (fun _ => rfl) (fun _ => rfl)
            (fun reply => Slot.accepts_author handle id reply _)
            ⟨.ok (.found (.array [])), (Slot.accepts_author handle id _ _).mpr rfl⟩
          rw [bind_assoc] at hstore
          exact hstore

theorem seeks_package {author name : String} (hroot : allowed ⟨handle, .root⟩)
    (hauthor : allowed ⟨handle, .author (Text.lower author)⟩)
    (hpackage : allowed ⟨handle, .package (Text.lower author, Text.lower name)⟩) :
    Seeks Registry.quest allowed (Read.package handle author name) := by
  refine seeks_get_bind fun registry => ?_
  cases hcached :
      (registry.client handle).cache.packages.get? (Text.lower author, Text.lower name) with
  | some package => exact Action.seeks_pure _ registry
  | none =>
      have hfirst : Seeks Registry.quest
          (fun slot => slot = ⟨handle, .root⟩ ∨ slot = ⟨handle, .author (Text.lower author)⟩)
          (Read.author handle (Text.lower author)) := by
        apply seeks_author
        · exact .inl rfl
        · rw [Text.lower_lower]
          exact .inr rfl
      refine hfirst.run_bind ?_ fun found later hlater => ?_
      · rintro slot (rfl | rfl)
        · exact hroot
        · exact hauthor
      cases found.bind (·.idOf? (Text.lower name)) with
      | none => exact Action.seeks_pure _ later
      | some id =>
          have hmissing :
              ¬ Slot.Filled later ⟨handle, .package (Text.lower author, Text.lower name)⟩ := by
            intro hfilled
            rcases hlater _ hfilled with hbefore | hother | hother
            · simp [Registry.quest, Slot.Filled, Level.isIn, hcached] at hbefore
            · cases hother
            · cases hother
          have hread := (Read.answers_payload handle id .blob).bind Read.decides_historyText
          let found (text : String) : Index.Package :=
            ⟨Text.lower author, Text.lower name, Record.history text.toList⟩
          have hstore := hread.seeks_store
            (fun text => .package (Text.lower author, Text.lower name) (found text))
            (fun text => some (found text)) hpackage hmissing (fun _ => rfl) (fun _ => rfl)
            (fun reply => Slot.accepts_package handle id reply _)
            ⟨.ok (.found (.string "")), (Slot.accepts_package handle id _ _).mpr rfl⟩
          rw [bind_assoc] at hstore
          exact hstore

theorem seeks_config (hroot : allowed ⟨handle, .root⟩) (hconfig : allowed ⟨handle, .config⟩) :
    Seeks Registry.quest allowed (Read.config handle) := by
  refine seeks_get_bind fun registry => ?_
  cases hcached : (registry.client handle).cache.config with
  | some config => exact Action.seeks_pure _ registry
  | none =>
      refine (seeks_root handle (rfl : (⟨handle, .root⟩ : Slot) = ⟨handle, .root⟩)).run_bind
        (fun slot hslot => hslot ▸ hroot) fun root later hlater => ?_
      cases root.config with
      | none => exact Action.seeks_pure _ later
      | some entry =>
          have hmissing : ¬ Slot.Filled later ⟨handle, .config⟩ := by
            intro hfilled
            rcases hlater _ hfilled with hbefore | hother
            · simp [Registry.quest, Slot.Filled, Level.isIn, hcached] at hbefore
            · cases hother
          have haccepted : ∃ reply, Slot.Accepts ⟨handle, .config⟩
              (handle.request .blob entry.id) reply :=
            ⟨.ok (.found (.string "{}")),
              (Slot.accepts_config handle entry.id _).mpr (by decide)⟩
          have hread := Read.answers_config handle entry.id
          have hstore := hread.seeks_store Item.config some hconfig hmissing
            (fun _ => rfl) (fun _ => rfl) (Slot.accepts_config handle entry.id) haccepted
          simp only [bind_assoc] at hstore
          exact hstore

end Fallible

end ManifestLint
