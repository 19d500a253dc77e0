import ManifestLint.Proofs.Fetching.Asking
import ManifestLint.Proofs.Fetching.Results
import ManifestLint.Proofs.Registry.Determined

/-!
# How failures are reported

The status of a response becomes that of a result, the result becomes an error, the error of the
root may be put in other words, and what users are told depends on the status of the error.  On the
way the status may change: a refusal whose quota is used up counts as one of too many requests.  Not
so what it is reported as: users are told of a rate limit for every refusal, whatever its quota, and
of the error itself for everything else.

* `Response.Refuses`, `Response.reply_isRateLimit_iff`: the responses with such a result.
* `ReadError.report_eq_rateLimitNotice_iff`: the errors that are reported so.
* `Candid`, with `candid_root` and so on: an error blames the rate limit if the last reply does.
* `Instant.attempt_reports_iff`: what users are told of a read, given the last response.
* `plain_refusal_reported`: a refusal without a quota.
-/

namespace ManifestLint

open ReadError (isRateLimit)

/-! ## Responses -/

namespace Response

/-- The response refuses the request, or says that there were too many, and it can be taken in. -/
def Refuses (response : Response) : Prop :=
  ∃ status headers body bytes, response = .answered status headers body ∧
    isRateLimit status = true ∧ Spelled headers ∧ unpacked headers body = .ok bytes

variable {url : Url} {request : Request} {response : Response} {status : Int}
  {headers : List (String × String)}

/-- A quota that is used up makes no difference to whether a status says that too much was asked
for. -/
theorem isRateLimit_effectiveStatus :
    isRateLimit (effectiveStatus status headers) = isRateLimit status := by
  unfold effectiveStatus
  split
  · next hquota => rw [hquota.1]; rfl
  · rfl

theorem status_readDocument {bytes : List Nat} {result : FetchResult}
    (hresult : readDocument bytes = .error result) : result.status = 0 := by
  unfold readDocument at hresult
  dsimp only at hresult
  split at hresult
  · rw [← Except.error.inj hresult]
    rfl
  · split at hresult
    · cases hresult
    · rw [← Except.error.inj hresult]
      rfl

/-- A result in place of a document has no status, or that of the response, which could be taken in
then. -/
theorem document_error_cases {result : FetchResult}
    (hresult : response.document url = .ok (.error result)) :
    result.status = 0 ∨ ∃ status headers body bytes, response = .answered status headers body ∧
      Spelled headers ∧ unpacked headers body = .ok bytes ∧
      result.status = effectiveStatus status headers := by
  cases response with
  | failed text =>
      obtain rfl := Except.error.inj (Except.ok.inj hresult)
      exact .inl rfl
  | answered status headers body =>
      by_cases hspelled : Spelled headers
      · cases hbytes : unpacked headers body with
        | error error =>
            simp only [Response.document, headerError?_eq_none_iff.mpr hspelled, hbytes] at hresult
            obtain rfl := Except.error.inj (Except.ok.inj hresult)
            exact .inl rfl
        | ok bytes =>
            rw [document_answered hspelled hbytes] at hresult
            rcases checkLocation_cases url status headers with
              ⟨_, hlocation, -⟩ | ⟨text, hlocation⟩ | hlocation
            · rw [hlocation] at hresult
              cases hresult
            · rw [hlocation] at hresult
              obtain rfl := Except.error.inj (Except.ok.inj hresult)
              exact .inl rfl
            · rw [hlocation] at hresult
              by_cases hstatus : status = 200
              · subst hstatus
                exact .inl (status_readDocument (Except.ok.inj hresult))
              · have hother := (if_pos hstatus).symm.trans hresult
                obtain rfl := Except.error.inj (Except.ok.inj hother)
                exact .inr ⟨status, headers, body, bytes, rfl, hspelled, hbytes, rfl⟩
      · have hbroken : (Response.answered status headers body).Broken url := .misspelt hspelled
        obtain ⟨fault, hfault⟩ := hbroken.document_eq
        rw [hfault] at hresult
        cases hresult

/-- A document that is no tree has no status. -/
theorem isRateLimit_tree (id : String) (document : Json) :
    isRateLimit (tree id (.ok document)).status = false := by
  rw [tree_eq]
  split <;> rfl

/-- A document that is no blob has no status. -/
theorem isRateLimit_blob {id : String} {document : Json} {result : FetchResult}
    (hresult : blob id (.ok document) = .ok result) : isRateLimit result.status = false := by
  by_cases hencoded : Encoded document
  · rw [blob_of_encoded hencoded] at hresult
    unfold decoded at hresult
    split at hresult
    · split at hresult
      · split at hresult
        · rw [← Except.ok.inj hresult]
          rfl
        · split at hresult
          · rw [← Except.ok.inj hresult]
            rfl
          · rw [← Except.ok.inj hresult]
            rfl
      · cases hresult
    · cases hresult
  · rw [blob_of_plain hencoded] at hresult
    rw [← Except.ok.inj hresult]
    rfl

/-- **Refusals.**  A response leads to a result that says that too much was asked for exactly if it
says so itself, and can be taken in. -/
theorem reply_isRateLimit_iff :
    (∃ result, response.reply request url = .ok result ∧ isRateLimit result.status = true) ↔
      response.Refuses := by
  constructor
  · rintro ⟨result, hreply, hlimit⟩
    cases hdocument : response.document url with
    | error fault =>
        rw [reply, hdocument] at hreply
        cases hreply
    | ok document =>
        rw [reply_eq hdocument] at hreply
        cases document with
        | error inner =>
            have hsame : inner = result := by
              cases hkind : request.kind with
              | tree => rw [hkind] at hreply; exact Except.ok.inj hreply
              | blob => rw [hkind] at hreply; exact Except.ok.inj hreply
            subst hsame
            rcases document_error_cases hdocument with
              hzero | ⟨status, headers, body, bytes, rfl, hspelled, hbytes, hstatus⟩
            · rw [hzero] at hlimit
              cases hlimit
            · rw [hstatus, isRateLimit_effectiveStatus] at hlimit
              exact ⟨status, headers, body, bytes, rfl, hlimit, hspelled, hbytes⟩
        | ok document =>
            cases hkind : request.kind with
            | tree =>
                rw [hkind] at hreply
                rw [← Except.ok.inj hreply, isRateLimit_tree] at hlimit
                cases hlimit
            | blob =>
                rw [hkind] at hreply
                rw [isRateLimit_blob hreply] at hlimit
                cases hlimit
  · rintro ⟨status, headers, body, bytes, rfl, hlimit, hspelled, hbytes⟩
    have hstatus : status = 403 ∨ status = 429 := by simpa [isRateLimit] using hlimit
    have hlocation : checkLocation url status headers = .ok none := by
      unfold checkLocation
      split
      · exact if_neg (by rcases hstatus with rfl | rfl <;> decide)
      · rfl
    have hother : status ≠ 200 := by rcases hstatus with rfl | rfl <;> decide
    let result : FetchResult :=
      { status := effectiveStatus status headers, message := s!"GitHub returned {status}" }
    have hdocument : (answered status headers body).document url = .ok (.error result) := by
      rw [document_answered hspelled hbytes, hlocation]
      exact if_pos hother
    refine ⟨result, ?_, isRateLimit_effectiveStatus.trans hlimit⟩
    rw [reply_eq hdocument]
    cases request.kind <;> rfl

end Response

/-! ## Errors -/

/-- What users are told of a rate limit. -/
def rateLimitNotice (url : String) : String :=
  s!"GitHub rate limit reached while reading {url}. "
    ++ "Configure a GitHub token to raise the limit."

namespace ReadError

/-- What users are told of an error itself. -/
def ownNotice (error : ReadError) (url : String) : String :=
  if error.status?.isSome then error.message
  else s!"Unexpected error while reading {url}: {error.message}"

/-- Whether an error says that too much was asked for. -/
def blamesLimit (error : ReadError) : Bool := error.status?.any isRateLimit

theorem report_eq (error : ReadError) (url : String) :
    error.report url =
      if error.blamesLimit then rateLimitNotice url else error.ownNotice url := by
  unfold report blamesLimit ownNotice
  cases error.status? with
  | none => rfl
  | some status => rfl

theorem head?_append {first rest : String} {c : Char} (h : first.toList.head? = some c) :
    (first ++ rest).toList.head? = some c := by
  rw [String.toList_append, List.head?_append, h]
  rfl

/-- No error says of itself what users are told of a rate limit: it starts otherwise. -/
theorem ownNotice_ne (error : ReadError) (url : String) :
    error.ownNotice url ≠ rateLimitNotice url := by
  have hnotice : (rateLimitNotice url).toList.head? = some 'G' :=
    head?_append (head?_append (head?_append (by decide)))
  have hunexpected (text : String) :
      s!"Unexpected error while reading {url}: {text}".toList.head? = some 'U' :=
    head?_append (head?_append (head?_append (by decide)))
  have hother {c : Char} (hown : (error.ownNotice url).toList.head? = some c) (hc : c ≠ 'G') :
      error.ownNotice url ≠ rateLimitNotice url := by
    intro hsame
    rw [hsame, hnotice] at hown
    exact hc (Option.some.inj hown).symm
  cases error with
  | unreadable kind id url result =>
      have hown : (unreadable kind id url result).message.toList.head? = some 'C' := by
        unfold message
        repeat refine head?_append ?_
        decide
      exact hother hown (by decide)
  | noIndex url status =>
      have hown : (noIndex url status).message.toList.head? = some 'R' :=
        head?_append (by decide)
      exact hother hown (by decide)
  | malformedConfig url problem =>
      have hown : (malformedConfig url problem).message.toList.head? = some 'M' :=
        head?_append (head?_append (head?_append (by decide)))
      exact hother hown (by decide)
  | fault cause => exact hother (hunexpected _) (by decide)
  | shape cause => exact hother (hunexpected _) (by decide)

theorem report_eq_rateLimitNotice_iff (error : ReadError) (url : String) :
    error.report url = rateLimitNotice url ↔ error.blamesLimit = true := by
  rw [report_eq]
  cases error.blamesLimit with
  | true => exact ⟨fun _ => rfl, fun _ => rfl⟩
  | false => exact ⟨fun hsame => absurd hsame (ownNotice_ne error url), nofun⟩

end ReadError

/-! ## Reading -/

/-- What was heard last is a result that says that too much was asked for. -/
def Hearing.Refused (heard : Hearing) : Prop :=
  ∃ request result, heard = some (request, .ok result) ∧ isRateLimit result.status = true

/-- The conduct that allows everything. -/
def Conduct.any (σ : Type) : Conduct σ where
  allows _ _ _ := True
  refl _ _ := trivial
  trans _ _ _ _ _ _ := trivial

/-- Whoever reads stops at a refusal, and ends in an error that says so; all other errors, and all
values, come after something else. -/
def Candid {α : Type} (read : Read α) : Prop :=
  read.run.Obeys (.any Registry) (fun heard => ¬ heard.Refused) fun heard =>
    EndsIn (fun _ => ¬ heard.Refused) fun error => error.blamesLimit = true ↔ heard.Refused

section

variable {α β : Type} (handle : Handle)

theorem candid_pure (value : α) : Candid (pure value : Read α) :=
  Action.obeys_pure fun _ hother => hother

theorem candid_throw {error : ReadError} (hown : error.blamesLimit = false) :
    Candid (throw error : Read α) :=
  Action.obeys_pure fun _ hother => iff_of_false (by simp [hown]) hother

theorem Candid.bind {first : Read α} {next : α → Read β} (h : Candid first)
    (hnext : ∀ value, Candid (next value)) : Candid (first >>= next) := by
  refine Action.Obeys.bind h fun ended => ?_
  cases ended with
  | ok value => exact hnext value
  | error error => exact Action.obeys_pure fun _ herror => herror

theorem candid_get : Candid (get : Read Registry) :=
  fun _ _ hother => ⟨trivial, hother⟩

theorem candid_modify (change : Registry → Registry) : Candid (modify change : Read PUnit) :=
  fun _ _ hother => ⟨trivial, hother⟩

/-- The reply to a request blames the limit exactly if it is what was heard last; a request that is
not sent has no such reply. -/
theorem obeys_ask_refused (request : Request) :
    (Registry.ask request).Obeys (.any Registry) (fun heard => ¬ heard.Refused)
      fun heard reply =>
        heard.Refused ↔ ∃ result, reply = .ok result ∧ isRateLimit result.status = true := by
  unfold Registry.ask
  refine Action.obeys_get.bind fun registry => ?_
  rcases registry.fetcher.send request with ⟨fault, fetcher⟩
  refine (Action.obeys_modify fun _ _ _ => trivial).bind fun _ => ?_
  cases fault with
  | some fault =>
      refine Action.obeys_pure fun _ hother => iff_of_false hother ?_
      rintro ⟨_, hresult, -⟩
      cases hresult
  | none =>
      refine (Action.obeys_ask request).mono fun heard reply hheard => ?_
      rw [hheard]
      constructor
      · rintro ⟨_, result, hsome, hlimit⟩
        exact ⟨result, (Prod.mk.inj (Option.some.inj hsome)).2, hlimit⟩
      · rintro ⟨result, rfl, hlimit⟩
        exact ⟨request, result, rfl, hlimit⟩

theorem candid_payload (kind : RequestKind) (id : Json) :
    Candid (Read.payload handle kind id) := by
  let request := handle.request kind id
  have hask : (ExceptT.lift (Registry.ask request) : Read Reply).run.Obeys (.any Registry)
      (fun heard => ¬ heard.Refused) fun heard => EndsIn (fun reply => heard.Refused ↔
        ∃ result, reply = .ok result ∧ isRateLimit result.status = true) fun _ => False :=
    (obeys_ask_refused request).map fun _ _ hheard => hheard
  refine Action.Obeys.bind hask fun ended => ?_
  rcases ended with error | reply
  · exact Action.obeys_pure fun _ hnever => hnever.elim
  cases reply with
  | error fault =>
      refine Action.obeys_pure fun heard hheard => iff_of_false nofun fun hrefused => ?_
      obtain ⟨_, hresult, -⟩ := hheard.mp hrefused
      cases hresult
  | ok result =>
      have hlimit : ∀ heard : Hearing,
          (heard.Refused ↔ ∃ other, (.ok result : Reply) = .ok other ∧
            isRateLimit other.status = true) →
          (isRateLimit result.status = true ↔ heard.Refused) := by
        intro heard hheard
        rw [hheard]
        exact ⟨fun h => ⟨result, rfl, h⟩, by rintro ⟨_, ⟨⟩, h⟩; exact h⟩
      change (ExceptT.run (if result.ok then pure result.payload
        else throw (.unreadable kind request.idText handle.url result) : Read Json)).Obeys _ _ _
      cases hok : result.ok with
      | false => exact Action.obeys_pure hlimit
      | true =>
          refine Action.obeys_pure fun heard hheard hrefused => ?_
          have hstatus : result.status = 200 := of_decide_eq_true hok
          have hblamed := (hlimit heard hheard).mpr hrefused
          rw [hstatus] at hblamed
          cases hblamed

theorem candid_ofShape (value : Except Json.ShapeError α) : Candid (Read.ofShape value) := by
  cases value with
  | ok value => exact candid_pure value
  | error error => exact candid_throw rfl

theorem candid_tree (id : Json) : Candid (Read.tree handle id) :=
  (candid_payload handle .tree id).bind fun payload =>
    (candid_ofShape payload.elements).bind fun _ => candid_pure _

/-- An error of the root is put in other words, which blame the same. -/
theorem blamesLimit_rootError (error : ReadError) :
    (Read.rootError handle error).blamesLimit = error.blamesLimit := by
  unfold Read.rootError ReadError.blamesLimit
  cases hstatus : error.status? with
  | none => exact congrArg (Option.any isRateLimit) hstatus
  | some status =>
      dsimp only
      split
      · rfl
      · exact congrArg (Option.any isRateLimit) hstatus

theorem candid_root : Candid (Read.root handle) := by
  unfold Read.root
  refine candid_get.bind fun registry => ?_
  cases (registry.client handle).cache.root with
  | some root => exact candid_pure _
  | none =>
      have htree : Candid (tryCatch (Read.tree handle Read.rootId)
          fun error => throw (Read.rootError handle error)) := by
        refine Action.Obeys.bind (candid_tree handle Read.rootId) fun ended => ?_
        cases ended with
        | ok entries => exact Action.obeys_pure fun _ hother => hother
        | error error =>
            refine Action.obeys_pure fun _ herror => ?_
            simpa only [EndsIn, blamesLimit_rootError] using herror
      exact htree.bind fun entries => (candid_ofShape _).bind fun root =>
        (candid_modify _).bind fun _ => candid_pure root

theorem candid_author (name : String) : Candid (Read.author handle name) := by
  unfold Read.author
  refine candid_get.bind fun registry => ?_
  cases (registry.client handle).cache.authors.get? (Text.lower name) with
  | some author => exact candid_pure _
  | none =>
      refine (candid_root handle).bind fun root => ?_
      cases root.idOf? (Text.lower name) with
      | none => exact candid_pure _
      | some id =>
          exact (candid_tree handle id).bind fun entries => (candid_ofShape _).bind fun author =>
            (candid_modify _).bind fun _ => candid_pure (some author)

theorem candid_historyText (payload : Json) : Candid (Read.historyText payload) := by
  cases payload with
  | string text => exact candid_pure text
  | _ => exact candid_throw rfl

theorem candid_package (author name : String) : Candid (Read.package handle author name) := by
  unfold Read.package
  refine candid_get.bind fun registry => ?_
  cases (registry.client handle).cache.packages.get? (Text.lower author, Text.lower name) with
  | some package => exact candid_pure _
  | none =>
      refine (candid_author handle _).bind fun found => ?_
      cases found.bind (·.idOf? (Text.lower name)) with
      | none => exact candid_pure _
      | some id =>
          exact (candid_payload handle .blob id).bind fun payload =>
            (candid_historyText payload).bind fun text => (candid_modify _).bind fun _ =>
              candid_pure (some _)

theorem candid_configDocument (payload : Json) : Candid (Read.configDocument handle payload) := by
  cases payload with
  | string text =>
      simp only [Read.configDocument]
      rcases Json.decode text with error | document
      · exact candid_throw (by rfl)
      · cases document with
        | object members => exact candid_pure _
        | _ => exact candid_throw (by rfl)
  | _ => exact candid_throw (by rfl)

theorem candid_config : Candid (Read.config handle) := by
  unfold Read.config
  refine candid_get.bind fun registry => ?_
  cases (registry.client handle).cache.config with
  | some config => exact candid_pure _
  | none =>
      refine (candid_root handle).bind fun root => ?_
      cases root.config with
      | none => exact candid_pure _
      | some entry =>
          exact (candid_payload handle .blob entry.id).bind fun payload =>
            (candid_configDocument handle payload).bind fun document =>
              (candid_ofShape _).bind fun config => (candid_modify _).bind fun _ =>
                candid_pure (some config)

end

/-! ## The last response -/

/-- What a program has heard last when it ends. -/
def Program.lastHeard {σ α : Type} (program : Program σ α) (world : World σ) (waits : Nat)
    (heard : Hearing) : Hearing :=
  ((program.exchanges world waits).getLast?.map fun exchange =>
    (exchange.request, exchange.reply)).or heard

/-- A program ends as it obeys. -/
theorem Program.Obeys.play {σ α : Type} {conduct : Conduct σ} {result : Hearing → α → Prop}
    {program : Program σ α} {heard : Hearing} {start : σ}
    (h : program.Obeys conduct result heard start) (world : World σ) (waits : Nat) :
    result (program.lastHeard world waits heard) (program.play world waits).1 := by
  induction program generalizing heard start waits with
  | done state value => exact h.2
  | waiting state request resume ih =>
      let reply := world.reply waits request
      have hlast := ih (world.others waits state) reply (h.2 _ reply) (waits + 1)
      have hsame : (waiting state request resume).lastHeard world waits heard =
          (resume (world.others waits state) reply).lastHeard world (waits + 1)
            (some (request, reply)) := by
        unfold lastHeard
        rw [exchanges, List.getLast?_cons]
        let later := (resume (world.others waits state) reply).exchanges world (waits + 1)
        cases later.getLast? <;> rfl
      rw [hsame]
      exact hlast

/-- Whoever reads a level of a client's index. -/
inductive Read.OfLevel (handle : Handle) : {α : Type} → Read α → Prop where
  | root : OfLevel handle (Read.root handle)
  | author (name : String) : OfLevel handle (Read.author handle name)
  | package (author name : String) : OfLevel handle (Read.package handle author name)
  | config : OfLevel handle (Read.config handle)

theorem Read.OfLevel.candid {α : Type} {handle : Handle} {read : Read α}
    (h : read.OfLevel handle) : Candid read := by
  cases h with
  | root => exact candid_root handle
  | author name => exact candid_author handle name
  | package author name => exact candid_package handle author name
  | config => exact candid_config handle

namespace Instant

variable {α : Type} {world : World Registry} {instant : Instant Registry} {handle : Handle}
  {read : Read α}

/-- What users are told of a read, if anything. -/
def notice? (instant : Instant Registry) (world : World Registry) (handle : Handle)
    (read : Read α) : Option String :=
  match instant.ended world read with
  | .ok _ => none
  | .error error => some (error.report handle.url)

theorem notice?_of_error {error : ReadError} (hended : instant.ended world read = .error error) :
    instant.notice? world handle read = some (error.report handle.url) := by
  rw [notice?, hended]

/-- An attempt hands what users are told of the read to the notifier, and nothing else. -/
theorem notifier_attempt :
    (instant.after world (Lookup.attempt handle read)).state.notifier =
      let notifier := (instant.after world read).state.notifier
      (instant.notice? world handle read).elim notifier fun message =>
        (notifier.notify message).elim notifier (·.1) := by
  let action : Action Registry (Except ReadError α) := read.run
  rcases hplayed : action.play world instant with ⟨ended, later⟩
  have hended : instant.ended world (action : Lookup (Except ReadError α)) = .ok ended :=
    (congrArg Prod.fst (Action.play_map world instant Except.ok action)).trans
      (congrArg (fun played => Except.ok played.1) hplayed)
  have hlater : instant.after world (action : Lookup (Except ReadError α)) = later :=
    (after_lift world instant action).trans (congrArg Prod.snd hplayed)
  have hread : instant.ended world read = ended := congrArg Prod.fst hplayed
  have hafter : instant.after world read = later := congrArg Prod.snd hplayed
  rw [notice?, hread, hafter, Lookup.attempt, after_bind, hended, hlater]
  cases ended with
  | ok value => rfl
  | error error =>
      let report : Lookup (Option α) := do
        modify (·.update handle fun client => { client with lastFailure := error.status? })
        let _ ← Lookup.notify (error.report handle.url)
        return none
      have hrun := run_failed handle error (pure : Option α → Lookup (Option α)) later.state
      rw [bind_pure] at hrun
      have hreport : ((report.run later.state).play world later.waits).2.state.notifier =
          (later.state.notifier.notify (error.report handle.url)).elim later.state.notifier
            (·.1) := by
        rw [hrun]
        have hsame : ∀ change : Client → Client,
            (later.state.update handle change).notifier = later.state.notifier := fun _ => rfl
        rw [hsame]
        cases later.state.notifier.notify (error.report handle.url) <;> rfl
      exact hreport

/-- Users are told of a rate limit exactly if the last reply blames it. -/
theorem notice?_eq_rateLimit_iff (hread : Candid read) :
    instant.notice? world handle read = some (rateLimitNotice handle.url) ↔
      ((read.run instant.state).lastHeard world instant.waits none).Refused := by
  have hnone : ¬ Hearing.Refused none := by
    rintro ⟨_, _, hsome, -⟩
    cases hsome
  have hplayed := (hread none instant.state hnone).play world instant.waits
  unfold notice? Instant.ended Action.play
  cases hended : ((read.run instant.state).play world instant.waits).1 with
  | ok value =>
      rw [hended] at hplayed
      exact iff_of_false nofun hplayed
  | error error =>
      rw [hended] at hplayed
      exact (Option.some_inj.trans (error.report_eq_rateLimitNotice_iff handle.url)).trans hplayed

/-- **Reports.**  Whoever attempts to read a level of an index, whatever the host answers and others
do meanwhile: the notifier is handed what users are told of the read, and nothing else.  Of an error
they are told the notice of a rate limit or the error itself, and it is the notice of a rate limit
exactly if the last response refuses the request. -/
theorem attempt_reports_iff (hlevel : read.OfLevel handle) :
    ((instant.after world (Lookup.attempt handle read)).state.notifier =
      let notifier := (instant.after world read).state.notifier
      (instant.notice? world handle read).elim notifier fun message =>
        (notifier.notify message).elim notifier (·.1)) ∧
    (∀ error, instant.ended world read = .error error →
      instant.notice? world handle read = some (rateLimitNotice handle.url) ∨
        instant.notice? world handle read = some (error.ownNotice handle.url)) ∧
    (∀ (exchange : Exchange Registry) (response : Response) (url : Url),
      (instant.exchanges world read).getLast? = some exchange →
      exchange.reply = response.reply exchange.request url →
        (instant.notice? world handle read = some (rateLimitNotice handle.url) ↔
          response.Refuses)) ∧
    (instant.exchanges world read = [] →
      instant.notice? world handle read ≠ some (rateLimitNotice handle.url)) := by
  refine ⟨notifier_attempt, fun error hended => ?_,
    fun exchange response url hlast hreply => ?_, fun hidle => ?_⟩
  · rw [notice?_of_error hended, error.report_eq]
    cases error.blamesLimit with
    | true => exact .inl rfl
    | false => exact .inr rfl
  · rw [notice?_eq_rateLimit_iff hlevel.candid, Program.lastHeard]
    rw [exchanges] at hlast
    rw [hlast, ← Response.reply_isRateLimit_iff, ← hreply]
    constructor
    · rintro ⟨_, result, hsome, hlimit⟩
      exact ⟨result, (Prod.mk.inj (Option.some.inj hsome)).2, hlimit⟩
    · rintro ⟨result, hresult, hlimit⟩
      exact ⟨exchange.request, result, by rw [← hresult]; rfl, hlimit⟩
  · rw [Ne, notice?_eq_rateLimit_iff hlevel.candid, Program.lastHeard]
    rw [exchanges] at hidle
    rw [hidle]
    rintro ⟨_, _, hsome, -⟩
    cases hsome

end Instant

theorem Program.reply_of_mem_exchanges {σ α : Type} {program : Program σ α} {world : World σ}
    {waits : Nat} {exchange : Exchange σ} (hmem : exchange ∈ program.exchanges world waits) :
    ∃ later, exchange.reply = world.reply later exchange.request := by
  induction program generalizing waits with
  | done state value => cases hmem
  | waiting state request resume ih =>
      rcases List.mem_cons.mp hmem with rfl | hrest
      · exact ⟨waits, rfl⟩
      · exact ih _ _ hrest

open Delivered in
/-- Users are told of a rate limit if the host says that there were too many requests. -/
theorem too_many_requests_reported :
    let handle := Handle.shared ⟨"o", "r"⟩
    start.notice? (world (.answered 429 [] [])) handle (Read.root handle) =
      some (rateLimitNotice handle.url) := by
  intro handle
  let response : Response := .answered 429 [] []
  let exchanges := start.exchanges (world response) (Read.root handle)
  have hasked : exchanges.getLast?.isSome = true := by decide
  have hrefuses : response.Refuses := ⟨429, [], [], [], rfl, rfl, nofun, rfl⟩
  obtain ⟨exchange, hlast⟩ := Option.isSome_iff_exists.mp hasked
  obtain ⟨_, hreply⟩ := Program.reply_of_mem_exchanges (List.mem_of_getLast? hlast)
  exact ((Instant.attempt_reports_iff .root).2.2.1 exchange response url hlast hreply).mpr hrefuses

open Delivered in
/-- Users are told of a rate limit also if the host refuses a request for another reason. -/
theorem plain_refusal_reported :
    let handle := Handle.shared ⟨"o", "r"⟩
    let attempt := Lookup.attempt handle (Read.root handle)
    Response.headerValue? [] Response.quotaHeader = none ∧
      (start.after (world (.answered 403 [] [])) attempt).state.notifier.delivered =
        ["GitHub rate limit reached while reading https://github.com/o/r. "
          ++ "Configure a GitHub token to raise the limit."] := by
  decide

end ManifestLint
