import ManifestLint.Proofs.Registry.OneToken

/-!
# The token that was set last

A fetcher holds its token twice: itself, and in the connection that it opens with the first request,
keeps until it is closed, and may open again.  Whatever the fetcher is used for in between, the two
agree on the token that was set last, unless the connection does not take it: a token that is not
ASCII cannot be shown, and then the connection shows none.  So a request carries the token that was
set last, or nothing if that one cannot be shown.

* `Fetcher.Follows`: the two copies agree with the token that was set last.
* `Fetcher.Follows.after`, `Fetcher.Follows.afterAll`: one use, and one after the other.
* `FetcherUse.sent_latest_iff`: what a request carries after any uses.
* `FetcherUse.foreign_token_not_shown`: a token that is set and not shown.
-/

namespace ManifestLint

/-- What a fetcher is used for. -/
inductive FetcherUse where
  | request (request : Request)
  | setToken (token : Option String)
  | close

namespace FetcherUse

/-- The fetcher after it was used. -/
def after (fetcher : Fetcher) : FetcherUse → Fetcher
  | .request asked => (fetcher.send asked).2
  | .setToken token => (fetcher.setToken token).2
  | .close => fetcher.close

/-- The fetcher after it was used for one thing after the other. -/
def afterAll (fetcher : Fetcher) (uses : List FetcherUse) : Fetcher := uses.foldl after fetcher

/-- The token that was set last, if it is known which one was before. -/
def latest (before : Option String) : FetcherUse → Option String
  | .setToken token => token
  | .request _ | .close => before

/-- The token that was set last by any of some uses, or else the first one. -/
def latestOf (token : Option String) (uses : List FetcherUse) : Option String :=
  uses.foldl latest token

end FetcherUse

/-! ## Two copies of a token -/

/-- Whether a token can be shown to the host. -/
def isShowable (token : Option String) : Bool :=
  (Text.asciiError? ((authorization (usableToken token)).getD "").toList).isNone

/-- What a connection shows of a token. -/
def shownOf (token : Option String) : Option String :=
  if isShowable token then authorization (usableToken token) else none

/-- What a request for a URL carries, given a token: name and password in the URL come first. -/
def carriedFor (token : Option String) (url : Url) : Option String :=
  (url.credentials?.map fun (name, password) => credentialsShown name password).or (shownOf token)

theorem shownOf_of_ascii {token : Option String}
    (hshowable : Text.asciiError? ((authorization (usableToken token)).getD "").toList = none) :
    shownOf token = authorization (usableToken token) :=
  if_pos (Option.isNone_iff_eq_none.mpr hshowable)

theorem shownOf_of_notAscii {token : Option String} {error : Text.AsciiError}
    (herror : Text.asciiError? ((authorization (usableToken token)).getD "").toList = some error) :
    shownOf token = none :=
  if_neg fun hnone => by
    rw [isShowable, herror] at hnone
    cases hnone

namespace Fetcher

variable {fetcher : Fetcher} {apiUrl : String} {latest : Option String}

/-- The fetcher sends its requests to a host, and it and its connection agree with the token that
was set last. -/
structure Follows (apiUrl : String) (latest : Option String) (fetcher : Fetcher) : Prop where
  overHttp : fetcher.overHttp = true
  address : fetcher.apiUrl = apiUrl
  held : fetcher.token = usableToken latest
  opened : ∀ connection, fetcher.connection = some connection →
    Url.base apiUrl.toList = .ok connection.base ∧ connection.authorization = shownOf latest

/-- A connection is there if one is open, or can be opened for the token. -/
theorem Follows.connect_eq_ok_iff (h : fetcher.Follows apiUrl latest) {connection : Connection} :
    fetcher.connect = .ok connection ↔
      Url.base apiUrl.toList = .ok connection.base ∧ connection.authorization = shownOf latest ∧
        (fetcher.connection.isSome = true ∨ isShowable latest = true) := by
  cases hopen : fetcher.connection with
  | some other =>
      obtain ⟨hbase, hshown⟩ := h.opened other hopen
      have hconnect : fetcher.connect = .ok other := by rw [connect, hopen]
      rw [hconnect]
      constructor
      · rintro ⟨⟩
        exact ⟨hbase, hshown, .inl rfl⟩
      · rintro ⟨hsame, hother, -⟩
        have hbases : other.base = connection.base := Except.ok.inj (hbase.symm.trans hsame)
        have hauthorizations : other.authorization = connection.authorization :=
          hshown.trans hother.symm
        cases other
        cases connection
        cases hbases
        cases hauthorizations
        rfl
  | none =>
      simp only [connect, hopen, h.address, h.held]
      cases hbase : Url.base apiUrl.toList with
      | error error => simp [Except.mapError, bind, Except.bind]
      | ok base =>
          cases herror :
              Text.asciiError? ((authorization (usableToken latest)).getD "").toList with
          | some error =>
              simp [Except.mapError, bind, Except.bind, isShowable, herror, throw, throwThe,
                MonadExceptOf.throw]
          | none =>
              obtain ⟨other, shown⟩ := connection
              simp [Except.mapError, bind, Except.bind, isShowable, herror, shownOf_of_ascii herror,
                pure, Except.pure, eq_comm]

/-- What a sent request carries is noted in the journal. -/
theorem journal_send (hoverHttp : fetcher.overHttp = true) {request : Request} {url : Url}
    {shown : Option String} :
    (fetcher.send request).2.journal = fetcher.journal ++ [.sent url shown] ↔
      ∃ connection, fetcher.connect = .ok connection ∧
        connection.base.below request.path.toList = .ok url ∧
        shown = connection.authorizationFor url := by
  rw [send, if_pos hoverHttp]
  cases fetcher.connect with
  | error fault => simp
  | ok connection =>
      simp only [Except.ok.injEq, exists_eq_left']
      cases connection.base.below request.path.toList with
      | error error => simp
      | ok other =>
          simp only [List.append_cancel_left_eq, List.cons.injEq, and_true, Event.sent.injEq,
            Except.ok.injEq]
          constructor
          · rintro ⟨rfl, rfl⟩
            exact ⟨rfl, rfl⟩
          · rintro ⟨rfl, rfl⟩
            exact ⟨rfl, rfl⟩

/-- Each use leaves the two copies in agreement. -/
theorem Follows.after (h : fetcher.Follows apiUrl latest) (use : FetcherUse) :
    (use.after fetcher).Follows apiUrl (use.latest latest) := by
  cases use with
  | request asked =>
      change (fetcher.send asked).2.Follows apiUrl latest
      rw [send, if_pos h.overHttp]
      cases hconnect : fetcher.connect with
      | error fault => exact h
      | ok connection =>
          obtain ⟨hbase, hshown, -⟩ := h.connect_eq_ok_iff.mp hconnect
          have hopened : ∀ other, some connection = some other →
              Url.base apiUrl.toList = .ok other.base ∧ other.authorization = shownOf latest := by
            rintro other ⟨⟩
            exact ⟨hbase, hshown⟩
          dsimp only
          split
          · exact ⟨h.overHttp, h.address, h.held, hopened⟩
          · exact ⟨h.overHttp, h.address, h.held, hopened⟩
  | setToken token =>
      refine ⟨(setToken_overHttp token).trans h.overHttp, ?_, token_setToken fetcher token, ?_⟩
      · change (fetcher.setToken token).2.apiUrl = apiUrl
        unfold setToken
        dsimp only
        split <;> exact h.address
      · change ∀ connection, (fetcher.setToken token).2.connection = some connection → _
        unfold setToken
        dsimp only
        split
        · nofun
        · next hopen hshowable =>
            rintro connection ⟨⟩
            exact ⟨(h.opened _ hopen).1, (shownOf_of_ascii hshowable).symm⟩
        · next hopen herror =>
            rintro connection ⟨⟩
            exact ⟨(h.opened _ hopen).1, (shownOf_of_notAscii herror).symm⟩
  | close => exact ⟨h.overHttp, h.address, h.held, nofun⟩

/-- A new fetcher that sends its requests to a host. -/
def forHost (apiUrl : String) (timeout : Option Float) (token : Option String) : Fetcher :=
  { new apiUrl timeout token with overHttp := true }

theorem follows_forHost (apiUrl : String) (timeout : Option Float) (token : Option String) :
    (forHost apiUrl timeout token).Follows (forHost apiUrl timeout token).apiUrl token :=
  ⟨rfl, rfl, rfl, nofun⟩

theorem Follows.afterAll (h : fetcher.Follows apiUrl latest) (uses : List FetcherUse) :
    (FetcherUse.afterAll fetcher uses).Follows apiUrl (FetcherUse.latestOf latest uses) := by
  induction uses generalizing fetcher latest with
  | nil => exact h
  | cons use rest ih => exact ih (h.after use)

theorem authorizationFor_eq {connection : Connection}
    (hshown : connection.authorization = shownOf latest) (url : Url) :
    connection.authorizationFor url = carriedFor latest url := by
  unfold Connection.authorizationFor carriedFor
  cases url.credentials? with
  | none => exact hshown
  | some shown => rfl

end Fetcher

/-- **A request carries the token that was set last.**  Whatever a new fetcher was used for, and
whichever request comes next: the request is sent exactly if the address of the host and the request
have URLs, and a connection is open or the token that was set last can be shown.  It carries this
token then, or nothing if that is none or cannot be shown; but name and password in the address of
the host come first. -/
theorem FetcherUse.sent_latest_iff (apiUrl : String) (timeout : Option Float)
    (token : Option String) (uses : List FetcherUse) (request : Request) (url : Url)
    (shown : Option String) :
    let fetcher := afterAll (.forHost apiUrl timeout token) uses
    let latest := latestOf token uses
    (fetcher.send request).2.journal = fetcher.journal ++ [.sent url shown] ↔
      (∃ base, Url.base (Fetcher.forHost apiUrl timeout token).apiUrl.toList = .ok base ∧
        base.below request.path.toList = .ok url) ∧
      (fetcher.connection.isSome = true ∨ isShowable latest = true) ∧
      shown = carriedFor latest url := by
  intro fetcher latest
  have hfollows : fetcher.Follows (Fetcher.forHost apiUrl timeout token).apiUrl latest :=
    (Fetcher.follows_forHost apiUrl timeout token).afterAll uses
  rw [Fetcher.journal_send hfollows.overHttp]
  constructor
  · rintro ⟨connection, hconnect, hbelow, hshown⟩
    obtain ⟨hbase, hauthorization, hopen⟩ := hfollows.connect_eq_ok_iff.mp hconnect
    exact ⟨⟨connection.base, hbase, hbelow⟩, hopen,
      hshown.trans (Fetcher.authorizationFor_eq hauthorization url)⟩
  · rintro ⟨⟨base, hbase, hbelow⟩, hopen, hshown⟩
    exact ⟨⟨base, shownOf latest⟩, hfollows.connect_eq_ok_iff.mpr ⟨hbase, rfl, hopen⟩, hbelow,
      hshown.trans (Fetcher.authorizationFor_eq rfl url).symm⟩

namespace Swapped

open FetcherUse (afterAll latestOf)

/-- A request for a tree. -/
def tree : Request := ⟨.tree, "o", "r", .string "main"⟩

/-- The base of all URLs of the host. -/
def base : Url := ⟨"https".toList, [], "api.github.com".toList, none, [], none, none⟩

/-- The URL of the tree. -/
def url : Url := { base with path := "/repos/o/r/git/trees/main".toList }

/-- What an entry of the journal says of a request that was sent. -/
def carried? : Event → Option (Option String)
  | .sent _ shown => some shown
  | .asked _ | .tokenSet _ | .closed => none

end Swapped

open Swapped in
/-- A token that is set while a connection is open is carried from then on. -/
theorem FetcherUse.new_token_carried :
    let uses := [.request tree, .setToken (some "new")]
    let fetcher := afterAll (.forHost defaultApiUrl (some defaultTimeout) (some "old")) uses
    (fetcher.send tree).2.journal = fetcher.journal ++ [.sent url (some "Bearer new")] :=
  (sent_latest_iff defaultApiUrl (some defaultTimeout) (some "old") _ tree url _).mpr
    ⟨⟨base, eq_ok_of_toOption (by decide +kernel), eq_ok_of_toOption (by decide)⟩,
      .inr (by decide), by decide⟩

open Swapped in
/-- A token that is set while a connection is open, and cannot be shown, leaves the connection
without one: the request after it carries neither the new token nor the old one. -/
theorem FetcherUse.foreign_token_not_shown :
    let uses := [.request tree, .setToken (some "日本"), .request tree]
    latestOf (some "old") uses = some "日本" ∧ url.credentials? = none ∧
      (afterAll (.forHost defaultApiUrl (some defaultTimeout) (some "old")) uses).journal.filterMap
        carried? = [some "Bearer old", none] := by
  decide +kernel

end ManifestLint
