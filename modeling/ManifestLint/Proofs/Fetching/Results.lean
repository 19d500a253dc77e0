import Mathlib.Data.List.TakeWhile
import ManifestLint.Fetching.Response
import ManifestLint.Proofs.Registry.Sending

/-!
# Results of responses

Whatever the host answers, and whatever happens on the way, a request should end with a
result, which counts only if the answer holds what was asked for: the entries of a tree,
or the text of a blob.  That is almost so.  The responses that lead to no result at all
are given here one by one, and so are the payloads that count and are no text.

* `Response.Holds` and `Response.Gives`: what a response holds, as a document, and as a
  tree or a blob.
* `Response.Broken`, `Response.Unreadable`: the responses without a result.
* `Instant.fetch_gives_iff`: both of them, of a request that was sent.
-/

namespace ManifestLint

namespace Response

/-! ## What a response holds -/

/-- All headers are ASCII. -/
def Spelled (headers : List (String × String)) : Prop :=
  ∀ header ∈ headers,
    header.1.toList.all Text.isAscii = true ∧ header.2.toList.all Text.isAscii = true

/-- The status is 200, and the body is a document. -/
inductive Holds (document : Json) : Response → Prop where
  | answered {headers : List (String × String)} {body : List Char} {bytes : List Nat}
      {text : List Char} (hspelled : Spelled headers) (hbytes : unpacked headers body = .ok bytes)
      (htext : Text.decodeBytes bytes = .ok text) (hdocument : Json.document text = .ok document) :
      Holds document (.answered 200 headers body)

/-- What a document says under a name, which only an object does. -/
def field? (document : Json) (name : String) : Option Json :=
  match document with
  | .object members => Entries.get? members name
  | _ => none

/-- The content of a blob, which is empty if the document does not say. -/
def content (document : Json) : Json := (field? document "content").getD (.string "")

/-- The document says that the content of the blob is base64. -/
def Encoded (document : Json) : Prop := field? document "encoding" = some (.string "base64")

/-- What a response gives that answers a request of some kind. -/
inductive Gives (response : Response) : RequestKind → Json → Prop where
  | tree {document : Json} {entries : List Json} (hholds : response.Holds document)
      (hentries : field? document "tree" = some (.array entries)) :
      Gives response .tree (.array entries)
  | decoded {document : Json} {text : String} {bytes : List Nat} {chars : List Char}
      (hholds : response.Holds document) (hencoded : Encoded document)
      (hcontent : content document = .string text) (hascii : text.toList.all Text.isAscii = true)
      (hbytes : Text.decodeBase64 text.toList = .ok bytes)
      (hchars : Text.decodeUtf8 bytes = .ok chars) :
      Gives response .blob (.string (.ofList chars))
  | plain {document : Json} (hholds : response.Holds document) (hplain : ¬ Encoded document) :
      Gives response .blob (content document)

/-! ## Responses without a result -/

/-- A redirection leads to a URL that has a scheme and no host, and that is none with the
host of the request. -/
def Strays (url : Url) (status : Int) (headers : List (String × String)) : Prop :=
  status ∈ redirections ∧ ∃ location target error,
    headerValue? headers locationHeader = some location ∧
      Url.parse location.toList = .ok target ∧ target.scheme ≠ [] ∧ target.host = [] ∧
      target.withHost url.host = .error error

/-- No document can be made of a response, and no result in its place. -/
inductive Broken (url : Url) : Response → Prop where
  | misspelt {status : Int} {headers : List (String × String)} {body : List Char}
      (hspelled : ¬ Spelled headers) : Broken url (.answered status headers body)
  | strays {status : Int} {headers : List (String × String)} {body : List Char}
      {bytes : List Nat} (hspelled : Spelled headers) (hbytes : unpacked headers body = .ok bytes)
      (hstrays : Strays url status headers) : Broken url (.answered status headers body)

/-- A response that gives no result to a request of some kind: it is broken, or a blob
whose content should be base64 and is no ASCII text. -/
inductive Unreadable (url : Url) (response : Response) : RequestKind → Prop where
  | broken (hbroken : response.Broken url) (kind : RequestKind) : Unreadable url response kind
  | content {document : Json} (hholds : response.Holds document) (hencoded : Encoded document)
      (hcontent : ∀ text, content document = .string text →
        text.toList.all Text.isAscii = false) : Unreadable url response .blob

variable {url : Url} {status : Int} {headers : List (String × String)} {body : List Char}
  {bytes : List Nat} {response : Response} {document payload : Json} {request : Request}

/-! ## Documents -/

theorem headerError?_eq_none_iff : headerError? headers = none ↔ Spelled headers := by
  have hascii (text : List Char) :
      Text.asciiError? text = none ↔ text.all Text.isAscii = true := by
    rw [Text.asciiError?, List.all_eq_true, ← List.dropWhile_eq_nil_iff]
    cases text.dropWhile Text.isAscii <;> simp
  simp only [headerError?, List.findSome?_eq_none_iff, Option.or_eq_none_iff, hascii, Spelled]

theorem checkLocation_cases (url : Url) (status : Int) (headers : List (String × String)) :
    (∃ fault, checkLocation url status headers = .error fault ∧ Strays url status headers) ∨
      (∃ text, checkLocation url status headers = .ok (some (failure text))) ∨
      checkLocation url status headers = .ok none := by
  unfold checkLocation
  split
  · next location hlocation =>
    split
    · next hstatus =>
      unfold checkRedirection
      split
      · exact .inr (.inl ⟨_, rfl⟩)
      · next target htarget =>
        split
        · next hstray =>
          obtain ⟨hscheme, hhost⟩ := Bool.and_eq_true_iff.mp hstray
          split
          · next error herror =>
            refine .inl ⟨_, rfl, hstatus, location, target, error, hlocation, htarget, ?_, ?_,
              herror⟩
            · simpa using hscheme
            · simpa using hhost
          · exact .inr (.inr rfl)
        · exact .inr (.inr rfl)
    · exact .inr (.inr rfl)
  · exact .inr (.inr rfl)

theorem Strays.checkLocation_eq (h : Strays url status headers) :
    ∃ error, checkLocation url status headers = .error (.url error) := by
  obtain ⟨hstatus, location, target, error, hlocation, htarget, hscheme, hhost, herror⟩ := h
  refine ⟨error, ?_⟩
  have hstray : (!target.scheme.isEmpty && target.host.isEmpty) = true := by
    simp [hscheme, hhost]
  simp only [checkLocation, hlocation, if_pos hstatus, checkRedirection, htarget, if_pos hstray,
    herror]

/-- A response with the status 200 leads nowhere else. -/
theorem checkLocation_found : checkLocation url 200 headers = .ok none := by
  unfold checkLocation
  split
  · exact if_neg (by decide)
  · rfl

/-- The status of a refusal is never that of a result that counts. -/
theorem effectiveStatus_ne (hstatus : status ≠ 200) : effectiveStatus status headers ≠ 200 := by
  unfold effectiveStatus
  split
  · decide
  · exact hstatus

/-- What becomes of a response whose body is unpacked. -/
theorem document_answered (hspelled : Spelled headers)
    (hbytes : unpacked headers body = .ok bytes) :
    (answered status headers body).document url = (do
      if let some result ← checkLocation url status headers then return .error result
      if status ≠ 200 then
        return .error {
          status := effectiveStatus status headers, message := s!"GitHub returned {status}" }
      else return readDocument bytes) := by
  have hheaders := headerError?_eq_none_iff.mpr hspelled
  dsimp only [Response.document]
  generalize headerError? headers = misspelt at hheaders ⊢
  generalize unpacked headers body = read at hbytes ⊢
  subst hheaders hbytes
  rfl

theorem Holds.document_eq (h : response.Holds document) :
    response.document url = .ok (.ok document) := by
  obtain ⟨hspelled, hbytes, htext, hdocument⟩ := h
  rw [document_answered hspelled hbytes, checkLocation_found]
  simp only [readDocument, htext, hdocument]
  rfl

/-- A response holds at most one document. -/
theorem Holds.unique (h : response.Holds document) {other : Json}
    (hother : response.Holds other) : document = other := by
  obtain ⟨-, hbytes, htext, hdocument⟩ := h
  obtain ⟨-, hbytesOther, htextOther, hdocumentOther⟩ := hother
  obtain rfl := Except.ok.inj (hbytes.symm.trans hbytesOther)
  obtain rfl := Except.ok.inj (htext.symm.trans htextOther)
  exact Except.ok.inj (hdocument.symm.trans hdocumentOther)

theorem Broken.document_eq (h : response.Broken url) :
    ∃ fault, response.document url = .error fault := by
  cases h with
  | @misspelt status headers body hspelled =>
      cases herror : headerError? headers with
      | none => exact absurd (headerError?_eq_none_iff.mp herror) hspelled
      | some error =>
          refine ⟨.notAsciiHeader error, ?_⟩
          simp only [Response.document, herror]
          rfl
  | strays hspelled hbytes hstrays =>
      obtain ⟨error, herror⟩ := hstrays.checkLocation_eq
      refine ⟨.url error, ?_⟩
      rw [document_answered hspelled hbytes, herror]
      rfl

theorem readDocument_cases (bytes : List Nat) :
    (∃ text document, Text.decodeBytes bytes = .ok text ∧ Json.document text = .ok document) ∨
      ∃ result : FetchResult, readDocument bytes = .error result ∧ result.ok = false := by
  unfold readDocument
  dsimp only
  split
  · exact .inr ⟨_, rfl, rfl⟩
  · next text htext =>
    split
    · next document hdocument => exact .inl ⟨text, document, htext, hdocument⟩
    · exact .inr ⟨_, rfl, rfl⟩

/-- What becomes of a response whose body is unpacked. -/
theorem answered_cases (hspelled : Spelled headers) (hbytes : unpacked headers body = .ok bytes) :
    (answered status headers body).Broken url ∨
      (∃ document, (answered status headers body).Holds document) ∨
      ∃ result : FetchResult,
        (answered status headers body).document url = .ok (.error result) ∧ result.ok = false := by
  have hdocument : (answered status headers body).document url = _ :=
    document_answered hspelled hbytes
  rcases checkLocation_cases url status headers with ⟨_, -, hstrays⟩ | ⟨text, hfailed⟩ | hnone
  · exact .inl (.strays hspelled hbytes hstrays)
  · rw [hfailed] at hdocument
    exact .inr (.inr ⟨_, hdocument, rfl⟩)
  · rw [hnone] at hdocument
    by_cases hstatus : status = 200
    · subst hstatus
      rcases readDocument_cases bytes with ⟨text, document, htext, hread⟩ | ⟨result, hread, hok⟩
      · exact .inr (.inl ⟨document, .answered hspelled hbytes htext hread⟩)
      · exact .inr (.inr ⟨result, hdocument.trans (congrArg Except.ok hread), hok⟩)
    · refine .inr (.inr ⟨_, hdocument.trans (if_pos hstatus), ?_⟩)
      exact decide_eq_false (effectiveStatus_ne hstatus)

/-- **Documents.**  A response is broken, holds a document, or leads to a result that
does not count. -/
theorem document_cases (url : Url) (response : Response) :
    response.Broken url ∨ (∃ document, response.Holds document) ∨
      ∃ result : FetchResult, response.document url = .ok (.error result) ∧ result.ok = false := by
  cases response with
  | failed text => exact .inr (.inr ⟨_, rfl, rfl⟩)
  | answered status headers body =>
      by_cases hspelled : Spelled headers
      · cases hbytes : unpacked headers body with
        | ok bytes => exact answered_cases hspelled hbytes
        | error error =>
            refine .inr (.inr ⟨failure error.message, ?_, rfl⟩)
            simp only [Response.document, headerError?_eq_none_iff.mpr hspelled, hbytes]
            rfl
      · exact .inl (.misspelt hspelled)

/-! ## Replies -/

theorem reply_eq {read : Document} (h : response.document url = .ok read) :
    response.reply request url =
      match request.kind with
      | .tree => .ok (tree request.idText read)
      | .blob => blob request.idText read := by
  rw [reply, h]
  cases request.kind <;> rfl

/-- The blob in a document. -/
theorem blob_eq (id : String) (document : Json) :
    blob id (.ok document) =
      match field? document "encoding" with
      | some (.string "base64") => decoded id (content document)
      | _ => .ok (.found (content document)) := by
  cases document <;> rfl

theorem blob_of_encoded {id : String} (h : Encoded document) :
    blob id (.ok document) = decoded id (content document) := by
  rw [blob_eq, h]
  rfl

theorem blob_of_plain {id : String} (h : ¬ Encoded document) :
    blob id (.ok document) = .ok (.found (content document)) := by
  rw [blob_eq]
  split
  · next hencoded => exact absurd hencoded h
  · rfl

/-- What becomes of content that should be base64: it is no ASCII text, it is decoded, or
it leads to a result that does not count. -/
theorem decoded_cases (id : String) (content : Json) :
    (∀ text, content = .string text → text.toList.all Text.isAscii = false) ∨
      (∃ text bytes chars, content = .string text ∧ text.toList.all Text.isAscii = true ∧
        Text.decodeBase64 text.toList = .ok bytes ∧ Text.decodeUtf8 bytes = .ok chars) ∨
      ∃ result : FetchResult, decoded id content = .ok result ∧ result.ok = false := by
  cases content with
  | string text =>
      cases hascii : text.toList.all Text.isAscii with
      | false =>
          refine .inl fun other hother => ?_
          rw [← Json.string.inj hother, hascii]
      | true =>
          simp only [decoded, if_pos hascii]
          cases hbytes : Text.decodeBase64 text.toList with
          | error problem => exact .inr (.inr ⟨_, rfl, rfl⟩)
          | ok bytes =>
              dsimp only
              cases hchars : Text.decodeUtf8 bytes with
              | error error => exact .inr (.inr ⟨_, rfl, rfl⟩)
              | ok chars => exact .inr (.inl ⟨text, bytes, chars, rfl, hascii, hbytes, hchars⟩)
  | _ => exact .inl nofun

theorem decoded_of_not_ascii {id : String} {content : Json}
    (h : ∀ text, content = .string text → text.toList.all Text.isAscii = false) :
    ∃ fault, decoded id content = .error fault := by
  cases content with
  | string text =>
      refine ⟨.notAscii, ?_⟩
      rw [decoded, h text rfl]
      rfl
  | _ => exact ⟨_, rfl⟩

/-- The tree in a document. -/
theorem tree_eq (id : String) (document : Json) :
    tree id (.ok document) =
      match field? document "tree" with
      | some (.array entries) => .found (.array entries)
      | _ => .unusable s!"Malformed tree '{id}'" := by
  cases document <;> rfl

theorem tree_cases (id : String) (document : Json) :
    (∃ entries, field? document "tree" = some (.array entries)) ∨
      (tree id (.ok document)).ok = false := by
  rw [tree_eq]
  split
  · next entries hentries => exact .inl ⟨entries, hentries⟩
  · exact .inr rfl

/-- **Replies.**  A response gives what was asked for, is unreadable, or leads to a result
that does not count. -/
theorem reply_cases (url : Url) (response : Response) (request : Request) :
    response.Unreadable url request.kind ∨ (∃ payload, response.Gives request.kind payload) ∨
      ∃ result : FetchResult, response.reply request url = .ok result ∧ result.ok = false := by
  rcases document_cases url response with hbroken | ⟨document, hholds⟩ | ⟨result, hresult, hok⟩
  · exact .inl (.broken hbroken _)
  · have hreply : response.reply request url = _ := reply_eq hholds.document_eq
    cases hkind : request.kind with
    | tree =>
        rw [hkind] at hreply
        rcases tree_cases request.idText document with ⟨entries, hentries⟩ | hbad
        · exact .inr (.inl ⟨_, .tree hholds hentries⟩)
        · exact .inr (.inr ⟨_, hreply, hbad⟩)
    | blob =>
        rw [hkind] at hreply
        by_cases hencoded : Encoded document
        · rcases decoded_cases request.idText (content document) with
            hcontent | ⟨text, bytes, chars, hcontent, hascii, hbytes, hchars⟩ |
              ⟨result, hresult, hok⟩
          · exact .inl (.content hholds hencoded hcontent)
          · exact .inr (.inl ⟨_, .decoded hholds hencoded hcontent hascii hbytes hchars⟩)
          · exact .inr (.inr ⟨result, hreply.trans ((blob_of_encoded hencoded).trans hresult), hok⟩)
        · exact .inr (.inl ⟨_, .plain hholds hencoded⟩)
  · have hreply : response.reply request url = _ := reply_eq hresult
    refine .inr (.inr ⟨result, hreply.trans ?_, hok⟩)
    cases request.kind <;> rfl

theorem Gives.reply_eq (h : response.Gives request.kind payload) :
    response.reply request url = .ok (.found payload) := by
  generalize hkind : request.kind = kind at h
  cases h with
  | tree hholds hentries =>
      rw [Response.reply_eq hholds.document_eq, hkind]
      exact congrArg Except.ok ((tree_eq _ _).trans (by rw [hentries]))
  | @decoded document text bytes chars hholds hencoded hcontent hascii hbytes hchars =>
      rw [Response.reply_eq hholds.document_eq, hkind]
      refine (blob_of_encoded hencoded).trans ?_
      simp only [hcontent, Response.decoded, if_pos hascii, hbytes, hchars]
  | plain hholds hplain =>
      rw [Response.reply_eq hholds.document_eq, hkind]
      exact blob_of_plain hplain

theorem Unreadable.reply_eq (h : response.Unreadable url request.kind) :
    ∃ fault, response.reply request url = .error fault := by
  generalize hkind : request.kind = kind at h
  cases h with
  | broken hbroken _ =>
      obtain ⟨fault, hfault⟩ := hbroken.document_eq
      refine ⟨fault, ?_⟩
      rw [reply, hfault]
      rfl
  | content hholds hencoded hcontent =>
      rw [Response.reply_eq hholds.document_eq, hkind]
      obtain ⟨fault, hfault⟩ := @decoded_of_not_ascii request.idText _ hcontent
      exact ⟨fault, (blob_of_encoded hencoded).trans hfault⟩

/-! ## What is given -/

theorem Gives.answered {kind : RequestKind} (h : response.Gives kind payload) :
    ∃ headers body, response = .answered 200 headers body := by
  have hholds : ∃ document, response.Holds document := by
    cases h with
    | tree hholds _ => exact ⟨_, hholds⟩
    | decoded hholds => exact ⟨_, hholds⟩
    | plain hholds _ => exact ⟨_, hholds⟩
  obtain ⟨document, hspelled, hbytes, htext, hdocument⟩ := hholds
  exact ⟨_, _, rfl⟩

theorem Gives.entries (h : response.Gives .tree payload) : ∃ entries, payload = .array entries := by
  cases h with
  | tree _ _ => exact ⟨_, rfl⟩

/-- What is given as a blob is a text, unless it was taken as it is and is none. -/
theorem Gives.no_text_iff (h : response.Gives .blob payload) :
    (∀ text, payload ≠ .string text) ↔
      ∃ document, response.Holds document ∧ ¬ Encoded document ∧
        ∀ text, content document ≠ .string text := by
  cases h with
  | decoded hholds hencoded =>
      constructor
      · intro hnone
        exact absurd rfl (hnone _)
      · rintro ⟨other, hother, hplain, -⟩
        rw [← hholds.unique hother] at hplain
        exact absurd hencoded hplain
  | @plain document hholds hplain =>
      constructor
      · intro hnone
        exact ⟨document, hholds, hplain, hnone⟩
      · rintro ⟨other, hother, -, hnone⟩
        rwa [hholds.unique hother]

end Response

/-! ## Requests that were sent -/

namespace Instant

/-- The request is sent to a URL of the host, and what comes back is a response. -/
structure Receives (instant : Instant Registry) (world : World Registry) (request : Request)
    (url : Url) (response : Response) : Prop where
  overHttp : instant.state.fetcher.overHttp = true
  sent : ∃ connection, instant.state.fetcher.connect = .ok connection ∧
    connection.base.below request.path.toList = .ok url
  reply : world.reply instant.waits request = response.reply request url

variable {instant : Instant Registry} {world : World Registry} {request : Request} {url : Url}
  {response : Response}

/-- A request that is sent ends as its response says. -/
theorem Receives.ended (h : instant.Receives world request url response) :
    instant.ended world (Lookup.fetch request) = (response.reply request url).mapError .fetch := by
  obtain ⟨connection, hconnect, hurl⟩ := h.sent
  have hsent : (instant.state.fetcher.send request).1 = none := by
    simp only [Fetcher.send, h.overHttp, if_true, hconnect, hurl]
  have hrun : (Lookup.fetch request).run instant.state =
      .waiting { instant.state with fetcher := (instant.state.fetcher.send request).2 } request
        fun later reply => .done later (reply.mapError .fetch) := by
    have hask : Registry.ask request instant.state =
        .waiting { instant.state with fetcher := (instant.state.fetcher.send request).2 } request
          .done := by
      rw [Registry.ask_eq, hsent]
      rfl
    change ((Registry.ask request instant.state).bind _).bind _ = _
    rw [hask]
    refine congrArg (Program.waiting _ request) (funext fun later => funext fun reply => ?_)
    cases reply <;> rfl
  rw [Instant.ended, Action.play, hrun, Program.play, Program.play, h.reply]

/-- **Results.**  Let a request be sent, and the response be any.  There is a result if and
only if the response is not unreadable.  It counts if and only if the response gives its
payload as what was asked for; the status was 200 then.  What counts as a tree is a list,
and what counts as a blob is a text, except where a document does not call its content
base64 and the content is no text. -/
theorem fetch_gives_iff (h : instant.Receives world request url response) :
    ((∃ result, instant.ended world (Lookup.fetch request) = .ok result) ↔
      ¬ response.Unreadable url request.kind) ∧
    ∀ result, instant.ended world (Lookup.fetch request) = .ok result →
      (result.ok = true ↔ response.Gives request.kind result.payload) ∧
      (result.ok = true →
        (∃ headers body, response = .answered 200 headers body) ∧
        (request.kind = .tree → ∃ entries, result.payload = .array entries) ∧
        (request.kind = .blob →
          ((∀ text, result.payload ≠ .string text) ↔
            ∃ document, response.Holds document ∧ ¬ Response.Encoded document ∧
              ∀ text, Response.content document ≠ .string text))) := by
  have hended := h.ended
  have hgives {payload : Json} (hpayload : response.Gives request.kind payload) :
      instant.ended world (Lookup.fetch request) = .ok (.found payload) := by
    rw [hended, hpayload.reply_eq]
    rfl
  refine ⟨⟨?_, fun hreadable => ?_⟩, fun result hresult => ?_⟩
  · rintro ⟨result, hresult⟩ hunreadable
    obtain ⟨fault, hfault⟩ := hunreadable.reply_eq
    rw [hended, hfault] at hresult
    cases hresult
  · rcases Response.reply_cases url response request with
      hbad | ⟨payload, hpayload⟩ | ⟨result, hreply, -⟩
    · exact absurd hbad hreadable
    · exact ⟨_, hgives hpayload⟩
    · exact ⟨result, hended.trans (congrArg (·.mapError Fault.fetch) hreply)⟩
  have hcounts : result.ok = true ↔ response.Gives request.kind result.payload := by
    constructor
    · intro hok
      rcases Response.reply_cases url response request with
        hbad | ⟨payload, hpayload⟩ | ⟨other, hreply, hbad⟩
      · obtain ⟨fault, hfault⟩ := hbad.reply_eq
        rw [hended, hfault] at hresult
        cases hresult
      · obtain rfl := Except.ok.inj ((hgives hpayload).symm.trans hresult)
        exact hpayload
      · rw [hended, hreply] at hresult
        obtain rfl := Except.ok.inj hresult
        rw [hok] at hbad
        cases hbad
    · intro hpayload
      have hfound := Except.ok.inj ((hgives hpayload).symm.trans hresult)
      rw [← hfound]
      rfl
  refine ⟨hcounts, fun hok => ?_⟩
  have hpayload := hcounts.mp hok
  refine ⟨hpayload.answered, fun hkind => ?_, fun hkind => ?_⟩
  · rw [hkind] at hpayload
    exact hpayload.entries
  · rw [hkind] at hpayload
    exact hpayload.no_text_iff

end Instant

/-! ## Four blobs -/

namespace Delivered

/-- A request for a blob. -/
def blob : Request := ⟨.blob, "o", "r", .string "s"⟩

/-- The base of all URLs of the host. -/
def base : Url := ⟨"https".toList, [], "api.github.com".toList, none, ['/'], none, none⟩

/-- The URL of the blob. -/
def url : Url := { base with path := "/repos/o/r/git/blobs/s".toList }

/-- A registry whose fetcher has an open connection. -/
def start : Instant Registry :=
  ⟨.new { overHttp := true, connection := some ⟨base, none⟩ } (some defaultCooldown) none, 0⟩

/-- The host that answers everything with a response. -/
def world (response : Response) : World Registry :=
  .steady fun request => response.reply request url

/-- A response with a body and nothing else. -/
def answered (body : String) : Response := .answered 200 [] body.toList

theorem receives (response : Response) : start.Receives (world response) blob url response where
  overHttp := rfl
  sent := ⟨⟨base, none⟩, rfl, eq_ok_of_toOption (by decide)⟩
  reply := rfl

/-- Whether what comes back of the blob counts, and of which kind its payload is. -/
def payloadKind? (response : Response) : Option (Bool × Json.Kind) :=
  (start.ended (world response) (Lookup.fetch blob)).toOption.map fun result =>
    (result.ok, result.payload.kind)

/-- The fault in place of a result. -/
def fault? (response : Response) : Option Fault :=
  error? (start.ended (world response) (Lookup.fetch blob))

end Delivered

open Delivered in
/-- A blob in base64 is read. -/
theorem encoded_blob_given :
    let response := answered "\x7b\"encoding\": \"base64\", \"content\": \"aGk=\"\x7d"
    start.Receives (world response) blob url response ∧
      ¬ response.Unreadable url .blob ∧
      ∃ result, start.ended (world response) (Lookup.fetch blob) = .ok result ∧
        result.ok = true ∧ response.Gives .blob result.payload ∧
        ∃ text, result.payload = .string text := by
  intro response
  have hreceives := receives response
  have hkind : payloadKind? response = some (true, .string) := by decide +kernel
  obtain ⟨result, hresult, hsame⟩ := Option.map_eq_some_iff.mp hkind
  have hended := eq_ok_of_toOption hresult
  obtain ⟨hok, hstring⟩ := Prod.mk.inj hsame
  obtain ⟨hreadable, hcounts⟩ := Instant.fetch_gives_iff hreceives
  refine ⟨hreceives, hreadable.mp ⟨result, hended⟩, result, hended, hok,
    (hcounts result hended).1.mp hok, ?_⟩
  cases hpayload : result.payload with
  | string text => exact ⟨text, rfl⟩
  | _ => rw [hpayload] at hstring; cases hstring

open Delivered in
/-- Content that should be base64 leads to no result if it is not ASCII or no text, and so
does a redirection that names no host; a number counts as the text of a blob. -/
theorem blobs_not_read :
    fault? (answered "\x7b\"encoding\": \"base64\", \"content\": \"é\"\x7d") =
        some (.fetch .notAscii) ∧
      fault? (answered "\x7b\"encoding\": \"base64\", \"content\": 1\x7d") =
        some (.fetch (.shape (.notEncoded .int))) ∧
      fault? (.answered 302 [("location", "http:elsewhere")] []) =
        some (.fetch (.url .pathNotRooted)) ∧
      payloadKind? (answered "\x7b\"content\": 1\x7d") = some (true, .int) := by
  decide +kernel

end ManifestLint
