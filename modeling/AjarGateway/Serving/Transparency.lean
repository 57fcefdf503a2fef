import AjarGateway.Http.FieldValue
import AjarGateway.Serving.Reference

/-
  What a store changes for requests that it does not answer.

  A gateway with a store is compared with a gateway of the
  same configuration without one.  Both send the same
  request to the origin, and the answers only differ in the
  link to the manifest that is added to pages.

  Key definitions include:
    * `Serving.Passes`
    * `Serving.Transparent`
    * `Serving.HasHtmlType`

  Key theorems include:
    * `Serving.storeTarget_eq_none_iff`
    * `Serving.isHtmlContentType_iff`
    * `Serving.transparent_of_passes`
-/

------------------------------------------------------------
-- Passed Requests
------------------------------------------------------------

namespace AjarGateway

namespace Serving

open Http Interleaving Store

/- A request that a store leaves to the origin. -/
structure Passes
    (http : HttpCrate)
    (store : PreparedContentStore)
    (request : Request Chunks) : Prop where
  notManifest :
    ¬ (request.method = .get ∧
      request.uri.path = manifestPath)
  notIndex :
    ¬ (request.method = .get ∧
      request.uri.path = store.manifest.viewsIndex)
  notView :
    request.method ≠ .get ∨
      store.viewForRequestTarget
          (requestTarget request.uri) =
        none ∨
      negotiate
          (combinedAcceptHeader http request.headers) true =
        .passthrough

theorem storeTarget_eq_none_iff
    (http : HttpCrate)
    (store : PreparedContentStore)
    (request : Request Chunks) :
    storeTarget http store request = none ↔
      Passes http store request := by
  by_cases hGet : request.method = .get
  · by_cases hManifest : request.uri.path = manifestPath
    · rw [storeTarget_of_manifest hGet hManifest]
      constructor
      · intro hNone
        cases hNone
      · intro hPasses
        exact absurd ⟨hGet, hManifest⟩ hPasses.notManifest
    · by_cases hIndex :
          request.uri.path = store.manifest.viewsIndex
      · rw [storeTarget_of_index hGet hManifest hIndex]
        constructor
        · intro hNone
          cases hNone
        · intro hPasses
          exact absurd ⟨hGet, hIndex⟩ hPasses.notIndex
      · have hNotManifest :
            ¬ (request.method = .get ∧
              request.uri.path = manifestPath) :=
          fun hBoth => hManifest hBoth.2
        have hNotIndex :
            ¬ (request.method = .get ∧
              request.uri.path =
                store.manifest.viewsIndex) :=
          fun hBoth => hIndex hBoth.2
        rw [storeTarget, if_neg (not_not.mpr hGet),
          if_neg hManifest, if_neg hIndex, viewTarget]
        cases hView :
            store.viewForRequestTarget
              (requestTarget request.uri) with
        | none =>
            exact iff_of_true rfl
              ⟨hNotManifest, hNotIndex, .inr (.inl hView)⟩
        | some view =>
            cases hNegotiate :
                negotiate
                  (combinedAcceptHeader http
                    request.headers) true with
            | passthrough =>
                exact iff_of_true rfl
                  ⟨hNotManifest, hNotIndex,
                    .inr (.inr hNegotiate)⟩
            | _ =>
                apply iff_of_false (by simp)
                intro hPasses
                simpa [hGet, hView, hNegotiate] using
                  hPasses.notView
  · apply iff_of_true (by rw [storeTarget, if_pos hGet])
    exact ⟨fun hBoth => hGet hBoth.1,
      fun hBoth => hGet hBoth.1, .inl hGet⟩

/- The same gateway without a store. -/
def withoutStore (state : ProxyState) : ProxyState where
  config := { state.config with storeDir := none }
  hasStore := false

/- The request a call sends to the origin. -/
def originRequest? :
    GatewayOp → Option (Request Limited)
| .requestOrigin upstream => some upstream
| _ => none

/- What a handler sends to the origin. -/
def originRequests
    (calls : List (Call gatewaySignature)) :
    List (Request Limited) :=
  calls.filterMap fun call => originRequest? call.op

@[simp] theorem originRequests_append
    (first second : List (Call gatewaySignature)) :
    originRequests (first ++ second) =
      originRequests first ++ originRequests second :=
  List.filterMap_append

variable (lib : Externals) (state : ProxyState)
variable (env : Surroundings)

theorem originRequests_forwardToOrigin
    (linked : Bool)
    (request : Request Chunks) :
    originRequests
        ((forwardToOrigin lib state linked
          request).run.callsWith env.reply) =
      (buildUpstreamRequest lib state.config
        request).toOption.toList := by
  rw [forwardToOrigin, Fallible.callsWith_run_bind,
    Fallible.run_ofExcept, Program.callsWith_ret,
    Program.answerWith_ret, List.nil_append]
  cases buildUpstreamRequest lib state.config request with
  | error error => rfl
  | ok upstream =>
      simp only [Fallible.callsWith_run_bind,
        answerWith_run_liftM, answerWith_requestOrigin,
        originRequests_append]
      cases env.origin upstream <;> rfl

/- A passed request is sent to the origin once. -/
theorem originRequests_answerPublic
    (request : Request Chunks)
    (hPasses :
      state.hasStore = true →
        ∃ store,
          env.snapshot = some store ∧
            Passes lib.http store request) :
    originRequests
        ((answerPublic lib state request).callsWith
          env.reply) =
      (buildUpstreamRequest lib state.config
        request).toOption.toList := by
  have hForward (linked : Bool) :=
    originRequests_forwardToOrigin lib state env linked
      request
  rw [callsWith_answerPublic, ← List.singleton_append,
    originRequests_append, originRequests_append]
  cases hStore : state.hasStore with
  | false =>
      simp only [snapshotOf, currentStore, hStore]
      exact hForward false
  | true =>
      rcases hPasses hStore with ⟨store, hSome, hPass⟩
      have hTarget :=
        (storeTarget_eq_none_iff _ _ _).mpr hPass
      rw [callsWith_currentStore state env hStore]
      simp only [snapshotOf, hStore, hSome, if_true]
      rcases routeRequest_of_no_target lib state hTarget with
        hRoute | hRoute
      · rw [hRoute]
        exact hForward true
      · rw [hRoute, Fallible.callsWith_run_bind,
          answerWith_run_liftM]
        exact hForward true

end Serving

end AjarGateway

------------------------------------------------------------
-- The Link To The Manifest
------------------------------------------------------------

namespace AjarGateway

namespace Serving

open Http Interleaving Store

/- The first Content-Type value has the type of a page. -/
def HasHtmlType (headers : HeaderMap) : Prop :=
  ∃ value,
    headers.get .contentType = some value ∧
      mediaType value = Rust.utf8 "text/html"

/- It has, and it only holds visible ASCII characters. -/
def HasReadableHtmlType (headers : HeaderMap) : Prop :=
  ∃ value,
    headers.get .contentType = some value ∧
      value.bytes.all isVisibleAscii = true ∧
        mediaType value = Rust.utf8 "text/html"

theorem isHtmlContentType_iff
    {http : HttpCrate}
    (hReads : http.ReadsVisibleAscii)
    (headers : HeaderMap) :
    isHtmlContentType http headers = true ↔
      HasReadableHtmlType headers := by
  rw [isHtmlContentType, HasReadableHtmlType]
  cases hValue : headers.get .contentType with
  | none => simp
  | some value =>
      simp only [hReads value, Option.some.injEq,
        exists_eq_left']
      cases hVisible : value.bytes.all isVisibleAscii with
      | false => simp
      | true =>
          have hExpected :
              ("text/html".toList.map
                  fun c => UInt8.ofNat c.toNat) =
                Rust.utf8 "text/html" := by
            decide
          simp only [if_true, true_and]
          rw [eqIgnoreAsciiCase_mediaType value _ hVisible
            (by decide), hExpected, beq_iff_eq]

/- An answer with the link after its other Link values. -/
def withLink (answer : Response Body) : Response Body :=
  { answer with
    headers :=
      answer.headers.append .link
        (.fromStatic ajarManifestLink) }

/- A page of the origin, answered by a gateway with a store. -/
def LinksPage
    (isHtml : HeaderMap → Prop)
    (lib : Externals)
    (state : ProxyState)
    (env : Surroundings)
    (request : Request Chunks) : Prop :=
  state.hasStore = true ∧
    ∃ upstream page,
      buildUpstreamRequest lib state.config request =
          .ok upstream ∧
        env.origin upstream = .response page ∧
          isHtml
            (stripHopByHopHeaders lib.http page.headers)

/-
  A store is invisible to a request but for the link: the
  same requests are sent to the origin, and the answer is
  the one without a store, with the link on pages only.
-/
structure Transparent
    (isHtml : HeaderMap → Prop)
    (lib : Externals)
    (state : ProxyState)
    (env env' : Surroundings)
    (request : Request Chunks) : Prop where
  upstream :
    originRequests
        ((answerPublic lib state request).callsWith
          env.reply) =
      originRequests
        ((answerPublic lib (withoutStore state)
          request).callsWith env'.reply)
  linked :
    LinksPage isHtml lib state env request →
      respond lib state env request =
        withLink
          (respond lib (withoutStore state) env' request)
  unlinked :
    ¬ LinksPage isHtml lib state env request →
      respond lib state env request =
        respond lib (withoutStore state) env' request

variable {lib : Externals} {state : ProxyState}
variable {env env' : Surroundings}
variable {request : Request Chunks}

theorem passThrough_linked
    (page : Response Chunks) :
    passThrough lib true page =
      if isHtmlContentType lib.http
          (stripHopByHopHeaders lib.http page.headers) then
        withLink (passThrough lib false page)
      else
        passThrough lib false page := by
  simp only [passThrough, Bool.true_and, Bool.false_and,
    Bool.false_eq_true, if_false, withLink]
  split <;> rfl

/- The answer of a gateway with a store to a passed request. -/
theorem respond_passed
    (hOrigin : env'.origin = env.origin)
    (hPasses :
      state.hasStore = true →
        ∃ store,
          env.snapshot = some store ∧
            Passes lib.http store request) :
    respond lib state env request =
        answerFromOrigin lib state.config state.hasStore
          env.origin request ∧
      respond lib (withoutStore state) env' request =
        answerFromOrigin lib state.config false env.origin
          request := by
  constructor
  · cases hStore : state.hasStore with
    | false =>
        exact respond_without_store lib state env hStore
          request
    | true =>
        rcases hPasses hStore with ⟨store, hSome, hPass⟩
        exact respond_of_no_target lib state env hStore
          hSome ((storeTarget_eq_none_iff _ _ _).mpr hPass)
  · rw [respond_without_store lib (withoutStore state) env'
      rfl request, hOrigin]
    rfl

theorem respond_of_linksPage
    (hReads : lib.http.ReadsVisibleAscii)
    (hOrigin : env'.origin = env.origin)
    (hPasses :
      state.hasStore = true →
        ∃ store,
          env.snapshot = some store ∧
            Passes lib.http store request)
    (hLinks :
      LinksPage HasReadableHtmlType lib state env
        request) :
    respond lib state env request =
      withLink
        (respond lib (withoutStore state) env'
          request) := by
  rcases respond_passed hOrigin hPasses with
    ⟨hWith, hWithout⟩
  rcases hLinks with
    ⟨hStore, upstream, page, hBuild, hPage, hHtml⟩
  rw [hWith, hWithout, hStore, answerFromOrigin, hBuild,
    answerFromOrigin, hBuild]
  simp only [hPage]
  rw [passThrough_linked, if_pos
    ((isHtmlContentType_iff hReads _).mpr hHtml)]

theorem respond_of_not_linksPage
    (hReads : lib.http.ReadsVisibleAscii)
    (hOrigin : env'.origin = env.origin)
    (hPasses :
      state.hasStore = true →
        ∃ store,
          env.snapshot = some store ∧
            Passes lib.http store request)
    (hLinks :
      ¬ LinksPage HasReadableHtmlType lib state env
        request) :
    respond lib state env request =
      respond lib (withoutStore state) env' request := by
  rcases respond_passed hOrigin hPasses with
    ⟨hWith, hWithout⟩
  rw [hWith, hWithout]
  cases hStore : state.hasStore with
  | false => rfl
  | true =>
      rw [answerFromOrigin, answerFromOrigin]
      cases hBuild :
          buildUpstreamRequest lib state.config request with
      | error error => rfl
      | ok upstream =>
          simp only
          cases hPage : env.origin upstream with
          | failed => rfl
          | elapsed => rfl
          | response page =>
              simp only
              rw [passThrough_linked, if_neg]
              intro hHtml
              exact hLinks ⟨hStore, upstream, page, hBuild,
                hPage,
                (isHtmlContentType_iff hReads _).mp hHtml⟩

/-
  For every store, clock and origin, a request that is not
  answered from the store is handled as without a store, but
  for the link, which is added exactly to the pages whose
  first Content-Type value is visible ASCII text with the
  media type `text/html`.
-/
theorem transparent_of_passes
    (hReads : lib.http.ReadsVisibleAscii)
    (hOrigin : env'.origin = env.origin)
    (hPasses :
      state.hasStore = true →
        ∃ store,
          env.snapshot = some store ∧
            Passes lib.http store request) :
    Transparent HasReadableHtmlType lib state env env'
      request := by
  refine ⟨?_, respond_of_linksPage hReads hOrigin hPasses,
    respond_of_not_linksPage hReads hOrigin hPasses⟩
  rw [originRequests_answerPublic lib state env request
      hPasses,
    originRequests_answerPublic lib (withoutStore state)
      env' request (fun hStore => by cases hStore)]
  rfl

/- A browser request passes the sample store. -/
theorem sample_passes :
    Passes sampleExt.http (samplePage "Old")
      (getRequest pageTarget .empty) where
  notManifest := fun hBoth =>
    (pageTarget_routes "Old").notManifest hBoth.2
  notIndex := fun hBoth =>
    (pageTarget_routes "Old").notIndex hBoth.2
  notView := .inr (.inr rfl)

/- The sample page is linked for a browser. -/
theorem transparent_of_passes_sample :
    Transparent HasReadableHtmlType sampleExt sampleState
      (samplePageEnv (.fromStatic "text/html"))
      (samplePageEnv (.fromStatic "text/html"))
      (getRequest pageTarget .empty) :=
  transparent_of_passes reference_readsVisibleAscii rfl
    (fun _ => ⟨_, rfl, sample_passes⟩)

/- `text/html; title="é"`, with the title in Latin-1. -/
def latinContentType : HeaderValue :=
  ⟨Rust.utf8 "text/html; title=\"" ++ [0xE9] ++
    Rust.utf8 "\""⟩

/-
  A page whose Content-Type is not visible ASCII throughout
  is not linked, although its media type is `text/html`.
-/
theorem transparent_latin_page :
    ¬ Transparent HasHtmlType sampleExt sampleState
      (samplePageEnv latinContentType)
      (samplePageEnv latinContentType)
      (getRequest pageTarget .empty) := by
  intro hTransparent
  rcases sample_builds (getRequest pageTarget .empty) rfl
    with ⟨upstream, hBuild⟩
  have hLinked := hTransparent.linked
    ⟨rfl, upstream, _, hBuild, rfl, latinContentType,
      by decide, by decide⟩
  have hUnreadable :
      ¬ LinksPage HasReadableHtmlType sampleExt sampleState
        (samplePageEnv latinContentType)
        (getRequest pageTarget .empty) := by
    rintro ⟨_, _, _, _, hPage, value, hValue, hVisible, _⟩
    cases hPage
    have hLatin :
        (stripHopByHopHeaders sampleExt.http
            (originPage latinContentType).headers).get
            .contentType =
          some latinContentType := by
      decide
    rw [hLatin] at hValue
    cases hValue
    revert hVisible
    decide
  have hUnlinked :
      respond sampleExt sampleState
          (samplePageEnv latinContentType)
          (getRequest pageTarget .empty) =
        respond sampleExt (withoutStore sampleState)
          (samplePageEnv latinContentType)
          (getRequest pageTarget .empty) :=
    respond_of_not_linksPage reference_readsVisibleAscii
      rfl (fun _ => ⟨_, rfl, sample_passes⟩) hUnreadable
  rw [hUnlinked] at hLinked
  have hLength := congrArg
    (fun answer : Response Body =>
      answer.headers.entries.length)
    hLinked
  simp [withLink, HeaderMap.append] at hLength

end Serving

end AjarGateway
