import AjarGateway.Serving.Respond

/-
  What an answer from the store carries.

  The headers and the body of each of the four targets, and
  what the status of an answer says about the clock and the
  conditional headers of its request.

  Key definitions include:
    * `Serving.Target.contentType`
    * `Serving.Target.bytes`
    * `Serving.RoutesView`

  Key theorems include:
    * `Serving.answerFromStore_ok`
    * `Serving.answerFromStore_not_modified`
    * `Serving.storeTarget_cases`
-/

------------------------------------------------------------
-- Inserted Headers
------------------------------------------------------------

namespace AjarGateway

namespace Serving

open Http

/- An illegal value leaves the headers as they are. -/
theorem getAll_insertHeader
    (http : HttpCrate)
    (headers : HeaderMap)
    (name other : HeaderName)
    (value : String) :
    (insertHeader http headers name value).getAll other =
      if name = other then
        match http.headerValueFromStr value with
        | some legal => [legal]
        | none => headers.getAll other
      else
        headers.getAll other := by
  unfold insertHeader
  cases hValue : http.headerValueFromStr value with
  | some legal => exact HeaderMap.getAll_insert _ _ _ _
  | none => simp

@[simp] theorem getAll_withHeader
    (http : HttpCrate)
    (name other : HeaderName)
    (value : String)
    (response : Response Body) :
    (withHeader http name value response).headers.getAll
        other =
      if name = other then
        match http.headerValueFromStr value with
        | some legal => [legal]
        | none => response.headers.getAll other
      else
        response.headers.getAll other :=
  getAll_insertHeader _ _ _ _ _

@[simp] theorem getAll_contentResponse
    (contentType : String)
    (bytes : List UInt8)
    (name : HeaderName) :
    (contentResponse contentType bytes).headers.getAll name =
      if .contentType = name then
        [.fromStatic contentType]
      else
        [] := by
  rw [contentResponse, HeaderMap.getAll_insert,
    HeaderMap.getAll_empty]

end Serving

end AjarGateway

------------------------------------------------------------
-- The Content Of A Target
------------------------------------------------------------

namespace AjarGateway

namespace Serving

open Http Store

namespace Target

/- The media type a target is served with. -/
def contentType : Target → String
| .manifest | .viewIndex => "application/json"
| .viewJson _ => ajarJson
| .viewMarkdown _ => "text/markdown; charset=utf-8"

/- The bytes a target is served with. -/
def bytes (store : PreparedContentStore) :
    Target → List UInt8
| .manifest => store.manifest.bytes
| .viewIndex => store.viewIndex.bytes
| .viewJson view => view.bytes
| .viewMarkdown view => Rust.utf8 (renderMarkdown view)

variable (lib : Externals) (store : PreparedContentStore)
variable (now : Int) (target : Target)

@[simp] theorem content_status :
    (target.content lib store now).status = 200 := by
  cases target <;> rfl

@[simp] theorem content_body :
    (target.content lib store now).body =
      .ofBytes (target.bytes store) := by
  cases target <;> rfl

theorem content_contentType :
    (target.content lib store now).headers.getAll
        .contentType =
      [.fromStatic target.contentType] := by
  cases target <;>
    simp [content, contentType, viewResponse,
      HeaderMap.getAll_insert, HeaderName.etag,
      HeaderName.contentType, HeaderName.cacheControl,
      HeaderName.vary, ajarContentSignature]

/- The entity tag is left out when it is not legal. -/
theorem content_etag :
    (target.content lib store now).headers.getAll .etag =
      (lib.http.headerValueFromStr
        (target.etag store)).toList := by
  cases hTag :
      lib.http.headerValueFromStr (target.etag store) <;>
    cases target <;>
    simp_all [content, etag, viewResponse,
      HeaderMap.getAll_insert, HeaderName.etag,
      HeaderName.contentType, HeaderName.cacheControl,
      HeaderName.vary, ajarContentSignature]

/- Only the representations of a view carry a Vary field. -/
theorem content_vary :
    (target.content lib store now).headers.getAll .vary =
      match target with
      | .manifest | .viewIndex => []
      | .viewJson _ | .viewMarkdown _ =>
          [.fromStatic "Accept"] := by
  cases target <;>
    simp [content, viewResponse, HeaderMap.getAll_insert,
      HeaderName.etag, HeaderName.contentType,
      HeaderName.cacheControl, HeaderName.vary]

end Target

end Serving

end AjarGateway

------------------------------------------------------------
-- The Status Of An Answer
------------------------------------------------------------

namespace AjarGateway

namespace Serving

open Http Store

variable {lib : Externals} {state : ProxyState}
variable {store : PreparedContentStore} {now : Int}
variable {headers : HeaderMap} {target : Target}

@[simp] theorem expiredProblem_status :
    expiredProblem.status = 404 :=
  rfl

@[simp] theorem emptyResponse_status (status : Nat) :
    (emptyResponse status).status = status :=
  rfl

/- A 200 is the content of the target, before expiry. -/
theorem answerFromStore_ok
    (hStatus :
      (answerFromStore lib store now headers target).status =
        200) :
    now < store.manifest.expiresAtUnix ∧
      ifNoneMatchMatches lib.http headers
          (target.etag store) =
        false ∧
      answerFromStore lib store now headers target =
        target.content lib store now := by
  unfold answerFromStore at hStatus ⊢
  by_cases hExpired : store.manifest.expiresAtUnix ≤ now
  · simp [hExpired] at hStatus
  · by_cases hMatches :
        ifNoneMatchMatches lib.http headers
          (target.etag store) = true
    · simp [hExpired, hMatches] at hStatus
    · simp only [Bool.not_eq_true] at hMatches
      exact ⟨not_le.mp hExpired, hMatches,
        by simp [hExpired, hMatches]⟩

/- A 304 is for a matching request, before expiry. -/
theorem answerFromStore_not_modified
    (hStatus :
      (answerFromStore lib store now headers target).status =
        304) :
    now < store.manifest.expiresAtUnix ∧
      ifNoneMatchMatches lib.http headers
          (target.etag store) =
        true := by
  unfold answerFromStore at hStatus
  by_cases hExpired : store.manifest.expiresAtUnix ≤ now
  · simp [hExpired] at hStatus
  · by_cases hMatches :
        ifNoneMatchMatches lib.http headers
          (target.etag store) = true
    · exact ⟨not_le.mp hExpired, hMatches⟩
    · simp [hExpired, hMatches] at hStatus

theorem answerFromStore_of_fresh
    (hFresh : now < store.manifest.expiresAtUnix)
    (hMatches :
      ifNoneMatchMatches lib.http headers
          (target.etag store) =
        false) :
    answerFromStore lib store now headers target =
      target.content lib store now := by
  simp [answerFromStore, not_le.mpr hFresh, hMatches]

theorem answerFromStore_of_expired
    (hExpired : store.manifest.expiresAtUnix ≤ now) :
    answerFromStore lib store now headers target =
      expiredProblem := by
  simp [answerFromStore, hExpired]

end Serving

end AjarGateway

------------------------------------------------------------
-- The Targets Of A URI
------------------------------------------------------------

namespace AjarGateway

namespace Serving

open Http Store

/- A GET request without a body. -/
def getRequest
    (uri : Uri)
    (headers : HeaderMap) : Request Chunks where
  method := .get
  uri := uri
  headers := headers
  body := []

/- A GET request with one Accept value. -/
def acceptRequest
    (uri : Uri)
    (accept : String) : Request Chunks :=
  getRequest uri (.single .accept (.fromStatic accept))

/- A URI whose GET requests are routed to a stored view. -/
structure RoutesView
    (store : PreparedContentStore)
    (uri : Uri)
    (view : StoredView) : Prop where
  notManifest : uri.path ≠ manifestPath
  notIndex : uri.path ≠ store.manifest.viewsIndex
  stored :
    store.viewForRequestTarget (requestTarget uri) =
      some view

variable {http : HttpCrate} {store : PreparedContentStore}
variable {request : Request Chunks}

theorem storeTarget_of_manifest
    (hGet : request.method = .get)
    (hPath : request.uri.path = manifestPath) :
    storeTarget http store request = some .manifest := by
  simp [storeTarget, hGet, hPath]

theorem storeTarget_of_index
    (hGet : request.method = .get)
    (hManifest : request.uri.path ≠ manifestPath)
    (hPath : request.uri.path = store.manifest.viewsIndex) :
    storeTarget http store request = some .viewIndex := by
  rw [storeTarget, if_neg (not_not.mpr hGet),
    if_neg hManifest, if_pos hPath]

/- A routed view is represented as negotiated. -/
theorem storeTarget_of_view
    {view : StoredView}
    (hGet : request.method = .get)
    (hView : RoutesView store request.uri view) :
    storeTarget http store request =
      match negotiate
          (combinedAcceptHeader http request.headers)
          true with
      | .ajarJson => some (.viewJson view)
      | .markdown => some (.viewMarkdown view)
      | .passthrough => none := by
  rw [storeTarget, if_neg (not_not.mpr hGet),
    if_neg hView.notManifest, if_neg hView.notIndex,
    viewTarget]
  cases negotiate
      (combinedAcceptHeader http request.headers) true <;>
    simp only [hView.stored]

/- A request that accepts one of the two representations. -/
theorem storeTarget_acceptRequest
    {uri : Uri} {view : StoredView}
    (hReads : http.ReadsVisibleAscii)
    (hView : RoutesView store uri view) :
    storeTarget http store (acceptRequest uri ajarJson) =
        some (.viewJson view) ∧
      storeTarget http store (acceptRequest uri markdown) =
        some (.viewMarkdown view) := by
  have hAccept (accept : String) :
      (acceptRequest uri accept).headers.getAll .accept =
        [.fromStatic accept] := by
    rw [acceptRequest, getRequest, HeaderMap.getAll_single,
      if_pos rfl]
  have hJson :
      combinedAcceptHeader http
          (acceptRequest uri ajarJson).headers =
        some ajarJson :=
    combinedAcceptHeader_single hReads _
      (List.all_eq_true.mp (by decide)) (hAccept _)
  have hMarkdown :
      combinedAcceptHeader http
          (acceptRequest uri markdown).headers =
        some markdown :=
    combinedAcceptHeader_single hReads _
      (List.all_eq_true.mp (by decide)) (hAccept _)
  have hAjarJson :
      negotiate (some ajarJson) true = .ajarJson := by
    decide
  have hAjarMarkdown :
      negotiate (some markdown) true = .markdown := by
    decide
  constructor
  · rw [storeTarget_of_view rfl hView, hJson, hAjarJson]
  · rw [storeTarget_of_view rfl hView, hMarkdown,
      hAjarMarkdown]

/- The URI decides between manifest, index and view. -/
theorem storeTarget_cases
    {target : Target}
    (hTarget : storeTarget http store request = some target) :
    request.method = .get ∧
      (request.uri.path = manifestPath ∧
          target = .manifest ∨
        request.uri.path ≠ manifestPath ∧
          request.uri.path = store.manifest.viewsIndex ∧
            target = .viewIndex ∨
        ∃ view,
          RoutesView store request.uri view ∧
            (target = .viewJson view ∨
              target = .viewMarkdown view)) := by
  have hGet : request.method = .get := by
    by_contra hOther
    simp [storeTarget, hOther] at hTarget
  refine ⟨hGet, ?_⟩
  by_cases hManifest : request.uri.path = manifestPath
  · rw [storeTarget_of_manifest hGet hManifest] at hTarget
    cases hTarget
    exact .inl ⟨hManifest, rfl⟩
  · by_cases hIndex :
        request.uri.path = store.manifest.viewsIndex
    · rw [storeTarget_of_index hGet hManifest hIndex]
        at hTarget
      cases hTarget
      exact .inr (.inl ⟨hManifest, hIndex, rfl⟩)
    · right
      right
      rw [storeTarget, if_neg (not_not.mpr hGet),
        if_neg hManifest, if_neg hIndex, viewTarget]
        at hTarget
      cases hView :
          store.viewForRequestTarget
            (requestTarget request.uri) with
      | none => simp [hView] at hTarget
      | some view =>
          refine ⟨view, ⟨hManifest, hIndex, hView⟩, ?_⟩
          simp only [hView] at hTarget
          split at hTarget
          · exact .inl (Option.some.inj hTarget).symm
          · exact .inr (Option.some.inj hTarget).symm
          · cases hTarget

end Serving

end AjarGateway

------------------------------------------------------------
-- Problem Codes
------------------------------------------------------------

namespace AjarGateway

namespace Serving

open Http Store

/- The code of an answer that is a problem document. -/
def Body.problemCode : Body → Option String
| .problem details => some details.ajarErrorCode
| _ => none

variable {lib : Externals} {config : ValidatedConfig}
variable {request : Request Chunks}

theorem declaredContentLength_error
    {http : HttpCrate} {headers : HeaderMap}
    {error : ProxyHttpError}
    (hError :
      declaredContentLength http headers = .error error) :
    error = .invalidContentLength := by
  unfold declaredContentLength at hError
  split at hError
  · cases hError
  · simp only [Rust.bind_eq_error_iff, okOr_eq_error_iff]
      at hError
    rcases hError with
      ⟨_, rfl⟩ | ⟨_, _, ⟨_, rfl⟩ | ⟨_, _, hReturn⟩⟩
    · rfl
    · rfl
    · cases hReturn

/- The store has no part in a request to the origin. -/
theorem buildUpstreamRequest_error
    {error : ProxyHttpError}
    (hError :
      buildUpstreamRequest lib config request =
        .error error) :
    error ≠ .storeStateUnavailable := by
  simp only [buildUpstreamRequest, Rust.bind_eq_error_iff]
    at hError
  rcases hError with hDeclared | ⟨declared, _, hRest⟩
  · rw [declaredContentLength_error hDeclared]
    decide
  · split at hRest
    · cases hRest
      decide
    · simp only [Rust.bind_eq_error_iff, okOr_eq_error_iff]
        at hRest
      rcases hRest with ⟨_, rfl⟩ | ⟨_, _, hReturn⟩
      · decide
      · cases hReturn

/- The code that is answered when the lock is poisoned. -/
theorem problemCode_intoResponse_iff
    (error : ProxyHttpError) :
    error.intoResponse.body.problemCode =
        some "AJAR_GATEWAY_STORE_STATE_UNAVAILABLE" ↔
      error = .storeStateUnavailable := by
  cases error <;>
    simp [ProxyHttpError.intoResponse, problemDocument,
      Body.problemCode, ProxyHttpError.code]

/- It is not answered by the origin. -/
theorem problemCode_answerFromOrigin
    (linked : Bool)
    (origin : Request Limited → OriginReply) :
    (answerFromOrigin lib config linked origin
        request).body.problemCode ≠
      some "AJAR_GATEWAY_STORE_STATE_UNAVAILABLE" := by
  unfold answerFromOrigin
  split
  · rename_i error hError
    intro hCode
    exact buildUpstreamRequest_error hError
      ((problemCode_intoResponse_iff error).mp hCode)
  · split
    · exact mt (problemCode_intoResponse_iff _).mp (by decide)
    · exact mt (problemCode_intoResponse_iff _).mp (by decide)
    · simp [passThrough, Body.problemCode]

/- It is not answered from a store. -/
theorem problemCode_answerFromStore
    (store : PreparedContentStore)
    (now : Int)
    (headers : HeaderMap)
    (target : Target) :
    (answerFromStore lib store now headers
        target).body.problemCode ≠
      some "AJAR_GATEWAY_STORE_STATE_UNAVAILABLE" := by
  unfold answerFromStore
  split
  · decide
  · split
    · decide
    · rw [target.content_body]
      simp [Body.ofBytes, Body.problemCode]

/- It is answered exactly if the store cannot be read. -/
theorem problemCode_respond_iff
    (state : ProxyState)
    (env : Surroundings) :
    (respond lib state env request).body.problemCode =
        some "AJAR_GATEWAY_STORE_STATE_UNAVAILABLE" ↔
      state.hasStore = true ∧ env.snapshot = none := by
  cases hStore : state.hasStore with
  | false =>
      rw [respond_without_store lib state env hStore]
      simp [problemCode_answerFromOrigin]
  | true =>
      cases hSnapshot : env.snapshot with
      | none =>
          rw [respond_of_poisoned lib state env hStore
            hSnapshot, problemCode_intoResponse_iff]
          simp
      | some store =>
          cases hTarget :
              storeTarget lib.http store request with
          | some target =>
              rw [respond_of_target lib state env hStore
                hSnapshot hTarget]
              simp [problemCode_answerFromStore]
          | none =>
              rw [respond_of_no_target lib state env hStore
                hSnapshot hTarget]
              simp [problemCode_answerFromOrigin]

end Serving

end AjarGateway
