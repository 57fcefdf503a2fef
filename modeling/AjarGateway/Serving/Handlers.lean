import AjarGateway.Interleaving.Program
import AjarGateway.Serving.Upstream

/-
  The request handlers of the gateway.

  A handler is a program over the operations it performs on
  the shared state, the clock, the log, the store directory
  and the origin.  What lies between two operations is pure.

  Key definitions include:
    * `Serving.GatewayOp`
    * `Serving.proxyRequest`
    * `Serving.reloadStore`
    * `Serving.handle`
-/

------------------------------------------------------------
-- Operations
------------------------------------------------------------

namespace AjarGateway

namespace Serving

open Http Interleaving

/- The counters of `Metrics`. -/
inductive Counter where
  | requestsTotal
  | upstreamErrorsTotal
  | viewsServedTotal
  | manifestServedTotal
  | negotiationPassthroughTotal
  | storeReloadsTotal
  | storeReloadFailuresTotal
  deriving DecidableEq, Repr

/- A JSON log line. -/
structure LogLine where
  level : String
  event : String
  fields : List (String × Store.Value)

/- How a request to the origin ended. -/
inductive OriginReply where
  | response (response : Response Chunks)
  | failed
  | elapsed

/-
  How a section under the write lock ended: it assigned a
  store and released the guard, or it returned with the
  guard still held, be it that the lock was poisoned.
-/
inductive WriteReply where
  | assigned
  | returned
  | poisoned
  deriving DecidableEq, Repr

/- The operations of the handlers. -/
inductive GatewayOp where
  | fetchAdd (counter : Counter)
  | loadCounter (counter : Counter)
  | readStore
  | nowUnixSeconds
  | compareExchangeExpiryLogged
  | resetExpiryLogged
  | eprintln (line : LogLine)
  | requestOrigin (upstream : Request Limited)
  | loadFromDir (storeDir : Store.Path)
  | writeStore
      (update :
        Store.PreparedContentStore →
          Option Store.PreparedContentStore)
  | dropGuard

/-
  The replies.  Reading the store fails when its lock is
  poisoned; the exchange of the expiry flag reports whether
  the flag was clear.
-/
@[reducible] def GatewayOp.Reply : GatewayOp → Type
| .fetchAdd _ => Unit
| .loadCounter _ => UInt64
| .readStore => Option Store.PreparedContentStore
| .nowUnixSeconds => Int
| .compareExchangeExpiryLogged => Bool
| .resetExpiryLogged => Unit
| .eprintln _ => Unit
| .requestOrigin _ => OriginReply
| .loadFromDir _ =>
    Except Store.StoreLoadError Store.PreparedContentStore
| .writeStore _ => WriteReply
| .dropGuard => Unit

abbrev gatewaySignature : Signature where
  Op := GatewayOp
  Reply := GatewayOp.Reply

abbrev GatewayProgram (α : Type) : Type :=
  Program gatewaySignature α

def increment (counter : Counter) : GatewayProgram Unit :=
  .call (.fetchAdd counter) .ret

def loadCounter (counter : Counter) : GatewayProgram UInt64 :=
  .call (.loadCounter counter) .ret

def readStore :
    GatewayProgram (Option Store.PreparedContentStore) :=
  .call .readStore .ret

def nowUnixSeconds : GatewayProgram Int :=
  .call .nowUnixSeconds .ret

def compareExchangeExpiryLogged : GatewayProgram Bool :=
  .call .compareExchangeExpiryLogged .ret

def resetExpiryLogged : GatewayProgram Unit :=
  .call .resetExpiryLogged .ret

def requestOrigin
    (upstream : Request Limited) :
    GatewayProgram OriginReply :=
  .call (.requestOrigin upstream) .ret

def loadFromDir
    (storeDir : Store.Path) :
    GatewayProgram
      (Except Store.StoreLoadError
        Store.PreparedContentStore) :=
  .call (.loadFromDir storeDir) .ret

def writeStore
    (update :
      Store.PreparedContentStore →
        Option Store.PreparedContentStore) :
    GatewayProgram WriteReply :=
  .call (.writeStore update) .ret

def dropGuard : GatewayProgram Unit :=
  .call .dropGuard .ret

def logEvent
    (level event : String)
    (fields : List (String × Store.Value)) :
    GatewayProgram Unit :=
  .call (.eprintln ⟨level, event, fields⟩) .ret

end Serving

end AjarGateway

------------------------------------------------------------
-- Responses
------------------------------------------------------------

namespace AjarGateway

namespace Serving

open Http Interleaving

/- The body of a successful reload. -/
structure ReloadSuccess where
  status : String
  views : Nat
  manifestSequence : Int
  deriving DecidableEq, Repr

/- A response body: chunks of bytes, or a JSON document. -/
inductive Body where
  | chunks (content : Chunks)
  | problem (details : ProblemDetails)
  | reloaded (success : ReloadSuccess)
  | health (status : String)
  deriving DecidableEq, Repr

namespace Body

/- `Body::empty`. -/
def empty : Body :=
  .chunks []

/- `Body::from` of a byte vector. -/
def ofBytes (bytes : List UInt8) : Body :=
  .chunks [bytes]

/- The bytes of a body that is not a JSON document. -/
def bytes? : Body → Option (List UInt8)
| .chunks content => some content.flatten
| _ => none

@[simp] theorem bytes?_ofBytes (bytes : List UInt8) :
    (ofBytes bytes).bytes? = some bytes := by
  simp [ofBytes, bytes?]

end Body

def manifestPath : String :=
  "/.well-known/ajar.json"

def problemJson : String :=
  "application/problem+json"

def ajarManifestLink : String :=
  "</.well-known/ajar.json>; rel=\"ajar-manifest\""

def ajarErrorCode : HeaderName :=
  ⟨"ajar-error-code"⟩

def ajarContentSignature : HeaderName :=
  ⟨"ajar-content-signature"⟩

def emptyResponse (status : Nat) : Response Body :=
  { Response.new Body.empty with status := status }

/- A problem document with its code as a header. -/
def problemDocument
    (details : ProblemDetails) : Response Body where
  status := details.status
  headers :=
    ((HeaderMap.empty.insert .contentType
        (.fromStatic "application/json")).insert
      ajarErrorCode
      (.fromStatic details.ajarErrorCode)).insert
      .contentType (.fromStatic problemJson)
  body := .problem details

def problemResponse
    (status : Nat)
    (code title detail : String) : Response Body :=
  problemDocument
    ⟨"about:blank", status, title, detail, code⟩

def ProxyHttpError.intoResponse
    (error : ProxyHttpError) : Response Body :=
  problemDocument {
    problemType := "about:blank"
    status := error.status
    title := error.canonicalReason
    detail := "The gateway could not complete the request."
    ajarErrorCode := error.code }

/- The answer given once the manifest has expired. -/
def expiredProblem : Response Body :=
  problemResponse 404 "AJAR-VERIFY-EXPIRED"
    "Manifest expired"
    "The configured Ajar manifest has expired."

/- A 200 response of bytes with a content type. -/
def contentResponse
    (contentType : String)
    (bytes : List UInt8) : Response Body where
  status := 200
  headers :=
    HeaderMap.empty.insert .contentType
      (.fromStatic contentType)
  body := .ofBytes bytes

/- Insert a header of a response when it is legal. -/
def withHeader
    (http : HttpCrate)
    (name : HeaderName)
    (value : String)
    (response : Response Body) : Response Body :=
  { response with
    headers :=
      insertHeader http response.headers name value }

end Serving

end AjarGateway

------------------------------------------------------------
-- Serving From The Store
------------------------------------------------------------

namespace AjarGateway

namespace Serving

open Http Interleaving Store

def logManifestExpiredOnce : GatewayProgram Unit := do
  if ← compareExchangeExpiryLogged then
    logEvent "error" "ajar_manifest_expired"
      [("code", .string "AJAR-VERIFY-EXPIRED")]

def serveManifest
    (lib : Externals)
    (store : PreparedContentStore)
    (headers : HeaderMap) :
    GatewayProgram (Response Body) := do
  let manifest := store.manifest
  let now ← nowUnixSeconds
  if manifest.expiresAtUnix ≤ now then
    logManifestExpiredOnce
    return expiredProblem
  else if ifNoneMatchMatches lib.http headers
      manifest.etag then
    return emptyResponse 304
  else
    let secondsUntilExpiry := manifest.expiresAtUnix - now
    let cacheSeconds := max 0 (min secondsUntilExpiry 3600)
    increment .manifestServedTotal
    return withHeader lib.http .etag manifest.etag
      (withHeader lib.http .cacheControl
        ("max-age=" ++ toString cacheSeconds)
        (contentResponse "application/json" manifest.bytes))

def expiredManifestProblem
    (store : PreparedContentStore) :
    GatewayProgram (Option (Response Body)) := do
  let now ← nowUnixSeconds
  if store.manifest.expiresAtUnix > now then
    return none
  else
    logManifestExpiredOnce
    return some expiredProblem

/-
  The shape shared by the index and the two view handlers:
  the expiry check, the conditional check, the response.
-/
def serveUnlessExpired
    (lib : Externals)
    (store : PreparedContentStore)
    (headers : HeaderMap)
    (etag : String)
    (response : Response Body) :
    GatewayProgram (Response Body) := do
  match ← expiredManifestProblem store with
  | some problem => return problem
  | none =>
      if ifNoneMatchMatches lib.http headers etag then
        return emptyResponse 304
      else
        increment .viewsServedTotal
        return response

def serveViewIndex
    (lib : Externals)
    (store : PreparedContentStore)
    (headers : HeaderMap) : GatewayProgram (Response Body) :=
  let index := store.viewIndex
  serveUnlessExpired lib store headers index.etag
    (withHeader lib.http .etag index.etag
      (contentResponse "application/json" index.bytes))

/- The headers both representations of a view carry. -/
def viewResponse
    (lib : Externals)
    (view : StoredView)
    (contentType : String)
    (bytes : List UInt8) : Response Body :=
  let response :=
    withHeader lib.http ajarContentSignature
      view.view.signature.sig
      (withHeader lib.http .etag view.view.etag
        (contentResponse contentType bytes))
  { response with
    headers :=
      response.headers.insert .vary (.fromStatic "Accept") }

def serveViewJson
    (lib : Externals)
    (store : PreparedContentStore)
    (view : StoredView)
    (headers : HeaderMap) : GatewayProgram (Response Body) :=
  serveUnlessExpired lib store headers view.view.etag
    (viewResponse lib view ajarJson view.bytes)

def serveViewMarkdown
    (lib : Externals)
    (store : PreparedContentStore)
    (view : StoredView)
    (headers : HeaderMap) : GatewayProgram (Response Body) :=
  serveUnlessExpired lib store headers view.view.etag
    (viewResponse lib view "text/markdown; charset=utf-8"
      (Rust.utf8 (renderMarkdown view)))

end Serving

end AjarGateway

------------------------------------------------------------
-- The Proxy Handler
------------------------------------------------------------

namespace AjarGateway

namespace Serving

open Http Interleaving Store

/- The parts of `ProxyState` that never change. -/
structure ProxyState where
  config : ValidatedConfig
  hasStore : Bool

/- A store is configured only through a store directory. -/
def currentStore
    (state : ProxyState) :
    Fallible gatewaySignature ProxyHttpError
      (Option PreparedContentStore) := do
  if state.hasStore then
    match ← readStore with
    | some store => return some store
    | none => throw .storeStateUnavailable
  else
    return none

/-
  The origin response as it is passed on: stripped, and
  with a link to the manifest on pages of a gateway that
  has a store.
-/
def passThrough
    (lib : Externals)
    (linked : Bool)
    (response : Response Chunks) : Response Body :=
  let headers :=
    stripHopByHopHeaders lib.http response.headers
  { status := response.status
    headers :=
      if linked && isHtmlContentType lib.http headers then
        headers.append .link (.fromStatic ajarManifestLink)
      else
        headers
    body := .chunks response.body }

/- The part of `proxyRequest` that asks the origin. -/
def forwardToOrigin
    (lib : Externals)
    (state : ProxyState)
    (linked : Bool)
    (request : Request Chunks) :
    Fallible gatewaySignature ProxyHttpError
      (Response Body) := do
  let upstream ←
    Fallible.ofExcept
      (buildUpstreamRequest lib state.config request)
  match ← requestOrigin upstream with
  | .response response =>
      return passThrough lib linked response
  | .failed =>
      increment .upstreamErrorsTotal
      throw .upstream
  | .elapsed =>
      increment .upstreamErrorsTotal
      throw .upstreamTimeout

/- The part of `proxyRequest` after the store snapshot. -/
def routeRequest
    (lib : Externals)
    (state : ProxyState)
    (request : Request Chunks) :
    Option PreparedContentStore →
      Fallible gatewaySignature ProxyHttpError
        (Response Body)
| none => forwardToOrigin lib state false request
| some store =>
    if request.method = .get ∧
        request.uri.path = manifestPath then
      serveManifest lib store request.headers
    else if request.method = .get ∧
        request.uri.path = store.manifest.viewsIndex then
      serveViewIndex lib store request.headers
    else if request.method = .get then
      match store.viewForRequestTarget
          (requestTarget request.uri) with
      | none => forwardToOrigin lib state true request
      | some view =>
          match negotiate
              (combinedAcceptHeader lib.http
                request.headers) true with
          | .ajarJson =>
              serveViewJson lib store view request.headers
          | .markdown =>
              serveViewMarkdown lib store view
                request.headers
          | .passthrough => do
              increment .negotiationPassthroughTotal
              forwardToOrigin lib state true request
    else
      forwardToOrigin lib state true request

def proxyRequest
    (lib : Externals)
    (state : ProxyState)
    (request : Request Chunks) :
    Fallible gatewaySignature ProxyHttpError
      (Response Body) := do
  increment .requestsTotal
  let snapshot ← currentStore state
  routeRequest lib state request snapshot

/- `IntoResponse` for the result of the handler. -/
def intoAnswer :
    Except ProxyHttpError (Response Body) → Response Body
| .ok response => response
| .error error => error.intoResponse

/- The answer to a public request. -/
def answerPublic
    (lib : Externals)
    (state : ProxyState)
    (request : Request Chunks) :
    GatewayProgram (Response Body) := do
  let result ← (proxyRequest lib state request).run
  return intoAnswer result

end Serving

end AjarGateway

------------------------------------------------------------
-- The Admin Handlers
------------------------------------------------------------

namespace AjarGateway

namespace Serving

open Http Interleaving Store

def reloadFailed
    (detail reason : String) :
    GatewayProgram (Response Body) := do
  increment .storeReloadFailuresTotal
  logEvent "error" "store_reload_failed"
    [("reason", .string reason), ("detail", .string detail)]
  return problemResponse 409
    "AJAR_GATEWAY_STORE_RELOAD_FAILED"
    "Store reload failed" detail

/-
  The section of a reload under the write lock: a store with
  a lower manifest sequence is not assigned.
-/
def assignUnlessLower
    (loaded current : PreparedContentStore) :
    Option PreparedContentStore :=
  if loaded.manifestSequence < current.manifestSequence then
    none
  else
    some loaded

/- The answer to a reload that assigned its store. -/
def reloadedResponse
    (views : Nat)
    (manifestSequence : Int) : Response Body where
  status := 200
  headers :=
    HeaderMap.empty.insert .contentType
      (.fromStatic "application/json")
  body := .reloaded ⟨"reloaded", views, manifestSequence⟩

/- The part of `reloadStore` after a successful load. -/
def commitStore
    (loaded : PreparedContentStore) :
    GatewayProgram (Response Body) := do
  match ← writeStore (assignUnlessLower loaded) with
  | .returned =>
      let response ←
        reloadFailed
          ("prepared manifest sequence is lower than the " ++
            "currently served sequence")
          "sequence_rollback"
      -- The guard is dropped when the handler returns.
      dropGuard
      return response
  | .poisoned =>
      let response ←
        reloadFailed "content store state unavailable"
          "store_state_unavailable"
      -- So is the guard inside the poison error.
      dropGuard
      return response
  | .assigned =>
      increment .storeReloadsTotal
      resetExpiryLogged
      logEvent "info" "store_reloaded"
        [("views", .number (toString loaded.viewCount)),
          ("manifest_sequence",
            .number (toString loaded.manifestSequence))]
      return reloadedResponse loaded.viewCount
        loaded.manifestSequence

def reloadStore
    (state : ProxyState) : GatewayProgram (Response Body) :=
  match state.config.storeDir, state.hasStore with
  | some storeDir, true => do
      match ← loadFromDir storeDir with
      | .error error =>
          reloadFailed error.message "validation_failed"
      | .ok loaded => commitStore loaded
  | _, _ =>
      reloadFailed "no content store configured"
        "no_content_store_configured"

def healthz : GatewayProgram (Response Body) :=
  return {
    status := 200
    headers :=
      HeaderMap.empty.insert .contentType
        (.fromStatic "application/json")
    body := .health "ok" }

def Counter.label : Counter → String
| .requestsTotal => "requests_total"
| .upstreamErrorsTotal => "upstream_errors_total"
| .viewsServedTotal => "views_served_total"
| .manifestServedTotal => "manifest_served_total"
| .negotiationPassthroughTotal =>
    "negotiation_passthrough_total"
| .storeReloadsTotal => "store_reloads_total"
| .storeReloadFailuresTotal => "store_reload_failures_total"

/- `Metrics::render`: one load and one line a counter. -/
def renderCounters :
    List Counter → GatewayProgram String
| [] => return ""
| counter :: rest => do
    let value ← loadCounter counter
    let lines ← renderCounters rest
    return counter.label ++ " " ++ toString value.toNat ++
      "\n" ++ lines

def metricsEndpoint : GatewayProgram (Response Body) := do
  let text ←
    renderCounters
      [.requestsTotal, .upstreamErrorsTotal,
        .viewsServedTotal, .manifestServedTotal,
        .negotiationPassthroughTotal, .storeReloadsTotal,
        .storeReloadFailuresTotal]
  return contentResponse "text/plain; charset=utf-8"
    (Rust.utf8 text)

/- The requests the two routers dispatch. -/
inductive Incoming where
  | publicRequest (request : Request Chunks)
  | reload
  | metrics
  | healthz

def handle
    (lib : Externals)
    (state : ProxyState) :
    Incoming → GatewayProgram (Response Body)
| .publicRequest request => answerPublic lib state request
| .reload => reloadStore state
| .metrics => metricsEndpoint
| .healthz => healthz

end Serving

end AjarGateway
