import AjarGateway.Serving.Negotiate
import AjarGateway.Store.Load

/-
  The configuration of the gateway and the request it sends
  to the origin.

  The code outside the repository that handlers call without
  performing an effect is collected in `Externals`.

  Key definitions include:
    * `Serving.GatewayConfig.validate`
    * `Serving.stripHopByHopHeaders`
    * `Serving.isHtmlContentType`
    * `Serving.buildUpstreamRequest`
-/

------------------------------------------------------------
-- Configuration
------------------------------------------------------------

namespace AjarGateway

namespace Serving

/- Third-party code, and the width of a `usize`. -/
structure Externals where
  http : Http.HttpCrate
  json : Store.SerdeJson
  usizeBits : Nat

/- `std::net::SocketAddr`, as text. -/
abbrev SocketAddr : Type :=
  String

/- Runtime configuration of the proxy and admin server. -/
structure GatewayConfig where
  originUrl : String
  listenAddr : SocketAddr
  adminAddr : SocketAddr
  requestTimeoutMs : UInt64
  maxBodyBytes : UInt64
  storeDir : Option Store.Path

/- Validated deployment configuration. -/
structure ValidatedConfig where
  originScheme : String
  originAuthority : String
  listenAddr : SocketAddr
  adminAddr : SocketAddr
  requestTimeout : UInt64
  maxBodyBytes : UInt64
  storeDir : Option Store.Path

/- Errors that end the gateway before it serves. -/
inductive ServingError where
  | invalidOriginUrl
  | unsupportedOriginScheme
  | invalidTimeout
  | invalidBodyLimit
  | storeLoadFailed (error : Store.StoreLoadError)
  deriving DecidableEq, Repr

def ServingError.message : ServingError → String
| .invalidOriginUrl =>
    "origin_url must be an absolute URL with scheme and " ++
      "authority"
| .unsupportedOriginScheme =>
    "origin_url must use http for T1.1"
| .invalidTimeout =>
    "request_timeout_ms must be greater than zero"
| .invalidBodyLimit =>
    "max_body_bytes must be greater than zero"
| .storeLoadFailed _ => "prepared content store invalid"

/- `Option::ok_or`. -/
def okOr {ε α : Type} (error : ε) : Option α → Except ε α
| some value => .ok value
| none => .error error

@[simp] theorem okOr_eq_ok_iff
    {ε α : Type}
    (error : ε)
    (option : Option α)
    (value : α) :
    okOr error option = .ok value ↔
      option = some value := by
  cases option <;> simp [okOr]

@[simp] theorem okOr_eq_error_iff
    {ε α : Type}
    (error error' : ε)
    (option : Option α) :
    okOr error option = .error error' ↔
      option = none ∧ error = error' := by
  cases option <;> simp [okOr]

def GatewayConfig.validate
    (http : Http.HttpCrate)
    (config : GatewayConfig) :
    Except ServingError ValidatedConfig := do
  let originUri ←
    okOr .invalidOriginUrl (http.uriFromStr config.originUrl)
  let scheme ← okOr .invalidOriginUrl originUri.schemeStr
  if scheme ≠ "http" then
    throw .unsupportedOriginScheme
  let authority ←
    okOr .invalidOriginUrl originUri.authority?
  if config.requestTimeoutMs = 0 then
    throw .invalidTimeout
  if config.maxBodyBytes = 0 then
    throw .invalidBodyLimit
  return {
    originScheme := scheme
    originAuthority := authority
    listenAddr := config.listenAddr
    adminAddr := config.adminAddr
    requestTimeout := config.requestTimeoutMs
    maxBodyBytes := config.maxBodyBytes
    storeDir := config.storeDir }

/- What an accepted configuration satisfies. -/
theorem GatewayConfig.validate_ok
    (http : Http.HttpCrate)
    (config : GatewayConfig)
    (valid : ValidatedConfig)
    (hValid : config.validate http = .ok valid) :
    valid.originScheme = "http" ∧
      (∃ target,
        http.uriFromStr config.originUrl =
          some (.absolute "http" valid.originAuthority
            target)) ∧
      valid.requestTimeout ≠ 0 ∧ valid.maxBodyBytes ≠ 0 ∧
        valid.storeDir = config.storeDir := by
  simp only [validate, Rust.bind_eq_ok_iff, okOr_eq_ok_iff,
    Rust.throw_bind, Rust.guard_eq_ok_iff] at hValid
  rcases hValid with ⟨uri, hUri, scheme, hScheme, hHttp,
    authority, hAuthority, hTimeout, hLimit, hReturn⟩
  cases hReturn
  rw [not_not] at hHttp
  subst hHttp
  cases uri with
  | absolute scheme host target =>
      cases hScheme
      cases hAuthority
      exact ⟨rfl, ⟨target, hUri⟩, hTimeout, hLimit, rfl⟩
  | origin target => cases hScheme
  | authority host => cases hScheme
  | asterisk => cases hScheme

end Serving

end AjarGateway

------------------------------------------------------------
-- Errors Answered By The Proxy
------------------------------------------------------------

namespace AjarGateway

namespace Serving

/- An RFC 9457 problem document. -/
structure ProblemDetails where
  problemType : String
  status : Nat
  title : String
  detail : String
  ajarErrorCode : String
  deriving DecidableEq, Repr

inductive ProxyHttpError where
  | invalidContentLength
  | requestBodyTooLarge
  | invalidUpstreamUri
  | upstreamTimeout
  | upstream
  | storeStateUnavailable
  deriving DecidableEq, Repr

namespace ProxyHttpError

def status : ProxyHttpError → Nat
| .invalidContentLength | .requestBodyTooLarge => 413
| .invalidUpstreamUri | .upstreamTimeout | .upstream => 502
| .storeStateUnavailable => 500

def code : ProxyHttpError → String
| .invalidContentLength =>
    "AJAR_GATEWAY_INVALID_CONTENT_LENGTH"
| .requestBodyTooLarge =>
    "AJAR_GATEWAY_REQUEST_BODY_TOO_LARGE"
| .invalidUpstreamUri => "AJAR_GATEWAY_INVALID_UPSTREAM_URI"
| .upstreamTimeout => "AJAR_GATEWAY_UPSTREAM_TIMEOUT"
| .upstream => "AJAR_GATEWAY_UPSTREAM_ERROR"
| .storeStateUnavailable =>
    "AJAR_GATEWAY_STORE_STATE_UNAVAILABLE"

/- `StatusCode::canonical_reason` of each error status. -/
def canonicalReason : ProxyHttpError → String
| .invalidContentLength | .requestBodyTooLarge =>
    "Payload Too Large"
| .invalidUpstreamUri | .upstreamTimeout | .upstream =>
    "Bad Gateway"
| .storeStateUnavailable => "Internal Server Error"

end ProxyHttpError

end Serving

end AjarGateway

------------------------------------------------------------
-- Hop-By-Hop Headers
------------------------------------------------------------

namespace AjarGateway

namespace Serving

open Http

/- The readable Connection tokens that name a header. -/
def connectionNames
    (http : HttpCrate)
    (value : HeaderValue) : List HeaderName :=
  match http.headerValueToStr value with
  | none => []
  | some text =>
      (text.toList.splitOn ',').filterMap (fun token =>
        http.headerNameFromStr
          (String.ofList (Rust.trim token)))

def hopByHopNames
    (http : HttpCrate)
    (headers : HeaderMap) : List HeaderName :=
  [⟨"connection"⟩, ⟨"keep-alive"⟩, ⟨"te"⟩, ⟨"trailer"⟩,
      ⟨"transfer-encoding"⟩, ⟨"upgrade"⟩] ++
    (headers.getAll .connection).flatMap
      (connectionNames http)

def stripHopByHopHeaders
    (http : HttpCrate)
    (headers : HeaderMap) : HeaderMap :=
  let proxyNames :=
    headers.keys.filter (fun name =>
      "proxy-".toList.isPrefixOf
        (Rust.toAsciiLowercase name.text.toList))
  (hopByHopNames http headers ++ proxyNames).foldl
    HeaderMap.remove headers

end Serving

end AjarGateway

------------------------------------------------------------
-- Reading And Writing Headers
------------------------------------------------------------

namespace AjarGateway

namespace Serving

open Http

/- A value that is not a legal header value is left out. -/
def insertHeader
    (http : HttpCrate)
    (headers : HeaderMap)
    (name : HeaderName)
    (value : String) : HeaderMap :=
  match http.headerValueFromStr value with
  | some value => headers.insert name value
  | none => headers

def ifNoneMatchMatches
    (http : HttpCrate)
    (headers : HeaderMap)
    (etag : String) : Bool :=
  (headers.getAll .ifNoneMatch).any fun value =>
    match http.headerValueToStr value with
    | none => false
    | some text =>
        (text.toList.splitOn ',').any fun candidate =>
          let candidate := Rust.trim candidate
          candidate == ['*'] || candidate == etag.toList

def isHtmlContentType
    (http : HttpCrate)
    (headers : HeaderMap) : Bool :=
  match headers.get .contentType with
  | none => false
  | some value =>
      match http.headerValueToStr value with
      | none => false
      | some text =>
          Rust.eqIgnoreAsciiCase
            (Rust.trim ((text.toList.splitOn ';').headD []))
            "text/html".toList

def declaredContentLength
    (http : HttpCrate)
    (headers : HeaderMap) :
    Except ProxyHttpError (Option Nat) :=
  match headers.get .contentLength with
  | none => .ok none
  | some value => do
      let text ←
        okOr .invalidContentLength
          (http.headerValueToStr value)
      let parsed ←
        okOr .invalidContentLength
          (Rust.parseU64 text.toList)
      return some parsed

end Serving

end AjarGateway

------------------------------------------------------------
-- The Upstream Request
------------------------------------------------------------

namespace AjarGateway

namespace Serving

open Http

/- The text that is parsed as the upstream URI. -/
def upstreamUriText
    (config : ValidatedConfig)
    (uri : Uri) : String :=
  config.originScheme ++ "://" ++ config.originAuthority ++
    requestTarget uri

def buildUpstreamRequest
    (lib : Externals)
    (config : ValidatedConfig)
    (request : Request Chunks) :
    Except ProxyHttpError (Request Limited) := do
  let declared ← declaredContentLength lib.http request.headers
  if declared.any (config.maxBodyBytes.toNat < ·) then
    throw .requestBodyTooLarge
  let uri ←
    okOr .invalidUpstreamUri
      (lib.http.uriFromStr
        (upstreamUriText config request.uri))
  return {
    method := request.method
    uri := uri
    headers := stripHopByHopHeaders lib.http request.headers
    body :=
      ⟨request.body,
        config.maxBodyBytes.toNat % 2 ^ lib.usizeBits⟩ }

/- An upstream request is built from its incoming request. -/
theorem buildUpstreamRequest_ok_iff
    (lib : Externals)
    (config : ValidatedConfig)
    (request : Request Chunks)
    (upstream : Request Limited) :
    buildUpstreamRequest lib config request = .ok upstream ↔
      ∃ declared uri,
        declaredContentLength lib.http request.headers =
            .ok declared ∧
          (∀ length ∈ declared,
            length ≤ config.maxBodyBytes.toNat) ∧
          lib.http.uriFromStr
              (upstreamUriText config request.uri) =
            some uri ∧
          upstream = {
            method := request.method
            uri := uri
            headers :=
              stripHopByHopHeaders lib.http request.headers
            body :=
              ⟨request.body,
                config.maxBodyBytes.toNat %
                  2 ^ lib.usizeBits⟩ } := by
  simp only [buildUpstreamRequest, Rust.bind_eq_ok_iff,
    Rust.throw_bind, Rust.guard_eq_ok_iff, okOr_eq_ok_iff]
  constructor
  · rintro ⟨declared, hDeclared, hLimit, uri, hUri, hReturn⟩
    cases hReturn
    refine ⟨declared, uri, hDeclared, ?_, hUri, rfl⟩
    intro length hLength
    cases hLength
    simpa using hLimit
  · rintro ⟨declared, uri, hDeclared, hLimit, hUri, rfl⟩
    refine ⟨declared, hDeclared, ?_, uri, hUri, rfl⟩
    cases declared with
    | none => simp
    | some length => simpa using hLimit length rfl

end Serving

end AjarGateway
