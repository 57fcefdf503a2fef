import AjarGateway.Http.Reference
import AjarGateway.Serving.Content
import AjarGateway.Store.Reference

/-
  A gateway over the reference parsers and the sample store
  directory, and the targets of requests to it.

  Main declarations:
    * `Serving.sampleExt`
    * `Serving.sampleState`
    * `Serving.manifestTarget`
    * `Serving.pageTarget`
    * `Serving.sampleEnv`
-/

------------------------------------------------------------
-- A Sample Configuration
------------------------------------------------------------

namespace AjarGateway

namespace Serving

open Http Store

/- The reference parsers and a 64-bit `usize`. -/
def sampleExt : Externals where
  http := referenceHttp
  json := sampleJson
  usizeBits := 64

/- The reference parsers over other documents. -/
def documentExt (documents : List Value) : Externals :=
  { sampleExt with json := .ofDocuments documents }

/- An origin and a store directory, with default limits. -/
def sampleConfig : GatewayConfig where
  originUrl := "http://127.0.0.1:3000"
  listenAddr := "127.0.0.1:8080"
  adminAddr := "127.0.0.1:9090"
  requestTimeoutMs := 30000
  maxBodyBytes := 10485760
  storeDir := some sampleDir

def sampleValid : ValidatedConfig where
  originScheme := "http"
  originAuthority := "127.0.0.1:3000"
  listenAddr := "127.0.0.1:8080"
  adminAddr := "127.0.0.1:9090"
  requestTimeout := 30000
  maxBodyBytes := 10485760
  storeDir := some sampleDir

theorem sample_validate :
    sampleConfig.validate referenceHttp =
      .ok sampleValid := by
  rfl

def sampleState : ProxyState where
  config := sampleValid
  hasStore := true

/- Every target has an upstream URI. -/
theorem sample_upstreamUri (target : Uri) :
    ∃ uri,
      referenceHttp.uriFromStr
          (upstreamUriText sampleValid target) =
        some uri := by
  have hText :
      (upstreamUriText sampleValid target).toList =
        "http://".toList ++
          '1' :: ("27.0.0.1:3000".toList ++
            (requestTarget target).toList) := by
    simp only [upstreamUriText, sampleValid,
      String.toList_append]
    rfl
  rcases referenceAbsolute_cons
      ("27.0.0.1:3000".toList ++
        (requestTarget target).toList)
      (by decide : endsAuthority '1' = false) with
    ⟨uri, hUri⟩
  rw [← referenceUriFromStr_http hText] at hUri
  exact ⟨uri, hUri⟩

/- Without a declared length every request is built. -/
theorem sample_builds
    (request : Request Chunks)
    (hLength : request.headers.get .contentLength = none) :
    ∃ upstream,
      buildUpstreamRequest sampleExt sampleValid request =
        .ok upstream := by
  rcases sample_upstreamUri request.uri with ⟨uri, hUri⟩
  exact ⟨_, (buildUpstreamRequest_ok_iff _ _ _ _).mpr
    ⟨none, uri, by rw [declaredContentLength, hLength],
      by simp, hUri, rfl⟩⟩

end Serving

end AjarGateway

------------------------------------------------------------
-- Sample Targets
------------------------------------------------------------

namespace AjarGateway

namespace Serving

open Http Store

/- The target of a manifest request. -/
def manifestTarget : Uri :=
  .origin {
    text := manifestPath
    starts := by decide
    noFragment := by decide }

theorem manifestTarget_path :
    manifestTarget.path = manifestPath := by
  decide

/- The target of the sample view. -/
def pageTarget : Uri :=
  .origin {
    text := "/page"
    starts := by decide
    noFragment := by decide }

/- The sample view is routed at its target. -/
theorem pageTarget_routes (heading : String) :
    RoutesView (samplePage heading) pageTarget
      ⟨(sampleView "/page" heading).bytes,
        sampleViewTyped "/page" heading⟩ where
  notManifest := by decide
  notIndex := by
    show pageTarget.path ≠ "/views"
    decide
  stored := AList.lookup_insert _

/- The target the sample manifest names for the index. -/
def viewsTarget : Uri :=
  .origin {
    text := "/views"
    starts := by decide
    noFragment := by decide }

/- A page of the origin. -/
def originPage (contentType : HeaderValue) :
    Response Chunks where
  status := 200
  headers := .single .contentType contentType
  body := [Rust.utf8 "<h1>Page</h1>"]

/- What a request sees while a store is installed. -/
def sampleEnv (store : PreparedContentStore) : Surroundings :=
  { (default : Surroundings) with
    snapshot := some store
    now := sampleNow
    expiryFlagWasClear := true }

/- The sample store and an origin with one page. -/
def samplePageEnv (contentType : HeaderValue) : Surroundings :=
  { sampleEnv (samplePage "Old") with
    origin := fun _ => .response (originPage contentType) }

end Serving

end AjarGateway

------------------------------------------------------------
-- Sample Sequences
------------------------------------------------------------

namespace AjarGateway

namespace Serving

open Http Store

/- The sample page with a sequence. -/
def sequencePage (text : String) (sequence : Int) : Page :=
  { pageOf "/views" "/page" "Old" with
    sequenceText := text
    sequence := sequence }

/- The documents of two sequences. -/
def sequenceDocuments : List Value :=
  [(sequencePage "1" 1).manifest,
    (sequencePage "0" 0).manifest, sampleIndex,
    (sequencePage "1" 1).view]

theorem sequencePage_loads
    {text : String} {sequence : Int}
    (hManifest :
      (sequencePage text sequence).manifest ∈
        sequenceDocuments)
    (hSequence :
      (Value.number text).asInt = some sequence)
    (hNonneg : 0 ≤ sequence) :
    loadFrom (documentExt sequenceDocuments).json sampleDir
        (sequencePage text sequence).files sampleNow =
      .ok ((sequencePage text sequence).store "/page") :=
  Page.loads
    { distinct := by decide +kernel
      manifest := hManifest
      index := by simp [sequenceDocuments]
      view := by
        show (sequencePage "1" 1).view ∈ sequenceDocuments
        simp [sequenceDocuments]
      sequence := hSequence
      sequence_nonneg := hNonneg }
    (by
      show requestTargetFromViewUrl "/page" = .ok "/page"
      decide +kernel)
    _ (by decide)

theorem sequencePage_one_loads :
    loadFrom (documentExt sequenceDocuments).json sampleDir
        (sequencePage "1" 1).files sampleNow =
      .ok ((sequencePage "1" 1).store "/page") :=
  sequencePage_loads (by simp [sequenceDocuments])
    (by decide) (by decide)

theorem sequencePage_zero_loads :
    loadFrom (documentExt sequenceDocuments).json sampleDir
        (sequencePage "0" 0).files sampleNow =
      .ok ((sequencePage "0" 0).store "/page") :=
  sequencePage_loads (by simp [sequenceDocuments])
    (by decide) (by decide)

theorem sequencePage_lower :
    ((sequencePage "0" 0).store "/page").manifestSequence <
      ((sequencePage "1" 1).store
        "/page").manifestSequence :=
  Int.zero_lt_one

end Serving

end AjarGateway
