import AjarGateway.Http.Length
import AjarGateway.Serving.Calls
import AjarGateway.Serving.Reference

/-
  The two limits on a request body: the declared length is
  compared with the configured limit before the origin is
  asked, and the body is cut off while it is sent.

  Key definitions include:
    * `Serving.UnambiguousLength`
    * `Serving.ForwardsWithin`
    * `Serving.RefusedAsTooLarge`

  Key theorems include:
    * `Serving.declaredContentLength_eq_some_iff`
    * `Serving.unambiguousLength_iff`
    * `Serving.forwardsWithin_iff`
    * `Serving.bodyLimitsAgree_iff`
-/

------------------------------------------------------------
-- The Declared Length
------------------------------------------------------------

namespace AjarGateway

namespace Serving

open Http

theorem declaredContentLength_eq_none_iff
    (http : HttpCrate)
    (headers : HeaderMap) :
    declaredContentLength http headers = .ok none ↔
      headers.getAll .contentLength = [] := by
  unfold declaredContentLength HeaderMap.get
  cases hAll : headers.getAll .contentLength with
  | nil => simp
  | cons first rest =>
      apply iff_of_false
      · simp only [List.head?_cons, Rust.bind_eq_ok_iff]
        rintro ⟨_, _, _, _, hReturn⟩
        cases hReturn
      · exact List.cons_ne_nil _ _

/- Only the first value is read, with or without a sign. -/
theorem declaredContentLength_eq_some_iff
    {http : HttpCrate}
    (hReads : http.ReadsVisibleAscii)
    (headers : HeaderMap)
    (n : Nat) :
    declaredContentLength http headers = .ok (some n) ↔
      ∃ first rest,
        headers.getAll .contentLength = first :: rest ∧
          DeclaresSigned first n ∧ n < 2 ^ 64 := by
  unfold declaredContentLength HeaderMap.get
  cases hAll : headers.getAll .contentLength with
  | nil => simp
  | cons first rest =>
      simp only [List.head?_cons, Rust.bind_eq_ok_iff,
        okOr_eq_ok_iff, hReads first]
      constructor
      · rintro ⟨text, hText, length, hLength, hReturn⟩
        cases hReturn
        split at hText
        · cases hText
          exact ⟨first, rest, rfl,
            (parseU64_asciiText_iff first n).mp hLength⟩
        · cases hText
      · rintro ⟨_, _, hEq, hSigned, hBound⟩
        cases hEq
        refine ⟨asciiText first.bytes,
          if_pos hSigned.visible, n, ?_, rfl⟩
        exact (parseU64_asciiText_iff first n).mpr
          ⟨hSigned, hBound⟩

/- A body is refused exactly for a length above the limit. -/
theorem buildUpstreamRequest_tooLarge_iff
    (lib : Externals)
    (config : ValidatedConfig)
    (request : Request Chunks) :
    buildUpstreamRequest lib config request =
        .error .requestBodyTooLarge ↔
      ∃ n,
        declaredContentLength lib.http request.headers =
            .ok (some n) ∧
          config.maxBodyBytes.toNat < n := by
  unfold buildUpstreamRequest
  cases hDeclared :
      declaredContentLength lib.http request.headers with
  | error error =>
      rw [declaredContentLength_error hDeclared]
      apply iff_of_false
      · intro hError
        cases hError
      · rintro ⟨_, hOk, _⟩
        cases hOk
  | ok declared =>
      simp only [Rust.ok_bind, Rust.throw_bind]
      by_cases hLarge :
          declared.any (config.maxBodyBytes.toNat < ·) = true
      · rw [if_pos hLarge]
        cases declared with
        | none => cases hLarge
        | some n =>
            apply iff_of_true rfl
            exact ⟨n, rfl, of_decide_eq_true hLarge⟩
      · rw [if_neg hLarge]
        apply iff_of_false
        · simp only [Rust.bind_eq_error_iff,
            okOr_eq_error_iff]
          rintro (⟨_, hError⟩ | ⟨_, _, hReturn⟩)
          · cases hError
          · cases hReturn
        · rintro ⟨n, hOk, hAbove⟩
          cases hOk
          exact hLarge (decide_eq_true hAbove)

end Serving

end AjarGateway

------------------------------------------------------------
-- Forwarded Lengths
------------------------------------------------------------

namespace AjarGateway

namespace Serving

open Http

/-
  No length is given, or all values are digits only and
  denote one number within the limit.
-/
def UnambiguousLength
    (config : ValidatedConfig)
    (headers : HeaderMap) : Prop :=
  headers.getAll .contentLength = [] ∨
    ∃ n ≤ config.maxBodyBytes.toNat,
      ∀ value ∈ headers.getAll .contentLength,
        Declares value n

/-
  The first value is the only one that is read, and a plus
  sign before it is skipped.
-/
theorem unambiguousLength_iff
    (lib : Externals)
    (hReads : lib.http.ReadsVisibleAscii)
    (config : ValidatedConfig)
    (request : Request Chunks)
    (upstream : Request Limited)
    (hBuilt :
      buildUpstreamRequest lib config request =
        .ok upstream) :
    UnambiguousLength config request.headers ↔
      ∀ first rest,
        request.headers.getAll .contentLength =
            first :: rest →
          first.bytes.head? ≠ some 0x2B ∧
            ∀ value ∈ rest,
              ∃ n, Declares first n ∧ Declares value n := by
  rcases (buildUpstreamRequest_ok_iff _ _ _ _).mp hBuilt with
    ⟨declared, _, hDeclared, hLimit, _, _⟩
  constructor
  · rintro (hNone | ⟨n, _, hAll⟩) first rest hValues
    · rw [hNone] at hValues
      cases hValues
    · have hFirst : Declares first n :=
        hAll first (hValues ▸ List.mem_cons_self)
      refine ⟨hFirst.head_ne, fun value hValue => ?_⟩
      exact ⟨n, hFirst,
        hAll value (hValues ▸ List.mem_cons_of_mem _ hValue)⟩
  · intro hRest
    cases declared with
    | none =>
        left
        exact (declaredContentLength_eq_none_iff _ _).mp
          hDeclared
    | some n =>
        rcases (declaredContentLength_eq_some_iff hReads _
            _).mp hDeclared with
          ⟨first, rest, hValues, hSigned, _⟩
        rcases hRest first rest hValues with
          ⟨hHead, hOthers⟩
        have hFirst : Declares first n :=
          hSigned.unsigned hHead
        right
        refine ⟨n, hLimit n rfl, ?_⟩
        rw [hValues, List.forall_mem_cons]
        refine ⟨hFirst, fun value hValue => ?_⟩
        rcases hOthers value hValue with ⟨m, hSame, hOther⟩
        rw [hFirst.unique hSame]
        exact hOther

/- A request with given Content-Length values. -/
def lengthRequest
    (values : List String)
    (body : Chunks) : Request Chunks where
  method := .post
  uri := pageTarget
  headers :=
    ⟨values.map fun value =>
      (.contentLength, .fromStatic value)⟩
  body := body

theorem lengthRequest_builds
    (values : List String)
    (hLength :
      declaredContentLength referenceHttp
          (lengthRequest values []).headers =
        .ok (some 5))
    (body : Chunks) :
    ∃ upstream,
      buildUpstreamRequest sampleExt sampleValid
          (lengthRequest values body) =
        .ok upstream := by
  rcases sample_upstreamUri pageTarget with ⟨uri, hUri⟩
  exact ⟨_, (buildUpstreamRequest_ok_iff _ _ _ _).mpr
    ⟨some 5, uri, hLength, by decide, hUri, rfl⟩⟩

theorem unambiguousLength_single :
    UnambiguousLength sampleValid
      (lengthRequest ["5"] []).headers := by
  rcases lengthRequest_builds ["5"] (by decide) []
    with ⟨upstream, hBuilt⟩
  rw [unambiguousLength_iff sampleExt
    reference_readsVisibleAscii sampleValid
    (lengthRequest ["5"] []) upstream hBuilt]
  intro first rest hValues
  cases hValues
  exact ⟨by decide, by simp⟩

/- A sign, and a second value, pass the gateway. -/
theorem ambiguousLength_forwarded :
    ((∃ upstream,
          buildUpstreamRequest sampleExt sampleValid
              (lengthRequest ["+5"] [Rust.utf8 "12345"]) =
            .ok upstream) ∧
        ¬UnambiguousLength sampleValid
          (lengthRequest ["+5"]
            [Rust.utf8 "12345"]).headers) ∧
      (∃ upstream,
          buildUpstreamRequest sampleExt sampleValid
              (lengthRequest ["5", "6"]
                [Rust.utf8 "12345"]) =
            .ok upstream) ∧
        ¬UnambiguousLength sampleValid
          (lengthRequest ["5", "6"]
            [Rust.utf8 "12345"]).headers := by
  refine ⟨⟨lengthRequest_builds _ (by decide) _, ?_⟩,
    lengthRequest_builds _ (by decide) _, ?_⟩
  · rintro (hNone | ⟨n, _, hAll⟩)
    · exact absurd hNone (by decide)
    · have hFirst := hAll (.fromStatic "+5") (by decide)
      exact hFirst.head_ne (by decide)
  · rintro (hNone | ⟨n, _, hAll⟩)
    · exact absurd hNone (by decide)
    · have hFirst := hAll (.fromStatic "5") (by decide)
      have hSecond := hAll (.fromStatic "6") (by decide)
      have hFive : Declares (.fromStatic "5") 5 := by
        decide
      have hSix : Declares (.fromStatic "6") 6 := by
        decide
      have hSame := hFive.unique hFirst
      have hOther := hSecond.unique hSix
      omega

end Serving

end AjarGateway

------------------------------------------------------------
-- Forwarded Bodies
------------------------------------------------------------

namespace AjarGateway

namespace Serving

open Http

/- Every declared length is the length of the body. -/
def TruthfulLength (request : Request Chunks) : Prop :=
  ∀ value ∈ request.headers.getAll .contentLength,
    Declares value request.body.flatten.length

variable {lib : Externals} {config : ValidatedConfig}
variable {request : Request Chunks}

theorem declaredContentLength_of_truthful
    (hReads : lib.http.ReadsVisibleAscii)
    (hTruthful : TruthfulLength request)
    (hBound : request.body.flatten.length < 2 ^ 64) :
    ∃ declared,
      declaredContentLength lib.http request.headers =
          .ok declared ∧
        ∀ n ∈ declared,
          n = request.body.flatten.length := by
  cases hValues :
      request.headers.getAll .contentLength with
  | nil =>
      refine ⟨none, ?_, by simp⟩
      exact (declaredContentLength_eq_none_iff _ _).mpr
        hValues
  | cons first rest =>
      refine ⟨some request.body.flatten.length, ?_, ?_⟩
      · apply (declaredContentLength_eq_some_iff hReads _
          _).mpr
        refine ⟨first, rest, hValues, .inl ?_, hBound⟩
        exact hTruthful first (hValues ▸ List.mem_cons_self)
      · intro n hMem
        exact (Option.some.inj hMem).symm

/- A truthful body within the limit is not refused. -/
theorem buildUpstreamRequest_of_truthful
    (hReads : lib.http.ReadsVisibleAscii)
    (hTruthful : TruthfulLength request)
    (hWithin :
      request.body.flatten.length ≤
        config.maxBodyBytes.toNat) :
    (∃ upstream,
        buildUpstreamRequest lib config request =
          .ok upstream) ∨
      lib.http.uriFromStr
          (upstreamUriText config request.uri) = none ∧
        buildUpstreamRequest lib config request =
          .error .invalidUpstreamUri := by
  have hBound : request.body.flatten.length < 2 ^ 64 :=
    Nat.lt_of_le_of_lt hWithin config.maxBodyBytes.toNat_lt
  rcases declaredContentLength_of_truthful hReads hTruthful
      hBound with
    ⟨declared, hDeclared, hLength⟩
  cases hUri :
      lib.http.uriFromStr
        (upstreamUriText config request.uri) with
  | some uri =>
      left
      refine ⟨_, (buildUpstreamRequest_ok_iff _ _ _ _).mpr
        ⟨declared, uri, hDeclared, ?_, hUri, rfl⟩⟩
      intro n hMem
      rw [hLength n hMem]
      exact hWithin
  | none =>
      right
      refine ⟨rfl, ?_⟩
      have hSmall :
          declared.any (config.maxBodyBytes.toNat < ·) =
            false := by
        cases declared with
        | none => rfl
        | some n =>
            rw [hLength n rfl]
            exact decide_eq_false (Nat.not_lt.mpr hWithin)
      simp only [buildUpstreamRequest, hDeclared, hUri,
        Rust.ok_bind, Rust.throw_bind]
      rw [if_neg (Bool.eq_false_iff.mp hSmall)]
      rfl

/- The limited body of a built request. -/
theorem upstream_body_eq
    {upstream : Request Limited}
    (hBuilt :
      buildUpstreamRequest lib config request =
        .ok upstream) :
    upstream.body =
      ⟨request.body,
        config.maxBodyBytes.toNat % 2 ^ lib.usizeBits⟩ := by
  rcases (buildUpstreamRequest_ok_iff _ _ _ _).mp hBuilt with
    ⟨_, _, _, _, _, rfl⟩
  rfl

/-
  At most the configured number of bytes reaches the origin,
  and a body within it passes both limits as a whole.
-/
structure ForwardsWithin
    (lib : Externals)
    (read : LimitReader)
    (config : ValidatedConfig)
    (request : Request Chunks) : Prop where
  atMost : ∀ upstream,
    buildUpstreamRequest lib config request = .ok upstream →
      (read upstream.body).1.flatten.length ≤
        config.maxBodyBytes.toNat
  notRefused :
    request.body.flatten.length ≤
        config.maxBodyBytes.toNat →
      TruthfulLength request →
        buildUpstreamRequest lib config request ≠
            .error .requestBodyTooLarge ∧
          buildUpstreamRequest lib config request ≠
            .error .invalidContentLength
  whole :
    request.body.flatten.length ≤
        config.maxBodyBytes.toNat →
      TruthfulLength request →
        ∀ upstream,
          buildUpstreamRequest lib config request =
              .ok upstream →
            read upstream.body = (request.body, true)

/- A body that fits the limit as a `usize` passes. -/
theorem forwardsWithin_of_fits
    (hReads : lib.http.ReadsVisibleAscii)
    {read : LimitReader}
    (hCuts : CutsAtLimit read)
    (hFits :
      request.body.flatten.length ≤
          config.maxBodyBytes.toNat →
        TruthfulLength request →
          (lib.http.uriFromStr
            (upstreamUriText config
              request.uri)).isSome = true →
            request.body.flatten.length ≤
              config.maxBodyBytes.toNat %
                2 ^ lib.usizeBits) :
    ForwardsWithin lib read config request where
  atMost := by
    intro upstream hBuilt
    rw [upstream_body_eq hBuilt]
    exact (hCuts.length_le _).trans (Nat.mod_le _ _)
  notRefused := by
    intro hWithin hTruthful
    rcases buildUpstreamRequest_of_truthful hReads hTruthful
        hWithin with
      ⟨upstream, hBuilt⟩ | ⟨_, hError⟩
    · rw [hBuilt]
      exact ⟨nofun, nofun⟩
    · rw [hError]
      exact ⟨nofun, nofun⟩
  whole := by
    intro hWithin hTruthful upstream hBuilt
    rcases (buildUpstreamRequest_ok_iff _ _ _ _).mp hBuilt
      with ⟨_, uri, _, _, hUri, _⟩
    rw [upstream_body_eq hBuilt]
    apply (hCuts.whole_iff _).mpr
    apply hFits hWithin hTruthful
    rw [hUri]
    rfl

/- A limit that is a `usize` is the same in both places. -/
theorem forwardsWithin_of_usize
    (hReads : lib.http.ReadsVisibleAscii)
    {read : LimitReader}
    (hCuts : CutsAtLimit read)
    (hUsize :
      config.maxBodyBytes.toNat < 2 ^ lib.usizeBits)
    (request : Request Chunks) :
    ForwardsWithin lib read config request := by
  apply forwardsWithin_of_fits hReads hCuts
  intro hWithin _ _
  rw [Nat.mod_eq_of_lt hUsize]
  exact hWithin

/-
  The cast of the limit to a `usize` keeps its low bits: a
  body has to fit in those.
-/
theorem forwardsWithin_iff
    (lib : Externals)
    (hReads : lib.http.ReadsVisibleAscii)
    (read : LimitReader)
    (hCuts : CutsAtLimit read)
    (config : ValidatedConfig)
    (request : Request Chunks) :
    ForwardsWithin lib read config request ↔
      (request.body.flatten.length ≤
          config.maxBodyBytes.toNat →
        TruthfulLength request →
          (lib.http.uriFromStr
            (upstreamUriText config
              request.uri)).isSome = true →
            request.body.flatten.length ≤
              config.maxBodyBytes.toNat %
                2 ^ lib.usizeBits) := by
  constructor
  · intro hForwards hWithin hTruthful hUri
    rcases buildUpstreamRequest_of_truthful hReads hTruthful
        hWithin with
      ⟨upstream, hBuilt⟩ | ⟨hNone, _⟩
    · have hWhole :=
        hForwards.whole hWithin hTruthful upstream hBuilt
      have hBody := upstream_body_eq hBuilt
      rw [hBody] at hWhole
      exact (hCuts.whole_iff _).mp hWhole
    · rw [hNone] at hUri
      cases hUri
  · exact forwardsWithin_of_fits hReads hCuts

theorem forwardsWithin_sample :
    ForwardsWithin sampleExt readLimited sampleValid
      (lengthRequest ["5"] [Rust.utf8 "12", Rust.utf8 "345"]) := by
  rw [forwardsWithin_iff sampleExt
    reference_readsVisibleAscii readLimited
    readLimited_cutsAtLimit]
  intro _ _ _
  decide

/- A limit of 2 ^ 32, and a `usize` of 32 bits. -/
def wideConfig : GatewayConfig :=
  { sampleConfig with maxBodyBytes := 4294967296 }

def wideValid : ValidatedConfig :=
  { sampleValid with maxBodyBytes := 4294967296 }

/- The limit of zero that is left cuts off one byte. -/
theorem not_forwardsWithin_wide :
    wideConfig.validate referenceHttp = .ok wideValid ∧
      ¬ForwardsWithin { sampleExt with usizeBits := 32 }
        readLimited wideValid
        (lengthRequest [] [[0x61]]) := by
  refine ⟨rfl, ?_⟩
  intro hForwards
  rcases sample_upstreamUri pageTarget with ⟨uri, hUri⟩
  have hBuilt :=
    (buildUpstreamRequest_ok_iff
      { sampleExt with usizeBits := 32 } wideValid
      (lengthRequest [] [[0x61]]) _).mpr
      ⟨none, uri, rfl, by simp, hUri, rfl⟩
  have hWhole := hForwards.whole (by decide)
    (by intro value hValue; cases hValue) _ hBuilt
  have hCut :
      readLimited
          ⟨[[0x61]], wideValid.maxBodyBytes.toNat % 2 ^ 32⟩ =
        ([], false) := by
    decide
  exact Bool.false_ne_true
    (congrArg Prod.snd (hCut.symm.trans hWhole))

end Serving

end AjarGateway

------------------------------------------------------------
-- Bodies That Are Too Large
------------------------------------------------------------

namespace AjarGateway

namespace Serving

open Http Interleaving Store

/- The client fails when the body it sends ends in an error. -/
def FailsCutBodies
    (read : LimitReader)
    (origin : Request Limited → OriginReply) : Prop :=
  ∀ upstream, (read upstream.body).2 = false →
    ∀ response, origin upstream ≠ .response response

/-
  The answer 413 with the code for a body that is too large,
  and no upstream error counted.
-/
structure RefusedAsTooLarge
    (lib : Externals)
    (state : ProxyState)
    (env : Surroundings)
    (request : Request Chunks) : Prop where
  status : (respond lib state env request).status = 413
  code :
    (respond lib state env request).body.problemCode =
      some "AJAR_GATEWAY_REQUEST_BODY_TOO_LARGE"
  uncounted :
    ∀ call ∈
        (answerPublic lib state request).callsWith env.reply,
      call.op ≠ .fetchAdd .upstreamErrorsTotal

theorem problemCode_tooLarge_iff
    (error : ProxyHttpError) :
    error.intoResponse.body.problemCode =
        some "AJAR_GATEWAY_REQUEST_BODY_TOO_LARGE" ↔
      error = .requestBodyTooLarge := by
  cases error <;>
    simp [ProxyHttpError.intoResponse, problemDocument,
      Body.problemCode, ProxyHttpError.code]

variable (lib : Externals) (state : ProxyState)
variable (env : Surroundings) (request : Request Chunks)

/- Only a request that is passed on is found too large. -/
theorem passedOn_of_tooLarge
    (hCode :
      (respond lib state env request).body.problemCode =
        some "AJAR_GATEWAY_REQUEST_BODY_TOO_LARGE") :
    PassedOn lib state env request := by
  rcases request_cases lib state env request with
    ⟨hStore, hSnapshot⟩ |
      ⟨store, target, hStore, hSnapshot, hTarget⟩ | hPassed
  · rw [respond_of_poisoned lib state env hStore hSnapshot,
      problemCode_tooLarge_iff] at hCode
    cases hCode
  · rw [respond_of_target lib state env hStore hSnapshot
      hTarget] at hCode
    unfold answerFromStore at hCode
    split at hCode
    · exact absurd hCode (by decide)
    · split at hCode
      · cases hCode
      · rw [target.content_body] at hCode
        cases hCode
  · exact hPassed

/- The origin does not find a body too large. -/
theorem tooLarge_answerFromOrigin_iff
    (config : ValidatedConfig)
    (linked : Bool)
    (origin : Request Limited → OriginReply) :
    (answerFromOrigin lib config linked origin
        request).body.problemCode =
        some "AJAR_GATEWAY_REQUEST_BODY_TOO_LARGE" ↔
      buildUpstreamRequest lib config request =
        .error .requestBodyTooLarge := by
  unfold answerFromOrigin
  cases buildUpstreamRequest lib config request with
  | error error =>
      simp only [problemCode_tooLarge_iff,
        Except.error.injEq]
  | ok upstream =>
      apply iff_of_false
      · dsimp only
        split
        · rw [problemCode_tooLarge_iff]
          decide
        · rw [problemCode_tooLarge_iff]
          decide
        · rintro ⟨⟩
      · rintro ⟨⟩

/-
  A body above the limit that passes the first check ends in
  an upstream error.
-/
theorem upstreamError_of_long_body
    {read : LimitReader}
    (hCuts : CutsAtLimit read)
    (hFails : FailsCutBodies read env.origin)
    (hPassed : PassedOn lib state env request)
    (hLong :
      state.config.maxBodyBytes.toNat <
        request.body.flatten.length)
    {upstream : Request Limited}
    (hBuilt :
      buildUpstreamRequest lib state.config request =
        .ok upstream) :
    (respond lib state env request).status = 502 ∧
      ⟨.fetchAdd .upstreamErrorsTotal, ()⟩ ∈
        (answerPublic lib state request).callsWith
          env.reply := by
  have hCut : (read upstream.body).2 = false := by
    rw [upstream_body_eq hBuilt]
    apply hCuts.not_complete
    exact Nat.lt_of_le_of_lt (Nat.mod_le _ _) hLong
  rcases respond_of_passedOn lib state env request hPassed
    with ⟨linked, first, hRespond, hCalls, _⟩
  rw [hRespond, hCalls, callsWith_forwardToOrigin,
    answerFromOrigin, hBuilt]
  have hNoResponse := hFails upstream hCut
  cases hReply : env.origin upstream with
  | response response =>
      exact absurd hReply (hNoResponse response)
  | failed =>
      simp only [hReply]
      exact ⟨rfl, List.mem_append_right _ (by simp)⟩
  | elapsed =>
      simp only [hReply]
      exact ⟨rfl, List.mem_append_right _ (by simp)⟩

/- A body above the limit is refused, and not counted. -/
def BodyLimitsAgree : Prop :=
  state.config.maxBodyBytes.toNat <
      request.body.flatten.length →
    RefusedAsTooLarge lib state env request

/- Only a declared length is refused. -/
theorem bodyLimitsAgree_iff
    (hReads : lib.http.ReadsVisibleAscii) :
    BodyLimitsAgree lib state env request ↔
      request.body.flatten.length ≤
          state.config.maxBodyBytes.toNat ∨
        PassedOn lib state env request ∧
          ∃ first rest n,
            request.headers.getAll .contentLength =
                first :: rest ∧
              DeclaresSigned first n ∧ n < 2 ^ 64 ∧
                state.config.maxBodyBytes.toNat < n := by
  unfold BodyLimitsAgree
  rw [← Nat.not_lt, ← imp_iff_not_or]
  apply imp_congr_right
  intro _
  have hTooLarge :
      buildUpstreamRequest lib state.config request =
          .error .requestBodyTooLarge ↔
        ∃ first rest n,
          request.headers.getAll .contentLength =
              first :: rest ∧
            DeclaresSigned first n ∧ n < 2 ^ 64 ∧
              state.config.maxBodyBytes.toNat < n := by
    rw [buildUpstreamRequest_tooLarge_iff]
    simp only [declaredContentLength_eq_some_iff hReads]
    constructor
    · rintro ⟨n, ⟨first, rest, hAll, hSigned, hBound⟩, hLt⟩
      exact ⟨first, rest, n, hAll, hSigned, hBound, hLt⟩
    · rintro ⟨first, rest, n, hAll, hSigned, hBound, hLt⟩
      exact ⟨n, ⟨first, rest, hAll, hSigned, hBound⟩, hLt⟩
  rw [← hTooLarge]
  constructor
  · intro hRefused
    have hPassed :=
      passedOn_of_tooLarge lib state env request hRefused.code
    rcases respond_of_passedOn lib state env request hPassed
      with ⟨linked, _, hRespond, _, _⟩
    have hCode := hRefused.code
    rw [hRespond, tooLarge_answerFromOrigin_iff] at hCode
    exact ⟨hPassed, hCode⟩
  · rintro ⟨hPassed, hError⟩
    rcases respond_of_passedOn lib state env request hPassed
      with ⟨linked, first, hRespond, hCalls, hFirst⟩
    have hAnswer :
        respond lib state env request =
          ProxyHttpError.requestBodyTooLarge.intoResponse := by
      rw [hRespond, answerFromOrigin, hError]
    refine ⟨?_, ?_, ?_⟩
    · rw [hAnswer]
      rfl
    · rw [hAnswer]
      rfl
    · rw [hCalls, callsWith_forwardToOrigin, hError,
        List.append_nil]
      cases hFirst <;> simp

theorem bodyLimitsAgree_declared :
    BodyLimitsAgree sampleExt
      { config := { sampleValid with maxBodyBytes := 4 }
        hasStore := false }
      default (lengthRequest ["5"] [Rust.utf8 "12345"]) := by
  apply (bodyLimitsAgree_iff _ _ _ _
    reference_readsVisibleAscii).mpr
  right
  refine ⟨.inl rfl, .fromStatic "5", [], 5, rfl, .inl ?_, ?_⟩
  · decide
  · decide

/- An origin that fails when the body it gets is cut off. -/
def cutOrigin (upstream : Request Limited) : OriginReply :=
  if (readLimited upstream.body).2 = true then
    .response (Response.new [])
  else
    .failed

/- The same body without a declared length. -/
theorem not_bodyLimitsAgree_streamed :
    CutsAtLimit readLimited ∧
      FailsCutBodies readLimited cutOrigin ∧
        ¬BodyLimitsAgree sampleExt
          { config := { sampleValid with maxBodyBytes := 4 }
            hasStore := false }
          { (default : Surroundings) with origin := cutOrigin }
          (lengthRequest [] [Rust.utf8 "12345"]) := by
  have hFails : FailsCutBodies readLimited cutOrigin := by
    intro upstream hCut response hResponse
    rw [cutOrigin, hCut] at hResponse
    cases hResponse
  refine ⟨readLimited_cutsAtLimit, hFails, ?_⟩
  intro hAgree
  have hRefused := hAgree (by decide)
  rcases sample_upstreamUri pageTarget with ⟨uri, hUri⟩
  have hBuilt :=
    (buildUpstreamRequest_ok_iff sampleExt
      { sampleValid with maxBodyBytes := 4 }
      (lengthRequest [] [Rust.utf8 "12345"]) _).mpr
      ⟨none, uri, rfl, by simp, hUri, rfl⟩
  have hError :=
    upstreamError_of_long_body sampleExt
      { config := { sampleValid with maxBodyBytes := 4 }
        hasStore := false }
      { (default : Surroundings) with origin := cutOrigin }
      (lengthRequest [] [Rust.utf8 "12345"])
      readLimited_cutsAtLimit hFails (.inl rfl) (by decide)
      hBuilt
  exact hRefused.uncounted _ hError.2 rfl

end Serving

end AjarGateway
