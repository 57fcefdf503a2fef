import AjarGateway.Interleaving.Counting
import AjarGateway.Serving.Content

/-
  The calls of a public request, listed.

  A request finds the lock of the store poisoned, is served
  from the store, or is passed on to the origin.  In each of
  these cases its calls are written out, up to the replies
  that they get.

  Key definitions include:
    * `Serving.PassedOn`
    * `Serving.expiryLine`
    * `Serving.RoutingCalls`

  Key theorems include:
    * `Serving.request_cases`
    * `Serving.callsWith_of_target`
    * `Serving.respond_of_passedOn`
    * `Serving.exists_completion`
-/

------------------------------------------------------------
-- Three Kinds Of Requests
------------------------------------------------------------

namespace AjarGateway

namespace Serving

open Http Interleaving Store

variable (lib : Externals) (state : ProxyState)
variable (env : Surroundings) (request : Request Chunks)

/- The request is not answered from a store. -/
def PassedOn : Prop :=
  state.hasStore = false ∨
    ∃ store,
      env.snapshot = some store ∧
        storeTarget lib.http store request = none

/- A request is of one of three kinds. -/
theorem request_cases :
    (state.hasStore = true ∧ env.snapshot = none) ∨
      (∃ store target,
        state.hasStore = true ∧
          env.snapshot = some store ∧
            storeTarget lib.http store request =
              some target) ∨
        PassedOn lib state env request := by
  cases hStore : state.hasStore with
  | false => exact .inr (.inr (.inl hStore))
  | true =>
      cases hSnapshot : env.snapshot with
      | none => exact .inl ⟨rfl, rfl⟩
      | some store =>
          right
          cases hTarget :
              storeTarget lib.http store request with
          | some target =>
              exact .inl ⟨store, target, rfl, rfl, hTarget⟩
          | none =>
              exact .inr (.inr ⟨store, hSnapshot, hTarget⟩)

end Serving

end AjarGateway

------------------------------------------------------------
-- Requests Served From The Store
------------------------------------------------------------

namespace AjarGateway

namespace Serving

open Http Interleaving Store

/- The counter of a target. -/
def Target.counter : Target → Counter
| .manifest => .manifestServedTotal
| _ => .viewsServedTotal

/- The log line written once the manifest has expired. -/
def expiryLine : LogLine :=
  ⟨"error", "ajar_manifest_expired",
    [("code", .string "AJAR-VERIFY-EXPIRED")]⟩

/- The calls of the handler that finds an expired manifest. -/
def expiryCalls
    (flagWasClear : Bool) : List (Call gatewaySignature) :=
  ⟨.compareExchangeExpiryLogged, flagWasClear⟩ ::
    if flagWasClear then [⟨.eprintln expiryLine, ()⟩] else []

variable (lib : Externals) (state : ProxyState)
variable (env : Surroundings)

theorem callsWith_logManifestExpiredOnce :
    logManifestExpiredOnce.callsWith env.reply =
      expiryCalls env.expiryFlagWasClear := by
  have hReply :
      compareExchangeExpiryLogged.answerWith env.reply =
        env.expiryFlagWasClear :=
    rfl
  have hCall :
      compareExchangeExpiryLogged.callsWith env.reply =
        [⟨.compareExchangeExpiryLogged,
          env.expiryFlagWasClear⟩] :=
    rfl
  rw [logManifestExpiredOnce, Program.callsWith_bind,
    hReply, hCall]
  cases env.expiryFlagWasClear <;> rfl

/- The calls after the clock has been read. -/
def servingCalls
    (store : PreparedContentStore)
    (headers : HeaderMap)
    (target : Target) : List (Call gatewaySignature) :=
  if store.manifest.expiresAtUnix ≤ env.now then
    expiryCalls env.expiryFlagWasClear
  else if ifNoneMatchMatches lib.http headers
      (target.etag store) then
    []
  else
    [⟨.fetchAdd target.counter, ()⟩]

theorem callsWith_serveManifest
    (store : PreparedContentStore)
    (headers : HeaderMap) :
    (serveManifest lib store headers).callsWith env.reply =
      ⟨.nowUnixSeconds, env.now⟩ ::
        servingCalls lib env store headers .manifest := by
  rw [serveManifest, Program.callsWith_bind,
    answerWith_nowUnixSeconds, servingCalls]
  show _ :: _ = _
  congr 1
  by_cases hExpired : store.manifest.expiresAtUnix ≤ env.now
  · simp only [hExpired, if_true, Program.callsWith_bind,
      callsWith_logManifestExpiredOnce, Program.pure_eq_ret,
      Program.callsWith_ret, List.append_nil]
    rfl
  · by_cases hMatches :
        ifNoneMatchMatches lib.http headers
          store.manifest.etag = true
    · simp [hExpired, hMatches, Target.etag]
    · simp only [hExpired, hMatches, Target.etag, if_false]
      rfl

theorem callsWith_serveUnlessExpired
    (store : PreparedContentStore)
    (headers : HeaderMap)
    (target : Target)
    (response : Response Body)
    (hTarget : target.counter = .viewsServedTotal) :
    (serveUnlessExpired lib store headers
        (target.etag store) response).callsWith env.reply =
      ⟨.nowUnixSeconds, env.now⟩ ::
        servingCalls lib env store headers target := by
  rw [serveUnlessExpired, expiredManifestProblem,
    Program.callsWith_bind, Program.callsWith_bind,
    Program.answerWith_bind, answerWith_nowUnixSeconds,
    servingCalls, hTarget]
  by_cases hExpired : store.manifest.expiresAtUnix ≤ env.now
  · simp only [hExpired, if_true, gt_iff_lt,
      not_lt.mpr hExpired, if_false, Program.callsWith_bind,
      callsWith_logManifestExpiredOnce, Program.pure_eq_ret,
      Program.callsWith_ret, Program.answerWith_bind,
      Program.answerWith_ret, List.append_nil]
    rfl
  · by_cases hMatches :
        ifNoneMatchMatches lib.http headers
          (target.etag store) = true
    · simp only [hExpired, hMatches, gt_iff_lt,
        not_le.mp hExpired, if_true, if_false,
        Program.pure_eq_ret, Program.callsWith_ret,
        Program.answerWith_ret]
      rfl
    · simp only [hExpired, hMatches, gt_iff_lt,
        not_le.mp hExpired, if_true, if_false,
        Program.pure_eq_ret, Program.answerWith_ret]
      rfl

theorem callsWith_serveTarget
    (store : PreparedContentStore)
    (headers : HeaderMap)
    (target : Target) :
    (serveTarget lib store headers target).callsWith
        env.reply =
      ⟨.nowUnixSeconds, env.now⟩ ::
        servingCalls lib env store headers target := by
  cases target with
  | manifest => exact callsWith_serveManifest ..
  | viewIndex =>
      exact callsWith_serveUnlessExpired lib env store
        headers .viewIndex _ rfl
  | viewJson view =>
      exact callsWith_serveUnlessExpired lib env store
        headers (.viewJson view) _ rfl
  | viewMarkdown view =>
      exact callsWith_serveUnlessExpired lib env store
        headers (.viewMarkdown view) _ rfl

/- The calls of a request that has a target. -/
theorem callsWith_of_target
    {store : PreparedContentStore}
    {request : Request Chunks}
    {target : Target}
    (hStore : state.hasStore = true)
    (hSnapshot : env.snapshot = some store)
    (hTarget :
      storeTarget lib.http store request = some target) :
    (answerPublic lib state request).callsWith env.reply =
      ⟨.fetchAdd .requestsTotal, ()⟩ ::
        ⟨.readStore, some store⟩ ::
          ⟨.nowUnixSeconds, env.now⟩ ::
            servingCalls lib env store request.headers
              target := by
  rw [callsWith_answerPublic,
    callsWith_currentStore state env hStore, hSnapshot]
  simp only [snapshotOf, hStore, hSnapshot, if_true]
  rw [routeRequest_of_target lib state hTarget,
    Fallible.run_liftM, Program.callsWith_bind,
    callsWith_serveTarget]
  simp

/- The calls of a request that cannot read the store. -/
theorem callsWith_of_poisoned
    (hStore : state.hasStore = true)
    (hSnapshot : env.snapshot = none)
    (request : Request Chunks) :
    (answerPublic lib state request).callsWith env.reply =
      [⟨.fetchAdd .requestsTotal, ()⟩,
        ⟨.readStore, none⟩] := by
  rw [callsWith_answerPublic,
    callsWith_currentStore state env hStore, hSnapshot]
  simp [snapshotOf, hStore, hSnapshot]

end Serving

end AjarGateway

------------------------------------------------------------
-- Requests That Are Passed On
------------------------------------------------------------

namespace AjarGateway

namespace Serving

open Http Interleaving Store

variable (lib : Externals) (state : ProxyState)
variable (env : Surroundings) (request : Request Chunks)

/- What a forwarded request calls. -/
theorem callsWith_forwardToOrigin (linked : Bool) :
    (forwardToOrigin lib state linked
        request).run.callsWith env.reply =
      match
          buildUpstreamRequest lib state.config request with
      | .error _ => []
      | .ok upstream =>
          ⟨.requestOrigin upstream, env.origin upstream⟩ ::
            match env.origin upstream with
            | .response _ => []
            | _ =>
                [⟨.fetchAdd .upstreamErrorsTotal, ()⟩] := by
  rw [forwardToOrigin, Fallible.callsWith_run_bind,
    Fallible.run_ofExcept, Program.callsWith_ret,
    Program.answerWith_ret, List.nil_append]
  cases buildUpstreamRequest lib state.config request with
  | error error => rfl
  | ok upstream =>
      have hCall :
          (liftM (requestOrigin upstream) :
              Fallible gatewaySignature ProxyHttpError
                OriginReply).run.callsWith env.reply =
            [⟨.requestOrigin upstream,
              env.origin upstream⟩] :=
        rfl
      simp only [Fallible.callsWith_run_bind,
        answerWith_run_liftM, answerWith_requestOrigin, hCall]
      cases env.origin upstream <;> rfl

/- The calls of a request before it is forwarded. -/
inductive RoutingCalls :
    List (Call gatewaySignature) → Prop where
  | withoutStore :
      RoutingCalls [⟨.fetchAdd .requestsTotal, ()⟩]
  | unrouted (store : PreparedContentStore) :
      RoutingCalls
        [⟨.fetchAdd .requestsTotal, ()⟩,
          ⟨.readStore, some store⟩]
  | passedThrough (store : PreparedContentStore) :
      RoutingCalls
        [⟨.fetchAdd .requestsTotal, ()⟩,
          ⟨.readStore, some store⟩,
          ⟨.fetchAdd .negotiationPassthroughTotal, ()⟩]

/- The answer and the calls of a request that is passed on. -/
theorem respond_of_passedOn
    (hPassed : PassedOn lib state env request) :
    ∃ linked first,
      respond lib state env request =
          answerFromOrigin lib state.config linked
            env.origin request ∧
        (answerPublic lib state request).callsWith
            env.reply =
          first ++
            (forwardToOrigin lib state linked
              request).run.callsWith env.reply ∧
          RoutingCalls first := by
  cases hStore : state.hasStore with
  | false =>
      refine ⟨false, [⟨.fetchAdd .requestsTotal, ()⟩],
        respond_without_store lib state env hStore request,
        ?_, .withoutStore⟩
      rw [callsWith_answerPublic]
      simp only [snapshotOf, currentStore, hStore]
      rfl
  | true =>
      have hSome :
          ∃ store,
            env.snapshot = some store ∧
              storeTarget lib.http store request = none := by
        rcases hPassed with hNone | hSome
        · rw [hStore] at hNone
          cases hNone
        · exact hSome
      rcases hSome with ⟨store, hSnapshot, hTarget⟩
      have hCalls := callsWith_answerPublic lib state env
        request
      rw [callsWith_currentStore state env hStore] at hCalls
      simp only [snapshotOf, hStore, hSnapshot, if_true]
        at hCalls
      have hRespond := respond_of_no_target lib state env
        hStore hSnapshot hTarget
      rcases routeRequest_of_no_target lib state hTarget with
        hRoute | hRoute
      · refine ⟨true, _, hRespond, ?_, .unrouted store⟩
        rw [hCalls, hRoute]
        rfl
      · refine ⟨true, _, hRespond, ?_, .passedThrough store⟩
        rw [hCalls, hRoute, Fallible.callsWith_run_bind,
          answerWith_run_liftM]
        rfl

/-
  A public request that has stopped half-way has made the
  first calls of one that is answered.
-/
theorem exists_completion
    {calls : List (Call gatewaySignature)}
    {rest : GatewayProgram (Response Body)}
    (hPerforms :
      Performs (answerPublic lib state request) calls
        rest) :
    ∃ (env : Surroundings)
      (more : List (Call gatewaySignature)),
      calls ++ more =
          (answerPublic lib state request).callsWith
            env.reply ∧
        Performs rest more
          (.ret (respond lib state env request)) := by
  have hRest := performs_callsWith
    (default : Surroundings).reply rest
  rcases performs_answerPublic lib state
      (hPerforms.append hRest) with
    ⟨env, _, hAnswer, hCalls⟩
  refine ⟨env, _, hCalls, ?_⟩
  rw [← hAnswer]
  exact hRest

end Serving

end AjarGateway
