import AjarGateway.Serving.Handlers

/-
  What a public request is answered.

  Once the replies to its calls are fixed, a handler is a
  function.  `respond` is the answer to a public request
  under given surroundings; a request is either answered
  from the store, for one of four targets, or passed on to
  the origin.

  Key definitions include:
    * `Serving.Surroundings`
    * `Serving.respond`
    * `Serving.storeTarget`
    * `Serving.answerFromStore`
    * `Serving.answerFromOrigin`

  Key theorems include:
    * `Serving.routeRequest_of_target`
    * `Serving.respond_of_target`
    * `Serving.respond_of_no_target`
    * `Serving.respond_without_store`
    * `Serving.performs_answerPublic`
-/

------------------------------------------------------------
-- Surroundings
------------------------------------------------------------

namespace AjarGateway

namespace Serving

open Http Interleaving Store

/- What the calls of one handler are answered. -/
structure Surroundings where
  snapshot : Option PreparedContentStore
  now : Int
  expiryFlagWasClear : Bool
  origin : Request Limited → OriginReply
  loaded :
    Path → Except StoreLoadError PreparedContentStore
  written :
    (PreparedContentStore → Option PreparedContentStore) →
      WriteReply
  counter : Counter → UInt64

/- Surroundings with a poisoned store lock. -/
instance : Inhabited Surroundings where
  default := {
    snapshot := none
    now := 0
    expiryFlagWasClear := false
    origin := fun _ => .failed
    loaded := fun _ => .error .jsonMalformed
    written := fun _ => .poisoned
    counter := fun _ => 0 }

namespace Surroundings

def reply
    (env : Surroundings) : (op : GatewayOp) → op.Reply
| .fetchAdd _ => ()
| .loadCounter counter => env.counter counter
| .readStore => env.snapshot
| .nowUnixSeconds => env.now
| .compareExchangeExpiryLogged => env.expiryFlagWasClear
| .resetExpiryLogged => ()
| .eprintln _ => ()
| .requestOrigin upstream => env.origin upstream
| .loadFromDir storeDir => env.loaded storeDir
| .writeStore update => env.written update
| .dropGuard => ()

/- Every function of replies belongs to some surroundings. -/
theorem exists_reply_eq
    (reply : (op : GatewayOp) → op.Reply) :
    ∃ env : Surroundings, env.reply = reply := by
  refine ⟨{
    snapshot := reply .readStore
    now := reply .nowUnixSeconds
    expiryFlagWasClear := reply .compareExchangeExpiryLogged
    origin := fun upstream => reply (.requestOrigin upstream)
    loaded := fun storeDir => reply (.loadFromDir storeDir)
    written := fun update => reply (.writeStore update)
    counter := fun counter => reply (.loadCounter counter) },
    ?_⟩
  funext op
  cases op <;> rfl

end Surroundings

/- The answer to a public request. -/
def respond
    (lib : Externals)
    (state : ProxyState)
    (env : Surroundings)
    (request : Request Chunks) : Response Body :=
  (answerPublic lib state request).answerWith env.reply

end Serving

end AjarGateway

------------------------------------------------------------
-- Answers From The Store
------------------------------------------------------------

namespace AjarGateway

namespace Serving

open Http Interleaving Store

/- What a store can be asked for. -/
inductive Target where
  | manifest
  | viewIndex
  | viewJson (view : StoredView)
  | viewMarkdown (view : StoredView)
  deriving DecidableEq

namespace Target

/- The entity tag a conditional request is compared with. -/
def etag
    (store : PreparedContentStore) : Target → String
| .manifest => store.manifest.etag
| .viewIndex => store.viewIndex.etag
| .viewJson view => view.view.etag
| .viewMarkdown view => view.view.etag

/- The 200 response for a target. -/
def content
    (lib : Externals)
    (store : PreparedContentStore)
    (now : Int) : Target → Response Body
| .manifest =>
    withHeader lib.http .etag store.manifest.etag
      (withHeader lib.http .cacheControl
        ("max-age=" ++ toString
          (max 0
            (min (store.manifest.expiresAtUnix - now) 3600)))
        (contentResponse "application/json"
          store.manifest.bytes))
| .viewIndex =>
    withHeader lib.http .etag store.viewIndex.etag
      (contentResponse "application/json"
        store.viewIndex.bytes)
| .viewJson view =>
    viewResponse lib view ajarJson view.bytes
| .viewMarkdown view =>
    viewResponse lib view "text/markdown; charset=utf-8"
      (Rust.utf8 (renderMarkdown view))

end Target

/- The view of a GET request and its representation. -/
def viewTarget
    (http : HttpCrate)
    (store : PreparedContentStore)
    (request : Request Chunks) : Option Target :=
  match store.viewForRequestTarget
      (requestTarget request.uri) with
  | none => none
  | some view =>
      match negotiate
          (combinedAcceptHeader http request.headers)
          true with
      | .ajarJson => some (.viewJson view)
      | .markdown => some (.viewMarkdown view)
      | .passthrough => none

/- The target a request is answered from, if any. -/
def storeTarget
    (http : HttpCrate)
    (store : PreparedContentStore)
    (request : Request Chunks) : Option Target :=
  if request.method ≠ .get then
    none
  else if request.uri.path = manifestPath then
    some .manifest
  else if request.uri.path = store.manifest.viewsIndex then
    some .viewIndex
  else
    viewTarget http store request

/- The answer for a target at a time. -/
def answerFromStore
    (lib : Externals)
    (store : PreparedContentStore)
    (now : Int)
    (headers : HeaderMap)
    (target : Target) : Response Body :=
  if store.manifest.expiresAtUnix ≤ now then
    expiredProblem
  else if ifNoneMatchMatches lib.http headers
      (target.etag store) then
    emptyResponse 304
  else
    target.content lib store now

/- The answer to a request that is passed on. -/
def answerFromOrigin
    (lib : Externals)
    (config : ValidatedConfig)
    (linked : Bool)
    (origin : Request Limited → OriginReply)
    (request : Request Chunks) : Response Body :=
  match buildUpstreamRequest lib config request with
  | .error error => error.intoResponse
  | .ok upstream =>
      match origin upstream with
      | .failed => ProxyHttpError.upstream.intoResponse
      | .elapsed =>
          ProxyHttpError.upstreamTimeout.intoResponse
      | .response response =>
          passThrough lib linked response

end Serving

end AjarGateway

------------------------------------------------------------
-- The Answer As A Function
------------------------------------------------------------

namespace AjarGateway

namespace Serving

open Http Interleaving Store

variable (lib : Externals) (state : ProxyState)
variable (env : Surroundings)

@[simp] theorem answerWith_readStore :
    readStore.answerWith env.reply = env.snapshot :=
  rfl

@[simp] theorem answerWith_nowUnixSeconds :
    nowUnixSeconds.answerWith env.reply = env.now :=
  rfl

@[simp] theorem answerWith_requestOrigin
    (upstream : Request Limited) :
    (requestOrigin upstream).answerWith env.reply =
      env.origin upstream :=
  rfl

theorem answerWith_serveManifest
    (store : PreparedContentStore)
    (headers : HeaderMap) :
    (serveManifest lib store headers).answerWith env.reply =
      answerFromStore lib store env.now headers
        .manifest := by
  rw [serveManifest, Program.answerWith_bind,
    answerWith_nowUnixSeconds, answerFromStore]
  by_cases hExpired : store.manifest.expiresAtUnix ≤ env.now
  · simp [hExpired]
  · by_cases hMatches :
        ifNoneMatchMatches lib.http headers
          store.manifest.etag = true
    · simp [hExpired, hMatches, Target.etag]
    · simp [hExpired, hMatches, Target.etag, Target.content]

theorem answerWith_serveUnlessExpired
    (store : PreparedContentStore)
    (headers : HeaderMap)
    (etag : String)
    (response : Response Body) :
    (serveUnlessExpired lib store headers etag
        response).answerWith env.reply =
      if store.manifest.expiresAtUnix ≤ env.now then
        expiredProblem
      else if ifNoneMatchMatches lib.http headers etag then
        emptyResponse 304
      else
        response := by
  rw [serveUnlessExpired, expiredManifestProblem,
    Program.answerWith_bind, Program.answerWith_bind,
    answerWith_nowUnixSeconds]
  by_cases hExpired : store.manifest.expiresAtUnix ≤ env.now
  · simp [hExpired, not_lt.mpr hExpired]
  · rw [if_neg hExpired, if_pos (not_le.mp hExpired)]
    simp only [Program.pure_eq_ret, Program.answerWith_ret]
    split <;> simp

theorem answerWith_serveViewIndex
    (store : PreparedContentStore)
    (headers : HeaderMap) :
    (serveViewIndex lib store headers).answerWith
        env.reply =
      answerFromStore lib store env.now headers
        .viewIndex :=
  answerWith_serveUnlessExpired lib env store headers _ _

theorem answerWith_serveViewJson
    (store : PreparedContentStore)
    (view : StoredView)
    (headers : HeaderMap) :
    (serveViewJson lib store view headers).answerWith
        env.reply =
      answerFromStore lib store env.now headers
        (.viewJson view) :=
  answerWith_serveUnlessExpired lib env store headers _ _

theorem answerWith_serveViewMarkdown
    (store : PreparedContentStore)
    (view : StoredView)
    (headers : HeaderMap) :
    (serveViewMarkdown lib store view headers).answerWith
        env.reply =
      answerFromStore lib store env.now headers
        (.viewMarkdown view) :=
  answerWith_serveUnlessExpired lib env store headers _ _

/- A handler lifted into a fallible one does not fail. -/
theorem answerWith_run_liftM
    {ε α : Type}
    (program : GatewayProgram α) :
    (liftM program :
        Fallible gatewaySignature ε α).run.answerWith
          env.reply =
      .ok (program.answerWith env.reply) := by
  simp

theorem answerWith_forwardToOrigin
    (linked : Bool)
    (request : Request Chunks) :
    (forwardToOrigin lib state linked
        request).run.answerWith env.reply =
      (do
        let upstream ←
          buildUpstreamRequest lib state.config request
        match env.origin upstream with
        | .response response =>
            .ok (passThrough lib linked response)
        | .failed => .error .upstream
        | .elapsed => .error .upstreamTimeout) := by
  simp only [forwardToOrigin, Fallible.answerWith_run_bind,
    Fallible.run_ofExcept, Program.answerWith_ret,
    answerWith_run_liftM, answerWith_requestOrigin]
  cases buildUpstreamRequest lib state.config request with
  | error error => rfl
  | ok upstream =>
      simp only [Rust.ok_bind]
      cases env.origin upstream <;> rfl

theorem respond_eq (request : Request Chunks) :
    respond lib state env request =
      intoAnswer
        ((proxyRequest lib state request).run.answerWith
          env.reply) := by
  rw [respond, answerPublic, Program.answerWith_bind]
  rfl

theorem intoAnswer_forwardToOrigin
    (linked : Bool)
    (request : Request Chunks) :
    intoAnswer
        ((forwardToOrigin lib state linked
          request).run.answerWith env.reply) =
      answerFromOrigin lib state.config linked env.origin
        request := by
  rw [answerWith_forwardToOrigin, answerFromOrigin]
  cases buildUpstreamRequest lib state.config request with
  | error error => rfl
  | ok upstream =>
      simp only [Rust.ok_bind]
      cases env.origin upstream <;> rfl

/- The snapshot a request is routed by. -/
def snapshotOf
    (state : ProxyState)
    (env : Surroundings) :
    Except ProxyHttpError (Option PreparedContentStore) :=
  if state.hasStore then
    match env.snapshot with
    | some store => .ok (some store)
    | none => .error .storeStateUnavailable
  else
    .ok none

theorem answerWith_currentStore :
    (currentStore state).run.answerWith env.reply =
      snapshotOf state env := by
  cases hStore : state.hasStore with
  | false =>
      simp only [currentStore, snapshotOf, hStore]
      rfl
  | true =>
      simp only [currentStore, snapshotOf, hStore, if_true,
        Fallible.answerWith_run_bind, answerWith_run_liftM,
        answerWith_readStore, Rust.ok_bind]
      cases env.snapshot <;> rfl

theorem answerWith_proxyRequest
    (request : Request Chunks) :
    (proxyRequest lib state request).run.answerWith
        env.reply =
      snapshotOf state env >>= fun snapshot =>
        (routeRequest lib state request
          snapshot).run.answerWith env.reply := by
  simp only [proxyRequest, Fallible.answerWith_run_bind,
    answerWith_run_liftM, answerWith_currentStore,
    Rust.ok_bind]

/- The handler of a target. -/
def serveTarget
    (store : PreparedContentStore)
    (headers : HeaderMap) :
    Target → GatewayProgram (Response Body)
| .manifest => serveManifest lib store headers
| .viewIndex => serveViewIndex lib store headers
| .viewJson view => serveViewJson lib store view headers
| .viewMarkdown view =>
    serveViewMarkdown lib store view headers

theorem answerWith_serveTarget
    (store : PreparedContentStore)
    (headers : HeaderMap)
    (target : Target) :
    (serveTarget lib store headers target).answerWith
        env.reply =
      answerFromStore lib store env.now headers target := by
  cases target with
  | manifest => exact answerWith_serveManifest ..
  | viewIndex => exact answerWith_serveViewIndex ..
  | viewJson view => exact answerWith_serveViewJson ..
  | viewMarkdown view =>
      exact answerWith_serveViewMarkdown ..

/- A request that has a target is routed to its handler. -/
theorem routeRequest_of_target
    {store : PreparedContentStore}
    {request : Request Chunks}
    {target : Target}
    (hTarget :
      storeTarget lib.http store request = some target) :
    routeRequest lib state request (some store) =
      liftM (serveTarget lib store request.headers
        target) := by
  simp only [storeTarget, viewTarget] at hTarget
  by_cases hGet : request.method = .get
  · simp only [routeRequest, hGet, true_and, if_true]
    simp only [hGet, ne_eq, not_true_eq_false, if_false]
      at hTarget
    by_cases hManifest : request.uri.path = manifestPath
    · rw [if_pos hManifest] at hTarget ⊢
      cases hTarget
      rfl
    · rw [if_neg hManifest] at hTarget ⊢
      by_cases hIndex :
          request.uri.path = store.manifest.viewsIndex
      · rw [if_pos hIndex] at hTarget ⊢
        cases hTarget
        rfl
      · rw [if_neg hIndex] at hTarget ⊢
        cases hView :
            store.viewForRequestTarget
              (requestTarget request.uri) with
        | none => simp [hView] at hTarget
        | some view =>
            cases hNegotiate :
                negotiate
                  (combinedAcceptHeader lib.http
                    request.headers) true <;>
              simp only [hView, hNegotiate,
                Option.some.injEq, reduceCtorEq] at hTarget
            · subst hTarget
              rfl
            · subst hTarget
              rfl
  · simp [hGet] at hTarget

/- Any other request is forwarded, counted or not. -/
theorem routeRequest_of_no_target
    {store : PreparedContentStore}
    {request : Request Chunks}
    (hTarget : storeTarget lib.http store request = none) :
    routeRequest lib state request (some store) =
        forwardToOrigin lib state true request ∨
      routeRequest lib state request (some store) =
        (do
          increment .negotiationPassthroughTotal
          forwardToOrigin lib state true request) := by
  simp only [storeTarget, viewTarget] at hTarget
  by_cases hGet : request.method = .get
  · simp only [routeRequest, hGet, true_and, if_true]
    simp only [hGet, ne_eq, not_true_eq_false, if_false]
      at hTarget
    by_cases hManifest : request.uri.path = manifestPath
    · simp [hManifest] at hTarget
    · rw [if_neg hManifest] at hTarget ⊢
      by_cases hIndex :
          request.uri.path = store.manifest.viewsIndex
      · simp [hIndex] at hTarget
      · rw [if_neg hIndex] at hTarget ⊢
        cases hView :
            store.viewForRequestTarget
              (requestTarget request.uri) with
        | none => exact .inl rfl
        | some view =>
            cases hNegotiate :
                negotiate
                  (combinedAcceptHeader lib.http
                    request.headers) true <;>
              simp only [hView, hNegotiate, reduceCtorEq]
                at hTarget
            exact .inr rfl
  · left
    simp [routeRequest, hGet]

/- A gateway without a store passes everything on. -/
theorem respond_without_store
    (hStore : state.hasStore = false)
    (request : Request Chunks) :
    respond lib state env request =
      answerFromOrigin lib state.config false env.origin
        request := by
  rw [respond_eq, answerWith_proxyRequest]
  simp only [snapshotOf, hStore]
  exact intoAnswer_forwardToOrigin lib state env false
    request

/- A poisoned store lock is reported. -/
theorem respond_of_poisoned
    (hStore : state.hasStore = true)
    (hSnapshot : env.snapshot = none)
    (request : Request Chunks) :
    respond lib state env request =
      ProxyHttpError.storeStateUnavailable.intoResponse := by
  rw [respond_eq, answerWith_proxyRequest]
  simp only [snapshotOf, hStore, hSnapshot]
  rfl

/- A request that has a target is answered from the store. -/
theorem respond_of_target
    {store : PreparedContentStore}
    {request : Request Chunks}
    {target : Target}
    (hStore : state.hasStore = true)
    (hSnapshot : env.snapshot = some store)
    (hTarget :
      storeTarget lib.http store request = some target) :
    respond lib state env request =
      answerFromStore lib store env.now request.headers
        target := by
  rw [respond_eq, answerWith_proxyRequest]
  simp only [snapshotOf, hStore, hSnapshot, if_true,
    Rust.ok_bind]
  rw [routeRequest_of_target lib state hTarget,
    answerWith_run_liftM, answerWith_serveTarget]
  rfl

/- A request without a target is passed on. -/
theorem respond_of_no_target
    {store : PreparedContentStore}
    {request : Request Chunks}
    (hStore : state.hasStore = true)
    (hSnapshot : env.snapshot = some store)
    (hTarget : storeTarget lib.http store request = none) :
    respond lib state env request =
      answerFromOrigin lib state.config true env.origin
        request := by
  rw [respond_eq, answerWith_proxyRequest]
  simp only [snapshotOf, hStore, hSnapshot, if_true,
    Rust.ok_bind]
  rcases routeRequest_of_no_target lib state hTarget with
    hRoute | hRoute
  · rw [hRoute, intoAnswer_forwardToOrigin]
  · rw [hRoute, Fallible.answerWith_run_bind,
      answerWith_run_liftM, Rust.ok_bind,
      intoAnswer_forwardToOrigin]

end Serving

end AjarGateway

------------------------------------------------------------
-- The Calls Of A Public Request
------------------------------------------------------------

namespace AjarGateway

namespace Serving

open Http Interleaving Store

/-
  The stages in which a public request makes its calls.  The
  operations it never performs are at stage 0.
-/
def GatewayOp.stage : GatewayOp → Nat
| .fetchAdd .requestsTotal => 1
| .readStore => 2
| .fetchAdd .negotiationPassthroughTotal => 3
| .nowUnixSeconds => 3
| .compareExchangeExpiryLogged => 4
| .eprintln _ => 5
| .fetchAdd .manifestServedTotal => 4
| .fetchAdd .viewsServedTotal => 6
| .requestOrigin _ => 4
| .fetchAdd .upstreamErrorsTotal => 5
| _ => 0

variable (lib : Externals) (state : ProxyState)

/- A program of one operation climbs at its stage. -/
theorem climbs_call_ret
    {low high : Nat}
    {α : Type}
    (op : GatewayOp)
    (next : op.Reply → α)
    (hStage : low ≤ op.stage ∧ op.stage < high) :
    (Program.call op fun reply => .ret (next reply) :
        GatewayProgram α).Climbs GatewayOp.stage low high :=
  ⟨hStage, fun _ => trivial⟩

theorem climbs_logManifestExpiredOnce :
    logManifestExpiredOnce.Climbs GatewayOp.stage 4 6 := by
  refine Program.Climbs.bind (by decide : 4 ≤ 5)
    (by decide : 5 ≤ 6) (climbs_call_ret _ _ (by decide)) ?_
  rintro (_ | _)
  · trivial
  · exact climbs_call_ret _ _ (by decide)

theorem climbs_expired :
    (do
      logManifestExpiredOnce
      return expiredProblem).Climbs
        GatewayOp.stage 4 6 :=
  climbs_logManifestExpiredOnce.bind (by decide) le_rfl
    (fun _ => trivial)

theorem climbs_serveManifest
    (store : PreparedContentStore)
    (headers : HeaderMap) :
    (serveManifest lib store headers).Climbs
      GatewayOp.stage 3 7 := by
  apply Program.Climbs.bind (by decide : 3 ≤ 4)
    (by decide : 4 ≤ 7) (climbs_call_ret _ _ (by decide))
  intro now
  split
  · exact climbs_expired.mono le_rfl (by decide)
  · split
    · trivial
    · exact climbs_call_ret _ _ (by decide)

theorem climbs_serveUnlessExpired
    (store : PreparedContentStore)
    (headers : HeaderMap)
    (etag : String)
    (response : Response Body) :
    (serveUnlessExpired lib store headers etag
      response).Climbs GatewayOp.stage 3 7 := by
  refine Program.Climbs.bind (by decide : 3 ≤ 6)
    (by decide : 6 ≤ 7) ?_ ?_
  · apply Program.Climbs.bind (by decide : 3 ≤ 4)
      (by decide : 4 ≤ 6) (climbs_call_ret _ _ (by decide))
    intro now
    split
    · trivial
    · exact climbs_logManifestExpiredOnce.bind (by decide)
        le_rfl (fun _ => trivial)
  · rintro (_ | problem)
    · dsimp only
      split
      · trivial
      · exact climbs_call_ret _ _ (by decide)
    · trivial

theorem climbs_forwardToOrigin
    (linked : Bool)
    (request : Request Chunks) :
    (forwardToOrigin lib state linked request).run.Climbs
      GatewayOp.stage 4 7 := by
  refine Fallible.climbs_run_bind (le_refl 4)
    (by decide : 4 ≤ 7) ?_ ?_
  · rw [Fallible.run_ofExcept]
    trivial
  · intro upstream
    refine Fallible.climbs_run_bind (by decide : 4 ≤ 5)
      (by decide : 5 ≤ 7)
      (climbs_call_ret _ _ ⟨le_refl 4, Nat.lt_succ_self 4⟩)
      ?_
    rintro (response | _ | _)
    · trivial
    · exact climbs_call_ret _ _ (by decide)
    · exact climbs_call_ret _ _ (by decide)

theorem climbs_currentStore :
    (currentStore state).run.Climbs GatewayOp.stage 2 3 := by
  rw [currentStore]
  split
  · apply Fallible.climbs_run_bind (by decide : 2 ≤ 3)
      (le_refl 3) (climbs_call_ret _ _ (by decide))
    rintro (_ | store) <;> trivial
  · trivial

theorem climbs_routeRequest
    (request : Request Chunks)
    (snapshot : Option PreparedContentStore) :
    (routeRequest lib state request snapshot).run.Climbs
      GatewayOp.stage 3 7 := by
  have hForward (linked : Bool) :=
    (climbs_forwardToOrigin lib state linked request).mono
      (by decide : 3 ≤ 4) le_rfl
  have hLift {program : GatewayProgram (Response Body)}
      (hProgram : program.Climbs GatewayOp.stage 3 7) :
      (liftM program :
          Fallible gatewaySignature ProxyHttpError
            (Response Body)).run.Climbs
              GatewayOp.stage 3 7 :=
    hProgram.bind (by decide) le_rfl (fun _ => trivial)
  cases snapshot with
  | none => exact hForward false
  | some store =>
      simp only [routeRequest]
      split
      · exact hLift (climbs_serveManifest lib store _)
      split
      · exact hLift
          (climbs_serveUnlessExpired lib store _ _ _)
      split
      · split
        · exact hForward true
        · split
          · exact hLift
              (climbs_serveUnlessExpired lib store _ _ _)
          · exact hLift
              (climbs_serveUnlessExpired lib store _ _ _)
          · exact Fallible.climbs_run_bind
              (by decide : 3 ≤ 4) (by decide : 4 ≤ 7)
              (climbs_call_ret _ _ (by decide))
              (fun _ =>
                climbs_forwardToOrigin lib state true request)
      · exact hForward true

theorem climbs_proxyRequest (request : Request Chunks) :
    (proxyRequest lib state request).run.Climbs
      GatewayOp.stage 1 7 := by
  apply Fallible.climbs_run_bind (by decide : 1 ≤ 2)
    (by decide : 2 ≤ 7) (climbs_call_ret _ _ (by decide))
  intro _
  exact Fallible.climbs_run_bind (by decide : 2 ≤ 3)
    (by decide : 3 ≤ 7) (climbs_currentStore state)
    (climbs_routeRequest lib state request)

theorem climbs_answerPublic (request : Request Chunks) :
    (answerPublic lib state request).Climbs
      GatewayOp.stage 1 7 := by
  exact (climbs_proxyRequest lib state request).bind
    (by decide) le_rfl (fun _ => trivial)

/- The calls before a request is routed, and after it. -/
theorem callsWith_answerPublic
    (env : Surroundings)
    (request : Request Chunks) :
    (answerPublic lib state request).callsWith env.reply =
      ⟨.fetchAdd .requestsTotal, ()⟩ ::
        ((currentStore state).run.callsWith env.reply ++
          match snapshotOf state env with
          | .ok snapshot =>
              (routeRequest lib state request
                snapshot).run.callsWith env.reply
          | .error _ => []) := by
  rw [answerPublic, Program.callsWith_bind,
    Program.pure_eq_ret, Program.callsWith_ret,
    List.append_nil, proxyRequest,
    Fallible.callsWith_run_bind, answerWith_run_liftM]
  simp only [Fallible.callsWith_run_bind,
    answerWith_currentStore, Fallible.run_liftM]
  cases snapshotOf state env <;> simp [increment]

theorem callsWith_currentStore
    (env : Surroundings)
    (hStore : state.hasStore = true) :
    (currentStore state).run.callsWith env.reply =
      [⟨.readStore, env.snapshot⟩] := by
  rw [currentStore, if_pos hStore,
    Fallible.callsWith_run_bind, answerWith_run_liftM]
  have hRest :
      ((match env.snapshot with
        | some store => pure (some store)
        | none => throw .storeStateUnavailable :
        Fallible gatewaySignature ProxyHttpError
          (Option PreparedContentStore))).run.callsWith
            env.reply =
        [] := by
    cases env.snapshot <;> rfl
  rw [answerWith_readStore]
  exact congrArg (⟨.readStore, env.snapshot⟩ :: ·) hRest

theorem nowUnixSeconds_mem_serveManifest
    (env : Surroundings)
    (store : PreparedContentStore)
    (headers : HeaderMap) :
    ⟨.nowUnixSeconds, env.now⟩ ∈
      (serveManifest lib store headers).callsWith
        env.reply := by
  rw [serveManifest, Program.callsWith_bind]
  exact List.mem_append_left _ (List.mem_singleton_self _)

theorem nowUnixSeconds_mem_serveUnlessExpired
    (env : Surroundings)
    (store : PreparedContentStore)
    (headers : HeaderMap)
    (etag : String)
    (response : Response Body) :
    ⟨.nowUnixSeconds, env.now⟩ ∈
      (serveUnlessExpired lib store headers etag
        response).callsWith env.reply := by
  rw [serveUnlessExpired, expiredManifestProblem,
    Program.callsWith_bind, Program.callsWith_bind]
  exact List.mem_append_left _
    (List.mem_append_left _ (List.mem_singleton_self _))

/- An answer from the store reads the clock. -/
theorem nowUnixSeconds_mem_routeRequest
    (env : Surroundings)
    {store : PreparedContentStore}
    {request : Request Chunks}
    {target : Target}
    (hTarget :
      storeTarget lib.http store request = some target) :
    ⟨.nowUnixSeconds, env.now⟩ ∈
      (routeRequest lib state request
        (some store)).run.callsWith env.reply := by
  rw [routeRequest_of_target lib state hTarget,
    Fallible.run_liftM, Program.callsWith_bind]
  apply List.mem_append_left
  cases target with
  | manifest => exact nowUnixSeconds_mem_serveManifest ..
  | _ => exact nowUnixSeconds_mem_serveUnlessExpired ..

theorem nowUnixSeconds_mem_answerPublic
    (env : Surroundings)
    {store : PreparedContentStore}
    {request : Request Chunks}
    {target : Target}
    (hStore : state.hasStore = true)
    (hSnapshot : env.snapshot = some store)
    (hTarget :
      storeTarget lib.http store request = some target) :
    ⟨.nowUnixSeconds, env.now⟩ ∈
      (answerPublic lib state request).callsWith
        env.reply := by
  rw [callsWith_answerPublic]
  simp only [snapshotOf, hStore, hSnapshot, if_true]
  exact List.mem_cons_of_mem _
    (List.mem_append_right _
      (nowUnixSeconds_mem_routeRequest lib state env
        hTarget))

/-
  A public request that was answered got the answer of some
  surroundings, and made exactly the calls they answer.
-/
theorem performs_answerPublic
    {request : Request Chunks}
    {calls : List (Call gatewaySignature)}
    {answer : Response Body}
    (hPerforms :
      Performs (answerPublic lib state request) calls
        (.ret answer)) :
    ∃ env : Surroundings,
      (∀ call ∈ calls, call.reply = env.reply call.op) ∧
        answer = respond lib state env request ∧
          calls =
            (answerPublic lib state request).callsWith
              env.reply := by
  rcases hPerforms.exists_reply (default : Surroundings).reply
      (climbs_answerPublic lib state request) with
    ⟨reply, hReplies, hAnswer, hCalls⟩
  rcases Surroundings.exists_reply_eq reply with ⟨env, rfl⟩
  exact ⟨env, hReplies, hAnswer, hCalls⟩

end Serving

end AjarGateway
