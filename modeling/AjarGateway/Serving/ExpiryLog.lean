import AjarGateway.Serving.Metrics

/-
  How a handler logs that its store has expired.

  A public request that finds its store expired exchanges the
  expiry flag once, and writes the event exactly if the flag
  was clear.  No other handler does either.

  Key definitions include:
    * `Serving.logsExpiry`
    * `Serving.expiredCalls`
    * `Serving.Unexpired`

  Key theorems include:
    * `Serving.expired_or_unexpired`
-/

------------------------------------------------------------
-- The Calls Of An Expired Request
------------------------------------------------------------

namespace AjarGateway

namespace Serving

open Http Interleaving Store

/- The line reports an expired manifest. -/
def LogLine.reportsExpiry (line : LogLine) : Bool :=
  line.event == "ajar_manifest_expired"

/- The call writes a line that reports it. -/
def logsExpiry : Call gatewaySignature → Bool
| ⟨.eprintln line, _⟩ => line.reportsExpiry
| _ => false

/- The calls of a request that finds its store expired. -/
def expiredCalls
    (store : PreparedContentStore)
    (now : Int)
    (flagWasClear : Bool) : List (Call gatewaySignature) :=
  ⟨.fetchAdd .requestsTotal, ()⟩ ::
    ⟨.readStore, some store⟩ ::
      ⟨.nowUnixSeconds, now⟩ :: expiryCalls flagWasClear

/- The calls of a handler that finds no expired store. -/
structure Unexpired
    (calls : List (Call gatewaySignature)) : Prop where
  exchange : ∀ flagWasClear,
    ⟨.compareExchangeExpiryLogged, flagWasClear⟩ ∉ calls
  line : ∀ call ∈ calls, logsExpiry call = false
  fresh : ∀ (store : PreparedContentStore) (now : Int),
    ⟨.readStore, some store⟩ ∈ calls →
      ⟨.nowUnixSeconds, now⟩ ∈ calls →
        now < store.manifest.expiresAtUnix

theorem Unexpired.earlier
    {calls more : List (Call gatewaySignature)}
    (hUnexpired : Unexpired (calls ++ more)) :
    Unexpired calls where
  exchange flagWasClear hCall :=
    hUnexpired.exchange flagWasClear
      (List.mem_append_left _ hCall)
  line call hCall :=
    hUnexpired.line call (List.mem_append_left _ hCall)
  fresh store now hRead hClock :=
    hUnexpired.fresh store now
      (List.mem_append_left _ hRead)
      (List.mem_append_left _ hClock)

/- The operation is one that a request logs expiry with. -/
def GatewayOp.concernsExpiry : GatewayOp → Bool
| .nowUnixSeconds => true
| .compareExchangeExpiryLogged => true
| .eprintln line => line.reportsExpiry
| _ => false

/- Calls that do not concern expiry. -/
theorem unexpired_of_unconcerned
    {calls : List (Call gatewaySignature)}
    (hNone : ∀ call ∈ calls,
      GatewayOp.concernsExpiry call.op = false) :
    Unexpired calls where
  exchange flagWasClear hCall := by
    cases hNone _ hCall
  line := by
    rintro ⟨op, reply⟩ hCall
    have hOp := hNone _ hCall
    cases op with
    | eprintln line => exact hOp
    | _ => rfl
  fresh store now _ hClock := by
    cases hNone _ hClock

variable (lib : Externals) (state : ProxyState)
variable (env : Surroundings) (request : Request Chunks)

theorem unconcerned_forwardToOrigin
    (linked : Bool)
    {call : Call gatewaySignature}
    (hCall :
      call ∈
        (forwardToOrigin lib state linked
          request).run.callsWith env.reply) :
    GatewayOp.concernsExpiry call.op = false := by
  rw [callsWith_forwardToOrigin] at hCall
  cases hBuild :
      buildUpstreamRequest lib state.config request with
  | error error =>
      rw [hBuild] at hCall
      cases hCall
  | ok upstream =>
      rw [hBuild] at hCall
      rcases List.mem_cons.mp hCall with rfl | hCall
      · rfl
      · split at hCall
        · cases hCall
        · rw [List.mem_singleton] at hCall
          subst hCall
          rfl

theorem unconcerned_routingCalls
    {first : List (Call gatewaySignature)}
    (hFirst : RoutingCalls first) :
    ∀ call ∈ first,
      GatewayOp.concernsExpiry call.op = false := by
  cases hFirst <;> simp [GatewayOp.concernsExpiry]

theorem unexpired_of_passedOn
    (hPassed : PassedOn lib state env request) :
    Unexpired
      ((answerPublic lib state request).callsWith
        env.reply) := by
  rcases respond_of_passedOn lib state env request hPassed
    with ⟨linked, first, _, hCalls, hFirst⟩
  apply unexpired_of_unconcerned
  rw [hCalls]
  intro call hCall
  rcases List.mem_append.mp hCall with hCall | hCall
  · exact unconcerned_routingCalls hFirst call hCall
  · exact unconcerned_forwardToOrigin lib state env request
      linked hCall

/- The calls of a request whose store has not expired. -/
theorem unexpired_of_fresh
    {store : PreparedContentStore}
    {target : Target}
    (hStore : state.hasStore = true)
    (hSnapshot : env.snapshot = some store)
    (hTarget :
      storeTarget lib.http store request = some target)
    (hFresh : env.now < store.manifest.expiresAtUnix) :
    Unexpired
      ((answerPublic lib state request).callsWith
        env.reply) := by
  rw [callsWith_of_target lib state env hStore hSnapshot
    hTarget, servingCalls, if_neg (by omega)]
  constructor
  · intro flagWasClear
    split <;> simp
  · split <;> simp [logsExpiry]
  · intro other now hRead hClock
    have hOther : other = store := by
      split at hRead <;> simpa using hRead
    have hNow : now = env.now := by
      split at hClock <;> simpa using hClock
    rw [hOther, hNow]
    exact hFresh

/- An answered request is of one of two kinds. -/
theorem expired_or_unexpired :
    (∃ store flagWasClear,
      store.manifest.expiresAtUnix ≤ env.now ∧
        (answerPublic lib state request).callsWith
            env.reply =
          expiredCalls store env.now flagWasClear) ∨
      Unexpired
        ((answerPublic lib state request).callsWith
          env.reply) := by
  rcases request_cases lib state env request with
    ⟨hStore, hSnapshot⟩ |
      ⟨store, target, hStore, hSnapshot, hTarget⟩ | hPassed
  · right
    apply unexpired_of_unconcerned
    rw [callsWith_of_poisoned lib state env hStore hSnapshot]
    simp [GatewayOp.concernsExpiry]
  · by_cases hExpired :
        store.manifest.expiresAtUnix ≤ env.now
    · left
      refine ⟨store, env.expiryFlagWasClear, hExpired, ?_⟩
      rw [callsWith_of_target lib state env hStore hSnapshot
        hTarget, servingCalls, if_pos hExpired]
      rfl
    · exact .inr (unexpired_of_fresh lib state env request
        hStore hSnapshot hTarget (by omega))
  · exact .inr
      (unexpired_of_passedOn lib state env request hPassed)

end Serving

end AjarGateway

------------------------------------------------------------
-- The Other Handlers
------------------------------------------------------------

namespace AjarGateway

namespace Serving

open Http Interleaving Store

theorem unconcerned_of_exit
    {state : ProxyState}
    {calls : List (Call gatewaySignature)}
    {answer : Response Body}
    (hExit : ReloadExit state calls answer) :
    ∀ call ∈ calls,
      GatewayOp.concernsExpiry call.op = false := by
  cases hExit <;>
    simp [failureCalls, GatewayOp.concernsExpiry,
      LogLine.reportsExpiry]

/- What any handler has done about expiry at some point. -/
theorem expiry_of_performs
    (lib : Externals)
    (state : ProxyState)
    {incoming : Incoming}
    {calls : List (Call gatewaySignature)}
    {rest : GatewayProgram (Response Body)}
    (hPerforms :
      Performs (handle lib state incoming) calls rest) :
    (∃ store now flagWasClear more answer,
      store.manifest.expiresAtUnix ≤ now ∧
        calls ++ more =
            expiredCalls store now flagWasClear ∧
          Performs rest more (.ret answer)) ∨
      Unexpired calls := by
  cases incoming with
  | publicRequest request =>
      rcases exists_completion lib state request hPerforms
        with ⟨env, more, hCalls, hRest⟩
      rcases expired_or_unexpired lib state env request with
        ⟨store, flagWasClear, hExpired, hWhole⟩ | hUnexpired
      · exact .inl ⟨store, env.now, flagWasClear, more, _,
          hExpired, hCalls.trans hWhole, hRest⟩
      · rw [← hCalls] at hUnexpired
        exact .inr hUnexpired.earlier
  | reload =>
      have hWhole :=
        hPerforms.extend (default : Surroundings).reply
      right
      apply Unexpired.earlier
      exact unexpired_of_unconcerned
        (unconcerned_of_exit (exit_of_performs hWhole))
  | metrics =>
      have hWhole :=
        hPerforms.extend (default : Surroundings).reply
      rcases performs_metricsEndpoint hWhole with
        ⟨values, hCalls, _⟩
      right
      apply Unexpired.earlier
      rw [hCalls]
      apply unexpired_of_unconcerned
      intro call hCall
      rcases List.mem_map.mp hCall with ⟨_, _, rfl⟩
      rfl
  | healthz =>
      right
      rw [((performs_ret_iff _ _ _).mp hPerforms).1]
      exact unexpired_of_unconcerned (by simp)

end Serving

end AjarGateway
