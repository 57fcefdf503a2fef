import AjarGateway.Serving.Calls
import AjarGateway.Serving.Reloads

/-
  What a handler adds to the counters.

  A public request first adds to the request counter.  It
  then adds to at most one of the counters of its outcome,
  before the last of its calls when it is passed through,
  and with its last call otherwise.  A reload counts its
  outcome once.

  Key definitions include:
    * `Serving.added`
    * `Serving.PublicCounts`
    * `Serving.ReloadCounts`

  Key theorems include:
    * `Serving.publicCounts_of_performs`
    * `Serving.addedServed_eq_one_iff`
    * `Serving.reloadCounts_of_exit`
-/

------------------------------------------------------------
-- Increments
------------------------------------------------------------

namespace AjarGateway

namespace Serving

open Http Interleaving Store

/- The operation increments the counter. -/
def GatewayOp.adds (counter : Counter) : GatewayOp → Bool
| .fetchAdd other => counter == other
| _ => false

/- What calls add to a counter. -/
def added
    (counter : Counter)
    (calls : List (Call gatewaySignature)) : Nat :=
  calls.countP fun call => GatewayOp.adds counter call.op

variable (counter : Counter)

@[simp] theorem added_nil : added counter [] = 0 :=
  rfl

@[simp] theorem added_cons
    (call : Call gatewaySignature)
    (calls : List (Call gatewaySignature)) :
    added counter (call :: calls) =
      (if GatewayOp.adds counter call.op = true then 1
        else 0) + added counter calls := by
  rw [added, List.countP_cons, Nat.add_comm, added]

@[simp] theorem added_append
    (first second : List (Call gatewaySignature)) :
    added counter (first ++ second) =
      added counter first + added counter second :=
  List.countP_append

end Serving

end AjarGateway

------------------------------------------------------------
-- Public Requests
------------------------------------------------------------

namespace AjarGateway

namespace Serving

open Http Interleaving Store

/- What the calls of a public request add, at any time. -/
structure PublicCounts
    (calls : List (Call gatewaySignature)) : Prop where
  requests :
    added .requestsTotal calls =
      if calls.isEmpty then 0 else 1
  outcomes :
    added .manifestServedTotal calls +
        added .viewsServedTotal calls +
          added .negotiationPassthroughTotal calls ≤
      added .requestsTotal calls
  answers :
    added .manifestServedTotal calls +
        added .viewsServedTotal calls +
          added .upstreamErrorsTotal calls ≤
      added .requestsTotal calls
  reloads :
    added .storeReloadsTotal calls = 0 ∧
      added .storeReloadFailuresTotal calls = 0

/- An earlier point of the same calls adds less. -/
theorem PublicCounts.earlier
    {calls more : List (Call gatewaySignature)}
    (hCounts : PublicCounts (calls ++ more))
    (hHead :
      (calls ++ more).head?.map Call.op =
        some (.fetchAdd .requestsTotal)) :
    PublicCounts calls := by
  rcases hCounts with
    ⟨hRequests, hOutcomes, hAnswers, hReloads⟩
  rw [added_append] at hRequests
  simp only [added_append] at hOutcomes hAnswers hReloads
  cases calls with
  | nil => constructor <;> simp
  | cons call rest =>
      have hCall : call.op = .fetchAdd .requestsTotal := by
        simpa using hHead
      have hOne :
          1 ≤ added .requestsTotal (call :: rest) := by
        rw [added_cons, hCall]
        exact Nat.le_add_right 1 _
      simp only [List.cons_append, List.isEmpty_cons,
        Bool.false_eq_true, if_false] at hRequests
      constructor
      · simp only [List.isEmpty_cons, Bool.false_eq_true,
          if_false]
        omega
      · omega
      · omega
      · omega

variable (lib : Externals) (state : ProxyState)
variable (env : Surroundings) (request : Request Chunks)

/- Serving adds to the counter of the target, at most. -/
theorem added_servingCalls
    (store : PreparedContentStore)
    (headers : HeaderMap)
    (target : Target)
    (counter : Counter) :
    added counter (servingCalls lib env store headers target) =
      if counter = target.counter ∧
          (answerFromStore lib store env.now headers
            target).status = 200 then 1
      else 0 := by
  unfold servingCalls answerFromStore
  by_cases hExpired : store.manifest.expiresAtUnix ≤ env.now
  · rw [if_pos hExpired, if_pos hExpired]
    cases env.expiryFlagWasClear <;>
      simp [expiryCalls, GatewayOp.adds]
  · rw [if_neg hExpired, if_neg hExpired]
    by_cases hMatches :
        ifNoneMatchMatches lib.http headers
          (target.etag store) = true
    · rw [if_pos hMatches, if_pos hMatches]
      simp
    · rw [if_neg hMatches, if_neg hMatches]
      simp [GatewayOp.adds]

/- Forwarding adds to the upstream errors, at most. -/
theorem added_forwardToOrigin
    (linked : Bool)
    (counter : Counter) :
    added counter
        ((forwardToOrigin lib state linked
          request).run.callsWith env.reply) ≤
      if counter = .upstreamErrorsTotal then 1 else 0 := by
  rw [callsWith_forwardToOrigin]
  split
  · exact Nat.zero_le _
  · split
    · simp [GatewayOp.adds]
    · simp [GatewayOp.adds]

theorem publicCounts_callsWith :
    PublicCounts
      ((answerPublic lib state request).callsWith
        env.reply) := by
  rcases request_cases lib state env request with
    ⟨hStore, hSnapshot⟩ |
      ⟨store, target, hStore, hSnapshot, hTarget⟩ | hPassed
  · rw [callsWith_of_poisoned lib state env hStore hSnapshot]
    constructor <;> decide
  · rw [callsWith_of_target lib state env hStore hSnapshot
      hTarget]
    have hServing := added_servingCalls lib env store
      request.headers target
    constructor <;>
      cases target <;>
      simp [GatewayOp.adds, hServing, Target.counter] <;>
      split <;> decide
  · rcases respond_of_passedOn lib state env request hPassed
      with ⟨linked, first, _, hCalls, hFirst⟩
    have hForward := added_forwardToOrigin lib state env
      request linked
    have hErrors := hForward .upstreamErrorsTotal
    rw [if_pos rfl] at hErrors
    have hOthers (counter : Counter)
        (hNe : counter ≠ .upstreamErrorsTotal) :
        added counter
            ((forwardToOrigin lib state linked
              request).run.callsWith env.reply) =
          0 := by
      have hLe := hForward counter
      rw [if_neg hNe] at hLe
      exact Nat.le_zero.mp hLe
    rw [hCalls]
    cases hFirst <;> constructor <;>
      simp [GatewayOp.adds, hOthers] <;> omega

/- What a public request has added at any of its points. -/
theorem publicCounts_of_performs
    {calls : List (Call gatewaySignature)}
    {rest : GatewayProgram (Response Body)}
    (hPerforms :
      Performs (answerPublic lib state request) calls
        rest) :
    PublicCounts calls := by
  rcases exists_completion lib state request hPerforms with
    ⟨env, more, hCalls, _⟩
  have hWhole : PublicCounts (calls ++ more) := by
    rw [hCalls]
    exact publicCounts_callsWith lib state env request
  apply hWhole.earlier
  rw [hCalls, callsWith_answerPublic]
  rfl

end Serving

end AjarGateway

------------------------------------------------------------
-- Answers From The Store
------------------------------------------------------------

namespace AjarGateway

namespace Serving

open Http Interleaving Store

/- What calls add to the two counters of served content. -/
def addedServed
    (calls : List (Call gatewaySignature)) : Nat :=
  added .manifestServedTotal calls +
    added .viewsServedTotal calls

@[simp] theorem addedServed_append
    (first second : List (Call gatewaySignature)) :
    addedServed (first ++ second) =
      addedServed first + addedServed second := by
  unfold addedServed
  rw [added_append, added_append]
  omega

variable (lib : Externals) (state : ProxyState)
variable (env : Surroundings) (request : Request Chunks)

/- The request is answered 200 from the store it has read. -/
def ServedOk : Prop :=
  ∃ store target,
    state.hasStore = true ∧ env.snapshot = some store ∧
      storeTarget lib.http store request = some target ∧
        (respond lib state env request).status = 200

/- A request that is passed on adds to neither counter. -/
theorem addedServed_of_passedOn
    (hPassed : PassedOn lib state env request) :
    addedServed
        ((answerPublic lib state request).callsWith
          env.reply) =
      0 := by
  rcases respond_of_passedOn lib state env request hPassed
    with ⟨linked, first, _, hCalls, hFirst⟩
  have hManifest := added_forwardToOrigin lib state env
    request linked .manifestServedTotal
  have hViews := added_forwardToOrigin lib state env request
    linked .viewsServedTotal
  rw [if_neg (by decide)] at hManifest hViews
  unfold addedServed
  rw [hCalls]
  cases hFirst <;> simp [GatewayOp.adds] <;> omega

/- Serving a target adds to the two counters as answered. -/
theorem addedServed_servingCalls
    (store : PreparedContentStore)
    (headers : HeaderMap)
    (target : Target) :
    addedServed (servingCalls lib env store headers target) =
      if (answerFromStore lib store env.now headers
          target).status = 200 then 1
      else 0 := by
  unfold addedServed
  rw [added_servingCalls, added_servingCalls]
  cases target <;> simp [Target.counter]

/- The counters of served content count answers of 200. -/
theorem addedServed_eq_one_iff :
    addedServed
          ((answerPublic lib state request).callsWith
            env.reply) =
        1 ↔
      ServedOk lib state env request := by
  rcases request_cases lib state env request with
    ⟨hStore, hSnapshot⟩ |
      ⟨store, target, hStore, hSnapshot, hTarget⟩ | hPassed
  · rw [callsWith_of_poisoned lib state env hStore hSnapshot]
    apply iff_of_false (by decide)
    rintro ⟨_, _, _, hSome, _⟩
    rw [hSnapshot] at hSome
    cases hSome
  · have hFirst :
        addedServed
            ((answerPublic lib state request).callsWith
              env.reply) =
          addedServed (servingCalls lib env store
            request.headers target) := by
      rw [callsWith_of_target lib state env hStore hSnapshot
        hTarget]
      simp [addedServed, GatewayOp.adds]
    rw [hFirst, addedServed_servingCalls]
    have hRespond := respond_of_target lib state env hStore
      hSnapshot hTarget
    rw [← hRespond]
    constructor
    · intro hOne
      refine ⟨store, target, hStore, hSnapshot, hTarget, ?_⟩
      by_contra hStatus
      rw [if_neg hStatus] at hOne
      cases hOne
    · rintro ⟨_, _, _, _, _, hStatus⟩
      rw [if_pos hStatus]
  · rw [addedServed_of_passedOn lib state env request hPassed]
    apply iff_of_false (by decide)
    rintro ⟨store, target, hStore, hSnapshot, hTarget, _⟩
    rcases hPassed with hNone | ⟨other, hOther, hNone⟩
    · rw [hStore] at hNone
      cases hNone
    · rw [hSnapshot] at hOther
      cases hOther
      rw [hTarget] at hNone
      cases hNone

/- The call that counts served content is the last one. -/
theorem exists_last_of_served
    (hServed :
      addedServed
          ((answerPublic lib state request).callsWith
            env.reply) ≠
        0) :
    ∃ first last,
      (answerPublic lib state request).callsWith env.reply =
          first ++ [last] ∧
        addedServed first = 0 := by
  rcases request_cases lib state env request with
    ⟨hStore, hSnapshot⟩ |
      ⟨store, target, hStore, hSnapshot, hTarget⟩ | hPassed
  · rw [callsWith_of_poisoned lib state env hStore
      hSnapshot] at hServed
    exact absurd (by decide) hServed
  · rw [callsWith_of_target lib state env hStore hSnapshot
      hTarget] at hServed ⊢
    unfold servingCalls at hServed ⊢
    split at hServed
    · exfalso
      apply hServed
      cases env.expiryFlagWasClear <;>
        simp [expiryCalls, addedServed, GatewayOp.adds]
    · split at hServed
      · exact absurd (by simp [addedServed, GatewayOp.adds])
          hServed
      · rename_i hFresh hNoMatch
        rw [if_neg hFresh, if_neg hNoMatch]
        exact ⟨[_, _, _], _, rfl,
          by simp [addedServed, GatewayOp.adds]⟩
  · exact absurd
      (addedServed_of_passedOn lib state env request hPassed)
      hServed

/- Once served content is counted, the request is done. -/
theorem done_of_served
    {calls more : List (Call gatewaySignature)}
    (hCalls :
      calls ++ more =
        (answerPublic lib state request).callsWith env.reply)
    (hServed : addedServed calls ≠ 0) :
    more = [] := by
  rcases List.eq_nil_or_concat more with
    hNil | ⟨earlier, final, hMore⟩
  · exact hNil
  · exfalso
    have hTotal :
        addedServed
            ((answerPublic lib state request).callsWith
              env.reply) ≠
          0 := by
      rw [← hCalls, addedServed_append]
      omega
    rcases exists_last_of_served lib state env request hTotal
      with ⟨first, last, hWhole, hFirst⟩
    rw [← hCalls, hMore, List.concat_eq_append,
      ← List.append_assoc] at hWhole
    have hEarlier : calls ++ earlier = first :=
      (List.append_inj' hWhole rfl).1
    rw [← hEarlier, addedServed_append] at hFirst
    omega

/-
  A request that has counted served content has nothing left
  to do but to answer 200 from the store that it has read.
-/
theorem returns_of_served
    {calls : List (Call gatewaySignature)}
    {rest : GatewayProgram (Response Body)}
    (hPerforms :
      Performs (answerPublic lib state request) calls rest)
    (hServed : addedServed calls ≠ 0) :
    ∃ env : Surroundings,
      rest = .ret (respond lib state env request) ∧
        calls =
            (answerPublic lib state request).callsWith
              env.reply ∧
          ServedOk lib state env request := by
  rcases exists_completion lib state request hPerforms with
    ⟨env, more, hCalls, hRest⟩
  have hDone :=
    done_of_served lib state env request hCalls hServed
  rw [hDone] at hCalls hRest
  rw [List.append_nil] at hCalls
  refine ⟨env, ?_, hCalls, ?_⟩
  · cases hRest
    rfl
  · have hCounts :=
      publicCounts_of_performs lib state request hPerforms
    have hRequests := hCounts.requests
    have hAnswers := hCounts.answers
    rw [← addedServed_eq_one_iff, ← hCalls]
    unfold addedServed at hServed ⊢
    split at hRequests <;> omega

end Serving

end AjarGateway

------------------------------------------------------------
-- Reloads
------------------------------------------------------------

namespace AjarGateway

namespace Serving

open Http Interleaving Store

/- What calls add to the two counters of reloads. -/
def addedReloads
    (calls : List (Call gatewaySignature)) : Nat :=
  added .storeReloadsTotal calls +
    added .storeReloadFailuresTotal calls

/-
  A reload counts one outcome, a success exactly when it
  answers 200, and adds to no other counter.
-/
structure ReloadCounts
    (calls : List (Call gatewaySignature))
    (answer : Response Body) : Prop where
  outcome : addedReloads calls = 1
  success :
    added .storeReloadsTotal calls = 1 ↔ answer.status = 200
  others : ∀ counter,
    counter ≠ .storeReloadsTotal →
      counter ≠ .storeReloadFailuresTotal →
        added counter calls = 0

theorem reloadCounts_of_exit
    {state : ProxyState}
    {calls : List (Call gatewaySignature)}
    {answer : Response Body}
    (hExit : ReloadExit state calls answer) :
    ReloadCounts calls answer := by
  constructor
  · cases hExit <;>
      simp [addedReloads, failureCalls, GatewayOp.adds]
  · cases hExit <;>
      simp [failureCalls, GatewayOp.adds, reloadedResponse]
  · intro counter hReloads hFailures
    cases hExit <;>
      simp [failureCalls, GatewayOp.adds, hReloads,
        hFailures]

/- What a reload has added so far, and how it will end. -/
theorem addedReloads_of_performs
    (state : ProxyState)
    {calls : List (Call gatewaySignature)}
    {rest : GatewayProgram (Response Body)}
    (hPerforms : Performs (reloadStore state) calls rest) :
    addedReloads calls ≤ 1 ∧
      (∀ counter,
        counter ≠ .storeReloadsTotal →
          counter ≠ .storeReloadFailuresTotal →
            added counter calls = 0) ∧
        (addedReloads calls = 1 →
          ∀ more answer,
            Performs rest more (.ret answer) →
              (added .storeReloadsTotal calls = 1 ↔
                answer.status = 200)) := by
  have hWhole {more : List (Call gatewaySignature)}
      {answer : Response Body}
      (hMore : Performs rest more (.ret answer)) :
      ReloadCounts (calls ++ more) answer :=
    reloadCounts_of_exit
      (exit_of_performs (hPerforms.append hMore))
  rcases hWhole
      (performs_callsWith (default : Surroundings).reply
        rest) with
    ⟨hOutcome, _, hOthers⟩
  simp only [addedReloads, added_append] at hOutcome hOthers
  refine ⟨?_, ?_, ?_⟩
  · unfold addedReloads
    omega
  · intro counter hReloads hFailures
    have hZero := hOthers counter hReloads hFailures
    omega
  · intro hOne more answer hMore
    rcases hWhole hMore with ⟨hSum, hSuccess, _⟩
    unfold addedReloads at hOne hSum
    rw [← hSuccess]
    simp only [added_append] at hSum ⊢
    omega

end Serving

end AjarGateway
