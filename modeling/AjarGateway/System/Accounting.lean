import AjarGateway.Serving.Metrics
import AjarGateway.System.Solo

/-
  What the counters of a running gateway count.

  A counter is the number of increments in the run, and the
  increments of the run are those of its handlers.  So the
  counters are numbers of handlers of each kind.

  Key definitions include:
    * `System.publicRequests`
    * `System.reloads`
    * `System.Accounted`

  Key theorems include:
    * `System.metrics_eq_count`
    * `System.counters_accounted`
-/

------------------------------------------------------------
-- Increments In A Run
------------------------------------------------------------

namespace AjarGateway

namespace System

open Http Interleaving Serving Store

/- The calls that increment a counter. -/
def addsTo (counter : Counter) :
    Nat → Call gatewaySignature → Bool :=
  fun _ call => GatewayOp.adds counter call.op

theorem Exec.metrics_eq
    {json : SerdeJson} {thread : Nat}
    {before after : SharedState}
    {call : Call gatewaySignature}
    (hExec : Exec json thread before call after)
    (counter : Counter) :
    after.metrics counter =
      before.metrics counter +
        if GatewayOp.adds counter call.op = true then 1
        else 0 := by
  cases hExec with
  | fetchAdd other =>
      by_cases hSame : counter = other
      · subst hSame
        simp [SharedState.increment, GatewayOp.adds]
      · simp [SharedState.increment, GatewayOp.adds, hSame]
  | _ => simp [GatewayOp.adds, SharedState.withLock]

variable {lib : Externals} {state : ProxyState}
variable {shared : SharedState}
variable {events : List (Event (gateway lib state))}
variable {after : Config (gateway lib state)}

/- A counter is the number of its increments. -/
theorem metrics_eq_count
    (hZero : ∀ counter, shared.metrics counter = 0)
    (hRun : Run (.initial shared) events after)
    (counter : Counter) :
    after.state.metrics counter =
      UInt64.ofNat
        (countCalls (addsTo counter) events) := by
  induction hRun with
  | nil => exact hZero counter
  | @snoc events before event after hRun hStep ih =>
      rw [countCalls_snoc]
      cases hStep with
      | @call thread op next reply _ _ hExec =>
          have hCounts :
              (Event.call thread ⟨op, reply⟩ :
                  Event (gateway lib state)).counts
                    (addsTo counter) =
                GatewayOp.adds counter op :=
            rfl
          rw [Config.setThread_state, hExec.metrics_eq, ih,
            hCounts]
          cases GatewayOp.adds counter op with
          | false => simp
          | true => exact (UInt64.ofNat_add _ _).symm
      | panic _ hUnwind =>
          cases hUnwind
          exact ih
      | change hChange =>
          cases hChange
          exact ih
      | start _ => exact ih
      | answer _ => exact ih
      | cancel _ _ => exact ih

theorem metrics_toNat
    (hZero : ∀ counter, shared.metrics counter = 0)
    (hRun : Run (.initial shared) events after)
    {counter : Counter}
    (hBound :
      countCalls (addsTo counter) events < 2 ^ 64) :
    (after.state.metrics counter).toNat =
      countCalls (addsTo counter) events := by
  rw [metrics_eq_count hZero hRun]
  exact UInt64.toNat_ofNat_of_lt' hBound

end System

end AjarGateway

------------------------------------------------------------
-- Increments Of A Handler
------------------------------------------------------------

namespace AjarGateway

namespace System

open Http Interleaving Serving Store

variable {lib : Externals} {state : ProxyState}

def isPublic : Incoming → Bool
| .publicRequest _ => true
| _ => false

def isReload : Incoming → Bool
| .reload => true
| _ => false

/- The public requests that have been started. -/
def publicRequests
    (events : List (Event (gateway lib state))) :
    Finset Nat :=
  (startedThreads events).filter fun thread =>
    (startsOf thread events).any isPublic = true

/- Those that have performed their first step. -/
def begunRequests
    (events : List (Event (gateway lib state))) :
    Finset Nat :=
  (publicRequests events).filter fun thread =>
    (callsOf thread events).isEmpty = false

/- The reloads that have been started. -/
def reloads
    (events : List (Event (gateway lib state))) :
    Finset Nat :=
  (startedThreads events).filter fun thread =>
    (startsOf thread events).any isReload = true

/- Those that have counted their outcome. -/
def countedReloads
    (events : List (Event (gateway lib state))) :
    Finset Nat :=
  (reloads events).filter fun thread =>
    addedReloads (callsOf thread events) = 1

variable {shared : SharedState}
variable {events : List (Event (gateway lib state))}
variable {after : Config (gateway lib state)}

/- The threads that have started a handler of some kind. -/
theorem mem_started_filter_iff
    (kind : Incoming → Bool)
    (thread : Nat) :
    (thread ∈ (startedThreads events).filter fun thread =>
        (startsOf thread events).any kind = true) ↔
      ∃ incoming,
        .start thread incoming ∈ events ∧
          kind incoming = true := by
  rw [Finset.mem_filter, mem_startedThreads_iff,
    List.any_eq_true]
  constructor
  · rintro ⟨_, incoming, hStart, hKind⟩
    exact ⟨incoming, (mem_startsOf_iff _ _ _).mp hStart,
      hKind⟩
  · rintro ⟨incoming, hStart, hKind⟩
    exact ⟨⟨incoming, hStart⟩, incoming,
      (mem_startsOf_iff _ _ _).mpr hStart, hKind⟩

theorem mem_publicRequests_iff (thread : Nat) :
    thread ∈ publicRequests events ↔
      ∃ request,
        .start thread (.publicRequest request) ∈ events := by
  refine (mem_started_filter_iff isPublic thread).trans ?_
  constructor
  · rintro ⟨incoming, hStart, hPublic⟩
    cases incoming with
    | publicRequest request => exact ⟨request, hStart⟩
    | _ => cases hPublic
  · rintro ⟨request, hStart⟩
    exact ⟨.publicRequest request, hStart, rfl⟩

theorem mem_reloads_iff (thread : Nat) :
    thread ∈ reloads events ↔
      .start thread .reload ∈ events := by
  refine (mem_started_filter_iff isReload thread).trans ?_
  constructor
  · rintro ⟨incoming, hStart, hReload⟩
    cases incoming with
    | reload => exact hStart
    | _ => cases hReload
  · intro hStart
    exact ⟨.reload, hStart, rfl⟩

variable {thread : Nat} {request : Request Chunks}

/- What a public request adds, at every point of a run. -/
theorem publicCounts_in_run
    (hRun : Run (.initial shared) events after)
    (hStart :
      .start thread (.publicRequest request) ∈ events) :
    PublicCounts (callsOf thread events) := by
  rcases hRun.performs_of_start hStart with
    ⟨_, _, hPerforms⟩
  exact publicCounts_of_performs lib state request hPerforms

/- Only public requests and reloads add to counters. -/
theorem added_in_run
    (hRun : Run (.initial shared) events after)
    (hThread : thread ∈ startedThreads events) :
    (∃ request,
        .start thread (.publicRequest request) ∈ events ∧
          PublicCounts (callsOf thread events)) ∨
      .start thread .reload ∈ events ∨
      ∀ counter, added counter (callsOf thread events) = 0 := by
  rcases (mem_startedThreads_iff _ _).mp hThread with
    ⟨incoming, hStart⟩
  rcases hRun.performs_of_start hStart with
    ⟨_, rest, hPerforms⟩
  cases incoming with
  | publicRequest request =>
      exact .inl
        ⟨request, hStart, publicCounts_in_run hRun hStart⟩
  | reload => exact .inr (.inl hStart)
  | metrics =>
      exact .inr (.inr (added_metricsEndpoint hPerforms))
  | healthz =>
      right
      right
      intro counter
      rw [((performs_ret_iff _ _ _).mp hPerforms).1]
      rfl

/- What a handler adds besides its outcome of a reload. -/
theorem added_le_requests
    (hRun : Run (.initial shared) events after)
    (hThread : thread ∈ startedThreads events) :
    added .manifestServedTotal (callsOf thread events) +
          added .viewsServedTotal (callsOf thread events) +
            added .negotiationPassthroughTotal
              (callsOf thread events) ≤
        added .requestsTotal (callsOf thread events) ∧
      added .manifestServedTotal (callsOf thread events) +
          added .viewsServedTotal (callsOf thread events) +
            added .upstreamErrorsTotal
              (callsOf thread events) ≤
        added .requestsTotal (callsOf thread events) ∧
      added .requestsTotal (callsOf thread events) ≤ 1 := by
  rcases added_in_run hRun hThread with
    ⟨request, _, hCounts⟩ | hReload | hNone
  · refine ⟨hCounts.outcomes, hCounts.answers, ?_⟩
    rw [hCounts.requests]
    split <;> omega
  · rcases hRun.performs_of_start hReload with
      ⟨_, rest, hPerforms⟩
    have hOthers :=
      (addedReloads_of_performs state hPerforms).2.1
    rw [hOthers .manifestServedTotal nofun nofun,
      hOthers .viewsServedTotal nofun nofun,
      hOthers .negotiationPassthroughTotal nofun nofun,
      hOthers .upstreamErrorsTotal nofun nofun,
      hOthers .requestsTotal nofun nofun]
    omega
  · simp [hNone]

end System

end AjarGateway

------------------------------------------------------------
-- Numbers Of Handlers
------------------------------------------------------------

namespace AjarGateway

namespace System

open Http Interleaving Serving Store

variable {lib : Externals} {state : ProxyState}
variable {shared : SharedState}
variable {events : List (Event (gateway lib state))}
variable {after : Config (gateway lib state)}
variable {thread : Nat}

/- A sum of zeros and ones counts the ones. -/
theorem sum_eq_card_of_le_one
    {threads : Finset Nat} {f : Nat → Nat}
    (hLe : ∀ thread ∈ threads, f thread ≤ 1) :
    ∑ thread ∈ threads, f thread =
      (threads.filter fun thread => f thread = 1).card := by
  rw [Finset.card_filter]
  apply Finset.sum_congr rfl
  intro thread hThread
  have hOne := hLe thread hThread
  split <;> omega

theorem countCalls_addsTo
    (hRun : Run (.initial shared) events after)
    (counter : Counter) :
    countCalls (addsTo counter) events =
      ∑ thread ∈ startedThreads events,
        added counter (callsOf thread events) :=
  hRun.countCalls_eq_sum (addsTo counter)

/- The request counter counts the requests that have begun. -/
theorem added_requests_iff
    (hRun : Run (.initial shared) events after)
    (hThread : thread ∈ startedThreads events) :
    added .requestsTotal (callsOf thread events) = 1 ↔
      thread ∈ begunRequests events := by
  unfold begunRequests
  rw [Finset.mem_filter, mem_publicRequests_iff]
  constructor
  · intro hOne
    rcases added_in_run hRun hThread with
      ⟨request, hStart, hCounts⟩ | hReload | hNone
    · refine ⟨⟨request, hStart⟩, ?_⟩
      rw [hCounts.requests] at hOne
      cases hEmpty : (callsOf thread events).isEmpty with
      | false => rfl
      | true =>
          rw [hEmpty, if_pos rfl] at hOne
          cases hOne
    · rcases hRun.performs_of_start hReload with
        ⟨_, rest, hPerforms⟩
      rw [(addedReloads_of_performs state hPerforms).2.1
        .requestsTotal nofun nofun] at hOne
      cases hOne
    · rw [hNone] at hOne
      cases hOne
  · rintro ⟨⟨request, hStart⟩, hBegun⟩
    rw [(publicCounts_in_run hRun hStart).requests, hBegun]
    rfl

theorem countCalls_requests
    (hRun : Run (.initial shared) events after) :
    countCalls (addsTo .requestsTotal) events =
      (begunRequests events).card := by
  rw [countCalls_addsTo hRun, sum_eq_card_of_le_one
    fun thread hThread =>
      (added_le_requests hRun hThread).2.2]
  congr 1
  ext thread
  rw [Finset.mem_filter]
  constructor
  · rintro ⟨hThread, hOne⟩
    exact (added_requests_iff hRun hThread).mp hOne
  · intro hBegun
    have hThread : thread ∈ startedThreads events := by
      unfold begunRequests publicRequests at hBegun
      rw [Finset.mem_filter, Finset.mem_filter] at hBegun
      exact hBegun.1.1
    exact ⟨hThread,
      (added_requests_iff hRun hThread).mpr hBegun⟩

theorem publicRequests_card_le :
    (publicRequests events).card ≤
      (startedThreads events).card :=
  Finset.card_filter_le _ _

theorem reloads_card_le :
    (reloads events).card ≤ (startedThreads events).card :=
  Finset.card_filter_le _ _

theorem begunRequests_card_le :
    (begunRequests events).card ≤
      (publicRequests events).card :=
  Finset.card_filter_le _ _

/- The outcomes of requests are at most the requests. -/
theorem countCalls_outcomes_le
    (hRun : Run (.initial shared) events after) :
    countCalls (addsTo .manifestServedTotal) events +
          countCalls (addsTo .viewsServedTotal) events +
            countCalls
              (addsTo .negotiationPassthroughTotal) events ≤
        countCalls (addsTo .requestsTotal) events ∧
      countCalls (addsTo .manifestServedTotal) events +
          countCalls (addsTo .viewsServedTotal) events +
            countCalls (addsTo .upstreamErrorsTotal) events ≤
        countCalls (addsTo .requestsTotal) events := by
  simp only [countCalls_addsTo hRun, ← Finset.sum_add_distrib]
  constructor
  · apply Finset.sum_le_sum
    intro thread hThread
    exact (added_le_requests hRun hThread).1
  · apply Finset.sum_le_sum
    intro thread hThread
    exact (added_le_requests hRun hThread).2.1

/- Only a reload counts an outcome of a reload. -/
theorem addedReloads_in_run
    (hRun : Run (.initial shared) events after)
    (hThread : thread ∈ startedThreads events) :
    addedReloads (callsOf thread events) ≤ 1 ∧
      (addedReloads (callsOf thread events) = 1 →
        thread ∈ reloads events) := by
  rcases added_in_run hRun hThread with
    ⟨request, _, hCounts⟩ | hReload | hNone
  · have hZero :
        addedReloads (callsOf thread events) = 0 := by
      rw [addedReloads, hCounts.reloads.1,
        hCounts.reloads.2]
    omega
  · rcases hRun.performs_of_start hReload with
      ⟨_, rest, hPerforms⟩
    exact ⟨(addedReloads_of_performs state hPerforms).1,
      fun _ => (mem_reloads_iff thread).mpr hReload⟩
  · have hZero :
        addedReloads (callsOf thread events) = 0 := by
      rw [addedReloads, hNone, hNone]
    omega

theorem mem_countedReloads_iff (thread : Nat) :
    thread ∈ countedReloads events ↔
      thread ∈ reloads events ∧
        addedReloads (callsOf thread events) = 1 := by
  unfold countedReloads
  rw [Finset.mem_filter]

theorem mem_started_of_reload
    (hReload : thread ∈ reloads events) :
    thread ∈ startedThreads events := by
  unfold reloads at hReload
  exact (Finset.mem_filter.mp hReload).1

theorem countCalls_reloads
    (hRun : Run (.initial shared) events after) :
    countCalls (addsTo .storeReloadsTotal) events +
        countCalls (addsTo .storeReloadFailuresTotal)
          events =
      (countedReloads events).card := by
  rw [countCalls_addsTo hRun, countCalls_addsTo hRun,
    ← Finset.sum_add_distrib]
  have hSum := sum_eq_card_of_le_one
    (f := fun thread => addedReloads (callsOf thread events))
    fun thread hThread =>
      (addedReloads_in_run hRun hThread).1
  unfold addedReloads at hSum
  rw [hSum]
  congr 1
  ext thread
  rw [Finset.mem_filter, mem_countedReloads_iff]
  constructor
  · rintro ⟨hThread, hOne⟩
    exact ⟨(addedReloads_in_run hRun hThread).2 hOne, hOne⟩
  · rintro ⟨hReload, hOne⟩
    exact ⟨mem_started_of_reload hReload, hOne⟩

theorem countCalls_successes
    (hRun : Run (.initial shared) events after) :
    countCalls (addsTo .storeReloadsTotal) events =
      ((countedReloads events).filter fun thread =>
        added .storeReloadsTotal
          (callsOf thread events) = 1).card := by
  have hLe : ∀ thread ∈ startedThreads events,
      added .storeReloadsTotal (callsOf thread events) ≤
        1 := by
    intro thread hThread
    have hOutcome := (addedReloads_in_run hRun hThread).1
    unfold addedReloads at hOutcome
    omega
  rw [countCalls_addsTo hRun, sum_eq_card_of_le_one hLe]
  congr 1
  ext thread
  rw [Finset.mem_filter, Finset.mem_filter,
    mem_countedReloads_iff]
  constructor
  · rintro ⟨hThread, hOne⟩
    have hOutcome := addedReloads_in_run hRun hThread
    have hCounted :
        addedReloads (callsOf thread events) = 1 := by
      unfold addedReloads at hOutcome ⊢
      omega
    exact ⟨⟨hOutcome.2 hCounted, hCounted⟩, hOne⟩
  · rintro ⟨⟨hReload, _⟩, hOne⟩
    exact ⟨mem_started_of_reload hReload, hOne⟩

theorem countedReloads_card_le :
    (countedReloads events).card ≤ (reloads events).card :=
  Finset.card_filter_le _ _

/- No counter is counted more often than handlers start. -/
theorem countCalls_lt
    (hRun : Run (.initial shared) events after)
    (hPublic : (publicRequests events).card < 2 ^ 64)
    (hReloads : (reloads events).card < 2 ^ 64)
    (counter : Counter) :
    countCalls (addsTo counter) events < 2 ^ 64 := by
  have hRequests := countCalls_requests hRun
  have hOutcomes := countCalls_outcomes_le hRun
  have hReloaded := countCalls_reloads hRun
  have hBegun := @begunRequests_card_le _ _ events
  have hCounted := @countedReloads_card_le _ _ events
  cases counter <;> omega

end System

end AjarGateway

------------------------------------------------------------
-- The Counters Are Accounted For
------------------------------------------------------------

namespace AjarGateway

namespace System

open Http Interleaving Serving Store

variable {lib : Externals} {state : ProxyState}

/- A 200 from the store that the request has read. -/
def OkFromStore
    (events : List (Event (gateway lib state)))
    (thread : Nat)
    (request : Request Chunks)
    (answer : Response Body) : Prop :=
  answer.status = 200 ∧
    ∃ store target,
      .call thread ⟨.readStore, some store⟩ ∈ events ∧
        storeTarget lib.http store request = some target

/-
  What the counters are after a run.  A request counts
  itself in its first step, and a reload that has counted
  its outcome may still have to answer.
-/
structure Accounted
    (events : List (Event (gateway lib state)))
    (after : Config (gateway lib state)) : Prop where
  totals : ∀ counter,
    (after.state.metrics counter).toNat =
      ∑ thread ∈ startedThreads events,
        added counter (callsOf thread events)
  requests :
    (after.state.metrics .requestsTotal).toNat =
      (begunRequests events).card
  outcomes : ∀ thread ∈ publicRequests events,
    added .manifestServedTotal (callsOf thread events) +
        added .viewsServedTotal (callsOf thread events) +
          added .negotiationPassthroughTotal
            (callsOf thread events) ≤
      1
  errors : ∀ thread ∈ publicRequests events,
    added .upstreamErrorsTotal (callsOf thread events) ≤ 1 ∧
      (added .upstreamErrorsTotal
          (callsOf thread events) = 1 →
        addedServed (callsOf thread events) = 0)
  served : ∀ thread request answer,
    .start thread (.publicRequest request) ∈ events →
      .answer thread answer ∈ events →
        (addedServed (callsOf thread events) = 1 ↔
          OkFromStore events thread request answer)
  returning : ∀ thread request,
    .start thread (.publicRequest request) ∈ events →
      addedServed (callsOf thread events) ≠ 0 →
        ∃ answer,
          Performs (answerPublic lib state request)
              (callsOf thread events) (.ret answer) ∧
            OkFromStore events thread request answer
  reloadOutcomes :
    (after.state.metrics .storeReloadsTotal).toNat +
        (after.state.metrics
          .storeReloadFailuresTotal).toNat =
      (countedReloads events).card
  reloadOnce : ∀ thread ∈ reloads events,
    addedReloads (callsOf thread events) ≤ 1
  reloadAnswered : ∀ thread answer,
    .start thread .reload ∈ events →
      .answer thread answer ∈ events →
        addedReloads (callsOf thread events) = 1
  successes :
    (after.state.metrics .storeReloadsTotal).toNat =
      ((countedReloads events).filter fun thread =>
        added .storeReloadsTotal
          (callsOf thread events) = 1).card
  successful : ∀ thread ∈ countedReloads events,
    ∀ more answer,
      Performs (reloadStore state)
          (callsOf thread events ++ more) (.ret answer) →
        (added .storeReloadsTotal
            (callsOf thread events) = 1 ↔
          answer.status = 200)

variable {config : GatewayConfig} {files : FileSystem}
variable {shared : SharedState}
variable {events : List (Event (gateway lib state))}
variable {after : Config (gateway lib state)}

theorem Started.metrics_zero
    (hStarted : Started lib config files state shared)
    (counter : Counter) :
    shared.metrics counter = 0 := by
  rcases hStarted.store with
    ⟨_, _, rfl⟩ | ⟨_, _, _, _, _, _, _, rfl⟩ <;> rfl

/- The answer of a request that was served from the store. -/
theorem okFromStore_iff_servedOk
    {thread : Nat} {request : Request Chunks}
    {env : Surroundings}
    (hStarted : Started lib config files state shared)
    (hRun : Run (.initial shared) events after)
    (hCalls :
      callsOf thread events =
        (answerPublic lib state request).callsWith
          env.reply) :
    OkFromStore events thread request
        (respond lib state env request) ↔
      ServedOk lib state env request := by
  constructor
  · rintro ⟨hStatus, store, target, hRead, hTarget⟩
    have hStore := hasStore_of_read hStarted hRun hRead
    have hSnapshot : env.snapshot = some store := by
      rw [← mem_callsOf_iff, hCalls] at hRead
      exact (Program.reply_of_mem_callsWith
        (S := gatewaySignature) env.reply _ _ hRead).symm
    exact ⟨store, target, hStore, hSnapshot, hTarget,
      hStatus⟩
  · rintro ⟨store, target, hStore, hSnapshot, hTarget,
      hStatus⟩
    refine ⟨hStatus, store, target, ?_, hTarget⟩
    rw [← mem_callsOf_iff, hCalls,
      callsWith_of_target lib state env hStore hSnapshot
        hTarget]
    exact List.mem_cons_of_mem _ List.mem_cons_self

/-
  In every run of fewer than 2 ^ 64 requests and reloads the
  counters are accounted for.
-/
theorem counters_accounted
    {startTime : Int}
    (hRange : InClockRange startTime)
    (hStartup :
      startup lib config files startTime =
        .ok (state, shared))
    (hRun : Run (.initial shared) events after)
    (hPublic : (publicRequests events).card < 2 ^ 64)
    (hReloads : (reloads events).card < 2 ^ 64) :
    Accounted events after := by
  have hStarted := startup_ok hRange hStartup
  have hMetrics (counter : Counter) :
      (after.state.metrics counter).toNat =
        countCalls (addsTo counter) events :=
    metrics_toNat hStarted.metrics_zero hRun
      (countCalls_lt hRun hPublic hReloads counter)
  have hCounts {thread : Nat}
      (hThread : thread ∈ publicRequests events) :
      PublicCounts (callsOf thread events) ∧
        added .requestsTotal (callsOf thread events) ≤ 1 := by
    rcases (mem_publicRequests_iff thread).mp hThread with
      ⟨request, hStart⟩
    refine ⟨publicCounts_in_run hRun hStart, ?_⟩
    exact (added_le_requests hRun
      (Finset.mem_filter.mp hThread).1).2.2
  constructor
  case totals =>
    intro counter
    rw [hMetrics, countCalls_addsTo hRun]
  case requests => rw [hMetrics, countCalls_requests hRun]
  case outcomes =>
    intro thread hThread
    rcases hCounts hThread with ⟨hPublicCounts, hOne⟩
    exact hPublicCounts.outcomes.trans hOne
  case errors =>
    intro thread hThread
    rcases hCounts hThread with ⟨hPublicCounts, hOne⟩
    have hAnswers := hPublicCounts.answers
    unfold addedServed
    omega
  case served =>
    intro thread request answer hStart hAnswer
    rcases answered_publicRequest hRun hStart hAnswer with
      ⟨env, rfl, hCalls⟩
    rw [okFromStore_iff_servedOk hStarted hRun hCalls,
      hCalls, addedServed_eq_one_iff]
  case returning =>
    intro thread request hStart hServed
    rcases hRun.performs_of_start hStart with
      ⟨_, rest, hPerforms⟩
    rcases returns_of_served lib state request hPerforms
        hServed with
      ⟨env, rfl, hCalls, hOk⟩
    exact ⟨_, hPerforms,
      (okFromStore_iff_servedOk hStarted hRun hCalls).mpr
        hOk⟩
  case reloadOutcomes =>
    rw [hMetrics, hMetrics, countCalls_reloads hRun]
  case reloadOnce =>
    intro thread hReload
    exact (addedReloads_in_run hRun
      (mem_started_of_reload hReload)).1
  case reloadAnswered =>
    intro thread answer hStart hAnswer
    rcases hRun.performs_of_answer hAnswer with
      ⟨handler, hStarts, hPerforms⟩
    have hHandler := (hRun.performs_of_start hStart).1
    rw [hStarts, List.singleton_inj] at hHandler
    subst hHandler
    exact (reloadCounts_of_exit
      (exit_of_performs hPerforms)).outcome
  case successes => rw [hMetrics, countCalls_successes hRun]
  case successful =>
    intro thread hCounted more answer hMore
    rw [mem_countedReloads_iff, mem_reloads_iff] at hCounted
    rcases hMore.split with ⟨rest, hPerforms, hRest⟩
    exact (addedReloads_of_performs state hPerforms).2.2
      hCounted.2 more answer hRest

/- The handlers started in a request that runs alone. -/
theorem startedThreads_requestEvents
    (thread : Nat)
    (env : Surroundings)
    (request : Request Chunks) :
    startedThreads
        (requestEvents lib state thread env request) =
      {thread} := by
  simp [startedThreads, requestEvents, Event.started?,
    List.filterMap_cons, Function.comp_def]

/- The sample clients are a reload and two requests. -/
theorem startedThreads_clientEvents (flag : Bool) :
    startedThreads (clientEvents flag) = {0, 1, 2} := by
  have hReload :
      startedThreads
          (loadEvents sampleExt sampleState 0 sampleDir
              (samplePage "Old") ++
            commitEvents sampleExt sampleState 0
              (samplePage "Old")) =
        {0} :=
    rfl
  rw [clientEvents, startedThreads_append, hReload,
    startedThreads_append, startedThreads_requestEvents,
    startedThreads_requestEvents]
  rfl

/- The reload and the two requests are accounted for. -/
theorem counters_accounted_sample :
    ∃ flag after,
      Run (.initial sampleShared) (clientEvents flag)
          after ∧
        Accounted (clientEvents flag) after := by
  rcases run_clientEvents with ⟨flag, after, hRun, _⟩
  have hThree :
      (startedThreads (clientEvents flag)).card <
        2 ^ 64 := by
    rw [startedThreads_clientEvents]
    decide
  refine ⟨flag, after, hRun, ?_⟩
  exact counters_accounted sampleNow_inClockRange
    sample_startup hRun
    (publicRequests_card_le.trans_lt hThree)
    (reloads_card_le.trans_lt hThree)

end System

end AjarGateway
