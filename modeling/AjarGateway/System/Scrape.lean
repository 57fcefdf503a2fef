import AjarGateway.System.Accounting

/-
  What a metrics page shows while requests are counted.

  The request counter is loaded first.  A page may therefore
  show more outcomes than requests, but never by more than
  the requests that began while it was rendered.

  Key definitions include:
    * `System.ConsistentPage`
    * `System.begunDuring`

  Key theorems include:
    * `System.loaded_eq_count`
    * `System.page_bounds`
-/

------------------------------------------------------------
-- Loads In A Run
------------------------------------------------------------

namespace AjarGateway

namespace System

open Http Interleaving Serving Store

variable {lib : Externals} {state : ProxyState}
variable {config : GatewayConfig} {files : FileSystem}
variable {shared : SharedState}
variable {events : List (Event (gateway lib state))}
variable {after : Config (gateway lib state)}

/- The page does not show more outcomes than requests. -/
def ConsistentPage (values : Counter → UInt64) : Prop :=
  (values .manifestServedTotal).toNat +
        (values .viewsServedTotal).toNat +
          (values .negotiationPassthroughTotal).toNat ≤
      (values .requestsTotal).toNat ∧
    (values .manifestServedTotal).toNat +
        (values .viewsServedTotal).toNat +
          (values .upstreamErrorsTotal).toNat ≤
      (values .requestsTotal).toNat

/- The requests that count themselves during some events. -/
def begunDuring
    (events : List (Event (gateway lib state))) : Nat :=
  countCalls (addsTo .requestsTotal) events

/- A load yields the counter. -/
theorem Exec.loadCounter_reply
    {json : SerdeJson} {thread : Nat}
    {before after : SharedState}
    {counter : Counter} {value : UInt64}
    (hExec :
      Exec json thread before
        ⟨.loadCounter counter, value⟩ after) :
    value = before.metrics counter := by
  cases hExec with
  | loadCounter => rfl

/- A load yields the number of increments before it. -/
theorem loaded_eq_count
    {thread : Nat} {counter : Counter}
    {values : Counter → UInt64}
    {first second : List (Event (gateway lib state))}
    (hZero : ∀ counter, shared.metrics counter = 0)
    (hRun :
      Run (.initial shared)
        (first ++ .call thread (loadCall values counter) ::
          second) after) :
    values counter =
      UInt64.ofNat (countCalls (addsTo counter) first) := by
  rcases hRun.performs_of_call with
    ⟨before, _, _, _, hBefore, _, hExec, _, _⟩
  rw [← metrics_eq_count hZero hBefore]
  exact Exec.loadCounter_reply hExec

/- A loaded counter, in a run of few enough requests. -/
theorem loaded_le_count
    {thread : Nat} {counter : Counter}
    {values : Counter → UInt64}
    {first second : List (Event (gateway lib state))}
    (hZero : ∀ counter, shared.metrics counter = 0)
    (hRun :
      Run (.initial shared)
        (first ++ .call thread (loadCall values counter) ::
          second) after) :
    (values counter).toNat ≤
      countCalls (addsTo counter) first := by
  rw [loaded_eq_count hZero hRun, UInt64.toNat_ofNat']
  exact Nat.mod_le _ _

/- A load increments nothing. -/
theorem countCalls_load_cons
    (counter loaded : Counter)
    (values : Counter → UInt64)
    (thread : Nat)
    (rest : List (Event (gateway lib state))) :
    countCalls (addsTo counter)
        (.call thread (loadCall values loaded) :: rest) =
      countCalls (addsTo counter) rest := by
  rw [countCalls_cons]
  exact Nat.zero_add _

end System

end AjarGateway

------------------------------------------------------------
-- Bounds On A Page
------------------------------------------------------------

namespace AjarGateway

namespace System

open Http Interleaving Serving Store

variable {lib : Externals} {state : ProxyState}
variable {config : GatewayConfig} {files : FileSystem}
variable {shared : SharedState}
variable {events : List (Event (gateway lib state))}
variable {after : Config (gateway lib state)}

/- The events of a run around the loads of a page. -/
def scrape
    (page : Nat)
    (values : Counter → UInt64)
    (e0 e1 e2 e3 e4 rest : List (Event (gateway lib state))) :
    List (Event (gateway lib state)) :=
  e0 ++ .call page (loadCall values .requestsTotal) ::
    (e1 ++ .call page (loadCall values .upstreamErrorsTotal) ::
      (e2 ++ .call page (loadCall values .viewsServedTotal) ::
        (e3 ++
          .call page (loadCall values .manifestServedTotal) ::
          (e4 ++
            .call page
              (loadCall values .negotiationPassthroughTotal) ::
            rest))))

/- A rendered page, and the events between its loads. -/
theorem page_loads
    {page : Nat} {answer : Response Body}
    (hRun : Run (.initial shared) events after)
    (hStart : .start page .metrics ∈ events)
    (hAnswer : .answer page answer ∈ events) :
    ∃ values e0 e1 e2 e3 e4 rest,
      answer = metricsPage values ∧
        events = scrape page values e0 e1 e2 e3 e4 rest := by
  rcases hRun.performs_of_answer hAnswer with
    ⟨handler, hStarts, hPerforms⟩
  have hHandler := (hRun.performs_of_start hStart).1
  rw [hStarts, List.singleton_inj] at hHandler
  subst hHandler
  rcases performs_metricsEndpoint hPerforms with
    ⟨values, hCalls, hPage⟩
  rcases exists_of_callsOf_cons hCalls with
    ⟨e0, r0, rfl, h0⟩
  rcases exists_of_callsOf_cons h0 with ⟨e1, r1, rfl, h1⟩
  rcases exists_of_callsOf_cons h1 with ⟨e2, r2, rfl, h2⟩
  rcases exists_of_callsOf_cons h2 with ⟨e3, r3, rfl, h3⟩
  rcases exists_of_callsOf_cons h3 with ⟨e4, r4, rfl, _⟩
  exact ⟨values, e0, e1, e2, e3, e4, r4, hPage, rfl⟩

variable {page : Nat} {values : Counter → UInt64}
variable {e0 e1 e2 e3 e4 rest : List (Event (gateway lib state))}

/- The request counter is loaded without a wrap. -/
theorem loaded_requests_toNat
    (hZero : ∀ counter, shared.metrics counter = 0)
    (hRun :
      Run (.initial shared)
        (scrape page values e0 e1 e2 e3 e4 rest) after)
    (hPublic :
      (publicRequests
        (scrape page values e0 e1 e2 e3 e4 rest)).card <
          2 ^ 64) :
    (values .requestsTotal).toNat =
      countCalls (addsTo .requestsTotal) e0 := by
  have hWhole := countCalls_requests hRun
  have hLe :=
    @begunRequests_card_le _ _
      (scrape page values e0 e1 e2 e3 e4 rest)
  unfold scrape at hWhole hLe hPublic
  rw [countCalls_append] at hWhole
  have hBound :
      countCalls (addsTo .requestsTotal) e0 < 2 ^ 64 := by
    omega
  rw [loaded_eq_count hZero hRun]
  exact UInt64.toNat_ofNat_of_lt' hBound

/- Each later load is bounded by the increments before it. -/
theorem loaded_outcomes_le
    (hZero : ∀ counter, shared.metrics counter = 0)
    (hRun :
      Run (.initial shared)
        (scrape page values e0 e1 e2 e3 e4 rest) after) :
    (values .upstreamErrorsTotal).toNat ≤
        countCalls (addsTo .upstreamErrorsTotal)
          (e0 ++ e1) ∧
      (values .viewsServedTotal).toNat ≤
        countCalls (addsTo .viewsServedTotal)
          (e0 ++ e1 ++ e2) ∧
        (values .manifestServedTotal).toNat ≤
          countCalls (addsTo .manifestServedTotal)
            (e0 ++ e1 ++ e2 ++ e3) ∧
          (values .negotiationPassthroughTotal).toNat ≤
            countCalls (addsTo .negotiationPassthroughTotal)
              (e0 ++ e1 ++ e2 ++ e3 ++ e4) := by
  unfold scrape at hRun
  rw [List.append_cons, ← List.append_assoc] at hRun
  have hUpstream := loaded_le_count hZero hRun
  rw [List.append_cons, ← List.append_assoc] at hRun
  have hViews := loaded_le_count hZero hRun
  rw [List.append_cons, ← List.append_assoc] at hRun
  have hManifest := loaded_le_count hZero hRun
  rw [List.append_cons, ← List.append_assoc] at hRun
  have hPassthrough := loaded_le_count hZero hRun
  simp only [List.append_assoc, List.singleton_append,
    countCalls_append, countCalls_load_cons] at *
  exact ⟨hUpstream, hViews, hManifest, hPassthrough⟩

/- The outcomes counted before each of the last two loads. -/
theorem counted_outcomes_le
    (hRun :
      Run (.initial shared)
        (scrape page values e0 e1 e2 e3 e4 rest) after) :
    countCalls (addsTo .manifestServedTotal)
            (e0 ++ e1 ++ e2 ++ e3 ++ e4) +
          countCalls (addsTo .viewsServedTotal)
            (e0 ++ e1 ++ e2 ++ e3 ++ e4) +
            countCalls (addsTo .negotiationPassthroughTotal)
              (e0 ++ e1 ++ e2 ++ e3 ++ e4) ≤
        countCalls (addsTo .requestsTotal)
          (e0 ++ e1 ++ e2 ++ e3 ++ e4) ∧
      countCalls (addsTo .manifestServedTotal)
            (e0 ++ e1 ++ e2 ++ e3) +
          countCalls (addsTo .viewsServedTotal)
            (e0 ++ e1 ++ e2 ++ e3) +
            countCalls (addsTo .upstreamErrorsTotal)
              (e0 ++ e1 ++ e2 ++ e3) ≤
        countCalls (addsTo .requestsTotal)
          (e0 ++ e1 ++ e2 ++ e3) := by
  unfold scrape at hRun
  rw [List.append_cons, ← List.append_assoc,
    List.append_cons, ← List.append_assoc,
    List.append_cons, ← List.append_assoc] at hRun
  rcases hRun.split_at with ⟨_, _, hThree, _, _⟩
  rw [List.append_cons, ← List.append_assoc] at hRun
  rcases hRun.split_at with ⟨_, _, hFour, _, _⟩
  have hOutcomes := (countCalls_outcomes_le hFour).1
  have hAnswers := (countCalls_outcomes_le hThree).2
  simp only [List.append_assoc, List.singleton_append,
    countCalls_append, countCalls_load_cons] at *
  exact ⟨hOutcomes, hAnswers⟩

/-
  A page shows at most as many more outcomes than requests
  as requests began between the load of the request counter
  and the last load of the sum.
-/
theorem page_bounds
    {startTime : Int} {page : Nat}
    {answer : Response Body}
    (hRange : InClockRange startTime)
    (hStartup :
      startup lib config files startTime =
        .ok (state, shared))
    (hRun : Run (.initial shared) events after)
    (hPublic : (publicRequests events).card < 2 ^ 64)
    (hStart : .start page .metrics ∈ events)
    (hAnswer : .answer page answer ∈ events) :
    ∃ values e0 e1 e2 e3 e4 rest,
      answer = metricsPage values ∧
        events = scrape page values e0 e1 e2 e3 e4 rest ∧
          (values .manifestServedTotal).toNat +
                (values .viewsServedTotal).toNat +
                  (values .negotiationPassthroughTotal).toNat ≤
              (values .requestsTotal).toNat +
                begunDuring (e1 ++ e2 ++ e3 ++ e4) ∧
            (values .manifestServedTotal).toNat +
                (values .viewsServedTotal).toNat +
                  (values .upstreamErrorsTotal).toNat ≤
              (values .requestsTotal).toNat +
                begunDuring (e1 ++ e2 ++ e3) := by
  have hZero := (startup_ok hRange hStartup).metrics_zero
  rcases page_loads hRun hStart hAnswer with
    ⟨values, e0, e1, e2, e3, e4, rest, hPage, rfl⟩
  refine ⟨values, e0, e1, e2, e3, e4, rest, hPage, rfl, ?_⟩
  have hRequests := loaded_requests_toNat hZero hRun hPublic
  have hLoaded := loaded_outcomes_le hZero hRun
  have hCounted := counted_outcomes_le hRun
  unfold begunDuring
  simp only [countCalls_append] at *
  omega

end System

end AjarGateway

------------------------------------------------------------
-- A Request Between Two Loads
------------------------------------------------------------

namespace AjarGateway

namespace System

open Http Interleaving Serving Store

/- A page that shows one manifest and no request. -/
def overtakenValues : Counter → UInt64
| .manifestServedTotal => 1
| _ => 0

/- The manifest is served after the first load of a page. -/
def overtakenCalls : List (Call gatewaySignature) :=
  [⟨.fetchAdd .requestsTotal, ()⟩,
    ⟨.readStore, some (samplePage "Old")⟩,
    ⟨.nowUnixSeconds, sampleNow⟩,
    ⟨.fetchAdd .manifestServedTotal, ()⟩]

/- The request as a whole. -/
def overtakingRequest :
    List (Event (gateway sampleExt sampleState)) :=
  .start 1 (.publicRequest (getRequest manifestTarget .empty)) ::
    (overtakenCalls.map (Event.call 1) ++
      [.answer 1
        (respond sampleExt sampleState
          (sampleEnv (samplePage "Old"))
          (getRequest manifestTarget .empty))])

def overtakenEvents :
    List (Event (gateway sampleExt sampleState)) :=
  .start 0 .metrics ::
    .call 0 (loadCall overtakenValues .requestsTotal) ::
      (overtakingRequest ++
        ((pageCounters.tail.map
            (loadCall overtakenValues)).map (Event.call 0) ++
          [.answer 0 (metricsPage overtakenValues)]))

theorem overtakenEvents_few :
    (publicRequests overtakenEvents).card < 2 ^ 64 := by
  have hCard := publicRequests_card_le.trans
    (startedThreads_card_le overtakenEvents)
  have hLength : overtakenEvents.length = 15 := rfl
  omega

theorem overtakenEvents_answered :
    .answer 0 (metricsPage overtakenValues) ∈
      overtakenEvents := by
  simp [overtakenEvents]

theorem performs_overtakenCalls :
    Performs
      (answerPublic sampleExt sampleState
        (getRequest manifestTarget .empty))
      overtakenCalls
      (.ret
        (respond sampleExt sampleState
          (sampleEnv (samplePage "Old"))
          (getRequest manifestTarget .empty))) := by
  have hStore : sampleState.hasStore = true := rfl
  have hSnapshot :
      (sampleEnv (samplePage "Old")).snapshot =
        some (samplePage "Old") :=
    rfl
  have hTarget :
      storeTarget sampleExt.http (samplePage "Old")
          (getRequest manifestTarget .empty) =
        some .manifest := by
    rw [storeTarget, if_neg (by decide), getRequest,
      if_pos manifestTarget_path]
  have hCalls :
      (answerPublic sampleExt sampleState
          (getRequest manifestTarget .empty)).callsWith
            (sampleEnv (samplePage "Old")).reply =
        overtakenCalls := by
    rw [callsWith_of_target sampleExt sampleState _ hStore
      hSnapshot hTarget]
    rfl
  rw [← hCalls]
  exact performs_callsWith _ _

/- The shared state after the request. -/
def overtakenShared : SharedState :=
  (sampleShared.increment .requestsTotal).increment
    .manifestServedTotal

theorem execs_overtakenCalls :
    (gateway sampleExt sampleState).Execs 1 sampleShared
      overtakenCalls overtakenShared :=
  .cons (Exec.fetchAdd _ _)
    (.cons
      (Exec.readStore _ ⟨samplePage "Old", false, none⟩
        rfl rfl rfl)
      (.cons
        (Exec.nowUnixSeconds _ _ sampleNow_inClockRange)
        (.cons (Exec.fetchAdd _ _) (.nil _))))

theorem execs_overtakenLoads :
    (gateway sampleExt sampleState).Execs 0 overtakenShared
      (pageCounters.tail.map (loadCall overtakenValues))
      overtakenShared :=
  .cons (Exec.loadCounter _ _)
    (.cons (Exec.loadCounter _ _)
      (.cons (Exec.loadCounter _ _)
        (.cons (Exec.loadCounter _ _)
          (.cons (Exec.loadCounter _ _)
            (.cons (Exec.loadCounter _ _) (.nil _))))))

theorem run_overtakingRequest
    {c : Config (gateway sampleExt sampleState)}
    (hIdle : c.threads 1 = .idle)
    (hState : c.state = sampleShared) :
    ∃ after,
      Run c overtakingRequest after ∧
        after.state = overtakenShared ∧
          after.threads 0 = c.threads 0 := by
  have hExecs :
      (gateway sampleExt sampleState).Execs 1 c.state
        overtakenCalls overtakenShared := by
    rw [hState]
    exact execs_overtakenCalls
  have hRun : Run c overtakingRequest _ :=
    Run.whole hIdle performs_overtakenCalls hExecs
  exact ⟨_, hRun, rfl,
    Config.setThread_threads_of_ne _ _ (by decide)⟩

theorem run_overtakenEvents :
    ∃ after,
      Run (.initial sampleShared) overtakenEvents after := by
  have hPage :
      Performs metricsEndpoint
        ([loadCall overtakenValues .requestsTotal] ++
          pageCounters.tail.map (loadCall overtakenValues))
        (.ret (metricsPage overtakenValues)) :=
    performs_metricsPage overtakenValues
  rcases hPage.split with ⟨loaded, hFirst, hSecond⟩
  have hStart :
      Step
        (Config.initial sampleShared :
          Config (gateway sampleExt sampleState))
        (.start 0 .metrics)
        (Config.setThread _ 0 (.running metricsEndpoint)) :=
    .start rfl
  have hLoadExecs :
      (gateway sampleExt sampleState).Execs 0 sampleShared
        [loadCall overtakenValues .requestsTotal]
        sampleShared :=
    .cons (Exec.loadCounter _ _) (.nil _)
  have hLoad :=
    Run.of_performs
      (c := (Config.initial sampleShared :
        Config (gateway sampleExt sampleState)).setThread 0
          (.running metricsEndpoint))
      rfl hFirst hLoadExecs
  rw [Config.setThread_setThread] at hLoad
  rcases run_overtakingRequest
      (c := ({ (Config.initial sampleShared :
          Config (gateway sampleExt sampleState)) with
        state := sampleShared }).setThread 0
          (.running loaded)) rfl rfl with
    ⟨served, hRequest, hShared, hRunning⟩
  rcases Run.exists_of_performs hRunning hSecond
      (hShared ▸ execs_overtakenLoads) with
    ⟨last, hLoads, _, hLast⟩
  exact ⟨_, .cons hStart (hLoad.append (hRequest.append
    (hLoads.snoc (.answer hLast))))⟩

/- The page with the request in between. -/
theorem page_bounds_sample :
    ∃ values,
      ∃ e0 e1 e2 e3 e4 rest :
        List (Event (gateway sampleExt sampleState)),
      metricsPage overtakenValues = metricsPage values ∧
        overtakenEvents =
            scrape 0 values e0 e1 e2 e3 e4 rest ∧
          (values .manifestServedTotal).toNat +
                (values .viewsServedTotal).toNat +
                  (values .negotiationPassthroughTotal).toNat ≤
              (values .requestsTotal).toNat +
                begunDuring (e1 ++ e2 ++ e3 ++ e4) ∧
            (values .manifestServedTotal).toNat +
                (values .viewsServedTotal).toNat +
                  (values .upstreamErrorsTotal).toNat ≤
              (values .requestsTotal).toNat +
                begunDuring (e1 ++ e2 ++ e3) := by
  rcases run_overtakenEvents with ⟨_, hRun⟩
  exact page_bounds sampleNow_inClockRange sample_startup
    hRun overtakenEvents_few List.mem_cons_self
    overtakenEvents_answered

/-
  The request that counts itself after the first load, and
  its manifest before the fourth, makes the page show more
  outcomes than requests.
-/
theorem page_bounds_overtaken :
    ∃ after : Config (gateway sampleExt sampleState),
      startup sampleExt sampleConfig (samplePageFiles "Old")
          sampleNow =
        .ok (sampleState, sampleShared) ∧
      Run (.initial sampleShared) overtakenEvents after ∧
      (publicRequests overtakenEvents).card < 2 ^ 64 ∧
      .start 0 .metrics ∈ overtakenEvents ∧
      .answer 0 (metricsPage overtakenValues) ∈
        overtakenEvents ∧
      ¬ ConsistentPage overtakenValues := by
  rcases run_overtakenEvents with ⟨after, hRun⟩
  refine ⟨after, sample_startup, hRun, ?_, ?_, ?_, ?_⟩
  · exact overtakenEvents_few
  · exact List.mem_cons_self
  · exact overtakenEvents_answered
  · rintro ⟨hOutcomes, _⟩
    exact absurd hOutcomes (by decide)

end System

end AjarGateway
