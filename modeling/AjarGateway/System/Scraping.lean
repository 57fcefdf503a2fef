import AjarGateway.System.Scrape
import AjarGateway.Text.Exposition

/-
  What a scraper reads from the metrics pages.

  A page is read back as one number for each counter.  Each
  number lies between the increments before the page was
  asked for and those before it was answered, so that the
  counters never go back from one page to a later one.

  Key definitions include:
    * `Serving.readMetrics`

  Key theorems include:
    * `Serving.readMetrics_metricsPage`
    * `System.scraped_counters`
    * `System.scrapes_in_order`
-/

------------------------------------------------------------
-- Pages Are Read Back
------------------------------------------------------------

namespace AjarGateway

namespace Serving

open Http Interleaving Exposition

/- What the line of a counter shows. -/
def sampleOf
    (values : Counter → UInt64)
    (counter : Counter) : Sample :=
  ⟨counter.label.toList, (values counter).toNat⟩

/- The reading of a metrics page by its text format. -/
def readMetrics (answer : Response Body) :
    Option (List Sample) := do
  let bytes ← answer.body.bytes?
  let text ← Rust.fromUtf8 bytes
  read text.toList

theorem sampleOf_plain
    (values : Counter → UInt64)
    (counter : Counter) :
    (sampleOf values counter).Plain := by
  cases counter <;>
    simp [Sample.Plain, sampleOf, Counter.label]

/- The text of a page is the rendering of its samples. -/
theorem toList_pageText
    (values : Counter → UInt64)
    (counters : List Counter) :
    (pageText values counters).toList =
      render (counters.map (sampleOf values)) := by
  induction counters with
  | nil => rfl
  | cons counter rest ih =>
      rw [List.map_cons, render, List.flatMap_cons,
        ← render, ← ih, pageText]
      simp [Sample.line, sampleOf, Nat.toList_repr]

/- Every page is read back as the values it shows. -/
theorem readMetrics_metricsPage
    (values : Counter → UInt64) :
    readMetrics (metricsPage values) =
      some (pageCounters.map (sampleOf values)) := by
  have hBytes :
      (metricsPage values).body.bytes? =
        some (Rust.utf8 (pageText values pageCounters)) :=
    Body.bytes?_ofBytes _
  have hText :
      Rust.fromUtf8
          (Rust.utf8 (pageText values pageCounters)) =
        some (pageText values pageCounters) :=
    (Rust.fromUtf8_eq_some_iff _ _).mpr rfl
  have hRead :
      read (pageText values pageCounters).toList =
        some (pageCounters.map (sampleOf values)) := by
    rw [toList_pageText]
    apply read_render
    intro sample hMem
    rcases List.mem_map.mp hMem with ⟨counter, _, rfl⟩
    exact sampleOf_plain values counter
  unfold readMetrics
  rw [hBytes, Option.bind_eq_bind, Option.bind_some, hText,
    Option.bind_eq_bind, Option.bind_some, hRead]

end Serving

end AjarGateway

------------------------------------------------------------
-- Scraped Counters
------------------------------------------------------------

namespace AjarGateway

namespace System

open Http Interleaving Exposition Serving Store

variable {lib : Externals} {state : ProxyState}
variable {config : GatewayConfig} {files : FileSystem}
variable {shared : SharedState}
variable {first middle last middle' last' :
  List (Event (gateway lib state))}
variable {events : List (Event (gateway lib state))}
variable {after : Config (gateway lib state)}
variable {page : Nat} {answer : Response Body}

/- The loads of a page, each between start and answer. -/
theorem page_values
    (hRun :
      Run (.initial shared)
        (first ++ .start page .metrics ::
          (middle ++ .answer page answer :: last))
        after) :
    ∃ values,
      answer = metricsPage values ∧
        ∀ counter ∈ pageCounters,
          .call page (loadCall values counter) ∈ middle := by
  have hAnswer :
      .answer page answer ∈
        first ++ .start page .metrics ::
          (middle ++ .answer page answer :: last) := by
    simp
  rcases hRun.performs_of_answer hAnswer with
    ⟨handler, hStarts, hPerforms⟩
  have hHandler :=
    (hRun.performs_of_start
      (List.mem_append_right _ List.mem_cons_self)).1
  rw [hStarts, List.singleton_inj] at hHandler
  subst hHandler
  rcases performs_metricsEndpoint hPerforms with
    ⟨values, hCalls, hPage⟩
  refine ⟨values, hPage, ?_⟩
  intro counter hCounter
  apply hRun.call_between
  rw [← mem_callsOf_iff, hCalls]
  exact List.mem_map_of_mem hCounter

theorem countCalls_start_cons
    (counter : Counter)
    (thread : Nat)
    (handler : Incoming)
    (rest : List (Event (gateway lib state))) :
    countCalls (addsTo counter)
        (.start thread handler :: rest) =
      countCalls (addsTo counter) rest := by
  rw [countCalls_cons]
  exact Nat.zero_add _

/- A value on a page lies between two true counts. -/
theorem value_between
    {values : Counter → UInt64} {counter : Counter}
    (hZero : ∀ counter, shared.metrics counter = 0)
    (hRun :
      Run (.initial shared)
        (first ++ .start page .metrics ::
          (middle ++ .answer page answer :: last))
        after)
    (hFew :
      countCalls (addsTo counter)
          (first ++ .start page .metrics ::
            (middle ++ .answer page answer :: last)) <
        2 ^ 64)
    (hLoad :
      .call page (loadCall values counter) ∈ middle) :
    countCalls (addsTo counter) first ≤
        (values counter).toNat ∧
      (values counter).toNat ≤
        countCalls (addsTo counter) (first ++ middle) := by
  rcases List.append_of_mem hLoad with
    ⟨before, later, rfl⟩
  have hParts :
      first ++ .start page .metrics ::
          ((before ++ .call page (loadCall values counter) ::
            later) ++ .answer page answer :: last) =
        (first ++ .start page .metrics :: before) ++
          .call page (loadCall values counter) ::
            (later ++ .answer page answer :: last) := by
    simp
  rw [hParts] at hRun hFew
  have hValue := loaded_eq_count hZero hRun
  rw [countCalls_append] at hFew
  have hExact :
      (values counter).toNat =
        countCalls (addsTo counter)
          (first ++ .start page .metrics :: before) := by
    have hBound :
        countCalls (addsTo counter)
            (first ++ .start page .metrics :: before) <
          2 ^ 64 := by
      omega
    rw [hValue]
    exact UInt64.toNat_ofNat_of_lt' hBound
  rw [countCalls_append, countCalls_start_cons] at hExact
  rw [countCalls_append, countCalls_append]
  omega

/- A page that is asked for and answered without a break. -/
def pageEvents
    (lib : Externals)
    (state : ProxyState)
    (thread : Nat)
    (values : Counter → UInt64) :
    List (Event (gateway lib state)) :=
  .start thread .metrics ::
    ((pageCounters.map (loadCall values)).map
        (Event.call thread) ++
      [.answer thread (metricsPage values)])

theorem execs_loads
    (lib : Externals)
    (state : ProxyState)
    (thread : Nat)
    (shared : SharedState)
    (counters : List Counter) :
    (gateway lib state).Execs thread shared
      (counters.map (loadCall shared.metrics)) shared := by
  induction counters with
  | nil => exact .nil _
  | cons counter rest ih =>
      exact .cons (.loadCounter shared counter) ih

theorem run_page
    {c : Config (gateway lib state)}
    (hIdle : c.threads page = .idle) :
    ∃ next : Config (gateway lib state),
      Run c
          (pageEvents lib state page c.state.metrics) next ∧
        next.state = c.state ∧
        ∀ other, other ≠ page →
          next.threads other = c.threads other :=
  ⟨_, Run.whole hIdle
      (performs_metricsPage c.state.metrics)
      (execs_loads lib state page c.state pageCounters),
    rfl, fun _ hNe => Config.setThread_threads_of_ne _ _ hNe⟩

/- Pages after a reload and requests, and a request later. -/
def scrapedEvents
    (flag flag' : Bool)
    (values values' : Counter → UInt64) :
    List (Event (gateway sampleExt sampleState)) :=
  clientEvents flag ++
    (pageEvents sampleExt sampleState 3 values ++
      (requestEvents sampleExt sampleState 4
          (flaggedEnv flag')
          (getRequest manifestTarget .empty) ++
        pageEvents sampleExt sampleState 5 values'))

theorem run_scrapedEvents :
    ∃ flag flag' values values' after,
      Run (.initial sampleShared)
        (scrapedEvents flag flag' values values')
        after := by
  rcases run_clientEvents with
    ⟨flag, clients, hClients, hLock, hIdle⟩
  rcases run_page (hIdle 3 (by decide)) with
    ⟨paged, hPage, hPaged, hOthers⟩
  rw [← hPaged] at hLock
  have hAgrees :
      Agrees (flaggedEnv !paged.state.manifestExpiryLogged)
        paged.state :=
    ⟨⟨samplePage "Old", hLock, rfl⟩, sampleNow_inClockRange⟩
  rcases run_request_kept (getRequest manifestTarget .empty)
      ((hOthers 4 (by decide)).trans (hIdle 4 (by decide)))
      hAgrees rfl with
    ⟨served, hRequest, _, hOthers'⟩
  have hFree : served.threads 5 = .idle := by
    rw [hOthers' 5 (by decide), hOthers 5 (by decide)]
    exact hIdle 5 (by decide)
  rcases run_page hFree with ⟨after, hPage', _⟩
  exact ⟨_, _, _, _, after,
    hClients.append
      (hPage.append (hRequest.append hPage'))⟩

theorem startedThreads_scrapedEvents
    (flag flag' : Bool)
    (values values' : Counter → UInt64) :
    startedThreads
        (scrapedEvents flag flag' values values') =
      {0, 1, 2, 3, 4, 5} := by
  have hPage (thread : Nat) (shown : Counter → UInt64) :
      startedThreads
          (pageEvents sampleExt sampleState thread shown) =
        {thread} :=
    rfl
  simp only [scrapedEvents, startedThreads_append,
    startedThreads_clientEvents,
    startedThreads_requestEvents, hPage]
  rfl

theorem scrapedEvents_few
    (flag flag' : Bool)
    (values values' : Counter → UInt64) :
    (publicRequests
          (scrapedEvents flag flag' values values')).card <
        2 ^ 64 ∧
      (reloads
          (scrapedEvents flag flag' values values')).card <
        2 ^ 64 := by
  have hSix :
      (startedThreads
          (scrapedEvents flag flag' values values')).card <
        2 ^ 64 := by
    rw [startedThreads_scrapedEvents]
    decide
  exact ⟨publicRequests_card_le.trans_lt hSix,
    reloads_card_le.trans_lt hSix⟩

/- A request is counted once at least. -/
theorem one_le_countCalls_requestEvents
    (thread : Nat)
    (env : Surroundings)
    (request : Request Chunks) :
    1 ≤ countCalls (addsTo .requestsTotal)
      (requestEvents lib state thread env request) := by
  rw [countCalls, Nat.one_le_iff_ne_zero,
    ← Nat.pos_iff_ne_zero, List.countP_pos_iff]
  refine ⟨.call thread ⟨.fetchAdd .requestsTotal, ()⟩, ?_,
    rfl⟩
  rw [requestEvents, callsWith_answerPublic]
  simp

/-
  What a scraper reads from a page, in a run of fewer than
  2^64 requests and reloads: one number for each counter in
  the order of the page, at least the increments before the
  page was asked for, and at most those before its answer.
-/
theorem scraped_counters
    (hStarted : Started lib config files state shared)
    (hRun :
      Run (.initial shared)
        (first ++ .start page .metrics ::
          (middle ++ .answer page answer :: last))
        after)
    (hPublic :
      (publicRequests
        (first ++ .start page .metrics ::
          (middle ++ .answer page answer :: last))).card <
        2 ^ 64)
    (hReloads :
      (reloads
        (first ++ .start page .metrics ::
          (middle ++ .answer page answer :: last))).card <
        2 ^ 64) :
    ∃ values : Counter → UInt64,
      readMetrics answer =
          some (pageCounters.map (sampleOf values)) ∧
        ∀ counter ∈ pageCounters,
          countCalls (addsTo counter) first ≤
              (values counter).toNat ∧
            (values counter).toNat ≤
              countCalls (addsTo counter)
                (first ++ middle) := by
  rcases page_values hRun with ⟨values, rfl, hLoads⟩
  refine ⟨values, readMetrics_metricsPage values, ?_⟩
  intro counter hCounter
  exact value_between hStarted.metrics_zero hRun
    (countCalls_lt hRun hPublic hReloads counter)
    (hLoads counter hCounter)

/- The second page shows three requests and a reload. -/
theorem scraped_counters_sample :
    ∃ flag flag' values values' after,
      Run (.initial sampleShared)
          (scrapedEvents flag flag' values values')
          after ∧
        ∃ shown : Counter → UInt64,
          readMetrics (metricsPage values') =
              some (pageCounters.map (sampleOf shown)) ∧
            3 ≤ (shown .requestsTotal).toNat ∧
              1 ≤ (shown .storeReloadsTotal).toNat := by
  rcases run_scrapedEvents with
    ⟨flag, flag', values, values', after, hRun⟩
  refine ⟨flag, flag', values, values', after, hRun, ?_⟩
  have hFew := scrapedEvents_few flag flag' values values'
  have hEvents :
      scrapedEvents flag flag' values values' =
        (clientEvents flag ++
          (pageEvents sampleExt sampleState 3 values ++
            requestEvents sampleExt sampleState 4
              (flaggedEnv flag')
              (getRequest manifestTarget .empty))) ++
          Event.start 5 Incoming.metrics ::
            ((pageCounters.map (loadCall values')).map
                (Event.call 5) ++
              .answer 5 (metricsPage values') :: []) := by
    simp [scrapedEvents, pageEvents]
  rw [hEvents] at hRun hFew
  rcases scraped_counters sample_started hRun hFew.1
      hFew.2 with
    ⟨shown, hRead, hBetween⟩
  have hRequests :=
    (hBetween .requestsTotal (by decide)).1
  have hReloads :=
    (hBetween .storeReloadsTotal (by decide)).1
  have hOne (thread : Nat) (env : Surroundings) :
      1 ≤ countCalls (addsTo .requestsTotal)
        (requestEvents sampleExt sampleState thread env
          (getRequest manifestTarget .empty)) :=
    one_le_countCalls_requestEvents thread env
      (getRequest manifestTarget .empty)
  have hReloaded :
      countCalls (addsTo .storeReloadsTotal)
          (loadEvents sampleExt sampleState 0 sampleDir
              (samplePage "Old") ++
            commitEvents sampleExt sampleState 0
              (samplePage "Old")) =
        1 :=
    rfl
  simp only [clientEvents, countCalls_append] at hRequests
  rw [countCalls_append, clientEvents, countCalls_append,
    hReloaded] at hReloads
  have hFirst := hOne 1 (sampleEnv (samplePage "Old"))
  have hSecond := hOne 2 (flaggedEnv flag)
  have hThird := hOne 4 (flaggedEnv flag')
  refine ⟨shown, hRead, ?_, ?_⟩ <;> omega

/-
  A scraper never sees a counter go back: of two pages, one
  asked for after the other was answered, the later one has
  the same lines with numbers that are at least as high.
-/
theorem scrapes_in_order
    {between : List (Event (gateway lib state))}
    {page' : Nat} {answer' : Response Body}
    (hStarted : Started lib config files state shared)
    (hRun : Run (.initial shared) events after)
    (hEvents :
      events =
        first ++ .start page .metrics ::
          (middle ++ .answer page answer :: last))
    (hLater :
      last =
        between ++ .start page' .metrics ::
          (middle' ++ .answer page' answer' :: last'))
    (hPublic : (publicRequests events).card < 2 ^ 64)
    (hReloads : (reloads events).card < 2 ^ 64) :
    ∃ samples samples',
      readMetrics answer = some samples ∧
        readMetrics answer' = some samples' ∧
        List.Forall₂
          (fun old new =>
            old.label = new.label ∧ old.value ≤ new.value)
          samples samples' := by
  have hFew (counter : Counter) :=
    countCalls_lt hRun hPublic hReloads counter
  have hZero := hStarted.metrics_zero
  have hLaterEvents :
      events =
        (first ++ .start page .metrics ::
          (middle ++ .answer page answer :: between)) ++
          .start page' .metrics ::
            (middle' ++ .answer page' answer' :: last') := by
    rw [hEvents, hLater]
    simp
  have hEarlier := hRun
  rw [hEvents] at hEarlier
  rcases page_values hEarlier with ⟨values, rfl, hLoads⟩
  rw [hLaterEvents] at hRun
  rcases page_values hRun with ⟨values', rfl, hLoads'⟩
  refine ⟨_, _, readMetrics_metricsPage values,
    readMetrics_metricsPage values', ?_⟩
  rw [List.forall₂_map_left_iff, List.forall₂_map_right_iff,
    List.forall₂_same]
  intro counter hCounter
  refine ⟨rfl, ?_⟩
  have hLow :=
    (value_between hZero hEarlier (hEvents ▸ hFew counter)
      (hLoads counter hCounter)).2
  have hHigh :=
    (value_between hZero hRun (hLaterEvents ▸ hFew counter)
      (hLoads' counter hCounter)).1
  rw [countCalls_append, countCalls_start_cons,
    countCalls_append] at hHigh
  rw [countCalls_append] at hLow
  show (values counter).toNat ≤ (values' counter).toNat
  omega

/- A request is served between the two pages. -/
theorem scrapes_in_order_sample :
    ∃ flag flag' values values' after,
      Run (.initial sampleShared)
          (scrapedEvents flag flag' values values')
          after ∧
        ∃ samples samples',
          readMetrics (metricsPage values) =
              some samples ∧
            readMetrics (metricsPage values') =
              some samples' ∧
            List.Forall₂
              (fun old new =>
                old.label = new.label ∧
                  old.value ≤ new.value)
              samples samples' := by
  rcases run_scrapedEvents with
    ⟨flag, flag', values, values', after, hRun⟩
  refine ⟨flag, flag', values, values', after, hRun, ?_⟩
  have hFew := scrapedEvents_few flag flag' values values'
  have hEvents :
      scrapedEvents flag flag' values values' =
        clientEvents flag ++ Event.start 3 Incoming.metrics ::
          ((pageCounters.map (loadCall values)).map
              (Event.call 3) ++
            .answer 3 (metricsPage values) ::
              (requestEvents sampleExt sampleState 4
                  (flaggedEnv flag')
                  (getRequest manifestTarget .empty) ++
                pageEvents sampleExt sampleState 5
                  values')) := by
    simp [scrapedEvents, pageEvents]
  have hLater :
      requestEvents sampleExt sampleState 4
            (flaggedEnv flag')
            (getRequest manifestTarget .empty) ++
          pageEvents sampleExt sampleState 5 values' =
        requestEvents sampleExt sampleState 4
            (flaggedEnv flag')
            (getRequest manifestTarget .empty) ++
          Event.start 5 Incoming.metrics ::
            ((pageCounters.map (loadCall values')).map
                (Event.call 5) ++
              .answer 5 (metricsPage values') :: []) :=
    rfl
  exact scrapes_in_order sample_started hRun hEvents hLater
    hFew.1 hFew.2

end System

end AjarGateway
