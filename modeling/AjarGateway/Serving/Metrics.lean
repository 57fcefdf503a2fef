import AjarGateway.Serving.Counts

/-
  The metrics page.

  The page is rendered from one load of each counter, made
  one after the other in a fixed order, and counts nothing
  itself.

  Key definitions include:
    * `Serving.metricsPage`
    * `Serving.loadCall`
    * `Serving.pageCounters`

  Key theorems include:
    * `Serving.performs_metricsEndpoint`
    * `Serving.added_metricsEndpoint`
-/

------------------------------------------------------------
-- The Rendered Page
------------------------------------------------------------

namespace AjarGateway

namespace Serving

open Http Interleaving Store

/- The counters in the order in which they are loaded. -/
def pageCounters : List Counter :=
  [.requestsTotal, .upstreamErrorsTotal, .viewsServedTotal,
    .manifestServedTotal, .negotiationPassthroughTotal,
    .storeReloadsTotal, .storeReloadFailuresTotal]

/- The load of a counter that found a value. -/
def loadCall
    (values : Counter → UInt64)
    (counter : Counter) : Call gatewaySignature :=
  ⟨.loadCounter counter, values counter⟩

/- One line for each counter. -/
def pageText (values : Counter → UInt64) :
    List Counter → String
| [] => ""
| counter :: rest =>
    counter.label ++ " " ++
      toString (values counter).toNat ++ "\n" ++
        pageText values rest

/- The page that shows given values. -/
def metricsPage (values : Counter → UInt64) : Response Body :=
  contentResponse "text/plain; charset=utf-8"
    (Rust.utf8 (pageText values pageCounters))

theorem pageText_congr
    {values values' : Counter → UInt64}
    {counters : List Counter}
    (hSame : ∀ counter ∈ counters,
      values counter = values' counter) :
    pageText values counters = pageText values' counters := by
  induction counters with
  | nil => rfl
  | cons counter rest ih =>
      rw [List.forall_mem_cons] at hSame
      rw [pageText, pageText, hSame.1, ih hSame.2]

/- Rendering loads each counter once and shows the loads. -/
theorem performs_renderCounters
    {counters : List Counter}
    (hNodup : counters.Nodup)
    {calls : List (Call gatewaySignature)}
    {text : String}
    (hPerforms :
      Performs (renderCounters counters) calls
        (.ret text)) :
    ∃ values,
      calls = counters.map (loadCall values) ∧
        text = pageText values counters := by
  induction counters generalizing calls text with
  | nil =>
      rcases (performs_ret_iff _ _ _).mp hPerforms with
        ⟨rfl, hText⟩
      cases hText
      exact ⟨fun _ => 0, rfl, rfl⟩
  | cons counter rest ih =>
      rw [List.nodup_cons] at hNodup
      rw [renderCounters, performs_bind_iff] at hPerforms
      rcases hPerforms with
        ⟨first, second, value, rfl, hFirst, hSecond⟩
      have hLoad :=
        (performs_operation_iff (S := gatewaySignature)
          (.loadCounter counter) first value).mp hFirst
      rcases (performs_bind_iff _ _ _ _).mp hSecond with
        ⟨lines, last, rendered, rfl, hLines, hLast⟩
      rcases (performs_ret_iff _ _ _).mp hLast with
        ⟨rfl, hText⟩
      cases hText
      rcases ih hNodup.2 hLines with ⟨values, rfl, rfl⟩
      refine ⟨Function.update values counter value, ?_, ?_⟩
      · have hRest : ∀ other ∈ rest,
            loadCall values other =
              loadCall
                (Function.update values counter value)
                other := by
          intro other hOther
          have hNe : other ≠ counter := by
            rintro rfl
            exact hNodup.1 hOther
          rw [loadCall, loadCall,
            Function.update_of_ne hNe]
        rw [hLoad, List.map_cons, List.append_nil,
          ← List.map_congr_left hRest, loadCall,
          Function.update_self]
        rfl
      · have hRest : ∀ other ∈ rest,
            values other =
              Function.update values counter value other := by
          intro other hOther
          have hNe : other ≠ counter := by
            rintro rfl
            exact hNodup.1 hOther
          rw [Function.update_of_ne hNe]
        rw [pageText, Function.update_self,
          ← pageText_congr hRest]

theorem pageCounters_nodup : pageCounters.Nodup := by
  decide

/- A page is answered from seven loads in a row. -/
theorem performs_metricsEndpoint
    {calls : List (Call gatewaySignature)}
    {answer : Response Body}
    (hPerforms :
      Performs metricsEndpoint calls (.ret answer)) :
    ∃ values,
      calls = pageCounters.map (loadCall values) ∧
        answer = metricsPage values := by
  unfold metricsEndpoint at hPerforms
  rcases (performs_bind_iff _ _ _ _).mp hPerforms with
    ⟨loads, last, text, rfl, hLoads, hLast⟩
  rcases (performs_ret_iff _ _ _).mp hLast with
    ⟨rfl, hAnswer⟩
  cases hAnswer
  rcases performs_renderCounters pageCounters_nodup hLoads
    with ⟨values, rfl, rfl⟩
  exact ⟨values, List.append_nil _, rfl⟩

theorem performs_pageText
    (values : Counter → UInt64)
    (counters : List Counter) :
    Performs (renderCounters counters)
      (counters.map (loadCall values))
      (.ret (pageText values counters)) := by
  induction counters with
  | nil => exact .done _
  | cons counter rest ih =>
      have hLoad :
          Performs (loadCounter counter)
            [loadCall values counter]
            (.ret (values counter)) :=
        .step (.done _)
      apply (performs_bind_iff _ _ _ _).mpr
      refine ⟨_, _, _, rfl, hLoad, ?_⟩
      apply (performs_bind_iff _ _ _ _).mpr
      exact ⟨_, [], _, (List.append_nil _).symm, ih,
        .done _⟩

/- Every page can be rendered. -/
theorem performs_metricsPage (values : Counter → UInt64) :
    Performs metricsEndpoint
      (pageCounters.map (loadCall values))
      (.ret (metricsPage values)) := by
  unfold metricsEndpoint
  apply (performs_bind_iff _ _ _ _).mpr
  exact ⟨_, [], _, (List.append_nil _).symm,
    performs_pageText values pageCounters, .done _⟩

/- A page adds to no counter. -/
theorem added_metricsEndpoint
    {calls : List (Call gatewaySignature)}
    {rest : GatewayProgram (Response Body)}
    (hPerforms : Performs metricsEndpoint calls rest)
    (counter : Counter) :
    added counter calls = 0 := by
  rcases performs_metricsEndpoint
      (hPerforms.append
        (performs_callsWith (default : Surroundings).reply
          rest)) with
    ⟨values, hCalls, _⟩
  have hNone :
      added counter (pageCounters.map (loadCall values)) =
        0 := by
    unfold added
    rw [List.countP_eq_zero]
    intro call hCall
    rcases List.mem_map.mp hCall with ⟨loaded, _, rfl⟩
    simp [loadCall, GatewayOp.adds]
  rw [← hCalls, added_append] at hNone
  omega

end Serving

end AjarGateway
