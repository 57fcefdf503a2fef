import AjarGateway.Interleaving.Pool
import Mathlib.Algebra.BigOperators.Group.Finset.Piecewise
import Mathlib.Algebra.Order.BigOperators.Group.Finset

/-
  Counting the calls of a run.

  The calls of a run are the calls of the handlers that were
  started in it.  What holds of the numbers of calls of each
  handler holds of their sums.

  Key definitions include:
    * `Interleaving.startedThreads`
    * `Interleaving.countCalls`

  Key theorems include:
    * `Interleaving.Run.countCalls_eq_sum`
    * `Interleaving.Run.countCalls_eq_card`
    * `Interleaving.Performs.extend`
    * `Interleaving.Run.cancelled_waits`
-/

------------------------------------------------------------
-- Numbers Of Calls
------------------------------------------------------------

namespace Interleaving

variable {S : Signature} {Answer : Type}
variable {M : Machine S Answer}

/- The thread an event starts. -/
def Event.started? : Event M → Option Nat
| .start thread _ => some thread
| _ => none

/- The threads of the handlers that have been started. -/
def startedThreads (events : List (Event M)) : Finset Nat :=
  (events.filterMap Event.started?).toFinset

theorem startedThreads_append
    (first second : List (Event M)) :
    startedThreads (first ++ second) =
      startedThreads first ∪ startedThreads second := by
  simp [startedThreads]

theorem mem_startedThreads_iff
    (events : List (Event M))
    (thread : Nat) :
    thread ∈ startedThreads events ↔
      ∃ handler, .start thread handler ∈ events := by
  simp only [startedThreads, List.mem_toFinset,
    List.mem_filterMap]
  constructor
  · rintro ⟨event, hEvent, hThread⟩
    cases event <;> simp [Event.started?] at hThread
    subst hThread
    exact ⟨_, hEvent⟩
  · rintro ⟨handler, hStart⟩
    exact ⟨_, hStart, rfl⟩

theorem startedThreads_card_le (events : List (Event M)) :
    (startedThreads events).card ≤ events.length :=
  (List.toFinset_card_le _).trans
    (List.length_filterMap_le _ _)

variable (p : Nat → Call S → Bool)

/- The event is a call of its thread that is counted. -/
def Event.counts : Event M → Bool
| .call thread made => p thread made
| _ => false

/- The number of calls in a run that are counted. -/
def countCalls (events : List (Event M)) : Nat :=
  events.countP (Event.counts p)

@[simp] theorem countCalls_nil :
    countCalls p ([] : List (Event M)) = 0 :=
  rfl

@[simp] theorem countCalls_append
    (first second : List (Event M)) :
    countCalls p (first ++ second) =
      countCalls p first + countCalls p second :=
  List.countP_append

theorem countCalls_cons
    (event : Event M)
    (events : List (Event M)) :
    countCalls p (event :: events) =
      (if event.counts p = true then 1 else 0) +
        countCalls p events := by
  rw [countCalls, List.countP_cons, Nat.add_comm, countCalls]

theorem countCalls_snoc
    (events : List (Event M))
    (event : Event M) :
    countCalls p (events ++ [event]) =
      countCalls p events +
        if event.counts p = true then 1 else 0 := by
  rw [countCalls_append]
  congr 1
  simp [countCalls, List.countP_cons]

/- The next call of a handler, and the events around it. -/
theorem exists_of_callsOf_cons
    {thread : Nat} {call : Call S}
    {calls : List (Call S)} {events : List (Event M)}
    (hCalls : callsOf thread events = call :: calls) :
    ∃ first second,
      events = first ++ .call thread call :: second ∧
        callsOf thread second = calls := by
  rcases List.filterMap_eq_cons_iff.mp hCalls with
    ⟨first, event, second, rfl, _, hCall, hRest⟩
  refine ⟨first, second, ?_, hRest⟩
  cases event <;> simp [Event.callOf] at hCall
  rcases hCall with ⟨rfl, rfl⟩
  rfl

/- One event more is one call more of its own thread. -/
theorem countP_callsOf_cons
    (event : Event M)
    (events : List (Event M))
    (thread : Nat) :
    (callsOf thread (event :: events)).countP (p thread) =
      (if event.counts p = true ∧
          event.thread? = some thread then 1 else 0) +
        (callsOf thread events).countP (p thread) := by
  unfold callsOf
  rw [List.filterMap_cons]
  cases event with
  | call other call =>
      by_cases hOwn : other = thread
      · subst hOwn
        simp [Event.callOf, Event.counts, Event.thread?,
          List.countP_cons, Nat.add_comm]
      · simp [Event.callOf, Event.thread?, hOwn]
  | _ => simp [Event.callOf, Event.counts]

/- The calls of a run are the calls of its callers. -/
theorem countCalls_eq_sum
    (events : List (Event M))
    (threads : Finset Nat)
    (hCallers : ∀ thread call,
      .call thread call ∈ events → thread ∈ threads) :
    countCalls p events =
      ∑ thread ∈ threads,
        (callsOf thread events).countP (p thread) := by
  induction events with
  | nil => simp [callsOf]
  | cons event events ih =>
      have hRest := ih fun thread call hCall =>
        hCallers thread call (List.mem_cons_of_mem _ hCall)
      simp only [countP_callsOf_cons, Finset.sum_add_distrib]
      rw [← hRest, countCalls, List.countP_cons, Nat.add_comm]
      congr 1
      cases hCounts : event.counts p with
      | false => simp
      | true =>
          cases event with
          | call thread call =>
              have hMem :=
                hCallers thread call List.mem_cons_self
              simp [Event.thread?, hMem]
          | _ => cases hCounts

/- Only handlers that were started make calls. -/
theorem Run.caller_started
    {state : M.State} {events : List (Event M)}
    {finish : Config M} {thread : Nat} {call : Call S}
    (hRun : Run (.initial state) events finish)
    (hCall : .call thread call ∈ events) :
    thread ∈ startedThreads events := by
  rw [← mem_callsOf_iff] at hCall
  rcases (hRun.traced thread).nil_or_started with
    ⟨_, hCalls, _⟩ | ⟨handler, _, hStarts, _⟩
  · rw [hCalls] at hCall
    cases hCall
  · apply (mem_startedThreads_iff events thread).mpr
    refine ⟨handler, ?_⟩
    rw [← mem_startsOf_iff, hStarts]
    exact List.mem_singleton_self _

theorem Run.countCalls_eq_sum
    {state : M.State} {events : List (Event M)}
    {finish : Config M}
    (hRun : Run (.initial state) events finish) :
    countCalls p events =
      ∑ thread ∈ startedThreads events,
        (callsOf thread events).countP (p thread) :=
  Interleaving.countCalls_eq_sum p events _
    fun _ _ hCall => hRun.caller_started hCall

/-
  When each handler makes at most one call that is counted,
  their number is that of the handlers which have made one.
-/
theorem Run.countCalls_eq_card
    {state : M.State} {events : List (Event M)}
    {finish : Config M}
    (hRun : Run (.initial state) events finish)
    (hOnce : ∀ thread ∈ startedThreads events,
      (callsOf thread events).countP (p thread) ≤ 1) :
    countCalls p events =
      ((startedThreads events).filter (fun thread =>
        (callsOf thread events).any (p thread) =
          true)).card := by
  rw [hRun.countCalls_eq_sum, Finset.card_filter]
  apply Finset.sum_congr rfl
  intro thread hThread
  have hLe := hOnce thread hThread
  by_cases hAny :
      (callsOf thread events).any (p thread) = true
  · rw [if_pos hAny]
    have hPos := List.countP_pos_iff.mpr
      (List.any_eq_true.mp hAny)
    omega
  · rw [if_neg hAny, List.countP_eq_zero]
    intro call hCall hCounts
    exact hAny (List.any_eq_true.mpr ⟨call, hCall, hCounts⟩)

end Interleaving

------------------------------------------------------------
-- Completed Calls
------------------------------------------------------------

namespace Interleaving

variable {S : Signature} {α : Type}

theorem Performs.append
    {program middle rest : Program S α}
    {first second : List (Call S)}
    (hFirst : Performs program first middle)
    (hSecond : Performs middle second rest) :
    Performs program (first ++ second) rest := by
  induction hFirst with
  | done program => exact hSecond
  | step tail ih => exact .step (ih hSecond)

/- A program that has stopped half-way can be completed. -/
theorem Performs.extend
    {program rest : Program S α}
    {calls : List (Call S)}
    (base : (op : S.Op) → S.Reply op)
    (hPerforms : Performs program calls rest) :
    Performs program (calls ++ rest.callsWith base)
      (.ret (rest.answerWith base)) :=
  hPerforms.append (performs_callsWith base rest)

/- What is left of a program depends on its calls only. -/
theorem Performs.unique
    {program rest rest' : Program S α}
    {calls : List (Call S)}
    (hFirst : Performs program calls rest)
    (hSecond : Performs program calls rest') :
    rest = rest' := by
  induction hFirst with
  | done program =>
      cases hSecond
      rfl
  | step tail ih =>
      cases hSecond with
      | step tail' => exact ih tail'

end Interleaving

------------------------------------------------------------
-- Handlers That Have Ended
------------------------------------------------------------

namespace Interleaving

variable {S : Signature} {Answer : Type}
variable {M : Machine S Answer}

/- A handler that has panicked did so in the run. -/
theorem Run.panic_mem
    {state : M.State} {events : List (Event M)}
    {finish : Config M} {thread : Nat}
    (hRun : Run (.initial state) events finish)
    (hStatus : finish.threads thread = .panicked) :
    .panic thread ∈ events := by
  induction hRun with
  | nil => cases hStatus
  | @snoc events before event after hRun hStep ih =>
      by_cases hOwn : event.thread? = some thread
      · cases hStep with
        | panic _ _ =>
            cases hOwn
            exact List.mem_append_right _
              (List.mem_singleton_self _)
        | change _ => cases hOwn
        | _ =>
            cases hOwn
            rw [Config.setThread_threads_self] at hStatus
            cases hStatus
      · rw [hStep.threads_of_ne hOwn] at hStatus
        exact List.mem_append_left _ (ih hStatus)

/- A handler that was cancelled waited for a call. -/
theorem Run.cancelled_waits
    {state : M.State} {events : List (Event M)}
    {finish : Config M} {thread : Nat}
    (hRun : Run (.initial state) events finish)
    (hStatus : finish.threads thread = .cancelled) :
    ∃ handler op next,
      startsOf thread events = [handler] ∧
        M.cancellable op ∧
          Performs (M.program handler)
            (callsOf thread events) (.call op next) := by
  induction hRun with
  | nil => cases hStatus
  | @snoc events before event after hRun hStep ih =>
      have hTraced := hRun.traced thread
      by_cases hOwn : event.thread? = some thread
      · cases hStep with
        | @cancel _ op next hRunning hCancellable =>
            cases hOwn
            rw [hRunning] at hTraced
            rcases hTraced with
              ⟨handler, hStarts, _, hPerforms⟩
            refine ⟨handler, op, next, ?_, hCancellable, ?_⟩
            · simpa [startsOf_snoc, Event.startOf] using
                hStarts
            · simpa [callsOf_snoc, Event.callOf] using
                hPerforms
        | change _ => cases hOwn
        | _ =>
            cases hOwn
            rw [Config.setThread_threads_self] at hStatus
            cases hStatus
      · rw [hStep.threads_of_ne hOwn] at hStatus
        rcases ih hStatus with
          ⟨handler, op, next, hStarts, hCancellable,
            hPerforms⟩
        refine ⟨handler, op, next, ?_, hCancellable, ?_⟩
        · simpa [startsOf_snoc,
            Event.startOf_of_other hOwn] using hStarts
        · simpa [callsOf_snoc,
            Event.callOf_of_other hOwn] using hPerforms

end Interleaving
