import AjarGateway.Interleaving.Program
import Mathlib.Data.List.Induction
import Mathlib.Logic.Function.Basic

/-
  Interleaved execution of handler programs.

  A machine answers the operations of many handlers over one
  shared state.  Handlers start at any time, their atomic
  calls interleave in any order, a handler may panic inside
  a call or be cancelled while it waits for one, and the
  surroundings may change the shared state between calls.
  A run lists the events in the order they happened.

  Key definitions include:
    * `Interleaving.Machine`
    * `Interleaving.Step`
    * `Interleaving.Run`
    * `Interleaving.RunOf`

  Key theorems include:
    * `Interleaving.Run.split`
    * `Interleaving.Run.traced`
    * `Interleaving.Run.performs_of_answer`
-/

------------------------------------------------------------
-- Machines
------------------------------------------------------------

namespace Interleaving

/-
  The shared state of a pool of handlers.  `exec thread s
  call s'` says the call may be answered in `s`, leaving
  `s'`; a call with no such step is blocked.  `unwind thread
  s op s'` says the operation may panic in `s`, leaving `s'`
  once the handler has been unwound.
-/
structure Machine (S : Signature) (Answer : Type) where
  State : Type
  Handler : Type
  Change : Type
  program : Handler → Program S Answer
  exec : Nat → State → Call S → State → Prop
  unwind : Nat → State → S.Op → State → Prop
  cancellable : S.Op → Prop
  change : State → Change → State → Prop

/- The life of one handler. -/
inductive Thread (S : Signature) (Answer : Type) where
  | idle
  | running (rest : Program S Answer)
  | answered (answer : Answer)
  | panicked
  | cancelled

variable {S : Signature} {Answer : Type}

/- The events of a run. -/
inductive Event (M : Machine S Answer) where
  | start (thread : Nat) (handler : M.Handler)
  | call (thread : Nat) (call : Call S)
  | answer (thread : Nat) (answer : Answer)
  | panic (thread : Nat)
  | cancel (thread : Nat)
  | change (change : M.Change)

/- The shared state together with every handler. -/
structure Config (M : Machine S Answer) where
  state : M.State
  threads : Nat → Thread S Answer

namespace Config

variable {M : Machine S Answer}

/- Before any handler has started. -/
def initial (state : M.State) : Config M where
  state := state
  threads := fun _ => .idle

/- Replace one handler. -/
def setThread
    (c : Config M)
    (thread : Nat)
    (status : Thread S Answer) : Config M :=
  { c with threads := Function.update c.threads thread status }

@[simp] theorem setThread_state
    (c : Config M)
    (thread : Nat)
    (status : Thread S Answer) :
    (c.setThread thread status).state = c.state :=
  rfl

@[simp] theorem setThread_threads_self
    (c : Config M)
    (thread : Nat)
    (status : Thread S Answer) :
    (c.setThread thread status).threads thread = status := by
  simp [setThread]

theorem setThread_threads_of_ne
    (c : Config M)
    {thread other : Nat}
    (status : Thread S Answer)
    (hNe : other ≠ thread) :
    (c.setThread thread status).threads other =
      c.threads other := by
  simp [setThread, hNe]

end Config

end Interleaving

------------------------------------------------------------
-- Steps And Runs
------------------------------------------------------------

namespace Interleaving

variable {S : Signature} {Answer : Type}
variable {M : Machine S Answer}

/- One event of the pool. -/
inductive Step :
    Config M → Event M → Config M → Prop where
  | start
      {c : Config M} {thread : Nat} {handler : M.Handler}
      (hIdle : c.threads thread = .idle) :
      Step c (.start thread handler)
        (c.setThread thread (.running (M.program handler)))
  | call
      {c : Config M} {thread : Nat} {op : S.Op}
      {next : S.Reply op → Program S Answer}
      {reply : S.Reply op} {state : M.State}
      (hRunning :
        c.threads thread = .running (.call op next))
      (hExec : M.exec thread c.state ⟨op, reply⟩ state) :
      Step c (.call thread ⟨op, reply⟩)
        ({ c with state := state }.setThread thread
          (.running (next reply)))
  | answer
      {c : Config M} {thread : Nat} {answer : Answer}
      (hRunning :
        c.threads thread = .running (.ret answer)) :
      Step c (.answer thread answer)
        (c.setThread thread (.answered answer))
  | panic
      {c : Config M} {thread : Nat} {op : S.Op}
      {next : S.Reply op → Program S Answer}
      {state : M.State}
      (hRunning :
        c.threads thread = .running (.call op next))
      (hUnwind : M.unwind thread c.state op state) :
      Step c (.panic thread)
        ({ c with state := state }.setThread thread
          .panicked)
  | cancel
      {c : Config M} {thread : Nat} {op : S.Op}
      {next : S.Reply op → Program S Answer}
      (hRunning :
        c.threads thread = .running (.call op next))
      (hCancellable : M.cancellable op) :
      Step c (.cancel thread)
        (c.setThread thread .cancelled)
  | change
      {c : Config M} {change : M.Change} {state : M.State}
      (hChange : M.change c.state change state) :
      Step c (.change change) { c with state := state }

/- A finite run, with its events in order. -/
inductive Run (start : Config M) :
    List (Event M) → Config M → Prop where
  | nil : Run start [] start
  | snoc
      {events : List (Event M)} {c : Config M}
      {event : Event M} {after : Config M}
      (hRun : Run start events c)
      (hStep : Step c event after) :
      Run start (events ++ [event]) after

theorem Run.last
    {start after : Config M}
    {events : List (Event M)} {event : Event M}
    (hRun : Run start (events ++ [event]) after) :
    ∃ c, Run start events c ∧ Step c event after := by
  generalize hEvents : events ++ [event] = whole at hRun
  cases hRun with
  | nil => simp at hEvents
  | snoc hInit hStep =>
      rcases List.append_inj' hEvents rfl with
        ⟨rfl, hEvent⟩
      rw [List.singleton_inj] at hEvent
      subst hEvent
      exact ⟨_, hInit, hStep⟩

theorem Run.append
    {start middle finish : Config M}
    {first second : List (Event M)}
    (hFirst : Run start first middle)
    (hSecond : Run middle second finish) :
    Run start (first ++ second) finish := by
  induction hSecond with
  | nil => simpa using hFirst
  | snoc _ hStep ih =>
      rw [← List.append_assoc]
      exact ih.snoc hStep

/- A run may be cut at every position. -/
theorem Run.split
    {start finish : Config M}
    {first second : List (Event M)}
    (hRun : Run start (first ++ second) finish) :
    ∃ middle,
      Run start first middle ∧
        Run middle second finish := by
  induction second using List.reverseRecOn
      generalizing finish with
  | nil =>
      exact ⟨finish, by simpa using hRun, .nil⟩
  | append_singleton second event ih =>
      rw [← List.append_assoc] at hRun
      rcases hRun.last with ⟨c, hInit, hStep⟩
      rcases ih hInit with ⟨middle, hFirst, hSecond⟩
      exact ⟨middle, hFirst, hSecond.snoc hStep⟩

/- Cut a run just before and just after one event. -/
theorem Run.split_at
    {start finish : Config M}
    {first second : List (Event M)} {event : Event M}
    (hRun : Run start (first ++ event :: second) finish) :
    ∃ before after,
      Run start first before ∧ Step before event after ∧
        Run after second finish := by
  rw [List.append_cons] at hRun
  rcases hRun.split with ⟨after, hInit, hSecond⟩
  rcases hInit.last with ⟨before, hFirst, hStep⟩
  exact ⟨before, after, hFirst, hStep, hSecond⟩

/- A run whose steps are all allowed. -/
inductive RunOf
    (allowed : Config M → Event M → Prop)
    (start : Config M) :
    List (Event M) → Config M → Prop where
  | nil : RunOf allowed start [] start
  | snoc
      {events : List (Event M)} {c : Config M}
      {event : Event M} {after : Config M}
      (hRun : RunOf allowed start events c)
      (hAllowed : allowed c event)
      (hStep : Step c event after) :
      RunOf allowed start (events ++ [event]) after

theorem RunOf.run
    {allowed : Config M → Event M → Prop}
    {start after : Config M} {events : List (Event M)}
    (hRun : RunOf allowed start events after) :
    Run start events after := by
  induction hRun with
  | nil => exact .nil
  | snoc _ _ hStep ih => exact ih.snoc hStep

end Interleaving

------------------------------------------------------------
-- The Events Of One Handler
------------------------------------------------------------

namespace Interleaving

variable {S : Signature} {Answer : Type}
variable {M : Machine S Answer}

/- The handler an event starts for one thread. -/
def Event.startOf (thread : Nat) :
    Event M → Option M.Handler
| .start other handler =>
    if other = thread then some handler else none
| _ => none

/- The call an event performs for one thread. -/
def Event.callOf (thread : Nat) :
    Event M → Option (Call S)
| .call other performed =>
    if other = thread then some performed else none
| _ => none

/- The answer an event gives for one thread. -/
def Event.answerOf (thread : Nat) :
    Event M → Option Answer
| .answer other given =>
    if other = thread then some given else none
| _ => none

/- The handlers started as one thread. -/
def startsOf
    (thread : Nat)
    (events : List (Event M)) : List M.Handler :=
  events.filterMap (Event.startOf thread)

/- The calls performed by one thread, in order. -/
def callsOf
    (thread : Nat)
    (events : List (Event M)) : List (Call S) :=
  events.filterMap (Event.callOf thread)

/- The change an event makes from outside. -/
def Event.changeOf : Event M → Option M.Change
| .change made => some made
| _ => none

/- The changes made from outside, in order. -/
def changesOf (events : List (Event M)) : List M.Change :=
  events.filterMap Event.changeOf

@[simp] theorem changesOf_nil :
    changesOf ([] : List (Event M)) = [] :=
  rfl

@[simp] theorem changesOf_append
    (first second : List (Event M)) :
    changesOf (first ++ second) =
      changesOf first ++ changesOf second :=
  List.filterMap_append

@[simp] theorem changesOf_change_cons
    (made : M.Change)
    (rest : List (Event M)) :
    changesOf (.change made :: rest) =
      made :: changesOf rest :=
  rfl

@[simp] theorem changesOf_start_cons
    (thread : Nat)
    (handler : M.Handler)
    (rest : List (Event M)) :
    changesOf (.start thread handler :: rest) =
      changesOf rest :=
  rfl

@[simp] theorem changesOf_call_cons
    (thread : Nat)
    (call : Call S)
    (rest : List (Event M)) :
    changesOf (.call thread call :: rest) =
      changesOf rest :=
  rfl

@[simp] theorem changesOf_answer_cons
    (thread : Nat)
    (answer : Answer)
    (rest : List (Event M)) :
    changesOf (.answer thread answer :: rest) =
      changesOf rest :=
  rfl

@[simp] theorem changesOf_calls
    (thread : Nat)
    (calls : List (Call S)) :
    changesOf
        (calls.map (Event.call thread) : List (Event M)) =
      [] := by
  simp [changesOf, Event.changeOf, Function.comp_def]

/- The answers given by one thread. -/
def answersOf
    (thread : Nat)
    (events : List (Event M)) : List Answer :=
  events.filterMap (Event.answerOf thread)

theorem startsOf_snoc
    (thread : Nat)
    (events : List (Event M))
    (event : Event M) :
    startsOf thread (events ++ [event]) =
      startsOf thread events ++
        (event.startOf thread).toList := by
  cases hStart : event.startOf thread <;>
    simp [startsOf, hStart]

theorem callsOf_snoc
    (thread : Nat)
    (events : List (Event M))
    (event : Event M) :
    callsOf thread (events ++ [event]) =
      callsOf thread events ++
        (event.callOf thread).toList := by
  cases hCall : event.callOf thread <;>
    simp [callsOf, hCall]

theorem answersOf_snoc
    (thread : Nat)
    (events : List (Event M))
    (event : Event M) :
    answersOf thread (events ++ [event]) =
      answersOf thread events ++
        (event.answerOf thread).toList := by
  cases hAnswer : event.answerOf thread <;>
    simp [answersOf, hAnswer]

theorem mem_startsOf_iff
    (thread : Nat)
    (events : List (Event M))
    (handler : M.Handler) :
    handler ∈ startsOf thread events ↔
      .start thread handler ∈ events := by
  simp only [startsOf, List.mem_filterMap]
  constructor
  · rintro ⟨event, hEvent, hStart⟩
    cases event <;> simp [Event.startOf] at hStart
    rcases hStart with ⟨rfl, rfl⟩
    exact hEvent
  · intro hEvent
    exact ⟨_, hEvent, by simp [Event.startOf]⟩

theorem mem_callsOf_iff
    (thread : Nat)
    (events : List (Event M))
    (call : Call S) :
    call ∈ callsOf thread events ↔
      .call thread call ∈ events := by
  simp only [callsOf, List.mem_filterMap]
  constructor
  · rintro ⟨event, hEvent, hCall⟩
    cases event <;> simp [Event.callOf] at hCall
    rcases hCall with ⟨rfl, rfl⟩
    exact hEvent
  · intro hEvent
    exact ⟨_, hEvent, by simp [Event.callOf]⟩

theorem mem_answersOf_iff
    (thread : Nat)
    (events : List (Event M))
    (answer : Answer) :
    answer ∈ answersOf thread events ↔
      .answer thread answer ∈ events := by
  simp only [answersOf, List.mem_filterMap]
  constructor
  · rintro ⟨event, hEvent, hAnswer⟩
    cases event <;> simp [Event.answerOf] at hAnswer
    rcases hAnswer with ⟨rfl, rfl⟩
    exact hEvent
  · intro hEvent
    exact ⟨_, hEvent, by simp [Event.answerOf]⟩

end Interleaving

------------------------------------------------------------
-- Every Handler Performs Its Program
------------------------------------------------------------

namespace Interleaving

variable {S : Signature} {Answer : Type}
variable {M : Machine S Answer}

/- The thread an event belongs to. -/
def Event.thread? : Event M → Option Nat
| .start thread _ => some thread
| .call thread _ => some thread
| .answer thread _ => some thread
| .panic thread => some thread
| .cancel thread => some thread
| .change _ => none

/-
  What the events so far say about one handler: it has been
  started at most once, and its calls are calls its program
  makes, with its present status as the remainder.
-/
def Traced
    (thread : Nat)
    (events : List (Event M)) :
    Thread S Answer → Prop
| .idle =>
    startsOf thread events = [] ∧
      callsOf thread events = [] ∧
        answersOf thread events = []
| .running rest =>
    ∃ handler,
      startsOf thread events = [handler] ∧
        answersOf thread events = [] ∧
          Performs (M.program handler)
            (callsOf thread events) rest
| .answered answer =>
    ∃ handler,
      startsOf thread events = [handler] ∧
        answersOf thread events = [answer] ∧
          Performs (M.program handler)
            (callsOf thread events) (.ret answer)
| .panicked | .cancelled =>
    ∃ handler rest,
      startsOf thread events = [handler] ∧
        answersOf thread events = [] ∧
          Performs (M.program handler)
            (callsOf thread events) rest

/- An event says nothing about the other handlers. -/
theorem Event.startOf_of_other
    {thread : Nat} {event : Event M}
    (hOther : event.thread? ≠ some thread) :
    event.startOf thread = none := by
  cases event <;> simp_all [Event.startOf, Event.thread?]

theorem Event.callOf_of_other
    {thread : Nat} {event : Event M}
    (hOther : event.thread? ≠ some thread) :
    event.callOf thread = none := by
  cases event <;> simp_all [Event.callOf, Event.thread?]

theorem Event.answerOf_of_other
    {thread : Nat} {event : Event M}
    (hOther : event.thread? ≠ some thread) :
    event.answerOf thread = none := by
  cases event <;> simp_all [Event.answerOf, Event.thread?]

/- Another handler's event says nothing new. -/
theorem Traced.frame
    {thread : Nat} {events : List (Event M)}
    {event : Event M} {status : Thread S Answer}
    (hTraced : Traced thread events status)
    (hOther : event.thread? ≠ some thread) :
    Traced thread (events ++ [event]) status := by
  cases status <;>
    simpa [Traced, startsOf_snoc, callsOf_snoc,
      answersOf_snoc, Event.startOf_of_other hOther,
      Event.callOf_of_other hOther,
      Event.answerOf_of_other hOther] using hTraced

/- The step of a handler is recorded in its own history. -/
theorem Traced.step
    {thread : Nat} {events : List (Event M)}
    {event : Event M} {before after : Config M}
    (hTraced :
      Traced thread events (before.threads thread))
    (hStep : Step before event after)
    (hOwn : event.thread? = some thread) :
    Traced thread (events ++ [event])
      (after.threads thread) := by
  cases hStep with
  | @start _ handler hIdle =>
      cases hOwn
      rw [hIdle] at hTraced
      rcases hTraced with ⟨hStarts, hCalls, hAnswers⟩
      rw [Config.setThread_threads_self]
      refine ⟨handler, ?_, ?_, ?_⟩
      · simp [startsOf_snoc, hStarts, Event.startOf]
      · simp [answersOf_snoc, hAnswers, Event.answerOf]
      · simp [callsOf_snoc, hCalls, Event.callOf,
          Performs.done]
  | @call _ _ _ reply _ hRunning _ =>
      cases hOwn
      rw [hRunning] at hTraced
      rcases hTraced with
        ⟨handler, hStarts, hAnswers, hPerforms⟩
      rw [Config.setThread_threads_self]
      refine ⟨handler, ?_, ?_, ?_⟩
      · simpa [startsOf_snoc, Event.startOf] using hStarts
      · simpa [answersOf_snoc, Event.answerOf] using hAnswers
      · simpa [callsOf_snoc, Event.callOf] using
          hPerforms.snoc reply
  | answer hRunning =>
      cases hOwn
      rw [hRunning] at hTraced
      rcases hTraced with
        ⟨handler, hStarts, hAnswers, hPerforms⟩
      rw [Config.setThread_threads_self]
      refine ⟨handler, ?_, ?_, ?_⟩
      · simpa [startsOf_snoc, Event.startOf] using hStarts
      · simp [answersOf_snoc, hAnswers, Event.answerOf]
      · simpa [callsOf_snoc, Event.callOf] using hPerforms
  | panic hRunning _ | cancel hRunning _ =>
      cases hOwn
      rw [hRunning] at hTraced
      simp only [Config.setThread_threads_self, Traced,
        startsOf_snoc, callsOf_snoc, answersOf_snoc,
        Event.startOf, Event.callOf, Event.answerOf,
        Option.toList_none, List.append_nil]
      rcases hTraced with
        ⟨handler, hStarts, hAnswers, hPerforms⟩
      exact ⟨handler, _, hStarts, hAnswers, hPerforms⟩
  | change _ => cases hOwn

/- A step leaves every other handler as it was. -/
theorem Step.threads_of_ne
    {before after : Config M} {event : Event M}
    {thread : Nat}
    (hStep : Step before event after)
    (hOther : event.thread? ≠ some thread) :
    after.threads thread = before.threads thread := by
  cases hStep with
  | change _ => rfl
  | _ =>
      apply Config.setThread_threads_of_ne
      intro hEq
      exact hOther (congrArg some hEq.symm)

/- A handler that has ended stays as it ended. -/
theorem Run.threads_of_ended
    {before after : Config M} {events : List (Event M)}
    {thread : Nat}
    (hRun : Run before events after)
    (hIdle : before.threads thread ≠ .idle)
    (hEnded : ∀ program,
      before.threads thread ≠ .running program) :
    after.threads thread = before.threads thread := by
  induction hRun with
  | nil => rfl
  | @snoc events middle event after _ hStep ih =>
      rw [← ih] at hIdle hEnded ⊢
      apply hStep.threads_of_ne
      intro hOwn
      cases hStep with
      | start hFirst =>
          cases hOwn
          exact hIdle hFirst
      | call hRunning _ =>
          cases hOwn
          exact hEnded _ hRunning
      | answer hRunning =>
          cases hOwn
          exact hEnded _ hRunning
      | panic hRunning _ =>
          cases hOwn
          exact hEnded _ hRunning
      | cancel hRunning _ =>
          cases hOwn
          exact hEnded _ hRunning
      | change _ => cases hOwn

/- In every run, every handler performs its own program. -/
theorem Run.traced
    {state : M.State} {events : List (Event M)}
    {finish : Config M}
    (hRun : Run (.initial state) events finish)
    (thread : Nat) :
    Traced thread events (finish.threads thread) := by
  induction hRun with
  | nil =>
      exact ⟨rfl, rfl, rfl⟩
  | @snoc events before event after hRun hStep ih =>
      by_cases hOwn : event.thread? = some thread
      · exact ih.step hStep hOwn
      · rw [hStep.threads_of_ne hOwn]
        exact ih.frame hOwn

/- A handler has no history, or the history of one start. -/
theorem Traced.nil_or_started
    {thread : Nat} {events : List (Event M)}
    {status : Thread S Answer}
    (hTraced : Traced thread events status) :
    (startsOf thread events = [] ∧
        callsOf thread events = [] ∧
          answersOf thread events = []) ∨
      ∃ handler rest,
        startsOf thread events = [handler] ∧
          Performs (M.program handler)
            (callsOf thread events) rest ∧
          ∀ answer ∈ answersOf thread events,
            rest = .ret answer := by
  cases status with
  | idle => exact .inl hTraced
  | running rest =>
      rcases hTraced with
        ⟨handler, hStarts, hAnswers, hPerforms⟩
      exact .inr
        ⟨handler, rest, hStarts, hPerforms, by simp [hAnswers]⟩
  | answered answer =>
      rcases hTraced with
        ⟨handler, hStarts, hAnswers, hPerforms⟩
      exact .inr
        ⟨handler, _, hStarts, hPerforms, by simp [hAnswers]⟩
  | panicked | cancelled =>
      rcases hTraced with
        ⟨handler, rest, hStarts, hAnswers, hPerforms⟩
      exact .inr
        ⟨handler, rest, hStarts, hPerforms, by simp [hAnswers]⟩

/- An answered handler has performed its whole program. -/
theorem Run.performs_of_answer
    {state : M.State} {events : List (Event M)}
    {finish : Config M} {thread : Nat} {answer : Answer}
    (hRun : Run (.initial state) events finish)
    (hAnswer : .answer thread answer ∈ events) :
    ∃ handler,
      startsOf thread events = [handler] ∧
        Performs (M.program handler)
          (callsOf thread events) (.ret answer) := by
  have hMem : answer ∈ answersOf thread events :=
    (mem_answersOf_iff thread events answer).mpr hAnswer
  rcases (hRun.traced thread).nil_or_started with
    ⟨_, _, hAnswers⟩ |
      ⟨handler, rest, hStarts, hPerforms, hRest⟩
  · simp [hAnswers] at hMem
  · rw [hRest answer hMem] at hPerforms
    exact ⟨handler, hStarts, hPerforms⟩

/-
  A call in a run continues the calls of its own handler,
  and the machine allowed it in the state it was made in.
-/
theorem Run.performs_of_call
    {state : M.State} {finish : Config M}
    {first second : List (Event M)}
    {thread : Nat} {call : Call S}
    (hRun :
      Run (.initial state)
        (first ++ .call thread call :: second) finish) :
    ∃ before after handler rest,
      Run (.initial state) first before ∧
        Run after second finish ∧
        M.exec thread before.state call after.state ∧
        startsOf thread first = [handler] ∧
        Performs (M.program handler)
          (callsOf thread first ++ [call]) rest := by
  rcases hRun.split_at with
    ⟨before, after, hBefore, hStep, hAfter⟩
  cases hStep with
  | call hRunning hExec =>
      have hTraced := hBefore.traced thread
      rw [hRunning] at hTraced
      rcases hTraced with
        ⟨handler, hStarts, _, hPerforms⟩
      exact ⟨before, _, handler, _, hBefore, hAfter, hExec,
        hStarts, hPerforms.snoc _⟩

/- The calls of a started handler are calls of its program. -/
theorem Run.performs_of_start
    {state : M.State} {events : List (Event M)}
    {finish : Config M} {thread : Nat}
    {handler : M.Handler}
    (hRun : Run (.initial state) events finish)
    (hStart : .start thread handler ∈ events) :
    startsOf thread events = [handler] ∧
      ∃ rest,
        Performs (M.program handler)
          (callsOf thread events) rest := by
  have hMem : handler ∈ startsOf thread events :=
    (mem_startsOf_iff thread events handler).mpr hStart
  rcases (hRun.traced thread).nil_or_started with
    ⟨hStarts, _, _⟩ |
      ⟨started, rest, hStarts, hPerforms, _⟩
  · simp [hStarts] at hMem
  · rw [hStarts, List.mem_singleton] at hMem
    subst hMem
    exact ⟨hStarts, rest, hPerforms⟩

/- A handler that has panicked stays so. -/
theorem Run.panicked_of_panic
    {start finish : Config M} {events : List (Event M)}
    {thread : Nat}
    (hRun : Run start events finish)
    (hPanic : .panic thread ∈ events) :
    finish.threads thread = .panicked := by
  induction hRun with
  | nil => cases hPanic
  | @snoc events before event after hRun hStep ih =>
      rcases List.mem_append.mp hPanic with hEarlier | hLast
      · have hBefore := ih hEarlier
        have hOther : event.thread? ≠ some thread := by
          intro hOwn
          cases hStep with
          | change _ => cases hOwn
          | start hStatus
          | call hStatus _
          | answer hStatus
          | panic hStatus _
          | cancel hStatus _ =>
              cases hOwn
              rw [hBefore] at hStatus
              cases hStatus
        rw [hStep.threads_of_ne hOther, hBefore]
      · rw [List.mem_singleton] at hLast
        subst hLast
        cases hStep with
        | panic _ _ => exact Config.setThread_threads_self ..

/- A handler that answers has not panicked. -/
theorem Run.panic_not_mem_of_answer
    {state : M.State} {events : List (Event M)}
    {finish : Config M} {thread : Nat} {answer : Answer}
    (hRun : Run (.initial state) events finish)
    (hAnswer : .answer thread answer ∈ events) :
    .panic thread ∉ events := by
  intro hPanic
  have hTraced := hRun.traced thread
  rw [hRun.panicked_of_panic hPanic] at hTraced
  rcases hTraced with ⟨_, _, _, hAnswers, _⟩
  rw [← mem_answersOf_iff, hAnswers] at hAnswer
  cases hAnswer

/- A handler that was answered runs no more. -/
theorem Run.not_running_of_answer
    {state : M.State} {events : List (Event M)}
    {finish : Config M} {thread : Nat} {answer : Answer}
    (hRun : Run (.initial state) events finish)
    (hAnswer : .answer thread answer ∈ events)
    (program : Program S Answer) :
    finish.threads thread ≠ .running program := by
  intro hRunning
  have hTraced := hRun.traced thread
  rw [hRunning] at hTraced
  rcases hTraced with ⟨_, _, hAnswers, _⟩
  rw [← mem_answersOf_iff, hAnswers] at hAnswer
  cases hAnswer

/- A handler makes no call before it starts. -/
theorem Run.start_before_call
    {state : M.State} {finish : Config M}
    {first second : List (Event M)}
    {thread : Nat} {handler : M.Handler}
    (hRun :
      Run (.initial state) (first ++ second) finish)
    (hStart : .start thread handler ∈ second) :
    callsOf thread first = [] ∧
      answersOf thread first = [] := by
  rcases List.append_of_mem hStart with
    ⟨earlier, later, rfl⟩
  rw [← List.append_assoc] at hRun
  rcases hRun.split_at with ⟨before, _, hBefore, hStep, _⟩
  have hIdle : before.threads thread = .idle := by
    cases hStep with
    | start hIdle => exact hIdle
  have hTraced := hBefore.traced thread
  rw [hIdle] at hTraced
  rcases hTraced with ⟨_, hCalls, hAnswers⟩
  simp only [callsOf, answersOf, List.filterMap_append,
    List.append_eq_nil_iff] at hCalls hAnswers
  exact ⟨hCalls.1, hAnswers.1⟩

/- A call is made by a handler that has not answered. -/
theorem Run.no_answer_before_call
    {shared : M.State} {after : Config M}
    {first second : List (Event M)}
    {thread : Nat} {call : Call S}
    (hRun :
      Run (.initial shared)
        (first ++ .call thread call :: second) after) :
    answersOf thread first = [] := by
  rcases hRun.split_at with ⟨before, _, hBefore, hStep, _⟩
  have hTraced := hBefore.traced thread
  cases hStep with
  | call hRunning _ =>
      rw [hRunning] at hTraced
      rcases hTraced with ⟨_, _, hAnswers, _⟩
      exact hAnswers

/- A handler makes its calls between start and answer. -/
theorem Run.call_between
    {state : M.State} {finish : Config M}
    {first middle last : List (Event M)}
    {thread : Nat} {handler : M.Handler}
    {answer : Answer} {call : Call S}
    (hRun :
      Run (.initial state)
        (first ++ .start thread handler ::
          (middle ++ .answer thread answer :: last))
        finish)
    (hCall :
      .call thread call ∈
        first ++ .start thread handler ::
          (middle ++ .answer thread answer :: last)) :
    .call thread call ∈ middle := by
  have hBefore :=
    (hRun.start_before_call List.mem_cons_self).1
  rcases List.mem_append.mp hCall with hFirst | hRest
  · rw [← mem_callsOf_iff, hBefore] at hFirst
    cases hFirst
  rcases List.mem_cons.mp hRest with hStart | hRest
  · cases hStart
  rcases List.mem_append.mp hRest with hIn | hRest
  · exact hIn
  rcases List.mem_cons.mp hRest with hSame | hLast
  · cases hSame
  -- an answered handler makes no call
  rcases List.append_of_mem hLast with ⟨before, later, rfl⟩
  have hParts :
      first ++ .start thread handler ::
          (middle ++ .answer thread answer ::
            (before ++ .call thread call :: later)) =
        (first ++ .start thread handler ::
            (middle ++ .answer thread answer :: before)) ++
          .call thread call :: later := by
    simp
  rw [hParts] at hRun
  have hNone := hRun.no_answer_before_call
  have hAnswered :
      answer ∈ answersOf thread
        (first ++ .start thread handler ::
          (middle ++ .answer thread answer :: before)) :=
    (mem_answersOf_iff _ _ _).mpr (by simp)
  rw [hNone] at hAnswered
  cases hAnswered

end Interleaving

------------------------------------------------------------
-- A Handler That Runs Alone
------------------------------------------------------------

namespace Interleaving

variable {S : Signature} {Answer : Type}
variable {M : Machine S Answer}

theorem Run.cons
    {start middle finish : Config M}
    {event : Event M} {events : List (Event M)}
    (hStep : Step start event middle)
    (hRun : Run middle events finish) :
    Run start (event :: events) finish :=
  (Run.nil.snoc hStep).append hRun

/- The machine allows these calls of one handler in a row. -/
inductive Machine.Execs (M : Machine S Answer)
    (thread : Nat) :
    M.State → List (Call S) → M.State → Prop where
  | nil (state : M.State) : Execs M thread state [] state
  | cons
      {before middle after : M.State}
      {call : Call S} {calls : List (Call S)}
      (hExec : M.exec thread before call middle)
      (hRest : Execs M thread middle calls after) :
      Execs M thread before (call :: calls) after

/- What each of the calls preserves holds after them. -/
theorem Machine.Execs.preserves
    {thread : Nat} {before after : M.State}
    {calls : List (Call S)}
    (invariant : M.State → Prop)
    (hExecs : M.Execs thread before calls after)
    (hCall : ∀ call ∈ calls, ∀ state next,
      M.exec thread state call next →
        invariant state → invariant next)
    (hBefore : invariant before) :
    invariant after := by
  induction hExecs with
  | nil _ => exact hBefore
  | @cons before middle after call calls hExec _ ih =>
      rw [List.forall_mem_cons] at hCall
      apply ih hCall.2
      exact hCall.1 before middle hExec hBefore

@[simp] theorem Config.setThread_setThread
    (c : Config M)
    (thread : Nat)
    (first second : Thread S Answer)
    (state : M.State) :
    ({ c.setThread thread first with
        state := state }).setThread thread second =
      ({ c with state := state }).setThread thread
        second := by
  simp [Config.setThread]

/- A running handler makes its next calls without a break. -/
theorem Run.of_performs
    {c : Config M} {thread : Nat}
    {program rest : Program S Answer}
    {calls : List (Call S)} {state : M.State}
    (hRunning : c.threads thread = .running program)
    (hPerforms : Performs program calls rest)
    (hExecs : M.Execs thread c.state calls state) :
    Run c (calls.map (Event.call thread))
      (({ c with state := state }).setThread thread
        (.running rest)) := by
  induction hPerforms generalizing c with
  | done program =>
      cases hExecs
      have hSame :
          c.setThread thread (.running program) = c := by
        rw [Config.setThread, ← hRunning,
          Function.update_eq_self]
      rw [hSame]
      exact .nil
  | @step op next reply calls rest tail ih =>
      cases hExecs with
      | @cons _ middle _ _ _ hExec hRest =>
          have hStep := Step.call hRunning hExec
          have hTail := @ih
            (({ c with state := middle }).setThread thread
              (.running (next reply)))
            (Config.setThread_threads_self _ _ _) hRest
          rw [Config.setThread_setThread] at hTail
          exact Run.cons hStep hTail

/- The same, naming what is left of the configuration. -/
theorem Run.exists_of_performs
    {c : Config M} {thread : Nat}
    {program rest : Program S Answer}
    {calls : List (Call S)} {state : M.State}
    (hRunning : c.threads thread = .running program)
    (hPerforms : Performs program calls rest)
    (hExecs : M.Execs thread c.state calls state) :
    ∃ next : Config M,
      Run c (calls.map (Event.call thread)) next ∧
        next.state = state ∧
          next.threads thread = .running rest :=
  ⟨_, Run.of_performs hRunning hPerforms hExecs, rfl,
    Config.setThread_threads_self _ _ _⟩

/- A handler may start, run and answer without a break. -/
theorem Run.whole
    {c : Config M} {thread : Nat}
    {handler : M.Handler} {answer : Answer}
    {calls : List (Call S)} {state : M.State}
    (hIdle : c.threads thread = .idle)
    (hPerforms :
      Performs (M.program handler) calls (.ret answer))
    (hExecs : M.Execs thread c.state calls state) :
    Run c
      (.start thread handler ::
        (calls.map (Event.call thread) ++
          [.answer thread answer]))
      (({ c with state := state }).setThread thread
        (.answered answer)) := by
  have hStart : Step c (.start thread handler) _ :=
    .start hIdle
  have hCalls :=
    Run.of_performs
      (c := c.setThread thread (.running (M.program handler)))
      (Config.setThread_threads_self _ _ _) hPerforms hExecs
  have hAnswer := hCalls.snoc
    (.answer (Config.setThread_threads_self _ _ _))
  rw [Config.setThread_setThread] at hAnswer
  apply Run.cons hStart
  simpa [Config.setThread] using hAnswer

end Interleaving
