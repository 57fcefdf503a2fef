import AjarGateway.Interleaving.Pool

/-
  Linearizability of the handlers of a machine.

  A sequential object says what operations reply when they
  are performed one after the other.  A run is linearized
  when every handler has performed at most one operation,
  the operations in some order are a sequential history of
  the object, and the order respects real time: what has
  been answered before a handler starts comes before it.

  Key definitions include:
    * `Interleaving.SequentialObject`
    * `Interleaving.SequentialObject.Legal`
    * `Interleaving.Linearizes`
    * `Interleaving.Points`

  Key theorems include:
    * `Interleaving.SequentialObject.Legal.split_at`
    * `Interleaving.Points.linearizes`
-/

------------------------------------------------------------
-- Sequential Objects
------------------------------------------------------------

namespace Interleaving

/-
  A sequential object.  `apply s op reply s'` says that the
  operation may reply so in `s` and leave `s'`; `disturb`
  is what may happen to the object in between.
-/
structure SequentialObject where
  State : Type
  Op : Type
  Reply : Type
  apply : State → Op → Reply → State → Prop
  disturb : State → State → Prop

/- An operation that a thread has performed. -/
structure Operation (O : SequentialObject) where
  thread : Nat
  op : O.Op
  reply : O.Reply

namespace SequentialObject

variable {O : SequentialObject}

/- At a point an operation is applied, elsewhere none. -/
def Takes
    (O : SequentialObject)
    (state : O.State) :
    Option (O.Op × O.Reply) → O.State → Prop
| some (op, reply), next => O.apply state op reply next
| none, next => next = state

/- The operations in order take one state to another. -/
inductive Legal (O : SequentialObject) (first : O.State) :
    List (Operation O) → O.State → Prop where
  | nil : Legal O first [] first
  | apply
      {order : List (Operation O)} {state last : O.State}
      {operation : Operation O}
      (hLegal : Legal O first order state)
      (hApply :
        O.apply state operation.op operation.reply last) :
      Legal O first (order ++ [operation]) last
  | disturb
      {order : List (Operation O)} {state last : O.State}
      (hLegal : Legal O first order state)
      (hDisturb : O.disturb state last) :
      Legal O first order last

/- A sequential history may be cut at every position. -/
theorem Legal.split
    {first last : O.State}
    {earlier later : List (Operation O)}
    (hLegal : O.Legal first (earlier ++ later) last) :
    ∃ middle,
      O.Legal first earlier middle ∧
        O.Legal middle later last := by
  generalize hOrder : earlier ++ later = order at hLegal
  induction hLegal generalizing later with
  | nil =>
      rcases List.append_eq_nil_iff.mp hOrder with
        ⟨rfl, rfl⟩
      exact ⟨first, .nil, .nil⟩
  | disturb _ hDisturb ih =>
      rcases ih hOrder with ⟨middle, hEarlier, hLater⟩
      exact ⟨middle, hEarlier, hLater.disturb hDisturb⟩
  | @apply order state last operation hInit hApply ih =>
      rcases List.eq_nil_or_concat later with
        rfl | ⟨front, final, rfl⟩
      · rw [List.append_nil] at hOrder
        subst hOrder
        exact ⟨last, hInit.apply hApply, .nil⟩
      · rw [List.concat_eq_append,
          ← List.append_assoc] at hOrder
        rcases List.append_inj' hOrder rfl with
          ⟨hFront, hFinal⟩
        rw [List.singleton_inj] at hFinal
        subst hFinal
        rcases ih hFront with ⟨middle, hEarlier, hLater⟩
        exact ⟨middle, hEarlier, by
          simpa using hLater.apply hApply⟩

/- Cut a history before and after one operation. -/
theorem Legal.split_at
    {first last : O.State}
    {earlier later : List (Operation O)}
    {operation : Operation O}
    (hLegal :
      O.Legal first (earlier ++ operation :: later) last) :
    ∃ before after,
      O.Legal first earlier before ∧
        O.Legal before [operation] after ∧
          O.Legal after later last := by
  rw [List.append_cons] at hLegal
  rcases hLegal.split with ⟨after, hInit, hLater⟩
  rcases hInit.split with ⟨before, hEarlier, hOne⟩
  exact ⟨before, after, hEarlier, hOne, hLater⟩

/-
  What an operation and a disturbance preserve holds after
  every sequential history.
-/
theorem Legal.preserves
    {first last : O.State} {order : List (Operation O)}
    (invariant : O.State → Prop)
    (hLegal : O.Legal first order last)
    (hApply : ∀ operation ∈ order, ∀ state next,
      O.apply state operation.op operation.reply next →
        invariant state → invariant next)
    (hDisturb : ∀ state next,
      O.disturb state next →
        invariant state → invariant next)
    (hFirst : invariant first) :
    invariant last := by
  induction hLegal with
  | nil => exact hFirst
  | @apply order state last operation _ hLast ih =>
      apply hApply operation (by simp) state last hLast
      apply ih
      intro earlier hEarlier
      exact hApply earlier (List.mem_append_left _ hEarlier)
  | disturb _ hLast ih =>
      exact hDisturb _ _ hLast (ih hApply)

end SequentialObject

end Interleaving

------------------------------------------------------------
-- Linearized Runs
------------------------------------------------------------

namespace Interleaving

variable {S : Signature} {Answer : Type}
variable {M : Machine S Answer}

/- One handler was answered before another one started. -/
def AnsweredBefore
    (events : List (Event M))
    (earlier later : Nat) : Prop :=
  ∃ first answer second handler,
    events = first ++ .answer earlier answer :: second ∧
      .start later handler ∈ second

/- What happened earlier does not change this order. -/
theorem AnsweredBefore.append_left
    {events : List (Event M)} {earlier later : Nat}
    (hBefore : AnsweredBefore events earlier later)
    (before : List (Event M)) :
    AnsweredBefore (before ++ events) earlier later := by
  rcases hBefore with
    ⟨first, answer, second, handler, rfl, hStart⟩
  exact ⟨before ++ first, answer, second, handler,
    by rw [List.append_assoc], hStart⟩

/-
  What one answered handler says about its operation.  A
  handler that is `passive` has performed none.
-/
structure Specification
    (M : Machine S Answer)
    (O : SequentialObject) where
  active : M.Handler → Answer → O.Op → O.Reply → Prop
  passive : M.Handler → Answer → Prop

/- The operations in order explain the events of a run. -/
structure Linearizes
    {O : SequentialObject}
    (spec : Specification M O)
    (events : List (Event M))
    (first : O.State)
    (order : List (Operation O))
    (last : O.State) : Prop where
  legal : O.Legal first order last
  once : (order.map Operation.thread).Nodup
  started : ∀ operation ∈ order,
    ∃ handler, .start operation.thread handler ∈ events
  answered : ∀ thread handler answer,
    .start thread handler ∈ events →
      .answer thread answer ∈ events →
        (∃ operation ∈ order,
            operation.thread = thread ∧
              spec.active handler answer operation.op
                operation.reply) ∨
          spec.passive handler answer ∧
            ∀ operation ∈ order, operation.thread ≠ thread
  realTime : order.Pairwise fun earlier later =>
    ¬AnsweredBefore events later.thread earlier.thread

/- Operations in order of real time are in that order. -/
theorem Linearizes.order_of_answeredBefore
    {O : SequentialObject} {spec : Specification M O}
    {events : List (Event M)} {first last : O.State}
    {order : List (Operation O)}
    {earlier later : Operation O}
    (hLinear : Linearizes spec events first order last)
    (hEarlier : earlier ∈ order)
    (hLater : later ∈ order)
    (hBefore :
      AnsweredBefore events earlier.thread later.thread)
    (hNe : earlier.thread ≠ later.thread) :
    ∃ front middle back,
      order = front ++ earlier :: (middle ++ later :: back) := by
  rcases List.append_of_mem hLater with ⟨front, back, rfl⟩
  rcases List.mem_append.mp hEarlier with hFront | hBack
  · rcases List.append_of_mem hFront with
      ⟨start, middle, rfl⟩
    exact ⟨start, middle, back, by simp⟩
  · rcases List.mem_cons.mp hBack with rfl | hAfter
    · exact absurd rfl hNe
    · have hPairs :=
        (List.pairwise_append.mp hLinear.realTime).2.1
      rw [List.pairwise_cons] at hPairs
      exact absurd hBefore (hPairs.1 earlier hAfter)

/- An operation was not answered before an earlier one. -/
theorem Linearizes.not_answeredBefore
    {O : SequentialObject} {spec : Specification M O}
    {events : List (Event M)} {first last : O.State}
    {front middle back : List (Operation O)}
    {earlier later : Operation O}
    (hLinear :
      Linearizes spec events first
        (front ++ earlier :: (middle ++ later :: back))
        last) :
    ¬AnsweredBefore events later.thread earlier.thread := by
  have hPairs :=
    (List.pairwise_append.mp hLinear.realTime).2.1
  rw [List.pairwise_cons] at hPairs
  exact hPairs.1 later (by simp)

end Interleaving

------------------------------------------------------------
-- Linearization Points
------------------------------------------------------------

namespace Interleaving

variable {S : Signature} {Answer : Type}
variable {M : Machine S Answer}

/-
  The calls at which handlers take effect.  `holds` relates
  a state of the machine to one of the object; a call that
  is a point applies its operation, every other step leaves
  the object alone, and an unwinding may disturb it.
-/
structure Points
    (M : Machine S Answer)
    (O : SequentialObject) where
  holds : M.State → O.State → Prop
  point : Call S → Option (O.Op × O.Reply)
  exec : ∀ {thread before call after state},
    M.exec thread before call after →
      holds before state →
        ∃ next,
          O.Takes state (point call) next ∧ holds after next
  unwind : ∀ {thread before op after state},
    M.unwind thread before op after →
      holds before state →
        holds after state ∨
          ∃ next, O.disturb state next ∧ holds after next
  change : ∀ {before change after state},
    M.change before change after →
      holds before state → holds after state
  atMostOne : ∀ {handler calls rest},
    Performs (M.program handler) calls rest →
      (calls.filterMap point).length ≤ 1

/- A thread that was answered is not started again. -/
theorem Run.ne_of_answeredBefore
    {shared : M.State} {after : Config M}
    {events : List (Event M)} {earlier later : Nat}
    (hRun : Run (.initial shared) events after)
    (hBefore : AnsweredBefore events earlier later) :
    earlier ≠ later := by
  rintro rfl
  rcases hBefore with
    ⟨first, answer, second, handler, rfl, hStart⟩
  rw [List.append_cons] at hRun
  have hNone := (hRun.start_before_call hStart).2
  have hAnswered :
      answer ∈ answersOf earlier
        (first ++ [.answer earlier answer]) :=
    (mem_answersOf_iff _ _ _).mpr (by simp)
  rw [hNone] at hAnswered
  cases hAnswered

/- Elements in the order of a list are related. -/
theorem pairwise_of_splits
    {α : Type} {relation : α → α → Prop} {list : List α}
    (hRelated : ∀ first a middle b last,
      list = first ++ a :: (middle ++ b :: last) →
        relation a b) :
    list.Pairwise relation := by
  induction list with
  | nil => exact .nil
  | cons a rest ih =>
      rw [List.pairwise_cons]
      constructor
      · intro b hMem
        rcases List.append_of_mem hMem with
          ⟨middle, last, rfl⟩
        exact hRelated [] a middle b last rfl
      · apply ih
        rintro first b middle c last rfl
        exact hRelated (a :: first) b middle c last rfl

namespace Points

variable {O : SequentialObject} {points : Points M O}
variable {events : List (Event M)}

/- The operation of an event that is a point. -/
def operation
    (points : Points M O) :
    Event M → Option (Operation O)
| .call thread call =>
    (points.point call).map fun performed =>
      ⟨thread, performed.1, performed.2⟩
| _ => none

/- The operations of a run, in the order of their points. -/
def order
    (points : Points M O)
    (events : List (Event M)) : List (Operation O) :=
  events.filterMap points.operation

theorem order_snoc
    (points : Points M O)
    (events : List (Event M))
    (event : Event M) :
    points.order (events ++ [event]) =
      points.order events ++
        (points.operation event).toList := by
  cases hPoint : points.operation event <;>
    simp [order, hPoint]

theorem operation_eq_some
    {event : Event M} {operation : Operation O}
    (hPoint : points.operation event = some operation) :
    ∃ call,
      event = .call operation.thread call ∧
        points.point call =
          some (operation.op, operation.reply) := by
  cases event with
  | call thread call =>
      rcases Option.map_eq_some_iff.mp hPoint with
        ⟨⟨op, reply⟩, hCall, rfl⟩
      exact ⟨call, rfl, hCall⟩
  | start _ _ => cases hPoint
  | answer _ _ => cases hPoint
  | panic _ => cases hPoint
  | cancel _ => cases hPoint
  | change _ => cases hPoint

theorem mem_order_iff
    (points : Points M O)
    (events : List (Event M))
    (operation : Operation O) :
    operation ∈ points.order events ↔
      ∃ call,
        .call operation.thread call ∈ events ∧
          points.point call =
            some (operation.op, operation.reply) := by
  unfold order
  rw [List.mem_filterMap]
  constructor
  · rintro ⟨event, hEvent, hPoint⟩
    rcases operation_eq_some hPoint with ⟨call, rfl, hCall⟩
    exact ⟨call, hEvent, hCall⟩
  · rintro ⟨call, hEvent, hCall⟩
    refine ⟨_, hEvent, ?_⟩
    rw [Points.operation, hCall]
    rfl

/- One step takes the object along. -/
theorem step_legal
    {first state : O.State} {earlier : List (Operation O)}
    {before after : Config M} {event : Event M}
    (hStep : Step before event after)
    (hLegal : O.Legal first earlier state)
    (hHolds : points.holds before.state state) :
    ∃ last,
      O.Legal first
          (earlier ++ (points.operation event).toList)
          last ∧
        points.holds after.state last := by
  cases hStep with
  | @call thread op _ reply after _ hExec =>
      rcases points.exec hExec hHolds with
        ⟨last, hTakes, hAfter⟩
      refine ⟨last, ?_, hAfter⟩
      cases hPoint : points.point ⟨op, reply⟩ with
      | none =>
          rw [hPoint] at hTakes
          cases hTakes
          rw [operation, hPoint]
          simpa using hLegal
      | some performed =>
          rw [hPoint] at hTakes
          rw [operation, hPoint]
          exact hLegal.apply hTakes
  | panic _ hUnwind =>
      rcases points.unwind hUnwind hHolds with
        hSame | ⟨last, hDisturb, hAfter⟩
      · exact ⟨state, by simpa [operation] using hLegal,
          hSame⟩
      · refine ⟨last, ?_, hAfter⟩
        simpa [operation] using hLegal.disturb hDisturb
  | change hChange =>
      exact ⟨state, by simpa [operation] using hLegal,
        points.change hChange hHolds⟩
  | start _ =>
      exact ⟨state, by simpa [operation] using hLegal,
        hHolds⟩
  | answer _ =>
      exact ⟨state, by simpa [operation] using hLegal,
        hHolds⟩
  | cancel _ _ =>
      exact ⟨state, by simpa [operation] using hLegal,
        hHolds⟩

/- The points of a run are a history of the object. -/
theorem run_legal
    {start after : Config M} {first : O.State}
    (hRun : Run start events after)
    (hHolds : points.holds start.state first) :
    ∃ last,
      O.Legal first (points.order events) last ∧
        points.holds after.state last := by
  induction hRun with
  | nil => exact ⟨first, .nil, hHolds⟩
  | snoc _ hStep ih =>
      rcases ih with ⟨state, hLegal, hState⟩
      rcases step_legal hStep hLegal hState with
        ⟨last, hLast, hAfter⟩
      refine ⟨last, ?_, hAfter⟩
      rw [order_snoc]
      exact hLast

/- No handler has two points in a run. -/
theorem threads_ne
    {shared : M.State} {after : Config M}
    {first middle last : List (Event M)}
    {thread thread' : Nat} {call call' : Call S}
    (points : Points M O)
    (hRun :
      Run (.initial shared)
        (first ++ .call thread call ::
          (middle ++ .call thread' call' :: last))
        after)
    (hPoint : (points.point call).isSome)
    (hPoint' : (points.point call').isSome) :
    thread ≠ thread' := by
  rintro rfl
  rw [← List.cons_append, ← List.append_assoc] at hRun
  rcases hRun.performs_of_call with
    ⟨_, _, handler, rest, _, _, _, _, hPerforms⟩
  have hLength := points.atMostOne hPerforms
  rcases Option.isSome_iff_exists.mp hPoint with
    ⟨performed, hPerformed⟩
  rcases Option.isSome_iff_exists.mp hPoint' with
    ⟨performed', hPerformed'⟩
  simp only [callsOf, List.filterMap_append,
    List.filterMap_cons, List.filterMap_nil, Event.callOf,
    if_true, hPerformed, hPerformed', List.length_append,
    List.length_cons, List.length_nil] at hLength
  omega

/- A point of a handler that was not answered before. -/
theorem not_answeredBefore
    {shared : M.State} {after : Config M}
    {first middle last : List (Event M)}
    {thread thread' : Nat} {call call' : Call S}
    (hRun :
      Run (.initial shared)
        (first ++ .call thread call ::
          (middle ++ .call thread' call' :: last))
        after) :
    ¬AnsweredBefore
      (first ++ .call thread call ::
        (middle ++ .call thread' call' :: last))
      thread' thread := by
  rintro ⟨front, answer, back, handler, hEvents, hStart⟩
  have hNoAnswer :
      answersOf thread' (first ++ .call thread call ::
        middle) = [] := by
    rw [← List.cons_append, ← List.append_assoc] at hRun
    exact hRun.no_answer_before_call
  have hNoCall :
      callsOf thread (front ++ [.answer thread' answer]) =
        [] := by
    rw [hEvents, List.append_cons] at hRun
    exact (hRun.start_before_call hStart).1
  rw [← List.cons_append, ← List.append_assoc] at hEvents
  rcases List.append_eq_append_iff.mp hEvents with
    ⟨between, hFront, _⟩ | ⟨between, hFirst, hBack⟩
  · -- the call precedes an answer that precedes its start
    have hCall :
        .call thread call ∈
          front ++ [.answer thread' answer] := by
      rw [hFront]
      simp
    rw [← mem_callsOf_iff, hNoCall] at hCall
    cases hCall
  · cases between with
    | nil => cases hBack
    | cons event between =>
        cases hBack
        have hAnswer :
            .answer thread' answer ∈
              first ++ .call thread call :: middle := by
          rw [hFirst]
          simp
        rw [← mem_answersOf_iff, hNoAnswer] at hAnswer
        cases hAnswer

/- Points in the order of their events. -/
theorem order_pairwise
    {relation : Operation O → Operation O → Prop}
    (points : Points M O)
    (hRelated : ∀ first middle last call call'
        (operation operation' : Operation O),
      events =
          first ++ .call operation.thread call ::
            (middle ++
              .call operation'.thread call' :: last) →
        points.point call =
            some (operation.op, operation.reply) →
          points.point call' =
              some (operation'.op, operation'.reply) →
            relation operation operation') :
    (points.order events).Pairwise relation := by
  unfold order
  rw [List.pairwise_filterMap]
  apply pairwise_of_splits
  intro first event middle event' last hEvents operation
    hPoint operation' hPoint'
  rcases operation_eq_some hPoint with ⟨call, rfl, hCall⟩
  rcases operation_eq_some hPoint' with
    ⟨call', rfl, hCall'⟩
  exact hRelated first middle last call call' operation
    operation' hEvents hCall hCall'

/- The operations that a thread has performed. -/
theorem of_mem_filterMap_callsOf
    {thread : Nat} {op : O.Op} {reply : O.Reply}
    (points : Points M O)
    (hPoint :
      (op, reply) ∈
        (callsOf thread events).filterMap points.point) :
    ⟨thread, op, reply⟩ ∈ points.order events := by
  rcases List.mem_filterMap.mp hPoint with
    ⟨call, hCall, hPerformed⟩
  rw [mem_callsOf_iff] at hCall
  exact (points.mem_order_iff events _).mpr
    ⟨call, hCall, hPerformed⟩

/-
  The points of a run linearize it, for every specification
  that the calls of a whole program establish.
-/
theorem linearizes
    {shared : M.State} {after : Config M} {first : O.State}
    {spec : Specification M O}
    (points : Points M O)
    (hSpec : ∀ handler calls answer,
      Performs (M.program handler) calls (.ret answer) →
        (∃ op reply,
            (op, reply) ∈ calls.filterMap points.point ∧
              spec.active handler answer op reply) ∨
          spec.passive handler answer ∧
            calls.filterMap points.point = [])
    (hHolds : points.holds shared first)
    (hRun : Run (.initial shared) events after) :
    ∃ last,
      Linearizes spec events first (points.order events)
          last ∧
        points.holds after.state last := by
  rcases points.run_legal hRun hHolds with
    ⟨last, hLegal, hLast⟩
  refine ⟨last, ?_, hLast⟩
  constructor
  case legal => exact hLegal
  case once =>
    rw [List.nodup_iff_pairwise_ne, List.pairwise_map]
    apply points.order_pairwise
    rintro first middle last call call' operation operation'
      rfl hPoint hPoint'
    exact points.threads_ne hRun
      (by rw [hPoint]; rfl) (by rw [hPoint']; rfl)
  case started =>
    intro operation hMem
    rcases (points.mem_order_iff events operation).mp hMem
      with ⟨call, hCall, _⟩
    rcases List.append_of_mem hCall with
      ⟨earlier, later, rfl⟩
    rcases hRun.performs_of_call with
      ⟨_, _, handler, _, _, _, _, hStarts, _⟩
    refine ⟨handler, List.mem_append_left _ ?_⟩
    rw [← mem_startsOf_iff, hStarts]
    exact List.mem_singleton_self _
  case answered =>
    intro thread handler answer hStart hAnswer
    rcases hRun.performs_of_answer hAnswer with
      ⟨started, hStarts, hPerforms⟩
    have hHandler := (hRun.performs_of_start hStart).1
    rw [hStarts, List.singleton_inj] at hHandler
    subst hHandler
    rcases hSpec _ _ _ hPerforms with
      ⟨op, reply, hPoint, hActive⟩ | ⟨hPassive, hNone⟩
    · left
      exact ⟨_, points.of_mem_filterMap_callsOf hPoint, rfl,
        hActive⟩
    · right
      refine ⟨hPassive, ?_⟩
      rintro operation hMem rfl
      rcases (points.mem_order_iff events operation).mp hMem
        with ⟨call, hCall, hPoint⟩
      have hSome :
          (operation.op, operation.reply) ∈
            (callsOf operation.thread events).filterMap
              points.point := by
        rw [← mem_callsOf_iff] at hCall
        exact List.mem_filterMap.mpr ⟨call, hCall, hPoint⟩
      rw [hNone] at hSome
      cases hSome
  case realTime =>
    apply points.order_pairwise
    rintro first middle last call call' operation operation'
      rfl _ _
    exact not_answeredBefore hRun

end Points

end Interleaving
