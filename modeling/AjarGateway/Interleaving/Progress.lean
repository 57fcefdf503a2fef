import AjarGateway.Interleaving.Counting

/-
  Progress of handlers that share a lock.

  A machine guards its state when at most one handler holds
  it at a time, the holder only performs operations that
  never wait, and nobody waits for anything but the holder.
  Such a machine never gets stuck: while a handler is
  running, one can make a step, and if the programs are
  bounded all of them come to be answered.

  Key definitions include:
    * `Interleaving.Program.Within`
    * `Interleaving.Guarding`
    * `Interleaving.Guarding.Keeps`
    * `Interleaving.Guarding.Orderly`

  Key theorems include:
    * `Interleaving.Guarding.orderly_of_run`
    * `Interleaving.Guarding.exists_step`
    * `Interleaving.length_le_budget`
    * `Interleaving.Guarding.completes`
-/

------------------------------------------------------------
-- Bounded Programs
------------------------------------------------------------

namespace Interleaving

variable {S : Signature} {α : Type}

/- A program that makes at most so many calls. -/
def Program.Within : Nat → Program S α → Prop
| _, .ret _ => True
| 0, .call _ _ => False
| bound + 1, .call _ next =>
    ∀ reply, (next reply).Within bound

/- What is left of a bounded program is bounded. -/
theorem Performs.within
    {bound : Nat} {calls : List (Call S)}
    {program rest : Program S α}
    (hPerforms : Performs program calls rest)
    (hWithin : program.Within (calls.length + bound)) :
    rest.Within bound := by
  induction hPerforms with
  | done program => simpa using hWithin
  | @step op next reply calls rest tail ih =>
      apply ih
      rw [List.length_cons, Nat.add_right_comm] at hWithin
      exact hWithin reply

/- A program within a bound makes no more calls. -/
theorem Performs.length_le
    {bound : Nat} {calls : List (Call S)}
    {program rest : Program S α}
    (hPerforms : Performs program calls rest)
    (hWithin : program.Within bound) :
    calls.length ≤ bound := by
  induction hPerforms generalizing bound with
  | done program => exact Nat.zero_le _
  | @step op next reply calls rest tail ih =>
      cases bound with
      | zero => exact absurd hWithin id
      | succ bound =>
          exact Nat.succ_le_succ (ih (hWithin reply))

/- A bound on the calls of whole runs bounds a program. -/
theorem Program.within_of_performs
    {bound : Nat} {program : Program S α}
    (base : (op : S.Op) → S.Reply op)
    (hRuns : ∀ calls value,
      Performs program calls (.ret value) →
        calls.length ≤ bound) :
    program.Within bound := by
  induction program generalizing bound with
  | ret value => cases bound <;> trivial
  | call op next ih =>
      have hRun :=
        performs_callsWith base (Program.call op next)
      cases bound with
      | zero =>
          exact absurd (hRuns _ _ hRun)
            (Nat.not_succ_le_zero _)
      | succ bound =>
          intro reply
          apply ih
          intro calls value hPerforms
          have hLength := hRuns _ _ (.step hPerforms)
          exact Nat.le_of_succ_le_succ hLength

/- A climbing program calls once at each stage at most. -/
theorem Program.Climbs.within
    {stage : S.Op → Nat}
    {low high bound : Nat}
    {program : Program S α}
    (hClimbs : program.Climbs stage low high)
    (hBound : high ≤ low + bound) :
    program.Within bound := by
  induction program generalizing low bound with
  | ret value => cases bound <;> trivial
  | call op next ih =>
      have hStage := hClimbs.1
      cases bound with
      | zero => omega
      | succ bound =>
          intro reply
          exact ih reply (hClimbs.2 reply) (by omega)

end Interleaving

------------------------------------------------------------
-- Bounded Runs
------------------------------------------------------------

namespace Interleaving

variable {S : Signature} {Answer : Type}
variable {M : Machine S Answer}

/- An event that is a step of a running handler. -/
def Event.OfRunning : Event M → Prop
| .start _ _ => False
| .change _ => False
| _ => True

/- A call or an answer. -/
def Event.Advances : Event M → Prop
| .call _ _ => True
| .answer _ _ => True
| _ => False

theorem Event.Advances.ofRunning
    {event : Event M}
    (hAdvances : event.Advances) :
    event.OfRunning := by
  cases event <;> trivial

/-
  The running handlers are among `running`, and each makes
  at most `budget` more calls.
-/
def Config.Budgeted
    (c : Config M)
    (running : Finset Nat)
    (budget : Nat → Nat) : Prop :=
  ∀ thread program,
    c.threads thread = .running program →
      thread ∈ running ∧ program.Within (budget thread)

/- A handler that ends leaves the budget of the others. -/
theorem Config.Budgeted.ended
    {c next : Config M} {thread : Nat}
    {status : Thread S Answer}
    {running : Finset Nat} {budget : Nat → Nat}
    (hBudgeted : c.Budgeted running budget)
    (hThreads :
      next.threads = (c.setThread thread status).threads)
    (hEnded : ∀ program, status ≠ .running program) :
    next.Budgeted (running.erase thread) budget := by
  intro other program hRunning
  rw [hThreads] at hRunning
  by_cases hOther : other = thread
  · subst hOther
    rw [Config.setThread_threads_self] at hRunning
    exact absurd hRunning (hEnded program)
  · rw [Config.setThread_threads_of_ne _ _ hOther]
      at hRunning
    rcases hBudgeted other program hRunning with
      ⟨hMem, hWithin⟩
    exact ⟨Finset.mem_erase.mpr ⟨hOther, hMem⟩, hWithin⟩

theorem sum_erase_budget_lt
    {thread : Nat} {running : Finset Nat}
    (budget : Nat → Nat)
    (hMem : thread ∈ running) :
    ∑ other ∈ running.erase thread, (budget other + 1) <
      ∑ other ∈ running, (budget other + 1) := by
  have hSum :=
    Finset.sum_erase_add running
      (fun other => budget other + 1) hMem
  omega

/- A step of a running handler uses up some budget. -/
theorem Config.Budgeted.step
    {c next : Config M} {event : Event M}
    {running : Finset Nat} {budget : Nat → Nat}
    (hBudgeted : c.Budgeted running budget)
    (hStep : Step c event next)
    (hEvent : event.OfRunning) :
    ∃ running' budget',
      next.Budgeted running' budget' ∧
        ∑ thread ∈ running', (budget' thread + 1) <
          ∑ thread ∈ running, (budget thread + 1) := by
  cases hStep with
  | start _ => exact absurd hEvent id
  | change _ => exact absurd hEvent id
  | @answer thread answer hRunning =>
      exact ⟨running.erase thread, budget,
        hBudgeted.ended rfl nofun,
        sum_erase_budget_lt budget
          (hBudgeted thread _ hRunning).1⟩
  | @panic thread op rest state hRunning _ =>
      exact ⟨running.erase thread, budget,
        hBudgeted.ended rfl nofun,
        sum_erase_budget_lt budget
          (hBudgeted thread _ hRunning).1⟩
  | @cancel thread op rest hRunning _ =>
      exact ⟨running.erase thread, budget,
        hBudgeted.ended rfl nofun,
        sum_erase_budget_lt budget
          (hBudgeted thread _ hRunning).1⟩
  | @call thread op rest reply state hRunning hExec =>
      rcases hBudgeted thread _ hRunning with
        ⟨hMem, hWithin⟩
      cases hBudget : budget thread with
      | zero =>
          rw [hBudget] at hWithin
          exact absurd hWithin id
      | succ bound =>
          rw [hBudget] at hWithin
          refine ⟨running,
            Function.update budget thread bound, ?_, ?_⟩
          · intro other program hOther
            by_cases hSame : other = thread
            · subst hSame
              rw [Config.setThread_threads_self] at hOther
              cases hOther
              rw [Function.update_self]
              exact ⟨hMem, hWithin reply⟩
            · rw [Config.setThread_threads_of_ne _ _ hSame]
                at hOther
              rw [Function.update_of_ne hSame]
              exact hBudgeted other program hOther
          · apply Finset.sum_lt_sum
            · intro other _
              by_cases hSame : other = thread
              · rw [hSame, Function.update_self, hBudget]
                omega
              · rw [Function.update_of_ne hSame]
            · refine ⟨thread, hMem, ?_⟩
              rw [Function.update_self, hBudget]
              omega

/- Running handlers make a bounded number of steps. -/
theorem length_le_budget
    {c after : Config M} {later : List (Event M)}
    {running : Finset Nat} {budget : Nat → Nat}
    (hBudgeted : c.Budgeted running budget)
    (hRun : Run c later after)
    (hEvents : ∀ event ∈ later, event.OfRunning) :
    later.length ≤
      ∑ thread ∈ running, (budget thread + 1) := by
  have hLeft :
      ∃ running' budget',
        after.Budgeted running' budget' ∧
          later.length +
              ∑ thread ∈ running', (budget' thread + 1) ≤
            ∑ thread ∈ running, (budget thread + 1) := by
    induction hRun with
    | nil => exact ⟨running, budget, hBudgeted, by simp⟩
    | @snoc events middle event after _ hStep ih =>
        rcases ih (fun earlier hEarlier =>
            hEvents earlier
              (List.mem_append_left _ hEarlier)) with
          ⟨running', budget', hMiddle, hLength⟩
        rcases hMiddle.step hStep
            (hEvents event (by simp)) with
          ⟨running'', budget'', hAfter, hLess⟩
        refine ⟨running'', budget'', hAfter, ?_⟩
        rw [List.length_append, List.length_singleton]
        omega
  rcases hLeft with ⟨_, _, _, hLength⟩
  omega

end Interleaving

------------------------------------------------------------
-- Guarded Machines
------------------------------------------------------------

namespace Interleaving

variable {S : Signature} {Answer : Type}

/-
  A lock in the state of a machine.  A call may take it, an
  operation may free it; its holder performs quiet
  operations only, and everybody else possible ones.
-/
structure Guarding (M : Machine S Answer) where
  ready : M.State → Prop
  holder : M.State → Option Nat
  takes : Call S → Bool
  frees : S.Op → Bool
  quiet : S.Op → Prop
  possible : S.Op → Prop

namespace Guarding

variable {M : Machine S Answer}

/- A program that frees the lock before it returns. -/
def Keeps
    {α : Type}
    (guarding : Guarding M) :
    Bool → Program S α → Prop
| held, .ret _ => held = false
| true, .call op next =>
    guarding.quiet op ∧
      ∀ reply, guarding.Keeps (!guarding.frees op) (next reply)
| false, .call op next =>
    guarding.possible op ∧
      ∀ reply,
        guarding.Keeps (guarding.takes ⟨op, reply⟩)
          (next reply)

/- Who holds the lock after a call. -/
def holderAfter
    (guarding : Guarding M)
    (thread : Nat)
    (call : Call S) : Option Nat → Option Nat
| none => if guarding.takes call then some thread else none
| some other =>
    if other = thread ∧ guarding.frees call.op then none
    else some other

structure Lawful (guarding : Guarding M) : Prop where
  program : ∀ handler,
    guarding.Keeps false (M.program handler)
  exec : ∀ {thread before call after},
    M.exec thread before call after →
      guarding.ready before →
        guarding.ready after ∧
          guarding.holder after =
            guarding.holderAfter thread call
              (guarding.holder before)
  waits : ∀ {thread before call after},
    M.exec thread before call after →
      guarding.holder before ≠ none →
        guarding.takes call = false
  unwind : ∀ {thread before op after},
    M.unwind thread before op after →
      guarding.ready before →
        guarding.ready after ∧
          guarding.holder after =
            if guarding.holder before = some thread then none
            else guarding.holder before
  change : ∀ {before change after},
    M.change before change after →
      guarding.ready before →
        guarding.ready after ∧
          guarding.holder after = guarding.holder before
  cancel : ∀ op, M.cancellable op → ¬guarding.quiet op
  enabledFree : ∀ thread state op,
    guarding.ready state →
      guarding.holder state = none →
        guarding.possible op →
          ∃ reply after, M.exec thread state ⟨op, reply⟩ after
  enabledHeld : ∀ thread state op,
    guarding.ready state →
      guarding.holder state = some thread →
        guarding.quiet op →
          ∃ reply after, M.exec thread state ⟨op, reply⟩ after

section Rules

variable {guarding : Guarding M} {ε α β : Type}

/- A sequence keeps order when both of its parts do. -/
theorem Keeps.bind
    {held : Bool} {program : Program S α}
    {next : α → Program S β}
    (hProgram : guarding.Keeps held program)
    (hNext : ∀ value, guarding.Keeps false (next value)) :
    guarding.Keeps held (program >>= next) := by
  induction program generalizing held with
  | ret value =>
      rw [Keeps] at hProgram
      subst hProgram
      exact hNext value
  | call op rest ih =>
      cases held with
      | false =>
          exact ⟨hProgram.1,
            fun reply => ih reply (hProgram.2 reply)⟩
      | true =>
          exact ⟨hProgram.1,
            fun reply => ih reply (hProgram.2 reply)⟩

theorem Keeps.run_bind
    {held : Bool} {program : Fallible S ε α}
    {next : α → Fallible S ε β}
    (hProgram : guarding.Keeps held program.run)
    (hNext : ∀ value,
      guarding.Keeps false (next value).run) :
    guarding.Keeps held (program >>= next).run := by
  rw [ExceptT.run_bind]
  apply hProgram.bind
  rintro (error | value)
  · rfl
  · exact hNext value

/- A climbing program that never takes the lock. -/
theorem keeps_of_climbs
    {stage : S.Op → Nat} {low high : Nat}
    {program : Program S α}
    (hClimbs : program.Climbs stage low high)
    (hOps : ∀ op, low ≤ stage op →
      guarding.possible op ∧
        ∀ reply, guarding.takes ⟨op, reply⟩ = false) :
    guarding.Keeps false program := by
  induction program generalizing low with
  | ret value => rfl
  | call op next ih =>
      have hOp := hOps op hClimbs.1.1
      refine ⟨hOp.1, fun reply => ?_⟩
      rw [hOp.2 reply]
      apply ih reply (hClimbs.2 reply)
      intro later hStage
      have hFirst := hClimbs.1.1
      exact hOps later (by omega)

end Rules

/- A thread holds the lock. -/
def holds
    (guarding : Guarding M)
    (state : M.State)
    (thread : Nat) : Bool :=
  guarding.holder state = some thread

/-
  What holds in every run: the holder is running, and every
  running handler has a program that frees the lock if it
  holds it.
-/
structure Orderly
    (guarding : Guarding M)
    (c : Config M) : Prop where
  ready : guarding.ready c.state
  running : ∀ thread,
    guarding.holder c.state = some thread →
      ∃ program, c.threads thread = .running program
  keeps : ∀ thread program,
    c.threads thread = .running program →
      guarding.Keeps (guarding.holds c.state thread) program

variable {guarding : Guarding M}
variable {c next : Config M} {thread : Nat}

theorem holds_iff
    {state : M.State} :
    guarding.holds state thread = true ↔
      guarding.holder state = some thread := by
  simp [holds]

theorem holds_eq_false_iff
    {state : M.State} :
    guarding.holds state thread = false ↔
      guarding.holder state ≠ some thread := by
  simp [holds]

/- A step of one handler leaves the holding of others. -/
theorem Orderly.setThread
    {state : M.State} {status : Thread S Answer}
    (hOrderly : guarding.Orderly c)
    (hReady : guarding.ready state)
    (hOthers : ∀ other, other ≠ thread →
      (guarding.holder state = some other ↔
        guarding.holder c.state = some other))
    (hHeld :
      guarding.holder state = some thread →
        ∃ program, status = .running program)
    (hKeeps : ∀ program, status = .running program →
      guarding.Keeps (guarding.holds state thread)
        program) :
    guarding.Orderly
      (({ c with state := state } : Config M).setThread
        thread status) := by
  constructor
  · exact hReady
  · intro other hHolder
    by_cases hSame : other = thread
    · subst hSame
      rw [Config.setThread_threads_self]
      exact hHeld hHolder
    · rw [Config.setThread_threads_of_ne _ _ hSame]
      exact hOrderly.running other
        ((hOthers other hSame).mp hHolder)
  · intro other program hRunning
    by_cases hSame : other = thread
    · subst hSame
      rw [Config.setThread_threads_self] at hRunning
      exact hKeeps program hRunning
    · rw [Config.setThread_threads_of_ne _ _ hSame]
        at hRunning
      have hHolds :
          guarding.holds state other =
            guarding.holds c.state other := by
        rw [Bool.eq_iff_iff, holds_iff, holds_iff]
        exact hOthers other hSame
      rw [Config.setThread_state, hHolds]
      exact hOrderly.keeps other program hRunning

/- A call of a handler in order. -/
theorem Orderly.call
    {op : S.Op} {reply : S.Reply op} {state : M.State}
    {rest : S.Reply op → Program S Answer}
    (hLawful : guarding.Lawful)
    (hOrderly : guarding.Orderly c)
    (hRunning : c.threads thread = .running (.call op rest))
    (hExec : M.exec thread c.state ⟨op, reply⟩ state) :
    guarding.Orderly
      (({ c with state := state } : Config M).setThread
        thread (.running (rest reply))) := by
  rcases hLawful.exec hExec hOrderly.ready with
    ⟨hReady, hHolder⟩
  have hKeeps := hOrderly.keeps thread _ hRunning
  apply hOrderly.setThread hReady
  case hHeld => exact fun _ => ⟨_, rfl⟩
  case hOthers =>
    intro other hNe
    rw [hHolder]
    cases hBefore : guarding.holder c.state with
    | none =>
        rw [holderAfter]
        split <;> simp [Ne.symm hNe]
    | some owner =>
        rw [holderAfter]
        split
        · rename_i hOwner
          simp [hOwner.1, Ne.symm hNe]
        · rfl
  case hKeeps =>
    rintro program hProgram
    cases hProgram
    cases hBefore : guarding.holder c.state with
    | none =>
        have hFree :
            guarding.holds c.state thread = false := by
          rw [holds_eq_false_iff, hBefore]
          exact nofun
        rw [hFree] at hKeeps
        have hAfter :
            guarding.holds state thread =
              guarding.takes ⟨op, reply⟩ := by
          rw [Bool.eq_iff_iff, holds_iff, hHolder, hBefore,
            holderAfter]
          split <;> simp_all
        rw [hAfter]
        exact hKeeps.2 reply
    | some owner =>
        by_cases hOwner : owner = thread
        · subst hOwner
          rw [holds_iff.mpr hBefore] at hKeeps
          have hAfter :
              guarding.holds state owner =
                !guarding.frees op := by
            rw [Bool.eq_iff_iff, holds_iff, hHolder,
              hBefore, holderAfter]
            split <;> simp_all
          rw [hAfter]
          exact hKeeps.2 reply
        · have hFree :
              guarding.holds c.state thread = false := by
            rw [holds_eq_false_iff, hBefore]
            simp [hOwner]
          rw [hFree] at hKeeps
          have hTakes :=
            hLawful.waits hExec (by rw [hBefore]; nofun)
          have hAfter :
              guarding.holds state thread =
                guarding.takes ⟨op, reply⟩ := by
            rw [hTakes, holds_eq_false_iff, hHolder,
              hBefore, holderAfter,
              if_neg (fun hBoth => hOwner hBoth.1)]
            simp [hOwner]
          rw [hAfter]
          exact hKeeps.2 reply

/- A handler that does not hold the lock may end. -/
theorem Orderly.ended
    {status : Thread S Answer}
    (hOrderly : guarding.Orderly c)
    (hFree : guarding.holder c.state ≠ some thread)
    (hEnded : ∀ program, status ≠ .running program) :
    guarding.Orderly (c.setThread thread status) := by
  apply hOrderly.setThread hOrderly.ready
  case hOthers => exact fun _ _ => Iff.rfl
  case hHeld => exact fun hHeld => absurd hHeld hFree
  case hKeeps =>
    exact fun program hRunning =>
      absurd hRunning (hEnded program)

/- One step keeps the order. -/
theorem Orderly.step
    {event : Event M}
    (hLawful : guarding.Lawful)
    (hOrderly : guarding.Orderly c)
    (hStep : Step c event next) :
    guarding.Orderly next := by
  cases hStep with
  | call hRunning hExec =>
      exact hOrderly.call hLawful hRunning hExec
  | @start thread handler hIdle =>
      have hFree :
          guarding.holder c.state ≠ some thread := by
        intro hHolder
        rcases hOrderly.running thread hHolder with
          ⟨program, hRunning⟩
        rw [hIdle] at hRunning
        cases hRunning
      apply hOrderly.setThread hOrderly.ready
      case hOthers => exact fun _ _ => Iff.rfl
      case hHeld => exact fun _ => ⟨_, rfl⟩
      case hKeeps =>
        rintro program hProgram
        cases hProgram
        rw [holds_eq_false_iff.mpr hFree]
        exact hLawful.program handler
  | @answer thread answer hRunning =>
      have hKeeps := hOrderly.keeps thread _ hRunning
      rw [Keeps] at hKeeps
      exact hOrderly.ended (holds_eq_false_iff.mp hKeeps)
        (fun _ hStatus => nomatch hStatus)
  | @cancel thread op rest hRunning hCancellable =>
      refine hOrderly.ended ?_
        (fun _ hStatus => nomatch hStatus)
      intro hHolder
      have hKeeps := hOrderly.keeps thread _ hRunning
      rw [holds_iff.mpr hHolder] at hKeeps
      exact hLawful.cancel op hCancellable hKeeps.1
  | @panic thread op rest state hRunning hUnwind =>
      rcases hLawful.unwind hUnwind hOrderly.ready with
        ⟨hReady, hHolder⟩
      apply hOrderly.setThread hReady
      case hOthers =>
        intro other hNe
        rw [hHolder]
        split
        · rename_i hBefore
          simp [hBefore, Ne.symm hNe]
        · rfl
      case hHeld =>
        intro hHeld
        rw [hHolder] at hHeld
        split at hHeld
        · cases hHeld
        · rename_i hBefore
          exact absurd hHeld hBefore
      case hKeeps => exact nofun
  | @change made state hChange =>
      rcases hLawful.change hChange hOrderly.ready with
        ⟨hReady, hHolder⟩
      constructor
      · exact hReady
      · intro thread hHeld
        rw [hHolder] at hHeld
        exact hOrderly.running thread hHeld
      · intro thread program hRunning
        have hHolds :
            guarding.holds state thread =
              guarding.holds c.state thread := by
          rw [holds, holds, hHolder]
        rw [hHolds]
        exact hOrderly.keeps thread program hRunning

/- Every run of a guarded machine is orderly. -/
theorem orderly_of_run
    {shared : M.State} {events : List (Event M)}
    (hLawful : guarding.Lawful)
    (hReady : guarding.ready shared)
    (hFree : guarding.holder shared = none)
    (hRun : Run (.initial shared) events c) :
    guarding.Orderly c := by
  induction hRun with
  | nil =>
      constructor
      · exact hReady
      · intro thread hHolder
        have hNone := hFree.symm.trans hHolder
        cases hNone
      · intro thread program hRunning
        cases hRunning
  | snoc _ hStep ih => exact ih.step hLawful hStep

end Guarding

end Interleaving

------------------------------------------------------------
-- Progress
------------------------------------------------------------

namespace Interleaving

namespace Guarding

variable {S : Signature} {Answer : Type}
variable {M : Machine S Answer} {guarding : Guarding M}
variable {c next : Config M}

/- The next operation of a handler that can make a step. -/
theorem exists_step_of_enabled
    {thread : Nat} {program : Program S Answer}
    (hRunning : c.threads thread = .running program)
    (hEnabled : ∀ op rest,
      program = .call op rest →
        ∃ reply state,
          M.exec thread c.state ⟨op, reply⟩ state) :
    ∃ event next,
      Step c event next ∧ event.Advances := by
  cases program with
  | ret answer =>
      exact ⟨_, _, .answer hRunning, trivial⟩
  | call op rest =>
      rcases hEnabled op rest rfl with
        ⟨reply, state, hExec⟩
      exact ⟨_, _, .call hRunning hExec, trivial⟩

/- While a handler is running, one can make a step. -/
theorem exists_step
    {thread : Nat} {program : Program S Answer}
    (hLawful : guarding.Lawful)
    (hOrderly : guarding.Orderly c)
    (hRunning : c.threads thread = .running program) :
    ∃ event next,
      Step c event next ∧ event.Advances := by
  cases hHolder : guarding.holder c.state with
  | none =>
      apply exists_step_of_enabled hRunning
      rintro op rest rfl
      have hKeeps := hOrderly.keeps thread _ hRunning
      have hFree :
          guarding.holds c.state thread = false := by
        rw [holds_eq_false_iff, hHolder]
        exact nofun
      rw [hFree] at hKeeps
      exact hLawful.enabledFree thread c.state op
        hOrderly.ready hHolder hKeeps.1
  | some owner =>
      -- The holder is running and never waits.
      rcases hOrderly.running owner hHolder with
        ⟨held, hHeld⟩
      apply exists_step_of_enabled hHeld
      rintro op rest rfl
      have hKeeps := hOrderly.keeps owner _ hHeld
      rw [holds_iff.mpr hHolder] at hKeeps
      exact hLawful.enabledHeld owner c.state op
        hOrderly.ready hHolder hKeeps.1

/- A call or an answer ends no other handler. -/
theorem running_or_answered
    {event : Event M} {thread : Nat}
    {program : Program S Answer}
    (hStep : Step c event next)
    (hAdvances : event.Advances)
    (hRunning : c.threads thread = .running program) :
    (∃ rest, next.threads thread = .running rest) ∨
      ∃ answer, event = .answer thread answer := by
  cases hStep with
  | @call other op rest reply state hOther hExec =>
      left
      by_cases hSame : thread = other
      · subst hSame
        exact ⟨_, Config.setThread_threads_self _ _ _⟩
      · refine ⟨program, ?_⟩
        rw [Config.setThread_threads_of_ne _ _ hSame]
        exact hRunning
  | @answer other answer hOther =>
      by_cases hSame : thread = other
      · subst hSame
        exact .inr ⟨answer, rfl⟩
      · left
        refine ⟨program, ?_⟩
        rw [Config.setThread_threads_of_ne _ _ hSame]
        exact hRunning
  | start _ => exact absurd hAdvances id
  | panic _ _ => exact absurd hAdvances id
  | cancel _ _ => exact absurd hAdvances id
  | change _ => exact absurd hAdvances id

/-
  Every running handler of a guarded machine comes to be
  answered by calls and answers alone.
-/
theorem completes
    {running : Finset Nat} {budget : Nat → Nat}
    (hLawful : guarding.Lawful)
    (hOrderly : guarding.Orderly c)
    (hBudgeted : c.Budgeted running budget) :
    ∃ later after,
      Run c later after ∧
        (∀ event ∈ later, event.Advances) ∧
        (∀ thread program,
          after.threads thread ≠ .running program) ∧
        ∀ thread program,
          c.threads thread = .running program →
            ∃ answer, .answer thread answer ∈ later := by
  induction hLeft :
      ∑ thread ∈ running, (budget thread + 1)
      using Nat.strong_induction_on
      generalizing c running budget with
  | _ left ih =>
      by_cases hSome :
          ∃ thread program,
            c.threads thread = .running program
      · rcases hSome with ⟨thread, program, hRunning⟩
        rcases exists_step hLawful hOrderly hRunning with
          ⟨event, next, hStep, hAdvances⟩
        rcases hBudgeted.step hStep hAdvances.ofRunning with
          ⟨running', budget', hNext, hLess⟩
        rw [hLeft] at hLess
        rcases ih _ hLess (hOrderly.step hLawful hStep)
            hNext rfl with
          ⟨later, after, hRun, hEvents, hDone, hAnswers⟩
        refine ⟨event :: later, after, Run.cons hStep hRun,
          ?_, hDone, ?_⟩
        · rw [List.forall_mem_cons]
          exact ⟨hAdvances, hEvents⟩
        · intro other rest hOther
          rcases running_or_answered hStep hAdvances hOther
            with ⟨rest', hRest⟩ | ⟨answer, rfl⟩
          · rcases hAnswers other rest' hRest with
              ⟨answer, hAnswer⟩
            exact ⟨answer, List.mem_cons_of_mem _ hAnswer⟩
          · exact ⟨answer, List.mem_cons_self⟩
      · refine ⟨[], c, .nil, by simp, ?_, ?_⟩
        · intro thread program hRunning
          exact hSome ⟨thread, program, hRunning⟩
        · intro thread program hRunning
          exact absurd ⟨thread, program, hRunning⟩ hSome

end Guarding

end Interleaving
