import AjarGateway.Interleaving.Progress
import AjarGateway.Serving.Metrics
import AjarGateway.System.Solo

/-
  Every handler of the gateway comes to an end.

  Only a reload that fails at the lock keeps the write guard
  over further calls, and those calls never wait.  So no
  interleaving of handlers gets stuck, and as each handler
  makes at most seven calls, all of them are answered.

  Key definitions include:
    * `System.storeGuarding`

  Key theorems include:
    * `System.storeGuarding_lawful`
    * `System.within_handle`
    * `System.handlers_complete`
-/

------------------------------------------------------------
-- The Write Guard
------------------------------------------------------------

namespace AjarGateway

namespace System

open Http Interleaving Serving Store

/- The write guard of the lock around the installed store. -/
def storeGuarding
    (lib : Externals)
    (state : ProxyState) :
    Guarding (gateway lib state) where
  ready shared :=
    state.hasStore = true → ∃ lock, shared.lock = some lock
  holder shared := shared.lock.bind StoreLock.writer
  takes
  | ⟨.writeStore _, .returned⟩ => true
  | ⟨.writeStore _, .poisoned⟩ => true
  | _ => false
  frees
  | .dropGuard => true
  | _ => false
  quiet
  | .fetchAdd _ => True
  | .eprintln _ => True
  | .dropGuard => True
  | _ => False
  possible
  | .readStore => state.hasStore = true
  | .writeStore _ => state.hasStore = true
  | .dropGuard => False
  | _ => True

end System

end AjarGateway

------------------------------------------------------------
-- Handlers In Order
------------------------------------------------------------

namespace AjarGateway

namespace System

open Http Interleaving Serving Store

variable (lib : Externals) (state : ProxyState)

/- After the store was read nothing touches the lock. -/
theorem keeps_routeRequest
    (request : Request Chunks)
    (snapshot : Option PreparedContentStore) :
    (storeGuarding lib state).Keeps false
      (routeRequest lib state request snapshot).run := by
  apply Guarding.keeps_of_climbs
    (climbs_routeRequest lib state request snapshot)
  intro op hStage
  cases op with
  | readStore => simp [GatewayOp.stage] at hStage
  | writeStore update => simp [GatewayOp.stage] at hStage
  | dropGuard => simp [GatewayOp.stage] at hStage
  | _ => exact ⟨trivial, fun _ => rfl⟩

theorem keeps_currentStore :
    (storeGuarding lib state).Keeps false
      (currentStore state).run := by
  rw [currentStore]
  split
  · rename_i hStore
    apply Guarding.Keeps.run_bind
    · exact ⟨hStore, fun _ => rfl⟩
    · rintro (_ | store) <;> rfl
  · rfl

theorem keeps_answerPublic
    (request : Request Chunks) :
    (storeGuarding lib state).Keeps false
      (answerPublic lib state request) := by
  apply Guarding.Keeps.bind
  · apply Guarding.Keeps.run_bind
    · exact ⟨trivial, fun _ => rfl⟩
    · intro _
      apply Guarding.Keeps.run_bind
      · exact keeps_currentStore lib state
      · exact keeps_routeRequest lib state request
  · exact fun _ => rfl

theorem keeps_reloadFailed
    (detail reason : String) :
    (storeGuarding lib state).Keeps false
      (reloadFailed detail reason) :=
  ⟨trivial, fun _ => ⟨trivial, fun _ => rfl⟩⟩

/- A reload that keeps the guard drops it in the end. -/
theorem keeps_commitStore
    (loaded : PreparedContentStore)
    (hStore : state.hasStore = true) :
    (storeGuarding lib state).Keeps false
      (commitStore loaded) := by
  refine ⟨hStore, ?_⟩
  rintro (_ | _ | _)
  · exact ⟨trivial, fun _ => ⟨trivial,
      fun _ => ⟨trivial, fun _ => rfl⟩⟩⟩
  · exact ⟨trivial, fun _ => ⟨trivial,
      fun _ => ⟨trivial, fun _ => rfl⟩⟩⟩
  · exact ⟨trivial, fun _ => ⟨trivial,
      fun _ => ⟨trivial, fun _ => rfl⟩⟩⟩

theorem keeps_reloadStore :
    (storeGuarding lib state).Keeps false
      (reloadStore state) := by
  unfold reloadStore
  split
  · rename_i hStore
    refine ⟨trivial, ?_⟩
    rintro (error | loaded)
    · exact keeps_reloadFailed lib state _ _
    · exact keeps_commitStore lib state loaded hStore
  · exact keeps_reloadFailed lib state _ _

theorem keeps_renderCounters (counters : List Counter) :
    (storeGuarding lib state).Keeps false
      (renderCounters counters) := by
  induction counters with
  | nil => rfl
  | cons counter rest ih =>
      refine ⟨trivial, fun _ => ?_⟩
      exact ih.bind (fun _ => rfl)

theorem keeps_handle (incoming : Incoming) :
    (storeGuarding lib state).Keeps false
      (handle lib state incoming) := by
  cases incoming with
  | publicRequest request =>
      exact keeps_answerPublic lib state request
  | reload => exact keeps_reloadStore lib state
  | metrics =>
      exact (keeps_renderCounters lib state _).bind
        (fun _ => rfl)
  | healthz => rfl

end System

end AjarGateway

------------------------------------------------------------
-- The Lock Is Guarded
------------------------------------------------------------

namespace AjarGateway

namespace System

open Http Interleaving Serving Store

variable {lib : Externals} {state : ProxyState}
variable {thread : Nat} {before after : SharedState}

/- A call hands the guard over as its kind says. -/
theorem storeGuarding_exec
    {call : Call gatewaySignature}
    (hExec : Exec lib.json thread before call after)
    (hReady : (storeGuarding lib state).ready before) :
    (storeGuarding lib state).ready after ∧
      (storeGuarding lib state).holder after =
        (storeGuarding lib state).holderAfter thread call
          ((storeGuarding lib state).holder before) := by
  have hSame (hNone :
      (storeGuarding lib state).takes call = false)
      (hKept : (storeGuarding lib state).frees call.op =
        false) :
      (storeGuarding lib state).holderAfter thread call
          ((storeGuarding lib state).holder before) =
        (storeGuarding lib state).holder before := by
    cases hHolder :
        (storeGuarding lib state).holder before <;>
      simp [Guarding.holderAfter, hNone, hKept]
  cases hExec with
  | assign lock update store hLock hFree _ _ =>
      refine ⟨fun _ => ⟨_, rfl⟩, ?_⟩
      rw [hSame rfl rfl]
      simp [storeGuarding, SharedState.withLock, hLock]
  | returnEarly lock _ hLock hFree _ _
  | writePoisoned lock _ hLock hFree _ =>
      refine ⟨fun _ => ⟨_, rfl⟩, ?_⟩
      have hNone :
          (storeGuarding lib state).holder before = none := by
        simp [storeGuarding, hLock, hFree]
      rw [hNone]
      rfl
  | dropGuard lock hLock hHeld =>
      refine ⟨fun _ => ⟨_, rfl⟩, ?_⟩
      have hHolder :
          (storeGuarding lib state).holder before =
            some thread := by
        simp [storeGuarding, hLock, hHeld]
      rw [hHolder, Guarding.holderAfter,
        if_pos ⟨rfl, rfl⟩]
      rfl
  | readStore _ _ _ _ =>
      exact ⟨hReady, (hSame rfl rfl).symm⟩
  | readPoisoned _ _ _ _ =>
      exact ⟨hReady, (hSame rfl rfl).symm⟩
  | fetchAdd _ => exact ⟨hReady, (hSame rfl rfl).symm⟩
  | loadCounter _ => exact ⟨hReady, (hSame rfl rfl).symm⟩
  | nowUnixSeconds _ _ =>
      exact ⟨hReady, (hSame rfl rfl).symm⟩
  | compareExchange =>
      exact ⟨hReady, (hSame rfl rfl).symm⟩
  | resetExpiryLogged =>
      exact ⟨hReady, (hSame rfl rfl).symm⟩
  | eprintln _ => exact ⟨hReady, (hSame rfl rfl).symm⟩
  | requestOrigin _ _ =>
      exact ⟨hReady, (hSame rfl rfl).symm⟩
  | loadFromDir _ _ _ =>
      exact ⟨hReady, (hSame rfl rfl).symm⟩

/- The guard is only taken while nobody holds it. -/
theorem storeGuarding_waits
    {call : Call gatewaySignature}
    (hExec : Exec lib.json thread before call after)
    (hHeld : (storeGuarding lib state).holder before ≠ none) :
    (storeGuarding lib state).takes call = false := by
  cases hExec with
  | returnEarly lock _ hLock hFree _ _
  | writePoisoned lock _ hLock hFree _ =>
      apply absurd _ hHeld
      simp [storeGuarding, hLock, hFree]
  | _ => rfl

/- A panic drops the guard of its handler. -/
theorem storeGuarding_unwind
    {op : GatewayOp}
    (hUnwind : Unwind thread before op after)
    (hReady : (storeGuarding lib state).ready before) :
    (storeGuarding lib state).ready after ∧
      (storeGuarding lib state).holder after =
        if (storeGuarding lib state).holder before =
            some thread then
          none
        else
          (storeGuarding lib state).holder before := by
  cases hUnwind
  constructor
  · intro hStore
    rcases hReady hStore with ⟨lock, hLock⟩
    exact ⟨lock.unwound thread, by simp [hLock]⟩
  · cases hLock : before.lock with
    | none => simp [storeGuarding, hLock]
    | some lock =>
        simp only [storeGuarding, hLock, Option.map_some,
          Option.bind_some, StoreLock.unwound]
        split
        · rfl
        · rfl

/- While nobody holds the guard every operation goes on. -/
theorem storeGuarding_enabledFree
    (thread : Nat)
    (shared : SharedState)
    (op : GatewayOp)
    (hReady : (storeGuarding lib state).ready shared)
    (hNone : (storeGuarding lib state).holder shared = none)
    (hPossible : (storeGuarding lib state).possible op) :
    ∃ reply after,
      Exec lib.json thread shared ⟨op, reply⟩ after := by
  have hFree : ∀ lock, shared.lock = some lock →
      lock.writer = none := by
    intro lock hLock
    have hHolder := hNone
    simp only [storeGuarding, hLock, Option.bind_some]
      at hHolder
    exact hHolder
  cases op with
  | readStore =>
      rcases hReady hPossible with ⟨lock, hLock⟩
      cases hPoisoned : lock.poisoned with
      | false =>
          exact ⟨_, _, .readStore _ lock hLock
            (hFree lock hLock) hPoisoned⟩
      | true =>
          exact ⟨_, _, .readPoisoned _ lock hLock
            (hFree lock hLock) hPoisoned⟩
  | writeStore update =>
      rcases hReady hPossible with ⟨lock, hLock⟩
      cases hPoisoned : lock.poisoned with
      | false =>
          cases hUpdate : update lock.installed with
          | none =>
              exact ⟨_, _, .returnEarly _ lock _ hLock
                (hFree lock hLock) hPoisoned hUpdate⟩
          | some store =>
              exact ⟨_, _, .assign _ lock _ store hLock
                (hFree lock hLock) hPoisoned hUpdate⟩
      | true =>
          exact ⟨_, _, .writePoisoned _ lock _ hLock
            (hFree lock hLock) hPoisoned⟩
  | dropGuard => exact absurd hPossible id
  | fetchAdd counter => exact ⟨_, _, .fetchAdd _ counter⟩
  | loadCounter counter =>
      exact ⟨_, _, .loadCounter _ counter⟩
  | nowUnixSeconds =>
      exact ⟨_, _, .nowUnixSeconds _ sampleNow
        sampleNow_inClockRange⟩
  | compareExchangeExpiryLogged =>
      exact ⟨_, _, .compareExchange _⟩
  | resetExpiryLogged => exact ⟨_, _, .resetExpiryLogged _⟩
  | eprintln line => exact ⟨_, _, .eprintln _ line⟩
  | requestOrigin upstream =>
      exact ⟨_, _, .requestOrigin _ upstream .failed⟩
  | loadFromDir path =>
      exact ⟨_, _, .loadFromDir _ path sampleNow
        sampleNow_inClockRange⟩

/- The holder of the guard never waits. -/
theorem storeGuarding_enabledHeld
    (thread : Nat)
    (shared : SharedState)
    (op : GatewayOp)
    (hHolder :
      (storeGuarding lib state).holder shared =
        some thread)
    (hQuiet : (storeGuarding lib state).quiet op) :
    ∃ reply after,
      Exec lib.json thread shared ⟨op, reply⟩ after := by
  cases op with
  | fetchAdd counter => exact ⟨_, _, .fetchAdd _ counter⟩
  | eprintln line => exact ⟨_, _, .eprintln _ line⟩
  | dropGuard =>
      rcases Option.bind_eq_some_iff.mp hHolder with
        ⟨lock, hLock, hWriter⟩
      exact ⟨_, _, .dropGuard _ lock hLock hWriter⟩
  | _ => exact absurd hQuiet id

theorem storeGuarding_cancel
    (op : GatewayOp)
    (hCancellable : Cancellable op) :
    ¬(storeGuarding lib state).quiet op := by
  cases op with
  | requestOrigin upstream => exact id
  | _ => exact absurd hCancellable id

theorem storeGuarding_lawful :
    (storeGuarding lib state).Lawful where
  program := keeps_handle lib state
  exec := storeGuarding_exec
  waits := storeGuarding_waits
  unwind := storeGuarding_unwind
  change := by
    rintro before files after rfl hReady
    exact ⟨hReady, rfl⟩
  cancel := storeGuarding_cancel
  enabledFree := storeGuarding_enabledFree
  enabledHeld := fun thread shared op _ =>
    storeGuarding_enabledHeld thread shared op

end System

end AjarGateway

------------------------------------------------------------
-- Handlers Are Answered
------------------------------------------------------------

namespace AjarGateway

namespace System

open Http Interleaving Serving Store

variable {lib : Externals} {state : ProxyState}

/- No handler makes more than seven calls. -/
theorem within_handle (incoming : Incoming) :
    (handle lib state incoming).Within 7 := by
  cases incoming with
  | publicRequest request =>
      exact (climbs_answerPublic lib state request).within
        (by decide)
  | reload =>
      apply Program.within_of_performs
        (default : Surroundings).reply
      intro calls answer hPerforms
      cases exit_of_performs hPerforms <;>
        simp [failureCalls]
  | metrics =>
      apply Program.within_of_performs
        (default : Surroundings).reply
      intro calls answer hPerforms
      rcases performs_metricsEndpoint hPerforms with
        ⟨values, rfl, _⟩
      exact le_rfl
  | healthz => trivial

variable {config : GatewayConfig} {files : FileSystem}
variable {shared : SharedState}
variable {events : List (Event (gateway lib state))}
variable {c : Config (gateway lib state)}

theorem orderly_of_started
    (hStarted : Started lib config files state shared)
    (hRun : Run (.initial shared) events c) :
    (storeGuarding lib state).Orderly c := by
  apply Guarding.orderly_of_run storeGuarding_lawful
    _ _ hRun
  · intro hStore
    rcases hStarted.store with
      ⟨_, hNone, _⟩ | ⟨_, _, store, _, _, _, _, rfl⟩
    · rw [hStore] at hNone
      cases hNone
    · exact ⟨⟨store, false, none⟩, rfl⟩
  · rcases hStarted.store with
      ⟨_, _, rfl⟩ | ⟨_, _, store, _, _, _, _, rfl⟩
    · rfl
    · rfl

/- Every running handler may make what is left of seven. -/
theorem budgeted_of_run
    {running : Finset Nat}
    (hRun : Run (.initial shared) events c)
    (hRunning : ∀ thread program,
      c.threads thread = .running program →
        thread ∈ running) :
    c.Budgeted running
      fun thread => 7 - (callsOf thread events).length := by
  intro thread program hThread
  refine ⟨hRunning thread program hThread, ?_⟩
  have hTraced := hRun.traced thread
  rw [hThread] at hTraced
  rcases hTraced with ⟨incoming, _, _, hPerforms⟩
  have hLength :=
    hPerforms.length_le (within_handle incoming)
  apply hPerforms.within
  rw [Nat.add_sub_cancel' hLength]
  exact within_handle incoming

/-
  The handlers of the gateway never get stuck and never go
  on for ever.  In every state reached: while a handler is
  running, some handler can make its next call or answer;
  the running handlers make at most eight more steps each,
  in whatever order; and they can all come to be answered.
-/
theorem handlers_complete
    (hStarted : Started lib config files state shared)
    (hRun : Run (.initial shared) events c) :
    (∀ thread program,
      c.threads thread = .running program →
        ∃ event next, Step c event next ∧ event.Advances) ∧
    (∀ later after (running : Finset Nat),
      Run c later after →
        (∀ event ∈ later, event.OfRunning) →
          (∀ thread program,
            c.threads thread = .running program →
              thread ∈ running) →
            later.length ≤ 8 * running.card) ∧
    ∃ later after,
      Run c later after ∧
        (∀ event ∈ later, event.Advances) ∧
        (∀ thread program,
          after.threads thread ≠ .running program) ∧
        ∀ thread program,
          c.threads thread = .running program →
            ∃ answer, .answer thread answer ∈ later := by
  have hOrderly := orderly_of_started hStarted hRun
  refine ⟨?_, ?_, ?_⟩
  · intro thread program hRunning
    exact Guarding.exists_step storeGuarding_lawful hOrderly
      hRunning
  · intro later after running hLater hEvents hRunning
    have hLength :=
      length_le_budget (budgeted_of_run hRun hRunning)
        hLater hEvents
    have hSum :
        ∑ thread ∈ running,
            (7 - (callsOf thread events).length + 1) ≤
          running.card * 8 := by
      apply Finset.sum_le_card_nsmul
      intro thread _
      omega
    omega
  · have hStarts : ∀ thread program,
        c.threads thread = .running program →
          thread ∈ startedThreads events := by
      intro thread program hRunning
      have hTraced := hRun.traced thread
      rw [hRunning] at hTraced
      rcases hTraced with ⟨incoming, hStart, _⟩
      rw [mem_startedThreads_iff]
      refine ⟨incoming, (mem_startsOf_iff _ _ _).mp ?_⟩
      rw [hStart]
      exact List.mem_singleton_self _
    exact Guarding.completes storeGuarding_lawful hOrderly
      (budgeted_of_run hRun hStarts)

/- A reload that has loaded comes to be answered. -/
theorem handlers_complete_sample :
    ∃ (c after : Config (gateway sampleExt sampleState))
      (later : List (Event (gateway sampleExt sampleState)))
      (answer : Response Body),
      Run (.initial sampleShared)
          (loadEvents sampleExt sampleState 0 sampleDir
            (samplePage "Old"))
          c ∧
        Run c later after ∧
          .answer 0 answer ∈ later := by
  have hIdle :
      (Config.initial sampleShared :
        Config (gateway sampleExt sampleState)).threads
          0 = .idle :=
    rfl
  rcases run_load rfl rfl hIdle sampleNow_inClockRange
      samplePage_old_loads with
    ⟨c, hRun, _, hRunning, _⟩
  have hStarted :=
    startup_ok sampleNow_inClockRange sample_startup
  rcases (handlers_complete hStarted hRun).2.2 with
    ⟨later, after, hLater, _, _, hAnswers⟩
  rcases hAnswers 0 _ hRunning with ⟨answer, hAnswer⟩
  exact ⟨c, after, later, answer, hRun, hLater, hAnswer⟩

end System

end AjarGateway
