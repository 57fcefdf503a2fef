import AjarGateway.System.Invariants
import AjarGateway.System.Solo

/-
  When the lock of the store is poisoned.

  A log line that cannot be written panics.  A reload that
  has loaded a lower sequence than the installed one writes
  its log line while it still holds the write guard, so that
  such a panic poisons the lock.  No other handler logs
  under the guard of a lock that is not poisoned yet.

  Key definitions include:
    * `System.RolledBack`
    * `System.RollbacksLogged`
    * `System.StoreAvailable`

  Key theorems include:
    * `System.step_poisoned_iff`
    * `System.guarded_iff_rolledBack`
    * `System.guarded_line`
    * `System.storeAvailable_iff`
-/

------------------------------------------------------------
-- Panics Under The Write Guard
------------------------------------------------------------

namespace AjarGateway

namespace System

open Http Interleaving Serving Store

/- A state whose lock is poisoned. -/
def SharedState.Poisoned (state : SharedState) : Prop :=
  ∃ lock, state.lock = some lock ∧ lock.poisoned = true

/- A state in which a handler holds the write guard. -/
def SharedState.GuardedBy
    (state : SharedState)
    (thread : Nat) : Prop :=
  ∃ lock, state.lock = some lock ∧ lock.writer = some thread

variable {lib : Externals} {state : ProxyState}
variable {shared : SharedState}
variable {events : List (Event (gateway lib state))}
variable {event : Event (gateway lib state)}
variable {before after : Config (gateway lib state)}

/- Unwinding the holder of the guard poisons the lock. -/
theorem Unwind.poisoned_iff
    {thread : Nat} {op : GatewayOp}
    {old new : SharedState}
    (hUnwind : Unwind thread old op new) :
    new.Poisoned ↔ old.Poisoned ∨ old.GuardedBy thread := by
  cases hUnwind
  cases hLock : old.lock with
  | none =>
      simp [SharedState.Poisoned, SharedState.GuardedBy,
        hLock]
  | some lock =>
      by_cases hWriter : lock.writer = some thread
      · simp [SharedState.Poisoned, SharedState.GuardedBy,
          hLock, StoreLock.unwound, hWriter]
      · simp [SharedState.Poisoned, SharedState.GuardedBy,
          hLock, StoreLock.unwound, hWriter]

/- A step poisons the lock exactly by such a panic. -/
theorem step_poisoned_iff
    (hStep : Step before event after) :
    after.state.Poisoned ↔
      before.state.Poisoned ∨
        ∃ thread,
          event = .panic thread ∧
            before.state.GuardedBy thread := by
  cases hStep with
  | @call _ _ _ _ next _ hExec =>
      have hSame :
          next.Poisoned ↔ before.state.Poisoned :=
        Exec.poisoned_iff hExec
      simpa using hSame
  | panic _ hUnwind =>
      have hPoisoned := Unwind.poisoned_iff hUnwind
      simpa using hPoisoned
  | change hChange =>
      cases hChange
      simp [SharedState.Poisoned]
  | start _ => simp
  | answer _ => simp
  | cancel _ _ => simp

/- A poisoned lock stays poisoned. -/
theorem poisoned_later
    (hRun : Run before events after)
    (hPoisoned : before.state.Poisoned) :
    after.state.Poisoned := by
  induction hRun with
  | nil => exact hPoisoned
  | snoc _ hStep ih =>
      exact (step_poisoned_iff hStep).mpr (.inl ih)

/- A read fails, and a write too, at a poisoned lock only. -/
theorem Exec.poisoned_of_readStore_none
    {json : SerdeJson} {thread : Nat}
    {old new : SharedState}
    (hExec : Exec json thread old ⟨.readStore, none⟩ new) :
    old.Poisoned := by
  rcases hExec.readStore_reply with ⟨lock, hLock, hReply⟩
  refine ⟨lock, hLock, ?_⟩
  by_contra hClean
  rw [if_neg hClean] at hReply
  cases hReply

theorem Exec.not_poisoned_of_assigned
    {json : SerdeJson} {thread : Nat}
    {old new : SharedState}
    {update :
      PreparedContentStore → Option PreparedContentStore}
    (hExec :
      Exec json thread old ⟨.writeStore update, .assigned⟩
        new) :
    ¬old.Poisoned := by
  cases hExec with
  | assign lock _ _ hLock _ hClean _ =>
      rintro ⟨other, hOther, hPoisoned⟩
      rw [hLock] at hOther
      cases hOther
      rw [hClean] at hPoisoned
      cases hPoisoned

/- A handler was refused the store at a poisoned lock. -/
theorem poisoned_of_refused
    {thread : Nat}
    (hRun : Run before events after)
    (hRead : .call thread ⟨.readStore, none⟩ ∈ events) :
    after.state.Poisoned := by
  rcases List.append_of_mem hRead with
    ⟨first, second, rfl⟩
  rcases hRun.split_at with ⟨_, _, _, hStep, hLater⟩
  apply poisoned_later (Run.cons hStep hLater)
  cases hStep with
  | call _ hExec =>
      exact Exec.poisoned_of_readStore_none hExec

theorem Exec.poisoned_of_writeStore_poisoned
    {json : SerdeJson} {thread : Nat}
    {old new : SharedState}
    {update :
      PreparedContentStore → Option PreparedContentStore}
    (hExec :
      Exec json thread old ⟨.writeStore update, .poisoned⟩
        new) :
    old.Poisoned := by
  cases hExec with
  | writePoisoned lock _ hLock _ hPoisoned =>
      exact ⟨lock, hLock, hPoisoned⟩

end System

end AjarGateway

------------------------------------------------------------
-- Who Holds The Write Guard
------------------------------------------------------------

namespace AjarGateway

namespace System

open Http Interleaving Serving Store

variable {lib : Externals} {state : ProxyState}

/- The store that is installed after one more event. -/
def installedBy
    (installed : Option PreparedContentStore) :
    Event (gateway lib state) → Option PreparedContentStore
| .call _ ⟨.writeStore update, .assigned⟩ =>
    installed.bind update
| _ => installed

/- The store that is installed after these events. -/
def installedAfter
    (shared : SharedState)
    (events : List (Event (gateway lib state))) :
    Option PreparedContentStore :=
  events.foldl installedBy shared.installed

theorem installed_eq_installedAfter
    {shared : SharedState}
    {events : List (Event (gateway lib state))}
    {after : Config (gateway lib state)}
    (hRun : Run (.initial shared) events after) :
    after.state.installed = installedAfter shared events := by
  induction hRun with
  | nil => rfl
  | @snoc events before event after hRun hStep ih =>
      have hSnoc :
          installedAfter shared (events ++ [event]) =
            installedBy before.state.installed event := by
        simp [installedAfter, ih]
      rw [hSnoc]
      cases hStep with
      | start _ | answer _ | cancel _ _ => rfl
      | panic _ hUnwind => exact hUnwind.installed_eq
      | change hChange =>
          cases hChange
          rfl
      | call _ hExec =>
          cases hExec with
          | assign lock update store hLock _ _ hUpdate =>
              simp [installedBy, SharedState.installed,
                SharedState.withLock, hLock, hUpdate]
          | returnEarly lock _ hLock _ _ _
          | writePoisoned lock _ hLock _ _
          | dropGuard lock hLock _ =>
              simp [installedBy, SharedState.installed,
                SharedState.withLock, hLock]
          | _ => rfl

theorem assignUnlessLower_eq_none_iff
    {loaded current : PreparedContentStore} :
    assignUnlessLower loaded current = none ↔
      loaded.manifestSequence < current.manifestSequence := by
  rw [assignUnlessLower]
  split <;> simp_all

/- Only a reload writes the store. -/
theorem reload_of_write
    {incoming : Incoming}
    {calls : List (Call gatewaySignature)}
    {rest : GatewayProgram (Response Body)}
    {update :
      PreparedContentStore → Option PreparedContentStore}
    {reply : WriteReply}
    (hPerforms :
      Performs (handle lib state incoming) calls rest)
    (hWrite : ⟨.writeStore update, reply⟩ ∈ calls) :
    incoming = .reload := by
  cases incoming with
  | reload => rfl
  | publicRequest request =>
      have hStages :=
        (hPerforms.stages
          (climbs_answerPublic lib state request)).1
      exact absurd (hStages _ hWrite)
        (Nat.not_succ_le_zero 0)
  | metrics =>
      -- The page of the metrics only loads counters.
      have hMeets :
          (handle lib state .metrics).Meets
            (fun _ op =>
              ∃ counter, op = GatewayOp.loadCounter counter)
            (fun _ _ => True) [] := by
        rw [handle, metricsEndpoint, Program.meets_bind_iff]
        exact meets_renderCounters
          (fun _ counter => ⟨counter, rfl⟩) _ _
          (fun _ _ => trivial) []
      rcases List.append_of_mem hWrite with
        ⟨first, second, rfl⟩
      rcases hPerforms.guard hMeets with ⟨_, hLoads⟩
      cases hLoads
  | healthz =>
      rw [((performs_ret_iff _ _ _).mp hPerforms).1]
        at hWrite
      cases hWrite

variable {shared : SharedState}
variable {events : List (Event (gateway lib state))}
variable {c : Config (gateway lib state)}
variable {thread : Nat}

/- A handler loads once. -/
theorem load_unique
    {path path' : Path}
    {reply reply' :
      Except StoreLoadError PreparedContentStore}
    (hRun : Run (.initial shared) events c)
    (hLoad :
      .call thread ⟨.loadFromDir path, reply⟩ ∈ events)
    (hLoad' :
      .call thread ⟨.loadFromDir path', reply'⟩ ∈ events) :
    (⟨.loadFromDir path, reply⟩ : Call gatewaySignature) =
      ⟨.loadFromDir path', reply'⟩ := by
  have hHead {anyPath : Path}
      {anyReply :
        Except StoreLoadError PreparedContentStore}
      (hAny :
        .call thread ⟨.loadFromDir anyPath, anyReply⟩ ∈
          events) :
      (callsOf thread events).head? =
        some ⟨.loadFromDir anyPath, anyReply⟩ := by
    rcases List.append_of_mem hAny with ⟨first, second, rfl⟩
    have hNone := (calls_before_load hRun).1
    rw [callsOf] at hNone
    rw [callsOf, List.filterMap_append, hNone]
    simp [Event.callOf]
  exact Option.some.inj ((hHead hLoad).symm.trans (hHead hLoad'))

/-
  The handler has asked for the lock with a store whose
  sequence is lower than that of the store installed then.
-/
def RolledBack
    (shared : SharedState)
    (events : List (Event (gateway lib state)))
    (thread : Nat) : Prop :=
  ∃ first second update reply path loaded current,
    events =
        first ++
          .call thread ⟨.writeStore update, reply⟩ ::
            second ∧
      .call thread ⟨.loadFromDir path, .ok loaded⟩ ∈
          first ∧
        installedAfter shared first = some current ∧
          loaded.manifestSequence <
            current.manifestSequence

theorem RolledBack.append
    (hRolled : RolledBack shared events thread)
    (later : List (Event (gateway lib state))) :
    RolledBack shared (events ++ later) thread := by
  rcases hRolled with
    ⟨first, second, update, reply, path, loaded, current,
      rfl, hRolled⟩
  exact ⟨first, second ++ later, update, reply, path, loaded,
    current, by simp, hRolled⟩

/-
  Whoever holds the guard of a clean lock has been rolled
  back.  Induction on the run: on a clean lock only a write
  that assigns nothing keeps the guard, and it assigns
  nothing for a lower sequence only.
-/
theorem rolledBack_of_guarded
    (hFree : ∀ lock, shared.lock = some lock →
      lock.writer = none)
    (hRun : Run (.initial shared) events c)
    (hClean : ¬c.state.Poisoned)
    (hGuarded : c.state.GuardedBy thread) :
    RolledBack shared events thread := by
  induction hRun with
  | nil =>
      rcases hGuarded with ⟨lock, hLock, hWriter⟩
      rw [hFree lock hLock] at hWriter
      cases hWriter
  | @snoc events before event after hRun hStep ih =>
      rw [step_poisoned_iff hStep, not_or] at hClean
      have hKept
          (hLock : after.state.lock = before.state.lock) :
          RolledBack shared (events ++ [event]) thread := by
        apply RolledBack.append
        apply ih hClean.1
        rw [SharedState.GuardedBy, ← hLock]
        exact hGuarded
      have hNext := hRun.snoc hStep
      cases hStep with
      | start _ => exact hKept rfl
      | answer _ => exact hKept rfl
      | cancel _ _ => exact hKept rfl
      | change hChange =>
          cases hChange
          exact hKept rfl
      | panic _ hUnwind =>
          cases hUnwind
          rcases hGuarded with ⟨held, hHeld, hWriter⟩
          rcases Option.map_eq_some_iff.mp hHeld with
            ⟨lock, hLock, rfl⟩
          have hOther : lock.writer ≠ some _ := fun hOwn =>
            hClean.2 ⟨_, rfl, lock, hLock, hOwn⟩
          apply RolledBack.append
          refine ih hClean.1 ⟨lock, hLock, ?_⟩
          rw [StoreLock.unwound, if_neg hOther] at hWriter
          exact hWriter
      | call _ hExec =>
          cases hExec with
          | assign lock update store hLock hNone _ hUpdate =>
              rcases hGuarded with ⟨held, hHeld, hWriter⟩
              cases hHeld
              rw [hNone] at hWriter
              cases hWriter
          | returnEarly lock update hLock _ _ hUpdate =>
              rcases hGuarded with ⟨held, hHeld, hWriter⟩
              cases hHeld
              cases hWriter
              rcases hNext.performs_of_call with
                ⟨_, _, handler, _, _, _, _, _, hPerforms⟩
              rcases hPerforms.guard
                  (meets_handle lib state handler) with
                ⟨path, loaded, _, rfl, hLoad⟩
              rw [List.nil_append, mem_callsOf_iff] at hLoad
              refine ⟨events, [], _, _, path, loaded,
                lock.installed, rfl, hLoad, ?_,
                assignUnlessLower_eq_none_iff.mp hUpdate⟩
              rw [← installed_eq_installedAfter hRun,
                SharedState.installed, hLock]
              rfl
          | writePoisoned lock _ hLock _ hPoisoned =>
              exact absurd ⟨lock, hLock, hPoisoned⟩ hClean.1
          | dropGuard lock hLock _ =>
              rcases hGuarded with ⟨held, hHeld, hWriter⟩
              cases hHeld
              cases hWriter
          | _ => exact hKept rfl

/- The guard is held until it is dropped, or by a panic. -/
theorem guarded_later
    {before after : Config (gateway lib state)}
    (hRun : Run before events after)
    (hGuarded : before.state.GuardedBy thread)
    (hDrop : .call thread ⟨.dropGuard, ()⟩ ∉ events)
    (hPanic : .panic thread ∉ events) :
    after.state.GuardedBy thread := by
  induction hRun with
  | nil => exact hGuarded
  | @snoc events middle event after _ hStep ih =>
      have hMiddle := ih
        (fun hMem => hDrop (List.mem_append_left _ hMem))
        (fun hMem => hPanic (List.mem_append_left _ hMem))
      rcases hMiddle with ⟨held, hHeld, hWriter⟩
      cases hStep with
      | start _ | answer _ | cancel _ _ =>
          exact ⟨held, hHeld, hWriter⟩
      | change hChange =>
          cases hChange
          exact ⟨held, hHeld, hWriter⟩
      | @panic other _ _ _ _ hUnwind =>
          cases hUnwind
          have hOther : held.writer ≠ some other := by
            rw [hWriter]
            rintro ⟨⟩
            exact hPanic (by simp)
          refine ⟨held.unwound other, ?_, ?_⟩
          · simp [hHeld]
          · rw [StoreLock.unwound, if_neg hOther]
            exact hWriter
      | call _ hExec =>
          cases hExec with
          | assign lock _ _ hLock hNone _ _
          | returnEarly lock _ hLock hNone _ _
          | writePoisoned lock _ hLock hNone _ =>
              cases hHeld.symm.trans hLock
              rw [hNone] at hWriter
              cases hWriter
          | dropGuard lock hLock hOwn =>
              cases hHeld.symm.trans hLock
              cases hWriter.symm.trans hOwn
              exact absurd (by simp) hDrop
          | _ => exact ⟨held, hHeld, hWriter⟩

/-
  On a clean lock, the write of a handler that is rolled
  back returns with the guard.
-/
theorem returned_of_lower
    {first second : List (Event (gateway lib state))}
    {update :
      PreparedContentStore → Option PreparedContentStore}
    {reply : WriteReply} {path : Path}
    {loaded current : PreparedContentStore}
    (hRun :
      Run (.initial shared)
        (first ++
          .call thread ⟨.writeStore update, reply⟩ :: second)
        c)
    (hClean : ¬c.state.Poisoned)
    (hLoad :
      .call thread ⟨.loadFromDir path, .ok loaded⟩ ∈ first)
    (hInstalled : installedAfter shared first = some current)
    (hLower :
      loaded.manifestSequence < current.manifestSequence) :
    reply = .returned ∧
      ∃ next : Config (gateway lib state),
        Run next second c ∧
          next.state.GuardedBy thread := by
  have hUpdate : update current = none := by
    rcases hRun.performs_of_call with
      ⟨_, _, handler, _, _, _, _, _, hPerforms⟩
    rcases hPerforms.guard
        (meets_handle lib state handler) with
      ⟨_, loaded', _, rfl, hLoad'⟩
    rw [List.nil_append, mem_callsOf_iff] at hLoad'
    cases load_unique hRun
      (List.mem_append_left _ hLoad)
      (List.mem_append_left _ hLoad')
    exact assignUnlessLower_eq_none_iff.mpr hLower
  rcases hRun.split_at with
    ⟨before, next, hBefore, hStep, hAfter⟩
  rw [← installed_eq_installedAfter hBefore] at hInstalled
  cases hStep with
  | call _ hExec =>
      cases hExec with
      | assign lock _ store hLock _ _ hAssigned =>
          have hCurrent : lock.installed = current := by
            simpa [SharedState.installed, hLock] using
              hInstalled
          rw [hCurrent, hUpdate] at hAssigned
          cases hAssigned
      | returnEarly lock _ hLock _ _ _ =>
          exact ⟨rfl, _, hAfter, _, rfl, rfl⟩
      | writePoisoned lock _ hLock _ hPoisoned =>
          exact absurd
            (poisoned_later hAfter ⟨_, rfl, hPoisoned⟩)
            hClean

/- The log line of a reload that was rolled back. -/
def rollbackLine : LogLine where
  level := "error"
  event := "store_reload_failed"
  fields :=
    [("reason", .string "sequence_rollback"),
      ("detail", .string lowerSequenceDetail)]

/-
  A reload logs before it drops the guard, and what it logs
  under the guard of a clean lock is that it was rolled
  back.
-/
def LogsRollback
    (past : List (Call gatewaySignature)) :
    GatewayOp → Prop
| .eprintln line =>
    ⟨.dropGuard, ()⟩ ∉ past ∧
      ∀ update,
        ⟨.writeStore update, .returned⟩ ∈ past →
          line = rollbackLine
| _ => True

theorem logsRollback_reloadStore (state : ProxyState) :
    (reloadStore state).Meets LogsRollback
      (fun _ _ => True) [] := by
  apply meets_reloadStore_of_exits
  intro calls answer hExit
  -- Only the exit that was rolled back has returned early.
  cases hExit <;>
    simp [failureCalls, LogsRollback, rollbackLine]

variable {line : LogLine}
variable {next : Unit → GatewayProgram (Response Body)}

/- What a handler with a write is about to log. -/
theorem logsRollback_of_running
    {update :
      PreparedContentStore → Option PreparedContentStore}
    {reply : WriteReply}
    (hRun : Run (.initial shared) events c)
    (hRunning :
      c.threads thread = .running (.call (.eprintln line) next))
    (hWrite :
      .call thread ⟨.writeStore update, reply⟩ ∈ events) :
    LogsRollback (callsOf thread events) (.eprintln line) := by
  have hTraced := hRun.traced thread
  rw [hRunning] at hTraced
  rcases hTraced with ⟨handler, _, _, hPerforms⟩
  rw [← mem_callsOf_iff] at hWrite
  cases reload_of_write hPerforms hWrite
  exact (hPerforms.snoc ()).guard
    (logsRollback_reloadStore state)

/-
  A handler that is about to log holds the guard of a clean
  lock exactly if it is a reload that was rolled back.
-/
theorem guarded_iff_rolledBack
    (hFree : ∀ lock, shared.lock = some lock →
      lock.writer = none)
    (hRun : Run (.initial shared) events c)
    (hClean : ¬c.state.Poisoned)
    (hRunning :
      c.threads thread =
        .running (.call (.eprintln line) next)) :
    c.state.GuardedBy thread ↔
      RolledBack shared events thread := by
  constructor
  · exact rolledBack_of_guarded hFree hRun hClean
  · rintro ⟨first, second, update, reply, path, loaded,
      current, rfl, hLoad, hInstalled, hLower⟩
    rcases returned_of_lower hRun hClean hLoad hInstalled
        hLower with
      ⟨_, after, hAfter, hGuarded⟩
    apply guarded_later hAfter hGuarded
    · intro hDrop
      have hWrite :
          .call thread ⟨.writeStore update, reply⟩ ∈
            first ++
              .call thread ⟨.writeStore update, reply⟩ ::
                second := by
        simp
      apply (logsRollback_of_running hRun hRunning hWrite).1
      rw [mem_callsOf_iff]
      simp [hDrop]
    · intro hPanic
      have hStatus := hAfter.panicked_of_panic hPanic
      rw [hRunning] at hStatus
      cases hStatus

/- What is logged under the guard of a clean lock. -/
theorem guarded_line
    (hFree : ∀ lock, shared.lock = some lock →
      lock.writer = none)
    (hRun : Run (.initial shared) events c)
    (hClean : ¬c.state.Poisoned)
    (hRunning :
      c.threads thread =
        .running (.call (.eprintln line) next))
    (hGuarded : c.state.GuardedBy thread) :
    line = rollbackLine := by
  rcases rolledBack_of_guarded hFree hRun hClean
      hGuarded with
    ⟨first, second, update, reply, path, loaded, current,
      rfl, hLoad, hInstalled, hLower⟩
  rcases returned_of_lower hRun hClean hLoad hInstalled
      hLower with
    ⟨rfl, _⟩
  have hWrite :
      .call thread ⟨.writeStore update, .returned⟩ ∈
        first ++
          .call thread ⟨.writeStore update, .returned⟩ ::
            second := by
    simp
  apply (logsRollback_of_running hRun hRunning hWrite).2
    update
  rw [mem_callsOf_iff]
  exact hWrite

/-
  No reload that was rolled back fails to write its log
  line.
-/
def RollbacksLogged
    (shared : SharedState)
    (events : List (Event (gateway lib state))) : Prop :=
  ∀ first thread second,
    events = first ++ .panic thread :: second →
      ¬RolledBack shared first thread

/- A lock is clean exactly while no such line is lost. -/
theorem not_poisoned_iff
    (hFresh : ∀ lock, shared.lock = some lock →
      lock.writer = none ∧ lock.poisoned = false)
    (hRun : Run (.initial shared) events c) :
    ¬c.state.Poisoned ↔ RollbacksLogged shared events := by
  have hFree : ∀ lock, shared.lock = some lock →
      lock.writer = none :=
    fun lock hLock => (hFresh lock hLock).1
  constructor
  · rintro hClean first thread second rfl hRolled
    rcases hRun.split_at with
      ⟨before, next, hBefore, hStep, hAfter⟩
    have hNext : ¬next.state.Poisoned :=
      fun hPoisoned => hClean (poisoned_later hAfter hPoisoned)
    rw [step_poisoned_iff hStep, not_or] at hNext
    apply hNext.2
    refine ⟨thread, rfl, ?_⟩
    cases hStep with
    | panic hRunning hUnwind =>
        cases hUnwind
        exact (guarded_iff_rolledBack hFree hBefore hNext.1
          hRunning).mpr hRolled
  · intro hLogged
    induction hRun with
    | nil =>
        rintro ⟨lock, hLock, hPoisoned⟩
        rw [(hFresh lock hLock).2] at hPoisoned
        cases hPoisoned
    | @snoc events before event after hRun hStep ih =>
        have hClean := ih fun first thread second hEvents =>
          hLogged first thread (second ++ [event])
            (by simp [hEvents])
        rw [step_poisoned_iff hStep, not_or]
        refine ⟨hClean, ?_⟩
        rintro ⟨thread, rfl, hGuarded⟩
        exact hLogged events thread [] rfl
          (rolledBack_of_guarded hFree hRun hClean hGuarded)

end System

end AjarGateway

------------------------------------------------------------
-- A Log Line Lost Under The Guard
------------------------------------------------------------

namespace AjarGateway

namespace System

open Http Interleaving Serving Store

variable {lib : Externals} {state : ProxyState}
variable {c : Config (gateway lib state)} {thread : Nat}

/- A rolled back reload that cannot write its log line. -/
def lostRollbackEvents
    (lib : Externals)
    (state : ProxyState)
    (thread : Nat)
    (loaded : PreparedContentStore) :
    List (Event (gateway lib state)) :=
  [.call thread
      ⟨.writeStore (assignUnlessLower loaded), .returned⟩,
    .call thread ⟨.fetchAdd .storeReloadFailuresTotal, ()⟩,
    .panic thread]

/- It leaves a poisoned lock. -/
theorem run_lostRollback
    {current loaded : PreparedContentStore}
    (hRunning :
      c.threads thread = .running (commitStore loaded))
    (hLock : c.state.lock = some ⟨current, false, none⟩)
    (hLower :
      loaded.manifestSequence < current.manifestSequence) :
    ∃ next : Config (gateway lib state),
      Run c (lostRollbackEvents lib state thread loaded)
          next ∧
        next.state.lock = some ⟨current, true, none⟩ ∧
        ∀ other, other ≠ thread →
          next.threads other = c.threads other := by
  have hUpdate :
      assignUnlessLower loaded current = none :=
    assignUnlessLower_eq_none_iff.mpr hLower
  have hPerforms :
      Performs (commitStore loaded)
        [⟨.writeStore (assignUnlessLower loaded), .returned⟩,
          ⟨.fetchAdd .storeReloadFailuresTotal, ()⟩]
        _ :=
    .step (.step (.done _))
  have hCalls :=
    Run.of_performs hRunning hPerforms
      (.cons (.returnEarly _ _ _ hLock rfl rfl hUpdate)
        (.cons (.fetchAdd _ _) (.nil _)))
  have hPanic :=
    hCalls.snoc
      (.panic (Config.setThread_threads_self _ _ _)
        (.eprintln _ _))
  rw [Config.setThread_setThread] at hPanic
  refine ⟨_, hPanic, ?_, ?_⟩
  · simp [SharedState.withLock, SharedState.increment,
      StoreLock.unwound]
  · intro other hNe
    exact Config.setThread_threads_of_ne _ _ hNe

/- A public request while the lock is poisoned. -/
def refusedEvents
    (lib : Externals)
    (state : ProxyState)
    (thread : Nat)
    (request : Request Chunks) :
    List (Event (gateway lib state)) :=
  [.start thread (.publicRequest request),
    .call thread ⟨.fetchAdd .requestsTotal, ()⟩,
    .call thread ⟨.readStore, none⟩,
    .answer thread
      ProxyHttpError.storeStateUnavailable.intoResponse]

theorem performs_refused
    (request : Request Chunks)
    (hStore : state.hasStore = true) :
    Performs (handle lib state (.publicRequest request))
      [⟨.fetchAdd .requestsTotal, ()⟩, ⟨.readStore, none⟩]
      (.ret
        ProxyHttpError.storeStateUnavailable.intoResponse) := by
  have hPerforms :=
    performs_callsWith (default : Surroundings).reply
      (answerPublic lib state request)
  have hAnswer :=
    respond_of_poisoned lib state default hStore rfl request
  have hSnapshot :
      snapshotOf state default =
        .error .storeStateUnavailable := by
    unfold snapshotOf
    rw [if_pos hStore]
    rfl
  unfold respond at hAnswer
  rw [hAnswer, callsWith_answerPublic,
    callsWith_currentStore state default hStore,
    hSnapshot] at hPerforms
  exact hPerforms

/- Whatever is requested, it is answered 500. -/
theorem run_refused
    {store : PreparedContentStore}
    (request : Request Chunks)
    (hStore : state.hasStore = true)
    (hIdle : c.threads thread = .idle)
    (hLock : c.state.lock = some ⟨store, true, none⟩) :
    ∃ next,
      Run c (refusedEvents lib state thread request)
        next :=
  ⟨_, Run.whole hIdle (performs_refused request hStore)
    (.cons (.fetchAdd _ _)
      (.cons (.readPoisoned _ _ hLock rfl rfl)
        (.nil _)))⟩

/- The gateway over the page with the higher sequence. -/
def sequenceShared : SharedState :=
  initialState (some ((sequencePage "1" 1).store "/page"))
    (sequencePage "1" 1).files

theorem sequence_startup :
    startup (documentExt sequenceDocuments) sampleConfig
        (sequencePage "1" 1).files sampleNow =
      .ok (sampleState, sequenceShared) :=
  startup_sampleConfig rfl sequencePage_one_loads

/-
  The page with the lower sequence is published, a reload of
  it is rolled back and logged, and a page is requested.
-/
def rolledBackEvents :
    List
      (Event
        (gateway (documentExt sequenceDocuments)
          sampleState)) :=
  [.change (sequencePage "0" 0).files] ++
    loadEvents _ _ 0 sampleDir
      ((sequencePage "0" 0).store "/page") ++
    rollbackEvents _ _ 0
      ((sequencePage "0" 0).store "/page") ++
    requestEvents _ _ 1
      (sampleEnv ((sequencePage "1" 1).store "/page"))
      (getRequest pageTarget .empty)

/- A reload of the lower sequence has been loaded. -/
theorem run_lowerLoaded :
    ∃ loaded,
      Run
          (.initial sequenceShared :
            Config
              (gateway (documentExt sequenceDocuments)
                sampleState))
          ([.change (sequencePage "0" 0).files] ++
            loadEvents _ _ 0 sampleDir
              ((sequencePage "0" 0).store "/page"))
          loaded ∧
        loaded.state =
            { sequenceShared with
              files := (sequencePage "0" 0).files } ∧
          loaded.threads 0 =
              .running
                (commitStore
                  ((sequencePage "0" 0).store "/page")) ∧
            loaded.threads 1 = .idle := by
  rcases run_change
      (Config.initial sequenceShared :
        Config
          (gateway (documentExt sequenceDocuments)
            sampleState))
      (sequencePage "0" 0).files with
    ⟨changed, hChange, hChanged, hIdle⟩
  have hLoads :
      loadFrom (documentExt sequenceDocuments).json sampleDir
          changed.state.files sampleNow =
        .ok ((sequencePage "0" 0).store "/page") := by
    rw [hChanged]
    exact sequencePage_zero_loads
  have hReloader : changed.threads 0 = .idle := by
    rw [hIdle]
    rfl
  rcases run_load rfl rfl hReloader sampleNow_inClockRange
      hLoads with
    ⟨loaded, hLoad, hLoaded, hRunning, hOthers⟩
  refine ⟨loaded, hChange.append hLoad,
    hLoaded.trans hChanged, hRunning, ?_⟩
  rw [hOthers 1 (by decide), hIdle]
  rfl

theorem run_rolledBack :
    ∃ after,
      Run (.initial sequenceShared) rolledBackEvents
        after := by
  rcases run_lowerLoaded with
    ⟨loaded, hLoad, hLoaded, hRunning, hIdle⟩
  have hLock :
      loaded.state.lock =
        some ⟨(sequencePage "1" 1).store "/page", false,
          none⟩ := by
    rw [hLoaded]
    rfl
  rcases run_rollback hRunning hLock sequencePage_lower with
    ⟨rolled, hRollback, hRolled, hRest⟩
  have hFlag :
      (sampleEnv
          ((sequencePage "1" 1).store
            "/page")).expiryFlagWasClear =
        !rolled.state.manifestExpiryLogged := by
    rw [hRolled, hLoaded]
    rfl
  rcases run_request (getRequest pageTarget .empty)
      ((hRest 1 (by decide)).trans hIdle)
      (sampleEnv_agrees
        (by rw [hRolled]; exact hLock)) hFlag with
    ⟨after, hRequest⟩
  exact ⟨after, (hLoad.append hRollback).append hRequest⟩

/-
  The page with the lower sequence is published and
  reloaded, its failure cannot be logged, and a page is
  requested.
-/
def poisoningEvents :
    List
      (Event
        (gateway (documentExt sequenceDocuments)
          sampleState)) :=
  [.change (sequencePage "0" 0).files] ++
    loadEvents _ _ 0 sampleDir
      ((sequencePage "0" 0).store "/page") ++
    lostRollbackEvents _ _ 0
      ((sequencePage "0" 0).store "/page") ++
    refusedEvents _ _ 1 (getRequest pageTarget .empty)

theorem run_poisoning :
    ∃ after,
      Run (.initial sequenceShared) poisoningEvents
        after := by
  rcases run_lowerLoaded with
    ⟨loaded, hLoad, hLoaded, hRunning, hIdle⟩
  rcases run_lostRollback hRunning
      (by rw [hLoaded]; rfl) sequencePage_lower with
    ⟨poisoned, hLost, hLock, hRest⟩
  rcases run_refused (getRequest pageTarget .empty) rfl
      ((hRest 1 (by decide)).trans hIdle) hLock with
    ⟨after, hRefused⟩
  exact ⟨after, (hLoad.append hLost).append hRefused⟩

end System

end AjarGateway

------------------------------------------------------------
-- The Store Is Available
------------------------------------------------------------

namespace AjarGateway

namespace System

open Http Interleaving Serving Store

/- A failure is blamed on the lock when it is poisoned. -/
def BlamesPoisonedLock
    (past : List (Call gatewaySignature)) :
    GatewayOp → Prop
| .eprintln line =>
    ("reason", .string "store_state_unavailable") ∈
        line.fields →
      ∃ update, ⟨.writeStore update, .poisoned⟩ ∈ past
| _ => True

theorem blames_reloadStore (state : ProxyState) :
    (reloadStore state).Meets BlamesPoisonedLock
      (fun _ _ => True) [] := by
  apply meets_reloadStore_of_exits
  intro calls answer hExit
  -- Only the exit that found the lock poisoned blames it.
  cases hExit <;> simp [failureCalls, BlamesPoisonedLock]

variable {lib : Externals} {state : ProxyState}

/-
  The store could be read and written throughout a history:
  its lock is clean, no read and no write of it has failed,
  no public request was answered that its state is
  unavailable, and no reload has logged that reason.
-/
structure StoreAvailable
    (events : List (Event (gateway lib state)))
    (after : Config (gateway lib state)) : Prop where
  clean : ¬after.state.Poisoned
  read : ∀ thread,
    .call thread ⟨.readStore, none⟩ ∉ events
  written : ∀ thread update,
    .call thread ⟨.writeStore update, .poisoned⟩ ∉ events
  answered : ∀ thread request answer,
    .start thread (.publicRequest request) ∈ events →
      .answer thread answer ∈ events →
        answer.body.problemCode ≠
          some "AJAR_GATEWAY_STORE_STATE_UNAVAILABLE"
  reloaded : ∀ thread line,
    .start thread .reload ∈ events →
      .call thread ⟨.eprintln line, ()⟩ ∈ events →
        ("reason", .string "store_state_unavailable") ∉
          line.fields

variable {shared : SharedState}
variable {events : List (Event (gateway lib state))}
variable {after : Config (gateway lib state)}

/- A call that needs a poisoned lock is not made. -/
theorem call_not_mem_of_clean
    {thread : Nat} {call : Call gatewaySignature}
    (hRun : Run (.initial shared) events after)
    (hClean : ¬after.state.Poisoned)
    (hCall : ∀ old new,
      Exec lib.json thread old call new → old.Poisoned) :
    .call thread call ∉ events := by
  intro hMem
  rcases List.append_of_mem hMem with ⟨first, second, rfl⟩
  rcases hRun.split_at with
    ⟨before, next, _, hStep, hAfter⟩
  apply hClean
  apply poisoned_later hAfter
  apply (step_poisoned_iff hStep).mpr
  cases hStep with
  | call _ hExec => exact .inl (hCall _ _ hExec)

/- A clean lock is what makes the store available. -/
theorem storeAvailable_of_clean
    (hRun : Run (.initial shared) events after)
    (hClean : ¬after.state.Poisoned) :
    StoreAvailable events after := by
  have hRead : ∀ thread,
      .call thread ⟨.readStore, none⟩ ∉ events :=
    fun _ => call_not_mem_of_clean hRun hClean
      fun _ _ => Exec.poisoned_of_readStore_none
  have hWritten : ∀ thread update,
      .call thread ⟨.writeStore update, .poisoned⟩ ∉
        events :=
    fun _ _ => call_not_mem_of_clean hRun hClean
      fun _ _ => Exec.poisoned_of_writeStore_poisoned
  refine ⟨hClean, hRead, hWritten, ?_, ?_⟩
  · intro thread request answer hStart hAnswer hCode
    rcases answered_publicRequest hRun hStart hAnswer with
      ⟨env, rfl, hCalls⟩
    rcases (problemCode_respond_iff state env).mp hCode with
      ⟨hStore, hSnapshot⟩
    apply hRead thread
    rw [← mem_callsOf_iff, hCalls, callsWith_answerPublic,
      callsWith_currentStore state env hStore, hSnapshot]
    simp
  · intro thread line hStart hLine hBlamed
    rcases List.append_of_mem hLine with
      ⟨first, second, rfl⟩
    rcases hRun.performs_of_call with
      ⟨_, _, handler, _, _, _, _, hStarts, hPerforms⟩
    have hHandler := (hRun.performs_of_start hStart).1
    have hFirst : handler ∈
        startsOf thread
          (first ++ .call thread ⟨.eprintln line, ()⟩ ::
            second) := by
      rw [mem_startsOf_iff]
      apply List.mem_append_left
      rw [← mem_startsOf_iff, hStarts]
      exact List.mem_singleton_self _
    rw [hHandler, List.mem_singleton] at hFirst
    subst hFirst
    rcases hPerforms.guard (blames_reloadStore state)
        hBlamed with
      ⟨update, hPoisoned⟩
    rw [List.nil_append, mem_callsOf_iff] at hPoisoned
    exact hWritten thread update
      (List.mem_append_left _ hPoisoned)

variable {config : GatewayConfig} {files : FileSystem}

/-
  In every run of a started gateway, the store is available
  exactly if no reload with a lower sequence than the store
  it finds installed fails to write its log line.
-/
theorem storeAvailable_iff
    {now : Int}
    (hRange : InClockRange now)
    (hStartup :
      startup lib config files now = .ok (state, shared))
    (hRun : Run (.initial shared) events after) :
    StoreAvailable events after ↔
      RollbacksLogged shared events := by
  have hFresh : ∀ lock, shared.lock = some lock →
      lock.writer = none ∧ lock.poisoned = false := by
    rcases (startup_ok hRange hStartup).store with
      ⟨_, _, rfl⟩ | ⟨_, _, _, _, _, _, _, rfl⟩
    · simp [initialState]
    · rintro lock ⟨⟩
      exact ⟨rfl, rfl⟩
  rw [← not_poisoned_iff hFresh hRun]
  constructor
  · intro hAvailable
    exact hAvailable.clean
  · exact storeAvailable_of_clean hRun

/-
  The page with the lower sequence is published, a reload of
  it is rolled back and logged, and a page is requested.
-/
theorem storeAvailable_iff_sample :
    ∃ after,
      Run (.initial sequenceShared) rolledBackEvents
          after ∧
        RolledBack sequenceShared rolledBackEvents 0 ∧
          StoreAvailable rolledBackEvents after := by
  rcases run_rolledBack with ⟨after, hRun⟩
  refine ⟨after, hRun, ?_, ?_⟩
  · refine ⟨.change (sequencePage "0" 0).files ::
        loadEvents _ _ 0 sampleDir
          ((sequencePage "0" 0).store "/page"),
      _, _, .returned, sampleDir,
      (sequencePage "0" 0).store "/page",
      (sequencePage "1" 1).store "/page", rfl,
      by simp [loadEvents], rfl, sequencePage_lower⟩
  · apply (storeAvailable_iff sampleNow_inClockRange
      sequence_startup hRun).mpr
    intro first thread second hEvents
    have hPanic :
        .panic thread ∈ rolledBackEvents := by
      rw [hEvents]
      simp
    simp [rolledBackEvents, loadEvents, rollbackEvents,
      requestEvents] at hPanic

/- The request is answered 500. -/
theorem storeAvailable_lostRollback :
    startup (documentExt sequenceDocuments) sampleConfig
        (sequencePage "1" 1).files sampleNow =
      .ok (sampleState, sequenceShared) ∧
    ∃ after,
      Run (.initial sequenceShared) poisoningEvents after ∧
        .start 1
            (.publicRequest
              (getRequest pageTarget .empty)) ∈
          poisoningEvents ∧
        .answer 1
            ProxyHttpError.storeStateUnavailable.intoResponse ∈
          poisoningEvents ∧
        ¬StoreAvailable poisoningEvents after := by
  rcases run_poisoning with ⟨after, hRun⟩
  have hStart :
      .start 1
          (.publicRequest (getRequest pageTarget .empty)) ∈
        poisoningEvents := by
    simp [poisoningEvents, refusedEvents]
  have hAnswer :
      .answer 1
          ProxyHttpError.storeStateUnavailable.intoResponse ∈
        poisoningEvents := by
    simp [poisoningEvents, refusedEvents]
  refine ⟨sequence_startup, after, hRun, hStart, hAnswer, ?_⟩
  intro hAvailable
  exact hAvailable.answered 1 _ _ hStart hAnswer
    ((problemCode_intoResponse_iff _).mpr rfl)

end System

end AjarGateway
