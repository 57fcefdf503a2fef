import AjarGateway.Interleaving.Erasure
import AjarGateway.System.Invariants
import AjarGateway.System.Solo

/-
  A failed reload changes nothing that is served.

  Whatever a reload fails for, its own steps leave the store
  and the expiry flag as they were, and count one failure.
  The run without that reload is a run in which all other
  handlers do the same, but for what `/metrics` reports.

  Key definitions include:
    * `System.FailingCall`
    * `System.DiffersByFailures`
    * `System.failedReloadIsolation`

  Key theorems include:
    * `System.failing_reloadStore`
    * `System.failed_reload_erased`
-/

------------------------------------------------------------
-- The Calls Of A Failed Reload
------------------------------------------------------------

namespace AjarGateway

namespace System

open Http Interleaving Serving Store

/- What a reload that fails calls. -/
def FailingCall : Call gatewaySignature → Prop
| ⟨.fetchAdd counter, _⟩ =>
    counter = .storeReloadFailuresTotal
| ⟨.eprintln _, _⟩ => True
| ⟨.loadFromDir _, _⟩ => True
| ⟨.writeStore _, reply⟩ => reply ≠ .assigned
| ⟨.dropGuard, _⟩ => True
| _ => False

/- The call that counts a failure. -/
def countsFailure : Call gatewaySignature → Bool
| ⟨.fetchAdd .storeReloadFailuresTotal, _⟩ => true
| _ => false

/- Calls of a reload that has counted some failures. -/
structure Failing
    (count : Nat)
    (calls : List (Call gatewaySignature)) : Prop where
  failing : ∀ call ∈ calls, FailingCall call
  count : calls.countP countsFailure = count

/- Two loads of the failure counter. -/
def FailuresVary :
    (op : GatewayOp) → op.Reply → op.Reply → Prop
| .loadCounter counter, _, _ =>
    counter = .storeReloadFailuresTotal
| _, _, _ => False

/- A reload that does not answer 200 has failed once. -/
def FailsOnce
    (calls : List (Call gatewaySignature))
    (answer : Response Body) : Prop :=
  answer.status ≠ 200 → Failing 1 calls

theorem failing_reloadStore (state : ProxyState) :
    (reloadStore state).Meets
      (fun _ op => ∀ reply reply',
        ¬FailuresVary op reply reply')
      FailsOnce [] := by
  apply meets_reloadStore_of_exits
  intro calls answer hExit
  constructor
  · cases hExit <;> simp [failureCalls, FailuresVary]
  · intro hStatus
    cases hExit with
    | reloaded path loaded hDir => exact absurd rfl hStatus
    | _ =>
        constructor
        · simp [failureCalls, FailingCall]
        · rfl

end System

end AjarGateway

------------------------------------------------------------
-- What Its Steps Change
------------------------------------------------------------

namespace AjarGateway

namespace System

open Http Interleaving Serving Store

/-
  What is served is kept: the installed store, the expiry
  flag, and every counter but that of failed reloads.
-/
structure KeepsServed (before after : SharedState) :
    Prop where
  installed : after.installed = before.installed
  flag :
    after.manifestExpiryLogged = before.manifestExpiryLogged
  counters : ∀ counter,
    counter ≠ .storeReloadFailuresTotal →
      after.metrics counter = before.metrics counter

theorem KeepsServed.refl (state : SharedState) :
    KeepsServed state state :=
  ⟨rfl, rfl, fun _ _ => rfl⟩

theorem Exec.keepsServed
    {json : SerdeJson} {thread : Nat}
    {before after : SharedState}
    {call : Call gatewaySignature}
    (hExec : Exec json thread before call after)
    (hFailing : FailingCall call) :
    KeepsServed before after := by
  have hInstalled : after.installed = before.installed := by
    apply hExec.installed_of_not_assigned
    rintro update rfl
    exact hFailing rfl
  refine ⟨hInstalled, ?_, ?_⟩
  · cases hExec with
    | compareExchange => cases hFailing
    | resetExpiryLogged => cases hFailing
    | _ => rfl
  · intro counter hOther
    cases hExec with
    | fetchAdd counted =>
        cases hFailing
        exact Function.update_of_ne hOther _ _
    | _ => rfl

variable {lib : Externals} {state : ProxyState}
variable {event : Event (gateway lib state)}
variable {before after : Config (gateway lib state)}

/- An own step that is no call changes nothing served. -/
theorem step_keepsServed
    {thread : Nat}
    (hStep : Step before event after)
    (hOwn : event.thread? = some thread)
    (hFailing : ∀ call ∈ event.callOf thread,
      FailingCall call) :
    KeepsServed before.state after.state := by
  cases hStep with
  | start _ | answer _ | cancel _ _ => exact .refl _
  | panic _ hUnwind =>
      have hInstalled := hUnwind.installed_eq
      cases hUnwind
      exact ⟨hInstalled, rfl, fun _ _ => rfl⟩
  | change _ => cases hOwn
  | call _ hExec =>
      cases hOwn
      apply Exec.keepsServed hExec
      exact hFailing _ (by simp [Event.callOf])

end System

end AjarGateway

------------------------------------------------------------
-- The Run Without A Failed Reload
------------------------------------------------------------

namespace AjarGateway

namespace System

open Http Interleaving Serving Store

/- The lock without the guard of one handler. -/
def StoreLock.released
    (lock : StoreLock)
    (thread : Nat) : StoreLock :=
  if lock.writer = some thread then
    { lock with writer := none }
  else
    lock

theorem StoreLock.released_of_ne
    {lock : StoreLock} {thread : Nat}
    (hOther : lock.writer ≠ some thread) :
    lock.released thread = lock := by
  unfold released
  rw [if_neg hOther]

@[simp] theorem StoreLock.installed_released
    (lock : StoreLock)
    (thread : Nat) :
    (lock.released thread).installed = lock.installed := by
  unfold released
  split <;> rfl

theorem StoreLock.released_held
    {lock : StoreLock}
    (thread : Nat)
    (hFree : lock.writer = none) :
    ({ lock with writer := some thread }).released thread =
      lock := by
  cases lock with
  | mk installed poisoned writer =>
      cases hFree
      exact if_pos rfl

/-
  Two states that agree on all that is served.  The first
  one has counted the given failures more, and its lock may
  be held by the handler that the second one lacks.
-/
structure DiffersByFailures
    (thread : Nat)
    (past : List (Call gatewaySignature))
    (state erased : SharedState) : Prop where
  lock : erased.lock = state.lock.map (·.released thread)
  counters : ∀ counter,
    counter ≠ .storeReloadFailuresTotal →
      erased.metrics counter = state.metrics counter
  failures :
    state.metrics .storeReloadFailuresTotal =
      erased.metrics .storeReloadFailuresTotal +
        UInt64.ofNat (past.countP countsFailure)
  flag :
    erased.manifestExpiryLogged = state.manifestExpiryLogged
  files : erased.files = state.files

theorem DiffersByFailures.installed
    {thread : Nat} {past : List (Call gatewaySignature)}
    {state erased : SharedState}
    (hDiffers : DiffersByFailures thread past state erased) :
    erased.installed = state.installed := by
  unfold SharedState.installed
  rw [hDiffers.lock]
  cases state.lock <;> simp

/- Without guard and failures the states are the same. -/
theorem DiffersByFailures.refl
    {thread : Nat} {state : SharedState}
    (hFree : ∀ lock, state.lock = some lock →
      lock.writer = none) :
    DiffersByFailures thread [] state state := by
  refine ⟨?_, fun _ _ => rfl, by simp, rfl, rfl⟩
  cases hLock : state.lock with
  | none => rfl
  | some lock =>
      rw [Option.map_some, StoreLock.released_of_ne]
      simp [hFree lock hLock]

variable {json : SerdeJson} {thread : Nat}
variable {past : List (Call gatewaySignature)}
variable {before after erased : SharedState}

/- A lock that is free or held by another is the same. -/
theorem DiffersByFailures.lock_eq
    {lock : StoreLock}
    (hDiffers : DiffersByFailures thread past before erased)
    (hLock : before.lock = some lock)
    (hOther : lock.writer ≠ some thread) :
    erased.lock = some lock := by
  rw [hDiffers.lock, hLock, Option.map_some,
    StoreLock.released_of_ne hOther]

/- A call of the failed reload is left out. -/
theorem DiffersByFailures.own
    {call : Call gatewaySignature}
    (hDiffers : DiffersByFailures thread past before erased)
    (hExec : Exec json thread before call after)
    (hFailing : FailingCall call) :
    DiffersByFailures thread (past ++ [call]) after
      erased := by
  have hServed := hExec.keepsServed hFailing
  refine ⟨?_, ?_, ?_, ?_, ?_⟩
  · rw [hDiffers.lock]
    cases hExec with
    | assign => exact absurd rfl hFailing
    | returnEarly lock _ hLock hFree _ _
    | writePoisoned lock _ hLock hFree _ =>
        rw [hLock, SharedState.withLock, Option.map_some,
          Option.map_some, StoreLock.released_held _ hFree,
          StoreLock.released_of_ne (by simp [hFree])]
    | dropGuard lock hLock hHeld =>
        simp [hLock, SharedState.withLock,
          StoreLock.released, hHeld]
    | _ => rfl
  · intro counter hOther
    rw [hServed.counters counter hOther,
      hDiffers.counters counter hOther]
  · rw [List.countP_append, UInt64.ofNat_add,
      ← UInt64.add_assoc, ← hDiffers.failures]
    cases hExec with
    | fetchAdd counter =>
        cases hFailing
        simp [SharedState.increment, countsFailure]
    | _ => simp [SharedState.withLock, countsFailure]
  · rw [hServed.flag, hDiffers.flag]
  · rw [hExec.files_eq, hDiffers.files]

/- Both states may count, or take another lock. -/
theorem DiffersByFailures.increment
    (hDiffers : DiffersByFailures thread past before erased)
    (counter : Counter) :
    DiffersByFailures thread past (before.increment counter)
      (erased.increment counter) := by
  refine ⟨hDiffers.lock, ?_, ?_, hDiffers.flag,
    hDiffers.files⟩
  · intro other hOther
    by_cases hSame : other = counter
    · subst hSame
      simp [SharedState.increment,
        hDiffers.counters other hOther]
    · simp [SharedState.increment, hSame,
        hDiffers.counters other hOther]
  · by_cases hSame : .storeReloadFailuresTotal = counter
    · subst hSame
      simp only [SharedState.increment, Function.update_self,
        hDiffers.failures]
      rw [UInt64.add_assoc, UInt64.add_assoc,
        UInt64.add_comm 1]
    · simp [SharedState.increment, hSame, hDiffers.failures]

theorem DiffersByFailures.withLock
    (hDiffers : DiffersByFailures thread past before erased)
    {lock : StoreLock}
    (hOther : lock.writer ≠ some thread) :
    DiffersByFailures thread past (before.withLock lock)
      (erased.withLock lock) := by
  refine ⟨?_, hDiffers.counters, hDiffers.failures,
    hDiffers.flag, hDiffers.files⟩
  simp [SharedState.withLock,
    StoreLock.released_of_ne hOther]

/- A call of another handler is the same in both runs. -/
theorem DiffersByFailures.other
    {other : Nat} {op : GatewayOp} {reply : op.Reply}
    (hDiffers : DiffersByFailures thread past before erased)
    (hExec : Exec json other before ⟨op, reply⟩ after)
    (hOther : other ≠ thread) :
    ∃ reply' erased',
      Exec json other erased ⟨op, reply'⟩ erased' ∧
        DiffersByFailures thread past after erased' ∧
          (reply' = reply ∨ FailuresVary op reply reply') := by
  have hFree {lock : StoreLock}
      (hNone : lock.writer = none) :
      lock.writer ≠ some thread := by
    simp [hNone]
  cases hExec with
  | fetchAdd counter =>
      exact ⟨(), _, .fetchAdd _ counter,
        hDiffers.increment counter, .inl rfl⟩
  | loadCounter counter =>
      refine ⟨_, erased, .loadCounter _ counter, hDiffers,
        ?_⟩
      by_cases hFailures :
          counter = .storeReloadFailuresTotal
      · exact .inr hFailures
      · exact .inl (hDiffers.counters counter hFailures)
  | readStore lock hLock hNone hClean =>
      have hSame := hDiffers.lock_eq hLock (hFree hNone)
      exact ⟨_, erased, .readStore _ lock hSame hNone hClean,
        hDiffers, .inl rfl⟩
  | readPoisoned lock hLock hNone hPoisoned =>
      have hSame := hDiffers.lock_eq hLock (hFree hNone)
      exact ⟨_, erased,
        .readPoisoned _ lock hSame hNone hPoisoned, hDiffers,
        .inl rfl⟩
  | nowUnixSeconds now hRange =>
      exact ⟨_, erased, .nowUnixSeconds _ now hRange,
        hDiffers, .inl rfl⟩
  | compareExchange =>
      refine ⟨_, _, .compareExchange erased,
        ⟨hDiffers.lock, hDiffers.counters, hDiffers.failures,
          rfl, hDiffers.files⟩,
        .inl ?_⟩
      rw [hDiffers.flag]
  | resetExpiryLogged =>
      exact ⟨_, _, .resetExpiryLogged erased,
        ⟨hDiffers.lock, hDiffers.counters, hDiffers.failures,
          rfl, hDiffers.files⟩,
        .inl rfl⟩
  | eprintln line =>
      exact ⟨_, erased, .eprintln _ line, hDiffers, .inl rfl⟩
  | requestOrigin upstream reply =>
      exact ⟨_, erased, .requestOrigin _ upstream reply,
        hDiffers, .inl rfl⟩
  | loadFromDir storeDir now hRange =>
      refine ⟨_, erased, .loadFromDir _ storeDir now hRange,
        hDiffers, .inl ?_⟩
      rw [hDiffers.files]
  | assign lock update store hLock hNone hClean hUpdate =>
      have hSame := hDiffers.lock_eq hLock (hFree hNone)
      exact ⟨_, _,
        .assign erased lock update store hSame hNone hClean
          hUpdate,
        hDiffers.withLock (hFree hNone), .inl rfl⟩
  | returnEarly lock update hLock hNone hClean hUpdate =>
      have hSame := hDiffers.lock_eq hLock (hFree hNone)
      have hHeld : some other ≠ some thread := by
        simpa using hOther
      exact ⟨_, _,
        .returnEarly erased lock update hSame hNone hClean
          hUpdate,
        hDiffers.withLock hHeld, .inl rfl⟩
  | writePoisoned lock update hLock hNone hPoisoned =>
      have hSame := hDiffers.lock_eq hLock (hFree hNone)
      have hHeld : some other ≠ some thread := by
        simpa using hOther
      exact ⟨_, _,
        .writePoisoned erased lock update hSame hNone
          hPoisoned,
        hDiffers.withLock hHeld, .inl rfl⟩
  | dropGuard lock hLock hHeld =>
      have hNotThread : lock.writer ≠ some thread := by
        simpa [hHeld] using hOther
      have hSame := hDiffers.lock_eq hLock hNotThread
      exact ⟨_, _, .dropGuard erased lock hSame hHeld,
        hDiffers.withLock (by simp), .inl rfl⟩

/- A panic of another handler happens in both runs. -/
theorem DiffersByFailures.unwind
    {other : Nat} {op : GatewayOp}
    (hDiffers : DiffersByFailures thread past before erased)
    (hUnwind : Unwind other before op after)
    (hOther : other ≠ thread) :
    ∃ erased',
      Unwind other erased op erased' ∧
        DiffersByFailures thread past after erased' := by
  cases hUnwind with
  | eprintln line =>
      refine ⟨_, .eprintln erased line, ?_,
        hDiffers.counters, hDiffers.failures, hDiffers.flag,
        hDiffers.files⟩
      rw [hDiffers.lock]
      cases before.lock with
      | none => rfl
      | some lock =>
          simp only [Option.map_some]
          congr 1
          by_cases hOwn : lock.writer = some thread
          · have hNe : some thread ≠ some other := by
              simpa using hOther.symm
            simp [StoreLock.released, StoreLock.unwound,
              hOwn, hNe]
          · have hUnwound :
                (lock.unwound other).writer ≠
                  some thread := by
              unfold StoreLock.unwound
              split
              · simp
              · exact hOwn
            rw [StoreLock.released_of_ne hOwn,
              StoreLock.released_of_ne hUnwound]

/- A public request does not load the counters. -/
theorem meets_answerPublic_failures
    (lib : Externals)
    (state : ProxyState)
    (request : Request Chunks) :
    (answerPublic lib state request).Meets
      (fun _ op => ∀ reply reply',
        ¬FailuresVary op reply reply')
      (fun _ _ => True) [] := by
  apply (climbs_answerPublic lib state request).meets
  intro past op hStage reply reply' hVaries
  cases op with
  | loadCounter counter =>
      exact absurd hStage (Nat.not_succ_le_zero 0)
  | _ => exact hVaries

/- Only `/metrics` loads the counter of failures. -/
theorem metrics_of_failuresVary
    {lib : Externals} {state : ProxyState}
    {shared : SharedState}
    {events : List (Event (gateway lib state))}
    {after : Config (gateway lib state)}
    {thread : Nat} {op : GatewayOp}
    {reply reply' : op.Reply}
    (hRun : Run (.initial shared) events after)
    (hVaries : FailuresVary op reply reply')
    (hCall : .call thread ⟨op, reply⟩ ∈ events) :
    .start thread .metrics ∈ events := by
  rcases List.append_of_mem hCall with ⟨first, second, rfl⟩
  rcases hRun.performs_of_call with
    ⟨_, _, incoming, rest, _, _, _, hStarts, hPerforms⟩
  have hStart : .start thread incoming ∈ first := by
    rw [← mem_startsOf_iff, hStarts]
    exact List.mem_singleton_self _
  cases incoming with
  | publicRequest request =>
      have hGuard := hPerforms.guard
        (meets_answerPublic_failures lib state request)
      exact absurd hVaries (hGuard reply reply')
  | reload =>
      have hGuard :=
        hPerforms.guard (failing_reloadStore state)
      exact absurd hVaries (hGuard reply reply')
  | metrics => exact List.mem_append_left _ hStart
  | healthz =>
      have hNone :=
        ((performs_ret_iff _ _ _).mp hPerforms).1
      simp at hNone

/- A failed reload can be left out of a run. -/
def failedReloadIsolation
    (lib : Externals)
    (state : ProxyState)
    (thread : Nat) :
    Isolation (gateway lib state) {thread} where
  related := DiffersByFailures thread
  quiet := FailingCall
  mayPanic := False
  varies := FailuresVary
  silent := fun _ => False
  exempt := (· = .metrics)
  own := by
    intro past other call before after erased hOwn hFailing
      hExec hDiffers
    rw [Finset.mem_singleton] at hOwn
    subst hOwn
    exact hDiffers.own hExec hFailing
  ownUnwind := fun hPanics => hPanics.elim
  other := fun hOther hExec hDiffers =>
    hDiffers.other hExec (by simpa using hOther)
  unwind := fun hOther hUnwind hDiffers =>
    hDiffers.unwind hUnwind (by simpa using hOther)
  change := by
    rintro past files before _ erased rfl hDiffers
    exact ⟨_, rfl, hDiffers.lock, hDiffers.counters,
      hDiffers.failures, hDiffers.flag, rfl⟩
  silently := fun _ _ _ hSilent => hSilent.elim
  tracks := tracks_handle_of lib state
    (fun _ request _ =>
      (meets_answerPublic_failures lib state request).tracks)
    (fun _ => (failing_reloadStore state).tracks)

end System

end AjarGateway

------------------------------------------------------------
-- A Failed Reload Changes Nothing That Is Served
------------------------------------------------------------

namespace AjarGateway

namespace System

open Http Interleaving Serving Store

variable {lib : Externals} {state : ProxyState}
variable {shared : SharedState}
variable {events : List (Event (gateway lib state))}
variable {after : Config (gateway lib state)}
variable {thread : Nat} {answer : Response Body}

/- A reload that was not answered 200 has failed once. -/
theorem failing_of_answered
    (hRun : Run (.initial shared) events after)
    (hStart : .start thread .reload ∈ events)
    (hAnswer : .answer thread answer ∈ events)
    (hFailed : answer.status ≠ 200) :
    Failing 1 (callsOf thread events) := by
  rcases hRun.performs_of_answer hAnswer with
    ⟨handler, hStarts, hPerforms⟩
  have hHandler := (hRun.performs_of_start hStart).1
  rw [hStarts, List.singleton_inj] at hHandler
  subst hHandler
  exact hPerforms.post (failing_reloadStore state) hFailed

/-
  A reload that fails, in a run of the gateway from any
  state in which no handler holds the guard.  Its own steps
  keep what is served.  Without it there is a run with the
  same events of all others, but for what `/metrics` loads
  and answers: the other answers are the same, and so is the
  state, but for one counted failure.
-/
theorem failed_reload_erased
    (hFree : ∀ lock, shared.lock = some lock →
      lock.writer = none)
    (hRun : Run (.initial shared) events after)
    (hStart : .start thread .reload ∈ events)
    (hAnswer : .answer thread answer ∈ events)
    (hFailed : answer.status ≠ 200) :
    (∀ event ∈ events,
      event.thread? = some thread →
        ∀ before next : Config (gateway lib state),
          Step before event next →
            KeepsServed before.state next.state) ∧
    ∃ (kept : List (Event (gateway lib state)))
      (erased : Config (gateway lib state)),
      Run (.initial shared) kept erased ∧
      List.Forall₂
          (SameEvent fun other =>
            .start other .metrics ∈ events)
          (eventsWithout thread events) kept ∧
      (∀ other,
        other ≠ thread →
          .start other .metrics ∉ events →
            answersOf other kept =
              answersOf other events) ∧
      KeepsServed erased.state after.state ∧
      after.state.metrics .storeReloadFailuresTotal =
        erased.state.metrics .storeReloadFailuresTotal +
          1 := by
  have hFailing :=
    failing_of_answered hRun hStart hAnswer hFailed
  constructor
  · intro event hEvent hOwn before next hStep
    apply step_keepsServed hStep hOwn
    intro call hCall
    apply hFailing.failing
    exact List.mem_filterMap.mpr ⟨event, hEvent, hCall⟩
  · rcases hRun.erase
        (failedReloadIsolation lib state thread)
        (.refl hFree) hFailing.failing
        (hRun.panic_not_mem_of_answer hAnswer)
        (fun _ => id)
        (fun _ _ _ _ hVaries hCall =>
          metrics_of_failuresVary hRun hVaries hCall)
        (fun _ _ hMetrics hMetricsStart =>
          hMetrics ▸ hMetricsStart) with
      ⟨kept, erased, hKept, hSame, hAnswers, hRelated⟩
    have hDiffers : DiffersByFailures thread
        (callsOf thread events) after.state erased.state :=
      hRelated
    refine ⟨kept, erased, hKept, hSame, hAnswers, ?_, ?_⟩
    · exact ⟨hDiffers.installed.symm, hDiffers.flag.symm,
        fun counter hOther =>
          (hDiffers.counters counter hOther).symm⟩
    · rw [hDiffers.failures, hFailing.count]
      rfl

/- A directory of which nothing can be read. -/
def unreadableFiles : FileSystem where
  readFile := fun _ => .error .notFound
  readDir := fun _ => .error .notFound

/- The calls of a reload that cannot load its directory. -/
def failedLoadCalls
    (path : Path)
    (error : StoreLoadError) :
    List (Call gatewaySignature) :=
  [⟨.loadFromDir path, .error error⟩,
    ⟨.fetchAdd .storeReloadFailuresTotal, ()⟩,
    ⟨.eprintln ⟨"error", "store_reload_failed",
      [("reason", .string "validation_failed"),
        ("detail", .string error.message)]⟩, ()⟩]

def failedLoadResponse
    (error : StoreLoadError) : Response Body :=
  problemResponse 409 "AJAR_GATEWAY_STORE_RELOAD_FAILED"
    "Store reload failed" error.message

def failedLoadEvents
    (lib : Externals)
    (state : ProxyState)
    (thread : Nat)
    (path : Path)
    (error : StoreLoadError) :
    List (Event (gateway lib state)) :=
  .start thread .reload ::
    ((failedLoadCalls path error).map (Event.call thread) ++
      [.answer thread (failedLoadResponse error)])

/- It leaves the state with one counted failure. -/
theorem run_failedLoad
    {c : Config (gateway lib state)}
    {path : Path} {now : Int} {error : StoreLoadError}
    (hDir : state.config.storeDir = some path)
    (hStore : state.hasStore = true)
    (hIdle : c.threads thread = .idle)
    (hRange : InClockRange now)
    (hLoad :
      loadFrom lib.json path c.state.files now =
        .error error) :
    ∃ next : Config (gateway lib state),
      Run c (failedLoadEvents lib state thread path error)
          next ∧
        next.state =
            c.state.increment .storeReloadFailuresTotal ∧
          ∀ other, other ≠ thread →
            next.threads other = c.threads other := by
  have hPerforms :
      Performs (handle lib state .reload)
        (failedLoadCalls path error)
        (.ret (failedLoadResponse error)) := by
    rw [handle, reloadStore, hDir, hStore]
    exact .step (.step (.step (.done _)))
  have hExec :
      Exec lib.json thread c.state
        ⟨.loadFromDir path, .error error⟩ c.state := by
    rw [← hLoad]
    exact .loadFromDir _ _ _ hRange
  have hExecs :
      (gateway lib state).Execs thread c.state
        (failedLoadCalls path error)
        (c.state.increment .storeReloadFailuresTotal) :=
    .cons hExec
      (.cons (.fetchAdd _ _)
        (.cons (.eprintln _ _) (.nil _)))
  exact ⟨_, Run.whole hIdle hPerforms hExecs, rfl,
    fun _ hNe => Config.setThread_threads_of_ne _ _ hNe⟩

/-
  The directory of the sample gateway becomes unreadable, a
  reload fails, and the page is requested: the request is
  answered as in the run without that reload.
-/
theorem failed_reload_erased_unreadable :
    ∃ (kept : List (Event (gateway sampleExt sampleState)))
      (erased : Config (gateway sampleExt sampleState)),
      Run (.initial sampleShared) kept erased ∧
        .answer 1
            (respond sampleExt sampleState
              (sampleEnv (samplePage "Old"))
              (getRequest pageTarget .empty)) ∈
          kept := by
  rcases run_change
      (Config.initial sampleShared :
        Config (gateway sampleExt sampleState))
      unreadableFiles with
    ⟨changed, hChange, hChanged, hIdle⟩
  have hReloader : changed.threads 0 = .idle := by
    rw [hIdle]
    rfl
  have hLoad :
      loadFrom sampleExt.json sampleDir changed.state.files
          sampleNow =
        .error (.backendReadFailed .notFound) := by
    rw [hChanged]
    rfl
  rcases run_failedLoad rfl rfl hReloader
      sampleNow_inClockRange hLoad with
    ⟨failed, hFailed, hState, hOthers⟩
  have hReader : failed.threads 1 = .idle := by
    rw [hOthers 1 (by decide), hIdle]
    rfl
  rcases run_request (getRequest pageTarget .empty) hReader
      (sampleEnv_agrees (by rw [hState, hChanged]; rfl))
      (by rw [hState, hChanged]; rfl) with
    ⟨after, hRequest⟩
  have hRun := (hChange.append hFailed).append hRequest
  have hFree : ∀ lock, sampleShared.lock = some lock →
      lock.writer = none := by
    intro lock hLock
    cases hLock
    rfl
  have hAnswer :
      .answer 0
          (failedLoadResponse
            (.backendReadFailed .notFound)) ∈
        [.change unreadableFiles] ++
            failedLoadEvents sampleExt sampleState 0
              sampleDir (.backendReadFailed .notFound) ++
          requestEvents sampleExt sampleState 1
            (sampleEnv (samplePage "Old"))
            (getRequest pageTarget .empty) := by
    simp [failedLoadEvents]
  rcases (failed_reload_erased hFree hRun
      (by simp [failedLoadEvents]) hAnswer (by decide)).2
    with ⟨kept, erased, hKept, _, hAnswers, _⟩
  refine ⟨kept, erased, hKept, ?_⟩
  rw [← mem_answersOf_iff, hAnswers 1 (by decide)
    (by simp [failedLoadEvents, requestEvents]),
    mem_answersOf_iff]
  simp [requestEvents]

end System

end AjarGateway
