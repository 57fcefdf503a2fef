import AjarGateway.System.Gateway

/-
  What holds in every run of the gateway.

  The store changes only when a reload assigns a store that
  it has loaded and whose sequence is not lower; a poisoned
  lock is due to a panic; and an answered request has read
  the store once, at a moment of the run.

  Key definitions include:
    * `System.SequenceLe`

  Key theorems include:
    * `System.step_assigned`
    * `System.installed_mono`
    * `System.installed_wasLoaded`
    * `System.answered_publicRequest`
-/

------------------------------------------------------------
-- The Installed Store
------------------------------------------------------------

namespace AjarGateway

namespace System

open Http Interleaving Serving Store

/- The first store does not have a higher sequence. -/
def SequenceLe
    (first second : Option PreparedContentStore) : Prop :=
  ∀ old, first = some old →
    ∃ new,
      second = some new ∧
        old.manifestSequence ≤ new.manifestSequence

theorem SequenceLe.refl
    (store : Option PreparedContentStore) :
    SequenceLe store store :=
  fun old hOld => ⟨old, hOld, le_rfl⟩

theorem SequenceLe.trans
    {first second third : Option PreparedContentStore}
    (hFirst : SequenceLe first second)
    (hSecond : SequenceLe second third) :
    SequenceLe first third := by
  intro old hOld
  rcases hFirst old hOld with ⟨middle, hMiddle, hLe⟩
  rcases hSecond middle hMiddle with ⟨new, hNew, hLe'⟩
  exact ⟨new, hNew, hLe.trans hLe'⟩

variable {lib : Externals} {state : ProxyState}
variable {shared : SharedState}
variable {events : List (Event (gateway lib state))}
variable {before after : Config (gateway lib state)}

/-
  An assignment installs a store that the same handler has
  loaded before, of at least the present sequence.
-/
theorem step_assigned
    {thread : Nat}
    {update :
      PreparedContentStore → Option PreparedContentStore}
    (hRun : Run (.initial shared) events before)
    (hStep :
      Step before
        (.call thread ⟨.writeStore update, .assigned⟩)
        after) :
    ∃ path current loaded,
      update = assignUnlessLower loaded ∧
        state.config.storeDir = some path ∧
          before.state.installed = some current ∧
            current.manifestSequence ≤
              loaded.manifestSequence ∧
            after.state.installed = some loaded ∧
              .call thread
                  ⟨.loadFromDir path, .ok loaded⟩ ∈
                events := by
  rcases (hRun.snoc hStep).performs_of_call with
    ⟨_, _, handler, _, _, _, _, _, hPerforms⟩
  have hGuard :=
    hPerforms.guard (meets_handle lib state handler)
  rcases hGuard with ⟨path, loaded, hDir, rfl, hLoaded⟩
  rw [List.nil_append, mem_callsOf_iff] at hLoaded
  cases hStep with
  | call _ hExec =>
      cases hExec with
      | assign lock _ store hLock _ _ hUpdate =>
          rw [assignUnlessLower] at hUpdate
          split at hUpdate
          · cases hUpdate
          · cases hUpdate
            exact ⟨path, lock.installed, loaded, rfl, hDir,
              by simp [SharedState.installed, hLock],
              by omega, rfl, hLoaded⟩

/- A step leaves the installed store, or assigns one. -/
theorem step_installed_cases
    {event : Event (gateway lib state)}
    (hStep : Step before event after) :
    after.state.installed = before.state.installed ∨
      ∃ thread update,
        event =
          .call thread ⟨.writeStore update, .assigned⟩ := by
  cases hStep with
  | start _ => exact .inl rfl
  | answer _ => exact .inl rfl
  | cancel _ _ => exact .inl rfl
  | panic _ hUnwind => exact .inl hUnwind.installed_eq
  | change hChange =>
      cases hChange
      exact .inl rfl
  | @call thread _ _ _ _ _ hExec =>
      rcases hExec.installed_cases with
        hSame | ⟨update, _, _, hCall, _⟩
      · exact .inl hSame
      · exact .inr
          ⟨thread, update, congrArg (Event.call thread) hCall⟩

/- The sequence of the installed store does not decrease. -/
theorem step_sequenceLe
    {event : Event (gateway lib state)}
    (hRun : Run (.initial shared) events before)
    (hStep : Step before event after) :
    SequenceLe before.state.installed
      after.state.installed := by
  rcases step_installed_cases hStep with
    hSame | ⟨thread, update, rfl⟩
  · rw [hSame]
    exact .refl _
  · rcases step_assigned hRun hStep with
      ⟨_, current, loaded, _, _, hCurrent, hLe, hLoaded, _⟩
    intro old hOld
    rw [hCurrent] at hOld
    cases hOld
    exact ⟨loaded, hLoaded, hLe⟩

theorem installed_mono
    {later : List (Event (gateway lib state))}
    (hBefore : Run (.initial shared) events before)
    (hLater : Run before later after) :
    SequenceLe before.state.installed
      after.state.installed := by
  induction hLater with
  | nil => exact .refl _
  | snoc hMiddle hStep ih =>
      exact ih.trans
        (step_sequenceLe (hBefore.append hMiddle) hStep)

/- Only a change of the directory changes the files. -/
theorem files_of_no_change
    (hRun : Run before events after)
    (hNoChange : ∀ made, .change made ∉ events) :
    after.state.files = before.state.files := by
  induction hRun with
  | nil => rfl
  | snoc _ hStep ih =>
      have hKept := ih fun made hMade =>
        hNoChange made (List.mem_append_left _ hMade)
      cases hStep with
      | call _ hExec => exact hExec.files_eq.trans hKept
      | panic _ hUnwind =>
          exact hUnwind.files_eq.trans hKept
      | @change made _ hChange =>
          exact absurd (by simp) (hNoChange made)
      | start _ => exact hKept
      | answer _ => exact hKept
      | cancel _ _ => exact hKept

/- A load in a run is a load of some files at some time. -/
theorem load_in_run
    {thread : Nat} {path : Path}
    {reply : Except StoreLoadError PreparedContentStore}
    (hRun : Run (.initial shared) events after)
    (hLoad :
      .call thread ⟨.loadFromDir path, reply⟩ ∈ events) :
    ∃ files now,
      InClockRange now ∧
        reply = loadFrom lib.json path files now := by
  rcases List.append_of_mem hLoad with
    ⟨first, second, rfl⟩
  rcases hRun.performs_of_call with
    ⟨before, _, _, _, _, _, hExec, _, _⟩
  rcases Exec.loadFromDir_reply hExec with
    ⟨_, now, hRange, hReply⟩
  exact ⟨before.state.files, now, hRange, hReply⟩

/- A handler has made no call before it loads. -/
theorem calls_before_load
    {first second : List (Event (gateway lib state))}
    {thread : Nat} {path : Path}
    {reply : Except StoreLoadError PreparedContentStore}
    (hRun :
      Run (.initial shared)
        (first ++
          .call thread ⟨.loadFromDir path, reply⟩ :: second)
        after) :
    callsOf thread first = [] ∧
      state.config.storeDir = some path := by
  rcases hRun.performs_of_call with
    ⟨_, _, handler, _, _, _, _, _, hPerforms⟩
  have hGuard :=
    hPerforms.guard (meets_handle lib state handler)
  rwa [List.nil_append] at hGuard

variable {config : GatewayConfig} {files : FileSystem}

/- Every store that is ever installed has been loaded. -/
theorem installed_wasLoaded
    {store : PreparedContentStore}
    (hStarted : Started lib config files state shared)
    (hRun : Run (.initial shared) events after)
    (hInstalled : after.state.installed = some store) :
    ∃ path,
      state.config.storeDir = some path ∧
        WasLoaded lib.json path store := by
  induction hRun generalizing store with
  | nil =>
      rcases hStarted.store with
        ⟨_, _, rfl⟩ |
          ⟨path, now, first, hDir, _, hRange, hLoad, rfl⟩
      · cases hInstalled
      · cases hInstalled
        exact ⟨path, hDir, files, now, hRange, hLoad⟩
  | snoc hRun hStep ih =>
      rcases step_installed_cases hStep with
        hSame | ⟨thread, update, rfl⟩
      · exact ih (hSame ▸ hInstalled)
      · rcases step_assigned hRun hStep with
          ⟨path, _, loaded, _, hDir, _, _, hLoaded, hLoad⟩
        rw [hLoaded] at hInstalled
        cases hInstalled
        rcases load_in_run hRun hLoad with
          ⟨files, now, hRange, hReply⟩
        exact ⟨path, hDir, files, now, hRange, hReply.symm⟩

/- Only a gateway that has a store reads one. -/
theorem hasStore_of_read
    {thread : Nat} {store : PreparedContentStore}
    (hStarted : Started lib config files state shared)
    (hRun : Run (.initial shared) events after)
    (hRead :
      .call thread ⟨.readStore, some store⟩ ∈ events) :
    state.hasStore = true := by
  rcases List.append_of_mem hRead with
    ⟨first, second, rfl⟩
  rcases hRun.performs_of_call with
    ⟨before, _, _, _, hBefore, _, hExec, _, _⟩
  rcases Exec.readStore_reply hExec with ⟨lock, hLock, _⟩
  have hInstalled :
      before.state.installed = some lock.installed := by
    rw [SharedState.installed, hLock]
    rfl
  rcases installed_wasLoaded hStarted hBefore hInstalled with
    ⟨path, hDir, _⟩
  rcases hStarted.store with
    ⟨hNone, _⟩ | ⟨_, _, _, _, hStore, _⟩
  · rw [hDir] at hNone
    cases hNone
  · exact hStore

/- The lock is only poisoned by a panic. -/
theorem panic_of_poisoned
    {lock : StoreLock}
    (hStarted : Started lib config files state shared)
    (hRun : Run (.initial shared) events after)
    (hLock : after.state.lock = some lock)
    (hPoisoned : lock.poisoned = true) :
    ∃ thread, .panic thread ∈ events := by
  induction hRun generalizing lock with
  | nil =>
      rcases hStarted.store with
        ⟨_, _, rfl⟩ | ⟨_, _, _, _, _, _, _, rfl⟩
      · cases hLock
      · cases hLock
        cases hPoisoned
  | @snoc events before event after hRun hStep ih =>
      have hEarlier :
          (∃ thread, .panic thread ∈ events) →
            ∃ thread, .panic thread ∈ events ++ [event] := by
        rintro ⟨thread, hPanic⟩
        exact ⟨thread, List.mem_append_left _ hPanic⟩
      cases hStep with
      | @panic thread _ _ _ _ _ =>
          exact ⟨thread, by simp⟩
      | call _ hExec =>
          rcases (Exec.poisoned_iff hExec).mp
              ⟨lock, hLock, hPoisoned⟩ with
            ⟨old, hOld, hOldPoisoned⟩
          exact hEarlier (ih hOld hOldPoisoned)
      | change hChange =>
          cases hChange
          exact hEarlier (ih hLock hPoisoned)
      | start _ => exact hEarlier (ih hLock hPoisoned)
      | answer _ => exact hEarlier (ih hLock hPoisoned)
      | cancel _ _ => exact hEarlier (ih hLock hPoisoned)

end System

end AjarGateway

------------------------------------------------------------
-- Answered Requests
------------------------------------------------------------

namespace AjarGateway

namespace System

open Http Interleaving Serving Store

variable {lib : Externals} {state : ProxyState}
variable {config : GatewayConfig} {files : FileSystem}
variable {shared : SharedState}
variable {events : List (Event (gateway lib state))}
variable {after : Config (gateway lib state)}
variable {thread : Nat} {request : Request Chunks}
variable {answer : Response Body}

/-
  An answered request got the answer of the replies to its
  own calls.
-/
theorem answered_publicRequest
    (hRun : Run (.initial shared) events after)
    (hStart :
      .start thread (.publicRequest request) ∈ events)
    (hAnswer : .answer thread answer ∈ events) :
    ∃ env : Surroundings,
      answer = respond lib state env request ∧
        callsOf thread events =
          (answerPublic lib state request).callsWith
            env.reply := by
  rcases hRun.performs_of_answer hAnswer with
    ⟨handler, hStarts, hPerforms⟩
  have hHandler := (hRun.performs_of_start hStart).1
  rw [hStarts, List.singleton_inj] at hHandler
  subst hHandler
  rcases performs_answerPublic lib state hPerforms with
    ⟨env, _, hRespond, hCalls⟩
  exact ⟨env, hRespond, hCalls⟩

/- A reload that answered 200 assigned what it loaded. -/
theorem answered_reload
    (hRun : Run (.initial shared) events after)
    (hStart : .start thread .reload ∈ events)
    (hAnswer : .answer thread answer ∈ events)
    (hStatus : answer.status = 200) :
    ∃ path loaded rest,
      state.config.storeDir = some path ∧
        callsOf thread events =
            ⟨.loadFromDir path, .ok loaded⟩ ::
              ⟨.writeStore (assignUnlessLower loaded),
                  .assigned⟩ ::
                rest ∧
          answer =
            reloadedResponse loaded.viewCount
              loaded.manifestSequence := by
  rcases hRun.performs_of_answer hAnswer with
    ⟨handler, hStarts, hPerforms⟩
  have hHandler := (hRun.performs_of_start hStart).1
  rw [hStarts, List.singleton_inj] at hHandler
  subst hHandler
  exact hPerforms.post (meets_reloadStore state) hStatus

/- A store is read at most once by each request. -/
theorem readStore_once
    {first second : List (Event (gateway lib state))}
    {snapshot other : Option PreparedContentStore}
    (hRun :
      Run (.initial shared)
        (first ++
          .call thread ⟨.readStore, snapshot⟩ :: second)
        after)
    (hStart :
      .start thread (.publicRequest request) ∈
        first ++
          .call thread ⟨.readStore, snapshot⟩ :: second) :
    .call thread ⟨.readStore, other⟩ ∉ first ++ second := by
  rcases hRun.performs_of_start hStart with
    ⟨_, rest, hPerforms⟩
  have hNodup :=
    (hPerforms.stages
      (climbs_answerPublic lib state request)).2
  have hCalls :
      callsOf thread
          (first ++
            .call thread ⟨.readStore, snapshot⟩ ::
              second) =
        callsOf thread first ++
          ⟨.readStore, snapshot⟩ ::
            callsOf thread second := by
    simp [callsOf, Event.callOf]
  rw [hCalls, List.map_append, List.map_cons] at hNodup
  have hFresh := (List.nodup_middle.mp hNodup).notMem
  intro hOther
  apply hFresh
  rw [← List.map_append]
  refine List.mem_map.mpr ⟨⟨.readStore, other⟩, ?_, rfl⟩
  rw [List.mem_append, mem_callsOf_iff, mem_callsOf_iff,
    ← List.mem_append]
  exact hOther

/-
  The snapshot of an answered request: the moment of the run
  at which the store was read, and what was installed then.
-/
theorem snapshot_of_answered
    (hStarted : Started lib config files state shared)
    (hStore : state.hasStore = true)
    (hRun : Run (.initial shared) events after)
    (hStart :
      .start thread (.publicRequest request) ∈ events)
    (hAnswer : .answer thread answer ∈ events) :
    ∃ (env : Surroundings)
      (first second : List (Event (gateway lib state)))
      (before : Config (gateway lib state))
      (store : PreparedContentStore),
      answer = respond lib state env request ∧
        callsOf thread events =
          (answerPublic lib state request).callsWith
            env.reply ∧
        events =
          first ++
            .call thread ⟨.readStore, env.snapshot⟩ ::
              second ∧
        Run (.initial shared) first before ∧
        before.state.installed = some store ∧
        (env.snapshot = some store ∨
          env.snapshot = none ∧
            ∃ other, .panic other ∈ first) := by
  rcases answered_publicRequest hRun hStart hAnswer with
    ⟨env, hRespond, hCalls⟩
  have hRead :
      ⟨.readStore, env.snapshot⟩ ∈ callsOf thread events := by
    rw [hCalls, callsWith_answerPublic,
      callsWith_currentStore state env hStore]
    simp
  rw [mem_callsOf_iff] at hRead
  rcases List.append_of_mem hRead with
    ⟨first, second, rfl⟩
  rcases hRun.performs_of_call with
    ⟨before, _, _, _, hBefore, _, hExec, _, _⟩
  rcases Exec.readStore_reply hExec with
    ⟨lock, hLock, hSnapshot⟩
  refine ⟨env, first, second, before, lock.installed,
    hRespond, hCalls, rfl, hBefore, ?_, ?_⟩
  · rw [SharedState.installed, hLock]
    rfl
  · cases hPoisoned : lock.poisoned with
    | false =>
        left
        simpa [hPoisoned] using hSnapshot
    | true =>
        right
        exact ⟨by simpa [hPoisoned] using hSnapshot,
          panic_of_poisoned hStarted hBefore hLock
            hPoisoned⟩

end System

end AjarGateway
