import AjarGateway.System.Invariants
import AjarGateway.System.Solo

/-
  Reloads against each other and against requests.

  Key theorems include:
    * `System.answer_before_call`
    * `System.sequence_after_reload`
    * `System.reload_safety`
-/

------------------------------------------------------------
-- Reloads Are Safe
------------------------------------------------------------

namespace AjarGateway

namespace System

open Http Interleaving Serving Store

variable {lib : Externals} {state : ProxyState}
variable {config : GatewayConfig} {files : FileSystem}
variable {shared : SharedState}
variable {after : Config (gateway lib state)}

/-
  A request that starts after a handler has been answered
  makes its calls after that answer.
-/
theorem answer_before_call
    {first second before last :
      List (Event (gateway lib state))}
    {earlier later : Nat}
    {request : Request Chunks}
    {answer : Response Body}
    {call : Call gatewaySignature}
    (hRun :
      Run (.initial shared)
        (first ++ .answer earlier answer :: second) after)
    (hStart :
      .start later (.publicRequest request) ∈ second)
    (hCall :
      first ++ .answer earlier answer :: second =
        before ++ .call later call :: last) :
    ∃ middle,
      before = first ++ .answer earlier answer :: middle := by
  rw [List.append_cons] at hRun hCall
  have hNone := (hRun.start_before_call hStart).1
  rcases List.append_eq_append_iff.mp hCall with
    ⟨middle, rfl, _⟩ | ⟨middle, hFirst, hSecond⟩
  · exact ⟨middle, by simp⟩
  · cases middle with
    | nil => exact ⟨[], by simpa using hFirst.symm⟩
    | cons event rest =>
        cases hSecond
        have hMem :
            .call later call ∈
              first ++ [.answer earlier answer] := by
          rw [hFirst]
          simp
        rw [← mem_callsOf_iff, hNone] at hMem
        cases hMem

/- A reload has loaded and assigned before it answers. -/
theorem answered_reload_before
    {first second : List (Event (gateway lib state))}
    {reloader : Nat}
    {answer : Response Body}
    (hRun :
      Run (.initial shared)
        (first ++ .answer reloader answer :: second) after)
    (hReload : .start reloader .reload ∈ first)
    (hStatus : answer.status = 200) :
    ∃ path loaded,
      state.config.storeDir = some path ∧
        .call reloader ⟨.loadFromDir path, .ok loaded⟩ ∈
            first ∧
          .call reloader
              ⟨.writeStore (assignUnlessLower loaded),
                .assigned⟩ ∈
            first ∧
          answer =
            reloadedResponse loaded.viewCount
              loaded.manifestSequence := by
  rw [List.append_cons] at hRun
  rcases hRun.split with ⟨_, hFirst, _⟩
  rcases answered_reload hFirst
      (List.mem_append_left _ hReload) (by simp)
      hStatus with
    ⟨path, loaded, rest, hDir, hCalls, hAnswer⟩
  have hMem : ∀ call ∈ callsOf reloader
        (first ++ [Event.answer reloader answer]),
      .call reloader call ∈ first := by
    intro call hCall
    rw [mem_callsOf_iff] at hCall
    simpa using hCall
  rw [hCalls] at hMem
  exact ⟨path, loaded, hDir, hMem _ (by simp),
    hMem _ (by simp), hAnswer⟩

/-
  A store read after a store was assigned does not have a
  lower sequence.
-/
theorem sequence_of_read
    {before middle last : List (Event (gateway lib state))}
    {writer reader : Nat}
    {loaded store : PreparedContentStore}
    (hRun :
      Run (.initial shared)
        (before ++
          .call writer
              ⟨.writeStore (assignUnlessLower loaded),
                .assigned⟩ ::
            (middle ++
              .call reader ⟨.readStore, some store⟩ ::
                last))
        after) :
    loaded.manifestSequence ≤ store.manifestSequence := by
  rcases hRun.split_at with
    ⟨start, assigned, hStart, hAssign, hRest⟩
  have hInstalled :
      assigned.state.installed = some loaded := by
    cases hAssign with
    | call _ hExec => exact Exec.assigned_installed hExec
  rcases hRest.split_at with
    ⟨atRead, _, hMiddle, hRead, _⟩
  have hMono :=
    installed_mono (hStart.snoc hAssign) hMiddle loaded
      hInstalled
  rcases hMono with ⟨current, hCurrent, hLe⟩
  cases hRead with
  | call _ hExec =>
      rcases Exec.readStore_reply hExec with
        ⟨lock, hLock, hReply⟩
      split at hReply
      · cases hReply
      · rw [SharedState.installed, hLock] at hCurrent
        cases hCurrent
        cases hReply
        exact hLe

/-
  After a reload was answered 200, a request that starts
  later reads a store of at least the reported sequence.
-/
theorem sequence_after_reload
    {first second : List (Event (gateway lib state))}
    {reloader later : Nat}
    {answer : Response Body}
    {success : ReloadSuccess}
    {request : Request Chunks}
    {store : PreparedContentStore}
    (hRun :
      Run (.initial shared)
        (first ++ .answer reloader answer :: second) after)
    (hReload : .start reloader .reload ∈ first)
    (hStatus : answer.status = 200)
    (hBody : answer.body = .reloaded success)
    (hStart :
      .start later (.publicRequest request) ∈ second)
    (hRead :
      .call later ⟨.readStore, some store⟩ ∈
        first ++ .answer reloader answer :: second) :
    success.manifestSequence ≤ store.manifestSequence := by
  rcases answered_reload_before hRun hReload hStatus with
    ⟨_, loaded, _, _, hWrite, rfl⟩
  cases hBody
  rcases List.append_of_mem hRead with
    ⟨before, last, hEvents⟩
  rcases answer_before_call hRun hStart hEvents with
    ⟨middle, rfl⟩
  rcases List.append_of_mem hWrite with
    ⟨earlier, between, rfl⟩
  rw [hEvents, List.append_assoc, List.append_assoc,
    List.cons_append, ← List.append_assoc between] at hRun
  exact sequence_of_read hRun

/-
  For every accepted start, every run and every position in
  it: the sequence of the installed store does not decrease;
  every installed store was returned by a load and is within
  the accepted window; an answered request has one snapshot
  of the store, the one installed at that moment, unless an
  earlier panic has poisoned the lock; and after a reload
  was answered 200, every request that starts later is
  served from a store of at least the reported sequence.
-/
theorem reload_safety
    {now : Int} {path : Path}
    {events : List (Event (gateway lib state))}
    (hRange : InClockRange now)
    (hStartup :
      startup lib config files now = .ok (state, shared))
    (hDir : config.storeDir = some path)
    (hRun : Run (.initial shared) events after) :
    (∀ first event second
      (before next : Config (gateway lib state)),
      events = first ++ event :: second →
        Run (.initial shared) first before →
          Step before event next →
            SequenceLe before.state.installed
              next.state.installed) ∧
    (∀ store,
      after.state.installed = some store →
        (∃ files now,
          InClockRange now ∧
            loadFrom lib.json path files now = .ok store) ∧
        0 ≤ store.manifestSequence ∧
        ∃ issuedAt expiresAt,
          parseRfc3339Utc store.manifest.manifest.issuedAt =
              .ok issuedAt ∧
            parseRfc3339Utc
                store.manifest.manifest.expiresAt =
              .ok expiresAt ∧
            0 < expiresAt - issuedAt ∧
            expiresAt - issuedAt ≤ 180 * 86400) ∧
    (∀ thread request answer,
      .start thread (.publicRequest request) ∈ events →
        .answer thread answer ∈ events →
          ∃ (env : Surroundings)
            (first second : List (Event (gateway lib state)))
            (before : Config (gateway lib state))
            (store : PreparedContentStore),
            answer = respond lib state env request ∧
            (∀ call ∈ callsOf thread events,
              call.reply = env.reply call.op) ∧
            events =
              first ++
                .call thread ⟨.readStore, env.snapshot⟩ ::
                  second ∧
            (∀ other,
              .call thread ⟨.readStore, other⟩ ∉
                first ++ second) ∧
            Run (.initial shared) first before ∧
            before.state.installed = some store ∧
            (env.snapshot = some store ∨
              env.snapshot = none ∧
                ∃ other, .panic other ∈ first)) ∧
    (∀ first second reloader answer success later request
        store,
      events = first ++ .answer reloader answer :: second →
        .start reloader .reload ∈ first →
        answer.status = 200 →
        answer.body = .reloaded success →
        .start later (.publicRequest request) ∈ second →
        .call later ⟨.readStore, some store⟩ ∈ events →
          success.manifestSequence ≤
            store.manifestSequence) := by
  have hStarted := startup_ok hRange hStartup
  have hConfig :=
    GatewayConfig.validate_ok _ _ _ hStarted.validated
  have hStateDir : state.config.storeDir = some path := by
    rw [hConfig.2.2.2.2, hDir]
  have hStore : state.hasStore = true := by
    rcases hStarted.store with
      ⟨hNone, _⟩ | ⟨_, _, _, _, hStore, _⟩
    · rw [hStateDir] at hNone
      cases hNone
    · exact hStore
  refine ⟨?_, ?_, ?_, ?_⟩
  · intro first event second before next _ hBefore hStep
    exact step_sequenceLe hBefore hStep
  · intro store hInstalled
    rcases installed_wasLoaded hStarted hRun hInstalled with
      ⟨loadPath, hLoadDir, hLoaded⟩
    rw [hStateDir] at hLoadDir
    cases hLoadDir
    rcases hLoaded.live with ⟨_, _, hLive⟩
    rcases hLive.window with
      ⟨issuedAt, expiresAt, hIssued, hExpires, hOrder,
        hLifetime, _⟩
    exact ⟨hLoaded, hLive.sequence_nonneg, issuedAt,
      expiresAt, hIssued, hExpires, hOrder, hLifetime⟩
  · intro thread request answer hStart hAnswer
    rcases snapshot_of_answered hStarted hStore hRun hStart
        hAnswer with
      ⟨env, first, second, before, store, hRespond, hCalls,
        rfl, hBefore, hInstalled, hSnapshot⟩
    refine ⟨env, first, second, before, store, hRespond, ?_,
      rfl, fun _ => readStore_once hRun hStart, hBefore,
      hInstalled, hSnapshot⟩
    rw [hCalls]
    exact Program.reply_of_mem_callsWith
      (S := gatewaySignature) env.reply _
  · rintro first second reloader answer success later
      request store rfl hReload hStatus hBody hStart hRead
    exact sequence_after_reload hRun hReload hStatus hBody
      hStart hRead

/-
  A reload of the sample directory is answered 200, and the
  manifest is requested after that.
-/
theorem reload_safety_sample :
    ∃ after : Config (gateway sampleExt sampleState),
      Run (.initial sampleShared)
        (loadEvents sampleExt sampleState 0 sampleDir
            (samplePage "Old") ++
          commitEvents sampleExt sampleState 0
              (samplePage "Old") ++
            requestEvents sampleExt sampleState 1
              (sampleEnv (samplePage "Old"))
              (getRequest manifestTarget .empty))
        after ∧
      (1 : Int) ≤ (samplePage "Old").manifestSequence := by
  have hIdle (thread : Nat) :
      (Config.initial sampleShared :
        Config (gateway sampleExt sampleState)).threads
          thread = .idle :=
    rfl
  rcases run_reload rfl rfl (hIdle 0) rfl
      sampleNow_inClockRange samplePage_old_loads le_rfl with
    ⟨reloaded, hReload, hReloaded, hOthers⟩
  rcases run_request (getRequest manifestTarget .empty)
      (hOthers 1 (by decide))
      (sampleEnv_agrees (by rw [hReloaded, committed_lock]))
      (by rw [hReloaded]; rfl) with
    ⟨after, hRequest⟩
  have hRun := hReload.append hRequest
  refine ⟨after, hRun, ?_⟩
  rcases requestEvents_eq sampleExt sampleState 1
      (sampleEnv (samplePage "Old"))
      (getRequest manifestTarget .empty)
      (samplePage "Old") rfl rfl with
    ⟨last, hEvents⟩
  exact (reload_safety sampleNow_inClockRange sample_startup
    rfl hRun).2.2.2
      (loadEvents sampleExt sampleState 0 sampleDir
          (samplePage "Old") ++
        (commitCalls (samplePage "Old")).map (Event.call 0))
      (requestEvents sampleExt sampleState 1
        (sampleEnv (samplePage "Old"))
        (getRequest manifestTarget .empty))
      0
      (reloadedResponse (samplePage "Old").viewCount
        (samplePage "Old").manifestSequence)
      ⟨"reloaded", (samplePage "Old").viewCount, 1⟩ 1
      (getRequest manifestTarget .empty) (samplePage "Old")
      (by simp [commitEvents]) (by simp [loadEvents]) rfl
      rfl (by simp [hEvents]) (by simp [hEvents])

end System

end AjarGateway
