import AjarGateway.Serving.Reference
import AjarGateway.System.Invariants

/-
  Handlers that run without a break.

  While the lock of the store is free and not poisoned, the
  two parts of a reload and every public request can run to
  their ends, whatever other handlers have done before.

  Key definitions include:
    * `System.loadEvents`
    * `System.commitEvents`
    * `System.requestEvents`

  Key theorems include:
    * `System.run_load`
    * `System.run_commit`
    * `System.run_reload`
    * `System.run_request`
-/

------------------------------------------------------------
-- Reloads
------------------------------------------------------------

namespace AjarGateway

namespace System

open Http Interleaving Serving Store

/- The calls of a reload after its load. -/
def commitCalls
    (loaded : PreparedContentStore) :
    List (Call gatewaySignature) :=
  [⟨.writeStore (assignUnlessLower loaded), .assigned⟩,
    ⟨.fetchAdd .storeReloadsTotal, ()⟩,
    ⟨.resetExpiryLogged, ()⟩,
    ⟨.eprintln ⟨"info", "store_reloaded",
      [("views", .number (toString loaded.viewCount)),
        ("manifest_sequence",
          .number (toString loaded.manifestSequence))]⟩, ()⟩]

/- The shared state they leave. -/
def committed
    (shared : SharedState)
    (loaded : PreparedContentStore) : SharedState :=
  { (shared.withLock ⟨loaded, false, none⟩).increment
      .storeReloadsTotal with
    manifestExpiryLogged := false }

@[simp] theorem committed_lock
    (shared : SharedState)
    (loaded : PreparedContentStore) :
    (committed shared loaded).lock =
      some ⟨loaded, false, none⟩ :=
  rfl

variable {lib : Externals} {state : ProxyState}

theorem performs_load
    {path : Path}
    (loaded : PreparedContentStore)
    (hDir : state.config.storeDir = some path)
    (hStore : state.hasStore = true) :
    Performs (reloadStore state)
      [⟨.loadFromDir path, .ok loaded⟩]
      (commitStore loaded) := by
  rw [reloadStore, hDir, hStore]
  exact .step (.done _)

theorem performs_commit (loaded : PreparedContentStore) :
    Performs (commitStore loaded) (commitCalls loaded)
      (.ret
        (reloadedResponse loaded.viewCount
          loaded.manifestSequence)) :=
  .step (.step (.step (.step (.done _))))

theorem execs_commit
    {shared : SharedState}
    {current loaded : PreparedContentStore}
    (thread : Nat)
    (hLock : shared.lock = some ⟨current, false, none⟩)
    (hLe :
      current.manifestSequence ≤ loaded.manifestSequence) :
    (gateway lib state).Execs thread shared
      (commitCalls loaded) (committed shared loaded) := by
  have hUpdate :
      assignUnlessLower loaded current = some loaded := by
    rw [assignUnlessLower, if_neg (by omega)]
  exact .cons (.assign _ _ _ _ hLock rfl rfl hUpdate)
    (.cons (.fetchAdd _ _)
      (.cons (.resetExpiryLogged _)
        (.cons (.eprintln _ _) (.nil _))))

/- The start of a reload, up to its load. -/
def loadEvents
    (lib : Externals)
    (state : ProxyState)
    (thread : Nat)
    (path : Path)
    (loaded : PreparedContentStore) :
    List (Event (gateway lib state)) :=
  [.start thread .reload,
    .call thread ⟨.loadFromDir path, .ok loaded⟩]

/- The remainder of a reload that is answered 200. -/
def commitEvents
    (lib : Externals)
    (state : ProxyState)
    (thread : Nat)
    (loaded : PreparedContentStore) :
    List (Event (gateway lib state)) :=
  (commitCalls loaded).map (Event.call thread) ++
    [.answer thread
      (reloadedResponse loaded.viewCount
        loaded.manifestSequence)]

variable {c : Config (gateway lib state)} {thread : Nat}

/- The files may change at any time. -/
theorem run_change
    (c : Config (gateway lib state))
    (files : FileSystem) :
    ∃ next : Config (gateway lib state),
      Run c [.change files] next ∧
        next.state = { c.state with files := files } ∧
          next.threads = c.threads :=
  ⟨_, Run.nil.snoc (.change rfl), rfl, rfl⟩

/- A directory that can be loaded is loaded by a reload. -/
theorem run_load
    {path : Path} {now : Int}
    {loaded : PreparedContentStore}
    (hDir : state.config.storeDir = some path)
    (hStore : state.hasStore = true)
    (hIdle : c.threads thread = .idle)
    (hRange : InClockRange now)
    (hLoad :
      loadFrom lib.json path c.state.files now =
        .ok loaded) :
    ∃ next : Config (gateway lib state),
      Run c (loadEvents lib state thread path loaded) next ∧
        next.state = c.state ∧
        next.threads thread =
          .running (commitStore loaded) ∧
        ∀ other, other ≠ thread →
          next.threads other = c.threads other := by
  have hExec :
      Exec lib.json thread c.state
        ⟨.loadFromDir path, .ok loaded⟩ c.state := by
    rw [← hLoad]
    exact .loadFromDir _ _ _ hRange
  have hCall :=
    Run.of_performs
      (c := c.setThread thread
        (.running (reloadStore state)))
      (Config.setThread_threads_self _ _ _)
      (performs_load loaded hDir hStore)
      (.cons hExec (.nil _))
  rw [Config.setThread_setThread] at hCall
  exact ⟨_, Run.cons (.start hIdle) hCall, rfl,
    Config.setThread_threads_self _ _ _,
    fun _ hNe => Config.setThread_threads_of_ne _ _ hNe⟩

/- A loaded store that is not lower is assigned. -/
theorem run_commit
    {current loaded : PreparedContentStore}
    (hRunning :
      c.threads thread = .running (commitStore loaded))
    (hLock : c.state.lock = some ⟨current, false, none⟩)
    (hLe :
      current.manifestSequence ≤ loaded.manifestSequence) :
    ∃ next : Config (gateway lib state),
      Run c (commitEvents lib state thread loaded) next ∧
        next.state = committed c.state loaded ∧
        ∀ other, other ≠ thread →
          next.threads other = c.threads other := by
  have hCalls :=
    (Run.of_performs hRunning (performs_commit loaded)
      (execs_commit thread hLock hLe)).snoc
      (.answer (Config.setThread_threads_self _ _ _))
  rw [Config.setThread_setThread] at hCalls
  exact ⟨_, hCalls, rfl,
    fun _ hNe => Config.setThread_threads_of_ne _ _ hNe⟩

/- The calls of a reload that finds a higher sequence. -/
def rollbackCalls
    (loaded : PreparedContentStore) :
    List (Call gatewaySignature) :=
  ⟨.writeStore (assignUnlessLower loaded), .returned⟩ ::
    (failureCalls lowerSequenceDetail "sequence_rollback" ++
      [⟨.dropGuard, ()⟩])

/- The remainder of a reload that is rolled back. -/
def rollbackEvents
    (lib : Externals)
    (state : ProxyState)
    (thread : Nat)
    (loaded : PreparedContentStore) :
    List (Event (gateway lib state)) :=
  (rollbackCalls loaded).map (Event.call thread) ++
    [.answer thread (failureResponse lowerSequenceDetail)]

/- A loaded store that is lower is not assigned. -/
theorem run_rollback
    {current loaded : PreparedContentStore}
    (hRunning :
      c.threads thread = .running (commitStore loaded))
    (hLock : c.state.lock = some ⟨current, false, none⟩)
    (hLower :
      loaded.manifestSequence < current.manifestSequence) :
    ∃ next : Config (gateway lib state),
      Run c (rollbackEvents lib state thread loaded) next ∧
        next.state =
            c.state.increment .storeReloadFailuresTotal ∧
          ∀ other, other ≠ thread →
            next.threads other = c.threads other := by
  have hPerforms :
      Performs (commitStore loaded) (rollbackCalls loaded)
        (.ret (failureResponse lowerSequenceDetail)) :=
    .step (.step (.step (.step (.done _))))
  have hUpdate :
      assignUnlessLower loaded current = none := by
    unfold assignUnlessLower
    rw [if_pos hLower]
  have hCalls :=
    (Run.of_performs hRunning hPerforms
      (.cons (.returnEarly _ _ _ hLock rfl rfl hUpdate)
        (.cons (.fetchAdd _ _)
          (.cons (.eprintln _ _)
            (.cons (.dropGuard _ _ rfl rfl)
              (.nil _)))))).snoc
      (.answer (Config.setThread_threads_self _ _ _))
  rw [Config.setThread_setThread] at hCalls
  refine ⟨_, hCalls, ?_,
    fun _ hNe => Config.setThread_threads_of_ne _ _ hNe⟩
  simp [SharedState.withLock, SharedState.increment, hLock]

/- A whole reload of files that can be loaded. -/
theorem run_reload
    {path : Path} {now : Int}
    {current loaded : PreparedContentStore}
    (hDir : state.config.storeDir = some path)
    (hStore : state.hasStore = true)
    (hIdle : c.threads thread = .idle)
    (hLock : c.state.lock = some ⟨current, false, none⟩)
    (hRange : InClockRange now)
    (hLoad :
      loadFrom lib.json path c.state.files now =
        .ok loaded)
    (hLe :
      current.manifestSequence ≤ loaded.manifestSequence) :
    ∃ next : Config (gateway lib state),
      Run c
          (loadEvents lib state thread path loaded ++
            commitEvents lib state thread loaded)
          next ∧
        next.state = committed c.state loaded ∧
        ∀ other, other ≠ thread →
          next.threads other = c.threads other := by
  rcases run_load hDir hStore hIdle hRange hLoad with
    ⟨middle, hFirst, hMiddle, hRunning, hOthers⟩
  rw [← hMiddle] at hLock
  rcases run_commit hRunning hLock hLe with
    ⟨next, hSecond, hNext, hOthers'⟩
  refine ⟨next, hFirst.append hSecond, ?_, ?_⟩
  · rw [hNext, hMiddle]
  · intro other hNe
    rw [hOthers' other hNe, hOthers other hNe]

end System

end AjarGateway

------------------------------------------------------------
-- Public Requests
------------------------------------------------------------

namespace AjarGateway

namespace System

open Http Interleaving Serving Store

/- Surroundings that agree with a state of the gateway. -/
structure Agrees
    (env : Surroundings)
    (shared : SharedState) : Prop where
  lock :
    ∃ store,
      shared.lock = some ⟨store, false, none⟩ ∧
        env.snapshot = some store
  range : InClockRange env.now

/-
  Calls of a public request, each operation at most once,
  can be made in a row.  The expiry flag only has to agree
  until the one call that exchanges it.
-/
theorem execs_request
    (lib : Externals)
    (state : ProxyState)
    {env : Surroundings} {shared : SharedState}
    (thread : Nat)
    (calls : List (Call gatewaySignature))
    (hAgrees : Agrees env shared)
    (hStages : ∀ call ∈ calls, 1 ≤ call.op.stage)
    (hNodup : (calls.map Call.op).Nodup)
    (hReplies : ∀ call ∈ calls,
      call.reply = env.reply call.op)
    (hFlag :
      .compareExchangeExpiryLogged ∈ calls.map Call.op →
        env.expiryFlagWasClear =
          !shared.manifestExpiryLogged) :
    ∃ after,
      (gateway lib state).Execs thread shared calls
        after := by
  induction calls generalizing shared with
  | nil => exact ⟨shared, .nil _⟩
  | cons call rest ih =>
      rcases call with ⟨op, reply⟩
      have hReply : reply = env.reply op :=
        hReplies ⟨op, reply⟩ List.mem_cons_self
      have hStage : 1 ≤ op.stage :=
        hStages ⟨op, reply⟩ List.mem_cons_self
      subst hReply
      rw [List.map_cons, List.nodup_cons] at hNodup
      -- One call keeps the lock; the rest follows when
      -- the flag still agrees.
      have hRest (middle : SharedState)
          (hExec :
            Exec lib.json thread shared
              ⟨op, env.reply op⟩ middle)
          (hLock : middle.lock = shared.lock)
          (hKept :
            middle.manifestExpiryLogged =
                shared.manifestExpiryLogged ∨
              op = .compareExchangeExpiryLogged) :
          ∃ after,
            (gateway lib state).Execs thread shared
              (⟨op, env.reply op⟩ :: rest) after := by
        have hTail := @ih middle
          ⟨hLock ▸ hAgrees.lock, hAgrees.range⟩
          (fun call hCall =>
            hStages call (List.mem_cons_of_mem _ hCall))
          hNodup.2
          (fun call hCall =>
            hReplies call (List.mem_cons_of_mem _ hCall))
          (by
            intro hLater
            rcases hKept with hKept | rfl
            · rw [hKept]
              exact hFlag (List.mem_cons_of_mem _ hLater)
            · exact absurd hLater hNodup.1)
        rcases hTail with ⟨after, hExecs⟩
        exact ⟨after, .cons hExec hExecs⟩
      rcases hAgrees.lock with ⟨store, hLock, hSnapshot⟩
      cases op with
      | fetchAdd counter =>
          exact hRest _ (.fetchAdd _ _) rfl (.inl rfl)
      | readStore =>
          refine hRest shared ?_ rfl (.inl rfl)
          show Exec lib.json thread shared
            ⟨.readStore, env.snapshot⟩ shared
          rw [hSnapshot]
          exact .readStore _ _ hLock rfl rfl
      | nowUnixSeconds =>
          exact hRest shared
            (.nowUnixSeconds _ _ hAgrees.range) rfl
            (.inl rfl)
      | compareExchangeExpiryLogged =>
          refine hRest
            { shared with manifestExpiryLogged := true }
            ?_ rfl (.inr rfl)
          show Exec lib.json thread shared
            ⟨.compareExchangeExpiryLogged,
              env.expiryFlagWasClear⟩ _
          rw [hFlag List.mem_cons_self]
          exact .compareExchange _
      | eprintln line =>
          exact hRest shared (.eprintln _ _) rfl (.inl rfl)
      | requestOrigin upstream =>
          exact hRest shared (.requestOrigin _ _ _) rfl
            (.inl rfl)
      | _ => exact absurd hStage (Nat.not_succ_le_zero 0)

/- A public request that is answered without a break. -/
def requestEvents
    (lib : Externals)
    (state : ProxyState)
    (thread : Nat)
    (env : Surroundings)
    (request : Request Chunks) :
    List (Event (gateway lib state)) :=
  .start thread (.publicRequest request) ::
    (((answerPublic lib state request).callsWith
        env.reply).map (Event.call thread) ++
      [.answer thread (respond lib state env request)])

/- A public request makes none of the calls of a reload. -/
theorem stage_of_mem_requestEvents
    {lib : Externals} {state : ProxyState}
    {thread other : Nat} {env : Surroundings}
    {request : Request Chunks}
    {call : Call gatewaySignature}
    (hMem :
      .call other call ∈
        requestEvents lib state thread env request) :
    1 ≤ call.op.stage := by
  have hStages :=
    (Performs.stages
      (performs_callsWith env.reply
        (answerPublic lib state request))
      (climbs_answerPublic lib state request)).1
  simp only [requestEvents, List.mem_cons, List.mem_append,
    List.mem_map, reduceCtorEq, List.not_mem_nil, or_false,
    false_or] at hMem
  rcases hMem with ⟨_, hCall, hEq⟩
  cases hEq
  exact hStages _ hCall

/- A public request does not write the store. -/
theorem writeStore_not_mem_requestEvents
    (lib : Externals)
    (state : ProxyState)
    (thread : Nat)
    (env : Surroundings)
    (request : Request Chunks)
    (other : Nat)
    (update :
      PreparedContentStore → Option PreparedContentStore)
    (reply : WriteReply) :
    .call other ⟨.writeStore update, reply⟩ ∉
      requestEvents lib state thread env request := by
  intro hMem
  exact absurd (stage_of_mem_requestEvents hMem)
    (Nat.not_succ_le_zero 0)

/- The calls of a public request leave the lock alone. -/
theorem execs_lock_eq
    {lib : Externals} {state : ProxyState}
    {thread : Nat}
    {calls : List (Call gatewaySignature)}
    {shared after : SharedState}
    (hExecs :
      (gateway lib state).Execs thread shared calls after)
    (hStages : ∀ call ∈ calls, 1 ≤ call.op.stage) :
    after.lock = shared.lock := by
  apply hExecs.preserves fun state : SharedState =>
    state.lock = shared.lock
  case hBefore => rfl
  case hCall =>
    intro call hCall state next hExec hLock
    have hStage := hStages call hCall
    rw [← hLock]
    cases hExec with
    | assign _ _ _ _ _ _ _ | returnEarly _ _ _ _ _ _
    | writePoisoned _ _ _ _ _ | dropGuard _ _ _ =>
        exact absurd hStage (Nat.not_succ_le_zero 0)
    | _ => rfl

/-
  Every public request can be answered at once, and leaves
  the lock and the other handlers alone.
-/
theorem run_request_kept
    {lib : Externals} {state : ProxyState}
    {c : Config (gateway lib state)} {thread : Nat}
    {env : Surroundings}
    (request : Request Chunks)
    (hIdle : c.threads thread = .idle)
    (hAgrees : Agrees env c.state)
    (hFlag :
      env.expiryFlagWasClear =
        !c.state.manifestExpiryLogged) :
    ∃ next : Config (gateway lib state),
      Run c (requestEvents lib state thread env request)
          next ∧
        next.state.lock = c.state.lock ∧
        ∀ other, other ≠ thread →
          next.threads other = c.threads other := by
  have hPerforms :=
    performs_callsWith env.reply
      (answerPublic lib state request)
  rcases hPerforms.stages
      (climbs_answerPublic lib state request) with
    ⟨hStages, hNodup⟩
  rcases execs_request lib state thread _ hAgrees
      hStages hNodup
      (Program.reply_of_mem_callsWith
        (S := gatewaySignature) env.reply _)
      (fun _ => hFlag) with
    ⟨_, hExecs⟩
  exact ⟨_, Run.whole hIdle hPerforms hExecs,
    execs_lock_eq hExecs hStages,
    fun _ hNe => Config.setThread_threads_of_ne _ _ hNe⟩

theorem run_request
    {lib : Externals} {state : ProxyState}
    {c : Config (gateway lib state)} {thread : Nat}
    {env : Surroundings}
    (request : Request Chunks)
    (hIdle : c.threads thread = .idle)
    (hAgrees : Agrees env c.state)
    (hFlag :
      env.expiryFlagWasClear =
        !c.state.manifestExpiryLogged) :
    ∃ after,
      Run c (requestEvents lib state thread env request)
        after := by
  rcases run_request_kept request hIdle hAgrees hFlag with
    ⟨next, hRun, _⟩
  exact ⟨next, hRun⟩

end System

end AjarGateway

------------------------------------------------------------
-- A Sample Gateway
------------------------------------------------------------

namespace AjarGateway

namespace System

open Http Interleaving Serving Store

/- The shared state of the gateway over the old page. -/
def sampleShared : SharedState :=
  initialState (some (samplePage "Old"))
    (samplePageFiles "Old")

/- The sample configuration starts with a loaded store. -/
theorem startup_sampleConfig
    {lib : Externals} {files : FileSystem}
    {store : PreparedContentStore}
    (hHttp : lib.http = referenceHttp)
    (hLoad :
      loadFrom lib.json sampleDir files sampleNow =
        .ok store) :
    startup lib sampleConfig files sampleNow =
      .ok (sampleState, initialState (some store) files) := by
  have hStore :
      startupStore lib sampleValid.storeDir files sampleNow =
        .ok (some store) := by
    simp only [startupStore, sampleValid, hLoad]
  unfold startup
  rw [hHttp, sample_validate, Rust.ok_bind, hStore]
  rfl

theorem sample_startup :
    startup sampleExt sampleConfig (samplePageFiles "Old")
        sampleNow =
      .ok (sampleState, sampleShared) :=
  startup_sampleConfig rfl samplePage_old_loads

theorem sampleEnv_agrees
    {shared : SharedState} {store : PreparedContentStore}
    (hLock : shared.lock = some ⟨store, false, none⟩) :
    Agrees (sampleEnv store) shared where
  lock := ⟨store, hLock, rfl⟩
  range := sampleNow_inClockRange

/- A request first reads the store that it sees. -/
theorem requestEvents_eq
    (lib : Externals)
    (state : ProxyState)
    (thread : Nat)
    (env : Surroundings)
    (request : Request Chunks)
    (store : PreparedContentStore)
    (hStore : state.hasStore = true)
    (hSnapshot : env.snapshot = some store) :
    ∃ last,
      requestEvents lib state thread env request =
        .start thread (.publicRequest request) ::
          .call thread ⟨.fetchAdd .requestsTotal, ()⟩ ::
            .call thread ⟨.readStore, some store⟩ ::
              last := by
  rw [requestEvents, callsWith_answerPublic,
    callsWith_currentStore state env hStore, hSnapshot]
  exact ⟨_, rfl⟩

end System

end AjarGateway

------------------------------------------------------------
-- A Reload And Two Requests
------------------------------------------------------------

namespace AjarGateway

namespace System

open Http Interleaving Serving Store

/- What the sample request finds, for either expiry flag. -/
def flaggedEnv (flag : Bool) : Surroundings :=
  { sampleEnv (samplePage "Old") with
    expiryFlagWasClear := flag }

/- A reload and two requests of the manifest in a row. -/
def clientEvents
    (flag : Bool) :
    List (Event (gateway sampleExt sampleState)) :=
  (loadEvents sampleExt sampleState 0 sampleDir
        (samplePage "Old") ++
      commitEvents sampleExt sampleState 0
        (samplePage "Old")) ++
    (requestEvents sampleExt sampleState 1
        (sampleEnv (samplePage "Old"))
        (getRequest manifestTarget .empty) ++
      requestEvents sampleExt sampleState 2
        (flaggedEnv flag)
        (getRequest manifestTarget .empty))

/- They leave the lock clean, and other handlers alone. -/
theorem run_clientEvents_after
    {c : Config (gateway sampleExt sampleState)}
    (hIdle : ∀ thread < 3, c.threads thread = .idle)
    (hFiles : c.state.files = samplePageFiles "Old")
    (hLock :
      c.state.lock =
        some ⟨samplePage "Old", false, none⟩) :
    ∃ flag after,
      Run c (clientEvents flag) after ∧
        after.state.lock =
            some ⟨samplePage "Old", false, none⟩ ∧
          ∀ thread, 2 < thread →
            after.threads thread = c.threads thread := by
  rcases run_reload rfl rfl (hIdle 0 (by decide)) hLock
      sampleNow_inClockRange
      (hFiles ▸ samplePage_old_loads) le_rfl with
    ⟨reloaded, hReload, hReloaded, hOthers⟩
  have hOld :
      reloaded.state.lock =
        some ⟨samplePage "Old", false, none⟩ := by
    rw [hReloaded, committed_lock]
  rcases run_request_kept (getRequest manifestTarget .empty)
      ((hOthers 1 (by decide)).trans (hIdle 1 (by decide)))
      (sampleEnv_agrees hOld)
      (by rw [hReloaded]; rfl) with
    ⟨middle, hFirst, hMiddle, hOthers'⟩
  have hIdle' : middle.threads 2 = .idle := by
    rw [hOthers' 2 (by decide), hOthers 2 (by decide)]
    exact hIdle 2 (by decide)
  have hAgrees :
      Agrees (flaggedEnv !middle.state.manifestExpiryLogged)
        middle.state :=
    ⟨⟨samplePage "Old", hMiddle.trans hOld, rfl⟩,
      sampleNow_inClockRange⟩
  rcases run_request_kept (getRequest manifestTarget .empty)
      hIdle' hAgrees rfl with
    ⟨after, hSecond, hAfter, hOthers''⟩
  refine ⟨_, after, hReload.append (hFirst.append hSecond),
    ?_, ?_⟩
  · rw [hAfter, hMiddle, hOld]
  · intro thread hThread
    rw [hOthers'' thread (by omega),
      hOthers' thread (by omega),
      hOthers thread (by omega)]

theorem run_clientEvents :
    ∃ flag after,
      Run (.initial sampleShared) (clientEvents flag)
          after ∧
        after.state.lock =
            some ⟨samplePage "Old", false, none⟩ ∧
          ∀ thread, 2 < thread →
            after.threads thread = .idle := by
  have hIdle (thread : Nat) :
      (Config.initial sampleShared :
        Config (gateway sampleExt sampleState)).threads
          thread = .idle :=
    rfl
  rcases run_clientEvents_after (fun thread _ => hIdle thread)
      rfl rfl with
    ⟨flag, after, hRun, hLock, hOthers⟩
  exact ⟨flag, after, hRun, hLock, hOthers⟩

theorem sample_started :
    Started sampleExt sampleConfig (samplePageFiles "Old")
      sampleState sampleShared :=
  startup_ok sampleNow_inClockRange sample_startup

/- The events of the sample before and after the reload. -/
theorem clientEvents_eq (flag : Bool) :
    clientEvents flag =
      (loadEvents sampleExt sampleState 0 sampleDir
            (samplePage "Old") ++
          (commitCalls (samplePage "Old")).map
            (Event.call 0)) ++
        .answer 0
            (reloadedResponse (samplePage "Old").viewCount
              (samplePage "Old").manifestSequence) ::
          (requestEvents sampleExt sampleState 1
              (sampleEnv (samplePage "Old"))
              (getRequest manifestTarget .empty) ++
            requestEvents sampleExt sampleState 2
              (flaggedEnv flag)
              (getRequest manifestTarget .empty)) := by
  simp [clientEvents, commitEvents]

theorem clientEvents_started (flag : Bool) :
    .start 0 .reload ∈ clientEvents flag ∧
      .start 1
          (.publicRequest
            (getRequest manifestTarget .empty)) ∈
        clientEvents flag ∧
      .start 2
          (.publicRequest
            (getRequest manifestTarget .empty)) ∈
        clientEvents flag := by
  simp [clientEvents, loadEvents, requestEvents]

theorem clientEvents_answered (flag : Bool) :
    .answer 0
          (reloadedResponse (samplePage "Old").viewCount
            (samplePage "Old").manifestSequence) ∈
        clientEvents flag ∧
      .answer 1
          (respond sampleExt sampleState
            (sampleEnv (samplePage "Old"))
            (getRequest manifestTarget .empty)) ∈
        clientEvents flag ∧
      .answer 2
          (respond sampleExt sampleState (flaggedEnv flag)
            (getRequest manifestTarget .empty)) ∈
        clientEvents flag := by
  simp [clientEvents, commitEvents, requestEvents]

end System

end AjarGateway
