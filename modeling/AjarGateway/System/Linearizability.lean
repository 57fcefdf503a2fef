import AjarGateway.Interleaving.Register
import AjarGateway.Serving.Metrics
import AjarGateway.System.Poisoning
import AjarGateway.System.Solo

/-
  The gateway is linearizable.

  A gateway with a store behaves like one register holding a
  store.  A public request reads it once, and its answer is
  computed from what it found.  A reload that has loaded a
  store updates it once, and its answer says what became of
  the update.  Every other handler leaves it alone.

  Key definitions include:
    * `System.storePoints`
    * `System.storeSpecification`

  Key theorems include:
    * `System.gateway_linearizable`
    * `System.requests_in_order`
    * `System.served_by_last_reload`
-/

------------------------------------------------------------
-- The Store As A Register
------------------------------------------------------------

namespace AjarGateway

namespace System

open Http Interleaving Serving Store

/- The call at which a handler takes effect. -/
def storePoint :
    Call gatewaySignature →
      Option
        (RegisterOp PreparedContentStore ×
          RegisterReply PreparedContentStore)
| ⟨.readStore, some store⟩ => some (.read, .found store)
| ⟨.readStore, none⟩ => some (.read, .refused)
| ⟨.writeStore update, .assigned⟩ =>
    some (.update update, .replaced)
| ⟨.writeStore update, .returned⟩ =>
    some (.update update, .kept)
| ⟨.writeStore update, .poisoned⟩ =>
    some (.update update, .refused)
| _ => none

/- The register that a state of the lock stands for. -/
def StoreLock.register
    (lock : StoreLock) : Register PreparedContentStore :=
  ⟨lock.installed, lock.poisoned⟩

def HoldsRegister
    (shared : SharedState)
    (held : Register PreparedContentStore) : Prop :=
  ∃ lock, shared.lock = some lock ∧ held = lock.register

variable {json : SerdeJson} {thread : Nat}
variable {before after : SharedState}
variable {held : Register PreparedContentStore}

theorem HoldsRegister.installed_eq
    (hHolds : HoldsRegister before held) :
    before.installed = some held.value := by
  rcases hHolds with ⟨lock, hLock, rfl⟩
  rw [SharedState.installed, hLock]
  rfl

/- The register is broken when the lock is poisoned. -/
theorem HoldsRegister.broken_iff
    (hHolds : HoldsRegister before held) :
    held.broken = true ↔ before.Poisoned := by
  rcases hHolds with ⟨lock, hLock, rfl⟩
  constructor
  · intro hBroken
    exact ⟨lock, hLock, hBroken⟩
  · rintro ⟨other, hOther, hPoisoned⟩
    rw [hLock] at hOther
    cases hOther
    exact hPoisoned

/- A call at a point is an operation on the register. -/
theorem HoldsRegister.exec
    {call : Call gatewaySignature}
    (hExec : Exec json thread before call after)
    (hHolds : HoldsRegister before held) :
    ∃ next,
      (register PreparedContentStore).Takes held
          (storePoint call) next ∧
        HoldsRegister after next := by
  rcases hHolds with ⟨present, hPresent, rfl⟩
  cases hExec with
  | readStore lock hLock _ hClean =>
      rw [hPresent] at hLock
      cases hLock
      refine ⟨present.register, ?_, present, hPresent, rfl⟩
      rw [StoreLock.register, hClean]
      exact .read present.installed
  | readPoisoned lock hLock _ hPoisoned =>
      rw [hPresent] at hLock
      cases hLock
      refine ⟨present.register, ?_, present, hPresent, rfl⟩
      rw [StoreLock.register, hPoisoned]
      exact .refuse present.installed .read
  | assign lock update store hLock _ hClean hUpdate =>
      rw [hPresent] at hLock
      cases hLock
      refine ⟨⟨store, false⟩, ?_,
        { present with installed := store }, rfl, ?_⟩
      · rw [StoreLock.register, hClean]
        exact .replace hUpdate
      · rw [StoreLock.register, hClean]
  | returnEarly lock update hLock _ hClean hUpdate =>
      rw [hPresent] at hLock
      cases hLock
      refine ⟨present.register, ?_,
        { present with writer := some thread }, rfl, rfl⟩
      rw [StoreLock.register, hClean]
      exact .keep hUpdate
  | writePoisoned lock update hLock _ hPoisoned =>
      rw [hPresent] at hLock
      cases hLock
      refine ⟨present.register, ?_,
        { present with writer := some thread }, rfl, rfl⟩
      rw [StoreLock.register, hPoisoned]
      exact .refuse present.installed (.update update)
  | dropGuard lock hLock _ =>
      rw [hPresent] at hLock
      cases hLock
      exact ⟨_, rfl, { present with writer := none }, rfl,
        rfl⟩
  | fetchAdd counter => exact ⟨_, rfl, present, hPresent, rfl⟩
  | loadCounter counter => exact ⟨_, rfl, present, hPresent, rfl⟩
  | nowUnixSeconds now _ => exact ⟨_, rfl, present, hPresent, rfl⟩
  | compareExchange => exact ⟨_, rfl, present, hPresent, rfl⟩
  | resetExpiryLogged => exact ⟨_, rfl, present, hPresent, rfl⟩
  | eprintln line => exact ⟨_, rfl, present, hPresent, rfl⟩
  | requestOrigin _ _ => exact ⟨_, rfl, present, hPresent, rfl⟩
  | loadFromDir _ _ _ => exact ⟨_, rfl, present, hPresent, rfl⟩

/- A panic breaks the register, or leaves it alone. -/
theorem HoldsRegister.unwind
    {op : GatewayOp}
    (hUnwind : Unwind thread before op after)
    (hHolds : HoldsRegister before held) :
    HoldsRegister after held ∨
      ∃ next : Register PreparedContentStore,
        next = { held with broken := true } ∧
          HoldsRegister after next := by
  rcases hHolds with ⟨present, hPresent, rfl⟩
  cases hUnwind
  have hLock :
      (before.lock.map (·.unwound thread)) =
        some (present.unwound thread) := by
    rw [hPresent]
    rfl
  by_cases hWriter : present.writer = some thread
  · right
    refine ⟨_, rfl, present.unwound thread, hLock, ?_⟩
    rw [StoreLock.unwound, if_pos hWriter]
    rfl
  · left
    refine ⟨present.unwound thread, hLock, ?_⟩
    rw [StoreLock.unwound, if_neg hWriter]

theorem HoldsRegister.change
    {files : FileSystem}
    (hChange : after = { before with files := files })
    (hHolds : HoldsRegister before held) :
    HoldsRegister after held := by
  rcases hHolds with ⟨present, hPresent, rfl⟩
  rw [hChange]
  exact ⟨present, hPresent, rfl⟩

end System

end AjarGateway

------------------------------------------------------------
-- One Point For Each Handler
------------------------------------------------------------

namespace AjarGateway

namespace System

open Http Interleaving Serving Store

variable (lib : Externals) (state : ProxyState)

/- What a reload replies for what became of its update. -/
def updateAnswer
    (loaded : PreparedContentStore) :
    RegisterReply PreparedContentStore → Option (Response Body)
| .replaced =>
    some
      (reloadedResponse loaded.viewCount
        loaded.manifestSequence)
| .kept => some (failureResponse lowerSequenceDetail)
| .refused =>
    some (failureResponse "content store state unavailable")
| .found _ => none

/-
  What an answered handler says about its operation on the
  register, and which handlers perform none.
-/
def storeSpecification :
    Specification (gateway lib state)
      (register PreparedContentStore) where
  active
  | .publicRequest request, answer, op, reply =>
      ∃ env : Surroundings,
        answer = respond lib state env request ∧
          op = .read ∧
            reply = env.snapshot.elim .refused .found
  | .reload, answer, op, reply =>
      ∃ loaded,
        op = .update (assignUnlessLower loaded) ∧
          updateAnswer loaded reply = some answer
  | .metrics, _, _, _ => False
  | .healthz, _, _, _ => False
  passive
  | .publicRequest _, _ => state.hasStore = false
  | .reload, answer =>
      ∃ detail, answer = failureResponse detail
  | .metrics, answer => ∃ values, answer = metricsPage values
  | .healthz, answer =>
      answer = healthz.answerWith (default : Surroundings).reply

variable {lib : Externals} {state : ProxyState}
variable {calls : List (Call gatewaySignature)}
variable {answer : Response Body}

/- Only reads and writes of the store are points. -/
theorem storePoint_eq_none_of_stage
    {call : Call gatewaySignature}
    (hStage : 3 ≤ call.op.stage) :
    storePoint call = none := by
  rcases call with ⟨op, reply⟩
  cases op with
  | readStore => simp [GatewayOp.stage] at hStage
  | writeStore update => simp [GatewayOp.stage] at hStage
  | _ => rfl

/- A request has no point after it has read the store. -/
theorem points_of_routeRequest
    (env : Surroundings)
    (request : Request Chunks)
    (snapshot : Option PreparedContentStore) :
    ((routeRequest lib state request
      snapshot).run.callsWith env.reply).filterMap
        storePoint =
      [] := by
  have hStages :=
    (performs_callsWith env.reply
      (routeRequest lib state request snapshot).run).stages
      (climbs_routeRequest lib state request snapshot)
  rw [List.filterMap_eq_nil_iff]
  intro call hCall
  exact storePoint_eq_none_of_stage (hStages.1 call hCall)

/- A public request has its point where it reads the store. -/
theorem points_of_answerPublic
    {request : Request Chunks}
    (hStore : state.hasStore = true)
    (hPerforms :
      Performs (answerPublic lib state request) calls
        (.ret answer)) :
    ∃ env : Surroundings,
      answer = respond lib state env request ∧
        calls.filterMap storePoint =
          [(.read, env.snapshot.elim .refused .found)] := by
  rcases performs_answerPublic lib state hPerforms with
    ⟨env, _, hAnswer, rfl⟩
  refine ⟨env, hAnswer, ?_⟩
  rw [callsWith_answerPublic,
    callsWith_currentStore state env hStore,
    List.filterMap_cons_none rfl, List.filterMap_append]
  have hRead :
      [(⟨.readStore, env.snapshot⟩ :
        Call gatewaySignature)].filterMap storePoint =
        [(.read, env.snapshot.elim .refused .found)] := by
    cases env.snapshot <;> rfl
  rw [hRead]
  cases snapshotOf state env with
  | error error => rfl
  | ok snapshot => rw [points_of_routeRequest]; rfl

/- A public request without a store has no point. -/
theorem no_points_of_answerPublic
    {request : Request Chunks}
    (hStore : state.hasStore = false)
    (hPerforms :
      Performs (answerPublic lib state request) calls
        (.ret answer)) :
    calls.filterMap storePoint = [] := by
  rcases performs_answerPublic lib state hPerforms with
    ⟨env, _, _, rfl⟩
  have hSnapshot : snapshotOf state env = .ok none := by
    simp [snapshotOf, hStore]
  have hCurrent :
      (currentStore state).run.callsWith env.reply = [] := by
    rw [currentStore, if_neg (by simp [hStore])]
    rfl
  rw [callsWith_answerPublic, hSnapshot, hCurrent,
    List.nil_append, List.filterMap_cons_none rfl]
  exact points_of_routeRequest env request none

/- A reload has its point where it writes the store. -/
theorem points_of_reloadStore
    (hPerforms :
      Performs (reloadStore state) calls (.ret answer)) :
    (∃ loaded reply,
        calls.filterMap storePoint =
            [(.update (assignUnlessLower loaded), reply)] ∧
          updateAnswer loaded reply = some answer) ∨
      (∃ detail, answer = failureResponse detail) ∧
        calls.filterMap storePoint = [] := by
  cases exit_of_performs hPerforms with
  | notConfigured => exact .inr ⟨⟨_, rfl⟩, rfl⟩
  | notLoaded path error _ => exact .inr ⟨⟨_, rfl⟩, rfl⟩
  | lowerSequence path loaded _ =>
      exact .inl ⟨loaded, .kept, rfl, rfl⟩
  | poisoned path loaded _ =>
      exact .inl ⟨loaded, .refused, rfl, rfl⟩
  | reloaded path loaded _ =>
      exact .inl ⟨loaded, .replaced, rfl, rfl⟩

theorem points_of_loadCalls
    (values : Counter → UInt64)
    (counters : List Counter) :
    (counters.map (loadCall values)).filterMap storePoint =
      [] := by
  rw [List.filterMap_eq_nil_iff]
  intro call hCall
  rcases List.mem_map.mp hCall with ⟨counter, _, rfl⟩
  rfl

/- The points of a handler that has answered. -/
theorem points_of_handle
    {incoming : Incoming}
    (hPerforms :
      Performs (handle lib state incoming) calls
        (.ret answer)) :
    (∃ op reply,
        calls.filterMap storePoint = [(op, reply)] ∧
          (storeSpecification lib state).active incoming
            answer op reply) ∨
      (storeSpecification lib state).passive incoming
          answer ∧
        calls.filterMap storePoint = [] := by
  cases incoming with
  | publicRequest request =>
      cases hStore : state.hasStore with
      | false =>
          exact .inr ⟨hStore,
            no_points_of_answerPublic hStore hPerforms⟩
      | true =>
          rcases points_of_answerPublic hStore hPerforms
            with ⟨env, hAnswer, hPoints⟩
          exact .inl ⟨_, _, hPoints, env, hAnswer, rfl, rfl⟩
  | reload =>
      rcases points_of_reloadStore hPerforms with
        ⟨loaded, reply, hPoints, hAnswer⟩ |
          ⟨hFailed, hPoints⟩
      · exact .inl ⟨_, reply, hPoints, loaded, rfl, hAnswer⟩
      · exact .inr ⟨hFailed, hPoints⟩
  | metrics =>
      rcases performs_metricsEndpoint hPerforms with
        ⟨values, rfl, hAnswer⟩
      exact .inr ⟨⟨values, hAnswer⟩,
        points_of_loadCalls values pageCounters⟩
  | healthz =>
      rcases (performs_ret_iff _ _ _).mp hPerforms with
        ⟨rfl, hAnswer⟩
      cases hAnswer
      exact .inr ⟨rfl, rfl⟩

/- No handler has two points, however far it has come. -/
theorem points_atMostOne
    {incoming : Incoming}
    {rest : GatewayProgram (Response Body)}
    (hPerforms :
      Performs (handle lib state incoming) calls rest) :
    (calls.filterMap storePoint).length ≤ 1 := by
  have hWhole :=
    hPerforms.extend (default : Surroundings).reply
  have hLength :
      ((calls ++
          rest.callsWith
            (default : Surroundings).reply).filterMap
              storePoint).length ≤ 1 := by
    rcases points_of_handle hWhole with
      ⟨_, _, hPoints, _⟩ | ⟨_, hPoints⟩
    · rw [hPoints]
      exact le_rfl
    · rw [hPoints]
      exact Nat.zero_le 1
  rw [List.filterMap_append, List.length_append] at hLength
  omega

/- The points of the handlers of the gateway. -/
def storePoints
    (lib : Externals)
    (state : ProxyState) :
    Points (gateway lib state)
      (register PreparedContentStore) where
  holds := HoldsRegister
  point := storePoint
  exec := HoldsRegister.exec
  unwind := HoldsRegister.unwind
  change := HoldsRegister.change
  atMostOne := points_atMostOne

end System

end AjarGateway

------------------------------------------------------------
-- Every Run Is Linearized
------------------------------------------------------------

namespace AjarGateway

namespace System

open Http Interleaving Serving Store

variable {lib : Externals} {state : ProxyState}
variable {config : GatewayConfig} {files : FileSystem}
variable {shared : SharedState}
variable {events : List (Event (gateway lib state))}
variable {after : Config (gateway lib state)}

/- An update of the register assigns a store unless lower. -/
def UpdatesLoaded
    (json : SerdeJson)
    (path : Path)
    (operation :
      Operation (register PreparedContentStore)) : Prop :=
  ∀ update, operation.op = .update update →
    ∃ loaded,
      update = assignUnlessLower loaded ∧
        WasLoaded json path loaded

/- The gateway starts with a store in a clean lock. -/
theorem holdsRegister_of_started
    (hStarted : Started lib config files state shared)
    (hStore : state.hasStore = true) :
    ∃ path store,
      state.config.storeDir = some path ∧
        shared.installed = some store ∧
          WasLoaded lib.json path store ∧
            HoldsRegister shared ⟨store, false⟩ := by
  rcases hStarted.store with
    ⟨_, hNone, _⟩ |
      ⟨path, now, store, hDir, _, hRange, hLoad, rfl⟩
  · rw [hStore] at hNone
    cases hNone
  · exact ⟨path, store, hDir, rfl,
      ⟨files, now, hRange, hLoad⟩, ⟨store, false, none⟩,
      rfl, rfl⟩

/- The points of every run linearize it. -/
theorem linearizes_of_run
    (hStarted : Started lib config files state shared)
    (hStore : state.hasStore = true)
    (hRun : Run (.initial shared) events after) :
    ∃ store last,
      shared.installed = some store ∧
        Linearizes (storeSpecification lib state) events
            ⟨store, false⟩
            ((storePoints lib state).order events) last ∧
          HoldsRegister after.state last := by
  rcases holdsRegister_of_started hStarted hStore with
    ⟨_, store, _, hInstalled, _, hHolds⟩
  have hSpec : ∀ incoming calls answer,
      Performs ((gateway lib state).program incoming) calls
          (.ret answer) →
        (∃ op reply,
            (op, reply) ∈
                calls.filterMap
                  (storePoints lib state).point ∧
              (storeSpecification lib state).active incoming
                answer op reply) ∨
          (storeSpecification lib state).passive incoming
              answer ∧
            calls.filterMap (storePoints lib state).point =
              [] := by
    intro incoming calls answer hPerforms
    rcases points_of_handle hPerforms with
      ⟨op, reply, hPoints, hActive⟩ | hPassive
    · have hPoints' :
          calls.filterMap (storePoints lib state).point =
            [(op, reply)] :=
        hPoints
      refine .inl ⟨op, reply, ?_, hActive⟩
      rw [hPoints']
      exact List.mem_singleton_self _
    · exact .inr hPassive
  rcases (storePoints lib state).linearizes hSpec hHolds
      hRun with
    ⟨last, hLinear, hLast⟩
  exact ⟨store, last, hInstalled, hLinear, hLast⟩

theorem storePoint_eq_update
    {call : Call gatewaySignature}
    {update :
      PreparedContentStore → Option PreparedContentStore}
    {reply : RegisterReply PreparedContentStore}
    (hPoint : storePoint call = some (.update update, reply)) :
    call.op = .writeStore update := by
  rcases call with ⟨op, result⟩
  cases op with
  | readStore => cases result <;> cases hPoint
  | writeStore update => cases result <;> cases hPoint <;> rfl
  | _ => cases hPoint

/- Every update is one by a store that was loaded before. -/
theorem load_of_update
    {operation : Operation (register PreparedContentStore)}
    {update :
      PreparedContentStore → Option PreparedContentStore}
    (hRun : Run (.initial shared) events after)
    (hMem :
      operation ∈ (storePoints lib state).order events)
    (hOp : operation.op = .update update) :
    ∃ path loaded,
      state.config.storeDir = some path ∧
        update = assignUnlessLower loaded ∧
          .call operation.thread
              ⟨.loadFromDir path, .ok loaded⟩ ∈ events := by
  rcases ((storePoints lib state).mem_order_iff events
      operation).mp hMem with
    ⟨call, hCall, hPoint⟩
  rw [hOp] at hPoint
  have hWrite := storePoint_eq_update hPoint
  rcases List.append_of_mem hCall with
    ⟨first, second, rfl⟩
  rcases hRun.performs_of_call with
    ⟨_, _, incoming, _, _, _, _, _, hPerforms⟩
  have hGuard :=
    hPerforms.guard (meets_handle lib state incoming)
  rw [hWrite] at hGuard
  rcases hGuard with ⟨path, loaded, hDir, rfl, hLoaded⟩
  rw [List.nil_append, mem_callsOf_iff] at hLoaded
  exact ⟨path, loaded, hDir, rfl,
    List.mem_append_left _ hLoaded⟩

/- No update lowers the sequence of the store. -/
theorem raises_sequence
    {operation : Operation (register PreparedContentStore)}
    (hRun : Run (.initial shared) events after)
    (hMem :
      operation ∈ (storePoints lib state).order events) :
    Raises PreparedContentStore.manifestSequence
      operation := by
  intro update old new hOp hNew
  rcases load_of_update hRun hMem hOp with
    ⟨_, loaded, _, rfl, _⟩
  rw [assignUnlessLower] at hNew
  split at hNew
  · cases hNew
  · cases hNew
    omega

/-
  Every run of a gateway with a store is linearizable: over
  the store of the startup, with the operations of its
  handlers in the order of their calls at the lock, which
  respects real time.  What the register holds in the end is
  what the lock holds, and the updates are those of stores
  loaded from the directory.
-/
theorem gateway_linearizable
    (hStarted : Started lib config files state shared)
    (hStore : state.hasStore = true)
    (hRun : Run (.initial shared) events after) :
    ∃ path store last,
      state.config.storeDir = some path ∧
        shared.installed = some store ∧
          Linearizes (storeSpecification lib state) events
              ⟨store, false⟩
              ((storePoints lib state).order events) last ∧
            (∀ operation ∈
                (storePoints lib state).order events,
              UpdatesLoaded lib.json path operation) ∧
              after.state.installed = some last.value ∧
                (last.broken = true ↔
                  after.state.Poisoned) := by
  rcases linearizes_of_run hStarted hStore hRun with
    ⟨store, last, hInstalled, hLinear, hHolds⟩
  rcases holdsRegister_of_started hStarted hStore with
    ⟨path, _, hDir, _⟩
  refine ⟨path, store, last, hDir, hInstalled, hLinear, ?_,
    hHolds.installed_eq, hHolds.broken_iff⟩
  intro operation hMem update hOp
  rcases load_of_update hRun hMem hOp with
    ⟨other, loaded, hOther, rfl, hLoad⟩
  rw [hDir] at hOther
  cases hOther
  rcases load_in_run hRun hLoad with
    ⟨found, now, hRange, hReply⟩
  exact ⟨loaded, rfl, found, now, hRange, hReply.symm⟩

/- A reload and two requests are linearized. -/
theorem gateway_linearizable_sample :
    ∃ flag last,
      Linearizes (storeSpecification sampleExt sampleState)
        (clientEvents flag) ⟨samplePage "Old", false⟩
        ((storePoints sampleExt sampleState).order
          (clientEvents flag))
        last := by
  rcases run_clientEvents with ⟨flag, after, hRun, _⟩
  rcases gateway_linearizable sample_started rfl hRun with
    ⟨path, store, last, _, hInstalled, hLinear, _⟩
  cases hInstalled
  exact ⟨flag, last, hLinear⟩

/- The first request is answered before the second one. -/
theorem clientEvents_requests (flag : Bool) :
    AnsweredBefore (clientEvents flag) 1 2 :=
  ⟨loadEvents sampleExt sampleState 0 sampleDir
        (samplePage "Old") ++
      commitEvents sampleExt sampleState 0
          (samplePage "Old") ++
        Event.start 1
            (Incoming.publicRequest
              (getRequest manifestTarget .empty)) ::
          ((answerPublic sampleExt sampleState
              (getRequest manifestTarget .empty)).callsWith
                (sampleEnv (samplePage "Old")).reply).map
            (Event.call 1),
    _, requestEvents sampleExt sampleState 2
      (flaggedEnv flag) (getRequest manifestTarget .empty),
    _, by simp [clientEvents, requestEvents]; rfl,
    List.mem_cons_self⟩

/- The reload is answered before the first request. -/
theorem clientEvents_reload (flag : Bool) :
    AnsweredBefore (clientEvents flag) 0 1 :=
  ⟨_, _, _, .publicRequest (getRequest manifestTarget .empty),
    clientEvents_eq flag, by simp [requestEvents]⟩

end System

end AjarGateway

------------------------------------------------------------
-- What Clients See
------------------------------------------------------------

namespace AjarGateway

namespace System

open Http Interleaving Serving Store

variable {lib : Externals} {state : ProxyState}
variable {config : GatewayConfig} {files : FileSystem}
variable {shared : SharedState}
variable {events : List (Event (gateway lib state))}
variable {after : Config (gateway lib state)}

/- The read of a request, as an operation. -/
def readOperation
    (thread : Nat)
    (snapshot : Option PreparedContentStore) :
    Operation (register PreparedContentStore) :=
  ⟨thread, .read, snapshot.elim .refused .found⟩

theorem mem_order_of_read
    {thread : Nat} {snapshot : Option PreparedContentStore}
    (hRead :
      .call thread ⟨.readStore, snapshot⟩ ∈ events) :
    readOperation thread snapshot ∈
      (storePoints lib state).order events := by
  rw [(storePoints lib state).mem_order_iff]
  refine ⟨_, hRead, ?_⟩
  cases snapshot <;> rfl

/- An answered request has read the store. -/
theorem read_of_answered
    {thread : Nat} {request : Request Chunks}
    {answer : Response Body}
    (hStore : state.hasStore = true)
    (hRun : Run (.initial shared) events after)
    (hStart :
      .start thread (.publicRequest request) ∈ events)
    (hAnswer : .answer thread answer ∈ events) :
    ∃ env : Surroundings,
      answer = respond lib state env request ∧
        .call thread ⟨.readStore, env.snapshot⟩ ∈
          events := by
  rcases answered_publicRequest hRun hStart hAnswer with
    ⟨env, hRespond, hCalls⟩
  refine ⟨env, hRespond, ?_⟩
  rw [← mem_callsOf_iff, hCalls, callsWith_answerPublic,
    callsWith_currentStore state env hStore]
  simp

/-
  Clients never see the store go back: a request that starts
  after another one was answered is answered from a store of
  no lower sequence, and once a request was refused for a
  poisoned lock, every later one is.
-/
theorem requests_in_order
    {earlier later : Nat}
    {request request' : Request Chunks}
    {answer answer' : Response Body}
    (hStarted : Started lib config files state shared)
    (hStore : state.hasStore = true)
    (hRun : Run (.initial shared) events after)
    (hStart :
      .start earlier (.publicRequest request) ∈ events)
    (hAnswer : .answer earlier answer ∈ events)
    (hStart' :
      .start later (.publicRequest request') ∈ events)
    (hAnswer' : .answer later answer' ∈ events)
    (hBefore : AnsweredBefore events earlier later) :
    ∃ env env' : Surroundings,
      answer = respond lib state env request ∧
        .call earlier ⟨.readStore, env.snapshot⟩ ∈ events ∧
        answer' = respond lib state env' request' ∧
        .call later ⟨.readStore, env'.snapshot⟩ ∈ events ∧
        (env.snapshot = none → env'.snapshot = none) ∧
        ∀ store store',
          env.snapshot = some store →
            env'.snapshot = some store' →
              store.manifestSequence ≤
                store'.manifestSequence := by
  rcases linearizes_of_run hStarted hStore hRun with
    ⟨_, _, _, hLinear, _⟩
  rcases read_of_answered hStore hRun hStart hAnswer with
    ⟨env, hRespond, hRead⟩
  rcases read_of_answered hStore hRun hStart' hAnswer' with
    ⟨env', hRespond', hRead'⟩
  rcases hLinear.order_of_answeredBefore
      (mem_order_of_read hRead) (mem_order_of_read hRead')
      hBefore (hRun.ne_of_answeredBefore hBefore) with
    ⟨front, middle, back, hOrder⟩
  have hLegal := hLinear.legal
  rw [hOrder] at hLegal
  refine ⟨env, env', hRespond, hRead, hRespond', hRead', ?_,
    ?_⟩
  · intro hNone
    have hRefused :=
      Register.refused_later hLegal
        (by rw [readOperation, hNone]; rfl)
    cases hSnapshot : env'.snapshot with
    | none => rfl
    | some store =>
        rw [readOperation, hSnapshot] at hRefused
        cases hRefused
  · intro store store' hSnapshot hSnapshot'
    refine Register.found_le_found
      PreparedContentStore.manifestSequence hLegal ?_
      (by rw [readOperation, hSnapshot]; rfl)
      (by rw [readOperation, hSnapshot']; rfl)
    intro operation hMem
    apply raises_sequence hRun
    rw [hOrder]
    simp [hMem]

/- The second request of the sample is not served less. -/
theorem requests_in_order_sample :
    ∃ (flag : Bool) (env env' : Surroundings),
      (.call 1 ⟨.readStore, env.snapshot⟩ ∈
          clientEvents flag ∧
        .call 2 ⟨.readStore, env'.snapshot⟩ ∈
          clientEvents flag) ∧
        ∀ store store',
          env.snapshot = some store →
            env'.snapshot = some store' →
              store.manifestSequence ≤
                store'.manifestSequence := by
  rcases run_clientEvents with ⟨flag, after, hRun, _⟩
  have hStarts := clientEvents_started flag
  have hAnswers := clientEvents_answered flag
  rcases requests_in_order sample_started rfl hRun
      hStarts.2.1 hAnswers.2.1 hStarts.2.2 hAnswers.2.2
      (clientEvents_requests flag) with
    ⟨env, env', _, hRead, _, hRead', _, hLe⟩
  exact ⟨flag, env, env', ⟨hRead, hRead'⟩, hLe⟩

/- A reload that was answered 200 has replaced the store. -/
theorem replaces_of_reloaded
    {reloader : Nat} {answer : Response Body}
    {order : List (Operation (register PreparedContentStore))}
    {first last : Register PreparedContentStore}
    (hLinear :
      Linearizes (storeSpecification lib state) events first
        order last)
    (hStart : .start reloader .reload ∈ events)
    (hAnswer : .answer reloader answer ∈ events)
    (hStatus : answer.status = 200) :
    ∃ operation ∈ order,
      operation.thread = reloader ∧ Replaces operation := by
  rcases hLinear.answered reloader .reload answer hStart
      hAnswer with
    ⟨operation, hMem, hThread, loaded, _, hUpdate⟩ |
      ⟨⟨detail, rfl⟩, _⟩
  · refine ⟨operation, hMem, hThread, ?_⟩
    unfold Replaces
    cases hReply : operation.reply with
    | replaced => rfl
    | found _ => rw [hReply] at hUpdate; cases hUpdate
    | kept =>
        rw [hReply] at hUpdate
        cases hUpdate
        cases hStatus
    | refused =>
        rw [hReply] at hUpdate
        cases hUpdate
        cases hStatus
  · cases hStatus

/- A replacement is an assignment of its handler. -/
theorem assigned_of_replaces
    {operation : Operation (register PreparedContentStore)}
    {update :
      PreparedContentStore → Option PreparedContentStore}
    (hMem :
      operation ∈ (storePoints lib state).order events)
    (hOp : operation.op = .update update)
    (hReplaces : Replaces operation) :
    .call operation.thread
        ⟨.writeStore update, .assigned⟩ ∈ events := by
  rcases ((storePoints lib state).mem_order_iff events
      operation).mp hMem with
    ⟨⟨op, result⟩, hCall, hPoint⟩
  rw [hOp, hReplaces] at hPoint
  have hWrite := storePoint_eq_update hPoint
  cases hWrite
  cases result with
  | assigned => exact hCall
  | returned => cases hPoint
  | poisoned => cases hPoint

/- A store that is read once a reload was answered 200. -/
theorem loaded_after_reload
    {reloader later : Nat} {reloaded : Response Body}
    {store : PreparedContentStore}
    (hStarted : Started lib config files state shared)
    (hStore : state.hasStore = true)
    (hRun : Run (.initial shared) events after)
    (hReload : .start reloader .reload ∈ events)
    (hReloaded : .answer reloader reloaded ∈ events)
    (hStatus : reloaded.status = 200)
    (hRead :
      .call later ⟨.readStore, some store⟩ ∈ events)
    (hBefore : AnsweredBefore events reloader later) :
    ∃ other path,
      .call other ⟨.loadFromDir path, .ok store⟩ ∈ events ∧
        .call other
            ⟨.writeStore (assignUnlessLower store),
              .assigned⟩ ∈ events ∧
          (other = reloader ∨
            ¬AnsweredBefore events other reloader) ∧
            ¬AnsweredBefore events later other := by
  rcases linearizes_of_run hStarted hStore hRun with
    ⟨_, _, _, hLinear, _⟩
  rcases replaces_of_reloaded hLinear hReload hReloaded
      hStatus with
    ⟨reload, hReloadMem, rfl, hReplaces⟩
  rcases hLinear.order_of_answeredBefore hReloadMem
      (mem_order_of_read hRead) hBefore
      (hRun.ne_of_answeredBefore hBefore) with
    ⟨start, between, back, hOrder⟩
  have hSplit :
      (storePoints lib state).order events =
        (start ++ reload :: between) ++
          readOperation later (some store) :: back := by
    simpa using hOrder
  have hLegal := hLinear.legal
  rw [hSplit] at hLegal
  rcases Register.found_is_last hLegal
      (by rw [readOperation]; rfl) with
    ⟨_, hNone⟩ |
      ⟨front, middle, last, update, old, hFront, hMiddle,
        hLastReplaces, hOp, hNew⟩
  · exact absurd hReplaces (hNone reload (by simp))
  -- The last replacement before the read is the reload's
  -- own or comes after it.
  have hLastMem :
      last ∈ (storePoints lib state).order events := by
    rw [hSplit, hFront]
    simp
  rcases load_of_update hRun hLastMem hOp with
    ⟨path, loaded, _, rfl, hLoad⟩
  have hLoaded : loaded = store := by
    rw [assignUnlessLower] at hNew
    split at hNew
    · cases hNew
    · exact Option.some.inj hNew
  subst hLoaded
  refine ⟨last.thread, path, hLoad,
    assigned_of_replaces hLastMem hOp hLastReplaces, ?_, ?_⟩
  · have hIn : reload ∈ front ++ last :: middle := by
      rw [← hFront]
      simp
    rcases List.mem_append.mp hIn with hIn | hIn
    · right
      rcases List.append_of_mem hIn with
        ⟨first, second, rfl⟩
      have hParts :
          (storePoints lib state).order events =
            first ++ reload ::
              (second ++ last ::
                (middle ++
                  readOperation later (some loaded) ::
                    back)) := by
        rw [hSplit, hFront]
        simp
      rw [hParts] at hLinear
      exact hLinear.not_answeredBefore
    · rcases List.mem_cons.mp hIn with rfl | hIn
      · exact .inl rfl
      · exact absurd hReplaces (hMiddle reload hIn)
  · have hParts :
        (storePoints lib state).order events =
          front ++ last ::
            (middle ++
              readOperation later (some loaded) ::
                back) := by
      rw [hSplit, hFront]
      simp
    rw [hParts] at hLinear
    exact hLinear.not_answeredBefore

/-
  What a request is served from once a reload was answered
  200: exactly the store that this reload has loaded, or the
  store of a reload that was not over when it started.  Only
  at a poisoned lock is it refused.
-/
theorem served_by_last_reload
    {reloader later : Nat} {request : Request Chunks}
    {reloaded answer : Response Body}
    (hStarted : Started lib config files state shared)
    (hStore : state.hasStore = true)
    (hRun : Run (.initial shared) events after)
    (hReload : .start reloader .reload ∈ events)
    (hReloaded : .answer reloader reloaded ∈ events)
    (hStatus : reloaded.status = 200)
    (hStart :
      .start later (.publicRequest request) ∈ events)
    (hAnswer : .answer later answer ∈ events)
    (hBefore : AnsweredBefore events reloader later) :
    ∃ env : Surroundings,
      answer = respond lib state env request ∧
        .call later ⟨.readStore, env.snapshot⟩ ∈ events ∧
        (env.snapshot = none → after.state.Poisoned) ∧
        ∀ store, env.snapshot = some store →
          ∃ other path,
            .call other ⟨.loadFromDir path, .ok store⟩ ∈
                events ∧
              .call other
                  ⟨.writeStore (assignUnlessLower store),
                    .assigned⟩ ∈ events ∧
              (other = reloader ∨
                ¬AnsweredBefore events other reloader) ∧
              ¬AnsweredBefore events later other := by
  rcases read_of_answered hStore hRun hStart hAnswer with
    ⟨env, hRespond, hRead⟩
  refine ⟨env, hRespond, hRead, ?_, ?_⟩
  · intro hRefused
    rw [hRefused] at hRead
    exact poisoned_of_refused hRun hRead
  · intro store hSnapshot
    rw [hSnapshot] at hRead
    exact loaded_after_reload hStarted hStore hRun hReload
      hReloaded hStatus hRead hBefore

/- The first request is served from what was reloaded. -/
theorem served_by_last_reload_sample :
    ∃ (flag : Bool) (env : Surroundings),
      .call 1 ⟨.readStore, env.snapshot⟩ ∈
          clientEvents flag ∧
        ∀ store, env.snapshot = some store →
          ∃ other path,
            .call other ⟨.loadFromDir path, .ok store⟩ ∈
              clientEvents flag := by
  rcases run_clientEvents with ⟨flag, after, hRun, _⟩
  have hStarts := clientEvents_started flag
  have hAnswers := clientEvents_answered flag
  rcases served_by_last_reload sample_started rfl hRun
      hStarts.1 hAnswers.1 rfl hStarts.2.1 hAnswers.2.1
      (clientEvents_reload flag) with
    ⟨env, _, hRead, _, hServed⟩
  refine ⟨flag, env, hRead, ?_⟩
  intro store hSnapshot
  rcases hServed store hSnapshot with
    ⟨other, path, hLoad, _⟩
  exact ⟨other, path, hLoad⟩

end System

end AjarGateway
