import AjarGateway.Interleaving.Isolation
import AjarGateway.Interleaving.Pool
import AjarGateway.Serving.Reloads

/-
  The running gateway.

  The machine answers the operations of all handlers over
  one shared state: the lock around the installed store, the
  counters, the expiry flag and the files of the store
  directory.  Files change from outside at any time.  A
  handler may panic while it writes a log line, which
  poisons a lock it holds, and a request may be dropped
  while it waits for the origin.

  Key definitions include:
    * `System.SharedState`
    * `System.Exec`
    * `System.gateway`
    * `System.startup`

  Key theorems include:
    * `System.startup_ok`
    * `System.tracks_handle_of`
    * `System.meets_handle`
    * `System.Exec.installed_cases`
-/

------------------------------------------------------------
-- The Shared State
------------------------------------------------------------

namespace AjarGateway

namespace System

open Http Interleaving Serving Store

/-
  The lock around the installed store: whether it has been
  poisoned, and the handler that holds its write guard.
-/
structure StoreLock where
  installed : PreparedContentStore
  poisoned : Bool
  writer : Option Nat

structure SharedState where
  lock : Option StoreLock
  metrics : Counter → UInt64
  manifestExpiryLogged : Bool
  files : FileSystem

namespace SharedState

/- The installed store, if a store is configured. -/
def installed
    (state : SharedState) : Option PreparedContentStore :=
  state.lock.map StoreLock.installed

def increment
    (state : SharedState)
    (counter : Counter) : SharedState :=
  { state with
    metrics :=
      Function.update state.metrics counter
        (state.metrics counter + 1) }

def withLock
    (state : SharedState)
    (lock : StoreLock) : SharedState :=
  { state with lock := some lock }

@[simp] theorem installed_withLock
    (state : SharedState)
    (lock : StoreLock) :
    (state.withLock lock).installed =
      some lock.installed :=
  rfl

end SharedState

/- The lock after its holder has been unwound by a panic. -/
def StoreLock.unwound
    (lock : StoreLock)
    (thread : Nat) : StoreLock :=
  if lock.writer = some thread then
    { lock with poisoned := true, writer := none }
  else
    lock

@[simp] theorem StoreLock.installed_unwound
    (lock : StoreLock)
    (thread : Nat) :
    (lock.unwound thread).installed = lock.installed := by
  rw [unwound]
  split <;> rfl

end System

end AjarGateway

------------------------------------------------------------
-- The Machine
------------------------------------------------------------

namespace AjarGateway

namespace System

open Http Interleaving Serving Store

/-
  The operations of one handler over the shared state.  The
  lock can be read or written while no handler holds its
  write guard.  A poisoned lock is taken as well, but what
  is given is an error; the error of a write has the guard
  inside and keeps it until the handler returns.
-/
inductive Exec (json : SerdeJson) (thread : Nat) :
    SharedState → Call gatewaySignature → SharedState →
      Prop where
  | fetchAdd (state : SharedState) (counter : Counter) :
      Exec json thread state ⟨.fetchAdd counter, ()⟩
        (state.increment counter)
  | loadCounter (state : SharedState) (counter : Counter) :
      Exec json thread state
        ⟨.loadCounter counter, state.metrics counter⟩ state
  | readStore
      (state : SharedState)
      (lock : StoreLock)
      (hLock : state.lock = some lock)
      (hFree : lock.writer = none)
      (hClean : lock.poisoned = false) :
      Exec json thread state
        ⟨.readStore, some lock.installed⟩ state
  | readPoisoned
      (state : SharedState)
      (lock : StoreLock)
      (hLock : state.lock = some lock)
      (hFree : lock.writer = none)
      (hPoisoned : lock.poisoned = true) :
      Exec json thread state ⟨.readStore, none⟩ state
  | nowUnixSeconds
      (state : SharedState)
      (now : Int)
      (hRange : InClockRange now) :
      Exec json thread state ⟨.nowUnixSeconds, now⟩ state
  | compareExchange (state : SharedState) :
      Exec json thread state
        ⟨.compareExchangeExpiryLogged,
          !state.manifestExpiryLogged⟩
        { state with manifestExpiryLogged := true }
  | resetExpiryLogged (state : SharedState) :
      Exec json thread state ⟨.resetExpiryLogged, ()⟩
        { state with manifestExpiryLogged := false }
  | eprintln (state : SharedState) (line : LogLine) :
      Exec json thread state ⟨.eprintln line, ()⟩ state
  | requestOrigin
      (state : SharedState)
      (upstream : Request Limited)
      (reply : OriginReply) :
      Exec json thread state
        ⟨.requestOrigin upstream, reply⟩ state
  | loadFromDir
      (state : SharedState)
      (storeDir : Path)
      (now : Int)
      (hRange : InClockRange now) :
      Exec json thread state
        ⟨.loadFromDir storeDir,
          loadFrom json storeDir state.files now⟩ state
  | assign
      (state : SharedState)
      (lock : StoreLock)
      (update :
        PreparedContentStore → Option PreparedContentStore)
      (store : PreparedContentStore)
      (hLock : state.lock = some lock)
      (hFree : lock.writer = none)
      (hClean : lock.poisoned = false)
      (hUpdate : update lock.installed = some store) :
      Exec json thread state
        ⟨.writeStore update, .assigned⟩
        (state.withLock { lock with installed := store })
  | returnEarly
      (state : SharedState)
      (lock : StoreLock)
      (update :
        PreparedContentStore → Option PreparedContentStore)
      (hLock : state.lock = some lock)
      (hFree : lock.writer = none)
      (hClean : lock.poisoned = false)
      (hUpdate : update lock.installed = none) :
      Exec json thread state
        ⟨.writeStore update, .returned⟩
        (state.withLock { lock with writer := some thread })
  | writePoisoned
      (state : SharedState)
      (lock : StoreLock)
      (update :
        PreparedContentStore → Option PreparedContentStore)
      (hLock : state.lock = some lock)
      (hFree : lock.writer = none)
      (hPoisoned : lock.poisoned = true) :
      Exec json thread state
        ⟨.writeStore update, .poisoned⟩
        (state.withLock { lock with writer := some thread })
  | dropGuard
      (state : SharedState)
      (lock : StoreLock)
      (hLock : state.lock = some lock)
      (hHeld : lock.writer = some thread) :
      Exec json thread state ⟨.dropGuard, ()⟩
        (state.withLock { lock with writer := none })

/- Writing a log line may panic. -/
inductive Unwind (thread : Nat) :
    SharedState → GatewayOp → SharedState → Prop where
  | eprintln (state : SharedState) (line : LogLine) :
      Unwind thread state (.eprintln line)
        { state with
          lock := state.lock.map (·.unwound thread) }

/- A handler is only dropped while it awaits the origin. -/
def Cancellable : GatewayOp → Prop
| .requestOrigin _ => True
| _ => False

abbrev gateway
    (lib : Externals)
    (state : ProxyState) :
    Machine gatewaySignature (Response Body) where
  State := SharedState
  Handler := Incoming
  Change := FileSystem
  program := handle lib state
  exec := Exec lib.json
  unwind := Unwind
  cancellable := Cancellable
  change := fun before files after =>
    after = { before with files := files }

/- The shared state before any request. -/
def initialState
    (store : Option PreparedContentStore)
    (files : FileSystem) : SharedState where
  lock := store.map (⟨·, false, none⟩)
  metrics := fun _ => 0
  manifestExpiryLogged := false
  files := files

/- The store that is loaded before the gateway serves. -/
def startupStore
    (lib : Externals)
    (storeDir : Option Path)
    (files : FileSystem)
    (now : Int) :
    Except ServingError (Option PreparedContentStore) :=
  match storeDir with
  | none => .ok none
  | some path =>
      match loadFrom lib.json path files now with
      | .ok store => .ok (some store)
      | .error error => .error (.storeLoadFailed error)

/- The gateway when it starts to serve. -/
def startup
    (lib : Externals)
    (config : GatewayConfig)
    (files : FileSystem)
    (now : Int) :
    Except ServingError (ProxyState × SharedState) := do
  let config ← config.validate lib.http
  let store ← startupStore lib config.storeDir files now
  return (⟨config, store.isSome⟩, initialState store files)

/-
  A gateway that has started: its configuration was accepted
  and, when a store directory is configured, a store was
  loaded from it.
-/
structure Started
    (lib : Externals)
    (config : GatewayConfig)
    (files : FileSystem)
    (state : ProxyState)
    (shared : SharedState) : Prop where
  validated : config.validate lib.http = .ok state.config
  store :
    (state.config.storeDir = none ∧
        state.hasStore = false ∧
          shared = initialState none files) ∨
      ∃ path now store,
        state.config.storeDir = some path ∧
          state.hasStore = true ∧ InClockRange now ∧
          loadFrom lib.json path files now = .ok store ∧
            shared = initialState (some store) files

theorem startup_ok
    {lib : Externals}
    {config : GatewayConfig}
    {files : FileSystem}
    {now : Int}
    {state : ProxyState}
    {shared : SharedState}
    (hRange : InClockRange now)
    (hStartup :
      startup lib config files now = .ok (state, shared)) :
    Started lib config files state shared := by
  simp only [startup, Rust.bind_eq_ok_iff] at hStartup
  rcases hStartup with ⟨valid, hValid, store, hStore, hReturn⟩
  cases hReturn
  refine ⟨hValid, ?_⟩
  cases hDir : valid.storeDir with
  | none =>
      rw [hDir] at hStore
      cases hStore
      exact .inl ⟨rfl, rfl, rfl⟩
  | some path =>
      cases hLoad : loadFrom lib.json path files now with
      | ok loaded =>
          simp only [startupStore, hDir, hLoad] at hStore
          cases hStore
          exact .inr ⟨path, now, loaded, rfl, rfl, hRange,
            hLoad, rfl⟩
      | error error =>
          simp [startupStore, hDir, hLoad] at hStore

end System

end AjarGateway

------------------------------------------------------------
-- What A Handler May Write
------------------------------------------------------------

namespace AjarGateway

namespace System

open Http Interleaving Serving Store

/-
  A load is the first call of its handler, and a write of
  the store assigns, unless its sequence is lower, the store
  that the handler has loaded from the store directory.
-/
def WritesLoaded
    (state : ProxyState)
    (past : List (Call gatewaySignature)) :
    GatewayOp → Prop
| .loadFromDir path =>
    past = [] ∧ state.config.storeDir = some path
| .writeStore update =>
    ∃ path loaded,
      state.config.storeDir = some path ∧
        update = assignUnlessLower loaded ∧
          ⟨.loadFromDir path, .ok loaded⟩ ∈ past
| _ => True

/-
  A reload that answers 200 has loaded a store, assigned it,
  and reports its sequence.
-/
def Reloaded
    (state : ProxyState)
    (calls : List (Call gatewaySignature))
    (answer : Response Body) : Prop :=
  answer.status = 200 →
    ∃ path loaded rest,
      state.config.storeDir = some path ∧
        calls =
            ⟨.loadFromDir path, .ok loaded⟩ ::
              ⟨.writeStore (assignUnlessLower loaded),
                  .assigned⟩ ::
                rest ∧
          answer =
            reloadedResponse loaded.viewCount
              loaded.manifestSequence

variable (lib : Externals) (state : ProxyState)

theorem meets_reloadStore :
    (reloadStore state).Meets
      (WritesLoaded state) (Reloaded state) [] := by
  apply meets_reloadStore_of_exits
  intro calls answer hExit
  cases hExit with
  | notConfigured =>
      simp [failureCalls, WritesLoaded, Reloaded]
  | notLoaded path error hDir =>
      simp [failureCalls, WritesLoaded, Reloaded, hDir]
  | lowerSequence path loaded hDir =>
      simp [failureCalls, WritesLoaded, Reloaded, hDir]
  | poisoned path loaded hDir =>
      simp [failureCalls, WritesLoaded, Reloaded, hDir]
  | reloaded path loaded hDir =>
      constructor
      · simp [WritesLoaded, hDir]
      · intro _
        exact ⟨path, loaded, _, hDir, rfl, rfl⟩

/- Rendering meets every contract that allows its loads. -/
theorem meets_renderCounters
    {guard : List (Call gatewaySignature) → GatewayOp → Prop}
    (hLoads : ∀ past counter,
      guard past (.loadCounter counter))
    (counters : List Counter)
    (post : List (Call gatewaySignature) → String → Prop)
    (hPost : ∀ calls text, post calls text)
    (past : List (Call gatewaySignature)) :
    (renderCounters counters).Meets guard post past := by
  induction counters generalizing past post with
  | nil => exact hPost _ _
  | cons counter rest ih =>
      rw [renderCounters, Program.meets_bind_iff]
      refine ⟨hLoads _ _, fun value => ?_⟩
      simp only [Program.meets_ret_iff,
        Program.meets_bind_iff]
      exact ih _ (fun _ _ => hPost _ _) _

/-
  A contract that allows the calls of public requests and
  the loads of counters is met if reloads meet it.
-/
theorem meets_handle_of
    {guard : List (Call gatewaySignature) → GatewayOp → Prop}
    (hPublic : ∀ past op,
      1 ≤ GatewayOp.stage op → guard past op)
    (hReload :
      (reloadStore state).Meets guard (fun _ _ => True) [])
    (hLoads : ∀ past counter,
      guard past (.loadCounter counter))
    (incoming : Incoming) :
    (handle lib state incoming).Meets guard
      (fun _ _ => True) [] := by
  cases incoming with
  | publicRequest request =>
      exact (climbs_answerPublic lib state request).meets
        hPublic
  | reload => exact hReload
  | metrics =>
      rw [handle, metricsEndpoint, Program.meets_bind_iff]
      exact meets_renderCounters hLoads _ _
        (fun _ _ => trivial) []
  | healthz => trivial

/- What `/metrics` reports may be anything. -/
theorem tracks_renderCounters
    {varies : (op : GatewayOp) → op.Reply → op.Reply → Prop}
    {silent : GatewayOp → Prop} {exempt : Prop}
    (hExempt : exempt)
    (counters : List Counter) :
    Tracks (S := gatewaySignature) varies silent exempt
      (renderCounters counters) (renderCounters counters) := by
  induction counters with
  | nil => exact .ret (.inr rfl)
  | cons counter rest ih =>
      refine .call fun value value' _ => ?_
      exact ih.bind fun _ _ _ => .ret (.inl hExempt)

/-
  Handlers go on alike after replies that vary if public
  requests and reloads do, but for what `/metrics` reports.
-/
theorem tracks_handle_of
    {varies : (op : GatewayOp) → op.Reply → op.Reply → Prop}
    {silent : GatewayOp → Prop}
    (hPublic : ∀ (exempt : Prop) request, ¬exempt →
      Tracks (S := gatewaySignature) varies silent exempt
        (answerPublic lib state request)
        (answerPublic lib state request))
    (hReload : ∀ exempt : Prop,
      Tracks (S := gatewaySignature) varies silent exempt
        (reloadStore state) (reloadStore state))
    (incoming : Incoming) :
    Tracks (S := gatewaySignature) varies silent
      (incoming = .metrics) (handle lib state incoming)
      (handle lib state incoming) := by
  cases incoming with
  | publicRequest request =>
      exact hPublic _ request (by simp)
  | reload => exact hReload _
  | metrics =>
      exact (tracks_renderCounters rfl _).bind
        fun _ _ _ => .ret (.inl rfl)
  | healthz => exact .ret (.inr rfl)

/- No handler writes the store in another way. -/
theorem meets_handle (incoming : Incoming) :
    (handle lib state incoming).Meets
      (WritesLoaded state) (fun _ _ => True) [] := by
  apply meets_handle_of
  case hPublic =>
    intro past op hStage
    cases op with
    | writeStore update =>
        exact absurd hStage (Nat.not_succ_le_zero 0)
    | loadFromDir path =>
        exact absurd hStage (Nat.not_succ_le_zero 0)
    | _ => trivial
  case hReload =>
    exact (meets_reloadStore state).mono
      (fun _ _ _ => trivial)
  case hLoads => exact fun _ _ => trivial

end System

end AjarGateway

------------------------------------------------------------
-- What A Step May Change
------------------------------------------------------------

namespace AjarGateway

namespace System

open Http Interleaving Serving Store

variable {json : SerdeJson} {thread : Nat}
variable {before after : SharedState}
variable {call : Call gatewaySignature}

/- Only an assignment changes the installed store. -/
theorem Exec.installed_cases
    (hExec : Exec json thread before call after) :
    after.installed = before.installed ∨
      ∃ update current store,
        call = ⟨.writeStore update, .assigned⟩ ∧
          before.installed = some current ∧
            update current = some store ∧
              after.installed = some store := by
  cases hExec with
  | assign lock update store hLock _ _ hUpdate =>
      exact .inr ⟨update, lock.installed, store, rfl,
        by simp [SharedState.installed, hLock], hUpdate,
        rfl⟩
  | returnEarly lock _ hLock _ _ _
  | writePoisoned lock _ hLock _ _ =>
      left
      rw [SharedState.installed_withLock,
        SharedState.installed, hLock]
      rfl
  | dropGuard lock hLock _ =>
      left
      rw [SharedState.installed_withLock,
        SharedState.installed, hLock]
      rfl
  | _ => exact .inl rfl

theorem Exec.installed_of_not_assigned
    (hExec : Exec json thread before call after)
    (hCall : ∀ update,
      call ≠ ⟨.writeStore update, .assigned⟩) :
    after.installed = before.installed := by
  rcases hExec.installed_cases with
    hSame | ⟨update, _, _, hAssigned, _⟩
  · exact hSame
  · exact absurd hAssigned (hCall update)

/- No call changes the store directory. -/
theorem Exec.files_eq
    (hExec : Exec json thread before call after) :
    after.files = before.files := by
  cases hExec <;> rfl

theorem Unwind.files_eq
    {op : GatewayOp}
    (hUnwind : Unwind thread before op after) :
    after.files = before.files := by
  cases hUnwind
  rfl

/- A load is a load of the present files. -/
theorem Exec.loadFromDir_reply
    {storeDir : Path}
    {reply : Except StoreLoadError PreparedContentStore}
    (hExec :
      Exec json thread before
        ⟨.loadFromDir storeDir, reply⟩ after) :
    after = before ∧
      ∃ now,
        InClockRange now ∧
          reply = loadFrom json storeDir before.files now := by
  cases hExec with
  | loadFromDir _ now hRange => exact ⟨rfl, now, hRange, rfl⟩

/- A store that was assigned is installed. -/
theorem Exec.assigned_installed
    {loaded : PreparedContentStore}
    (hExec :
      Exec json thread before
        ⟨.writeStore (assignUnlessLower loaded), .assigned⟩
        after) :
    after.installed = some loaded := by
  cases hExec with
  | assign lock _ store _ _ _ hUpdate =>
      rw [assignUnlessLower] at hUpdate
      split at hUpdate
      · cases hUpdate
      · exact hUpdate ▸ rfl

/- A read yields the installed store of a clean lock. -/
theorem Exec.readStore_reply
    {snapshot : Option PreparedContentStore}
    (hExec :
      Exec json thread before ⟨.readStore, snapshot⟩
        after) :
    ∃ lock,
      before.lock = some lock ∧
        snapshot =
          if lock.poisoned then none
          else some lock.installed := by
  cases hExec with
  | readStore lock hLock _ hClean =>
      exact ⟨lock, hLock, by simp [hClean]⟩
  | readPoisoned lock hLock _ hPoisoned =>
      exact ⟨lock, hLock, by simp [hPoisoned]⟩

theorem Exec.nowUnixSeconds_reply
    {now : Int}
    (hExec :
      Exec json thread before ⟨.nowUnixSeconds, now⟩
        after) :
    InClockRange now := by
  cases hExec with
  | nowUnixSeconds _ hRange => exact hRange

/- No call poisons the lock. -/
theorem Exec.poisoned_iff
    (hExec : Exec json thread before call after) :
    (∃ lock, after.lock = some lock ∧ lock.poisoned) ↔
      ∃ lock, before.lock = some lock ∧ lock.poisoned := by
  cases hExec with
  | assign lock _ _ hLock _ hClean _ =>
      simp [SharedState.withLock, hLock]
  | returnEarly lock _ hLock _ _ _
  | writePoisoned lock _ hLock _ _ =>
      simp [SharedState.withLock, hLock]
  | dropGuard lock hLock _ =>
      simp [SharedState.withLock, hLock]
  | _ => rfl

theorem Unwind.installed_eq
    {op : GatewayOp}
    (hUnwind : Unwind thread before op after) :
    after.installed = before.installed := by
  cases hUnwind
  cases hLock : before.lock <;>
    simp [SharedState.installed, hLock]

end System

end AjarGateway
