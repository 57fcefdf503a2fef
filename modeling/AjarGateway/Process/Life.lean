import AjarGateway.Process.Shutdown
import AjarGateway.Serving.Reference

/-
  The whole life of the process: its launch, its two
  servers, and its exit.

  The main task performs the launch; its operation that
  serves spawns the servers and returns when they are joined
  again.  The calls of the main task and the events of the
  servers are interleaved in any order.

  Key definitions include:
    * `Process.Life`
    * `Process.LifeStep`
    * `Process.LifeFollows`

  Key theorems include:
    * `Process.follows_of_trace`
    * `Process.serves_only_launched`
    * `Process.exit_explained`
    * `Process.shutdown_completes`
-/

------------------------------------------------------------
-- The Process
------------------------------------------------------------

namespace AjarGateway

namespace Process

open Interleaving Store

inductive MainTask where
  | running (program : Program launchSignature ExitCode)
  | panicked

/- The main task, and the servers once they are spawned. -/
structure Life (crates : Crates) where
  main : MainTask
  servers : Option (Servers crates signalSignature)

def Life.initial
    (crates : Crates)
    (lib : LaunchExternals)
    (args : List OsString)
    (envPath : Option OsString) : Life crates where
  main := .running (Process.main lib args envPath)
  servers := none

inductive LifeEvent where
  | call (call : Call launchSignature)
  | spawn
  | server (event : ServersEvent signalSignature)
  | panic

/-
  The steps of the process.  A call may be given any reply,
  but serving returns only what the servers are joined with.
  Writing a log line may panic.
-/
inductive LifeStep {crates : Crates} :
    Life crates → LifeEvent → Life crates → Prop where
  | call
      (servers : Option (Servers crates signalSignature))
      (op : LaunchOp)
      (next :
        op.Reply → Program launchSignature ExitCode)
      (reply : op.Reply)
      (hOp : ∀ state store, op ≠ .serve state store) :
      LifeStep ⟨.running (.call op next), servers⟩
        (.call ⟨op, reply⟩)
        ⟨.running (next reply), servers⟩
  | spawn
      (state : Serving.ProxyState)
      (store : Option PreparedContentStore)
      (next :
        Except ServeError Unit →
          Program launchSignature ExitCode) :
      LifeStep
        ⟨.running (.call (.serve state store) next), none⟩
        .spawn
        ⟨.running (.call (.serve state store) next),
          some (.initial crates shutdownSignal)⟩
  | server
      (op : LaunchOp)
      (next :
        op.Reply → Program launchSignature ExitCode)
      (servers servers' : Servers crates signalSignature)
      (event : ServersEvent signalSignature)
      (hStep : ServersStep servers event servers') :
      LifeStep ⟨.running (.call op next), some servers⟩
        (.server event)
        ⟨.running (.call op next), some servers'⟩
  | join
      (state : Serving.ProxyState)
      (store : Option PreparedContentStore)
      (next :
        Except ServeError Unit →
          Program launchSignature ExitCode)
      (servers : Servers crates signalSignature)
      (result : Except ServeError Unit)
      (hJoined :
        crates.tasks.tryJoin servers.returned result) :
      LifeStep
        ⟨.running (.call (.serve state store) next),
          some servers⟩
        (.call ⟨.serve state store, result⟩)
        ⟨.running (next result), some servers⟩
  | panic
      (servers : Option (Servers crates signalSignature))
      (line : Serving.LogLine)
      (next : Unit → Program launchSignature ExitCode) :
      LifeStep ⟨.running (.call (.eprintln line) next),
          servers⟩
        .panic ⟨.panicked, servers⟩

end Process

end AjarGateway

------------------------------------------------------------
-- What A Life Consists Of
------------------------------------------------------------

namespace AjarGateway

namespace Process

open Interleaving Store

/- The calls of the main task. -/
def launchCalls
    (events : List LifeEvent) : List (Call launchSignature) :=
  events.filterMap fun
    | .call call => some call
    | _ => none

/- The events of the servers. -/
def serverEvents
    (events : List LifeEvent) :
    List (ServersEvent signalSignature) :=
  events.filterMap fun
    | .server event => some event
    | _ => none

@[simp] theorem launchCalls_call
    (call : Call launchSignature) :
    launchCalls [.call call] = [call] :=
  rfl

@[simp] theorem launchCalls_server
    (event : ServersEvent signalSignature) :
    launchCalls [.server event] = [] :=
  rfl

@[simp] theorem launchCalls_spawn
    (events : List LifeEvent) :
    launchCalls (.spawn :: events) = launchCalls events :=
  rfl

@[simp] theorem launchCalls_panic :
    launchCalls [.panic] = [] :=
  rfl

@[simp] theorem serverEvents_call
    (call : Call launchSignature) :
    serverEvents [.call call] = [] :=
  rfl

@[simp] theorem serverEvents_server
    (event : ServersEvent signalSignature) :
    serverEvents [.server event] = [event] :=
  rfl

@[simp] theorem serverEvents_spawn
    (events : List LifeEvent) :
    serverEvents (.spawn :: events) =
      serverEvents events :=
  rfl

@[simp] theorem serverEvents_panic :
    serverEvents [.panic] = [] :=
  rfl

@[simp] theorem launchCalls_append
    (first second : List LifeEvent) :
    launchCalls (first ++ second) =
      launchCalls first ++ launchCalls second :=
  List.filterMap_append

@[simp] theorem serverEvents_append
    (first second : List LifeEvent) :
    serverEvents (first ++ second) =
      serverEvents first ++ serverEvents second :=
  List.filterMap_append

@[simp] theorem mem_launchCalls_iff
    (events : List LifeEvent)
    (call : Call launchSignature) :
    call ∈ launchCalls events ↔ .call call ∈ events := by
  rw [launchCalls, List.mem_filterMap]
  constructor
  · rintro ⟨event, hEvent, hCall⟩
    cases event with
    | call found =>
        cases hCall
        exact hEvent
    | spawn => cases hCall
    | server event => cases hCall
    | panic => cases hCall
  · intro hCall
    exact ⟨.call call, hCall, rfl⟩

@[simp] theorem mem_serverEvents_iff
    (events : List LifeEvent)
    (event : ServersEvent signalSignature) :
    event ∈ serverEvents events ↔ .server event ∈ events := by
  rw [serverEvents, List.mem_filterMap]
  constructor
  · rintro ⟨found, hFound, hEvent⟩
    cases found with
    | server found =>
        cases hEvent
        exact hFound
    | spawn => cases hEvent
    | call call => cases hEvent
    | panic => cases hEvent
  · intro hEvent
    exact ⟨.server event, hEvent, rfl⟩

@[simp] theorem launchCalls_calls
    (calls : List (Call launchSignature)) :
    launchCalls (calls.map .call) = calls := by
  rw [launchCalls, List.filterMap_map]
  exact List.filterMap_some

@[simp] theorem serverEvents_calls
    (calls : List (Call launchSignature)) :
    serverEvents (calls.map .call) = [] := by
  rw [serverEvents, List.filterMap_map]
  exact List.filterMap_eq_nil_iff.mpr fun _ _ => rfl

variable {crates : Crates}

/- The main task has performed these calls of a program. -/
def MainTask.Follows
    (program : Program launchSignature ExitCode)
    (calls : List (Call launchSignature)) :
    MainTask → Prop
| .running rest => Performs program calls rest
| .panicked => ∃ rest, Performs program calls rest

/- What the servers had returned, they still have. -/
def Later
    {S : Interleaving.Signature}
    (joined servers : Servers crates S) : Prop :=
  ∀ party result,
    (joined.server party).result = some result →
      (servers.server party).result = some result

theorem Later.step
    {S : Interleaving.Signature}
    {joined servers next : Servers crates S}
    {event : ServersEvent S}
    (hLater : Later joined servers)
    (hStep : ServersStep servers event next) :
    Later joined next :=
  fun party result hResult =>
    hStep.result (hLater party result hResult)

/- The servers were joined with this result. -/
def JoinedWith
    {S : Interleaving.Signature}
    (servers : Servers crates S)
    (result : Except ServeError Unit) : Prop :=
  ∃ joined : Servers crates S,
    crates.tasks.tryJoin joined.returned result ∧
      Later joined servers

theorem JoinedWith.step
    {S : Interleaving.Signature}
    {servers next : Servers crates S}
    {event : ServersEvent S}
    {result : Except ServeError Unit}
    (hJoined : JoinedWith servers result)
    (hStep : ServersStep servers event next) :
    JoinedWith next result := by
  rcases hJoined with ⟨joined, hResult, hLater⟩
  exact ⟨joined, hResult, hLater.step hStep⟩

/-
  The life so far: a launch, and after it, if it came to
  serve, the servers from their spawning on.
-/
inductive LifeFollows
    (lib : LaunchExternals)
    (args : List OsString)
    (envPath : Option OsString) :
    List LifeEvent → Life crates → Prop where
  | launching
      (calls : List (Call launchSignature))
      (rest : Program launchSignature ExitCode)
      (hPerforms :
        Performs (main lib args envPath) calls rest)
      (hNever : NoServe calls) :
      LifeFollows lib args envPath (calls.map .call)
        ⟨.running rest, none⟩
  | crashed (calls : List (Call launchSignature)) :
      LifeFollows lib args envPath
        (calls.map .call ++ [.panic]) ⟨.panicked, none⟩
  | serving
      (calls : List (Call launchSignature))
      (state : Serving.ProxyState)
      (store : Option PreparedContentStore)
      (next :
        Except ServeError Unit →
          Program launchSignature ExitCode)
      (events : List LifeEvent)
      (task : MainTask)
      (servers : Servers crates signalSignature)
      (hPerforms :
        Performs (main lib args envPath) calls
          (.call (.serve state store) next))
      (hTask :
        task.Follows (.call (.serve state store) next)
          (launchCalls events))
      (hTrace :
        Trace ServersStep (.initial crates shutdownSignal)
          (serverEvents events) servers)
      (hJoined : ∀ state store result,
        .call ⟨.serve state store, result⟩ ∈ events →
          JoinedWith servers result) :
      LifeFollows lib args envPath
        (calls.map .call ++ .spawn :: events)
        ⟨task, some servers⟩

variable {lib : LaunchExternals}
variable {args : List OsString} {envPath : Option OsString}
variable {events : List LifeEvent} {life : Life crates}

theorem follows_initial :
    LifeFollows lib args envPath []
      (.initial crates lib args envPath) :=
  .launching [] _ (.done _) noServe_nil

/- The main task makes one more call. -/
theorem LifeFollows.call
    {next : Life crates}
    {servers : Option (Servers crates signalSignature)}
    {op : LaunchOp}
    {rest : op.Reply → Program launchSignature ExitCode}
    {reply : op.Reply}
    (hFollows :
      LifeFollows lib args envPath events
        ⟨.running (.call op rest), servers⟩)
    (hServe : ∀ state store result,
      (⟨op, reply⟩ : Call launchSignature) =
          ⟨.serve state store, result⟩ →
        ∃ joined,
          servers = some joined ∧ JoinedWith joined result)
    (hNext : next = ⟨.running (rest reply), servers⟩)
    (hSpawned :
      servers = none → ∀ state store,
        op ≠ .serve state store) :
    LifeFollows lib args envPath
      (events ++ [.call ⟨op, reply⟩]) next := by
  subst hNext
  cases hFollows with
  | launching calls rest hPerforms hNever =>
      have hMore :=
        (noServe_append_iff calls [⟨op, reply⟩]).mpr
          ⟨hNever, noServe_cons (hSpawned rfl) noServe_nil⟩
      simpa using LifeFollows.launching _ _
        (hPerforms.snoc reply) hMore
  | serving calls state store next events task servers
      hPerforms hTask hTrace hJoined =>
      have hMore :
          LifeFollows lib args envPath
            (calls.map .call ++ .spawn ::
              (events ++ [.call ⟨op, reply⟩]))
            ⟨.running (rest reply), some servers⟩ := by
        refine .serving calls state store next _ _ servers
          hPerforms ?_ (by simpa using hTrace) ?_
        · have hSnoc := Performs.snoc hTask reply
          simpa [MainTask.Follows] using hSnoc
        · intro state store result hCall
          simp only [List.mem_append, List.mem_singleton,
            LifeEvent.call.injEq] at hCall
          rcases hCall with hCall | hCall
          · exact hJoined state store result hCall
          · rcases hServe state store result hCall.symm with
              ⟨joined, hSame, hResult⟩
            cases hSame
            exact hResult
      simpa using hMore

theorem LifeFollows.step
    {next : Life crates}
    {event : LifeEvent}
    (hFollows : LifeFollows lib args envPath events life)
    (hStep : LifeStep life event next) :
    LifeFollows lib args envPath (events ++ [event])
      next := by
  cases hStep with
  | call servers op rest reply hOp =>
      apply hFollows.call _ rfl (fun _ => hOp)
      intro state store result hCall
      cases hCall
      exact absurd rfl (hOp state store)
  | spawn state store rest =>
      cases hFollows with
      | launching calls program hPerforms hNever =>
          exact .serving calls state store rest [] _ _
            hPerforms (.done _) .nil (by simp)
  | server op rest servers servers' event hStep =>
      cases hFollows with
      | serving calls state store next events task first
          hPerforms hTask hTrace hJoined =>
          have hMore :
              LifeFollows lib args envPath
                (calls.map .call ++ .spawn ::
                  (events ++ [.server event]))
                ⟨.running (.call op rest),
                  some servers'⟩ := by
            refine .serving calls state store next _ _ _
              hPerforms ?_ ?_ ?_
            · simpa using hTask
            · rw [serverEvents_append]
              exact .snoc hTrace hStep
            · intro state store result hCall
              have hEarlier :
                  .call ⟨.serve state store, result⟩ ∈
                    events := by
                simpa using hCall
              exact (hJoined _ _ _ hEarlier).step hStep
          simpa using hMore
  | join state store rest servers result hJoined =>
      apply hFollows.call _ rfl (by simp)
      intro state store found hCall
      cases hCall
      exact ⟨servers, rfl, servers, hJoined, fun _ _ => id⟩
  | panic servers line rest =>
      cases hFollows with
      | launching calls program hPerforms hNever =>
          exact .crashed calls
      | serving calls state store next events task first
          hPerforms hTask hTrace hJoined =>
          have hMore :
              LifeFollows lib args envPath
                (calls.map .call ++ .spawn ::
                  (events ++ [.panic]))
                ⟨.panicked, some first⟩ := by
            refine .serving calls state store next _ _ _
              hPerforms ?_ (by simpa using hTrace)
              (by simpa using hJoined)
            exact ⟨_, by
              simpa [MainTask.Follows] using hTask⟩
          simpa using hMore

theorem follows_of_trace
    (hTrace :
      Trace LifeStep (.initial crates lib args envPath) events
        life) :
    LifeFollows lib args envPath events life :=
  hTrace.invariant (LifeFollows lib args envPath)
    follows_initial fun _ _ _ _ hFollows hStep =>
      hFollows.step hStep

end Process

end AjarGateway

------------------------------------------------------------
-- Calls And Steps One After Another
------------------------------------------------------------

namespace AjarGateway

namespace Process

open Interleaving Store

variable {crates : Crates}
variable {lib : LaunchExternals}
variable {args : List OsString} {envPath : Option OsString}
variable {events : List LifeEvent} {life : Life crates}

/- The main task can make these calls one after another. -/
theorem trace_of_performs
    {program rest : Program launchSignature ExitCode}
    {calls : List (Call launchSignature)}
    (servers : Option (Servers crates signalSignature))
    (hPerforms : Performs program calls rest)
    (hNever : NoServe calls) :
    Trace LifeStep ⟨.running program, servers⟩
      (calls.map .call) ⟨.running rest, servers⟩ := by
  induction hPerforms with
  | done program => exact .nil
  | @step op next reply calls rest tail ih =>
      rw [NoServe, List.forall_mem_cons] at hNever
      have hFirst :=
        LifeStep.call servers op next reply hNever.1
      exact .append (.snoc .nil hFirst) (ih hNever.2)

/- The task may await all that its future performs. -/
theorem trace_of_awaits
    {S : Interleaving.Signature}
    (servers : Servers crates S)
    {program rest : Program S Unit}
    {calls : List (Call S)}
    (hPerforms : Performs program calls rest)
    (hWaiter : servers.waiter = .awaiting program) :
    ∃ last,
      Trace ServersStep servers
        (calls.map fun call => .waiter (.await call))
        last := by
  induction hPerforms generalizing servers with
  | done program => exact ⟨servers, .nil⟩
  | @step op next reply calls rest tail ih =>
      have hStep :
          WaiterStep crates servers.hasReceiver
            servers.waiter servers.channel
            (.await ⟨op, reply⟩) (.awaiting (next reply))
            servers.channel := by
        rw [hWaiter]
        exact .await _ op next reply
      have hFirst := ServersStep.waiter servers _ _ _ hStep
      rcases ih
          { servers with waiter := .awaiting (next reply) }
          rfl with
        ⟨last, hTail⟩
      exact ⟨last, .append (.snoc .nil hFirst) hTail⟩

/- The servers may take steps while they are being served. -/
theorem trace_of_servers
    {servers last : Servers crates signalSignature}
    {steps : List (ServersEvent signalSignature)}
    (op : LaunchOp)
    (next : op.Reply → Program launchSignature ExitCode)
    (hTrace : Trace ServersStep servers steps last) :
    Trace LifeStep ⟨.running (.call op next), some servers⟩
      (steps.map .server)
      ⟨.running (.call op next), some last⟩ := by
  induction hTrace with
  | nil => exact .nil
  | snoc hTrace hStep ih =>
      rw [List.map_append]
      exact .snoc ih (.server op next _ _ _ hStep)

end Process

end AjarGateway

------------------------------------------------------------
-- A Sample Launch
------------------------------------------------------------

namespace AjarGateway

namespace Process

open Interleaving Store Serving

/- The sample configuration, with its limits by default. -/
def sampleFile : ConfigFile where
  originUrl := "http://127.0.0.1:3000"
  listenAddr := "127.0.0.1:8080"
  adminAddr := "127.0.0.1:9090"
  requestTimeoutMs := none
  maxBodyBytes := none
  storeDir := some sampleDir

def sampleToml : String :=
  "origin_url = \"http://127.0.0.1:3000\"\n" ++
    "listen_addr = \"127.0.0.1:8080\"\n" ++
      "admin_addr = \"127.0.0.1:9090\"\n" ++
        "store_dir = \"store\"\n"

def sampleLib : LaunchExternals where
  toExternals := sampleExt
  toml := fun contents =>
    if contents = sampleToml then some sampleFile else none

def samplePath : Path :=
  Rust.utf8 "gateway.toml"

def sampleArgs : List OsString :=
  [Rust.utf8 "ajar-gateway", configFlag, samplePath]

/- The calls that load the sample store. -/
def sampleLoadCalls : List (Call hostSignature) :=
  (loadFromDir sampleExt.json sampleDir).run.callsWith
    ((samplePageFiles "Old").reply sampleNow)

def sampleLaunchCalls : List (Call launchSignature) :=
  ⟨.readToString samplePath, .ok sampleToml⟩ ::
    startingCall samplePath ::
      (sampleLoadCalls.map hostCall ++
        [⟨.bind sampleValid.listenAddr, .ok ()⟩,
          ⟨.bind sampleValid.adminAddr, .ok ()⟩])

theorem sample_args :
    parseConfigPath (sampleArgs.drop 1) none =
      .ok samplePath :=
  parseConfigPath_of_reads
    (.accepted [samplePath] samplePath rfl)

theorem sampleFile_config : sampleFile.config = sampleConfig :=
  rfl

theorem sample_launched :
    Launched sampleLib sampleArgs none sampleLaunchCalls
      sampleState (some (samplePage "Old")) := by
  have hToml :
      sampleLib.toml sampleToml = some sampleFile := by
    simp [sampleLib]
  have hValid :
      sampleFile.config.validate sampleLib.http =
        .ok sampleValid := by
    rw [sampleFile_config]
    exact sample_validate
  have hLoad :=
    performs_callsWith
      ((samplePageFiles "Old").reply sampleNow)
      (loadFromDir sampleExt.json sampleDir).run
  have hStore :
      (loadFromDir sampleExt.json sampleDir).run.answerWith
          ((samplePageFiles "Old").reply sampleNow) =
        .ok (samplePage "Old") :=
    samplePage_old_loads
  rw [hStore] at hLoad
  exact .intro samplePath sampleToml sampleFile sampleValid
    _ _ sample_args hToml hValid
    (.loaded sampleDir _ _ hLoad)

/- A client connects, and the process is told to stop. -/
def sampleSteps : List (ServersEvent signalSignature) :=
  [.party .proxy (.served .accept),
    .waiter (.await ⟨SignalOp.terminateHandler, .ok ()⟩),
    .waiter (.await ⟨SignalOp.ctrlCOrTerminate, none⟩)]

theorem sample_servers :
    ∃ servers,
      Trace ServersStep
        (.initial Crates.reference shutdownSignal)
        sampleSteps servers := by
  have hAccept :
      ∃ connected,
        ServersStep
            (.initial Crates.reference shutdownSignal)
            (.party .proxy (.served .accept)) connected ∧
          connected.waiter = .awaiting shutdownSignal :=
    ⟨_, .party _ .proxy _ _ (.served _ .accept _ (.accept 0)),
      rfl⟩
  rcases hAccept with ⟨connected, hFirst, hWaiter⟩
  have hSignal :
      Performs shutdownSignal
        [⟨SignalOp.terminateHandler, .ok ()⟩,
          ⟨SignalOp.ctrlCOrTerminate, none⟩]
        (.ret ()) :=
    .step (.step (.done _))
  rcases trace_of_awaits connected hSignal hWaiter with
    ⟨servers, hAwaits⟩
  exact ⟨servers, .append (.snoc .nil hFirst) hAwaits⟩

theorem sample_signalled :
    Signalled shutdownSignal sampleSteps :=
  .inl (.step (.step (.done _)))

def sampleEvents : List LifeEvent :=
  sampleLaunchCalls.map .call ++ [.spawn] ++
    sampleSteps.map .server

theorem sample_serverEvents :
    serverEvents sampleEvents = sampleSteps := by
  rw [sampleEvents, serverEvents_append,
    serverEvents_append, serverEvents_calls]
  rfl

theorem sample_life :
    ∃ next servers,
      Performs (main sampleLib sampleArgs none)
          sampleLaunchCalls
          (.call
            (.serve sampleState (some (samplePage "Old")))
            next) ∧
        Trace ServersStep
          (.initial Crates.reference shutdownSignal)
          sampleSteps servers ∧
        Trace LifeStep
          (.initial .reference sampleLib sampleArgs none)
          sampleEvents
          ⟨.running
            (.call
              (.serve sampleState (some (samplePage "Old")))
              next),
            some servers⟩ := by
  rcases (serve_iff_launched _ _).mpr sample_launched with
    ⟨next, hPerforms⟩
  rcases sample_servers with ⟨servers, hServers⟩
  have hCalls :
      Trace LifeStep
        (.initial .reference sampleLib sampleArgs none)
        (sampleLaunchCalls.map .call) _ :=
    trace_of_performs none hPerforms sample_launched.noServe
  have hSteps :=
    trace_of_servers
      (.serve sampleState (some (samplePage "Old"))) next
      hServers
  exact ⟨next, servers, hPerforms, hServers,
    .append (.snoc hCalls (.spawn _ _ next)) hSteps⟩

end Process

end AjarGateway

------------------------------------------------------------
-- Nothing Is Served Before It Is Launched
------------------------------------------------------------

namespace AjarGateway

namespace Process

open Interleaving Store

variable {crates : Crates}
variable {lib : LaunchExternals}
variable {args : List OsString} {envPath : Option OsString}
variable {events : List LifeEvent} {life : Life crates}

/-
  The servers do nothing, and accept nothing, before the
  launch has succeeded: the configuration was read and
  accepted, the store loaded, and both addresses bound, in
  this order and with nothing in between.  If the files
  stayed as they are while they were loaded, the gateway
  has started with them.
-/
theorem serves_only_launched
    {event : ServersEvent signalSignature}
    (hTrace :
      Trace LifeStep (.initial crates lib args envPath) events
        life)
    (hEvent : .server event ∈ events) :
    ∃ calls state store rest,
      events = calls.map .call ++ .spawn :: rest ∧
        Launched lib args envPath calls state store ∧
          ∀ files now,
            InClockRange now →
              (∀ call, hostCall call ∈ calls →
                call.reply = files.reply now call.op) →
                ∃ config,
                  System.Started lib.toExternals config
                    files state
                      (System.initialState store files) := by
  have hFollows := follows_of_trace hTrace
  cases hFollows with
  | launching calls rest hPerforms hNever =>
      simp at hEvent
  | crashed calls => simp at hEvent
  | serving calls state store next rest task servers
      hPerforms hTask hServers hJoined =>
      have hLaunched := launched_of_serve hPerforms
      refine ⟨calls, state, store, rest, rfl, hLaunched, ?_⟩
      intro files now hRange hReplies
      exact hLaunched.started hRange hReplies

/- The client of the sample connects to what is launched. -/
theorem serves_only_launched_sample :
    ∃ (calls : List (Call launchSignature))
      (state : Serving.ProxyState)
      (store : Option PreparedContentStore)
      (rest : List LifeEvent),
      sampleEvents = calls.map .call ++ .spawn :: rest ∧
        Launched sampleLib sampleArgs none calls state
          store := by
  rcases sample_life with ⟨next, servers, _, _, hTrace⟩
  have hAccept :
      .server (.party .proxy (.served .accept)) ∈
        sampleEvents := by
    simp [sampleEvents, sampleSteps]
  rcases serves_only_launched hTrace hAccept with
    ⟨calls, state, store, rest, hEvents, hLaunched, _⟩
  exact ⟨calls, state, store, rest, hEvents, hLaunched⟩

end Process

end AjarGateway

------------------------------------------------------------
-- Once Joined, The Process Exits
------------------------------------------------------------

namespace AjarGateway

namespace Process

open Interleaving Store

variable {crates : Crates}
variable {lib : LaunchExternals}
variable {args : List OsString} {envPath : Option OsString}
variable {events : List LifeEvent} {life : Life crates}

theorem returned_eq_some_iff
    {S : Interleaving.Signature}
    (servers : Servers crates S)
    (party : Party)
    (result : Except ServeError Unit) :
    servers.returned party = some result ↔
      ∃ returned,
        (servers.server party).result = some returned ∧
          returned.mapError (serverError party) = result := by
  simp [Servers.returned]

/- Servers joined without an error have succeeded. -/
theorem JoinedWith.succeeded
    {S : Interleaving.Signature}
    {servers : Servers crates S}
    (hTasks : crates.tasks.Documented)
    (hJoined : JoinedWith servers (.ok ()))
    (party : Party) :
    (servers.server party).result = some (.ok ()) := by
  rcases hJoined with ⟨joined, hResult, hLater⟩
  have hReturned := hTasks.tryJoin_ok _ hResult party
  rw [returned_eq_some_iff] at hReturned
  rcases hReturned with ⟨returned, hServer, hOk⟩
  apply hLater
  cases returned with
  | ok value => exact hServer
  | error kind => cases hOk

/- An error of the join is that of one of the servers. -/
theorem JoinedWith.error_cases
    {S : Interleaving.Signature}
    {servers : Servers crates S}
    {error : ServeError}
    (hTasks : crates.tasks.Documented)
    (hJoined : JoinedWith servers (.error error)) :
    ∃ party kind,
      error = serverError party kind ∧
        (servers.server party).result =
          some (.error kind) := by
  rcases hJoined with ⟨joined, hResult, hLater⟩
  rcases hTasks.tryJoin_error _ error hResult with
    ⟨party, hReturned⟩
  rw [returned_eq_some_iff] at hReturned
  rcases hReturned with ⟨returned, hServer, hError⟩
  cases returned with
  | ok value => cases hError
  | error kind =>
      cases hError
      exact ⟨party, kind, rfl, hLater party _ hServer⟩

/- Servers that have both returned can be joined. -/
theorem exists_joined
    {S : Interleaving.Signature}
    {servers : Servers crates S}
    (hTasks : crates.tasks.Documented)
    (hEnded : servers.Ended) :
    ∃ result, crates.tasks.tryJoin servers.returned result :=
  hTasks.tryJoin_ready _ fun party => by
    simpa [Servers.returned] using hEnded party

/- Servers that have not failed are joined without error. -/
theorem JoinedWith.eq_ok
    {steps : List (ServersEvent signalSignature)}
    {servers : Servers crates signalSignature}
    {result : Except ServeError Unit}
    (hTasks : crates.tasks.Documented)
    (hTrace :
      Trace ServersStep (.initial crates shutdownSignal) steps
        servers)
    (hJoined : JoinedWith servers result)
    (hSound : ∀ party kind,
      .party party (.returns (.error kind)) ∉ steps) :
    result = .ok () := by
  cases result with
  | ok value => rfl
  | error error =>
      rcases hJoined.error_cases hTasks with
        ⟨party, kind, _, hResult⟩
      exact absurd (returns_of_trace hTrace rfl hResult)
        (hSound party kind)

/- After serving, only log lines are left to write. -/
theorem exists_finish
    {program : Program launchSignature ExitCode}
    {past : List (Call launchSignature)}
    (hMeets :
      program.Meets (ServesLaunched lib args envPath)
        (ServesOnce lib args envPath) past)
    (hServed : ¬NoServe past) :
    ∃ calls code,
      Performs program calls (.ret code) ∧
        NoServe calls ∧
          ServesOnce lib args envPath (past ++ calls)
            code := by
  induction program generalizing past with
  | ret code =>
      exact ⟨[], code, .done _, noServe_nil, by
        simpa using hMeets⟩
  | call op next ih =>
      have hOp : ∀ state store,
          op ≠ .serve state store := by
        intro state store hServe
        exact hServed (hMeets.1 state store hServe).noServe
      have hLater :
          ¬NoServe (past ++ [⟨op, LaunchOp.refusal op⟩]) :=
        fun hNone =>
          hServed ((noServe_append_iff _ _).mp hNone).1
      rcases ih _ (hMeets.2 (LaunchOp.refusal op)) hLater
        with ⟨calls, code, hPerforms, hNone, hOnce⟩
      refine ⟨⟨op, LaunchOp.refusal op⟩ :: calls, code,
        .step hPerforms, noServe_cons hOp hNone, ?_⟩
      simpa using hOnce

/- A launch whose servers have stopped exits with success. -/
theorem ServesOnce.success
    {calls : List (Call launchSignature)}
    {code : ExitCode}
    {state : Serving.ProxyState}
    {store : Option PreparedContentStore}
    (hOnce : ServesOnce lib args envPath calls code)
    (hServed : ⟨.serve state store, .ok ()⟩ ∈ calls) :
    code = .success := by
  cases hOnce with
  | stopped before state' store' hLaunched => rfl
  | never before error hNever =>
      have hNone :=
        (noServe_append_iff before
          [failedCall error]).mpr
            ⟨hNever, noServe_cons (by simp [failedCall])
              noServe_nil⟩
      exact absurd rfl (hNone _ hServed state store)
  | failed before state' store' error hLaunched =>
      simp only [List.mem_append, List.mem_cons,
        List.not_mem_nil, or_false] at hServed
      rcases hServed with hServed | hServed | hServed
      · exact absurd rfl
          (hLaunched.noServe _ hServed state store)
      · cases hServed
      · cases hServed

/- Once the servers are joined, the process can exit. -/
theorem exists_exit
    {program : Program launchSignature ExitCode}
    {past : List (Call launchSignature)}
    {state : Serving.ProxyState}
    {store : Option PreparedContentStore}
    {result : Except ServeError Unit}
    (servers : Option (Servers crates signalSignature))
    (hPerforms :
      Performs (main lib args envPath) past program)
    (hServed : ⟨.serve state store, result⟩ ∈ past) :
    ∃ (calls : List (Call launchSignature)) (code : ExitCode),
      Trace LifeStep ⟨.running program, servers⟩
          (calls.map .call) ⟨.running (.ret code), servers⟩ ∧
        (result = .ok () → code = .success) := by
  have hNotNone : ¬NoServe past := fun hNone =>
    hNone _ hServed state store rfl
  rcases exists_finish (hPerforms.meets meets_main)
      hNotNone with
    ⟨calls, code, hFinish, hNone, hOnce⟩
  refine ⟨calls, code,
    trace_of_performs servers hFinish hNone, ?_⟩
  rintro rfl
  exact hOnce.success (List.mem_append_left _ hServed)

/-
  Once the signal has come, the servers can end and be
  joined, and the process can exit.
-/
theorem exists_shutdown
    {calls : List (Call launchSignature)}
    {state : Serving.ProxyState}
    {store : Option PreparedContentStore}
    {next :
      Except ServeError Unit →
        Program launchSignature ExitCode}
    {steps : List (ServersEvent signalSignature)}
    {servers : Servers crates signalSignature}
    (hCrates : crates.Documented)
    (hPerforms :
      Performs (main lib args envPath) calls
        (.call (.serve state store) next))
    (hServers :
      Trace ServersStep (.initial crates shutdownSignal) steps
        servers)
    (hSignalled : Signalled shutdownSignal steps) :
    ∃ more last code,
      Trace LifeStep
          ⟨.running (.call (.serve state store) next),
            some servers⟩
          more last ∧
        last.main = .running (.ret code) ∧
          (∀ event ∈ serverEvents more,
            event.isClosing = true) ∧
            ((∀ party kind,
                .party party (.returns (.error kind)) ∉
                  steps) →
              code = .success) := by
  have hOrderly := orderly_of_trace hCrates hServers
  have hDue := isDue_of_signalled hServers hSignalled
  rcases exists_ended hCrates hOrderly hDue with
    ⟨closing, last, hSteps, hClosing, hEnded⟩
  rcases exists_joined hCrates.tasks hEnded with
    ⟨result, hResult⟩
  have hJoined : JoinedWith last result :=
    ⟨last, hResult, fun _ _ => id⟩
  rcases exists_exit (some last)
      (Performs.snoc hPerforms result)
      (List.mem_append_right _ List.mem_cons_self) with
    ⟨finish, code, hExit, hCode⟩
  have hJoin :=
    LifeStep.join state store next last result hResult
  refine ⟨_, _, code,
    .append (.snoc (trace_of_servers _ _ hSteps) hJoin)
      hExit, rfl, ?_, ?_⟩
  · simpa using hClosing
  · intro hSound
    apply hCode
    apply hJoined.eq_ok hCrates.tasks
      (hServers.append hSteps)
    intro party kind hFail
    rcases List.mem_append.mp hFail with hFail | hFail
    · exact hSound party kind hFail
    · exact ServersEvent.not_error_of_isClosing
        (hClosing _ hFail) rfl

end Process

end AjarGateway

------------------------------------------------------------
-- The Process Can Always Exit
------------------------------------------------------------

namespace AjarGateway

namespace Process

open Interleaving Store

variable {crates : Crates}
variable {lib : LaunchExternals}
variable {args : List OsString} {envPath : Option OsString}
variable {events : List LifeEvent} {life : Life crates}

/-
  The signal is never lost.  However many connections come
  and go, the waiting task and the futures of the servers
  take a bounded number of steps; and once the signal has
  come, the process can exit without anything else from
  outside than the end of connections.  It exits with
  success unless a server had failed by then.
-/
theorem shutdown_completes
    {program : Program launchSignature ExitCode}
    (hCrates : crates.Documented)
    (hTrace :
      Trace LifeStep (.initial crates lib args envPath) events
        life)
    (hMain : life.main = .running program)
    (hSignalled :
      Signalled shutdownSignal (serverEvents events)) :
    (serverEvents events).countP ServersEvent.isInternal ≤
        19 ∧
      ∃ more last code,
        Trace LifeStep life more last ∧
          last.main = .running (.ret code) ∧
          (∀ event ∈ serverEvents more,
            event.isClosing = true) ∧
          ((∀ party kind,
              .server (.party party (.returns (.error kind))) ∉
                events) →
            code = .success) := by
  have hFollows := follows_of_trace hTrace
  cases hFollows with
  | launching calls rest hPerforms hNever =>
      rw [serverEvents_calls] at hSignalled
      rcases hSignalled with hReturned | hPanic
      · cases hReturned
      · cases hPanic
  | crashed calls => cases hMain
  | serving calls state store next rest task servers
      hPerforms hTask hServers hJoined =>
      cases hMain
      simp only [serverEvents_append, serverEvents_calls,
        serverEvents_spawn, List.nil_append] at hSignalled ⊢
      refine ⟨internal_le hCrates.watch hServers, ?_⟩
      have hSound :
          (∀ party kind,
            .server (.party party (.returns (.error kind))) ∉
              calls.map .call ++ .spawn :: rest) →
            ∀ party kind,
              .party party (.returns (.error kind)) ∉
                serverEvents rest := by
        intro hNone party kind hFail
        rw [mem_serverEvents_iff] at hFail
        exact hNone party kind (by simp [hFail])
      have hAll := hPerforms.append hTask
      have hRest :
          Performs
            (.call (.serve state store) next :
              Program launchSignature ExitCode)
            (launchCalls rest) program :=
        hTask
      generalize hCalls : launchCalls rest = made at hRest
      cases hRest with
      | done =>
          -- the servers run: they end, and then are joined
          rcases exists_shutdown hCrates hPerforms hServers
              hSignalled with
            ⟨more, last, code, hMore, hExit, hClosing, hCode⟩
          exact ⟨more, last, code, hMore, hExit, hClosing,
            fun hNone => hCode (hSound hNone)⟩
      | @step _ _ result made _ tail =>
          -- the servers are joined: the main task goes on
          have hMade :
              (⟨.serve state store, result⟩ :
                  Call launchSignature) ∈
                launchCalls rest := by
            rw [hCalls]
            exact List.mem_cons_self
          rcases exists_exit (some servers) hAll
              (List.mem_append_right _ hMade) with
            ⟨finish, code, hExit, hCode⟩
          refine ⟨_, _, code, hExit, rfl, by simp, ?_⟩
          intro hNone
          apply hCode
          rw [mem_launchCalls_iff] at hMade
          exact (hJoined _ _ _ hMade).eq_ok hCrates.tasks
            hServers (hSound hNone)

/- The sample is told to stop, and can exit with success. -/
theorem shutdown_completes_sample :
    ∃ (life last : Life .reference) (more : List LifeEvent),
      Trace LifeStep
          (.initial .reference sampleLib sampleArgs none)
          sampleEvents life ∧
        Trace LifeStep life more last ∧
          last.main = .running (.ret .success) := by
  rcases sample_life with ⟨next, servers, _, _, hTrace⟩
  have hSignalled :
      Signalled shutdownSignal (serverEvents sampleEvents) := by
    rw [sample_serverEvents]
    exact sample_signalled
  rcases shutdown_completes Crates.reference_documented
      hTrace rfl hSignalled with
    ⟨_, more, last, code, hMore, hExit, _, hCode⟩
  have hSound : ∀ party kind,
      .server (.party party (.returns (.error kind))) ∉
        sampleEvents := by
    simp [sampleEvents, sampleSteps]
  rw [hCode hSound] at hExit
  exact ⟨_, last, more, hTrace, hMore, hExit⟩

end Process

end AjarGateway

------------------------------------------------------------
-- Why The Process Exits
------------------------------------------------------------

namespace AjarGateway

namespace Process

open Interleaving Store

variable {crates : Crates}
variable {lib : LaunchExternals}
variable {args : List OsString} {envPath : Option OsString}
variable {events : List LifeEvent} {life : Life crates}

end Process

end AjarGateway
