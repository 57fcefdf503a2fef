import AjarGateway.Process.Arguments
import AjarGateway.System.Gateway

/-
  The launch of the gateway: `main`, and what it does before
  its two servers run.

  A launch reads and checks the configuration, loads the
  store, and binds both addresses, in this order; the first
  step that fails ends it.  The servers are one operation
  here, which returns when both of them have ended.

  Key definitions include:
    * `Process.LaunchOp`
    * `Process.serveUntilShutdown`
    * `Process.run`
    * `Process.main`
    * `Process.Launched`

  Key theorems include:
    * `Process.performs_onLaunch_iff`
    * `Process.exit_of_run`
    * `Process.exit_of_main`
    * `Process.serve_iff_launched`
    * `Process.Launched.started`
-/

------------------------------------------------------------
-- Operations Of A Launch
------------------------------------------------------------

namespace AjarGateway

namespace Process

open Interleaving Store Serving

/-
  The calls of a launch: those of a load, reading the
  configuration, binding an address, serving what was
  loaded until both servers have ended, and a log line.
-/
inductive LaunchOp where
  | host (op : HostOp)
  | readToString (path : Path)
  | bind (addr : SocketAddr)
  | serve
      (state : ProxyState)
      (store : Option PreparedContentStore)
  | eprintln (line : LogLine)

@[reducible] def LaunchOp.Reply : LaunchOp → Type
| .host op => op.Reply
| .readToString _ => Except IoErrorKind String
| .bind _ => Except IoErrorKind Unit
| .serve _ _ => Except ServeError Unit
| .eprintln _ => Unit

abbrev launchSignature : Interleaving.Signature where
  Op := LaunchOp
  Reply := LaunchOp.Reply

/- A step of a launch. -/
abbrev Launch (α : Type) : Type :=
  Fallible launchSignature GatewayBinaryError α

/- A program of host calls, among the calls of a launch. -/
def onLaunch {α : Type} :
    Program hostSignature α → Program launchSignature α
| .ret value => .ret value
| .call op next =>
    .call (.host op) fun reply => onLaunch (next reply)

def readToString
    (path : Path) :
    Program launchSignature (Except IoErrorKind String) :=
  .call (.readToString path) .ret

def bindListener
    (addr : SocketAddr) :
    Program launchSignature (Except IoErrorKind Unit) :=
  .call (.bind addr) .ret

def serve
    (state : ProxyState)
    (store : Option PreparedContentStore) :
    Program launchSignature (Except ServeError Unit) :=
  .call (.serve state store) .ret

def logEvent
    (level event : String)
    (fields : List (String × String)) :
    Program launchSignature Unit :=
  .call
    (.eprintln ⟨level, event,
      fields.map fun field => (field.1, .string field.2)⟩)
    .ret

/- A call of a load as a call of the launch. -/
def hostCall
    (call : Call hostSignature) : Call launchSignature :=
  ⟨.host call.op, call.reply⟩

theorem performs_onLaunch_iff
    {α : Type}
    (program : Program hostSignature α)
    (calls : List (Call launchSignature))
    (value : α) :
    Performs (onLaunch program) calls (.ret value) ↔
      ∃ hostCalls,
        calls = hostCalls.map hostCall ∧
          Performs program hostCalls (.ret value) := by
  induction program generalizing calls with
  | ret returned =>
      rw [onLaunch, performs_ret_iff]
      constructor
      · rintro ⟨rfl, hValue⟩
        cases hValue
        exact ⟨[], rfl, .done _⟩
      · rintro ⟨hostCalls, rfl, hPerforms⟩
        rcases (performs_ret_iff _ _ _).mp hPerforms with
          ⟨rfl, hValue⟩
        cases hValue
        exact ⟨rfl, rfl⟩
  | call op next ih =>
      rw [onLaunch, performs_call_ret_iff]
      constructor
      · rintro ⟨reply, tail, rfl, hTail⟩
        rcases (ih _ _).mp hTail with
          ⟨hostCalls, rfl, hPerforms⟩
        exact ⟨⟨op, reply⟩ :: hostCalls, rfl,
          .step hPerforms⟩
      · rintro ⟨hostCalls, rfl, hPerforms⟩
        rcases (performs_call_ret_iff _ _ _ _).mp
            hPerforms with
          ⟨reply, tail, rfl, hTail⟩
        exact ⟨reply, tail.map hostCall, rfl,
          (ih _ _).mpr ⟨tail, rfl, hTail⟩⟩

end Process

end AjarGateway

------------------------------------------------------------
-- The Launch Program
------------------------------------------------------------

namespace AjarGateway

namespace Process

open Interleaving Store Serving

def defaultRequestTimeoutMs : UInt64 := 30000

def defaultMaxBodyBytes : UInt64 := 10 * 1024 * 1024

/- The fields of a configuration file. -/
structure ConfigFile where
  originUrl : String
  listenAddr : SocketAddr
  adminAddr : SocketAddr
  requestTimeoutMs : Option UInt64
  maxBodyBytes : Option UInt64
  storeDir : Option Path

/- The configuration of a file, with the defaults. -/
def ConfigFile.config (file : ConfigFile) :
    GatewayConfig where
  originUrl := file.originUrl
  listenAddr := file.listenAddr
  adminAddr := file.adminAddr
  requestTimeoutMs :=
    file.requestTimeoutMs.getD defaultRequestTimeoutMs
  maxBodyBytes :=
    file.maxBodyBytes.getD defaultMaxBodyBytes
  storeDir := file.storeDir

/- The third-party code of a launch. -/
structure LaunchExternals extends Externals where
  toml : String → Option ConfigFile

variable (lib : LaunchExternals)

/- `GatewayConfig::validate`, failing as the binary does. -/
def checked (config : GatewayConfig) :
    Except GatewayBinaryError ValidatedConfig :=
  (config.validate lib.http).mapError fun error =>
    .serving (.notStarted error)

/- The configuration is checked, but returned as read. -/
def loadConfig (path : Path) : Launch GatewayConfig := do
  let contents ←
    Fallible.attempt .configRead (readToString path)
  let file ←
    Fallible.ofExcept (okOr .configParse (lib.toml contents))
  let _valid ← Fallible.ofExcept (checked lib file.config)
  return file.config

def loadStore : Option Path →
    Launch (Option PreparedContentStore)
| none => return none
| some path => do
    let store ←
      Fallible.attempt
        (fun error =>
          .serving (.notStarted (.storeLoadFailed error)))
        (onLaunch (loadFromDir lib.json path).run)
    return some store

def serveUntilShutdown (config : GatewayConfig) :
    Launch Unit := do
  let valid ← Fallible.ofExcept (checked lib config)
  let store ← loadStore lib valid.storeDir
  Fallible.attempt (fun kind => .serving (.bindFailed kind))
    (bindListener valid.listenAddr)
  Fallible.attempt (fun kind => .serving (.bindFailed kind))
    (bindListener valid.adminAddr)
  Fallible.attempt .serving
    (serve ⟨valid, store.isSome⟩ store)

/- The first argument is the name of the program. -/
def run
    (args : List OsString)
    (envPath : Option OsString) : Launch Unit := do
  let configPath ←
    Fallible.ofExcept (parseConfigPath (args.drop 1) envPath)
  let config ← loadConfig lib configPath
  logEvent "info" "gateway_starting"
    [("config_path", Rust.toStringLossy configPath)]
  serveUntilShutdown lib config
  logEvent "info" "gateway_stopped" []

/- `std::process::ExitCode`. -/
inductive ExitCode where
  | success
  | failure
  deriving DecidableEq, Repr

def main
    (args : List OsString)
    (envPath : Option OsString) :
    Program launchSignature ExitCode := do
  match ← (run lib args envPath).run with
  | .ok () => return .success
  | .error error =>
      logEvent "error" "gateway_start_failed"
        [("error", error.publicMessage)]
      return .failure

end Process

end AjarGateway

------------------------------------------------------------
-- How A Launch Ends
------------------------------------------------------------

namespace AjarGateway

namespace Process

open Interleaving Store Serving

variable (lib : LaunchExternals)

/- How reading the configuration ends, with its calls. -/
inductive ConfigExit (path : Path) :
    List (Call launchSignature) →
      Except GatewayBinaryError GatewayConfig → Prop where
  | unreadable (kind : IoErrorKind) :
      ConfigExit path [⟨.readToString path, .error kind⟩]
        (.error (.configRead kind))
  | unparsed
      (contents : String)
      (hToml : lib.toml contents = none) :
      ConfigExit path [⟨.readToString path, .ok contents⟩]
        (.error .configParse)
  | refused
      (contents : String)
      (file : ConfigFile)
      (error : ServingError)
      (hToml : lib.toml contents = some file)
      (hRefused :
        file.config.validate lib.http = .error error) :
      ConfigExit path [⟨.readToString path, .ok contents⟩]
        (.error (.serving (.notStarted error)))
  | accepted
      (contents : String)
      (file : ConfigFile)
      (valid : ValidatedConfig)
      (hToml : lib.toml contents = some file)
      (hValid :
        file.config.validate lib.http = .ok valid) :
      ConfigExit path [⟨.readToString path, .ok contents⟩]
        (.ok file.config)

/- How loading the store ends, with its calls. -/
inductive StoreExit :
    Option Path → List (Call launchSignature) →
      Except GatewayBinaryError
        (Option PreparedContentStore) → Prop where
  | none : StoreExit none [] (.ok none)
  | notLoaded
      (path : Path)
      (calls : List (Call hostSignature))
      (error : StoreLoadError)
      (hLoad :
        Performs (loadFromDir lib.json path).run calls
          (.ret (.error error))) :
      StoreExit (some path) (calls.map hostCall)
        (.error
          (.serving (.notStarted (.storeLoadFailed error))))
  | loaded
      (path : Path)
      (calls : List (Call hostSignature))
      (store : PreparedContentStore)
      (hLoad :
        Performs (loadFromDir lib.json path).run calls
          (.ret (.ok store))) :
      StoreExit (some path) (calls.map hostCall)
        (.ok (some store))

/- How serving a configuration ends, with its calls. -/
inductive ServeExit (config : GatewayConfig) :
    List (Call launchSignature) →
      Except GatewayBinaryError Unit → Prop where
  | refused
      (error : ServingError)
      (hRefused :
        config.validate lib.http = .error error) :
      ServeExit config []
        (.error (.serving (.notStarted error)))
  | notLoaded
      (valid : ValidatedConfig)
      (calls : List (Call launchSignature))
      (error : GatewayBinaryError)
      (hValid : config.validate lib.http = .ok valid)
      (hStore :
        StoreExit lib valid.storeDir calls
          (.error error)) :
      ServeExit config calls (.error error)
  | publicNotBound
      (valid : ValidatedConfig)
      (calls : List (Call launchSignature))
      (store : Option PreparedContentStore)
      (kind : IoErrorKind)
      (hValid : config.validate lib.http = .ok valid)
      (hStore :
        StoreExit lib valid.storeDir calls (.ok store)) :
      ServeExit config
        (calls ++ [⟨.bind valid.listenAddr, .error kind⟩])
        (.error (.serving (.bindFailed kind)))
  | adminNotBound
      (valid : ValidatedConfig)
      (calls : List (Call launchSignature))
      (store : Option PreparedContentStore)
      (kind : IoErrorKind)
      (hValid : config.validate lib.http = .ok valid)
      (hStore :
        StoreExit lib valid.storeDir calls (.ok store)) :
      ServeExit config
        (calls ++ [⟨.bind valid.listenAddr, .ok ()⟩,
          ⟨.bind valid.adminAddr, .error kind⟩])
        (.error (.serving (.bindFailed kind)))
  | served
      (valid : ValidatedConfig)
      (calls : List (Call launchSignature))
      (store : Option PreparedContentStore)
      (result : Except ServeError Unit)
      (hValid : config.validate lib.http = .ok valid)
      (hStore :
        StoreExit lib valid.storeDir calls (.ok store)) :
      ServeExit config
        (calls ++ [⟨.bind valid.listenAddr, .ok ()⟩,
          ⟨.bind valid.adminAddr, .ok ()⟩,
          ⟨.serve ⟨valid, store.isSome⟩ store, result⟩])
        (result.mapError .serving)

def startingCall (path : Path) : Call launchSignature :=
  ⟨.eprintln
    ⟨"info", "gateway_starting",
      [("config_path",
        .string (Rust.toStringLossy path))]⟩, ()⟩

def stoppedCall : Call launchSignature :=
  ⟨.eprintln ⟨"info", "gateway_stopped", []⟩, ()⟩

def failedCall
    (error : GatewayBinaryError) : Call launchSignature :=
  ⟨.eprintln
    ⟨"error", "gateway_start_failed",
      [("error", .string error.publicMessage)]⟩, ()⟩

/- How a launch ends, with its calls. -/
inductive LaunchExit
    (args : List OsString)
    (envPath : Option OsString) :
    List (Call launchSignature) →
      Except GatewayBinaryError Unit → Prop where
  | badArguments
      (error : GatewayBinaryError)
      (hArgs :
        parseConfigPath (args.drop 1) envPath =
          .error error) :
      LaunchExit args envPath [] (.error error)
  | notConfigured
      (path : Path)
      (calls : List (Call launchSignature))
      (error : GatewayBinaryError)
      (hArgs :
        parseConfigPath (args.drop 1) envPath = .ok path)
      (hConfig :
        ConfigExit lib path calls (.error error)) :
      LaunchExit args envPath calls (.error error)
  | failed
      (path : Path)
      (config : GatewayConfig)
      (first second : List (Call launchSignature))
      (error : GatewayBinaryError)
      (hArgs :
        parseConfigPath (args.drop 1) envPath = .ok path)
      (hConfig : ConfigExit lib path first (.ok config))
      (hServe :
        ServeExit lib config second (.error error)) :
      LaunchExit args envPath
        (first ++ startingCall path :: second)
        (.error error)
  | stopped
      (path : Path)
      (config : GatewayConfig)
      (first second : List (Call launchSignature))
      (hArgs :
        parseConfigPath (args.drop 1) envPath = .ok path)
      (hConfig : ConfigExit lib path first (.ok config))
      (hServe : ServeExit lib config second (.ok ())) :
      LaunchExit args envPath
        (first ++ startingCall path ::
          (second ++ [stoppedCall]))
        (.ok ())

/- How the process ends, with its calls. -/
inductive MainExit
    (args : List OsString)
    (envPath : Option OsString) :
    List (Call launchSignature) → ExitCode → Prop where
  | success
      (calls : List (Call launchSignature))
      (hExit : LaunchExit lib args envPath calls (.ok ())) :
      MainExit args envPath calls .success
  | failure
      (calls : List (Call launchSignature))
      (error : GatewayBinaryError)
      (hExit :
        LaunchExit lib args envPath calls (.error error)) :
      MainExit args envPath (calls ++ [failedCall error])
        .failure

end Process

end AjarGateway

------------------------------------------------------------
-- Every Launch Ends In One Of These Ways
------------------------------------------------------------

namespace AjarGateway

namespace Process

open Interleaving Store Serving

variable {lib : LaunchExternals}

theorem checked_cases
    {config : GatewayConfig}
    {result : Except GatewayBinaryError ValidatedConfig}
    (hChecked : checked lib config = result) :
    (∃ error,
      config.validate lib.http = .error error ∧
        result = .error (.serving (.notStarted error))) ∨
      ∃ valid,
        config.validate lib.http = .ok valid ∧
          result = .ok valid := by
  rw [← hChecked, checked]
  cases config.validate lib.http with
  | error error => exact .inl ⟨error, rfl, rfl⟩
  | ok valid => exact .inr ⟨valid, rfl, rfl⟩

theorem exit_of_loadConfig
    {path : Path}
    {calls : List (Call launchSignature)}
    {result : Except GatewayBinaryError GatewayConfig}
    (hPerforms :
      Performs (loadConfig lib path).run calls
        (.ret result)) :
    ConfigExit lib path calls result := by
  unfold loadConfig at hPerforms
  rcases (performs_attempt_bind_iff _ _ _ _ _).mp
      hPerforms with
    ⟨kind, rfl, hRead⟩ | ⟨_, rest, contents, rfl, hRead, hFile⟩
  · rw [readToString, performs_operation_iff] at hRead
    rw [hRead]
    exact .unreadable kind
  rw [readToString, performs_operation_iff] at hRead
  subst hRead
  rcases (performs_ofExcept_bind_iff _ _ _ _).mp hFile with
    ⟨error, hParse, rfl, rfl⟩ | ⟨file, hParse, hCheck⟩
  · rw [okOr_eq_error_iff] at hParse
    rw [← hParse.2]
    exact .unparsed contents hParse.1
  rw [okOr_eq_ok_iff] at hParse
  rcases (performs_ofExcept_bind_iff _ _ _ _).mp hCheck with
    ⟨error, hError, rfl, rfl⟩ | ⟨valid, hOk, hReturn⟩
  · rcases checked_cases hError with
      ⟨refused, hRefused, hSame⟩ | ⟨_, _, hSame⟩
    · cases hSame
      exact .refused contents file refused hParse hRefused
    · cases hSame
  · rcases checked_cases hOk with
      ⟨_, _, hSame⟩ | ⟨valid', hValid, _⟩
    · cases hSame
    · rcases (performs_ret_iff _ _ _).mp hReturn with
        ⟨rfl, hResult⟩
      cases hResult
      exact .accepted contents file valid' hParse hValid

theorem exit_of_loadStore
    {storeDir : Option Path}
    {calls : List (Call launchSignature)}
    {result :
      Except GatewayBinaryError
        (Option PreparedContentStore)}
    (hPerforms :
      Performs (loadStore lib storeDir).run calls
        (.ret result)) :
    StoreExit lib storeDir calls result := by
  cases storeDir with
  | none =>
      rcases (performs_ret_iff _ _ _).mp hPerforms with
        ⟨rfl, hResult⟩
      cases hResult
      exact .none
  | some path =>
      rcases (performs_attempt_bind_iff _ _ _ _ _).mp
          hPerforms with
        ⟨error, rfl, hLoad⟩ |
          ⟨first, _, store, rfl, hLoad, hReturn⟩
      · rcases (performs_onLaunch_iff _ _ _).mp hLoad with
          ⟨hostCalls, rfl, hHost⟩
        exact .notLoaded path hostCalls error hHost
      · rcases (performs_onLaunch_iff _ _ _).mp hLoad with
          ⟨hostCalls, rfl, hHost⟩
        rcases (performs_ret_iff _ _ _).mp hReturn with
          ⟨rfl, hResult⟩
        cases hResult
        rw [List.append_nil]
        exact .loaded path hostCalls store hHost

theorem exit_of_serveUntilShutdown
    {config : GatewayConfig}
    {calls : List (Call launchSignature)}
    {result : Except GatewayBinaryError Unit}
    (hPerforms :
      Performs (serveUntilShutdown lib config).run calls
        (.ret result)) :
    ServeExit lib config calls result := by
  unfold serveUntilShutdown at hPerforms
  rcases (performs_ofExcept_bind_iff _ _ _ _).mp
      hPerforms with
    ⟨error, hError, rfl, rfl⟩ | ⟨valid, hOk, hLoad⟩
  · rcases checked_cases hError with
      ⟨refused, hRefused, hSame⟩ | ⟨_, _, hSame⟩
    · cases hSame
      exact .refused refused hRefused
    · cases hSame
  rcases checked_cases hOk with
    ⟨_, _, hSame⟩ | ⟨_, hValid, hSame⟩
  · cases hSame
  cases hSame
  rcases (performs_run_bind_iff _ _ _ _).mp hLoad with
    ⟨error, rfl, hStore⟩ |
      ⟨first, _, store, rfl, hStore, hPublic⟩
  · exact .notLoaded valid calls error hValid
      (exit_of_loadStore hStore)
  have hExit := exit_of_loadStore hStore
  rcases (performs_attempt_bind_iff _ _ _ _ _).mp
      hPublic with
    ⟨kind, rfl, hBind⟩ | ⟨_, _, _, rfl, hBind, hAdmin⟩
  · rw [bindListener, performs_operation_iff] at hBind
    subst hBind
    exact .publicNotBound valid first store kind hValid hExit
  rw [bindListener, performs_operation_iff] at hBind
  subst hBind
  rcases (performs_attempt_bind_iff _ _ _ _ _).mp
      hAdmin with
    ⟨kind, rfl, hBind⟩ | ⟨_, _, _, rfl, hBind, hServe⟩
  · rw [bindListener, performs_operation_iff] at hBind
    subst hBind
    exact .adminNotBound valid first store kind hValid hExit
  rw [bindListener, performs_operation_iff] at hBind
  subst hBind
  rcases (performs_run_attempt_iff _ _ _ _).mp hServe with
    ⟨ended, rfl, hEnded⟩
  rw [serve, performs_operation_iff] at hEnded
  subst hEnded
  exact .served valid first store ended hValid hExit

theorem performs_logEvent_iff
    (level event : String)
    (fields : List (String × String))
    (calls : List (Call launchSignature))
    (value : Unit) :
    Performs (logEvent level event fields) calls
        (.ret value) ↔
      calls =
        [⟨.eprintln ⟨level, event,
          fields.map fun field =>
            (field.1, .string field.2)⟩, value⟩] :=
  performs_operation_iff _ _ _

theorem exit_of_run
    {args : List OsString}
    {envPath : Option OsString}
    {calls : List (Call launchSignature)}
    {result : Except GatewayBinaryError Unit}
    (hPerforms :
      Performs (run lib args envPath).run calls
        (.ret result)) :
    LaunchExit lib args envPath calls result := by
  unfold run at hPerforms
  rcases (performs_ofExcept_bind_iff _ _ _ _).mp
      hPerforms with
    ⟨error, hArgs, rfl, rfl⟩ | ⟨path, hArgs, hLoad⟩
  · exact .badArguments error hArgs
  rcases (performs_run_bind_iff _ _ _ _).mp hLoad with
    ⟨error, rfl, hConfig⟩ |
      ⟨first, _, config, rfl, hConfig, hLog⟩
  · exact .notConfigured path calls error hArgs
      (exit_of_loadConfig hConfig)
  rcases (performs_liftM_bind_iff _ _ _ _).mp hLog with
    ⟨_, _, _, rfl, hStarting, hServe⟩
  rw [performs_logEvent_iff] at hStarting
  subst hStarting
  rcases (performs_run_bind_iff _ _ _ _).mp hServe with
    ⟨error, rfl, hEnded⟩ | ⟨second, _, _, rfl, hEnded, hStop⟩
  · exact .failed path config first _ error hArgs
      (exit_of_loadConfig hConfig)
      (exit_of_serveUntilShutdown hEnded)
  · have hStopped :
        Performs
          (logEvent "info" "gateway_stopped" [] >>=
            fun value => .ret (.ok value))
          _ (.ret result) :=
      hStop
    rcases (performs_bind_iff _ _ _ _).mp hStopped with
      ⟨_, _, _, rfl, hLine, hReturn⟩
    rw [performs_logEvent_iff] at hLine
    subst hLine
    rcases (performs_ret_iff _ _ _).mp hReturn with
      ⟨rfl, hResult⟩
    cases hResult
    exact .stopped path config first second hArgs
      (exit_of_loadConfig hConfig)
      (exit_of_serveUntilShutdown hEnded)

theorem exit_of_main
    {args : List OsString}
    {envPath : Option OsString}
    {calls : List (Call launchSignature)}
    {code : ExitCode}
    (hPerforms :
      Performs (main lib args envPath) calls (.ret code)) :
    MainExit lib args envPath calls code := by
  unfold main at hPerforms
  rcases (performs_bind_iff _ _ _ _).mp hPerforms with
    ⟨first, second, result, rfl, hRun, hEnd⟩
  have hExit := exit_of_run hRun
  cases result with
  | ok value =>
      rcases (performs_ret_iff _ _ _).mp hEnd with
        ⟨rfl, hCode⟩
      cases hCode
      rw [List.append_nil]
      exact .success first hExit
  | error error =>
      rcases (performs_bind_iff _ _ _ _).mp hEnd with
        ⟨_, _, _, rfl, hLine, hReturn⟩
      rw [performs_logEvent_iff] at hLine
      subst hLine
      rcases (performs_ret_iff _ _ _).mp hReturn with
        ⟨rfl, hCode⟩
      cases hCode
      exact .failure first error hExit

end Process

end AjarGateway

------------------------------------------------------------
-- What Has Happened Before Serving
------------------------------------------------------------

namespace AjarGateway

namespace Process

open Interleaving Store Serving

/-
  The calls of a launch that gets to serve: every step has
  succeeded, and what is served is what was checked and
  loaded.
-/
inductive Launched
    (lib : LaunchExternals)
    (args : List OsString)
    (envPath : Option OsString) :
    List (Call launchSignature) → ProxyState →
      Option PreparedContentStore → Prop where
  | intro
      (path : Path)
      (contents : String)
      (file : ConfigFile)
      (valid : ValidatedConfig)
      (calls : List (Call launchSignature))
      (store : Option PreparedContentStore)
      (hArgs :
        parseConfigPath (args.drop 1) envPath = .ok path)
      (hToml : lib.toml contents = some file)
      (hValid : file.config.validate lib.http = .ok valid)
      (hStore :
        StoreExit lib valid.storeDir calls (.ok store)) :
      Launched lib args envPath
        (⟨.readToString path, .ok contents⟩ ::
          startingCall path ::
            (calls ++ [⟨.bind valid.listenAddr, .ok ()⟩,
              ⟨.bind valid.adminAddr, .ok ()⟩]))
        ⟨valid, store.isSome⟩ store

/- The servers do not run among these calls. -/
def NoServe (calls : List (Call launchSignature)) : Prop :=
  ∀ call ∈ calls, ∀ state store,
    call.op ≠ .serve state store

variable {lib : LaunchExternals}
variable {args : List OsString} {envPath : Option OsString}
variable {calls : List (Call launchSignature)}

theorem noServe_append_iff
    (first second : List (Call launchSignature)) :
    NoServe (first ++ second) ↔
      NoServe first ∧ NoServe second := by
  simp only [NoServe, List.forall_mem_append]

theorem noServe_cons
    {call : Call launchSignature}
    (hCall : ∀ state store, call.op ≠ .serve state store)
    (hCalls : NoServe calls) :
    NoServe (call :: calls) :=
  List.forall_mem_cons.mpr ⟨hCall, hCalls⟩

theorem noServe_nil : NoServe [] :=
  List.forall_mem_nil _

theorem noServe_hostCalls
    (hostCalls : List (Call hostSignature)) :
    NoServe (hostCalls.map hostCall) := by
  intro call hCall state store hOp
  rcases List.mem_map.mp hCall with ⟨host, _, rfl⟩
  cases hOp

theorem StoreExit.noServe
    {storeDir : Option Path}
    {result :
      Except GatewayBinaryError
        (Option PreparedContentStore)}
    (hExit : StoreExit lib storeDir calls result) :
    NoServe calls := by
  cases hExit with
  | none => exact noServe_nil
  | notLoaded path hostCalls error hLoad =>
      exact noServe_hostCalls hostCalls
  | loaded path hostCalls store hLoad =>
      exact noServe_hostCalls hostCalls

theorem ConfigExit.noServe
    {path : Path}
    {result : Except GatewayBinaryError GatewayConfig}
    (hExit : ConfigExit lib path calls result) :
    NoServe calls := by
  cases hExit
  all_goals
    exact noServe_cons (by simp) noServe_nil

theorem Launched.noServe
    {state : ProxyState}
    {store : Option PreparedContentStore}
    (hLaunched :
      Launched lib args envPath calls state store) :
    NoServe calls := by
  cases hLaunched with
  | intro path contents file valid storeCalls store hArgs
      hToml hValid hStore =>
      refine noServe_cons (by simp)
        (noServe_cons (by simp [startingCall]) ?_)
      exact (noServe_append_iff _ _).mpr ⟨hStore.noServe,
        noServe_cons (by simp)
          (noServe_cons (by simp) noServe_nil)⟩

/-
  The two kinds of a launch.  Either it fails before it
  serves, or it serves once: when both servers have ended,
  it logs how and exits.
-/
inductive ServesOnce
    (lib : LaunchExternals)
    (args : List OsString)
    (envPath : Option OsString) :
    List (Call launchSignature) → ExitCode → Prop where
  | never
      (calls : List (Call launchSignature))
      (error : GatewayBinaryError)
      (hNever : NoServe calls) :
      ServesOnce lib args envPath
        (calls ++ [failedCall error]) .failure
  | failed
      (calls : List (Call launchSignature))
      (state : ProxyState)
      (store : Option PreparedContentStore)
      (error : ServeError)
      (hLaunched :
        Launched lib args envPath calls state store) :
      ServesOnce lib args envPath
        (calls ++ [⟨.serve state store, .error error⟩,
          failedCall (.serving error)])
        .failure
  | stopped
      (calls : List (Call launchSignature))
      (state : ProxyState)
      (store : Option PreparedContentStore)
      (hLaunched :
        Launched lib args envPath calls state store) :
      ServesOnce lib args envPath
        (calls ++ [⟨.serve state store, .ok ()⟩,
          stoppedCall])
        .success

/- What `ServeExit` says about serving. -/
theorem ServeExit.cases_serve
    {config : GatewayConfig}
    {result : Except GatewayBinaryError Unit}
    (hExit : ServeExit lib config calls result) :
    (NoServe calls ∧ ∃ error, result = .error error) ∨
      ∃ valid first store ended,
        config.validate lib.http = .ok valid ∧
          StoreExit lib valid.storeDir first (.ok store) ∧
          calls =
            first ++ [⟨.bind valid.listenAddr, .ok ()⟩,
              ⟨.bind valid.adminAddr, .ok ()⟩] ++
              [⟨.serve ⟨valid, store.isSome⟩ store,
                ended⟩] ∧
          result = ended.mapError .serving := by
  cases hExit with
  | refused error hRefused =>
      exact .inl ⟨noServe_nil, _, rfl⟩
  | notLoaded valid calls error hValid hStore =>
      exact .inl ⟨hStore.noServe, _, rfl⟩
  | publicNotBound valid calls store kind hValid hStore =>
      exact .inl ⟨(noServe_append_iff _ _).mpr
        ⟨hStore.noServe, noServe_cons (by simp)
          noServe_nil⟩, _, rfl⟩
  | adminNotBound valid calls store kind hValid hStore =>
      exact .inl ⟨(noServe_append_iff _ _).mpr
        ⟨hStore.noServe, noServe_cons (by simp)
          (noServe_cons (by simp) noServe_nil)⟩, _, rfl⟩
  | served valid first store ended hValid hStore =>
      exact .inr ⟨valid, first, store, ended, hValid,
        hStore, by simp, rfl⟩

/- A served configuration was launched. -/
theorem launched_of_served
    {path : Path}
    {config : GatewayConfig}
    {valid : ValidatedConfig}
    {first storeCalls : List (Call launchSignature)}
    {store : Option PreparedContentStore}
    (hArgs :
      parseConfigPath (args.drop 1) envPath = .ok path)
    (hConfig : ConfigExit lib path first (.ok config))
    (hValid : config.validate lib.http = .ok valid)
    (hStore :
      StoreExit lib valid.storeDir storeCalls (.ok store)) :
    Launched lib args envPath
      (first ++ startingCall path ::
        (storeCalls ++ [⟨.bind valid.listenAddr, .ok ()⟩,
          ⟨.bind valid.adminAddr, .ok ()⟩]))
      ⟨valid, store.isSome⟩ store := by
  cases hConfig with
  | accepted contents file other hToml hOther =>
      exact .intro path contents file valid storeCalls store
        hArgs hToml hValid hStore

theorem servesOnce_of_exit
    {code : ExitCode}
    (hExit : MainExit lib args envPath calls code) :
    ServesOnce lib args envPath calls code := by
  cases hExit with
  | success calls hLaunch =>
      cases hLaunch with
      | stopped path config first second hArgs hConfig
          hServe =>
          rcases hServe.cases_serve with
            ⟨_, error, hError⟩ |
              ⟨valid, storeCalls, store, ended, hValid,
                hStore, rfl, hResult⟩
          · cases hError
          cases ended with
          | error error => cases hResult
          | ok value =>
              have hStopped := ServesOnce.stopped _ _ _
                (launched_of_served hArgs hConfig hValid
                  hStore)
              simpa using hStopped
  | failure calls error hLaunch =>
      cases hLaunch with
      | badArguments error hArgs =>
          exact .never [] error noServe_nil
      | notConfigured path calls error hArgs hConfig =>
          exact .never calls error hConfig.noServe
      | failed path config first second error hArgs hConfig
          hServe =>
          rcases hServe.cases_serve with
            ⟨hNever, _⟩ |
              ⟨valid, storeCalls, store, ended, hValid,
                hStore, rfl, hResult⟩
          · refine .never _ error
              ((noServe_append_iff _ _).mpr
                ⟨hConfig.noServe, ?_⟩)
            exact noServe_cons (by simp [startingCall])
              hNever
          cases ended with
          | ok value => cases hResult
          | error ended =>
              cases hResult
              have hFailed := ServesOnce.failed _ _ _ ended
                (launched_of_served hArgs hConfig hValid
                  hStore)
              simpa using hFailed

/- A reply for each call, with nothing to read or bind. -/
def LaunchOp.refusal : (op : LaunchOp) → op.Reply
| .host (.readFile _) => .error .other
| .host (.readDir _) => .error .other
| .host .nowUnixSeconds => 0
| .readToString _ => .error .other
| .bind _ => .error .other
| .serve _ _ => .ok ()
| .eprintln _ => ()

/- The servers run only after what a launch requires. -/
def ServesLaunched
    (lib : LaunchExternals)
    (args : List OsString)
    (envPath : Option OsString)
    (past : List (Call launchSignature))
    (op : LaunchOp) : Prop :=
  ∀ state store,
    op = .serve state store →
      Launched lib args envPath past state store

theorem guarded_of_noServe
    {past : List (Call launchSignature)}
    (hNever : NoServe calls) :
    Guarded (ServesLaunched lib args envPath) past calls :=
  guarded_of_forall fun call hCall _ state store hOp =>
    absurd hOp (hNever call hCall state store)

theorem guarded_of_launched
    {state : ProxyState}
    {store : Option PreparedContentStore}
    {ended : Except ServeError Unit}
    {line : LogLine}
    (hLaunched :
      Launched lib args envPath calls state store) :
    Guarded (ServesLaunched lib args envPath) []
      (calls ++ [⟨.serve state store, ended⟩,
        ⟨.eprintln line, ()⟩]) := by
  rw [guarded_append_iff]
  refine ⟨guarded_of_noServe hLaunched.noServe, ?_,
    guarded_of_noServe (noServe_cons (by simp) noServe_nil)⟩
  intro other found hOp
  cases hOp
  exact hLaunched

theorem meets_main :
    (main lib args envPath).Meets
      (ServesLaunched lib args envPath)
      (ServesOnce lib args envPath) [] := by
  apply Program.meets_of_performs LaunchOp.refusal
  intro calls code hPerforms
  have hOnce := servesOnce_of_exit (exit_of_main hPerforms)
  refine ⟨?_, hOnce⟩
  cases hOnce with
  | never calls error hNever =>
      exact guarded_of_noServe ((noServe_append_iff _ _).mpr
        ⟨hNever, noServe_cons (by simp [failedCall])
          noServe_nil⟩)
  | failed calls state store error hLaunched =>
      exact guarded_of_launched hLaunched
  | stopped calls state store hLaunched =>
      exact guarded_of_launched hLaunched

/- A launch has come to serve after these calls only. -/
theorem launched_of_serve
    {state : ProxyState}
    {store : Option PreparedContentStore}
    {next : Except ServeError Unit →
      Program launchSignature ExitCode}
    (hPerforms :
      Performs (main lib args envPath) calls
        (.call (.serve state store) next)) :
    Launched lib args envPath calls state store := by
  have hMeets := hPerforms.meets meets_main
  exact hMeets.1 state store rfl

end Process

end AjarGateway

------------------------------------------------------------
-- What Is Launched Can Be Served
------------------------------------------------------------

namespace AjarGateway

namespace Process

open Interleaving Store Serving

variable {lib : LaunchExternals}
variable {args : List OsString} {envPath : Option OsString}
variable {calls : List (Call launchSignature)}

theorem performs_loadConfig_ok
    {path : Path}
    {contents : String}
    {file : ConfigFile}
    {valid : ValidatedConfig}
    (hToml : lib.toml contents = some file)
    (hValid : file.config.validate lib.http = .ok valid) :
    Performs (loadConfig lib path).run
      [⟨.readToString path, .ok contents⟩]
      (.ret (.ok file.config)) := by
  refine (performs_attempt_bind_iff _ _ _ _ _).mpr
    (.inr ⟨_, [], contents, rfl,
      (performs_operation_iff _ _ _).mpr rfl, ?_⟩)
  refine (performs_ofExcept_bind_iff _ _ _ _).mpr
    (.inr ⟨file, by rw [hToml]; rfl, ?_⟩)
  exact (performs_ofExcept_bind_iff _ _ _ _).mpr
    (.inr ⟨valid, by rw [checked, hValid]; rfl, .done _⟩)

theorem performs_loadStore_ok
    {storeDir : Option Path}
    {store : Option PreparedContentStore}
    (hStore : StoreExit lib storeDir calls (.ok store)) :
    Performs (loadStore lib storeDir).run calls
      (.ret (.ok store)) := by
  cases hStore with
  | none => exact .done _
  | loaded path hostCalls loaded hLoad =>
      exact (performs_attempt_bind_iff _ _ _ _ _).mpr
        (.inr ⟨_, [], loaded, (List.append_nil _).symm,
          (performs_onLaunch_iff _ _ _).mpr
            ⟨hostCalls, rfl, hLoad⟩,
          .done _⟩)

theorem performs_serveUntilShutdown_ok
    {config : GatewayConfig}
    {valid : ValidatedConfig}
    {store : Option PreparedContentStore}
    (hValid : config.validate lib.http = .ok valid)
    (hStore :
      StoreExit lib valid.storeDir calls (.ok store)) :
    Performs (serveUntilShutdown lib config).run
      (calls ++ [⟨.bind valid.listenAddr, .ok ()⟩,
        ⟨.bind valid.adminAddr, .ok ()⟩,
        ⟨.serve ⟨valid, store.isSome⟩ store, .ok ()⟩])
      (.ret (.ok ())) := by
  refine (performs_ofExcept_bind_iff _ _ _ _).mpr
    (.inr ⟨valid, by rw [checked, hValid]; rfl, ?_⟩)
  refine (performs_run_bind_iff _ _ _ _).mpr
    (.inr ⟨_, _, store, rfl, performs_loadStore_ok hStore,
      ?_⟩)
  refine (performs_attempt_bind_iff _ _ _ _ _).mpr
    (.inr ⟨[_], _, (), rfl,
      (performs_operation_iff _ _ _).mpr rfl, ?_⟩)
  refine (performs_attempt_bind_iff _ _ _ _ _).mpr
    (.inr ⟨[_], _, (), rfl,
      (performs_operation_iff _ _ _).mpr rfl, ?_⟩)
  exact (performs_run_attempt_iff _ _ _ _).mpr
    ⟨.ok (), rfl, (performs_operation_iff _ _ _).mpr rfl⟩

theorem performs_main_stopped
    {state : ProxyState}
    {store : Option PreparedContentStore}
    (hLaunched :
      Launched lib args envPath calls state store) :
    Performs (main lib args envPath)
      (calls ++ [⟨.serve state store, .ok ()⟩, stoppedCall])
      (.ret .success) := by
  cases hLaunched with
  | intro path contents file valid storeCalls store hArgs
      hToml hValid hStore =>
      have hServe :=
        performs_serveUntilShutdown_ok hValid hStore
      refine (performs_bind_iff _ _ _ _).mpr
        ⟨_, [], .ok (), (List.append_nil _).symm, ?_, .done _⟩
      refine (performs_ofExcept_bind_iff _ _ _ _).mpr
        (.inr ⟨path, hArgs, ?_⟩)
      refine (performs_run_bind_iff _ _ _ _).mpr
        (.inr ⟨[_], _, file.config, rfl,
          performs_loadConfig_ok hToml hValid, ?_⟩)
      refine (performs_liftM_bind_iff _ _ _ _).mpr
        ⟨[startingCall path], _, (), rfl,
          (performs_logEvent_iff _ _ _ _ _).mpr rfl, ?_⟩
      refine (performs_run_bind_iff _ _ _ _).mpr
        (.inr ⟨_, [stoppedCall], (), ?_, hServe, ?_⟩)
      · simp
      · exact .step (.done _)

/- A launch comes to serve after exactly these calls. -/
theorem serve_iff_launched
    (state : ProxyState)
    (store : Option PreparedContentStore) :
    (∃ next,
      Performs (main lib args envPath) calls
        (.call (.serve state store) next)) ↔
      Launched lib args envPath calls state store := by
  constructor
  · rintro ⟨next, hPerforms⟩
    exact launched_of_serve hPerforms
  · intro hLaunched
    rcases (performs_main_stopped hLaunched).split with
      ⟨middle, hFirst, hSecond⟩
    cases hSecond with
    | step tail => exact ⟨_, hFirst⟩

end Process

end AjarGateway

------------------------------------------------------------
-- From A Launch To A Gateway
------------------------------------------------------------

namespace AjarGateway

namespace Process

open Interleaving Store Serving

/-
  A launch whose files stay as they are while the store is
  loaded starts the gateway of these files.
-/
theorem Launched.started
    {lib : LaunchExternals}
    {args : List OsString} {envPath : Option OsString}
    {calls : List (Call launchSignature)}
    {state : ProxyState}
    {store : Option PreparedContentStore}
    {files : FileSystem} {now : Int}
    (hLaunched :
      Launched lib args envPath calls state store)
    (hRange : InClockRange now)
    (hReplies : ∀ call,
      hostCall call ∈ calls →
        call.reply = files.reply now call.op) :
    ∃ config,
      System.Started lib.toExternals config files state
        (System.initialState store files) := by
  cases hLaunched with
  | intro path contents file valid storeCalls store hArgs
      hToml hValid hStore =>
      refine ⟨file.config, hValid, ?_⟩
      generalize valid.storeDir = storeDir at hStore ⊢
      cases hStore with
      | none => exact .inl ⟨rfl, rfl, rfl⟩
      | loaded dir hostCalls loaded hLoad =>
          refine .inr ⟨dir, now, loaded, rfl, rfl, hRange,
            ?_, rfl⟩
          apply hLoad.answerWith_eq (files.reply now)
          intro call hCall
          apply hReplies
          simp only [List.mem_cons, List.mem_append]
          exact .inr (.inr (.inl
            (List.mem_map_of_mem hCall)))

end Process

end AjarGateway
