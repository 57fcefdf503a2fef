import AjarGateway.Serving.Upstream

/-
  The command line of the gateway.

  The arguments are pairs of `--config` and a path, of which
  the last one counts; without any, the path is that of the
  environment.  Whatever does not have this form is refused,
  with the first deviation as the reason.

  Key definitions include:
    * `Process.GatewayBinaryError`
    * `Process.parseConfigPath`
    * `Process.configPairs`
    * `Process.Reads`

  Key theorems include:
    * `Process.parseConfigPath_pairs`
    * `Process.parseConfigPath_eq_iff`
-/

------------------------------------------------------------
-- Errors Of The Binary
------------------------------------------------------------

namespace AjarGateway

namespace Process

open Store

/-
  The errors of `serve_until_shutdown`: those that end the
  gateway before it binds, and those of its listeners and
  its two servers.
-/
inductive ServeError where
  | notStarted (error : Serving.ServingError)
  | bindFailed (kind : IoErrorKind)
  | proxyServerFailed (kind : IoErrorKind)
  | adminServerFailed (kind : IoErrorKind)
  deriving DecidableEq, Repr

def ServeError.message : ServeError → String
| .notStarted error => error.message
| .bindFailed _ => "listener bind failed"
| .proxyServerFailed _ => "proxy server failed"
| .adminServerFailed _ => "admin server failed"

inductive GatewayBinaryError where
  | missingConfigPath
  | missingConfigValue
  | unknownArgument (argument : String)
  | configRead (kind : IoErrorKind)
  | configParse
  | serving (error : ServeError)
  deriving DecidableEq, Repr

def GatewayBinaryError.publicMessage :
    GatewayBinaryError → String
| .missingConfigPath =>
    "missing config path; set AJAR_GATEWAY_CONFIG or pass " ++
      "--config"
| .missingConfigValue => "missing value after --config"
| .unknownArgument argument =>
    "unknown argument: " ++ argument
| .configRead _ => "failed to read config"
| .configParse => "failed to parse config"
| .serving error => error.message

end Process

end AjarGateway

------------------------------------------------------------
-- The Path Of The Configuration
------------------------------------------------------------

namespace AjarGateway

namespace Process

open Store

def configFlag : OsString :=
  Rust.utf8 "--config"

/- The loop over the arguments, with the path found so far. -/
def parseConfigPath :
    List OsString → Option OsString →
      Except GatewayBinaryError Path
| [], configPath =>
    Serving.okOr .missingConfigPath configPath
| [arg], _ =>
    if arg = configFlag then .error .missingConfigValue
    else .error (.unknownArgument (Rust.toStringLossy arg))
| arg :: value :: rest, _ =>
    if arg = configFlag then
      parseConfigPath rest (some value)
    else .error (.unknownArgument (Rust.toStringLossy arg))

end Process

end AjarGateway

------------------------------------------------------------
-- The Accepted Command Lines
------------------------------------------------------------

namespace AjarGateway

namespace Process

open Store

/- The flag before each of the values. -/
def configPairs (values : List OsString) : List OsString :=
  values.flatMap fun value => [configFlag, value]

@[simp] theorem configPairs_nil : configPairs [] = [] :=
  rfl

@[simp] theorem configPairs_cons
    (value : OsString)
    (values : List OsString) :
    configPairs (value :: values) =
      configFlag :: value :: configPairs values :=
  rfl

/- Of complete pairs, only the last value matters. -/
theorem parseConfigPath_pairs
    (values tail : List OsString)
    (envPath : Option OsString) :
    parseConfigPath (configPairs values ++ tail) envPath =
      parseConfigPath tail (values.getLast?.or envPath) := by
  induction values generalizing envPath with
  | nil => rfl
  | cons value values ih =>
      have hLast :
          (value :: values).getLast?.or envPath =
            values.getLast?.or (some value) := by
        rw [List.getLast?_cons]
        cases values.getLast? <;> rfl
      rw [hLast, ← ih (some value)]
      simp [parseConfigPath]

/- What follows the complete pairs of a command line. -/
inductive ArgumentsEnd : List OsString → Prop where
  | done : ArgumentsEnd []
  | noValue : ArgumentsEnd [configFlag]
  | unknown
      (arg : OsString)
      (rest : List OsString)
      (hOther : arg ≠ configFlag) :
      ArgumentsEnd (arg :: rest)

/- Every command line starts with its complete pairs. -/
theorem exists_configPairs (args : List OsString) :
    ∃ values tail,
      args = configPairs values ++ tail ∧
        ArgumentsEnd tail := by
  induction args, (none : Option OsString) using
      parseConfigPath.induct with
  | case1 configPath => exact ⟨[], [], rfl, .done⟩
  | case2 configPath =>
      exact ⟨[], _, rfl, .noValue⟩
  | case3 arg configPath hOther =>
      exact ⟨[], _, rfl, .unknown arg [] hOther⟩
  | case4 value rest configPath ih =>
      rcases ih with ⟨values, tail, rfl, hTail⟩
      exact ⟨value :: values, tail, rfl, hTail⟩
  | case5 arg value rest configPath hOther =>
      exact ⟨[], _, rfl,
        .unknown arg (value :: rest) hOther⟩

theorem parseConfigPath_unknown
    (arg : OsString)
    (rest : List OsString)
    (envPath : Option OsString)
    (hOther : arg ≠ configFlag) :
    parseConfigPath (arg :: rest) envPath =
      .error
        (.unknownArgument (Rust.toStringLossy arg)) := by
  cases rest with
  | nil => rw [parseConfigPath, if_neg hOther]
  | cons value rest =>
      rw [parseConfigPath, if_neg hOther]

theorem parseConfigPath_noValue
    (envPath : Option OsString) :
    parseConfigPath [configFlag] envPath =
      .error .missingConfigValue := by
  rw [parseConfigPath, if_pos rfl]

/-
  A command line and what becomes of it: the last value of
  complete pairs or else the path of the environment, or the
  first place where the pairs are broken.
-/
inductive Reads (envPath : Option OsString) :
    List OsString → Except GatewayBinaryError Path → Prop
  where
  | accepted
      (values : List OsString)
      (path : Path)
      (hPath : values.getLast?.or envPath = some path) :
      Reads envPath (configPairs values) (.ok path)
  | noPath
      (hNone : envPath = none) :
      Reads envPath [] (.error .missingConfigPath)
  | noValue (values : List OsString) :
      Reads envPath (configPairs values ++ [configFlag])
        (.error .missingConfigValue)
  | unknown
      (values rest : List OsString)
      (arg : OsString)
      (hOther : arg ≠ configFlag) :
      Reads envPath (configPairs values ++ arg :: rest)
        (.error
          (.unknownArgument (Rust.toStringLossy arg)))

theorem parseConfigPath_of_reads
    {envPath : Option OsString}
    {args : List OsString}
    {result : Except GatewayBinaryError Path}
    (hReads : Reads envPath args result) :
    parseConfigPath args envPath = result := by
  cases hReads with
  | accepted values path hPath =>
      have hPairs := parseConfigPath_pairs values [] envPath
      rw [List.append_nil, hPath] at hPairs
      exact hPairs
  | noPath hNone =>
      rw [hNone]
      rfl
  | noValue values =>
      rw [parseConfigPath_pairs, parseConfigPath_noValue]
  | unknown values rest arg hOther =>
      rw [parseConfigPath_pairs]
      exact parseConfigPath_unknown arg rest _ hOther

theorem reads_parseConfigPath
    (args : List OsString)
    (envPath : Option OsString) :
    Reads envPath args (parseConfigPath args envPath) := by
  rcases exists_configPairs args with
    ⟨values, tail, rfl, hTail⟩
  rw [parseConfigPath_pairs]
  cases hTail with
  | done =>
      rw [List.append_nil, parseConfigPath]
      cases hFound : values.getLast?.or envPath with
      | some path => exact .accepted values path hFound
      | none =>
          rw [Option.or_eq_none_iff,
            List.getLast?_eq_none_iff] at hFound
          rw [hFound.1]
          exact .noPath hFound.2
  | noValue =>
      rw [parseConfigPath_noValue]
      exact .noValue values
  | unknown arg rest hOther =>
      rw [parseConfigPath_unknown arg rest _ hOther]
      exact .unknown values rest arg hOther

/-
  The command lines that are read, and how each of the
  others is refused.
-/
theorem parseConfigPath_eq_iff
    (args : List OsString)
    (envPath : Option OsString)
    (result : Except GatewayBinaryError Path) :
    parseConfigPath args envPath = result ↔
      Reads envPath args result := by
  constructor
  · intro hResult
    rw [← hResult]
    exact reads_parseConfigPath args envPath
  · exact parseConfigPath_of_reads

example :
    parseConfigPath
        [configFlag, Rust.utf8 "a", configFlag,
          Rust.utf8 "b"]
        none =
      .ok (Rust.utf8 "b") :=
  rfl

end Process

end AjarGateway
