import AjarGateway.Serving.Respond

/-
  The exits of a reload.

  A reload ends in one of five ways, and what it calls is
  known from the way it ends.

  Key definitions include:
    * `Serving.failureCalls`
    * `Serving.ReloadExit`

  Key theorems include:
    * `Serving.exit_of_performs`
-/

------------------------------------------------------------
-- Exits
------------------------------------------------------------

namespace AjarGateway

namespace Serving

open Http Interleaving Store

/- The calls with which a failed reload ends. -/
def failureCalls
    (detail reason : String) : List (Call gatewaySignature) :=
  [⟨.fetchAdd .storeReloadFailuresTotal, ()⟩,
    ⟨.eprintln
      ⟨"error", "store_reload_failed",
        [("reason", .string reason),
          ("detail", .string detail)]⟩, ()⟩]

/- The answer to a failed reload. -/
def failureResponse (detail : String) : Response Body :=
  problemResponse 409 "AJAR_GATEWAY_STORE_RELOAD_FAILED"
    "Store reload failed" detail

@[simp] theorem failureResponse_status (detail : String) :
    (failureResponse detail).status = 409 :=
  rfl

def lowerSequenceDetail : String :=
  "prepared manifest sequence is lower than the " ++
    "currently served sequence"

/- How a reload ends, with its calls and its answer. -/
inductive ReloadExit (state : ProxyState) :
    List (Call gatewaySignature) → Response Body → Prop where
  | notConfigured :
      ReloadExit state
        (failureCalls "no content store configured"
          "no_content_store_configured")
        (failureResponse "no content store configured")
  | notLoaded
      (path : Path)
      (error : StoreLoadError)
      (hDir : state.config.storeDir = some path) :
      ReloadExit state
        (⟨.loadFromDir path, .error error⟩ ::
          failureCalls error.message "validation_failed")
        (failureResponse error.message)
  | lowerSequence
      (path : Path)
      (loaded : PreparedContentStore)
      (hDir : state.config.storeDir = some path) :
      ReloadExit state
        (⟨.loadFromDir path, .ok loaded⟩ ::
          ⟨.writeStore (assignUnlessLower loaded),
              .returned⟩ ::
            (failureCalls lowerSequenceDetail
                "sequence_rollback" ++
              [⟨.dropGuard, ()⟩]))
        (failureResponse lowerSequenceDetail)
  | poisoned
      (path : Path)
      (loaded : PreparedContentStore)
      (hDir : state.config.storeDir = some path) :
      ReloadExit state
        (⟨.loadFromDir path, .ok loaded⟩ ::
          ⟨.writeStore (assignUnlessLower loaded),
              .poisoned⟩ ::
            (failureCalls "content store state unavailable"
                "store_state_unavailable" ++
              [⟨.dropGuard, ()⟩]))
        (failureResponse "content store state unavailable")
  | reloaded
      (path : Path)
      (loaded : PreparedContentStore)
      (hDir : state.config.storeDir = some path) :
      ReloadExit state
        [⟨.loadFromDir path, .ok loaded⟩,
          ⟨.writeStore (assignUnlessLower loaded),
            .assigned⟩,
          ⟨.fetchAdd .storeReloadsTotal, ()⟩,
          ⟨.resetExpiryLogged, ()⟩,
          ⟨.eprintln
            ⟨"info", "store_reloaded",
              [("views",
                  .number (toString loaded.viewCount)),
                ("manifest_sequence",
                  .number
                    (toString
                      loaded.manifestSequence))]⟩, ()⟩]
        (reloadedResponse loaded.viewCount
          loaded.manifestSequence)

end Serving

end AjarGateway

------------------------------------------------------------
-- Every Reload Takes One
------------------------------------------------------------

namespace AjarGateway

namespace Serving

open Http Interleaving Store

variable {state : ProxyState}
variable {calls : List (Call gatewaySignature)}
variable {answer : Response Body}

theorem calls_of_reloadFailed
    {detail reason : String}
    (hPerforms :
      Performs (reloadFailed detail reason) calls
        (.ret answer)) :
    calls = failureCalls detail reason ∧
      answer = failureResponse detail := by
  cases hPerforms with
  | step hPerforms =>
      cases hPerforms with
      | step hPerforms =>
          cases hPerforms
          exact ⟨rfl, rfl⟩

/- A failed reload that holds the guard drops it last. -/
theorem calls_of_failedUnderGuard
    {detail reason : String}
    (hPerforms :
      Performs
        (reloadFailed detail reason >>= fun response =>
          dropGuard >>= fun _ => pure response)
        calls (.ret answer)) :
    calls = failureCalls detail reason ++ [⟨.dropGuard, ()⟩] ∧
      answer = failureResponse detail := by
  rcases (performs_bind_iff _ _ _ _).mp hPerforms with
    ⟨_, _, _, rfl, hFailed, hDropped⟩
  rcases calls_of_reloadFailed hFailed with ⟨rfl, rfl⟩
  cases hDropped with
  | step hReturned =>
      cases hReturned
      exact ⟨rfl, rfl⟩

/- The exits after a successful load. -/
theorem exit_of_commitStore
    {path : Path} {loaded : PreparedContentStore}
    (hDir : state.config.storeDir = some path)
    (hPerforms :
      Performs (commitStore loaded) calls (.ret answer)) :
    ReloadExit state
      (⟨.loadFromDir path, .ok loaded⟩ :: calls) answer := by
  cases hPerforms with
  | @step _ _ reply _ _ hPerforms =>
      cases reply with
      | assigned =>
          cases hPerforms with
          | step hPerforms =>
              cases hPerforms with
              | step hPerforms =>
                  cases hPerforms with
                  | step hPerforms =>
                      cases hPerforms
                      exact .reloaded path loaded hDir
      | returned =>
          rcases calls_of_failedUnderGuard hPerforms with
            ⟨rfl, rfl⟩
          exact .lowerSequence path loaded hDir
      | poisoned =>
          rcases calls_of_failedUnderGuard hPerforms with
            ⟨rfl, rfl⟩
          exact .poisoned path loaded hDir

/- A reload takes one of the exits. -/
theorem exit_of_performs
    (hPerforms :
      Performs (reloadStore state) calls (.ret answer)) :
    ReloadExit state calls answer := by
  unfold reloadStore at hPerforms
  split at hPerforms
  · rename_i path hDir _
    cases hPerforms with
    | @step _ _ result _ _ hPerforms =>
        rcases result with error | loaded
        · rcases calls_of_reloadFailed hPerforms with
            ⟨rfl, rfl⟩
          exact .notLoaded path error hDir
        · exact exit_of_commitStore hDir hPerforms
  · rcases calls_of_reloadFailed hPerforms with ⟨rfl, rfl⟩
    exact .notConfigured

/- A contract is met when each exit keeps it. -/
theorem meets_reloadStore_of_exits
    {guard : List (Call gatewaySignature) → GatewayOp → Prop}
    {post : List (Call gatewaySignature) → Response Body →
      Prop}
    (hExits : ∀ calls answer,
      ReloadExit state calls answer →
        Guarded guard [] calls ∧ post calls answer) :
    (reloadStore state).Meets guard post [] := by
  apply Program.meets_of_performs
    (default : Surroundings).reply
  intro calls answer hPerforms
  exact hExits calls answer (exit_of_performs hPerforms)

end Serving

end AjarGateway
