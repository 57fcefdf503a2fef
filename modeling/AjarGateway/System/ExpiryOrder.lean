import AjarGateway.System.ExpiryLog

/-
  The order of steps in which an expiry is logged once.

  A reload installs its store in one step and resets the flag
  in another.  The flag follows the store in every run whose
  requests exchange it neither between these two steps of a
  reload nor after their store has been replaced.

  Key definitions include:
    * `System.Resetting`
    * `System.ExchangesInOrder`

  Key theorems include:
    * `System.flagFollowsStore_of_inOrder`
    * `System.expiry_logged_once`
-/

------------------------------------------------------------
-- The Steps Of A Reload
------------------------------------------------------------

namespace AjarGateway

namespace System

open Http Interleaving Serving Store

/- A handler resets the flag once, after an assignment. -/
def ResetsLast
    (past : List (Call gatewaySignature)) :
    GatewayOp → Prop
| .resetExpiryLogged =>
    (∃ update, ⟨.writeStore update, .assigned⟩ ∈ past) ∧
      ⟨.resetExpiryLogged, ()⟩ ∉ past
| .writeStore _ => ⟨.resetExpiryLogged, ()⟩ ∉ past
| _ => True

theorem resetsLast_of_exit
    {state : ProxyState}
    {calls : List (Call gatewaySignature)}
    {answer : Response Body}
    (hExit : ReloadExit state calls answer) :
    Guarded ResetsLast [] calls := by
  cases hExit <;> simp [failureCalls, ResetsLast]

theorem resetsLast_handle
    (lib : Externals)
    (state : ProxyState)
    (incoming : Incoming) :
    (handle lib state incoming).Meets ResetsLast
      (fun _ _ => True) [] := by
  apply meets_handle_of
  case hPublic =>
    intro past op hStage
    cases op with
    | writeStore update =>
        exact absurd hStage (Nat.not_succ_le_zero 0)
    | resetExpiryLogged =>
        exact absurd hStage (Nat.not_succ_le_zero 0)
    | _ => trivial
  case hReload =>
    exact meets_reloadStore_of_exits fun _ _ hExit =>
      ⟨resetsLast_of_exit hExit, trivial⟩
  case hLoads => exact fun _ _ => trivial

end System

end AjarGateway

------------------------------------------------------------
-- Exchanges In Order
------------------------------------------------------------

namespace AjarGateway

namespace System

open Http Interleaving Serving Store

variable {lib : Externals} {state : ProxyState}

/- A reload has installed its store and not yet reset. -/
def Resetting
    (events : List (Event (gateway lib state)))
    (thread : Nat) : Prop :=
  (∃ update,
    .call thread ⟨.writeStore update, .assigned⟩ ∈ events) ∧
      .call thread ⟨.resetExpiryLogged, ()⟩ ∉ events

/- How many stores have been installed after the first. -/
def installations
    (events : List (Event (gateway lib state))) : Nat :=
  countCalls installs events

/-
  Requests exchange the flag only while their store is the
  installed one and no reload still has to reset it.
-/
def ExchangesInOrder
    (events : List (Event (gateway lib state))) : Prop :=
  ∀ first second thread flagWasClear,
    events =
        first ++
          .call thread
              ⟨.compareExchangeExpiryLogged, flagWasClear⟩ ::
            second →
      OfStore first (installations first) thread ∧
        ∀ other, ¬ Resetting first other

/- A request of the installed store has exchanged. -/
def Exchanged
    (events : List (Event (gateway lib state))) : Prop :=
  ∃ thread flagWasClear,
    .call thread
        ⟨.compareExchangeExpiryLogged, flagWasClear⟩ ∈
        events ∧
      OfStore events (installations events) thread

/- The flag is that of the store once all reloads reset. -/
structure FlagOwned
    (events : List (Event (gateway lib state)))
    (flag : Bool) : Prop where
  unfinished : ∀ thread,
    Resetting events thread → ¬ Exchanged events
  settled :
    (∀ thread, ¬ Resetting events thread) →
      (flag = true ↔ Exchanged events)

variable {shared : SharedState}
variable {events first second : List (Event (gateway lib state))}
variable {after : Config (gateway lib state)}
variable {thread : Nat}

/- No handler reads a store before it is installed. -/
theorem storeNumber_le
    {installed number : Nat}
    (hNumber :
      storeNumber thread installed events = some number) :
    number ≤ installed + installations events := by
  unfold installations
  induction events generalizing installed with
  | nil => cases hNumber
  | cons event rest ih =>
      rw [countCalls_cons]
      unfold storeNumber at hNumber
      split at hNumber
      · cases hNumber
        omega
      · split at hNumber
        · rename_i hInstalls
          have hRest := ih hNumber
          rw [if_pos hInstalls]
          omega
        · have hRest := ih hNumber
          omega

/- A handler that has exchanged keeps its store number. -/
theorem ofStore_append_iff
    {flagWasClear : Bool} {number : Nat}
    (hRun : Run (.initial shared) events after)
    (hExchange :
      .call thread
          ⟨.compareExchangeExpiryLogged, flagWasClear⟩ ∈
        events)
    (more : List (Event (gateway lib state))) :
    OfStore (events ++ more) number thread ↔
      OfStore events number thread := by
  rcases number_after_exchange hRun hExchange with
    ⟨known, hKnown⟩
  unfold OfStore
  rw [storeNumber_append hKnown, hKnown]

end System

end AjarGateway

------------------------------------------------------------
-- The Owner Of The Flag
------------------------------------------------------------

namespace AjarGateway

namespace System

open Http Interleaving Serving Store

variable {lib : Externals} {state : ProxyState}
variable {shared : SharedState}
variable {events : List (Event (gateway lib state))}
variable {event : Event (gateway lib state)}
variable {before after : Config (gateway lib state)}
variable {thread : Nat} {flag : Bool}

/- An event that neither exchanges nor installs. -/
theorem exchanged_snoc_iff
    (hRun : Run (.initial shared) events before)
    (hNoExchange : ∀ thread flagWasClear,
      event ≠
        .call thread
          ⟨.compareExchangeExpiryLogged, flagWasClear⟩)
    (hNoInstall : event.counts installs = false) :
    Exchanged (events ++ [event]) ↔ Exchanged events := by
  have hSame :
      installations (events ++ [event]) =
        installations events := by
    unfold installations
    rw [countCalls_snoc, hNoInstall]
    rfl
  unfold Exchanged
  rw [hSame]
  constructor
  · rintro ⟨other, flagWasClear, hMem, hNumber⟩
    rcases List.mem_append.mp hMem with hEarlier | hLast
    · exact ⟨other, flagWasClear, hEarlier,
        (ofStore_append_iff hRun hEarlier _).mp hNumber⟩
    · rw [List.mem_singleton] at hLast
      exact absurd hLast.symm (hNoExchange _ _)
  · rintro ⟨other, flagWasClear, hMem, hNumber⟩
    exact ⟨other, flagWasClear,
      List.mem_append_left _ hMem,
      (ofStore_append_iff hRun hMem _).mpr hNumber⟩

/- An event that neither assigns nor resets. -/
theorem resetting_snoc_iff
    (hNoAssign : ∀ thread update,
      event ≠
        .call thread ⟨.writeStore update, .assigned⟩)
    (hNoReset : ∀ thread,
      event ≠ .call thread ⟨.resetExpiryLogged, ()⟩) :
    Resetting (events ++ [event]) thread ↔
      Resetting events thread := by
  have hAssign (update) :
      (.call thread ⟨.writeStore update, .assigned⟩ ∈
          events ++ [event] ↔
        .call thread ⟨.writeStore update, .assigned⟩ ∈
          events) := by
    rw [List.mem_append, List.mem_singleton]
    exact or_iff_left fun hLast =>
      hNoAssign _ _ hLast.symm
  have hReset :
      .call thread ⟨.resetExpiryLogged, ()⟩ ∈
          events ++ [event] ↔
        .call thread ⟨.resetExpiryLogged, ()⟩ ∈
          events := by
    rw [List.mem_append, List.mem_singleton]
    exact or_iff_left fun hLast => hNoReset _ hLast.symm
  unfold Resetting
  simp only [hAssign, hReset]

/- The event concerns neither the flag nor its owner. -/
def Unrelated : Event (gateway lib state) → Prop
| .call _ ⟨.compareExchangeExpiryLogged, _⟩ => False
| .call _ ⟨.resetExpiryLogged, _⟩ => False
| .call _ ⟨.writeStore _, .assigned⟩ => False
| _ => True

theorem Unrelated.not_installs
    (hUnrelated : Unrelated event) :
    event.counts installs = false := by
  cases event with
  | call thread call =>
      rcases call with ⟨op, reply⟩
      cases op with
      | writeStore update =>
          cases reply with
          | assigned => exact hUnrelated.elim
          | _ => rfl
      | _ => rfl
  | _ => rfl

theorem FlagOwned.unrelated
    (hOwned : FlagOwned events flag)
    (hRun : Run (.initial shared) events before)
    (hUnrelated : Unrelated event) :
    FlagOwned (events ++ [event]) flag := by
  have hExchanged :
      Exchanged (events ++ [event]) ↔ Exchanged events := by
    apply exchanged_snoc_iff hRun
    · rintro thread flagWasClear rfl
      exact hUnrelated
    · exact hUnrelated.not_installs
  have hResetting (thread : Nat) :
      Resetting (events ++ [event]) thread ↔
        Resetting events thread := by
    apply resetting_snoc_iff
    · rintro thread update rfl
      exact hUnrelated
    · rintro thread rfl
      exact hUnrelated
  constructor
  · intro thread hUnfinished
    rw [hExchanged]
    exact hOwned.unfinished thread
      ((hResetting thread).mp hUnfinished)
  · intro hSettled
    rw [hExchanged]
    apply hOwned.settled
    intro thread hUnfinished
    exact hSettled thread
      ((hResetting thread).mpr hUnfinished)

/- An exchange is made while the flag is owned. -/
theorem FlagOwned.exchange
    {flagWasClear : Bool}
    (hOrder :
      ExchangesInOrder
        (events ++
          [.call thread
            ⟨.compareExchangeExpiryLogged,
              flagWasClear⟩])) :
    FlagOwned
      (events ++
        [.call thread
          ⟨.compareExchangeExpiryLogged, flagWasClear⟩])
      true := by
  rcases hOrder events [] thread flagWasClear rfl with
    ⟨hNumber, hNone⟩
  constructor
  · intro other hUnfinished
    have hEarlier : Resetting events other :=
      (resetting_snoc_iff (by simp) (by simp)).mp
        hUnfinished
    exact absurd hEarlier (hNone other)
  · intro _
    refine ⟨fun _ => ?_, fun _ => rfl⟩
    refine ⟨thread, flagWasClear, by simp, ?_⟩
    unfold OfStore installations
    rw [countCalls_snoc]
    exact storeNumber_append hNumber _

/- A reload that resets the flag clears it for its store. -/
theorem FlagOwned.reset
    (hOwned : FlagOwned events flag)
    (hRun : Run (.initial shared) events before)
    (hUnfinished : Resetting events thread) :
    FlagOwned
      (events ++ [.call thread ⟨.resetExpiryLogged, ()⟩])
      false := by
  have hNone :
      ¬ Exchanged
        (events ++
          [.call thread ⟨.resetExpiryLogged, ()⟩]) := by
    rw [exchanged_snoc_iff hRun (by simp) rfl]
    exact hOwned.unfinished thread hUnfinished
  exact ⟨fun _ _ => hNone, fun _ => by simpa using hNone⟩

/- No request of a store has exchanged when it is installed. -/
theorem FlagOwned.assign
    {update :
      PreparedContentStore → Option PreparedContentStore}
    (hRun : Run (.initial shared) events before)
    (hNoReset :
      .call thread ⟨.resetExpiryLogged, ()⟩ ∉ events) :
    FlagOwned
      (events ++
        [.call thread ⟨.writeStore update, .assigned⟩])
      flag := by
  have hNone :
      ¬ Exchanged
        (events ++
          [.call thread ⟨.writeStore update, .assigned⟩]) := by
    rintro ⟨other, flagWasClear, hMem, hNumber⟩
    have hEarlier :
        .call other
            ⟨.compareExchangeExpiryLogged, flagWasClear⟩ ∈
          events := by
      simpa using hMem
    rw [ofStore_append_iff hRun hEarlier] at hNumber
    have hLe := storeNumber_le hNumber
    have hMore :
        installations
            (events ++
              [.call thread
                ⟨.writeStore update, .assigned⟩]) =
          installations events + 1 :=
      countCalls_snoc installs events _
    omega
  refine ⟨fun _ _ => hNone, fun hSettled => ?_⟩
  have hUnfinished :
      Resetting
        (events ++
          [.call thread ⟨.writeStore update, .assigned⟩])
        thread :=
    ⟨⟨update, by simp⟩, by simpa using hNoReset⟩
  exact absurd hUnfinished (hSettled thread)

/- The owner of the flag after one more event. -/
theorem FlagOwned.step
    (hRun : Run (.initial shared) events before)
    (hStep : Step before event after)
    (hOrder : ExchangesInOrder (events ++ [event]))
    (hOwned :
      FlagOwned events before.state.manifestExpiryLogged) :
    FlagOwned (events ++ [event])
      after.state.manifestExpiryLogged := by
  have hFlag :
      after.state.manifestExpiryLogged =
        noteFlag before.state.manifestExpiryLogged event := by
    rw [flag_eq_foldl (hRun.snoc hStep), flag_eq_foldl hRun,
      List.foldl_append]
    rfl
  rw [hFlag]
  cases event with
  | call thread call =>
      rcases (hRun.snoc hStep).performs_of_call with
        ⟨_, _, incoming, rest, _, _, _, _, hPerforms⟩
      have hGuard := hPerforms.guard
        (resetsLast_handle lib state incoming)
      rw [List.nil_append] at hGuard
      rcases call with ⟨op, reply⟩
      cases op with
      | compareExchangeExpiryLogged => exact .exchange hOrder
      | resetExpiryLogged =>
          rcases hGuard with ⟨⟨update, hAssign⟩, hReset⟩
          rw [mem_callsOf_iff] at hAssign hReset
          exact hOwned.reset hRun
            ⟨⟨update, hAssign⟩, hReset⟩
      | writeStore update =>
          cases reply with
          | assigned =>
              have hReset :
                  ⟨.resetExpiryLogged, ()⟩ ∉
                    callsOf thread events :=
                hGuard
              rw [mem_callsOf_iff] at hReset
              exact .assign hRun hReset
          | _ => exact hOwned.unrelated hRun trivial
      | _ => exact hOwned.unrelated hRun trivial
  | _ => exact hOwned.unrelated hRun trivial

theorem ExchangesInOrder.earlier
    {first second : List (Event (gateway lib state))}
    (hOrder : ExchangesInOrder (first ++ second)) :
    ExchangesInOrder first := by
  rintro early late thread flagWasClear rfl
  exact hOrder early (late ++ second) thread flagWasClear
    (by simp)

/- In a run with exchanges in order the flag has an owner. -/
theorem flagOwned_of_inOrder
    (hClear : shared.manifestExpiryLogged = false)
    (hRun : Run (.initial shared) events after)
    (hOrder : ExchangesInOrder events) :
    FlagOwned events after.state.manifestExpiryLogged := by
  induction hRun with
  | nil =>
      have hNone :
          ¬ Exchanged
            ([] : List (Event (gateway lib state))) := by
        rintro ⟨_, _, hMem, _⟩
        cases hMem
      refine ⟨fun _ _ => hNone, fun _ => ?_⟩
      rw [show (Config.initial shared :
        Config (gateway lib state)).state = shared from rfl,
        hClear]
      simpa using hNone
  | snoc hRun hStep ih =>
      exact .step hRun hStep hOrder (ih hOrder.earlier)

/- The flag follows the store when exchanges are in order. -/
theorem flagFollowsStore_of_inOrder
    (hClear : shared.manifestExpiryLogged = false)
    (hOrder : ExchangesInOrder events) :
    FlagFollowsStore shared events := by
  intro first second thread flagWasClear before hEvents
    hBefore
  rcases hOrder first second thread flagWasClear hEvents with
    ⟨hNumber, hNone⟩
  have hFirst : ExchangesInOrder first := by
    rw [hEvents] at hOrder
    exact hOrder.earlier
  have hOwned := flagOwned_of_inOrder hClear hBefore hFirst
  rw [hOwned.settled hNone, hNumber]
  rfl

end System

end AjarGateway

------------------------------------------------------------
-- Expiry Is Logged Once
------------------------------------------------------------

namespace AjarGateway

namespace System

open Http Interleaving Serving Store

variable {lib : Externals} {state : ProxyState}
variable {shared : SharedState}
variable {events : List (Event (gateway lib state))}
variable {after : Config (gateway lib state)}

/-
  In every run without a failed write the expiry of each
  store is logged once: when the flag is clear at first and
  is exchanged in order, or, more generally, when every
  exchange finds it as its own store has left it.
-/
theorem expiry_logged_once
    (hRun : Run (.initial shared) events after)
    (hQuiet : ∀ thread, .panic thread ∉ events)
    (number : Nat) :
    (shared.manifestExpiryLogged = false →
      ExchangesInOrder events →
        LoggedOnce events after number) ∧
    (FlagFollowsStore shared events →
      LoggedOnce events after number) := by
  have hLogged : FlagFollowsStore shared events →
      LoggedOnce events after number :=
    fun hFlag =>
      loggedOnce_of_flagFollows hRun hQuiet hFlag number
  refine ⟨?_, hLogged⟩
  intro hClear hOrder
  exact hLogged (flagFollowsStore_of_inOrder hClear hOrder)

theorem ExchangesInOrder.of_not_exchanged
    (hEvents : ∀ thread flagWasClear,
      .call thread
          ⟨.compareExchangeExpiryLogged, flagWasClear⟩ ∉
        events) :
    ExchangesInOrder events := by
  rintro first second thread flagWasClear rfl
  exact absurd (by simp) (hEvents thread flagWasClear)

theorem ExchangesInOrder.snoc
    {first : List (Event (gateway lib state))}
    {event : Event (gateway lib state)}
    (hOrder : ExchangesInOrder first)
    (hEvent : ∀ thread flagWasClear,
      event =
          .call thread
            ⟨.compareExchangeExpiryLogged, flagWasClear⟩ →
        OfStore first (installations first) thread ∧
          ∀ other, ¬ Resetting first other) :
    ExchangesInOrder (first ++ [event]) := by
  intro before later thread flagWasClear hEvents
  rcases List.eq_nil_or_concat later with
    rfl | ⟨rest, last, rfl⟩
  · rcases List.append_inj' hEvents rfl with ⟨rfl, hCall⟩
    exact hEvent thread flagWasClear
      (List.singleton_inj.mp hCall)
  · rw [List.concat_eq_append, ← List.cons_append,
      ← List.append_assoc] at hEvents
    rcases List.append_inj' hEvents rfl with ⟨hFirst, _⟩
    exact hOrder before rest thread flagWasClear hFirst

theorem ExchangesInOrder.exchange
    {first : List (Event (gateway lib state))}
    (thread : Nat)
    (flagWasClear : Bool)
    (hOrder : ExchangesInOrder first)
    (hNumber : OfStore first (installations first) thread)
    (hNone : ∀ other, ¬ Resetting first other) :
    ExchangesInOrder
      (first ++
        [.call thread
          ⟨.compareExchangeExpiryLogged,
            flagWasClear⟩]) := by
  apply hOrder.snoc
  rintro other wasClear ⟨⟩
  exact ⟨hNumber, hNone⟩

/- What exchanges nothing does not disturb the order. -/
theorem ExchangesInOrder.append
    {first : List (Event (gateway lib state))}
    (second : List (Event (gateway lib state)))
    (hOrder : ExchangesInOrder first)
    (hSecond : ∀ thread flagWasClear,
      .call thread
          ⟨.compareExchangeExpiryLogged, flagWasClear⟩ ∉
        second) :
    ExchangesInOrder (first ++ second) := by
  induction second using List.reverseRecOn with
  | nil => rwa [List.append_nil]
  | append_singleton second event ih =>
      rw [← List.append_assoc]
      refine ExchangesInOrder.snoc (ih ?_) ?_
      · intro thread flagWasClear hCall
        exact hSecond thread flagWasClear
          (List.mem_append_left _ hCall)
      · rintro thread flagWasClear rfl
        exact absurd (by simp) (hSecond thread flagWasClear)

end System

end AjarGateway

------------------------------------------------------------
-- Two Stores And One Flag
------------------------------------------------------------

namespace AjarGateway

namespace System

open Http Interleaving Serving Store

variable {lib : Externals} {state : ProxyState}

/-
  A new page is published and loaded; the old page expires
  and is logged; the new page is installed, found expired,
  and not logged; then the reload resets the flag.
-/
def silencedEvents :
    List (Event (gateway sampleExt sampleState)) :=
  [.change (samplePageFiles "New")] ++
    (loadEvents sampleExt sampleState 1 sampleDir
        (samplePage "New") ++
      (expiredEvents sampleExt sampleState 0
          (getRequest manifestTarget .empty)
          (samplePage "Old") expirySecond true ++
        (((commitCalls (samplePage "New")).take 1).map
            (Event.call 1) ++
          (expiredEvents sampleExt sampleState 2
              (getRequest manifestTarget .empty)
              (samplePage "New") expirySecond false ++
            (((commitCalls (samplePage "New")).drop 1).map
                (Event.call 1) ++
              [.answer 1
                (reloadedResponse
                  (samplePage "New").viewCount
                  (samplePage "New").manifestSequence)])))))

theorem execs_assign
    {shared : SharedState}
    {current loaded : PreparedContentStore}
    (thread : Nat)
    (hLock : shared.lock = some ⟨current, false, none⟩)
    (hLe :
      current.manifestSequence ≤ loaded.manifestSequence) :
    (gateway lib state).Execs thread shared
      ((commitCalls loaded).take 1)
      (shared.withLock ⟨loaded, false, none⟩) := by
  have hUpdate :
      assignUnlessLower loaded current = some loaded := by
    rw [assignUnlessLower, if_neg (by omega)]
  exact .cons (.assign _ _ _ _ hLock rfl rfl hUpdate)
    (.nil _)

theorem execs_afterAssign
    (thread : Nat)
    (shared : SharedState)
    (loaded : PreparedContentStore) :
    (gateway lib state).Execs thread shared
      ((commitCalls loaded).drop 1)
      { shared.increment .storeReloadsTotal with
        manifestExpiryLogged := false } :=
  .cons (.fetchAdd _ _)
    (.cons (.resetExpiryLogged _)
      (.cons (.eprintln _ _) (.nil _)))

theorem run_silencedEvents :
    ∃ after,
      Run (.initial sampleShared) silencedEvents after ∧
        after.threads 2 = .answered expiredProblem := by
  have hRange : InClockRange expirySecond :=
    ⟨by decide, by decide⟩
  rcases run_change
      (Config.initial sampleShared :
        Config (gateway sampleExt sampleState))
      (samplePageFiles "New") with
    ⟨changed, hChange, hChanged, hThreads⟩
  have hIdle (thread : Nat) :
      changed.threads thread = .idle := by
    rw [hThreads]
    rfl
  have hFiles :
      changed.state.files = samplePageFiles "New" := by
    rw [hChanged]
  rcases run_load rfl rfl (hIdle 1) sampleNow_inClockRange
      (hFiles ▸ samplePage_new_loads) with
    ⟨loaded, hLoad, hLoaded, hRunning, hOthers⟩
  have hOld :
      loaded.state.lock =
        some ⟨samplePage "Old", false, none⟩ := by
    rw [hLoaded, hChanged]
    rfl
  have hClear :
      loaded.state.manifestExpiryLogged = false := by
    rw [hLoaded, hChanged]
    rfl
  rcases run_expired rfl (manifestTarget_served _ _)
      ((hOthers 0 (by decide)).trans (hIdle 0)) hOld hRange
      (le_refl expirySecond) with
    ⟨logged, hLogged, hLoggedState, _, hOthers'⟩
  rw [hClear] at hLogged
  have hCommit :
      Performs (commitStore (samplePage "New"))
        ((commitCalls (samplePage "New")).take 1 ++
          (commitCalls (samplePage "New")).drop 1)
        (.ret
          (reloadedResponse (samplePage "New").viewCount
            (samplePage "New").manifestSequence)) :=
    performs_commit _
  rcases hCommit.split with ⟨assigned, hAssign, hRest⟩
  have hRunning' :
      logged.threads 1 =
        .running (commitStore (samplePage "New")) := by
    rw [hOthers' 1 (by decide), hRunning]
  have hStillOld :
      logged.state.lock =
        some ⟨samplePage "Old", false, none⟩ := by
    rw [hLoggedState]
    exact hOld
  have hInstalled := Run.of_performs hRunning' hAssign
    (execs_assign 1 hStillOld (samplePage_sequence_le _ _))
  have hIdle₂ :
      (({ logged with
          state :=
            logged.state.withLock
              ⟨samplePage "New", false, none⟩ } :
        Config (gateway sampleExt sampleState)).setThread 1
          (.running assigned)).threads 2 = .idle := by
    rw [Config.setThread_threads_of_ne _ _ (by decide)]
    exact (hOthers' 2 (by decide)).trans
      ((hOthers 2 (by decide)).trans (hIdle 2))
  rcases run_expired rfl (manifestTarget_served _ _)
      hIdle₂ rfl hRange (le_refl expirySecond) with
    ⟨silenced, hSilenced, _, hAnswered, hOthers''⟩
  have hSet :
      (logged.state.withLock
        ⟨samplePage "New", false, none⟩).manifestExpiryLogged =
        true := by
    rw [hLoggedState]
    rfl
  rw [Config.setThread_state, hSet] at hSilenced
  have hRunning₁ :
      silenced.threads 1 = .running assigned := by
    rw [hOthers'' 1 (by decide)]
    exact Config.setThread_threads_self _ _ _
  have hDone :=
    (Run.of_performs hRunning₁ hRest
      (execs_afterAssign 1 _ _)).snoc
      (.answer (Config.setThread_threads_self _ _ _))
  refine ⟨_, hChange.append (hLoad.append (hLogged.append
    (hInstalled.append (hSilenced.append hDone)))), ?_⟩
  rw [Config.setThread_setThread,
    Config.setThread_threads_of_ne _ _ (by decide)]
  exact hAnswered

theorem silencedEvents_of_number
    {thread : Nat}
    (hNumber : OfStore silencedEvents 1 thread) :
    thread = 2 := by
  by_contra hNe
  by_cases hOld : thread = 0
  · have hZero :
        storeNumber 0 0 silencedEvents = some 0 :=
      rfl
    rw [hOld, OfStore, hZero] at hNumber
    cases hNumber
  · have hNone :
        storeNumber thread 0 silencedEvents = none := by
      simp [silencedEvents, loadEvents, expiredEvents,
        expiredCalls, expiryCalls, commitCalls, storeNumber,
        Event.counts, readsStore, installs, Ne.symm hOld,
        Ne.symm hNe]
    rw [OfStore, hNone] at hNumber
    cases hNumber

theorem silencedEvents_lines :
    expiryLines silencedEvents 1 = 0 := by
  rfl

/-
  The one request that finds the new page expired is
  answered, and its expiry is never logged.
-/
theorem expiry_logged_once_silenced :
    ∃ after : Config (gateway sampleExt sampleState),
      startup sampleExt sampleConfig (samplePageFiles "Old")
          sampleNow =
        .ok (sampleState, sampleShared) ∧
      Run (.initial sampleShared) silencedEvents after ∧
      (∀ thread, .panic thread ∉ silencedEvents) ∧
      ¬ LoggedOnce silencedEvents after 1 := by
  rcases run_silencedEvents with ⟨after, hRun, hAnswered⟩
  refine ⟨after, sample_startup, hRun, ?_, ?_⟩
  · intro thread hPanic
    simp [silencedEvents, loadEvents, expiredEvents,
      commitCalls] at hPanic
  · intro hLogged
    have hEnded :
        ∀ thread program,
          OfStore silencedEvents 1 thread →
            FoundExpired silencedEvents thread →
              after.threads thread ≠ .running program := by
      intro thread program hNumber _ hRunning
      rw [silencedEvents_of_number hNumber, hAnswered]
        at hRunning
      cases hRunning
    have hFound : FoundExpired silencedEvents 2 := by
      refine ⟨samplePage "New", expirySecond, ?_, ?_,
        le_refl expirySecond⟩
      · simp [silencedEvents, expiredEvents, expiredCalls]
      · simp [silencedEvents, expiredEvents, expiredCalls]
    have hOnce := hLogged.once hEnded
      ⟨2, expiredProblem, rfl, hFound,
        by simp [silencedEvents, expiredEvents]⟩
    rw [silencedEvents_lines] at hOnce
    cases hOnce

/-
  The same, but the new page is requested only after the
  reload was answered.
-/
def renewedEvents :
    List (Event (gateway sampleExt sampleState)) :=
  [.change (samplePageFiles "New")] ++
    (loadEvents sampleExt sampleState 1 sampleDir
        (samplePage "New") ++
      (expiredEvents sampleExt sampleState 0
          (getRequest manifestTarget .empty)
          (samplePage "Old") expirySecond true ++
        (commitEvents sampleExt sampleState 1
            (samplePage "New") ++
          expiredEvents sampleExt sampleState 2
            (getRequest manifestTarget .empty)
            (samplePage "New") expirySecond true)))

theorem run_renewedEvents :
    ∃ after,
      Run (.initial sampleShared) renewedEvents after := by
  have hRange : InClockRange expirySecond :=
    ⟨by decide, by decide⟩
  rcases run_change
      (Config.initial sampleShared :
        Config (gateway sampleExt sampleState))
      (samplePageFiles "New") with
    ⟨changed, hChange, hChanged, hThreads⟩
  have hIdle (thread : Nat) :
      changed.threads thread = .idle := by
    rw [hThreads]
    rfl
  have hFiles :
      changed.state.files = samplePageFiles "New" := by
    rw [hChanged]
  rcases run_load rfl rfl (hIdle 1) sampleNow_inClockRange
      (hFiles ▸ samplePage_new_loads) with
    ⟨loaded, hLoad, hLoaded, hRunning, hOthers⟩
  have hOld :
      loaded.state.lock =
        some ⟨samplePage "Old", false, none⟩ := by
    rw [hLoaded, hChanged]
    rfl
  have hClear :
      loaded.state.manifestExpiryLogged = false := by
    rw [hLoaded, hChanged]
    rfl
  rcases run_expired rfl (manifestTarget_served _ _)
      ((hOthers 0 (by decide)).trans (hIdle 0)) hOld hRange
      (le_refl expirySecond) with
    ⟨logged, hLogged, hLoggedState, _, hOthers'⟩
  rw [hClear] at hLogged
  rcases run_commit
      ((hOthers' 1 (by decide)).trans hRunning)
      (by rw [hLoggedState]; exact hOld)
      (samplePage_sequence_le _ _) with
    ⟨renewed, hCommit, hRenewed, hOthers''⟩
  rcases run_expired rfl (manifestTarget_served _ _)
      ((hOthers'' 2 (by decide)).trans
        ((hOthers' 2 (by decide)).trans
          ((hOthers 2 (by decide)).trans (hIdle 2))))
      (by rw [hRenewed, committed_lock]) hRange
      (le_refl expirySecond) with
    ⟨after, hAgain, _, _, _⟩
  rw [show renewed.state.manifestExpiryLogged = false by
    rw [hRenewed]; rfl] at hAgain
  exact ⟨after, hChange.append (hLoad.append
    (hLogged.append (hCommit.append hAgain)))⟩

/- A request that has still to exchange the flag. -/
def beforeExchange
    (thread : Nat)
    (store : PreparedContentStore) :
    List (Event (gateway sampleExt sampleState)) :=
  [.start thread
      (.publicRequest (getRequest manifestTarget .empty)),
    .call thread ⟨.fetchAdd .requestsTotal, ()⟩,
    .call thread ⟨.readStore, some store⟩,
    .call thread ⟨.nowUnixSeconds, expirySecond⟩]

/- A request that has exchanged the flag when clear. -/
def afterExchange
    (thread : Nat) :
    List (Event (gateway sampleExt sampleState)) :=
  [.call thread ⟨.eprintln expiryLine, ()⟩,
    .answer thread expiredProblem]

theorem expiredEvents_eq
    (thread : Nat)
    (store : PreparedContentStore) :
    expiredEvents sampleExt sampleState thread
        (getRequest manifestTarget .empty) store
        expirySecond true =
      beforeExchange thread store ++
        ([.call thread
            ⟨.compareExchangeExpiryLogged, true⟩] ++
          afterExchange thread) := by
  rfl

/- Each store is the installed one when it is logged. -/
theorem renewedEvents_inOrder :
    ExchangesInOrder renewedEvents := by
  have hFirst :
      ExchangesInOrder
        ([.change (samplePageFiles "New")] ++
            loadEvents sampleExt sampleState 1 sampleDir
              (samplePage "New") ++
          beforeExchange 0 (samplePage "Old")) :=
    .of_not_exchanged (by simp [loadEvents, beforeExchange])
  have hOld := (hFirst.exchange 0 true rfl (by
      simp [Resetting, loadEvents, beforeExchange])).append
    (afterExchange 0 ++
      (commitEvents sampleExt sampleState 1
          (samplePage "New") ++
        beforeExchange 2 (samplePage "New")))
    (by
      simp [afterExchange, commitEvents, commitCalls,
        beforeExchange])
  have hNew := (hOld.exchange 2 true rfl (by
      simp [Resetting, loadEvents, beforeExchange,
        afterExchange, commitEvents, commitCalls])).append
    (afterExchange 2)
    (by simp [afterExchange])
  rw [renewedEvents, expiredEvents_eq, expiredEvents_eq]
  simpa using hNew

/- The expiry of each of the two stores is logged once. -/
theorem expiry_logged_once_sample :
    ∃ after : Config (gateway sampleExt sampleState),
      Run (.initial sampleShared) renewedEvents after ∧
        LoggedOnce renewedEvents after 0 ∧
          LoggedOnce renewedEvents after 1 := by
  rcases run_renewedEvents with ⟨after, hRun⟩
  have hQuiet : ∀ thread, .panic thread ∉ renewedEvents := by
    intro thread hPanic
    simp [renewedEvents, loadEvents, expiredEvents,
      commitEvents] at hPanic
  exact ⟨after, hRun,
    (expiry_logged_once hRun hQuiet 0).1 rfl
      renewedEvents_inOrder,
    (expiry_logged_once hRun hQuiet 1).1 rfl
      renewedEvents_inOrder⟩

end System

end AjarGateway
