import AjarGateway.Serving.ExpiryLog
import AjarGateway.System.Solo

/-
  How often the expiry of a store is logged in a run.

  One flag is shared by all the stores that are installed,
  and a reload resets it in a step of its own.  The expiry of
  a store is logged once as long as every exchange finds the
  flag as the requests of its own store have left it.

  Key definitions include:
    * `System.storeNumber`
    * `System.LoggedOnce`
    * `System.FlagFollowsStore`

  Key theorems include:
    * `System.exchange_unique`
    * `System.loggedOnce_of_flagFollows`
-/

------------------------------------------------------------
-- The Requests Of A Store
------------------------------------------------------------

namespace AjarGateway

namespace System

open Http Interleaving Serving Store

/- The call installs a store. -/
def installs : Nat → Call gatewaySignature → Bool
| _, ⟨.writeStore _, .assigned⟩ => true
| _, _ => false

/- The call is the one that reads the store of a handler. -/
def readsStore (thread : Nat) :
    Nat → Call gatewaySignature → Bool
| caller, ⟨.readStore, some _⟩ => caller == thread
| _, _ => false

variable {lib : Externals} {state : ProxyState}

/-
  The number of the store that a handler has read, when the
  store before the events has a given number.
-/
def storeNumber (thread installed : Nat) :
    List (Event (gateway lib state)) → Option Nat
| [] => none
| event :: rest =>
    if event.counts (readsStore thread) = true then
      some installed
    else if event.counts installs = true then
      storeNumber thread (installed + 1) rest
    else
      storeNumber thread installed rest

/- A handler keeps the store that it has read. -/
theorem storeNumber_append
    {thread installed number : Nat}
    {first : List (Event (gateway lib state))}
    (hNumber :
      storeNumber thread installed first = some number)
    (second : List (Event (gateway lib state))) :
    storeNumber thread installed (first ++ second) =
      some number := by
  induction first generalizing installed with
  | nil => cases hNumber
  | cons event rest ih =>
      unfold storeNumber at hNumber
      rw [List.cons_append, storeNumber]
      split at hNumber
      · rename_i hReads
        rw [if_pos hReads]
        exact hNumber
      · rename_i hReads
        rw [if_neg hReads]
        split at hNumber
        · rename_i hInstalls
          rw [if_pos hInstalls]
          exact ih hNumber
        · rename_i hInstalls
          rw [if_neg hInstalls]
          exact ih hNumber

/- A handler that has read a store has one. -/
theorem storeNumber_of_read
    {thread : Nat} {store : PreparedContentStore}
    {events : List (Event (gateway lib state))}
    (hRead :
      .call thread ⟨.readStore, some store⟩ ∈ events)
    (installed : Nat) :
    ∃ number,
      storeNumber thread installed events =
        some number := by
  induction events generalizing installed with
  | nil => cases hRead
  | cons event rest ih =>
      rw [storeNumber]
      split
      · exact ⟨installed, rfl⟩
      · rename_i hReads
        have hLater :
            .call thread ⟨.readStore, some store⟩ ∈
              rest := by
          rcases List.mem_cons.mp hRead with rfl | hLater
          · simp [Event.counts, readsStore] at hReads
          · exact hLater
        split
        · exact ih hLater _
        · exact ih hLater _

/- A handler answers from a store of a given number. -/
def OfStore
    (events : List (Event (gateway lib state)))
    (number thread : Nat) : Prop :=
  storeNumber thread 0 events = some number

/- A handler has found the store that it has read expired. -/
def FoundExpired
    (events : List (Event (gateway lib state)))
    (thread : Nat) : Prop :=
  ∃ (store : PreparedContentStore) (now : Int),
    .call thread ⟨.readStore, some store⟩ ∈ events ∧
      .call thread ⟨.nowUnixSeconds, now⟩ ∈ events ∧
        store.manifest.expiresAtUnix ≤ now

/- The expiry events written by the requests of a store. -/
def expiryLines
    (events : List (Event (gateway lib state)))
    (number : Nat) : Nat :=
  countCalls
    (fun thread call =>
      logsExpiry call &&
        storeNumber thread 0 events == some number)
    events

/-
  The expiry of a store is logged at most once, not at all
  unless a request finds the store expired, and once as soon
  as such a request is answered and none is still running.
-/
structure LoggedOnce
    (events : List (Event (gateway lib state)))
    (after : Config (gateway lib state))
    (number : Nat) : Prop where
  atMostOnce : expiryLines events number ≤ 1
  whenExpired :
    (∀ thread,
      OfStore events number thread →
        ¬ FoundExpired events thread) →
      expiryLines events number = 0
  once :
    (∀ thread program,
      OfStore events number thread →
        FoundExpired events thread →
          after.threads thread ≠ .running program) →
      (∃ thread answer,
        OfStore events number thread ∧
          FoundExpired events thread ∧
            .answer thread answer ∈ events) →
        expiryLines events number = 1

/-
  Whenever a request exchanges the flag, the flag is set
  exactly if an earlier request of the same store has done
  so.
-/
def FlagFollowsStore
    (shared : SharedState)
    (events : List (Event (gateway lib state))) : Prop :=
  ∀ first second thread flagWasClear,
  ∀ before : Config (gateway lib state),
    events =
        first ++
          .call thread
              ⟨.compareExchangeExpiryLogged, flagWasClear⟩ ::
            second →
      Run (.initial shared) first before →
        (before.state.manifestExpiryLogged = true ↔
          ∃ other earlier,
            .call other
                ⟨.compareExchangeExpiryLogged, earlier⟩ ∈
                first ∧
              storeNumber other 0 first =
                storeNumber thread 0 first)

end System

end AjarGateway

------------------------------------------------------------
-- Calls Of Expired Requests
------------------------------------------------------------

namespace AjarGateway

namespace System

open Http Interleaving Serving Store

variable {lib : Externals} {state : ProxyState}
variable {shared : SharedState}
variable {events : List (Event (gateway lib state))}
variable {after : Config (gateway lib state)}
variable {thread : Nat}

/- A call is not the first when the first is another. -/
theorem exists_cons_of_ne
    {α : Type} {head value : α}
    {first second rest : List α}
    (hNe : value ≠ head)
    (hSplit : first ++ value :: second = head :: rest) :
    ∃ tail,
      first = head :: tail ∧
        tail ++ value :: second = rest := by
  cases first with
  | nil =>
      injection hSplit with hHead _
      exact absurd hHead hNe
  | cons other tail =>
      injection hSplit with hHead hTail
      exact ⟨tail, by rw [hHead], hTail⟩

/- Before its exchange a handler has found its store expired. -/
theorem expiredCalls_split_exchange
    {store : PreparedContentStore} {now : Int}
    {flagWasClear wasClear : Bool}
    {first second : List (Call gatewaySignature)}
    (hCalls :
      first ++
          ⟨.compareExchangeExpiryLogged, wasClear⟩ ::
            second =
        expiredCalls store now flagWasClear) :
    ⟨.readStore, some store⟩ ∈ first ∧
      ⟨.nowUnixSeconds, now⟩ ∈ first := by
  rcases exists_cons_of_ne (by simp) hCalls with
    ⟨_, rfl, hRead⟩
  rcases exists_cons_of_ne (by simp) hRead with
    ⟨_, rfl, hClock⟩
  rcases exists_cons_of_ne (by simp) hClock with
    ⟨last, rfl, _⟩
  constructor <;> simp

/- A line is the last call, after an exchange that won. -/
theorem expiredCalls_split_line
    {store : PreparedContentStore} {now : Int}
    {flagWasClear : Bool} {line : Call gatewaySignature}
    {first second : List (Call gatewaySignature)}
    (hLine : logsExpiry line = true)
    (hCalls :
      first ++ line :: second =
        expiredCalls store now flagWasClear) :
    flagWasClear = true ∧ second = [] := by
  have hOther {call : Call gatewaySignature}
      (hCall : logsExpiry call = false) : line ≠ call := by
    rintro rfl
    rw [hLine] at hCall
    cases hCall
  rcases exists_cons_of_ne (hOther rfl) hCalls with
    ⟨_, rfl, hRead⟩
  rcases exists_cons_of_ne (hOther rfl) hRead with
    ⟨_, rfl, hClock⟩
  rcases exists_cons_of_ne (hOther rfl) hClock with
    ⟨_, rfl, hExchange⟩
  rcases exists_cons_of_ne (hOther rfl) hExchange with
    ⟨last, rfl, hLast⟩
  cases flagWasClear with
  | false => simp at hLast
  | true =>
      have hSingle :
          last ++ line :: second =
            [⟨.eprintln expiryLine, ()⟩] :=
        hLast
      rcases List.append_eq_singleton_iff.mp hSingle with
        ⟨_, hTail⟩ | ⟨_, hTail⟩
      · injection hTail with _ hSecond
        exact ⟨rfl, hSecond⟩
      · cases hTail

/- A handler that has found its store expired. -/
theorem calls_of_foundExpired
    (hRun : Run (.initial shared) events after)
    (hFound : FoundExpired events thread) :
    ∃ incoming rest store now flagWasClear more answer,
      startsOf thread events = [incoming] ∧
        Performs (handle lib state incoming)
            (callsOf thread events) rest ∧
          callsOf thread events ++ more =
              expiredCalls store now flagWasClear ∧
            Performs rest more (.ret answer) := by
  rcases hFound with ⟨store, now, hRead, hClock, hExpired⟩
  rw [← mem_callsOf_iff] at hRead hClock
  rcases (hRun.traced thread).nil_or_started with
    ⟨_, hCalls, _⟩ | ⟨incoming, rest, hStarts, hPerforms, _⟩
  · rw [hCalls] at hRead
    cases hRead
  · rcases expiry_of_performs lib state hPerforms with
      ⟨other, time, flagWasClear, more, answer, _, hCalls,
        hRest⟩ | hUnexpired
    · exact ⟨incoming, rest, other, time, flagWasClear, more,
        answer, hStarts, hPerforms, hCalls, hRest⟩
    · have hFresh := hUnexpired.fresh store now hRead hClock
      omega

/- It makes its last call before it is answered. -/
theorem answered_of_foundExpired
    (hRun : Run (.initial shared) events after)
    (hQuiet : ∀ thread, .panic thread ∉ events)
    (hFound : FoundExpired events thread)
    (hEnded : ∀ program,
      after.threads thread ≠ .running program) :
    ∃ store now flagWasClear,
      callsOf thread events =
        expiredCalls store now flagWasClear := by
  rcases calls_of_foundExpired hRun hFound with
    ⟨incoming, rest, store, now, flagWasClear, more, answer,
      hStarts, hPerforms, hCalls, hRest⟩
  refine ⟨store, now, flagWasClear, ?_⟩
  cases hStatus : after.threads thread with
  | idle =>
      have hTraced := hRun.traced thread
      rw [hStatus] at hTraced
      rw [hTraced.1] at hStarts
      cases hStarts
  | running program => exact absurd hStatus (hEnded program)
  | answered response =>
      have hTraced := hRun.traced thread
      rw [hStatus] at hTraced
      rcases hTraced with
        ⟨handler, hStarts', _, hWhole⟩
      rw [hStarts, List.singleton_inj] at hStarts'
      subst hStarts'
      have hDone := hPerforms.unique hWhole
      subst hDone
      have hNone := ((performs_ret_iff _ _ _).mp hRest).1
      rw [← hCalls, hNone, List.append_nil]
  | panicked =>
      exact absurd (hRun.panic_mem hStatus) (hQuiet thread)
  | cancelled =>
      rcases hRun.cancelled_waits hStatus with
        ⟨handler, op, next, hStarts', hCancellable, hWaits⟩
      rw [hStarts, List.singleton_inj] at hStarts'
      subst hStarts'
      have hWaiting := hPerforms.unique hWaits
      subst hWaiting
      rcases (performs_call_ret_iff _ _ _ _).mp hRest with
        ⟨reply, tail, rfl, _⟩
      have hMem :
          ⟨op, reply⟩ ∈
            expiredCalls store now flagWasClear := by
        rw [← hCalls]
        exact List.mem_append_right _ List.mem_cons_self
      cases op with
      | requestOrigin upstream =>
          cases flagWasClear <;>
            simp [expiredCalls, expiryCalls] at hMem
      | _ => cases hCancellable

/- A handler that has written the line has made all calls. -/
theorem calls_of_line
    {call : Call gatewaySignature}
    (hRun : Run (.initial shared) events after)
    (hCall : call ∈ callsOf thread events)
    (hLine : logsExpiry call = true) :
    ∃ (store : PreparedContentStore) (now : Int),
      store.manifest.expiresAtUnix ≤ now ∧
        callsOf thread events =
          expiredCalls store now true := by
  rcases (hRun.traced thread).nil_or_started with
    ⟨_, hCalls, _⟩ | ⟨incoming, rest, _, hPerforms, _⟩
  · rw [hCalls] at hCall
    cases hCall
  · rcases expiry_of_performs lib state hPerforms with
      ⟨store, now, flagWasClear, more, _, hExpired, hCalls,
        _⟩ | hUnexpired
    · rcases List.append_of_mem hCall with
        ⟨first, second, hSplit⟩
      have hWhole := hCalls
      rw [hSplit, List.append_assoc, List.cons_append]
        at hWhole
      rcases expiredCalls_split_line hLine hWhole with
        ⟨rfl, hNone⟩
      have hMore := (List.append_eq_nil_iff.mp hNone).2
      rw [hMore, List.append_nil] at hCalls
      exact ⟨store, now, hExpired, hCalls⟩
    · rw [hUnexpired.line call hCall] at hLine
      cases hLine

theorem countP_logsExpiry_le
    (hRun : Run (.initial shared) events after) :
    (callsOf thread events).countP logsExpiry ≤ 1 := by
  by_cases hAny :
      (callsOf thread events).countP logsExpiry = 0
  · omega
  · rcases List.countP_pos_iff.mp
        (Nat.pos_of_ne_zero hAny) with
      ⟨call, hCall, hLine⟩
    rcases calls_of_line hRun hCall hLine with
      ⟨store, now, _, hCalls⟩
    rw [hCalls]
    exact Nat.le_of_eq rfl

end System

end AjarGateway

------------------------------------------------------------
-- Exchanges Of The Flag
------------------------------------------------------------

namespace AjarGateway

namespace System

open Http Interleaving Serving Store

variable {lib : Externals} {state : ProxyState}
variable {shared : SharedState}
variable {events first second : List (Event (gateway lib state))}
variable {after : Config (gateway lib state)}
variable {thread other : Nat} {flagWasClear : Bool}

/- An exchange tells whether the flag was clear. -/
theorem Exec.compareExchange_reply
    {json : SerdeJson} {before after : SharedState}
    (hExec :
      Exec json thread before
        ⟨.compareExchangeExpiryLogged, flagWasClear⟩
        after) :
    flagWasClear = !before.manifestExpiryLogged := by
  cases hExec with
  | compareExchange => rfl

/- An exchange is made by a request that found expiry. -/
theorem foundExpired_before_exchange
    (hRun :
      Run (.initial shared)
        (first ++
          .call thread
              ⟨.compareExchangeExpiryLogged, flagWasClear⟩ ::
            second)
        after) :
    FoundExpired first thread := by
  rcases hRun.performs_of_call with
    ⟨_, _, incoming, rest, _, _, _, _, hPerforms⟩
  rcases expiry_of_performs lib state hPerforms with
    ⟨store, now, _, more, _, hExpired, hCalls, _⟩ |
      hUnexpired
  · rw [List.append_assoc] at hCalls
    rcases expiredCalls_split_exchange hCalls with
      ⟨hRead, hClock⟩
    rw [mem_callsOf_iff] at hRead hClock
    exact ⟨store, now, hRead, hClock, hExpired⟩
  · exact absurd
      (List.mem_append_right _ List.mem_cons_self)
      (hUnexpired.exchange flagWasClear)

theorem FoundExpired.later
    (hFound : FoundExpired first thread)
    (second : List (Event (gateway lib state))) :
    FoundExpired (first ++ second) thread := by
  rcases hFound with ⟨store, now, hRead, hClock, hExpired⟩
  exact ⟨store, now, List.mem_append_left _ hRead,
    List.mem_append_left _ hClock, hExpired⟩

theorem foundExpired_of_exchange
    (hRun : Run (.initial shared) events after)
    (hExchange :
      .call thread
          ⟨.compareExchangeExpiryLogged, flagWasClear⟩ ∈
        events) :
    FoundExpired events thread := by
  rcases List.append_of_mem hExchange with
    ⟨first, second, rfl⟩
  exact (foundExpired_before_exchange hRun).later _

/- At an exchange the number of the store is known. -/
theorem number_of_exchange
    (hRun :
      Run (.initial shared)
        (first ++
          .call thread
              ⟨.compareExchangeExpiryLogged, flagWasClear⟩ ::
            second)
        after) :
    ∃ before number,
      Run (.initial shared) first before ∧
        flagWasClear = !before.state.manifestExpiryLogged ∧
          storeNumber thread 0 first = some number := by
  rcases foundExpired_before_exchange hRun with
    ⟨store, _, hRead, _, _⟩
  rcases storeNumber_of_read hRead 0 with ⟨number, hNumber⟩
  rcases hRun.performs_of_call with
    ⟨before, _, _, _, hBefore, _, hExec, _, _⟩
  exact ⟨before, number, hBefore,
    Exec.compareExchange_reply hExec, hNumber⟩

/- The number of a store is known since the exchange. -/
theorem number_after_exchange
    (hRun : Run (.initial shared) events after)
    (hExchange :
      .call thread
          ⟨.compareExchangeExpiryLogged, flagWasClear⟩ ∈
        events) :
    ∃ number, storeNumber thread 0 events = some number := by
  rcases List.append_of_mem hExchange with
    ⟨first, second, rfl⟩
  rcases number_of_exchange hRun with
    ⟨_, number, _, _, hNumber⟩
  exact ⟨number, storeNumber_append hNumber _⟩

theorem FlagFollowsStore.earlier
    (hFlag : FlagFollowsStore shared (first ++ second)) :
    FlagFollowsStore shared first := by
  rintro early late thread flagWasClear before rfl hBefore
  exact hFlag early (late ++ second) thread flagWasClear
    before (by simp) hBefore

/- An exchange after one of the same store fails. -/
theorem exchange_fails
    (hRun :
      Run (.initial shared)
        (first ++
          .call thread
              ⟨.compareExchangeExpiryLogged, flagWasClear⟩ ::
            second)
        after)
    (hFlag :
      FlagFollowsStore shared
        (first ++
          .call thread
              ⟨.compareExchangeExpiryLogged, flagWasClear⟩ ::
            second))
    {wasClear : Bool}
    (hEarlier :
      .call other
          ⟨.compareExchangeExpiryLogged, wasClear⟩ ∈ first)
    (hNumber :
      storeNumber other 0
          (first ++
            .call thread
                ⟨.compareExchangeExpiryLogged,
                  flagWasClear⟩ ::
              second) =
        storeNumber thread 0
          (first ++
            .call thread
                ⟨.compareExchangeExpiryLogged,
                  flagWasClear⟩ ::
              second)) :
    flagWasClear = false := by
  rcases number_of_exchange hRun with
    ⟨before, number, hBefore, hReply, hOwn⟩
  rcases number_after_exchange hBefore hEarlier with
    ⟨earlier, hOther⟩
  rw [storeNumber_append hOwn, storeNumber_append hOther]
    at hNumber
  have hSet :=
    (hFlag first second thread flagWasClear before rfl
      hBefore).mpr
        ⟨other, wasClear, hEarlier,
          by rw [hOwn, hOther, hNumber]⟩
  rw [hReply, hSet]
  rfl

/- Of two different events one comes before the other. -/
theorem one_before_other
    {α : Type} {left right : α} {values : List α}
    (hLeft : left ∈ values)
    (hRight : right ∈ values)
    (hNe : left ≠ right) :
    (∃ first second,
      values = first ++ right :: second ∧ left ∈ first) ∨
      ∃ first second,
        values = first ++ left :: second ∧
          right ∈ first := by
  rcases List.append_of_mem hRight with
    ⟨first, second, rfl⟩
  rcases List.mem_append.mp hLeft with hFirst | hSecond
  · exact .inl ⟨first, second, rfl, hFirst⟩
  · rcases List.mem_cons.mp hSecond with hSame | hLater
    · exact absurd hSame hNe
    · rcases List.append_of_mem hLater with
        ⟨middle, last, rfl⟩
      right
      exact ⟨first ++ right :: middle, last, by simp,
        by simp⟩

/- Only one request of a store wins the exchange. -/
theorem exchange_unique
    (hRun : Run (.initial shared) events after)
    (hFlag : FlagFollowsStore shared events)
    (hThread :
      .call thread ⟨.compareExchangeExpiryLogged, true⟩ ∈
        events)
    (hOther :
      .call other ⟨.compareExchangeExpiryLogged, true⟩ ∈
        events)
    (hNumber :
      storeNumber other 0 events =
        storeNumber thread 0 events) :
    other = thread := by
  by_contra hNe
  have hEvents :
      (.call other ⟨.compareExchangeExpiryLogged, true⟩ :
          Event (gateway lib state)) ≠
        .call thread
          ⟨.compareExchangeExpiryLogged, true⟩ := by
    intro hSame
    injection hSame with hThreads _
    exact hNe hThreads
  rcases one_before_other hOther hThread hEvents with
    ⟨first, second, rfl, hEarlier⟩ |
      ⟨first, second, rfl, hEarlier⟩
  · cases exchange_fails hRun hFlag hEarlier hNumber
  · cases exchange_fails hRun hFlag hEarlier hNumber.symm

/- Some request of the store wins the exchange. -/
theorem exists_winner
    (hRun : Run (.initial shared) events after)
    (hFlag : FlagFollowsStore shared events)
    (hExchange :
      .call thread
          ⟨.compareExchangeExpiryLogged, flagWasClear⟩ ∈
        events) :
    ∃ winner,
      .call winner ⟨.compareExchangeExpiryLogged, true⟩ ∈
          events ∧
        storeNumber winner 0 events =
          storeNumber thread 0 events := by
  -- The first exchange of the store found the flag clear.
  induction hLength : events.length
    using Nat.strong_induction_on
    generalizing events after thread flagWasClear with
  | _ length ih =>
      cases flagWasClear with
      | true => exact ⟨thread, hExchange, rfl⟩
      | false =>
          rcases List.append_of_mem hExchange with
            ⟨first, second, rfl⟩
          rcases number_of_exchange hRun with
            ⟨before, number, hBefore, hReply, hOwn⟩
          have hSet :
              before.state.manifestExpiryLogged = true := by
            simpa using hReply.symm
          rcases (hFlag first second thread false before rfl
              hBefore).mp hSet with
            ⟨other, earlier, hEarlier, hNumber⟩
          have hShorter : first.length < length := by
            rw [← hLength, List.length_append,
              List.length_cons]
            omega
          rcases ih _ hShorter hBefore hFlag.earlier hEarlier
              rfl with
            ⟨winner, hWon, hSame⟩
          have hWinner :
              storeNumber winner 0 first = some number := by
            rw [hSame, hNumber, hOwn]
          refine ⟨winner, List.mem_append_left _ hWon, ?_⟩
          rw [storeNumber_append hWinner,
            storeNumber_append hOwn]

end System

end AjarGateway

------------------------------------------------------------
-- The Lines Of A Store
------------------------------------------------------------

namespace AjarGateway

namespace System

open Http Interleaving Serving Store

variable {lib : Externals} {state : ProxyState}
variable {shared : SharedState}
variable {events : List (Event (gateway lib state))}
variable {after : Config (gateway lib state)}
variable {thread number : Nat}

/- The handlers that have written the line of a store. -/
def expiryLoggers
    (events : List (Event (gateway lib state)))
    (number : Nat) : Finset Nat :=
  (startedThreads events).filter fun thread =>
    (callsOf thread events).any (fun call =>
      logsExpiry call &&
        storeNumber thread 0 events == some number) = true

theorem expiryLines_eq_card
    (hRun : Run (.initial shared) events after)
    (number : Nat) :
    expiryLines events number =
      (expiryLoggers events number).card := by
  refine hRun.countCalls_eq_card _ ?_
  intro thread _
  have hOne :
      (callsOf thread events).countP logsExpiry ≤ 1 :=
    countP_logsExpiry_le hRun
  refine Nat.le_trans ?_ hOne
  apply List.countP_mono_left
  intro call _ hBoth
  exact (Bool.and_eq_true_iff.mp hBoth).1

theorem mem_expiryLoggers_iff
    (hRun : Run (.initial shared) events after) :
    thread ∈ expiryLoggers events number ↔
      OfStore events number thread ∧
        ∃ call ∈ callsOf thread events,
          logsExpiry call = true := by
  unfold expiryLoggers OfStore
  rw [Finset.mem_filter, List.any_eq_true]
  constructor
  · rintro ⟨_, call, hCall, hBoth⟩
    rw [Bool.and_eq_true, beq_iff_eq] at hBoth
    exact ⟨hBoth.2, call, hCall, hBoth.1⟩
  · rintro ⟨hNumber, call, hCall, hLine⟩
    refine ⟨hRun.caller_started
      ((mem_callsOf_iff _ _ _).mp hCall), call, hCall, ?_⟩
    rw [hLine, hNumber]
    simp

/- A logger has found its store expired and has won. -/
theorem of_mem_expiryLoggers
    (hRun : Run (.initial shared) events after)
    (hLogger : thread ∈ expiryLoggers events number) :
    OfStore events number thread ∧
      FoundExpired events thread ∧
        .call thread ⟨.compareExchangeExpiryLogged, true⟩ ∈
          events := by
  rcases (mem_expiryLoggers_iff hRun).mp hLogger with
    ⟨hNumber, call, hCall, hLine⟩
  rcases calls_of_line hRun hCall hLine with
    ⟨store, now, hExpired, hCalls⟩
  have hMem {made : Call gatewaySignature}
      (hMade : made ∈ expiredCalls store now true) :
      .call thread made ∈ events := by
    rw [← hCalls] at hMade
    exact (mem_callsOf_iff _ _ _).mp hMade
  refine ⟨hNumber, ⟨store, now, ?_, ?_, hExpired⟩, ?_⟩
  · exact hMem (by simp [expiredCalls])
  · exact hMem (by simp [expiredCalls])
  · exact hMem (by simp [expiredCalls, expiryCalls])

/- A winner that has ended has written the line. -/
theorem mem_expiryLoggers_of_won
    (hRun : Run (.initial shared) events after)
    (hQuiet : ∀ thread, .panic thread ∉ events)
    (hNumber : OfStore events number thread)
    (hFound : FoundExpired events thread)
    (hWon :
      .call thread ⟨.compareExchangeExpiryLogged, true⟩ ∈
        events)
    (hEnded : ∀ program,
      after.threads thread ≠ .running program) :
    thread ∈ expiryLoggers events number := by
  rcases answered_of_foundExpired hRun hQuiet hFound hEnded
    with ⟨store, now, flagWasClear, hCalls⟩
  apply (mem_expiryLoggers_iff hRun).mpr
  rw [← mem_callsOf_iff, hCalls] at hWon
  rw [hCalls]
  cases flagWasClear with
  | false => simp [expiredCalls, expiryCalls] at hWon
  | true =>
      exact ⟨hNumber, ⟨.eprintln expiryLine, ()⟩,
        by simp [expiredCalls, expiryCalls], rfl⟩

/-
  In every run without a failed write in which the flag
  follows the store, the expiry of each store is logged once.
-/
theorem loggedOnce_of_flagFollows
    (hRun : Run (.initial shared) events after)
    (hQuiet : ∀ thread, .panic thread ∉ events)
    (hFlag : FlagFollowsStore shared events)
    (number : Nat) :
    LoggedOnce events after number := by
  have hLines := expiryLines_eq_card hRun number
  have hOne : (expiryLoggers events number).card ≤ 1 := by
    apply Finset.card_le_one.mpr
    intro first hFirst second hSecond
    rcases of_mem_expiryLoggers hRun hFirst with
      ⟨hFirstOf, _, hFirstWon⟩
    rcases of_mem_expiryLoggers hRun hSecond with
      ⟨hSecondOf, _, hSecondWon⟩
    exact exchange_unique hRun hFlag hSecondWon hFirstWon
      (hFirstOf.trans hSecondOf.symm)
  constructor
  case atMostOnce => rw [hLines]; exact hOne
  case whenExpired =>
    intro hNone
    rw [hLines, Finset.card_eq_zero]
    apply Finset.eq_empty_of_forall_notMem
    intro thread hLogger
    rcases of_mem_expiryLoggers hRun hLogger with
      ⟨hNumber, hFound, _⟩
    exact hNone thread hNumber hFound
  case once =>
    rintro hEnded ⟨thread, answer, hNumber, hFound, hAnswer⟩
    rcases answered_of_foundExpired hRun hQuiet hFound
        (hEnded thread · hNumber hFound) with
      ⟨store, now, flagWasClear, hCalls⟩
    have hExchange :
        .call thread
            ⟨.compareExchangeExpiryLogged, flagWasClear⟩ ∈
          events := by
      rw [← mem_callsOf_iff, hCalls]
      simp [expiredCalls, expiryCalls]
    rcases exists_winner hRun hFlag hExchange with
      ⟨winner, hWon, hSame⟩
    have hWinner : OfStore events number winner :=
      hSame.trans hNumber
    have hLogger :=
      mem_expiryLoggers_of_won hRun hQuiet hWinner
        (foundExpired_of_exchange hRun hWon) hWon
        (hEnded winner · hWinner
          (foundExpired_of_exchange hRun hWon))
    have hPos := Finset.card_pos.mpr ⟨winner, hLogger⟩
    omega

end System

end AjarGateway

------------------------------------------------------------
-- The Flag In A Run
------------------------------------------------------------

namespace AjarGateway

namespace System

open Http Interleaving Serving Store

variable {lib : Externals} {state : ProxyState}
variable {shared : SharedState}
variable {events : List (Event (gateway lib state))}
variable {after : Config (gateway lib state)}

/- What an event does to the expiry flag. -/
def noteFlag (flag : Bool) : Event (gateway lib state) → Bool
| .call _ ⟨.compareExchangeExpiryLogged, _⟩ => true
| .call _ ⟨.resetExpiryLogged, _⟩ => false
| _ => flag

/- The flag is what the events have made of it. -/
theorem flag_eq_foldl
    (hRun : Run (.initial shared) events after) :
    after.state.manifestExpiryLogged =
      events.foldl noteFlag shared.manifestExpiryLogged := by
  induction hRun with
  | nil => rfl
  | @snoc events before event after hRun hStep ih =>
      rw [List.foldl_append, ← ih]
      cases hStep with
      | call _ hExec => cases hExec <;> rfl
      | panic _ hUnwind =>
          cases hUnwind
          rfl
      | change hChange =>
          cases hChange
          rfl
      | start _ => rfl
      | answer _ => rfl
      | cancel _ _ => rfl

end System

end AjarGateway

------------------------------------------------------------
-- Requests That Find Their Store Expired
------------------------------------------------------------

namespace AjarGateway

namespace System

open Http Interleaving Serving Store

variable {lib : Externals} {state : ProxyState}

/- A request that is answered after its store has expired. -/
def expiredEvents
    (lib : Externals)
    (state : ProxyState)
    (thread : Nat)
    (request : Request Chunks)
    (store : PreparedContentStore)
    (now : Int)
    (flagWasClear : Bool) :
    List (Event (gateway lib state)) :=
  .start thread (.publicRequest request) ::
    ((expiredCalls store now flagWasClear).map
        (Event.call thread) ++
      [.answer thread expiredProblem])

theorem performs_expiredCalls
    {request : Request Chunks}
    {store : PreparedContentStore}
    {target : Target}
    {now : Int}
    (flagWasClear : Bool)
    (hStore : state.hasStore = true)
    (hTarget :
      storeTarget lib.http store request = some target)
    (hExpired : store.manifest.expiresAtUnix ≤ now) :
    Performs (answerPublic lib state request)
      (expiredCalls store now flagWasClear)
      (.ret expiredProblem) := by
  have hPerforms := performs_callsWith
    { (default : Surroundings) with
      snapshot := some store
      now := now
      expiryFlagWasClear := flagWasClear }.reply
    (answerPublic lib state request)
  rw [callsWith_of_target lib state _ hStore rfl hTarget,
    servingCalls, if_pos hExpired] at hPerforms
  have hAnswer := respond_of_target lib state
    { (default : Surroundings) with
      snapshot := some store
      now := now
      expiryFlagWasClear := flagWasClear }
    hStore rfl hTarget
  rw [answerFromStore_of_expired hExpired] at hAnswer
  unfold respond at hAnswer
  rw [hAnswer] at hPerforms
  exact hPerforms

/- The shared state that such a request leaves. -/
def loggedExpiry (shared : SharedState) : SharedState :=
  { shared.increment .requestsTotal with
    manifestExpiryLogged := true }

theorem execs_expiredCalls
    {shared : SharedState}
    {store : PreparedContentStore}
    {now : Int}
    (thread : Nat)
    (hLock : shared.lock = some ⟨store, false, none⟩)
    (hRange : InClockRange now) :
    (gateway lib state).Execs thread shared
      (expiredCalls store now
        (!shared.manifestExpiryLogged))
      (loggedExpiry shared) := by
  have hCounted :
      (shared.increment .requestsTotal).lock =
        some ⟨store, false, none⟩ :=
    hLock
  have hLine :
      (gateway lib state).Execs thread (loggedExpiry shared)
        (if (!shared.manifestExpiryLogged) = true then
          [⟨.eprintln expiryLine, ()⟩] else [])
        (loggedExpiry shared) := by
    split
    · exact .cons (.eprintln _ _) (.nil _)
    · exact .nil _
  exact .cons (.fetchAdd _ _)
    (.cons (.readStore _ _ hCounted rfl rfl)
      (.cons (.nowUnixSeconds _ _ hRange)
        (.cons (.compareExchange _) hLine)))

theorem run_expired
    {c : Config (gateway lib state)}
    {thread : Nat}
    {request : Request Chunks}
    {store : PreparedContentStore}
    {target : Target}
    {now : Int}
    (hStore : state.hasStore = true)
    (hTarget :
      storeTarget lib.http store request = some target)
    (hIdle : c.threads thread = .idle)
    (hLock : c.state.lock = some ⟨store, false, none⟩)
    (hRange : InClockRange now)
    (hExpired : store.manifest.expiresAtUnix ≤ now) :
    ∃ next : Config (gateway lib state),
      Run c
          (expiredEvents lib state thread request store now
            (!c.state.manifestExpiryLogged))
          next ∧
        next.state = loggedExpiry c.state ∧
        next.threads thread = .answered expiredProblem ∧
        ∀ other, other ≠ thread →
          next.threads other = c.threads other :=
  ⟨_,
    Run.whole hIdle
      (performs_expiredCalls _ hStore hTarget hExpired)
      (execs_expiredCalls thread hLock hRange),
    rfl, Config.setThread_threads_self _ _ _,
    fun _ hNe => Config.setThread_threads_of_ne _ _ hNe⟩

/- The second at which the sample manifests expire. -/
def expirySecond : Int := 1782950400

theorem manifestTarget_served
    (http : HttpCrate)
    (store : PreparedContentStore) :
    storeTarget http store
        (getRequest manifestTarget .empty) =
      some .manifest := by
  rw [storeTarget, if_neg (by decide), getRequest,
    if_pos manifestTarget_path]

end System

end AjarGateway
