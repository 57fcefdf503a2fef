import AjarGateway.Interleaving.Counting
import AjarGateway.Process.Servers

/-
  How the servers shut down.

  Every step of the waiting task and of the futures of the
  servers lowers a budget, so that a run has only so many of
  them, however many connections come and go.  Once the
  signal has come, both futures return; from then on nothing
  but open connections can hold the servers up.

  Key definitions include:
    * `Process.Servers.budget`
    * `Process.ServersEvent.isInternal`
    * `Process.ServersEvent.isClosing`

  Key theorems include:
    * `Process.internal_le`
    * `Process.exists_told`
    * `Process.exists_ended`
-/

------------------------------------------------------------
-- The Signal Is Passed On In Bounded Time
------------------------------------------------------------

namespace AjarGateway

namespace Process

open Interleaving Store

variable {crates : Crates}
variable {S : Interleaving.Signature}
variable {shutdown : Program S Unit}
variable {events : List (ServersEvent S)}
variable {servers : Servers crates S}

/- How often the channel can still change. -/
def Waiter.changesLeft : Waiter S → Nat
| .awaiting _ => 2
| .completed => 2
| .sent => 1
| .dropped => 0

/- The steps that the task can still make by itself. -/
def Waiter.budget : Waiter S → Nat
| .awaiting _ => 3
| .completed => 2
| .sent => 1
| .dropped => 0

/- The steps of a future that goes around so many times. -/
def SignalState.budget (turns : Nat) : SignalState → Nat
| .borrowing => 2 * turns + 2
| .changing => 2 * turns + 1
| .returned => 0

/-
  The future of a server goes around once for each change
  of the channel, and for one that it has not seen yet.
-/
def Server.turns
    (server : Server crates)
    (changesLeft : Nat)
    (channel : crates.watch.Channel) : Nat :=
  changesLeft +
    if crates.watch.isUnseen channel server.receiver then 1
    else 0

/- The steps that the future of a server can still make. -/
def Server.budget
    (server : Server crates)
    (changesLeft : Nat)
    (channel : crates.watch.Channel) : Nat :=
  server.signal.budget (server.turns changesLeft channel)

def Servers.budget (servers : Servers crates S) : Nat :=
  let left := servers.waiter.changesLeft
  servers.waiter.budget +
    (servers.server .proxy).budget left servers.channel +
      (servers.server .admin).budget left servers.channel

/- A step of the future of a server. -/
def PartyEvent.isSignal : PartyEvent → Bool
| .borrow => true
| .changed => true
| _ => false

/-
  The steps of the task and of the two futures, apart from
  what the task awaits.
-/
def ServersEvent.isInternal : ServersEvent S → Bool
| .waiter (.await _) => false
| .waiter _ => true
| .party _ event => event.isSignal

/- A reported change is seen from then on. -/
theorem turns_of_changed
    {channel : crates.watch.Channel}
    {server : Server crates}
    {later : crates.watch.Receiver}
    (changesLeft : Nat)
    (signal : SignalState)
    (hWatch : crates.watch.Documented)
    (hChanged :
      crates.watch.changed channel server.receiver =
        some (true, later)) :
    server.turns changesLeft channel =
      Server.turns
          { server with
            receiver := later
            signal := signal }
          changesLeft channel + 1 := by
  have hUnseen :
      crates.watch.isUnseen channel server.receiver =
        true := by
    rw [WatchCrate.isUnseen, hChanged]
    rfl
  have hSeen :
      crates.watch.isUnseen channel later = false := by
    rw [WatchCrate.isUnseen]
    cases hAgain : crates.watch.changed channel later with
    | none => rfl
    | some found =>
        rcases found with ⟨changed, after⟩
        cases changed with
        | false => rfl
        | true =>
            exact absurd hAgain
              (hWatch.changed_once _ _ _ _ hChanged)
  simp [Server.turns, hUnseen, hSeen]

/- Every step of its future lowers the budget of a server. -/
theorem PartyStep.budget_le
    {channel : crates.watch.Channel}
    {server next : Server crates}
    {event : PartyEvent}
    (changesLeft : Nat)
    (hWatch : crates.watch.Documented)
    (hStep : PartyStep channel server event next) :
    next.budget changesLeft channel +
        (if event.isSignal then 1 else 0) ≤
      server.budget changesLeft channel := by
  cases hStep with
  | borrow hSignal =>
      rw [Server.budget, Server.budget, hSignal]
      cases crates.watch.borrow channel with
      | true =>
          simp only [PartyEvent.isSignal, ↓reduceIte,
            SignalState.budget]
          omega
      | false =>
          simp only [PartyEvent.isSignal, ↓reduceIte,
            Bool.false_eq_true, SignalState.budget,
            Server.turns]
          omega
  | changed changed later hSignal hChanged =>
      rw [Server.budget, Server.budget, hSignal]
      cases changed with
      | false =>
          simp only [PartyEvent.isSignal, ↓reduceIte,
            Bool.false_eq_true, SignalState.budget]
          omega
      | true =>
          rw [turns_of_changed changesLeft .borrowing hWatch
            hChanged]
          simp only [PartyEvent.isSignal, ↓reduceIte,
            SignalState.budget]
          omega
  | served event served hServed => exact Nat.le_refl _
  | returns result served hRunning hReturns =>
      exact Nat.le_refl _

theorem SignalState.budget_mono
    (signal : SignalState)
    {less more : Nat}
    (hLe : less ≤ more) :
    signal.budget less ≤ signal.budget more := by
  cases signal with
  | borrowing => simp only [SignalState.budget]; omega
  | changing => simp only [SignalState.budget]; omega
  | returned => exact Nat.le_refl _

theorem Server.budget_le_max
    (server : Server crates)
    (changesLeft : Nat)
    (channel : crates.watch.Channel) :
    server.budget changesLeft channel ≤
      2 * changesLeft + 4 := by
  have hTurns :
      server.turns changesLeft channel ≤ changesLeft + 1 := by
    rw [Server.turns]
    split <;> omega
  have hSignal :
      server.signal.budget
          (server.turns changesLeft channel) ≤
        2 * server.turns changesLeft channel + 2 := by
    cases server.signal <;> simp [SignalState.budget]
  rw [Server.budget]
  omega

/- A change of the channel may unsettle each future once. -/
theorem Server.budget_le_of_change
    (server : Server crates)
    (changesLeft : Nat)
    (before after : crates.watch.Channel) :
    server.budget changesLeft after ≤
      server.budget (changesLeft + 1) before := by
  apply SignalState.budget_mono
  rw [Server.turns, Server.turns]
  split <;> omega

theorem Server.budget_mono
    (server : Server crates)
    {less more : Nat}
    (channel : crates.watch.Channel)
    (hLe : less ≤ more) :
    server.budget less channel ≤
      server.budget more channel := by
  apply SignalState.budget_mono
  exact Nat.add_le_add_right hLe _

theorem WaiterStep.budget_le
    {hasReceiver : Bool}
    {waiter next : Waiter S}
    {channel channel' : crates.watch.Channel}
    {event : WaiterEvent S}
    (server : Server crates)
    (hStep :
      WaiterStep crates hasReceiver waiter channel event next
        channel') :
    server.budget next.changesLeft channel' ≤
      server.budget waiter.changesLeft channel := by
  cases hStep with
  | await _ op rest reply => exact Nat.le_refl _
  | complete _ => exact Nat.le_refl _
  | panic _ _ rest hPanicked =>
      exact Nat.le_trans
        (server.budget_le_of_change 0 channel _)
        (server.budget_mono channel (by
          simp [Waiter.changesLeft]))
  | send _ => exact server.budget_le_of_change 1 _ _
  | dropSender _ => exact server.budget_le_of_change 0 _ _

theorem WaiterStep.own_budget_le
    {hasReceiver : Bool}
    {waiter next : Waiter S}
    {channel channel' : crates.watch.Channel}
    {event : WaiterEvent S}
    (hStep :
      WaiterStep crates hasReceiver waiter channel event next
        channel') :
    next.budget +
        (if (ServersEvent.waiter event).isInternal then 1
          else 0) ≤
      waiter.budget := by
  cases hStep
  all_goals
    simp [Waiter.budget, ServersEvent.isInternal]

theorem PartyStep.party_budget_le
    {channel : crates.watch.Channel}
    {server next : Server crates}
    {event : PartyEvent}
    (party : Party)
    (changesLeft : Nat)
    (hWatch : crates.watch.Documented)
    (hStep : PartyStep channel server event next) :
    next.budget changesLeft channel +
        (if (ServersEvent.party party event :
            ServersEvent S).isInternal then 1 else 0) ≤
      server.budget changesLeft channel :=
  hStep.budget_le changesLeft hWatch

theorem ServersStep.budget_le
    {next : Servers crates S}
    {event : ServersEvent S}
    (hWatch : crates.watch.Documented)
    (hStep : ServersStep servers event next) :
    next.budget + (if event.isInternal then 1 else 0) ≤
      servers.budget := by
  cases hStep with
  | waiter event waiter channel hStep =>
      have hOwn := hStep.own_budget_le
      have hProxy := hStep.budget_le (servers.server .proxy)
      have hAdmin := hStep.budget_le (servers.server .admin)
      simp only [Servers.budget]
      omega
  | party party event server hStep =>
      have hNext := hStep.party_budget_le (S := S) party
        servers.waiter.changesLeft hWatch
      simp only [Servers.budget]
      cases party with
      | proxy =>
          rw [Function.update_self,
            Function.update_of_ne (by simp)]
          omega
      | admin =>
          rw [Function.update_self,
            Function.update_of_ne (by simp)]
          omega

/- No run of the servers has more of these steps. -/
theorem internal_le
    (hWatch : crates.watch.Documented)
    (hTrace :
      Trace ServersStep (.initial crates shutdown) events
        servers) :
    events.countP ServersEvent.isInternal ≤ 19 := by
  have hCounted :=
    hTrace.counted_le (fun _ => True)
      ServersEvent.isInternal Servers.budget trivial
      (fun _ _ _ _ _ => trivial)
      fun _ _ _ _ hStep => hStep.budget_le hWatch
  have hFirst :
      (Servers.initial crates shutdown).budget ≤ 19 := by
    have hProxy :=
      ((Servers.initial crates shutdown).server
        .proxy).budget_le_max 2
          (crates.watch.channel false).1
    have hAdmin :=
      ((Servers.initial crates shutdown).server
        .admin).budget_le_max 2
          (crates.watch.channel false).1
    simp only [Servers.budget]
    simp only [Servers.initial, Waiter.changesLeft,
      Waiter.budget] at hProxy hAdmin ⊢
    omega
  omega

end Process

end AjarGateway

------------------------------------------------------------
-- The Signal Always Reaches The Servers
------------------------------------------------------------

namespace AjarGateway

namespace Process

open Interleaving Store

variable {crates : Crates}
variable {S : Interleaving.Signature}
variable {servers : Servers crates S}

/- The steps towards the end that need nobody else. -/
def ServersEvent.isOwn : ServersEvent S → Bool
| .waiter .complete => true
| .waiter .send => true
| .waiter .dropSender => true
| .waiter _ => false
| .party _ event => event.isSignal

theorem ServersEvent.isInternal_of_isOwn
    {event : ServersEvent S}
    (hOwn : event.isOwn = true) :
    event.isInternal = true := by
  cases event with
  | waiter event => cases event <;> trivial
  | party party event => exact hOwn

/- The task does not wait for anything from outside. -/
def Waiter.IsDue (waiter : Waiter S) : Prop :=
  ∀ op next, waiter ≠ .awaiting (.call op next)

/- Once the signal has come, there is nothing to wait for. -/
theorem isDue_of_signalled
    {shutdown : Program S Unit}
    {events : List (ServersEvent S)}
    (hTrace :
      Trace ServersStep (.initial crates shutdown) events
        servers)
    (hSignalled : Signalled shutdown events) :
    servers.waiter.IsDue := by
  intro op next hWaiter
  rcases awaits_of_trace hTrace with
    ⟨rest, hRest, hPerforms, hPanic⟩ | ⟨hNot, _⟩
  · rcases hSignalled with hReturned | hPanicked
    · have hSame := hPerforms.unique hReturned
      rw [hSame, hWaiter] at hRest
      cases hRest
    · exact hPanic hPanicked
  · exact hNot _ hWaiter

theorem WaiterStep.isDue
    {hasReceiver : Bool}
    {waiter next : Waiter S}
    {channel channel' : crates.watch.Channel}
    {event : WaiterEvent S}
    (hStep :
      WaiterStep crates hasReceiver waiter channel event next
        channel')
    (hDue : waiter.IsDue) :
    next.IsDue := by
  cases hStep with
  | await _ op rest reply => exact absurd rfl (hDue op rest)
  | complete _ => simp [Waiter.IsDue]
  | panic _ _ rest hPanicked => simp [Waiter.IsDue]
  | send _ => simp [Waiter.IsDue]
  | dropSender _ => simp [Waiter.IsDue]

theorem ServersStep.isDue
    {next : Servers crates S}
    {event : ServersEvent S}
    (hStep : ServersStep servers event next)
    (hDue : servers.waiter.IsDue) :
    next.waiter.IsDue := by
  cases hStep with
  | waiter event waiter channel hStep =>
      exact hStep.isDue hDue
  | party party event server hStep => exact hDue

/- Without the sender, a future waits for nothing. -/
theorem exists_signal_step
    {before : crates.watch.Channel}
    {party : Party}
    (hWatch : crates.watch.Documented)
    (hOpen : crates.watch.IsOpen before)
    (hChannel :
      servers.channel = crates.watch.dropSender before)
    (hUntold : (servers.server party).isTold ≠ true) :
    ∃ event next,
      ServersStep servers (.party party event) next ∧
        event.isSignal = true := by
  cases hSignal : (servers.server party).signal with
  | returned => simp [Server.isTold, hSignal] at hUntold
  | borrowing =>
      exact ⟨_, _, .party _ _ _ _ (.borrow _ hSignal), rfl⟩
  | changing =>
      cases hChanged :
          crates.watch.changed servers.channel
            (servers.server party).receiver with
      | none =>
          rw [hChannel] at hChanged
          exact absurd hChanged
            (hWatch.changed_closed _ _ hOpen)
      | some found =>
          exact ⟨_, _, .party _ _ _ _
            (.changed _ found.1 found.2 hSignal hChanged),
            rfl⟩

theorem exists_waiter_step
    {waiter next : Waiter S}
    {event : WaiterEvent S}
    {channel : crates.watch.Channel}
    (hWaiter : servers.waiter = waiter)
    (hStep :
      WaiterStep crates servers.hasReceiver waiter
        servers.channel event next channel)
    (hOwn : (ServersEvent.waiter event).isOwn = true) :
    ∃ event next,
      ServersStep servers event next ∧
        event.isOwn = true := by
  subst hWaiter
  exact ⟨_, _, .waiter servers event next channel hStep,
    hOwn⟩

/-
  Until both futures have returned, the task or one of them
  can take a step.
-/
theorem exists_own_step
    (hWatch : crates.watch.Documented)
    (hOrderly : ServersOrderly servers)
    (hDue : servers.waiter.IsDue)
    (hUntold :
      ¬∀ party, (servers.server party).isTold = true) :
    ∃ event next,
      ServersStep servers event next ∧
        event.isOwn = true := by
  have hChannel := hOrderly.channel
  cases hWaiter : servers.waiter with
  | awaiting rest =>
      cases rest with
      | call op next => exact absurd hWaiter (hDue op next)
      | ret value =>
          exact exists_waiter_step hWaiter (.complete _) rfl
  | completed =>
      exact exists_waiter_step hWaiter (.send _) rfl
  | sent =>
      exact exists_waiter_step hWaiter (.dropSender _) rfl
  | dropped =>
      rw [hWaiter] at hChannel
      rcases hChannel with ⟨before, hOpen, hClosed⟩
      rw [not_forall] at hUntold
      rcases hUntold with ⟨party, hParty⟩
      rcases exists_signal_step hWatch hOpen hClosed hParty
        with ⟨event, next, hStep, hSignal⟩
      exact ⟨_, next, hStep, hSignal⟩

/- Once the signal has come, both futures can return. -/
theorem exists_told
    (hCrates : crates.Documented)
    (hOrderly : ServersOrderly servers)
    (hDue : servers.waiter.IsDue) :
    ∃ events last,
      Trace ServersStep servers events last ∧
        (∀ event ∈ events, event.isOwn = true) ∧
        ∀ party, (last.server party).isTold = true := by
  generalize hBound : servers.budget = bound
  induction bound using Nat.strong_induction_on generalizing
    servers with
  | h bound ih =>
      by_cases hTold :
          ∀ party, (servers.server party).isTold = true
      · exact ⟨[], servers, .nil, by simp, hTold⟩
      · rcases exists_own_step hCrates.watch hOrderly hDue
            hTold with
          ⟨event, next, hStep, hOwn⟩
        have hLess := hStep.budget_le hCrates.watch
        rw [ServersEvent.isInternal_of_isOwn hOwn,
          if_pos rfl] at hLess
        rcases ih next.budget (by omega)
            (hOrderly.step hCrates hStep)
            (hStep.isDue hDue) rfl with
          ⟨events, last, hTrace, hEvents, hLast⟩
        refine ⟨[event] ++ events, last,
          .append (.snoc .nil hStep) hTrace, ?_, hLast⟩
        simpa [hOwn] using hEvents

end Process

end AjarGateway

------------------------------------------------------------
-- The Servers Can Always End
------------------------------------------------------------

namespace AjarGateway

namespace Process

open Interleaving Store

variable {crates : Crates}
variable {S : Interleaving.Signature}
variable {servers : Servers crates S}

/- The servers, with one of them somewhere else. -/
def Servers.withServed
    (servers : Servers crates S)
    (party : Party)
    (served : crates.serve.State) : Servers crates S :=
  { servers with
    server :=
      Function.update servers.server party
        { servers.server party with served := served } }

@[simp] theorem withServed_self
    (servers : Servers crates S)
    (party : Party) :
    servers.withServed party (servers.server party).served =
      servers := by
  rw [Servers.withServed, Function.update_eq_self]

@[simp] theorem withServed_twice
    (servers : Servers crates S)
    (party : Party)
    (first second : crates.serve.State) :
    (servers.withServed party first).withServed party
        second =
      servers.withServed party second := by
  simp [Servers.withServed]

@[simp] theorem withServed_server
    (servers : Servers crates S)
    (party : Party)
    (served : crates.serve.State) :
    (servers.withServed party served).server party =
      { servers.server party with served := served } := by
  simp [Servers.withServed]

/- The servers may do what one of them may do. -/
theorem trace_of_served
    {party : Party}
    {told : Bool}
    {served last : crates.serve.State}
    {steps : List ServedEvent}
    (hTold : (servers.server party).isTold = told)
    (hServed : (servers.server party).served = served)
    (hSteps :
      Trace (crates.serve.step told) served steps last) :
    Trace ServersStep servers
      (steps.map fun event => .party party (.served event))
      (servers.withServed party last) := by
  induction hSteps with
  | nil =>
      rw [← hServed, withServed_self]
      exact .nil
  | @snoc before after steps event hSteps hStep ih =>
      rw [List.map_append]
      have hNext :
          ServersStep (servers.withServed party before)
            (.party party (.served event))
            (servers.withServed party after) := by
        rw [← withServed_twice servers party before after]
        refine .party _ _ _ _ (.served _ event after ?_)
        rw [withServed_server]
        subst hTold
        exact hStep
      exact .snoc ih hNext

/- A server can close all of its connections. -/
theorem exists_closed
    (told : Bool)
    {served : crates.serve.State}
    (hServe : crates.serve.Documented)
    (hRunning : crates.serve.Running served) :
    ∃ closings last,
      Trace (crates.serve.step told) served closings last ∧
        (∀ event ∈ closings, event = .close) ∧
        crates.serve.Running last ∧
          crates.serve.connections last = 0 := by
  generalize hLeft : crates.serve.connections served = left
  induction left generalizing served with
  | zero => exact ⟨[], served, .nil, by simp, hRunning, hLeft⟩
  | succ left ih =>
      rcases hServe.closes told served hRunning (by omega)
        with ⟨after, hStep⟩
      have hCount := hServe.connections_step _ _ _ _ hStep
      simp only [↓reduceIte, reduceCtorEq] at hCount
      rcases ih (.step told .close hRunning hStep) (by omega)
        with ⟨closings, last, hTrace, hAll, hLast⟩
      refine ⟨[.close] ++ closings, last,
        .append (.snoc .nil hStep) hTrace, ?_, hLast⟩
      simpa using hAll

/- The steps of a shutdown that clients do not prolong. -/
def ServersEvent.isClosing : ServersEvent S → Bool
| .party _ (.served .close) => true
| .party _ (.served .turn) => true
| .party _ (.returns (.ok ())) => true
| event => event.isOwn

theorem ServersEvent.isClosing_of_isOwn
    {event : ServersEvent S}
    (hOwn : event.isOwn = true) :
    event.isClosing = true := by
  cases event with
  | waiter event => exact hOwn
  | party party event =>
      cases event with
      | borrow => rfl
      | changed => rfl
      | served event => cases hOwn
      | returns result => cases hOwn

/- A closing step is no failure. -/
theorem ServersEvent.not_error_of_isClosing
    {event : ServersEvent S}
    {party : Party} {kind : IoErrorKind}
    (hClosing : event.isClosing = true) :
    event ≠ .party party (.returns (.error kind)) := by
  rintro rfl
  cases hClosing

/- A server that has come to its end may return. -/
theorem exists_return
    {party : Party}
    {result : Except IoErrorKind Unit}
    {stopped after : crates.serve.State}
    (hTold : (servers.server party).isTold = true)
    (hRunning : (servers.server party).result = none)
    (hReturns :
      crates.serve.returns true stopped result after) :
    ∃ last,
      ServersStep (servers.withServed party stopped)
          (.party party (.returns result)) last ∧
        (last.server party).result.isSome = true ∧
          ∀ other, other ≠ party →
            last.server other = servers.server other := by
  rw [← hTold] at hReturns
  refine ⟨_, .party _ _ _ _ (.returns _ _ after ?_ ?_), ?_,
    ?_⟩
  · rw [withServed_server]
    exact hRunning
  · rw [withServed_server]
    exact hReturns
  · simp
  · intro other hOther
    simp only [Servers.withServed]
    rw [Function.update_of_ne hOther,
      Function.update_of_ne hOther]

/- A server that was told to shut down can come to return. -/
theorem exists_returned
    (party : Party)
    (hServe : crates.serve.Documented)
    (hOrderly : ServersOrderly servers)
    (hTold : (servers.server party).isTold = true) :
    ∃ events last,
      Trace ServersStep servers events last ∧
        (∀ event ∈ events, event.isClosing = true) ∧
        ((last.server party).result.isSome = true) ∧
          ∀ other, other ≠ party →
            last.server other = servers.server other := by
  cases hResult : (servers.server party).result with
  | some result =>
      exact ⟨[], servers, .nil, by simp, by simp [hResult],
        fun _ _ => rfl⟩
  | none =>
      have hRunning :=
        (hOrderly.parties party).running hResult
      rcases exists_closed true hServe hRunning with
        ⟨closings, closed, hClosings, hClose, hAlive, hNone⟩
      rcases hServe.stops closed hAlive hNone with
        ⟨turns, stopped, after, hTurns, hTurn, hReturns⟩
      have hServed :=
        trace_of_served hTold rfl (hClosings.append hTurns)
      rcases exists_return hTold hResult hReturns with
        ⟨last, hReturn, hIsSome, hOthers⟩
      refine ⟨_, last, .snoc hServed hReturn, ?_, hIsSome,
        hOthers⟩
      intro event hEvent
      simp only [List.map_append, List.mem_append,
        List.mem_map, List.mem_singleton] at hEvent
      rcases hEvent with
        (⟨made, hMade, rfl⟩ | ⟨made, hMade, rfl⟩) | rfl
      · rw [hClose made hMade]
        rfl
      · rw [hTurn made hMade]
        rfl
      · rfl

/- Both servers have returned. -/
def Servers.Ended (servers : Servers crates S) : Prop :=
  ∀ party, (servers.server party).result.isSome = true

/- Once the signal has come, both servers can end. -/
theorem exists_ended
    (hCrates : crates.Documented)
    (hOrderly : ServersOrderly servers)
    (hDue : servers.waiter.IsDue) :
    ∃ events last,
      Trace ServersStep servers events last ∧
        (∀ event ∈ events, event.isClosing = true) ∧
        last.Ended := by
  rcases exists_told hCrates hOrderly hDue with
    ⟨own, told, hOwn, hAllOwn, hTold⟩
  have hAfter := hOrderly.trace hCrates hOwn
  rcases exists_returned .proxy hCrates.serve hAfter
      (hTold .proxy) with
    ⟨first, half, hFirst, hAllFirst, hProxy, hOther⟩
  have hAdminSame := hOther .admin (by simp)
  rcases exists_returned .admin hCrates.serve
      (hAfter.trace hCrates hFirst)
      (by rw [hAdminSame]; exact hTold .admin) with
    ⟨second, last, hSecond, hAllSecond, hAdmin, hSame⟩
  refine ⟨_, last, (hOwn.append hFirst).append hSecond, ?_,
    ?_⟩
  · intro event hEvent
    rcases List.mem_append.mp hEvent with hEvent | hEvent
    · rcases List.mem_append.mp hEvent with hEvent | hEvent
      · exact ServersEvent.isClosing_of_isOwn
          (hAllOwn event hEvent)
      · exact hAllFirst event hEvent
    · exact hAllSecond event hEvent
  · rintro (_ | _)
    · rw [hSame .proxy (by simp)]
      exact hProxy
    · exact hAdmin

end Process

end AjarGateway
