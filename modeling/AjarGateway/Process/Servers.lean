import AjarGateway.Interleaving.Trace
import AjarGateway.Process.Launch

/-
  The two servers of the gateway and their signal.

  A task awaits the signal to shut down and passes it on
  through a watch channel.  Each server has a future that
  reads the channel and returns once it was told.  The
  channel, the server that a future is handed to, the task
  and the join of the servers are outside code: parameters
  with what the gateway relies on.

  Key definitions include:
    * `Process.WatchCrate`
    * `Process.ServeCrate`
    * `Process.TaskCrate`
    * `Process.Crates.Documented`
    * `Process.shutdownSignal`
    * `Process.PartyStep`
    * `Process.WaiterStep`
    * `Process.ServersStep`
    * `Process.ServersOrderly`

  Key theorems include:
    * `Process.ServersOrderly.step`
    * `Process.signalled_of_succeeded`
    * `Process.returns_of_trace`
    * `Process.connections_of_trace`
-/

------------------------------------------------------------
-- Watch Channels
------------------------------------------------------------

namespace AjarGateway

namespace Process

/-
  A watch channel of booleans with one sender, which sends
  while there is still a receiver or none.  A receiver that
  awaits a change waits (`none`), or is told whether there
  is a value that it has not seen yet.
-/
structure WatchCrate where
  Channel : Type
  Receiver : Type
  channel : Bool → Channel × Receiver
  send : (value hasReceiver : Bool) → Channel → Channel
  dropSender : Channel → Channel
  borrow : Channel → Bool
  changed : Channel → Receiver → Option (Bool × Receiver)

namespace WatchCrate

/- The channels whose sender still exists. -/
inductive IsOpen (watch : WatchCrate) :
    watch.Channel → Prop where
  | channel (value : Bool) :
      IsOpen watch (watch.channel value).1
  | send
      (value hasReceiver : Bool)
      {channel : watch.Channel}
      (hOpen : IsOpen watch channel) :
      IsOpen watch (watch.send value hasReceiver channel)

/-
  What the gateway relies on: a new channel holds its first
  value; awaiting a change fails only without the sender,
  and then does not wait; a change is reported once.
-/
structure Documented (watch : WatchCrate) : Prop where
  borrow_channel : ∀ value,
    watch.borrow (watch.channel value).1 = value
  changed_open : ∀ channel receiver next,
    watch.IsOpen channel →
      watch.changed channel receiver ≠ some (false, next)
  changed_closed : ∀ channel receiver,
    watch.IsOpen channel →
      watch.changed (watch.dropSender channel) receiver ≠
        none
  changed_once : ∀ channel receiver next later,
    watch.changed channel receiver = some (true, next) →
      watch.changed channel next ≠ some (true, later)

/- Awaiting a change would report one. -/
def isUnseen
    (watch : WatchCrate)
    (channel : watch.Channel)
    (receiver : watch.Receiver) : Bool :=
  (watch.changed channel receiver).any Prod.fst

end WatchCrate

/- A channel that counts its values. -/
structure CountedChannel where
  value : Bool
  version : Nat
  hasSender : Bool

/- A receiver remembers the count that it has seen. -/
def CountedChannel.changed
    (channel : CountedChannel)
    (seen : Nat) : Option (Bool × Nat) :=
  if seen = channel.version then
    if channel.hasSender then none
    else some (false, seen)
  else some (true, channel.version)

namespace WatchCrate

def reference : WatchCrate where
  Channel := CountedChannel
  Receiver := Nat
  channel := fun value => (⟨value, 0, true⟩, 0)
  send := fun value hasReceiver channel =>
    if hasReceiver then
      ⟨value, channel.version + 1, channel.hasSender⟩
    else channel
  dropSender := fun channel =>
    ⟨channel.value, channel.version, false⟩
  borrow := CountedChannel.value
  changed := CountedChannel.changed

theorem reference_open
    {channel : reference.Channel}
    (hOpen : reference.IsOpen channel) :
    CountedChannel.hasSender channel = true := by
  induction hOpen with
  | channel value => rfl
  | send value hasReceiver hOpen ih =>
      cases hasReceiver with
      | true => exact ih
      | false => exact ih

theorem reference_changed_open
    (channel : CountedChannel)
    (seen next : Nat)
    (hOpen : reference.IsOpen channel) :
    channel.changed seen ≠ some (false, next) := by
  rw [CountedChannel.changed, if_pos (reference_open hOpen)]
  split <;> simp

theorem reference_changed_closed
    (channel : CountedChannel)
    (seen : Nat) :
    CountedChannel.changed
        ⟨channel.value, channel.version, false⟩ seen ≠
      none := by
  rw [CountedChannel.changed]
  split <;> simp

theorem reference_changed_once
    (channel : CountedChannel)
    (seen next later : Nat)
    (hChanged : channel.changed seen = some (true, next)) :
    channel.changed next ≠ some (true, later) := by
  rw [CountedChannel.changed] at hChanged
  by_cases hSeen : seen = channel.version
  · rw [if_pos hSeen] at hChanged
    split at hChanged <;> simp at hChanged
  · rw [if_neg hSeen] at hChanged
    cases hChanged
    rw [CountedChannel.changed, if_pos rfl]
    split <;> simp

theorem reference_documented : reference.Documented where
  borrow_channel := fun _ => rfl
  changed_open := reference_changed_open
  changed_closed := fun channel receiver _ =>
    reference_changed_closed channel receiver
  changed_once := reference_changed_once

end WatchCrate

end Process

end AjarGateway

------------------------------------------------------------
-- Servers With A Graceful Shutdown
------------------------------------------------------------

namespace AjarGateway

namespace Process

open Interleaving Store

/- A server accepts and closes connections, or goes on. -/
inductive ServedEvent where
  | accept
  | close
  | turn
  deriving DecidableEq, Repr

/-
  A server that was handed a future for its shutdown.  Its
  steps and its return depend on whether that future has
  returned by then.
-/
structure ServeCrate where
  State : Type
  served : State
  connections : State → Nat
  step : Bool → State → ServedEvent → State → Prop
  returns :
    Bool → State → Except IoErrorKind Unit → State → Prop

namespace ServeCrate

/- The states of a server that has not returned. -/
inductive Running (crate : ServeCrate) :
    crate.State → Prop where
  | served : Running crate crate.served
  | step
      (told : Bool)
      (event : ServedEvent)
      {before after : crate.State}
      (hRunning : Running crate before)
      (hStep : crate.step told before event after) :
      Running crate after

/-
  What the gateway relies on: a connection is open from its
  acceptance until it is closed; a server succeeds only
  after its future has returned and without an open
  connection, and does nothing from then on; a connection of
  a running server can be closed; and without connections
  one whose future has returned can come to succeed.
-/
structure Documented (crate : ServeCrate) : Prop where
  connections_served : crate.connections crate.served = 0
  connections_step : ∀ told before event after,
    crate.step told before event after →
      crate.connections after +
          (if event = .close then 1 else 0) =
        crate.connections before +
          (if event = .accept then 1 else 0)
  connections_returns : ∀ told before result after,
    crate.returns told before result after →
      crate.connections after = crate.connections before
  succeeds : ∀ told before after,
    crate.returns told before (.ok ()) after →
      told = true ∧ crate.connections before = 0 ∧
        ∀ told event later, ¬crate.step told after event later
  closes : ∀ told before,
    crate.Running before → crate.connections before ≠ 0 →
      ∃ after, crate.step told before .close after
  stops : ∀ before,
    crate.Running before → crate.connections before = 0 →
      ∃ turns last after,
        Trace (crate.step true) before turns last ∧
          (∀ event ∈ turns, event = .turn) ∧
            crate.returns true last (.ok ()) after

end ServeCrate

/- A server that accepts until it is told to stop. -/
structure CountingServer where
  accepting : Bool
  connections : Nat

inductive CountingServer.Step (told : Bool) :
    CountingServer → ServedEvent → CountingServer →
      Prop where
  | accept (connections : Nat) :
      Step told ⟨true, connections⟩ .accept
        ⟨true, connections + 1⟩
  | close (accepting : Bool) (connections : Nat) :
      Step told ⟨accepting, connections + 1⟩ .close
        ⟨accepting, connections⟩
  | stop (connections : Nat) (hTold : told = true) :
      Step told ⟨true, connections⟩ .turn
        ⟨false, connections⟩

namespace ServeCrate

def reference : ServeCrate where
  State := CountingServer
  served := ⟨true, 0⟩
  connections := CountingServer.connections
  step := CountingServer.Step
  returns := fun told before result after =>
    told = true ∧ before = ⟨false, 0⟩ ∧ result = .ok () ∧
      after = before

theorem reference_connections_step
    (told : Bool)
    (before : CountingServer)
    (event : ServedEvent)
    (after : CountingServer)
    (hStep : CountingServer.Step told before event after) :
    after.connections + (if event = .close then 1 else 0) =
      before.connections +
        (if event = .accept then 1 else 0) := by
  cases hStep <;> simp

theorem reference_succeeds
    (told : Bool)
    (before after : CountingServer)
    (hReturns :
      reference.returns told before (.ok ()) after) :
    told = true ∧ before.connections = 0 ∧
      ∀ told event later,
        ¬CountingServer.Step told after event later := by
  rcases hReturns with ⟨hTold, rfl, _, rfl⟩
  refine ⟨hTold, rfl, ?_⟩
  intro told event later hStep
  cases hStep

theorem reference_closes
    (told : Bool)
    (before : CountingServer)
    (hOpen : before.connections ≠ 0) :
    ∃ after,
      CountingServer.Step told before .close after := by
  rcases before with ⟨accepting, connections⟩
  rcases Nat.exists_eq_succ_of_ne_zero hOpen with
    ⟨left, rfl⟩
  exact ⟨_, .close accepting left⟩

theorem reference_stops
    (before : CountingServer)
    (hNone : before.connections = 0) :
    ∃ turns last after,
      Trace (CountingServer.Step true) before turns last ∧
        (∀ event ∈ turns, event = .turn) ∧
          reference.returns true last (.ok ()) after := by
  rcases before with ⟨accepting, connections⟩
  subst hNone
  cases accepting with
  | false =>
      exact ⟨[], _, _, .nil, by simp, rfl, rfl, rfl, rfl⟩
  | true =>
      exact ⟨[.turn], _, _, .snoc .nil (.stop 0 rfl), by simp,
        rfl, rfl, rfl, rfl⟩

theorem reference_documented : reference.Documented where
  connections_served := rfl
  connections_step := reference_connections_step
  connections_returns := by
    rintro told before result after ⟨_, _, _, rfl⟩
    rfl
  succeeds := reference_succeeds
  closes := fun told before _ =>
    reference_closes told before
  stops := fun before _ => reference_stops before

end ServeCrate

end Process

end AjarGateway

------------------------------------------------------------
-- Tasks And Their Join
------------------------------------------------------------

namespace AjarGateway

namespace Process

open Interleaving Store

/- The public proxy server and the admin server. -/
inductive Party where
  | proxy
  | admin
  deriving DecidableEq, Repr

/- What each of the two joined futures has returned. -/
abbrev Returned : Type :=
  Party → Option (Except ServeError Unit)

/-
  A spawned task that owns the sender of a channel may
  panic, and two futures are joined until one of them fails.
-/
structure TaskCrate (watch : WatchCrate) where
  panicked : watch.Channel → watch.Channel → Prop
  tryJoin : Returned → Except ServeError Unit → Prop

namespace TaskCrate

/-
  What the gateway relies on: a task that panics drops what
  it owns; a join succeeds when both futures have, fails
  with the error of one of them, and does not wait any more
  once both have returned.
-/
structure Documented
    {watch : WatchCrate}
    (crate : TaskCrate watch) : Prop where
  panicked : ∀ before after,
    crate.panicked before after →
      after = watch.dropSender before
  tryJoin_ok : ∀ returned,
    crate.tryJoin returned (.ok ()) →
      ∀ party, returned party = some (.ok ())
  tryJoin_error : ∀ returned error,
    crate.tryJoin returned (.error error) →
      ∃ party, returned party = some (.error error)
  tryJoin_ready : ∀ returned,
    (∀ party, (returned party).isSome = true) →
      ∃ result, crate.tryJoin returned result

def reference (watch : WatchCrate) : TaskCrate watch where
  panicked := fun before after =>
    after = watch.dropSender before
  tryJoin := fun returned result =>
    match result with
    | .ok () => ∀ party, returned party = some (.ok ())
    | .error error =>
        ∃ party, returned party = some (.error error)

theorem reference_ready
    (watch : WatchCrate)
    (returned : Returned)
    (hReady : ∀ party, (returned party).isSome = true) :
    ∃ result, (reference watch).tryJoin returned result := by
  by_cases hFailed :
      ∃ party error, returned party = some (.error error)
  · rcases hFailed with ⟨party, error, hError⟩
    exact ⟨.error error, party, hError⟩
  · refine ⟨.ok (), fun party => ?_⟩
    rcases Option.isSome_iff_exists.mp (hReady party) with
      ⟨result, hResult⟩
    cases result with
    | ok value => exact hResult
    | error error =>
        exact absurd ⟨party, error, hResult⟩ hFailed

theorem reference_documented
    (watch : WatchCrate) : (reference watch).Documented where
  panicked := fun _ _ hPanicked => hPanicked
  tryJoin_ok := fun _ hJoined => hJoined
  tryJoin_error := fun _ _ hJoined => hJoined
  tryJoin_ready := reference_ready watch

end TaskCrate

/- The outside code that the servers are built from. -/
structure Crates where
  watch : WatchCrate
  serve : ServeCrate
  tasks : TaskCrate watch

namespace Crates

structure Documented (crates : Crates) : Prop where
  watch : crates.watch.Documented
  serve : crates.serve.Documented
  tasks : crates.tasks.Documented

def reference : Crates where
  watch := .reference
  serve := .reference
  tasks := .reference .reference

theorem reference_documented : reference.Documented where
  watch := WatchCrate.reference_documented
  serve := ServeCrate.reference_documented
  tasks := TaskCrate.reference_documented .reference

end Crates

end Process

end AjarGateway

------------------------------------------------------------
-- The Two Servers
------------------------------------------------------------

namespace AjarGateway

namespace Process

open Interleaving Store

/- The awaits of the signal handler of the binary. -/
inductive SignalOp where
  | terminateHandler
  | ctrlC
  | ctrlCOrTerminate

/- A handler may fail to be installed or to be awaited. -/
@[reducible] def SignalOp.Reply : SignalOp → Type
| .terminateHandler => Except IoErrorKind Unit
| .ctrlC => Except IoErrorKind Unit
| .ctrlCOrTerminate => Option (Except IoErrorKind Unit)

abbrev signalSignature : Interleaving.Signature where
  Op := SignalOp
  Reply := SignalOp.Reply

/- `shutdown_signal` of the binary, on Unix. -/
def shutdownSignal : Program signalSignature Unit :=
  .call .terminateHandler fun
    | .error _ => .call .ctrlC fun _ => .ret ()
    | .ok () => .call .ctrlCOrTerminate fun _ => .ret ()

/-
  Where `shutdown_signal` of a server is: before it reads
  the channel, before it awaits a change, or at its end.
-/
inductive SignalState where
  | borrowing
  | changing
  | returned
  deriving DecidableEq, Repr

/- A server with the future that tells it to shut down. -/
structure Server (crates : Crates) where
  receiver : crates.watch.Receiver
  signal : SignalState
  served : crates.serve.State
  result : Option (Except IoErrorKind Unit)

/-
  The task that awaits the signal: it then sends on the
  channel, and drops the sender when it ends.
-/
inductive Waiter (S : Interleaving.Signature) where
  | awaiting (rest : Program S Unit)
  | completed
  | sent
  | dropped

structure Servers
    (crates : Crates)
    (S : Interleaving.Signature) where
  waiter : Waiter S
  channel : crates.watch.Channel
  server : Party → Server crates

/- The servers when they are spawned. -/
def Servers.initial
    (crates : Crates)
    {S : Interleaving.Signature}
    (shutdown : Program S Unit) : Servers crates S where
  waiter := .awaiting shutdown
  channel := (crates.watch.channel false).1
  server := fun _ =>
    { receiver := (crates.watch.channel false).2
      signal := .borrowing
      served := crates.serve.served
      result := none }

/- The error of a server, as it is passed on. -/
def serverError : Party → IoErrorKind → ServeError
| .proxy, kind => .proxyServerFailed kind
| .admin, kind => .adminServerFailed kind

/- What the two joined futures have returned so far. -/
def Servers.returned
    {crates : Crates}
    {S : Interleaving.Signature}
    (servers : Servers crates S) : Returned :=
  fun party =>
    (servers.server party).result.map
      (·.mapError (serverError party))

end Process

end AjarGateway

------------------------------------------------------------
-- Steps Of The Servers
------------------------------------------------------------

namespace AjarGateway

namespace Process

open Interleaving Store

inductive WaiterEvent (S : Interleaving.Signature) where
  | await (call : Call S)
  | complete
  | panic
  | send
  | dropSender

inductive PartyEvent where
  | borrow
  | changed
  | served (event : ServedEvent)
  | returns (result : Except IoErrorKind Unit)
  deriving DecidableEq

inductive ServersEvent (S : Interleaving.Signature) where
  | waiter (event : WaiterEvent S)
  | party (party : Party) (event : PartyEvent)

variable {crates : Crates}
variable {S : Interleaving.Signature}

/-
  The steps of the waiting task.  The future that it awaits
  may panic.
-/
inductive WaiterStep
    (crates : Crates)
    (hasReceiver : Bool) :
    Waiter S → crates.watch.Channel → WaiterEvent S →
      Waiter S → crates.watch.Channel → Prop where
  | await
      (channel : crates.watch.Channel)
      (op : S.Op)
      (next : S.Reply op → Program S Unit)
      (reply : S.Reply op) :
      WaiterStep crates hasReceiver (.awaiting (.call op next))
        channel (.await ⟨op, reply⟩)
        (.awaiting (next reply)) channel
  | complete (channel : crates.watch.Channel) :
      WaiterStep crates hasReceiver (.awaiting (.ret ()))
        channel .complete .completed channel
  | panic
      (channel channel' : crates.watch.Channel)
      (rest : Program S Unit)
      (hPanicked : crates.tasks.panicked channel channel') :
      WaiterStep crates hasReceiver (.awaiting rest) channel
        .panic .dropped channel'
  | send (channel : crates.watch.Channel) :
      WaiterStep crates hasReceiver .completed channel .send
        .sent (crates.watch.send true hasReceiver channel)
  | dropSender (channel : crates.watch.Channel) :
      WaiterStep crates hasReceiver .sent channel .dropSender
        .dropped (crates.watch.dropSender channel)

/- The future of the server has told it to shut down. -/
def Server.isTold (server : Server crates) : Bool :=
  server.signal = .returned

/-
  The steps of a server: those of its future, and those of
  the server itself, which returns once.
-/
inductive PartyStep (channel : crates.watch.Channel) :
    Server crates → PartyEvent → Server crates → Prop where
  | borrow
      (server : Server crates)
      (hSignal : server.signal = .borrowing) :
      PartyStep channel server .borrow
        { server with
          signal :=
            if crates.watch.borrow channel then .returned
            else .changing }
  | changed
      (server : Server crates)
      (changed : Bool)
      (next : crates.watch.Receiver)
      (hSignal : server.signal = .changing)
      (hChanged :
        crates.watch.changed channel server.receiver =
          some (changed, next)) :
      PartyStep channel server .changed
        { server with
          receiver := next
          signal :=
            if changed then .borrowing else .returned }
  | served
      (server : Server crates)
      (event : ServedEvent)
      (served : crates.serve.State)
      (hStep :
        crates.serve.step server.isTold server.served event
          served) :
      PartyStep channel server (.served event)
        { server with served := served }
  | returns
      (server : Server crates)
      (result : Except IoErrorKind Unit)
      (served : crates.serve.State)
      (hRunning : server.result = none)
      (hReturns :
        crates.serve.returns server.isTold server.served
          result served) :
      PartyStep channel server (.returns result)
        { server with
          served := served
          result := some result }

/- A server still has the receiver of its signal. -/
def Servers.hasReceiver (servers : Servers crates S) : Bool :=
  [.proxy, .admin].any fun party =>
    (servers.server party).signal != .returned

inductive ServersStep :
    Servers crates S → ServersEvent S → Servers crates S →
      Prop where
  | waiter
      (servers : Servers crates S)
      (event : WaiterEvent S)
      (waiter : Waiter S)
      (channel : crates.watch.Channel)
      (hStep :
        WaiterStep crates servers.hasReceiver servers.waiter
          servers.channel event waiter channel) :
      ServersStep servers (.waiter event)
        { servers with
          waiter := waiter
          channel := channel }
  | party
      (servers : Servers crates S)
      (party : Party)
      (event : PartyEvent)
      (server : Server crates)
      (hStep :
        PartyStep servers.channel (servers.server party)
          event server) :
      ServersStep servers (.party party event)
        { servers with
          server :=
            Function.update servers.server party server }

end Process

end AjarGateway

------------------------------------------------------------
-- No Shutdown Without A Signal
------------------------------------------------------------

namespace AjarGateway

namespace Process

open Interleaving Store

variable {crates : Crates}
variable {S : Interleaving.Signature}

/- The servers may know of the signal. -/
def Waiter.IsSignalled : Waiter S → Prop
| .awaiting _ => False
| .completed => False
| .sent => True
| .dropped => True

/- The channel as the task has left it so far. -/
def ChannelFollows (watch : WatchCrate) :
    Waiter S → watch.Channel → Prop
| .awaiting _, channel => channel = (watch.channel false).1
| .completed, channel => channel = (watch.channel false).1
| .sent, channel => watch.IsOpen channel
| .dropped, channel =>
    ∃ before,
      watch.IsOpen before ∧
        channel = watch.dropSender before

/-
  A server is told to shut down only after the signal.  One
  that has succeeded was told, has closed its connections
  and does nothing any more.
-/
structure PartyOrderly
    (signalled : Prop)
    (server : Server crates) : Prop where
  told : server.isTold = true → signalled
  running :
    server.result = none →
      crates.serve.Running server.served
  succeeded :
    server.result = some (.ok ()) →
      server.isTold = true ∧
        crates.serve.connections server.served = 0 ∧
          ∀ told event later,
            ¬crates.serve.step told server.served event later

structure ServersOrderly
    (servers : Servers crates S) : Prop where
  channel :
    ChannelFollows crates.watch servers.waiter
      servers.channel
  parties : ∀ party,
    PartyOrderly servers.waiter.IsSignalled
      (servers.server party)

theorem serversOrderly_initial
    (shutdown : Program S Unit) :
    ServersOrderly (Servers.initial crates shutdown) where
  channel := rfl
  parties := fun _ =>
    { told := by simp [Servers.initial, Server.isTold]
      running := fun _ => .served
      succeeded := by simp [Servers.initial] }

theorem PartyOrderly.mono
    {before after : Prop}
    {server : Server crates}
    (hParty : PartyOrderly before server)
    (hLater : before → after) :
    PartyOrderly after server where
  told := fun hTold => hLater (hParty.told hTold)
  running := hParty.running
  succeeded := hParty.succeeded

/-
  A server keeps its order when it can learn of the signal
  only once there is one.
-/
theorem PartyStep.orderly
    {signalled : Prop}
    {channel : crates.watch.Channel}
    {server next : Server crates}
    {event : PartyEvent}
    (hServe : crates.serve.Documented)
    (hParty : PartyOrderly signalled server)
    (hBorrow :
      crates.watch.borrow channel = true → signalled)
    (hFailed : ∀ receiver later,
      crates.watch.changed channel receiver =
          some (false, later) →
        signalled)
    (hStep : PartyStep channel server event next) :
    PartyOrderly signalled next := by
  rcases hParty with ⟨hTold, hAlive, hSucceeded⟩
  cases hStep with
  | borrow hSignal =>
      refine ⟨?_, hAlive, ?_⟩
      · intro hNow
        apply hBorrow
        by_contra hFalse
        simp [Server.isTold, hFalse] at hNow
      · intro hResult
        have hWas := (hSucceeded hResult).1
        simp [Server.isTold, hSignal] at hWas
  | changed changed later hSignal hChanged =>
      refine ⟨?_, hAlive, ?_⟩
      · intro hNow
        cases changed with
        | true => simp [Server.isTold] at hNow
        | false => exact hFailed _ _ hChanged
      · intro hResult
        have hWas := (hSucceeded hResult).1
        simp [Server.isTold, hSignal] at hWas
  | served event served hServed =>
      refine ⟨hTold, ?_, ?_⟩
      · intro hResult
        exact .step _ event (hAlive hResult) hServed
      · intro hResult
        exact absurd hServed
          ((hSucceeded hResult).2.2 _ _ _)
  | returns result served hRunning hReturns =>
      refine ⟨hTold, by simp, ?_⟩
      rintro ⟨⟩
      rcases hServe.succeeds _ _ _ hReturns with
        ⟨hNow, hNone, hQuiet⟩
      refine ⟨hNow, ?_, hQuiet⟩
      exact (hServe.connections_returns _ _ _ _
        hReturns).trans hNone

/- The waiting task only ever gets further. -/
theorem WaiterStep.signalled
    {hasReceiver : Bool}
    {waiter next : Waiter S}
    {channel channel' : crates.watch.Channel}
    {event : WaiterEvent S}
    (hStep :
      WaiterStep crates hasReceiver waiter channel event next
        channel')
    (hSignalled : waiter.IsSignalled) :
    next.IsSignalled := by
  cases hStep
  all_goals first | exact hSignalled | trivial

theorem WaiterStep.follows
    {hasReceiver : Bool}
    {waiter next : Waiter S}
    {channel channel' : crates.watch.Channel}
    {event : WaiterEvent S}
    (hTasks : crates.tasks.Documented)
    (hChannel : ChannelFollows crates.watch waiter channel)
    (hStep :
      WaiterStep crates hasReceiver waiter channel event next
        channel') :
    ChannelFollows crates.watch next channel' := by
  cases hStep with
  | await _ op rest reply => exact hChannel
  | complete _ => exact hChannel
  | panic _ _ rest hPanicked =>
      have hNew : channel = (crates.watch.channel false).1 :=
        hChannel
      exact ⟨channel, hNew ▸ .channel false,
        hTasks.panicked _ _ hPanicked⟩
  | send _ =>
      have hNew : channel = (crates.watch.channel false).1 :=
        hChannel
      exact .send true hasReceiver (hNew ▸ .channel false)
  | dropSender _ => exact ⟨channel, hChannel, rfl⟩

/- The channel of a task that has not sent says nothing. -/
theorem ChannelFollows.quiet
    {watch : WatchCrate}
    {waiter : Waiter S}
    {channel : watch.Channel}
    (hWatch : watch.Documented)
    (hChannel : ChannelFollows watch waiter channel)
    (hQuiet : ¬waiter.IsSignalled) :
    watch.borrow channel = false ∧
      ∀ receiver later,
        watch.changed channel receiver ≠
          some (false, later) := by
  have hNew : channel = (watch.channel false).1 := by
    cases waiter with
    | awaiting rest => exact hChannel
    | completed => exact hChannel
    | sent => exact absurd trivial hQuiet
    | dropped => exact absurd trivial hQuiet
  subst hNew
  exact ⟨hWatch.borrow_channel false,
    fun receiver later =>
      hWatch.changed_open _ receiver later (.channel false)⟩

theorem ServersOrderly.step
    {servers next : Servers crates S}
    {event : ServersEvent S}
    (hCrates : crates.Documented)
    (hOrderly : ServersOrderly servers)
    (hStep : ServersStep servers event next) :
    ServersOrderly next := by
  cases hStep with
  | waiter event waiter channel hStep =>
      exact ⟨hStep.follows hCrates.tasks hOrderly.channel,
        fun party =>
          (hOrderly.parties party).mono hStep.signalled⟩
  | party party event server hStep =>
      refine ⟨hOrderly.channel, ?_⟩
      intro other
      by_cases hOther : other = party
      · subst hOther
        have hQuiet := hOrderly.channel.quiet hCrates.watch
        have hNext :=
          hStep.orderly hCrates.serve
            (hOrderly.parties other)
            (by
              intro hBorrow
              by_contra hNot
              rw [(hQuiet hNot).1] at hBorrow
              cases hBorrow)
            (by
              intro receiver later hChanged
              by_contra hNot
              exact (hQuiet hNot).2 _ _ hChanged)
        simpa using hNext
      · simpa [Function.update_of_ne hOther] using
          hOrderly.parties other

theorem ServersOrderly.trace
    {servers last : Servers crates S}
    {events : List (ServersEvent S)}
    (hCrates : crates.Documented)
    (hOrderly : ServersOrderly servers)
    (hTrace : Trace ServersStep servers events last) :
    ServersOrderly last :=
  hTrace.invariant (fun _ => ServersOrderly) hOrderly
    fun _ _ _ _ hNow hStep => hNow.step hCrates hStep

theorem orderly_of_trace
    {shutdown : Program S Unit}
    {events : List (ServersEvent S)}
    {servers : Servers crates S}
    (hCrates : crates.Documented)
    (hTrace :
      Trace ServersStep (.initial crates shutdown) events
        servers) :
    ServersOrderly servers :=
  (serversOrderly_initial shutdown).trace hCrates hTrace

end Process

end AjarGateway

------------------------------------------------------------
-- What A Run Of The Servers Has Done
------------------------------------------------------------

namespace AjarGateway

namespace Process

open Interleaving Store

variable {crates : Crates}
variable {S : Interleaving.Signature}
variable {shutdown : Program S Unit}
variable {events : List (ServersEvent S)}
variable {servers : Servers crates S}

/- The calls of the future that the task awaits. -/
def awaitsOf
    (events : List (ServersEvent S)) : List (Call S) :=
  events.filterMap fun
    | .waiter (.await call) => some call
    | _ => none

@[simp] theorem awaitsOf_append
    (first second : List (ServersEvent S)) :
    awaitsOf (first ++ second) =
      awaitsOf first ++ awaitsOf second :=
  List.filterMap_append

/- The future has returned, or it has panicked. -/
def Signalled
    (shutdown : Program S Unit)
    (events : List (ServersEvent S)) : Prop :=
  Performs shutdown (awaitsOf events) (.ret ()) ∨
    .waiter .panic ∈ events

/- The task awaits the future, or the signal has come. -/
def Awaits
    (shutdown : Program S Unit)
    (events : List (ServersEvent S))
    (waiter : Waiter S) : Prop :=
  (∃ rest,
    waiter = .awaiting rest ∧
      Performs shutdown (awaitsOf events) rest ∧
        .waiter .panic ∉ events) ∨
    (∀ rest, waiter ≠ .awaiting rest) ∧
      Signalled shutdown events

theorem Signalled.append
    {event : ServersEvent S}
    (hSignalled : Signalled shutdown events)
    (hOther : awaitsOf [event] = []) :
    Signalled shutdown (events ++ [event]) := by
  rcases hSignalled with hPerforms | hPanic
  · refine .inl ?_
    rw [awaitsOf_append, hOther, List.append_nil]
    exact hPerforms
  · exact .inr (List.mem_append_left _ hPanic)

theorem Awaits.step
    {hasReceiver : Bool}
    {waiter next : Waiter S}
    {channel channel' : crates.watch.Channel}
    {event : WaiterEvent S}
    (hAwaits : Awaits shutdown events waiter)
    (hStep :
      WaiterStep crates hasReceiver waiter channel event next
        channel') :
    Awaits shutdown (events ++ [.waiter event]) next := by
  rcases hAwaits with ⟨rest, rfl, hPerforms, hPanic⟩ |
    ⟨hNot, hSignalled⟩
  · cases hStep with
    | await _ op rest reply =>
        refine .inl ⟨_, rfl, ?_, by simp [hPanic]⟩
        rw [awaitsOf_append]
        exact hPerforms.snoc reply
    | complete _ =>
        refine .inr ⟨by simp, .inl ?_⟩
        rw [awaitsOf_append]
        simpa [awaitsOf] using hPerforms
    | panic _ _ rest hPanicked =>
        exact .inr ⟨by simp, .inr (by simp)⟩
  · cases hStep with
    | await _ op rest reply => exact absurd rfl (hNot _)
    | complete _ => exact absurd rfl (hNot _)
    | panic _ _ rest hPanicked => exact absurd rfl (hNot _)
    | send _ =>
        exact .inr ⟨by simp, hSignalled.append rfl⟩
    | dropSender _ =>
        exact .inr ⟨by simp, hSignalled.append rfl⟩

theorem awaits_of_trace
    (hTrace :
      Trace ServersStep (.initial crates shutdown) events
        servers) :
    Awaits shutdown events servers.waiter := by
  apply hTrace.invariant fun events servers =>
    Awaits shutdown events servers.waiter
  · exact .inl ⟨shutdown, rfl, .done _, by simp⟩
  intro past before event after hPast hStep
  cases hStep with
  | waiter event waiter channel hStep =>
      exact hPast.step hStep
  | party party event server hStep =>
      rcases hPast with
        ⟨rest, hRest, hPerforms, hPanic⟩ |
          ⟨hNot, hSignalled⟩
      · refine .inl ⟨rest, hRest, ?_, by simp [hPanic]⟩
        rw [awaitsOf_append]
        simpa [awaitsOf] using hPerforms
      · exact .inr ⟨hNot, hSignalled.append rfl⟩

/- What a server has returned, it has returned for good. -/
theorem ServersStep.result
    {next : Servers crates S}
    {event : ServersEvent S}
    {party : Party}
    {result : Except IoErrorKind Unit}
    (hStep : ServersStep servers event next)
    (hResult : (servers.server party).result = some result) :
    (next.server party).result = some result := by
  cases hStep with
  | waiter event waiter channel hStep => exact hResult
  | party other event server hStep =>
      by_cases hOther : party = other
      · subst hOther
        simp only [Function.update_self]
        cases hStep with
        | borrow hSignal => exact hResult
        | changed changed later hSignal hChanged =>
            exact hResult
        | served event served hServed => exact hResult
        | returns found served hRunning hReturns =>
            rw [hRunning] at hResult
            cases hResult
      · simpa [Function.update_of_ne hOther] using hResult

/- A server that has returned since then has said so. -/
theorem returns_of_trace
    {first : Servers crates S}
    {party : Party}
    {result : Except IoErrorKind Unit}
    (hTrace : Trace ServersStep first events servers)
    (hFirst : (first.server party).result = none)
    (hResult : (servers.server party).result = some result) :
    .party party (.returns result) ∈ events := by
  revert hResult
  apply hTrace.invariant fun events servers =>
    (servers.server party).result = some result →
      .party party (.returns result) ∈ events
  · intro hResult
    rw [hFirst] at hResult
    cases hResult
  intro past before event after hPast hStep hResult
  cases hStep with
  | waiter event waiter channel hStep =>
      exact List.mem_append_left _ (hPast hResult)
  | party other event server hStep =>
      by_cases hOther : party = other
      · subst hOther
        simp only [Function.update_self] at hResult
        cases hStep with
        | borrow hSignal =>
            exact List.mem_append_left _ (hPast hResult)
        | changed changed later hSignal hChanged =>
            exact List.mem_append_left _ (hPast hResult)
        | served event served hServed =>
            exact List.mem_append_left _ (hPast hResult)
        | returns found served hRunning hReturns =>
            cases hResult
            simp
      · simp only [Function.update_of_ne hOther] at hResult
        exact List.mem_append_left _ (hPast hResult)

/- The connections of a server are those not closed yet. -/
theorem PartyStep.connections
    {channel : crates.watch.Channel}
    {server next : Server crates}
    {event : PartyEvent}
    (hServe : crates.serve.Documented)
    (hStep : PartyStep channel server event next) :
    crates.serve.connections next.served +
        (if event = .served .close then 1 else 0) =
      crates.serve.connections server.served +
        (if event = .served .accept then 1 else 0) := by
  cases hStep with
  | borrow hSignal => simp
  | changed changed later hSignal hChanged => simp
  | served event served hServed =>
      simpa using
        hServe.connections_step _ _ _ _ hServed
  | returns result served hRunning hReturns =>
      simpa using
        hServe.connections_returns _ _ _ _ hReturns

end Process

end AjarGateway
