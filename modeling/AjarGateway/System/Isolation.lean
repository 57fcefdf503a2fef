import AjarGateway.System.Accounting
import AjarGateway.System.ExpiryOrder

/-
  Public requests do not interfere with anything else.

  However many requests are left out of a run, whatever they
  carry and wherever they were dropped, the others do the
  same and are answered the same.  What is left of them is
  what they counted; and a request that is then the first to
  find the manifest expired writes the log line in place of
  one that was left out.

  Key definitions include:
    * `System.DiffersByRequests`
    * `System.requestIsolation`

  Key theorems include:
    * `System.tracks_handle`
    * `System.requests_isolated`
-/

------------------------------------------------------------
-- What Requests Leave Behind
------------------------------------------------------------

namespace AjarGateway

namespace System

open Http Interleaving Serving Store

/- The operations of a public request. -/
def RequestCall (call : Call gatewaySignature) : Prop :=
  1 ≤ GatewayOp.stage call.op

/-
  Two replies that tell apart the states with and without
  some requests: a counter, and an expiry flag that only the
  requests left out have set.
-/
def RepliesVary : (op : GatewayOp) → op.Reply → op.Reply → Prop
| .loadCounter _, _, _ => True
| .compareExchangeExpiryLogged, won, won' =>
    won = false ∧ won' = true
| _, _, _ => False

/-
  The two states differ in what the requests have counted
  with their calls, and in an expiry flag that they may have
  set.  None of them holds the write guard.
-/
structure DiffersByRequests
    (gone : Finset Nat)
    (past : List (Call gatewaySignature))
    (state isolated : SharedState) : Prop where
  lock : isolated.lock = state.lock
  unheld : ∀ lock, state.lock = some lock →
    ∀ thread ∈ gone, lock.writer ≠ some thread
  counters : ∀ counter,
    state.metrics counter =
      isolated.metrics counter +
        UInt64.ofNat (added counter past)
  flag :
    isolated.manifestExpiryLogged = true →
      state.manifestExpiryLogged = true
  files : isolated.files = state.files

theorem DiffersByRequests.refl
    {gone : Finset Nat} {state : SharedState}
    (hFree : ∀ lock, state.lock = some lock →
      lock.writer = none) :
    DiffersByRequests gone [] state state := by
  refine ⟨rfl, ?_, by simp, id, rfl⟩
  intro lock hLock thread _
  simp [hFree lock hLock]

variable {json : SerdeJson} {gone : Finset Nat}
variable {thread : Nat}
variable {past : List (Call gatewaySignature)}
variable {before after isolated : SharedState}

/- A call of a request that is left out. -/
theorem DiffersByRequests.own
    {call : Call gatewaySignature}
    (hDiffers :
      DiffersByRequests gone past before isolated)
    (hExec : Exec json thread before call after)
    (hRequest : RequestCall call) :
    DiffersByRequests gone (past ++ [call]) after
      isolated := by
  have hCounters : ∀ counter,
      after.metrics counter =
        isolated.metrics counter +
          UInt64.ofNat (added counter (past ++ [call])) := by
    intro counter
    rw [hExec.metrics_eq, hDiffers.counters, added_append,
      UInt64.ofNat_add, UInt64.add_assoc, added_cons]
    split <;> rfl
  refine ⟨?_, ?_, hCounters, ?_, ?_⟩
  · rw [hDiffers.lock]
    cases hExec with
    | assign | returnEarly | writePoisoned | dropGuard =>
        cases hRequest
    | _ => rfl
  · have hUnheld := hDiffers.unheld
    cases hExec with
    | assign | returnEarly | writePoisoned | dropGuard =>
        cases hRequest
    | _ => exact hUnheld
  · intro hSet
    have hWas := hDiffers.flag hSet
    cases hExec with
    | compareExchange => rfl
    | resetExpiryLogged => cases hRequest
    | _ => exact hWas
  · rw [hExec.files_eq, hDiffers.files]

/- A request that panics holds no guard to poison. -/
theorem DiffersByRequests.own_unwind
    {op : GatewayOp}
    (hDiffers :
      DiffersByRequests gone past before isolated)
    (hUnwind : Unwind thread before op after)
    (hGone : thread ∈ gone) :
    DiffersByRequests gone past after isolated := by
  cases hUnwind
  have hSame :
      before.lock.map (·.unwound thread) = before.lock := by
    cases hLock : before.lock with
    | none => rfl
    | some lock =>
        rw [Option.map_some, StoreLock.unwound,
          if_neg (hDiffers.unheld lock hLock thread hGone)]
  simpa only [hSame] using hDiffers

/- Another lock that none of the requests holds. -/
theorem DiffersByRequests.withLock
    (hDiffers :
      DiffersByRequests gone past before isolated)
    {lock : StoreLock}
    (hUnheld : ∀ thread ∈ gone, lock.writer ≠ some thread) :
    DiffersByRequests gone past (before.withLock lock)
      (isolated.withLock lock) := by
  refine ⟨rfl, ?_, hDiffers.counters, hDiffers.flag,
    hDiffers.files⟩
  rintro lock ⟨⟩
  exact hUnheld

/- A call of another handler is the same in both runs. -/
theorem DiffersByRequests.other
    {op : GatewayOp} {reply : op.Reply}
    (hDiffers :
      DiffersByRequests gone past before isolated)
    (hExec : Exec json thread before ⟨op, reply⟩ after)
    (hOther : thread ∉ gone) :
    ∃ reply' isolated',
      Exec json thread isolated ⟨op, reply'⟩ isolated' ∧
        DiffersByRequests gone past after isolated' ∧
          (reply' = reply ∨ RepliesVary op reply reply') := by
  have hSame {lock : StoreLock}
      (hLock : before.lock = some lock) :
      isolated.lock = some lock :=
    hDiffers.lock.trans hLock
  have hFree {writer : Option Nat} (hNone : writer = none) :
      ∀ thread ∈ gone, writer ≠ some thread := by
    simp [hNone]
  cases hExec with
  | fetchAdd counter =>
      refine ⟨(), _, .fetchAdd _ counter,
        ⟨hDiffers.lock, hDiffers.unheld, ?_, hDiffers.flag,
          hDiffers.files⟩, .inl rfl⟩
      intro other
      rw [(Exec.fetchAdd before counter :
          Exec json thread _ _ _).metrics_eq,
        (Exec.fetchAdd isolated counter :
          Exec json thread _ _ _).metrics_eq,
        hDiffers.counters, UInt64.add_assoc,
        UInt64.add_comm (UInt64.ofNat _), ← UInt64.add_assoc]
  | loadCounter counter =>
      exact ⟨_, isolated, .loadCounter _ counter, hDiffers,
        .inr trivial⟩
  | readStore lock hLock hNone hClean =>
      exact ⟨_, isolated,
        .readStore _ lock (hSame hLock) hNone hClean,
        hDiffers, .inl rfl⟩
  | readPoisoned lock hLock hNone hPoisoned =>
      exact ⟨_, isolated,
        .readPoisoned _ lock (hSame hLock) hNone hPoisoned,
        hDiffers, .inl rfl⟩
  | nowUnixSeconds now hRange =>
      exact ⟨_, isolated, .nowUnixSeconds _ now hRange,
        hDiffers, .inl rfl⟩
  | compareExchange =>
      refine ⟨_, _, .compareExchange isolated,
        ⟨hDiffers.lock, hDiffers.unheld, hDiffers.counters,
          fun _ => rfl, hDiffers.files⟩, ?_⟩
      have hFlag := hDiffers.flag
      cases hSet : before.manifestExpiryLogged with
      | true =>
          cases isolated.manifestExpiryLogged with
          | true => exact .inl rfl
          | false => exact .inr ⟨rfl, rfl⟩
      | false =>
          cases hSet' : isolated.manifestExpiryLogged with
          | true =>
              rw [hFlag hSet'] at hSet
              cases hSet
          | false => exact .inl rfl
  | resetExpiryLogged =>
      exact ⟨_, _, .resetExpiryLogged isolated,
        ⟨hDiffers.lock, hDiffers.unheld, hDiffers.counters,
          id, hDiffers.files⟩, .inl rfl⟩
  | eprintln line =>
      exact ⟨_, isolated, .eprintln _ line, hDiffers,
        .inl rfl⟩
  | requestOrigin upstream reply =>
      exact ⟨_, isolated, .requestOrigin _ upstream reply,
        hDiffers, .inl rfl⟩
  | loadFromDir storeDir now hRange =>
      refine ⟨_, isolated,
        .loadFromDir _ storeDir now hRange, hDiffers,
        .inl ?_⟩
      rw [hDiffers.files]
  | assign lock update store hLock hNone hClean hUpdate =>
      exact ⟨_, _,
        .assign isolated lock update store (hSame hLock)
          hNone hClean hUpdate,
        hDiffers.withLock (hFree hNone), .inl rfl⟩
  | returnEarly lock update hLock hNone hClean hUpdate =>
      refine ⟨_, _,
        .returnEarly isolated lock update (hSame hLock)
          hNone hClean hUpdate,
        hDiffers.withLock ?_, .inl rfl⟩
      rintro gone hGone ⟨⟩
      exact hOther hGone
  | writePoisoned lock update hLock hNone hPoisoned =>
      refine ⟨_, _,
        .writePoisoned isolated lock update (hSame hLock)
          hNone hPoisoned,
        hDiffers.withLock ?_, .inl rfl⟩
      rintro gone hGone ⟨⟩
      exact hOther hGone
  | dropGuard lock hLock hHeld =>
      exact ⟨_, _,
        .dropGuard isolated lock (hSame hLock) hHeld,
        hDiffers.withLock (hFree rfl), .inl rfl⟩

/- A panic of another handler happens in both runs. -/
theorem DiffersByRequests.unwind
    {op : GatewayOp}
    (hDiffers :
      DiffersByRequests gone past before isolated)
    (hUnwind : Unwind thread before op after) :
    ∃ isolated',
      Unwind thread isolated op isolated' ∧
        DiffersByRequests gone past after isolated' := by
  cases hUnwind with
  | eprintln line =>
      refine ⟨_, .eprintln isolated line, ?_, ?_,
        hDiffers.counters, hDiffers.flag, hDiffers.files⟩
      · rw [hDiffers.lock]
      · intro unwound hUnwound other hGone
        rcases Option.map_eq_some_iff.mp hUnwound with
          ⟨lock, hLock, rfl⟩
        have hUnheld :=
          hDiffers.unheld lock hLock other hGone
        rw [StoreLock.unwound]
        split
        · simp
        · exact hUnheld

end System

end AjarGateway

------------------------------------------------------------
-- Programs With And Without The Requests
------------------------------------------------------------

namespace AjarGateway

namespace System

open Http Interleaving Serving Store

/- The only calls that a handler may make in addition. -/
def LogsExpiry (op : GatewayOp) : Prop :=
  op = .eprintln expiryLine

variable {α : Type} {exempt : Prop}

/- A program that goes on alike after every reply. -/
abbrev TracksItself
    (exempt : Prop)
    (program : GatewayProgram α) : Prop :=
  Tracks RepliesVary LogsExpiry exempt program program

theorem tracks_pure (value : α) :
    TracksItself exempt (.ret value) :=
  .ret (.inr rfl)

/- One operation whose replies do not vary. -/
theorem tracks_operation
    {op : GatewayOp}
    {value : op.Reply → α}
    (hOp : ∀ reply reply', ¬RepliesVary op reply reply') :
    TracksItself exempt
      (.call op fun reply => .ret (value reply)) := by
  refine .call ?_
  rintro reply reply' (rfl | hVary)
  · exact tracks_pure _
  · exact absurd hVary (hOp reply reply')

/- A request may be the first only without the others. -/
theorem tracks_logManifestExpiredOnce :
    TracksItself exempt logManifestExpiredOnce := by
  refine .call ?_
  rintro won won' (rfl | ⟨rfl, rfl⟩)
  · cases won' with
    | false => exact tracks_pure ()
    | true =>
        exact tracks_operation fun _ _ => id
  · exact .silent rfl fun _ => tracks_pure ()

variable (hShown : ¬exempt)
variable (lib : Externals) (state : ProxyState)

include hShown

theorem tracks_serveManifest
    (store : PreparedContentStore)
    (headers : HeaderMap) :
    TracksItself exempt
      (serveManifest lib store headers) := by
  apply Tracks.bind_self hShown
  · exact tracks_operation fun _ _ => id
  · intro now
    split
    · exact tracks_logManifestExpiredOnce.bind_self hShown
        (fun _ => tracks_pure _)
    · split
      · exact tracks_pure _
      · exact tracks_operation fun _ _ => id

theorem tracks_serveUnlessExpired
    (store : PreparedContentStore)
    (headers : HeaderMap)
    (etag : String)
    (response : Response Body) :
    TracksItself exempt
      (serveUnlessExpired lib store headers etag
        response) := by
  apply Tracks.bind_self hShown
  · apply Tracks.bind_self hShown
    · exact tracks_operation fun _ _ => id
    · intro now
      split
      · exact tracks_pure _
      · exact tracks_logManifestExpiredOnce.bind_self hShown
          (fun _ => tracks_pure _)
  · rintro (_ | problem)
    · dsimp only
      split
      · exact tracks_pure _
      · exact tracks_operation fun _ _ => id
    · exact tracks_pure _

theorem tracks_forwardToOrigin
    (linked : Bool)
    (request : Request Chunks) :
    TracksItself exempt
      (forwardToOrigin lib state linked request).run := by
  apply Tracks.run_bind_self hShown
  · rw [Fallible.run_ofExcept]
    exact tracks_pure _
  · intro upstream
    apply Tracks.run_bind_self hShown
    · exact tracks_operation fun _ _ => id
    · rintro (response | _ | _)
      · exact tracks_pure _
      · exact tracks_operation fun _ _ => id
      · exact tracks_operation fun _ _ => id

theorem tracks_routeRequest
    (request : Request Chunks)
    (snapshot : Option PreparedContentStore) :
    TracksItself exempt
      (routeRequest lib state request snapshot).run := by
  have hForward (linked : Bool) :=
    tracks_forwardToOrigin hShown lib state linked request
  have hLift {program : GatewayProgram (Response Body)}
      (hProgram : TracksItself exempt program) :
      TracksItself exempt
        (liftM program :
          Fallible gatewaySignature ProxyHttpError
            (Response Body)).run :=
    hProgram.bind_self hShown (fun _ => tracks_pure _)
  cases snapshot with
  | none => exact hForward false
  | some store =>
      simp only [routeRequest]
      split
      · exact hLift (tracks_serveManifest hShown lib _ _)
      split
      · exact hLift
          (tracks_serveUnlessExpired hShown lib _ _ _ _)
      split
      · split
        · exact hForward true
        · split
          · exact hLift
              (tracks_serveUnlessExpired hShown lib _ _ _ _)
          · exact hLift
              (tracks_serveUnlessExpired hShown lib _ _ _ _)
          · apply Tracks.run_bind_self hShown
            · exact tracks_operation fun _ _ => id
            · exact fun _ => hForward true
      · exact hForward true

theorem tracks_answerPublic
    (request : Request Chunks) :
    TracksItself exempt (answerPublic lib state request) := by
  apply Tracks.bind_self hShown
  · apply Tracks.run_bind_self hShown
    · exact tracks_operation fun _ _ => id
    · intro _
      apply Tracks.run_bind_self hShown
      · rw [currentStore]
        split
        · apply Tracks.run_bind_self hShown
          · exact tracks_operation fun _ _ => id
          · rintro (_ | store)
            · exact tracks_pure _
            · exact tracks_pure _
        · exact tracks_pure _
      · exact tracks_routeRequest hShown lib state request
  · exact fun _ => tracks_pure _

omit hShown

theorem tracks_reloadStore :
    TracksItself exempt (reloadStore state) := by
  have hMeets :
      (reloadStore state).Meets
        (fun _ op => ∀ reply reply',
          ¬RepliesVary op reply reply')
        (fun _ _ => True) [] := by
    apply meets_reloadStore_of_exits
    intro calls answer hExit
    cases hExit <;> simp [failureCalls, RepliesVary]
  exact hMeets.tracks

/- Only the answers of `/metrics` may differ. -/
theorem tracks_handle (incoming : Incoming) :
    TracksItself (incoming = .metrics)
      (handle lib state incoming) :=
  tracks_handle_of lib state
    (fun _ request hShown =>
      tracks_answerPublic hShown lib state request)
    (fun _ => tracks_reloadStore state) incoming

/- Public requests can be left out of a run. -/
def requestIsolation
    (lib : Externals)
    (state : ProxyState)
    (gone : Finset Nat) : Isolation (gateway lib state) gone where
  related := DiffersByRequests gone
  quiet := RequestCall
  mayPanic := True
  varies := RepliesVary
  silent := LogsExpiry
  exempt := (· = .metrics)
  own := fun _ hRequest hExec hDiffers =>
    hDiffers.own hExec hRequest
  ownUnwind := fun _ hGone hUnwind hDiffers =>
    hDiffers.own_unwind hUnwind hGone
  other := fun hOther hExec hDiffers =>
    hDiffers.other hExec hOther
  unwind := fun _ hUnwind hDiffers => hDiffers.unwind hUnwind
  change := by
    rintro past files before _ isolated rfl hDiffers
    exact ⟨_, rfl, hDiffers.lock, hDiffers.unheld,
      hDiffers.counters, hDiffers.flag, rfl⟩
  silently := by
    rintro thread _ isolated rfl
    exact ⟨(), .eprintln isolated expiryLine⟩
  tracks := tracks_handle lib state

end System

end AjarGateway

------------------------------------------------------------
-- Public Requests Are Isolated
------------------------------------------------------------

namespace AjarGateway

namespace System

open Http Interleaving Serving Store

variable {lib : Externals} {state : ProxyState}
variable {shared : SharedState}
variable {events : List (Event (gateway lib state))}
variable {after : Config (gateway lib state)}
variable {gone : Finset Nat}

/- These threads run public requests, if they run at all. -/
def RunRequests
    (gone : Finset Nat)
    (events : List (Event (gateway lib state))) : Prop :=
  ∀ thread ∈ gone, ∀ incoming,
    .start thread incoming ∈ events →
      ∃ request, incoming = .publicRequest request

/-
  A run without some requests: they are not started, the
  others do the same and are answered the same, and the
  state differs in what the requests have counted.
-/
structure RunsWithout
    (gone : Finset Nat)
    (events kept : List (Event (gateway lib state)))
    (after isolated : SharedState) : Prop where
  absent : ∀ thread ∈ gone, ∀ incoming,
    .start thread incoming ∉ kept
  mirrors :
    Mirrors RepliesVary LogsExpiry
      (fun other => .start other .metrics ∈ events)
      (eventsOutside gone events) kept
  answers : ∀ other,
    other ∉ gone →
      .start other .metrics ∉ events →
        answersOf other kept = answersOf other events
  lock : isolated.lock = after.lock
  files : isolated.files = after.files
  counters : ∀ counter,
    after.metrics counter =
      isolated.metrics counter +
        UInt64.ofNat
          (added counter (callsWithin gone events))

theorem requestCalls_of_run
    (hRun : Run (.initial shared) events after)
    (hRequests : RunRequests gone events) :
    ∀ call ∈ callsWithin gone events, RequestCall call := by
  intro call hCall
  rcases List.mem_filterMap.mp hCall with
    ⟨event, hEvent, hCallIn⟩
  cases event with
  | call thread performed =>
      simp only [Event.callIn, Option.ite_none_right_eq_some,
        Option.some.injEq] at hCallIn
      rcases hCallIn with ⟨hGone, rfl⟩
      rcases (mem_startedThreads_iff _ _).mp
          (hRun.caller_started hEvent) with
        ⟨incoming, hStart⟩
      rcases hRequests thread hGone incoming hStart with
        ⟨request, rfl⟩
      rcases hRun.performs_of_start hStart with
        ⟨_, _, hPerforms⟩
      exact (hPerforms.stages
        (climbs_answerPublic lib state request)).1 _
        ((mem_callsOf_iff _ _ _).mpr hEvent)
  | _ => cases hCallIn

/- The requests are not started in a mirror of the others. -/
theorem absent_of_mirrors
    {kept : List (Event (gateway lib state))}
    {exempt : Nat → Prop}
    {thread : Nat} {incoming : Incoming}
    (hMirrors :
      Mirrors RepliesVary LogsExpiry exempt
        (eventsOutside gone events) kept)
    (hGone : thread ∈ gone) :
    .start thread incoming ∉ kept := by
  have hStarts :
      startsOf thread kept =
        startsOf thread (eventsOutside gone events) :=
    hMirrors.filterMap_eq (fun _ _ => rfl)
      (fun _ _ _ => rfl)
  rw [← mem_startsOf_iff, hStarts, mem_startsOf_iff,
    eventsOutside, List.mem_filter]
  rintro ⟨_, hOutside⟩
  exact Event.not_mem_of_isOutside hOutside rfl hGone

/-
  Public requests are isolated, in a run of the gateway from
  any state in which no handler holds the guard.  Whatever
  any of them are, and wherever they panicked or were
  dropped, there is a run without them in which all others
  do the same, but for what `/metrics` reports and for the
  one line that logs the expiry.
-/
theorem requests_isolated
    (hFree : ∀ lock, shared.lock = some lock →
      lock.writer = none)
    (hRun : Run (.initial shared) events after)
    (hRequests : RunRequests gone events) :
    ∃ (kept : List (Event (gateway lib state)))
      (isolated : Config (gateway lib state)),
      Run (.initial shared) kept isolated ∧
        RunsWithout gone events kept after.state
          isolated.state := by
  rcases hRun.isolate (requestIsolation lib state gone)
      (.refl hFree) (requestCalls_of_run hRun hRequests)
      (fun _ _ _ => trivial) with
    ⟨kept, isolated, hKept, hMirrors, hSimulates⟩
  have hDiffers :
      DiffersByRequests gone (callsWithin gone events)
        after.state isolated.state :=
    hSimulates.state
  have hMetrics :
      Mirrors RepliesVary LogsExpiry
        (fun other => .start other .metrics ∈ events)
        (eventsOutside gone events) kept := by
    apply hMirrors.mono
    rintro other ⟨_, rfl, hStart⟩
    exact hStart
  refine ⟨kept, isolated, hKept, ?_, hMetrics, ?_,
    hDiffers.lock, hDiffers.files, hDiffers.counters⟩
  · intro thread hGone incoming
    exact absent_of_mirrors hMetrics hGone
  · intro other hOther hShown
    exact hMetrics.answersOf_eq hOther hShown

/-
  One request logs the expiry of the old page, another one
  finds the new page expired.  Without the first one, the
  second one is answered the same.
-/
theorem requests_isolated_sample :
    ∃ (kept : List (Event (gateway sampleExt sampleState)))
      (isolated : Config (gateway sampleExt sampleState)),
      Run (.initial sampleShared) kept isolated ∧
        (∀ incoming, .start 0 incoming ∉ kept) ∧
          .answer 2 expiredProblem ∈ kept := by
  rcases run_silencedEvents with ⟨after, hRun, _⟩
  have hFree : ∀ lock, sampleShared.lock = some lock →
      lock.writer = none := by
    rintro lock ⟨⟩
    rfl
  have hRequests : RunRequests {0} silencedEvents := by
    intro thread hGone incoming hStart
    rw [Finset.mem_singleton] at hGone
    subst hGone
    simp [silencedEvents, loadEvents, expiredEvents,
      commitCalls] at hStart
    exact ⟨_, hStart⟩
  rcases requests_isolated hFree hRun hRequests with
    ⟨kept, isolated, hKept, hWithout⟩
  refine ⟨kept, isolated, hKept,
    hWithout.absent 0 (by simp), ?_⟩
  rw [← mem_answersOf_iff,
    hWithout.answers 2 (by simp)
      (by simp [silencedEvents, loadEvents, expiredEvents,
        commitCalls]),
    mem_answersOf_iff]
  simp [silencedEvents, expiredEvents]

end System

end AjarGateway
