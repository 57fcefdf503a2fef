import AjarGateway.Interleaving.Pool
import Mathlib.Data.Finset.Basic

/-
  Runs without any of some handlers.

  Handlers are isolated from all others when they can be
  left out of a run: the others make the same calls in the
  same order and give the same answers.  Some replies may
  tell the two runs apart.  A handler with another reply may
  then make more calls, as long as these are silent: they
  can be made at any time and change nothing.

  Key definitions include:
    * `Interleaving.Tracks`
    * `Interleaving.Mirrors`
    * `Interleaving.Isolation`

  Key theorems include:
    * `Interleaving.Mirrors.filterMap_eq`
    * `Interleaving.Mirrors.answersOf_eq`
    * `Interleaving.Isolation.Simulates.catch_up`
    * `Interleaving.Run.isolate`
-/

------------------------------------------------------------
-- Programs That Track Each Other
------------------------------------------------------------

namespace Interleaving

variable {S : Signature} {α β ε : Type}

/-
  The second program makes the calls of the first one, with
  silent calls between them.  Where the replies vary it goes
  on in the same way; unless it is exempt, it returns the
  same value.
-/
inductive Tracks
    (varies : (op : S.Op) → S.Reply op → S.Reply op → Prop)
    (silent : S.Op → Prop)
    (exempt : Prop) :
    Program S α → Program S α → Prop where
  | ret
      {value value' : α}
      (hValue : exempt ∨ value' = value) :
      Tracks varies silent exempt (.ret value) (.ret value')
  | call
      {op : S.Op}
      {next next' : S.Reply op → Program S α}
      (hNext : ∀ reply reply',
        reply' = reply ∨ varies op reply reply' →
          Tracks varies silent exempt (next reply)
            (next' reply')) :
      Tracks varies silent exempt (.call op next)
        (.call op next')
  | silent
      {program : Program S α}
      {op : S.Op}
      {next' : S.Reply op → Program S α}
      (hSilent : silent op)
      (hNext : ∀ reply,
        Tracks varies silent exempt program (next' reply)) :
      Tracks varies silent exempt program (.call op next')

/- The second program makes no silent call now. -/
inductive Paired
    (varies : (op : S.Op) → S.Reply op → S.Reply op → Prop)
    (silent : S.Op → Prop)
    (exempt : Prop) :
    Program S α → Program S α → Prop where
  | ret
      {value value' : α}
      (hValue : exempt ∨ value' = value) :
      Paired varies silent exempt (.ret value) (.ret value')
  | call
      {op : S.Op}
      {next next' : S.Reply op → Program S α}
      (hNext : ∀ reply reply',
        reply' = reply ∨ varies op reply reply' →
          Tracks varies silent exempt (next reply)
            (next' reply')) :
      Paired varies silent exempt (.call op next)
        (.call op next')

variable
  {varies : (op : S.Op) → S.Reply op → S.Reply op → Prop}
variable {silent : S.Op → Prop} {exempt : Prop}

/- A program that calls no varying operation. -/
theorem Program.Meets.tracks
    {post : List (Call S) → α → Prop}
    {past : List (Call S)}
    {program : Program S α}
    (hMeets :
      program.Meets
        (fun _ op => ∀ reply reply',
          ¬varies op reply reply')
        post past) :
    Tracks varies silent exempt program program := by
  induction program generalizing past with
  | ret value => exact .ret (.inr rfl)
  | call op next ih =>
      refine .call ?_
      rintro reply reply' (rfl | hVaries)
      · exact ih reply' (hMeets.2 reply')
      · exact absurd hVaries (hMeets.1 reply reply')

theorem Tracks.bind
    {first first' : Program S α}
    {second second' : α → Program S β}
    (hFirst : Tracks varies silent exempt first first')
    (hSecond : ∀ value value',
      exempt ∨ value' = value →
        Tracks varies silent exempt (second value)
          (second' value')) :
    Tracks varies silent exempt (first >>= second)
      (first' >>= second') := by
  induction hFirst with
  | @ret value value' hValue =>
      exact hSecond value value' hValue
  | call _ ih => exact .call ih
  | silent hSilent _ ih => exact .silent hSilent ih

/- A sequence tracks itself when its parts do. -/
theorem Tracks.bind_self
    {first : Program S α}
    {second : α → Program S β}
    (hShown : ¬exempt)
    (hFirst : Tracks varies silent exempt first first)
    (hSecond : ∀ value,
      Tracks varies silent exempt (second value)
        (second value)) :
    Tracks varies silent exempt (first >>= second)
      (first >>= second) := by
  apply hFirst.bind
  rintro value value' (hExempt | rfl)
  · exact absurd hExempt hShown
  · exact hSecond value'

theorem Tracks.run_bind_self
    {first : Fallible S ε α}
    {second : α → Fallible S ε β}
    (hShown : ¬exempt)
    (hFirst : Tracks varies silent exempt first.run first.run)
    (hSecond : ∀ value,
      Tracks varies silent exempt (second value).run
        (second value).run) :
    Tracks varies silent exempt (first >>= second).run
      (first >>= second).run := by
  rw [ExceptT.run_bind]
  apply hFirst.bind_self hShown
  rintro (error | value)
  · exact .ret (.inr rfl)
  · exact hSecond value

end Interleaving

------------------------------------------------------------
-- Histories Of The Others
------------------------------------------------------------

namespace Interleaving

variable {S : Signature} {Answer : Type}
variable {M : Machine S Answer}

/- The event belongs to none of some threads. -/
def Event.isOutside
    (gone : Finset Nat)
    (event : Event M) : Bool :=
  event.thread?.all fun thread => thread ∉ gone

/- The events of all threads but some. -/
def eventsOutside
    (gone : Finset Nat)
    (events : List (Event M)) : List (Event M) :=
  events.filter (Event.isOutside gone)

/- The call an event performs for one of some threads. -/
def Event.callIn (gone : Finset Nat) :
    Event M → Option (Call S)
| .call thread performed =>
    if thread ∈ gone then some performed else none
| _ => none

/- The calls that these threads have performed. -/
def callsWithin
    (gone : Finset Nat)
    (events : List (Event M)) : List (Call S) :=
  events.filterMap (Event.callIn gone)

theorem callsWithin_snoc
    (gone : Finset Nat)
    (events : List (Event M))
    (event : Event M) :
    callsWithin gone (events ++ [event]) =
      callsWithin gone events ++
        (event.callIn gone).toList := by
  cases hCall : event.callIn gone <;>
    simp [callsWithin, hCall]

variable {gone : Finset Nat} {event : Event M}

theorem Event.not_mem_of_isOutside
    {thread : Nat}
    (hOutside : event.isOutside gone = true)
    (hThread : event.thread? = some thread) :
    thread ∉ gone := by
  simpa [isOutside, hThread] using hOutside

theorem Event.exists_of_not_isOutside
    (hInside : event.isOutside gone = false) :
    ∃ thread ∈ gone, event.thread? = some thread := by
  rw [isOutside] at hInside
  cases hThread : event.thread? with
  | none => simp [hThread] at hInside
  | some thread => simpa [hThread] using hInside

theorem Event.callIn_of_isOutside
    (hOutside : event.isOutside gone = true) :
    event.callIn gone = none := by
  cases event with
  | call thread performed =>
      exact if_neg (not_mem_of_isOutside hOutside rfl)
  | _ => rfl

/- What is read off other threads only is left as it is. -/
theorem filterMap_eventsOutside
    {γ : Type}
    {read : Event M → Option γ}
    (events : List (Event M))
    (hRead : ∀ event : Event M,
      event.isOutside gone = false → read event = none) :
    (eventsOutside gone events).filterMap read =
      events.filterMap read := by
  rw [eventsOutside, List.filterMap_filter]
  apply List.filterMap_congr
  intro event _
  cases hOutside : event.isOutside gone with
  | true => rfl
  | false => exact (hRead event hOutside).symm

variable
  (varies : (op : S.Op) → S.Reply op → S.Reply op → Prop)
variable (silent : S.Op → Prop) (exempt : Nat → Prop)

/-
  The same event, but for replies that vary and the answers
  of exempt threads.
-/
inductive Matched : Event M → Event M → Prop where
  | refl (event : Event M) : Matched event event
  | call
      (thread : Nat)
      {op : S.Op}
      {reply reply' : S.Reply op}
      (hVaries : varies op reply reply') :
      Matched (.call thread ⟨op, reply⟩)
        (.call thread ⟨op, reply'⟩)
  | answer
      {thread : Nat}
      (hExempt : exempt thread)
      (answer answer' : Answer) :
      Matched (.answer thread answer)
        (.answer thread answer')

/- The same events in order, with silent calls in between. -/
inductive Mirrors :
    List (Event M) → List (Event M) → Prop where
  | nil : Mirrors [] []
  | same
      {events kept : List (Event M)}
      {event event' : Event M}
      (hMirrors : Mirrors events kept)
      (hEvent : Matched varies exempt event event') :
      Mirrors (events ++ [event]) (kept ++ [event'])
  | silent
      {events kept : List (Event M)}
      (hMirrors : Mirrors events kept)
      (thread : Nat)
      (call : Call S)
      (hSilent : silent call.op) :
      Mirrors events (kept ++ [.call thread call])

variable {varies silent exempt}

theorem Mirrors.mono
    {exempt' : Nat → Prop}
    {events kept : List (Event M)}
    (hMirrors : Mirrors varies silent exempt events kept)
    (hExempt : ∀ thread, exempt thread → exempt' thread) :
    Mirrors varies silent exempt' events kept := by
  induction hMirrors with
  | nil => exact .nil
  | same _ hEvent ih =>
      refine ih.same ?_
      cases hEvent with
      | refl => exact .refl _
      | call thread hVaries => exact .call thread hVaries
      | answer hThread answer answer' =>
          exact .answer (hExempt _ hThread) answer answer'
  | silent _ thread call hSilent ih =>
      exact ih.silent thread call hSilent

/- All but calls and exempt answers can be read off both. -/
theorem Mirrors.filterMap_eq
    {γ : Type}
    {read : Event M → Option γ}
    {events kept : List (Event M)}
    (hMirrors : Mirrors varies silent exempt events kept)
    (hCalls : ∀ thread call,
      read (.call thread call) = none)
    (hAnswers : ∀ thread, exempt thread →
      ∀ answer, read (.answer thread answer) = none) :
    kept.filterMap read = events.filterMap read := by
  induction hMirrors with
  | nil => rfl
  | same _ hEvent ih =>
      rw [List.filterMap_append, List.filterMap_append, ih]
      cases hEvent with
      | refl => rfl
      | call thread hVaries =>
          simp [hCalls]
      | answer hThread answer answer' =>
          simp [hAnswers _ hThread]
  | silent _ thread call _ ih =>
      rw [List.filterMap_append, ih]
      simp [hCalls]

/- The other handlers give the same answers. -/
theorem Mirrors.answersOf_eq
    {events kept : List (Event M)} {other : Nat}
    (hMirrors :
      Mirrors varies silent exempt
        (eventsOutside gone events) kept)
    (hOther : other ∉ gone)
    (hShown : ¬exempt other) :
    answersOf other kept = answersOf other events := by
  have hKept :
      answersOf other kept =
        answersOf other (eventsOutside gone events) := by
    apply hMirrors.filterMap_eq (fun _ _ => rfl)
    intro thread hExempt answer
    apply if_neg
    rintro rfl
    exact hShown hExempt
  rw [hKept]
  apply filterMap_eventsOutside
  intro event hInside
  rcases Event.exists_of_not_isOutside hInside with
    ⟨thread, hGone, hThread⟩
  apply Event.answerOf_of_other
  rw [hThread]
  rintro ⟨⟩
  exact hOther hGone

end Interleaving

------------------------------------------------------------
-- Isolated Handlers
------------------------------------------------------------

namespace Interleaving

variable {S : Signature} {Answer : Type}
variable {M : Machine S Answer}

/-
  What isolates the handlers of some threads from the other
  ones.  `related past before isolated` relates the shared
  states of the two runs once those threads have made the
  calls `past`, which are `quiet`.
-/
structure Isolation
    (M : Machine S Answer)
    (gone : Finset Nat) where
  related : List (Call S) → M.State → M.State → Prop
  quiet : Call S → Prop
  mayPanic : Prop
  varies : (op : S.Op) → S.Reply op → S.Reply op → Prop
  silent : S.Op → Prop
  exempt : M.Handler → Prop
  own :
    ∀ {past : List (Call S)} {thread : Nat} {call : Call S}
      {before after isolated : M.State},
      thread ∈ gone →
        quiet call →
          M.exec thread before call after →
            related past before isolated →
              related (past ++ [call]) after isolated
  ownUnwind :
    ∀ {past : List (Call S)} {thread : Nat} {op : S.Op}
      {before after isolated : M.State},
      mayPanic →
        thread ∈ gone →
          M.unwind thread before op after →
            related past before isolated →
              related past after isolated
  other :
    ∀ {past : List (Call S)} {thread : Nat} {op : S.Op}
      {reply : S.Reply op}
      {before after isolated : M.State},
      thread ∉ gone →
        M.exec thread before ⟨op, reply⟩ after →
          related past before isolated →
            ∃ reply' isolated',
              M.exec thread isolated ⟨op, reply'⟩ isolated' ∧
                related past after isolated' ∧
                  (reply' = reply ∨ varies op reply reply')
  unwind :
    ∀ {past : List (Call S)} {thread : Nat} {op : S.Op}
      {before after isolated : M.State},
      thread ∉ gone →
        M.unwind thread before op after →
          related past before isolated →
            ∃ isolated',
              M.unwind thread isolated op isolated' ∧
                related past after isolated'
  change :
    ∀ {past : List (Call S)} {made : M.Change}
      {before after isolated : M.State},
      M.change before made after →
        related past before isolated →
          ∃ isolated',
            M.change isolated made isolated' ∧
              related past after isolated'
  silently :
    ∀ (thread : Nat) {op : S.Op} (isolated : M.State),
      silent op →
        ∃ reply, M.exec thread isolated ⟨op, reply⟩ isolated
  tracks : ∀ handler,
    Tracks varies silent (exempt handler)
      (M.program handler) (M.program handler)

namespace Isolation

variable {gone : Finset Nat} (I : Isolation M gone)

/- The lives of one handler in the two runs. -/
inductive TracksThread (started : List M.Handler) :
    Thread S Answer → Thread S Answer → Prop where
  | idle : TracksThread started .idle .idle
  | running
      {handler : M.Handler}
      {rest rest' : Program S Answer}
      (hStarted : handler ∈ started)
      (hTracks :
        Tracks I.varies I.silent (I.exempt handler) rest
          rest') :
      TracksThread started (.running rest) (.running rest')
  | answered (answer answer' : Answer) :
      TracksThread started (.answered answer)
        (.answered answer')
  | panicked : TracksThread started .panicked .panicked
  | cancelled : TracksThread started .cancelled .cancelled

/- The threads of a history whose handlers are exempt. -/
def Exempt (events : List (Event M)) (thread : Nat) : Prop :=
  ∃ handler,
    I.exempt handler ∧ .start thread handler ∈ events

/- The two runs after a history of the first one. -/
structure Simulates
    (events : List (Event M))
    (c isolated : Config M) : Prop where
  state :
    I.related (callsWithin gone events) c.state
      isolated.state
  threads : ∀ thread, thread ∉ gone →
    I.TracksThread (startsOf thread events)
      (c.threads thread) (isolated.threads thread)

end Isolation

end Interleaving

------------------------------------------------------------
-- Leaving The Handlers Out
------------------------------------------------------------

namespace Interleaving

variable {S : Signature} {Answer : Type}
variable {M : Machine S Answer}

namespace Isolation

variable {gone : Finset Nat} {I : Isolation M gone}
variable {events : List (Event M)} {event : Event M}
variable {before after isolated : Config M}

theorem TracksThread.snoc
    {thread : Nat}
    {status status' : Thread S Answer}
    (hTracks :
      I.TracksThread (startsOf thread events) status status')
    (event : Event M) :
    I.TracksThread (startsOf thread (events ++ [event]))
      status status' := by
  cases hTracks with
  | idle => exact .idle
  | running hStarted hTracks =>
      rw [startsOf_snoc]
      exact .running (List.mem_append_left _ hStarted) hTracks
  | answered answer answer' => exact .answered answer answer'
  | panicked => exact .panicked
  | cancelled => exact .cancelled

/- A step of a handler that is left out. -/
theorem Simulates.own_step
    {actor : Nat}
    (hSimulates : I.Simulates events before isolated)
    (hStep : Step before event after)
    (hActor : event.thread? = some actor)
    (hGone : actor ∈ gone)
    (hQuiet : ∀ call ∈ event.callIn gone, I.quiet call)
    (hPanic : event = .panic actor → I.mayPanic) :
    I.Simulates (events ++ [event]) after isolated := by
  constructor
  · have hState := hSimulates.state
    rw [callsWithin_snoc]
    cases hStep with
    | start _ | answer _ | cancel _ _ =>
        simpa [Event.callIn] using hState
    | panic _ hUnwind =>
        cases hActor
        simpa [Event.callIn] using
          I.ownUnwind (hPanic rfl) hGone hUnwind hState
    | change _ => cases hActor
    | call _ hExec =>
        cases hActor
        simp only [Event.callIn, if_pos hGone, Option.mem_def,
          Option.some.injEq, forall_eq'] at hQuiet
        simpa [Event.callIn, hGone] using
          I.own hGone hQuiet hExec hState
  · intro thread hOther
    have hNotOwn : event.thread? ≠ some thread := by
      rw [hActor]
      rintro ⟨⟩
      exact hOther hGone
    rw [hStep.threads_of_ne hNotOwn]
    exact (hSimulates.threads thread hOther).snoc event

/- A step of another handler changes this one in both. -/
theorem Simulates.setThread
    {actor : Nat}
    {state state' : M.State}
    {status status' : Thread S Answer}
    (hSimulates : I.Simulates events before isolated)
    (hOutside : event.isOutside gone = true)
    (hState :
      I.related (callsWithin gone events) state state')
    (hStatus :
      I.TracksThread (startsOf actor (events ++ [event]))
        status status') :
    I.Simulates (events ++ [event])
      (({ before with state := state }).setThread actor
        status)
      (({ isolated with state := state' }).setThread actor
        status') := by
  constructor
  · rw [callsWithin_snoc, Event.callIn_of_isOutside hOutside]
    simpa using hState
  · intro other hOther
    by_cases hSame : other = actor
    · subst hSame
      simpa using hStatus
    · rw [Config.setThread_threads_of_ne _ _ hSame,
        Config.setThread_threads_of_ne _ _ hSame]
      exact (hSimulates.threads other hOther).snoc event

/- Another handler that is idle is idle in both. -/
theorem Simulates.idle
    {actor : Nat}
    (hSimulates : I.Simulates events before isolated)
    (hOther : actor ∉ gone)
    (hIdle : before.threads actor = .idle) :
    isolated.threads actor = .idle := by
  have hThread := hSimulates.threads actor hOther
  rw [hIdle] at hThread
  generalize isolated.threads actor = status at hThread ⊢
  cases hThread
  rfl

/- A silent call of the second run is no step of the first. -/
theorem Simulates.silent_step
    {actor : Nat} {handler : M.Handler}
    {rest rest' : Program S Answer}
    (hSimulates : I.Simulates events before isolated)
    (hRunning : before.threads actor = .running rest)
    (hStarted : .start actor handler ∈ events)
    (hTracks :
      Tracks I.varies I.silent (I.exempt handler) rest
        rest') :
    I.Simulates events before
      (isolated.setThread actor (.running rest')) := by
  refine ⟨hSimulates.state, ?_⟩
  intro other hOther
  by_cases hSame : other = actor
  · subst hSame
    rw [hRunning, Config.setThread_threads_self]
    exact .running ((mem_startsOf_iff _ _ _).mpr hStarted)
      hTracks
  · rw [Config.setThread_threads_of_ne _ _ hSame]
    exact hSimulates.threads other hOther

/-
  Another handler can make its silent calls, after which it
  makes the same call in both runs.
-/
theorem Simulates.catch_up
    {kept others : List (Event M)} {exempt : Nat → Prop}
    {state : M.State}
    {actor : Nat} {rest : Program S Answer}
    (hSimulates : I.Simulates events before isolated)
    (hKept : Run (.initial state) kept isolated)
    (hMirrors :
      Mirrors I.varies I.silent exempt others kept)
    (hOther : actor ∉ gone)
    (hRunning : before.threads actor = .running rest) :
    ∃ (handler : M.Handler) (kept' : List (Event M))
        (ready : Config M) (rest' : Program S Answer),
      .start actor handler ∈ events ∧
        Run (.initial state) kept' ready ∧
          Mirrors I.varies I.silent exempt others kept' ∧
            I.Simulates events before ready ∧
              ready.threads actor = .running rest' ∧
                Paired I.varies I.silent (I.exempt handler)
                  rest rest' := by
  have hThread := hSimulates.threads actor hOther
  rw [hRunning] at hThread
  generalize hStatus : isolated.threads actor = status
    at hThread
  cases hThread with
  | @running handler _ rest' hMem hTracks =>
      have hStarted := (mem_startsOf_iff _ _ _).mp hMem
      refine ⟨handler, ?_⟩
      -- by induction on the silent calls that are due
      induction hTracks generalizing isolated kept with
      | ret hValue =>
          exact ⟨kept, isolated, _, hStarted, hKept, hMirrors,
            hSimulates, hStatus, .ret hValue⟩
      | call hNext =>
          exact ⟨kept, isolated, _, hStarted, hKept, hMirrors,
            hSimulates, hStatus, .call hNext⟩
      | @silent rest op next' hSilent hNext ih =>
          rcases I.silently actor isolated.state hSilent with
            ⟨reply, hExec⟩
          exact ih reply
            (hSimulates.silent_step hRunning hStarted
              (hNext reply))
            (hKept.snoc (.call hStatus hExec))
            (hMirrors.silent actor ⟨op, reply⟩ hSilent)
            hRunning (Config.setThread_threads_self _ _ _)

/- A step of another handler is a step of both runs. -/
theorem Simulates.other_step
    {kept : List (Event M)} {state : M.State}
    (hSimulates : I.Simulates events before isolated)
    (hKept : Run (.initial state) kept isolated)
    (hMirrors :
      Mirrors I.varies I.silent
        (I.Exempt (events ++ [event]))
        (eventsOutside gone events) kept)
    (hStep : Step before event after)
    (hOutside : event.isOutside gone = true) :
    ∃ kept' isolated',
      Run (.initial state) kept' isolated' ∧
        Mirrors I.varies I.silent
            (I.Exempt (events ++ [event]))
            (eventsOutside gone events ++ [event]) kept' ∧
          I.Simulates (events ++ [event]) after
            isolated' := by
  have hOther : ∀ actor, event.thread? = some actor →
      actor ∉ gone :=
    fun _ hActor => Event.not_mem_of_isOutside hOutside hActor
  cases hStep with
  | @start actor handler hIdle =>
      have hIdle' := hSimulates.idle (hOther actor rfl) hIdle
      have hStarted :
          handler ∈
            startsOf actor
              (events ++ [.start actor handler]) := by
        simp [startsOf_snoc, Event.startOf]
      exact ⟨_, _, hKept.snoc (.start hIdle'),
        hMirrors.same (.refl _),
        hSimulates.setThread hOutside hSimulates.state
          (.running hStarted (I.tracks handler))⟩
  | @call actor op next reply _ hRunning hExec =>
      rcases hSimulates.catch_up hKept hMirrors
          (hOther actor rfl) hRunning with
        ⟨handler, kept', ready, rest', hStarted, hKept',
          hMirrors', hReady, hRunning', hPaired⟩
      cases hPaired with
      | call hNext =>
          rcases I.other (hOther actor rfl) hExec
              hReady.state with
            ⟨reply', state', hExec', hState, hReply⟩
          have hRest :
              I.TracksThread
                (startsOf actor
                  (events ++ [.call actor ⟨op, reply⟩]))
                (.running (next reply)) _ :=
            .running
              ((mem_startsOf_iff _ _ _).mpr
                (List.mem_append_left _ hStarted))
              (hNext reply reply' hReply)
          refine ⟨_, _,
            hKept'.snoc (.call hRunning' hExec'),
            hMirrors'.same ?_,
            hReady.setThread hOutside hState hRest⟩
          rcases hReply with rfl | hVaries
          · exact .refl _
          · exact .call actor hVaries
  | @answer actor answer hRunning =>
      rcases hSimulates.catch_up hKept hMirrors
          (hOther actor rfl) hRunning with
        ⟨handler, kept', ready, rest', hStarted, hKept',
          hMirrors', hReady, hRunning', hPaired⟩
      cases hPaired with
      | @ret _ answer' hValue =>
          refine ⟨_, _,
            hKept'.snoc (.answer hRunning'),
            hMirrors'.same ?_,
            hReady.setThread hOutside hReady.state
              (.answered answer answer')⟩
          rcases hValue with hExempt | rfl
          · exact .answer
              ⟨handler, hExempt,
                List.mem_append_left _ hStarted⟩
              answer answer'
          · exact .refl _
  | @panic actor _ _ _ hRunning hUnwind =>
      rcases hSimulates.catch_up hKept hMirrors
          (hOther actor rfl) hRunning with
        ⟨handler, kept', ready, rest', hStarted, hKept',
          hMirrors', hReady, hRunning', hPaired⟩
      cases hPaired with
      | call hNext =>
          rcases I.unwind (hOther actor rfl) hUnwind
              hReady.state with
            ⟨state', hUnwind', hState⟩
          exact ⟨_, _,
            hKept'.snoc (.panic hRunning' hUnwind'),
            hMirrors'.same (.refl _),
            hReady.setThread hOutside hState .panicked⟩
  | @cancel actor _ _ hRunning hCancellable =>
      rcases hSimulates.catch_up hKept hMirrors
          (hOther actor rfl) hRunning with
        ⟨handler, kept', ready, rest', hStarted, hKept',
          hMirrors', hReady, hRunning', hPaired⟩
      cases hPaired with
      | call hNext =>
          exact ⟨_, _,
            hKept'.snoc (.cancel hRunning' hCancellable),
            hMirrors'.same (.refl _),
            hReady.setThread hOutside hReady.state
              .cancelled⟩
  | change hChange =>
      rcases I.change hChange hSimulates.state with
        ⟨state', hChange', hState⟩
      refine ⟨_, _, hKept.snoc (.change hChange'),
        hMirrors.same (.refl _), ?_, ?_⟩
      · rw [callsWithin_snoc,
          Event.callIn_of_isOutside hOutside]
        simpa using hState
      · intro other hThread
        exact (hSimulates.threads other hThread).snoc _

end Isolation

/- The run without the isolated handlers. -/
theorem Run.isolate
    {gone : Finset Nat} (I : Isolation M gone)
    {state state' : M.State} {finish : Config M}
    {events : List (Event M)}
    (hRelated : I.related [] state state')
    (hRun : Run (.initial state) events finish)
    (hQuiet : ∀ call ∈ callsWithin gone events,
      I.quiet call)
    (hPanics : ∀ thread ∈ gone,
      .panic thread ∈ events → I.mayPanic) :
    ∃ kept isolated,
      Run (.initial state') kept isolated ∧
        Mirrors I.varies I.silent (I.Exempt events)
            (eventsOutside gone events) kept ∧
          I.Simulates events finish isolated := by
  induction hRun with
  | nil =>
      exact ⟨[], _, .nil, .nil, hRelated, fun _ _ => .idle⟩
  | @snoc events before event after _ hStep ih =>
      rw [callsWithin_snoc] at hQuiet
      rcases ih
          (fun call hCall =>
            hQuiet call (List.mem_append_left _ hCall))
          (fun thread hGone hPanic =>
            hPanics thread hGone
              (List.mem_append_left _ hPanic)) with
        ⟨kept, isolated, hKept, hMirrors, hSimulates⟩
      have hGrown :
          Mirrors I.varies I.silent
            (I.Exempt (events ++ [event]))
            (eventsOutside gone events) kept := by
        apply hMirrors.mono
        rintro thread ⟨handler, hExempt, hStart⟩
        exact ⟨handler, hExempt,
          List.mem_append_left _ hStart⟩
      rw [eventsOutside, List.filter_append,
        List.filter_singleton, ← eventsOutside]
      cases hOutside : event.isOutside gone with
      | true =>
          exact hSimulates.other_step hKept hGrown hStep
            hOutside
      | false =>
          rcases Event.exists_of_not_isOutside hOutside with
            ⟨actor, hGone, hActor⟩
          rw [cond_false, List.append_nil]
          refine ⟨kept, isolated, hKept, hGrown,
            hSimulates.own_step hStep hActor hGone ?_ ?_⟩
          · intro call hCall
            exact hQuiet call
              (List.mem_append_right _ (by simpa using hCall))
          · rintro rfl
            exact hPanics actor hGone (by simp)

end Interleaving
