import AjarGateway.Interleaving.Isolation
import Mathlib.Data.List.Forall2

/-
  Runs without one handler.

  A handler that is isolated from all others is erased from
  a run when its events are left out.  When no call is
  silent and only exempt handlers call the operations with
  replies that vary, the remainder has the same events as
  the run, one by one.

  Key definitions include:
    * `Interleaving.eventsWithout`
    * `Interleaving.SameEvent`

  Key theorems include:
    * `Interleaving.Mirrors.sameEvents`
    * `Interleaving.Run.erase`
-/

------------------------------------------------------------
-- Events Of The Other Handlers
------------------------------------------------------------

namespace Interleaving

variable {S : Signature} {Answer : Type}
variable {M : Machine S Answer}

/- A history without the events of one handler. -/
def eventsWithout
    (thread : Nat)
    (events : List (Event M)) : List (Event M) :=
  events.filter fun event => event.thread? ≠ some thread

theorem eventsOutside_singleton
    (thread : Nat)
    (events : List (Event M)) :
    eventsOutside {thread} events =
      eventsWithout thread events := by
  apply List.filter_congr
  intro event _
  cases hThread : event.thread? with
  | none => simp [Event.isOutside, hThread]
  | some other => simp [Event.isOutside, hThread]

theorem callsWithin_singleton
    (thread : Nat)
    (events : List (Event M)) :
    callsWithin {thread} events = callsOf thread events := by
  apply List.filterMap_congr
  intro event _
  cases event with
  | call other performed =>
      simp [Event.callIn, Event.callOf]
  | _ => rfl

/-
  The same event, but for the replies to and the answers of
  exempt handlers.
-/
inductive SameEvent (exempt : Nat → Prop) :
    Event M → Event M → Prop where
  | refl (event : Event M) : SameEvent exempt event event
  | call
      {thread : Nat}
      (hExempt : exempt thread)
      (op : S.Op)
      (reply reply' : S.Reply op) :
      SameEvent exempt (.call thread ⟨op, reply⟩)
        (.call thread ⟨op, reply'⟩)
  | answer
      {thread : Nat}
      (hExempt : exempt thread)
      (answer answer' : Answer) :
      SameEvent exempt (.answer thread answer)
        (.answer thread answer')

variable
  {varies : (op : S.Op) → S.Reply op → S.Reply op → Prop}
variable {silent : S.Op → Prop} {exempt : Nat → Prop}

/- Without silent calls the events mirror each other. -/
theorem Mirrors.sameEvents
    {events kept : List (Event M)}
    (hMirrors : Mirrors varies silent exempt events kept)
    (hSilent : ∀ op, ¬silent op)
    (hVaries : ∀ thread op reply reply',
      varies op reply reply' →
        .call thread ⟨op, reply⟩ ∈ events →
          exempt thread) :
    List.Forall₂ (SameEvent exempt) events kept := by
  induction hMirrors with
  | nil => exact .nil
  | @same events kept event event' hMirrors hEvent ih =>
      have hEarlier := ih
        fun thread op reply reply' hReplies hCall =>
          hVaries thread op reply reply' hReplies
            (List.mem_append_left _ hCall)
      refine List.rel_append hEarlier (.cons ?_ .nil)
      cases hEvent with
      | refl => exact .refl _
      | @call thread op reply reply' hReplies =>
          exact .call
            (hVaries thread op reply reply' hReplies
              (by simp))
            op reply reply'
      | answer hExempt answer answer' =>
          exact .answer hExempt answer answer'
  | silent _ _ call hCall => exact absurd hCall (hSilent _)

end Interleaving

------------------------------------------------------------
-- Erasing A Handler
------------------------------------------------------------

namespace Interleaving

variable {S : Signature} {Answer : Type}
variable {M : Machine S Answer}

/- The run without the erased handler. -/
theorem Run.erase
    {thread : Nat} (I : Isolation M {thread})
    {state state' : M.State} {finish : Config M}
    {events : List (Event M)} {exempt : Nat → Prop}
    (hRelated : I.related [] state state')
    (hRun : Run (.initial state) events finish)
    (hQuiet : ∀ call ∈ callsOf thread events, I.quiet call)
    (hNoPanic : .panic thread ∉ events)
    (hSilent : ∀ op, ¬I.silent op)
    (hVaries : ∀ other op reply reply',
      I.varies op reply reply' →
        .call other ⟨op, reply⟩ ∈ events →
          exempt other)
    (hExempt : ∀ other handler,
      I.exempt handler →
        .start other handler ∈ events →
          exempt other) :
    ∃ kept erased,
      Run (.initial state') kept erased ∧
        List.Forall₂ (SameEvent exempt)
            (eventsWithout thread events) kept ∧
          (∀ other,
            other ≠ thread →
              ¬exempt other →
                answersOf other kept =
                  answersOf other events) ∧
            I.related (callsOf thread events) finish.state
              erased.state := by
  rw [← callsWithin_singleton] at hQuiet
  have hPanics : ∀ other ∈ ({thread} : Finset Nat),
      .panic other ∈ events → I.mayPanic := by
    intro other hOther hPanic
    rw [Finset.mem_singleton.mp hOther] at hPanic
    exact absurd hPanic hNoPanic
  rcases hRun.isolate I hRelated hQuiet hPanics with
    ⟨kept, erased, hKept, hMirrors, hSimulates⟩
  have hMirrored := hMirrors.mono
    fun other ⟨handler, hHandler, hStart⟩ =>
      hExempt other handler hHandler hStart
  have hSame := hMirrored.sameEvents hSilent
    fun other op reply reply' hReplies hCall =>
      hVaries other op reply reply' hReplies
        (List.mem_of_mem_filter hCall)
  rw [eventsOutside_singleton] at hSame
  have hState := hSimulates.state
  rw [callsWithin_singleton] at hState
  refine ⟨kept, erased, hKept, hSame, ?_, hState⟩
  intro other hOther hShown
  exact hMirrored.answersOf_eq
    (by simpa using hOther) hShown

end Interleaving
