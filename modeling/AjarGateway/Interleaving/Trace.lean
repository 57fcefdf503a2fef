import Mathlib.Data.List.Basic
import Mathlib.Tactic.Common

/-
  Runs of a labelled transition system.

  A trace lists the labels of the steps that lead from one
  state to another.  An invariant is kept by a whole trace
  when each step keeps it, and a budget that each counted
  step lowers bounds how many of them a trace can have.

  Key definitions include:
    * `Interleaving.Trace`

  Key theorems include:
    * `Interleaving.Trace.invariant`
    * `Interleaving.Trace.counted_le`
-/

------------------------------------------------------------
-- Traces
------------------------------------------------------------

namespace Interleaving

/- The labels of the steps from one state to another. -/
inductive Trace {σ ε : Type} (step : σ → ε → σ → Prop)
    (first : σ) : List ε → σ → Prop where
  | nil : Trace step first [] first
  | snoc
      {middle last : σ}
      {events : List ε}
      {event : ε}
      (hTrace : Trace step first events middle)
      (hStep : step middle event last) :
      Trace step first (events ++ [event]) last

namespace Trace

variable {σ ε : Type} {step : σ → ε → σ → Prop}
variable {first last : σ} {events : List ε}

/- Each step keeps what holds of the states so far. -/
theorem invariant
    (property : List ε → σ → Prop)
    (hTrace : Trace step first events last)
    (hFirst : property [] first)
    (hStep : ∀ past before event after,
      property past before → step before event after →
        property (past ++ [event]) after) :
    property events last := by
  induction hTrace with
  | nil => exact hFirst
  | snoc hTrace hLast ih => exact hStep _ _ _ _ ih hLast

/-
  A budget that every step keeps or lowers, and that each
  counted step lowers, bounds the counted steps.
-/
theorem counted_le
    (property : σ → Prop)
    (counted : ε → Bool)
    (budget : σ → Nat)
    (hTrace : Trace step first events last)
    (hFirst : property first)
    (hKept : ∀ before event after,
      property before → step before event after →
        property after)
    (hStep : ∀ before event after,
      property before → step before event after →
        budget after + (if counted event then 1 else 0) ≤
          budget before) :
    budget last + events.countP counted ≤ budget first := by
  have hBoth :
      property last ∧
        budget last + events.countP counted ≤
          budget first := by
    induction hTrace with
    | nil => exact ⟨hFirst, by simp⟩
    | snoc hTrace hLast ih =>
        rcases ih with ⟨hMiddle, hBudget⟩
        refine ⟨hKept _ _ _ hMiddle hLast, ?_⟩
        have hLower := hStep _ _ _ hMiddle hLast
        rw [List.countP_append, List.countP_singleton]
        omega
  exact hBoth.2

theorem append
    {middle : σ}
    {earlier later : List ε}
    (hFirst : Trace step first earlier middle)
    (hSecond : Trace step middle later last) :
    Trace step first (earlier ++ later) last := by
  induction hSecond with
  | nil => simpa using hFirst
  | snoc hTrace hStep ih =>
      rw [← List.append_assoc]
      exact .snoc ih hStep

end Trace

end Interleaving
