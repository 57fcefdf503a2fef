import AjarGateway.Interleaving.Linearization
import Mathlib.Order.Basic

/-
  A register with conditional updates, as a sequential
  object.

  An update computes the new value from the present one, or
  keeps the present one.  The register may break, and then
  refuses every operation for ever.

  Key definitions include:
    * `Interleaving.Register`
    * `Interleaving.register`
    * `Interleaving.Raises`

  Key theorems include:
    * `Interleaving.Register.rank_le`
    * `Interleaving.Register.found_le_found`
    * `Interleaving.Register.refused_later`
    * `Interleaving.Register.found_is_last`
-/

------------------------------------------------------------
-- The Object
------------------------------------------------------------

namespace Interleaving

structure Register (α : Type) where
  value : α
  broken : Bool

inductive RegisterOp (α : Type) where
  | read
  | update (next : α → Option α)

inductive RegisterReply (α : Type) where
  | found (value : α)
  | replaced
  | kept
  | refused

/- What a register replies, and what it holds afterwards. -/
inductive Register.Applies {α : Type} :
    Register α → RegisterOp α → RegisterReply α →
      Register α → Prop where
  | read (value : α) :
      Applies ⟨value, false⟩ .read (.found value)
        ⟨value, false⟩
  | replace
      {value new : α} {next : α → Option α}
      (hNext : next value = some new) :
      Applies ⟨value, false⟩ (.update next) .replaced
        ⟨new, false⟩
  | keep
      {value : α} {next : α → Option α}
      (hNext : next value = none) :
      Applies ⟨value, false⟩ (.update next) .kept
        ⟨value, false⟩
  | refuse (value : α) (op : RegisterOp α) :
      Applies ⟨value, true⟩ op .refused ⟨value, true⟩

abbrev register (α : Type) : SequentialObject where
  State := Register α
  Op := RegisterOp α
  Reply := RegisterReply α
  apply := Register.Applies
  disturb := fun before after =>
    after = { before with broken := true }

/- An operation never replaces a value by a lower one. -/
def Raises
    {α β : Type} [LE β]
    (rank : α → β)
    (operation : Operation (register α)) : Prop :=
  ∀ next old new,
    operation.op = .update next →
      next old = some new → rank old ≤ rank new

/- An operation has replaced the value. -/
def Replaces
    {α : Type}
    (operation : Operation (register α)) : Prop :=
  operation.reply = .replaced

end Interleaving

------------------------------------------------------------
-- Sequential Histories
------------------------------------------------------------

namespace Interleaving

namespace Register

open SequentialObject

variable {α β : Type} [Preorder β] {rank : α → β}
variable {first last before after : Register α}
variable {order earlier middle later :
  List (Operation (register α))}
variable {operation operation' : Operation (register α)}

/- Without operations a register keeps its value. -/
theorem kept_of_nil
    (hLegal : (register α).Legal before [] after) :
    after.value = before.value ∧
      (before.broken = true → after.broken = true) := by
  generalize hOrder :
    ([] : List (Operation (register α))) = order at hLegal
  induction hLegal with
  | nil => exact ⟨rfl, id⟩
  | apply _ _ _ => simp at hOrder
  | disturb _ hDisturb ih =>
      rw [hDisturb]
      exact ⟨(ih hOrder).1, fun _ => rfl⟩

/- The operation of a history of one is applied. -/
theorem applies_of_single
    (hLegal : (register α).Legal before [operation] after) :
    ∃ state next,
      Applies state operation.op operation.reply next ∧
        state.value = before.value ∧
          next.value = after.value ∧
            (before.broken = true → state.broken = true) ∧
              (next.broken = true →
                after.broken = true) := by
  generalize hOrder : [operation] = order at hLegal
  induction hLegal with
  | nil => cases hOrder
  | disturb _ hDisturb ih =>
      rcases ih hOrder with
        ⟨state, next, hApplies, hBefore, hAfter, hBroken, _⟩
      have hLast := congrArg Register.value hDisturb
      have hEnd := congrArg Register.broken hDisturb
      exact ⟨state, next, hApplies, hBefore,
        hAfter.trans hLast.symm, hBroken, fun _ => hEnd⟩
  | @apply order state next performed hInit hApply _ =>
      rw [List.singleton_eq_append_iff] at hOrder
      rcases hOrder with ⟨rfl, hLast⟩ | ⟨_, hNone⟩
      · rw [List.singleton_inj] at hLast
        subst hLast
        rcases kept_of_nil hInit with ⟨hValue, hBroken⟩
        exact ⟨state, next, hApply, hValue, rfl, hBroken,
          id⟩
      · simp at hNone

/- Operations that only raise the value raise its rank. -/
theorem rank_le
    (hLegal : (register α).Legal first order last)
    (hRaises : ∀ operation ∈ order,
      Raises rank operation) :
    rank first.value ≤ rank last.value := by
  apply hLegal.preserves
    fun state : Register α =>
      rank first.value ≤ rank state.value
  case hFirst => exact le_rfl
  case hDisturb =>
    rintro state next rfl hLe
    exact hLe
  case hApply =>
    intro operation hMem state next hApplies hLe
    have hOperation := hRaises operation hMem
    generalize hOp : operation.op = op at hApplies
    generalize operation.reply = reply at hApplies
    cases hApplies with
    | replace hNext =>
        exact hLe.trans (hOperation _ _ _ hOp hNext)
    | read _ => exact hLe
    | keep _ => exact hLe
    | refuse _ _ => exact hLe

/- A broken register stays broken. -/
theorem broken_later
    (hLegal : (register α).Legal first order last)
    (hBroken : first.broken = true) :
    last.broken = true := by
  apply hLegal.preserves
    fun state : Register α => state.broken = true
  case hFirst => exact hBroken
  case hDisturb =>
    rintro state next rfl _
    rfl
  case hApply =>
    intro operation _ state next hApplies hState
    generalize operation.op = op at hApplies
    generalize operation.reply = reply at hApplies
    cases hApplies with
    | refuse _ _ => rfl
    | read _ => cases hState
    | replace _ => cases hState
    | keep _ => cases hState

/- The value of a register after operations that keep it. -/
theorem value_eq_of_not_replaces
    (hLegal : (register α).Legal first order last)
    (hKept : ∀ operation ∈ order, ¬Replaces operation) :
    last.value = first.value := by
  apply hLegal.preserves
    fun state : Register α => state.value = first.value
  case hFirst => rfl
  case hDisturb =>
    rintro state next rfl hValue
    exact hValue
  case hApply =>
    intro operation hMem state next hApplies hValue
    have hOperation := hKept operation hMem
    unfold Replaces at hOperation
    generalize operation.op = op at hApplies
    generalize operation.reply = reply
      at hApplies hOperation
    cases hApplies with
    | replace _ => exact absurd rfl hOperation
    | read _ => exact hValue
    | keep _ => exact hValue
    | refuse _ _ => exact hValue

/- What a read finds is the value before and after it. -/
theorem value_of_found
    {value : α}
    (hLegal : (register α).Legal before [operation] after)
    (hFound : operation.reply = .found value) :
    before.value = value ∧ after.value = value := by
  rcases applies_of_single hLegal with
    ⟨state, next, hApplies, hBefore, hAfter, _, _⟩
  rw [hFound] at hApplies
  generalize operation.op = op at hApplies
  cases hApplies
  exact ⟨hBefore.symm, hAfter.symm⟩

/- A replacement leaves what its update computes. -/
theorem value_of_replaced
    (hLegal : (register α).Legal before [operation] after)
    (hReplaced : operation.reply = .replaced) :
    ∃ next,
      operation.op = .update next ∧
        next before.value = some after.value := by
  rcases applies_of_single hLegal with
    ⟨state, final, hApplies, hBefore, hAfter, _, _⟩
  rw [hReplaced] at hApplies
  generalize operation.op = op at hApplies
  cases hApplies with
  | @replace _ _ next hNext =>
      refine ⟨next, rfl, ?_⟩
      rw [← hBefore, ← hAfter]
      exact hNext

/- A register that has refused is broken. -/
theorem broken_of_refused
    (hLegal : (register α).Legal before [operation] after)
    (hRefused : operation.reply = .refused) :
    after.broken = true := by
  rcases applies_of_single hLegal with
    ⟨state, final, hApplies, _, _, _, hBroken⟩
  rw [hRefused] at hApplies
  generalize operation.op = op at hApplies
  cases hApplies
  exact hBroken rfl

/- A broken register refuses. -/
theorem refused_of_broken
    (hLegal : (register α).Legal before [operation] after)
    (hBroken : before.broken = true) :
    operation.reply = .refused := by
  rcases applies_of_single hLegal with
    ⟨state, final, hApplies, _, _, hState, _⟩
  generalize operation.op = op at hApplies
  generalize operation.reply = reply at hApplies
  cases hApplies with
  | refuse _ _ => rfl
  | read _ => cases hState hBroken
  | replace _ => cases hState hBroken
  | keep _ => cases hState hBroken

/-
  Reads find values of rising rank, when the updates only
  raise the value.
-/
theorem found_le_found
    {value value' : α}
    (rank : α → β)
    (hLegal :
      (register α).Legal first
        (earlier ++
          operation :: (middle ++ operation' :: later))
        last)
    (hRaises : ∀ operation ∈ middle, Raises rank operation)
    (hFound : operation.reply = .found value)
    (hFound' : operation'.reply = .found value') :
    rank value ≤ rank value' := by
  rcases hLegal.split_at with
    ⟨before, after, _, hOne, hRest⟩
  rcases hRest.split_at with
    ⟨before', after', hMiddle, hOther, _⟩
  rw [← (value_of_found hOne hFound).2,
    ← (value_of_found hOther hFound').1]
  exact rank_le hMiddle hRaises

/- Once an operation was refused, every later one is. -/
theorem refused_later
    (hLegal :
      (register α).Legal first
        (earlier ++
          operation :: (middle ++ operation' :: later))
        last)
    (hRefused : operation.reply = .refused) :
    operation'.reply = .refused := by
  rcases hLegal.split_at with
    ⟨before, after, _, hOne, hRest⟩
  rcases hRest.split_at with
    ⟨before', after', hMiddle, hOther, _⟩
  exact refused_of_broken hOther
    (broken_later hMiddle (broken_of_refused hOne hRefused))

/-
  A read finds what the last replacement before it has left,
  or the first value when there was none.
-/
theorem found_is_last
    {value : α}
    (hLegal :
      (register α).Legal first
        (earlier ++ operation :: later) last)
    (hFound : operation.reply = .found value) :
    (value = first.value ∧
        ∀ operation ∈ earlier, ¬Replaces operation) ∨
      ∃ front middle replacement next old,
        earlier = front ++ replacement :: middle ∧
          (∀ operation ∈ middle, ¬Replaces operation) ∧
            Replaces replacement ∧
              replacement.op = .update next ∧
                next old = some value := by
  rcases hLegal.split_at with
    ⟨before, after, hEarlier, hOne, _⟩
  have hValue := (value_of_found hOne hFound).1
  clear hLegal hOne
  induction earlier using List.reverseRecOn
    generalizing before with
  | nil =>
      left
      exact ⟨hValue.symm.trans
        (value_eq_of_not_replaces hEarlier (by simp)),
        by simp⟩
  | append_singleton front final ih =>
      rcases hEarlier.split with ⟨state, hFront, hFinal⟩
      by_cases hReplaces : Replaces final
      · rcases value_of_replaced hFinal hReplaces with
          ⟨next, hOp, hNext⟩
        right
        exact ⟨front, [], final, next, state.value, rfl,
          by simp, hReplaces, hOp, hValue ▸ hNext⟩
      · have hState :
            before.value = state.value :=
          value_eq_of_not_replaces hFinal (by simpa)
        rcases ih state hFront (hState ▸ hValue) with
          ⟨hFirst, hNone⟩ |
            ⟨start, middle, replacement, next, old, rfl,
              hMiddle, hLast, hOp, hNext⟩
        · left
          refine ⟨hFirst, ?_⟩
          intro performed hMem
          rcases List.mem_append.mp hMem with hIn | hIn
          · exact hNone performed hIn
          · rwa [List.mem_singleton.mp hIn]
        · right
          refine ⟨start, middle ++ [final], replacement,
            next, old, by simp, ?_, hLast, hOp, hNext⟩
          intro performed hMem
          rcases List.mem_append.mp hMem with hIn | hIn
          · exact hMiddle performed hIn
          · rwa [List.mem_singleton.mp hIn]

end Register

end Interleaving
