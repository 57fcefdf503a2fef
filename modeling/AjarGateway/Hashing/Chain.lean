import Mathlib.Data.List.Basic
import Mathlib.Logic.Function.Basic
import Mathlib.Logic.ExistsUnique

/-
  Hashes that absorb one symbol at a time.

  A step is faithful when neither the state nor the symbol
  is lost in it.  Faithful steps tell lists apart that
  differ at one position, however long they are.

  Key definitions include:
    * `Hashing.Faithful`
    * `Hashing.DifferAtOne`

  Key theorems include:
    * `Hashing.differAtOne_iff`
    * `Hashing.Faithful.foldl_ne`
-/

------------------------------------------------------------
-- One Altered Position
------------------------------------------------------------

namespace Hashing

variable {Symbol : Type}

/- Lists of one length that differ at one position only. -/
def DifferAtOne (first second : List Symbol) : Prop :=
  first.length = second.length ∧
    ∃! index : Nat, first[index]? ≠ second[index]?

/- What is before and after that position is the same. -/
theorem differAtOne_iff (first second : List Symbol) :
    DifferAtOne first second ↔
      ∃ before altered altered' after,
        first = before ++ altered :: after ∧
          second = before ++ altered' :: after ∧
            altered ≠ altered' := by
  constructor
  · rintro ⟨hLength, index, hHere, hOnly⟩
    have hElsewhere (other : Nat) (hNe : other ≠ index) :
        first[other]? = second[other]? := by
      by_contra hDiffer
      exact hNe (hOnly other hDiffer)
    have hIndex : index < first.length := by
      by_contra hOutside
      apply hHere
      rw [List.getElem?_eq_none (by omega),
        List.getElem?_eq_none (by omega)]
    have hIndex' : index < second.length := by omega
    have hBefore : first.take index = second.take index := by
      apply List.ext_getElem?
      intro other
      rw [List.getElem?_take, List.getElem?_take]
      split
      · exact hElsewhere other (by omega)
      · rfl
    have hAfter :
        first.drop (index + 1) = second.drop (index + 1) := by
      apply List.ext_getElem?
      intro other
      rw [List.getElem?_drop, List.getElem?_drop]
      exact hElsewhere _ (by omega)
    refine ⟨first.take index, first[index], second[index],
      first.drop (index + 1), ?_, ?_, ?_⟩
    · rw [← List.drop_eq_getElem_cons hIndex,
        List.take_append_drop]
    · rw [hBefore, hAfter,
        ← List.drop_eq_getElem_cons hIndex',
        List.take_append_drop]
    · intro hSame
      apply hHere
      rw [List.getElem?_eq_getElem hIndex,
        List.getElem?_eq_getElem hIndex', hSame]
  · rintro ⟨before, altered, altered', after, rfl, rfl, hNe⟩
    refine ⟨by simp, before.length, by simpa using hNe, ?_⟩
    intro index hDiffer
    by_contra hElsewhere
    apply hDiffer
    rcases Nat.lt_or_gt_of_ne hElsewhere with hLess | hMore
    · rw [List.getElem?_append_left hLess,
        List.getElem?_append_left hLess]
    · rw [List.getElem?_append_right (Nat.le_of_lt hMore),
        List.getElem?_append_right (Nat.le_of_lt hMore)]
      have hLater :
          index - before.length =
            index - before.length - 1 + 1 := by
        omega
      rw [hLater, List.getElem?_cons_succ,
        List.getElem?_cons_succ]

end Hashing

------------------------------------------------------------
-- Faithful Steps
------------------------------------------------------------

namespace Hashing

variable {State Symbol : Type}

/- A step that loses neither the state nor the symbol. -/
structure Faithful
    (step : State → Symbol → State) : Prop where
  state : ∀ symbol,
    Function.Injective fun state => step state symbol
  symbol : ∀ state, Function.Injective (step state)

namespace Faithful

variable {step : State → Symbol → State}

/- Different states stay different. -/
theorem foldl_injective
    (hFaithful : Faithful step)
    (symbols : List Symbol) :
    Function.Injective fun state =>
      symbols.foldl step state := by
  induction symbols with
  | nil => exact fun _ _ hSame => hSame
  | cons symbol rest ih =>
      intro state state' hSame
      exact hFaithful.state symbol (ih hSame)

/- Lists that differ at one position end in two states. -/
theorem foldl_ne
    (hFaithful : Faithful step)
    {first second : List Symbol}
    (hDiffer : DifferAtOne first second)
    (start : State) :
    first.foldl step start ≠ second.foldl step start := by
  rcases (differAtOne_iff _ _).mp hDiffer with
    ⟨before, altered, altered', after, rfl, rfl, hNe⟩
  rw [List.foldl_append, List.foldl_append]
  intro hSame
  have hStates := hFaithful.foldl_injective after hSame
  exact hNe (hFaithful.symbol _ hStates)

end Faithful

end Hashing
