import Mathlib.Data.List.Induction
import Mathlib.Data.List.Infix

/-
  Lexical resolution of paths.

  A path is a list of components that is walked from a place
  in a tree of directories.  Every walk amounts to leaving a
  number of directories and entering others, wherever it
  starts.

  Key definitions include:
    * `Paths.walk`
    * `Paths.reduce`

  Key theorems include:
    * `Paths.walk_eq_applyTo`
    * `Paths.prefix_walk_iff`
-/

------------------------------------------------------------
-- Walks
------------------------------------------------------------

namespace Paths

variable {Name : Type}

/- A component leads to the parent or to an entry. -/
inductive Component (Name : Type) where
  | up
  | name (name : Name)
  deriving DecidableEq, Repr

/- The parent of the root is the root. -/
def Component.step
    (place : List Name) : Component Name → List Name
| .up => place.dropLast
| .name entry => place ++ [entry]

/- The place that is reached from another one. -/
def walk
    (place : List Name)
    (components : List (Component Name)) : List Name :=
  components.foldl Component.step place

@[simp] theorem walk_nil (place : List Name) :
    walk place [] = place :=
  rfl

@[simp] theorem walk_cons
    (place : List Name)
    (component : Component Name)
    (rest : List (Component Name)) :
    walk place (component :: rest) =
      walk (component.step place) rest :=
  rfl

@[simp] theorem walk_append
    (place : List Name)
    (first second : List (Component Name)) :
    walk place (first ++ second) =
      walk (walk place first) second :=
  List.foldl_append

/- Names are entered one after the other. -/
@[simp] theorem walk_names (place names : List Name) :
    walk place (names.map .name) = place ++ names := by
  induction names generalizing place with
  | nil => simp
  | cons entry rest ih =>
      rw [List.map_cons, walk_cons, ih, Component.step,
        List.append_assoc, List.singleton_append]

end Paths

------------------------------------------------------------
-- Reduced Walks
------------------------------------------------------------

namespace Paths

variable {Name : Type}

/- Directories to leave, and then names to enter. -/
structure Reduced (Name : Type) where
  ups : Nat
  names : List Name
  deriving DecidableEq, Repr

/- A name that was entered is left before the start is. -/
def Reduced.step :
    Reduced Name → Component Name → Reduced Name
| ⟨ups, names⟩, .name entry => ⟨ups, names ++ [entry]⟩
| ⟨ups, []⟩, .up => ⟨ups + 1, []⟩
| ⟨ups, entry :: rest⟩, .up =>
    ⟨ups, (entry :: rest).dropLast⟩

def reduce
    (components : List (Component Name)) : Reduced Name :=
  components.foldl Reduced.step ⟨0, []⟩

def Reduced.applyTo
    (reduced : Reduced Name)
    (place : List Name) : List Name :=
  place.take (place.length - reduced.ups) ++ reduced.names

theorem reduce_snoc
    (components : List (Component Name))
    (component : Component Name) :
    reduce (components ++ [component]) =
      (reduce components).step component := by
  simp [reduce]

theorem Reduced.applyTo_step
    (reduced : Reduced Name)
    (component : Component Name)
    (place : List Name) :
    (reduced.step component).applyTo place =
      component.step (reduced.applyTo place) := by
  rcases reduced with ⟨ups, names⟩
  cases component with
  | name entry =>
      simp [Reduced.step, Reduced.applyTo, Component.step]
  | up =>
      cases names with
      | nil =>
          simp only [Reduced.step, Reduced.applyTo,
            Component.step, List.append_nil]
          rw [List.dropLast_eq_take, List.take_take,
            List.length_take]
          congr 1
          omega
      | cons entry rest =>
          simp only [Reduced.step, Reduced.applyTo,
            Component.step]
          exact (List.dropLast_append_of_ne_nil
            (List.cons_ne_nil entry rest)).symm

/- Every walk is a reduced one. -/
theorem walk_eq_applyTo
    (place : List Name)
    (components : List (Component Name)) :
    walk place components =
      (reduce components).applyTo place := by
  induction components using List.reverseRecOn with
  | nil => simp [reduce, Reduced.applyTo]
  | append_singleton components component ih =>
      rw [walk_append, ih, reduce_snoc,
        Reduced.applyTo_step]
      rfl

/-
  A walk ends below the place it starts from exactly if it
  enters again the directories that it leaves.
-/
theorem prefix_walk_iff
    (place : List Name)
    (components : List (Component Name)) :
    place <+: walk place components ↔
      place.drop
          (place.length - (reduce components).ups) <+:
        (reduce components).names := by
  rw [walk_eq_applyTo, Reduced.applyTo]
  generalize place.length - (reduce components).ups = kept
  have hSame :
      place.take kept ++ place.drop kept <+:
          place.take kept ++ (reduce components).names ↔
        place.drop kept <+: (reduce components).names :=
    List.prefix_append_right_inj _
  rw [List.take_append_drop] at hSame
  exact hSame

end Paths
