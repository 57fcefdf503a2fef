import AjarGateway.Paths.Lexical
import AjarGateway.Store.Backend

/-
  The places that paths lead to.

  A path is split at its separators; empty and `.` components
  are dropped, and the path is walked from the root directory
  when it is absolute, and from the current one otherwise.

  Key definitions include:
    * `Store.Path.components`
    * `Store.Path.resolve`
    * `Store.Path.parent`

  Key theorems include:
    * `Store.Path.resolve_join`
-/

------------------------------------------------------------
-- Components
------------------------------------------------------------

namespace AjarGateway

namespace Store

open Paths

namespace Path

/- The bytes of `.` and `..`. -/
def currentDir : OsString := [46]

def parentDir : OsString := [46, 46]

/- What a piece between two separators stands for. -/
def componentOf
    (piece : OsString) : Option (Component OsString) :=
  if piece = [] ∨ piece = currentDir then
    none
  else if piece = parentDir then
    some .up
  else
    some (.name piece)

def components (path : Path) : List (Component OsString) :=
  (path.splitOn separator).filterMap componentOf

@[simp] theorem components_nil :
    components ([] : Path) = [] :=
  rfl

/- A separator parts the components. -/
theorem components_append_cons (first second : Path) :
    components (first ++ separator :: second) =
      components first ++ components second := by
  rw [components, List.splitOn_append_cons_self,
    List.filterMap_append]
  rfl

theorem components_snoc_separator (path : Path) :
    components (path ++ [separator]) = components path := by
  rw [components_append_cons]
  exact List.append_nil _

/- The path starts at the root directory. -/
def IsAbsolute (path : Path) : Prop :=
  path.head? = some separator

instance (path : Path) : Decidable path.IsAbsolute :=
  inferInstanceAs (Decidable (path.head? = some separator))

/- The components of a joined path are those of its parts. -/
theorem components_join
    (base child : Path) :
    components (base.join child) =
      if child.IsAbsolute then
        components child
      else
        components base ++ components child := by
  by_cases hChild : child.IsAbsolute
  · have hHead : child.head? = some separator := hChild
    rw [if_pos hChild, join, if_pos hHead]
  · have hHead : child.head? ≠ some separator := hChild
    rw [if_neg hChild, join, if_neg hHead]
    split
    · rename_i hBase
      rcases hBase with rfl | hLast
      · rfl
      · rcases List.getLast?_eq_some_iff.mp hLast with
          ⟨front, rfl⟩
        rw [components_snoc_separator, List.append_assoc,
          List.singleton_append, components_append_cons]
    · exact components_append_cons base child

theorem isAbsolute_join_iff
    (base child : Path) :
    (base.join child).IsAbsolute ↔
      child.IsAbsolute ∨ base.IsAbsolute := by
  unfold join
  split
  · rename_i hChild
    exact ⟨.inl, fun _ => hChild⟩
  · rename_i hChild
    have hBase :
        base.IsAbsolute ↔
          child.IsAbsolute ∨ base.IsAbsolute :=
      ⟨.inr, fun hEither =>
        hEither.resolve_left hChild⟩
    rw [← hBase]
    split
    · cases base with
      | nil => exact iff_of_false hChild (by simp [IsAbsolute])
      | cons byte rest => exact Iff.rfl
    · cases base with
      | nil => simp_all
      | cons byte rest => exact Iff.rfl

end Path

end Store

end AjarGateway

------------------------------------------------------------
-- Places
------------------------------------------------------------

namespace AjarGateway

namespace Store

open Paths

/- A place in the tree of directories, from the root on. -/
abbrev Place := List OsString

namespace Path

/- The place of a path for a process in a directory. -/
def resolve (cwd : Place) (path : Path) : Place :=
  walk (if path.IsAbsolute then [] else cwd)
    (components path)

/- An absolute part replaces what is in front of it. -/
theorem resolve_join (cwd : Place) (base child : Path) :
    resolve cwd (base.join child) =
      if child.IsAbsolute then
        walk [] (components child)
      else
        walk (resolve cwd base) (components child) := by
  rw [resolve, components_join]
  by_cases hChild : child.IsAbsolute
  · rw [if_pos hChild, if_pos hChild,
      if_pos ((isAbsolute_join_iff _ _).mpr (.inl hChild))]
  · rw [if_neg hChild, if_neg hChild, walk_append, resolve]
    congr 2
    simp [isAbsolute_join_iff, hChild]

end Path

end Store

end AjarGateway

------------------------------------------------------------
-- Parents
------------------------------------------------------------

namespace AjarGateway

namespace Store

namespace Path

/-
  Pieces of a path, last first, without the empty and the
  `.` pieces behind the last component.  The first piece of
  the path stays.
-/
def trimPieces : List OsString → List OsString
| [] => []
| [first] => [first]
| piece :: rest =>
    if piece = [] ∨ piece = currentDir then
      trimPieces rest
    else
      piece :: rest

/-
  `Path::parent`: the path without its last component, if it
  has one.
-/
def parent (path : Path) : Option Path :=
  match trimPieces (path.splitOn separator).reverse with
  | [] => none
  | [first] => if first = [] then none else some []
  | _ :: rest =>
      match trimPieces rest with
      | [[]] => some [separator]
      | kept => some ([separator].intercalate kept.reverse)

/- Parents of an absolute and of relative paths. -/
example :
    parent [47, 97, 47, 98] = some [47, 97] ∧
      parent [47, 97] = some [47] ∧
      parent [47] = none ∧
      parent [97, 47, 47, 46, 47, 98, 47] = some [97] ∧
      parent [97] = some [] ∧
      parent [] = none := by
  decide

end Path

end Store

end AjarGateway
