import AjarGateway.Store.Paths

/-
  Where the storage backend reads and writes.

  The path of a key is walked from the root of the backend
  unless a part of the key is absolute.  It stays inside the
  root exactly if the key enters again all the directories
  that it leaves.

  Key definitions include:
    * `Store.DiskOp`
    * `Store.FilesystemStorageBackend.write`
    * `Store.KeyConfined`
    * `Store.StaysInside`

  Key theorems include:
    * `Store.resolve_pathFor`
    * `Store.keyConfined_iff`
-/

------------------------------------------------------------
-- Operations On A Disk
------------------------------------------------------------

namespace AjarGateway

namespace Store

open Interleaving

/- The calls of the backend: those of a load, and writes. -/
inductive DiskOp where
  | host (op : HostOp)
  | createDirAll (path : Path)
  | writeFile (path : Path) (value : List UInt8)

@[reducible] def DiskOp.Reply : DiskOp → Type
| .host op => op.Reply
| .createDirAll _ => Except IoErrorKind Unit
| .writeFile _ _ => Except IoErrorKind Unit

abbrev diskSignature : Signature where
  Op := DiskOp
  Reply := DiskOp.Reply

/- A program of host calls, among the calls of the backend. -/
def onDisk {α : Type} :
    Program hostSignature α → Program diskSignature α
| .ret value => .ret value
| .call op next =>
    .call (.host op) fun reply => onDisk (next reply)

def createDirAll
    (path : Path) :
    Program diskSignature (Except IoErrorKind Unit) :=
  .call (.createDirAll path) .ret

def writeFile
    (path : Path)
    (value : List UInt8) :
    Program diskSignature (Except IoErrorKind Unit) :=
  .call (.writeFile path value) .ret

namespace FilesystemStorageBackend

/- Only a path without a last component is invalid. -/
def write
    (backend : FilesystemStorageBackend)
    (key : StoreKey)
    (value : List UInt8) :
    Program diskSignature (Except StoreError Unit) :=
  match Path.parent (backend.pathFor key) with
  | none => return .error .recordInvalid
  | some parent => do
      match ← createDirAll parent with
      | .error _ => return .error .backendUnavailable
      | .ok () =>
          match ← writeFile (backend.pathFor key) value with
          | .error _ => return .error .backendUnavailable
          | .ok () => return .ok ()

end FilesystemStorageBackend

end Store

end AjarGateway

------------------------------------------------------------
-- Accessed Paths
------------------------------------------------------------

namespace AjarGateway

namespace Store

open Interleaving

variable (backend : FilesystemStorageBackend)
variable (key : StoreKey)

/- A path with a NUL byte is refused before it is used. -/
def Path.Usable (path : Path) : Prop :=
  0 ∉ path

instance (path : Path) : Decidable path.Usable :=
  inferInstanceAs (Decidable (0 ∉ path))

/- The call reads or writes the file at a path. -/
inductive Accesses : Call diskSignature → Path → Prop where
  | readFile (path : Path)
      (reply : Except IoErrorKind (List UInt8))
      (hUsable : path.Usable) :
      Accesses ⟨.host (.readFile path), reply⟩ path
  | writeFile (path : Path) (value : List UInt8)
      (reply : Except IoErrorKind Unit)
      (hUsable : path.Usable) :
      Accesses ⟨.writeFile path value, reply⟩ path

/- Reads of the backend read the path of their key. -/
theorem meets_read :
    (onDisk (backend.read key)).Meets
      (fun _ (op : DiskOp) =>
        op = .host (.readFile (backend.pathFor key)))
      (fun _ _ => True) [] := by
  refine ⟨rfl, ?_⟩
  rintro ((_ | _) | _) <;> trivial

/- Writes of the backend write the path of their key. -/
theorem meets_write (value : List UInt8) :
    (backend.write key value).Meets
      (fun _ (op : DiskOp) =>
        op = .writeFile (backend.pathFor key) value ∨
          ∃ parent, op = .createDirAll parent)
      (fun _ _ => True) [] := by
  unfold FilesystemStorageBackend.write
  split
  · trivial
  · rename_i parent _
    refine ⟨.inr ⟨parent, rfl⟩, ?_⟩
    rintro (_ | ⟨⟨⟩⟩)
    · trivial
    · refine ⟨.inl rfl, ?_⟩
      rintro (_ | ⟨⟨⟩⟩) <;> trivial

/- The operations on a key. -/
inductive Performed
    (backend : FilesystemStorageBackend)
    (key : StoreKey) :
    List (Call diskSignature) → Prop where
  | read
      {calls : List (Call diskSignature)}
      {rest :
        Program diskSignature
          (Except StoreError (List UInt8))}
      (hPerforms :
        Performs (onDisk (backend.read key)) calls rest) :
      Performed backend key calls
  | write
      {calls : List (Call diskSignature)}
      (value : List UInt8)
      {rest : Program diskSignature (Except StoreError Unit)}
      (hPerforms :
        Performs (backend.write key value) calls rest) :
      Performed backend key calls

/- Only the path of the key is accessed. -/
theorem accesses_pathFor
    {backend : FilesystemStorageBackend} {key : StoreKey}
    {calls : List (Call diskSignature)}
    {call : Call diskSignature} {path : Path}
    (hPerformed : Performed backend key calls)
    (hCall : call ∈ calls)
    (hAccesses : Accesses call path) :
    path = backend.pathFor key ∧ path.Usable := by
  rcases List.append_of_mem hCall with ⟨first, second, rfl⟩
  cases hPerformed with
  | read hPerforms =>
      have hOp := hPerforms.guard (meets_read backend key)
      cases hAccesses with
      | readFile _ _ hUsable =>
          cases hOp
          exact ⟨rfl, hUsable⟩
      | writeFile _ _ _ _ => cases hOp
  | write value hPerforms =>
      have hOp :=
        hPerforms.guard (meets_write backend key value)
      cases hAccesses with
      | readFile _ _ _ =>
          rcases hOp with hWrite | ⟨_, hCreate⟩
          · cases hWrite
          · cases hCreate
      | writeFile _ _ _ hUsable =>
          rcases hOp with hWrite | ⟨_, hCreate⟩
          · cases hWrite
            exact ⟨rfl, hUsable⟩
          · cases hCreate

end Store

end AjarGateway

------------------------------------------------------------
-- Keys That Stay Inside
------------------------------------------------------------

namespace AjarGateway

namespace Store

open Interleaving Paths

variable (backend : FilesystemStorageBackend)
variable (key : StoreKey)

/- Everything that a key reads or writes is inside. -/
def KeyConfined (cwd : Place) : Prop :=
  ∀ calls, Performed backend key calls →
    ∀ call ∈ calls, ∀ path, Accesses call path →
      Path.resolve cwd backend.root <+:
        Path.resolve cwd path

/- A part of the key is absolute. -/
def StoreKey.StartsOver (key : StoreKey) : Prop :=
  Path.IsAbsolute (Rust.utf8 key.keyNamespace) ∨
    Path.IsAbsolute (Rust.utf8 key.key)

instance (key : StoreKey) : Decidable key.StartsOver :=
  inferInstanceAs (Decidable (_ ∨ _))

/- The components of a key, after its last absolute part. -/
def StoreKey.components
    (key : StoreKey) : List (Component OsString) :=
  if Path.IsAbsolute (Rust.utf8 key.key) then
    Path.components (Rust.utf8 key.key)
  else
    Path.components (Rust.utf8 key.keyNamespace) ++
      Path.components (Rust.utf8 key.key)

/-
  A relative key may leave directories of the root only to
  enter them again; an absolute one has to enter the root.
-/
def StaysInside (root : Place) (key : StoreKey) : Prop :=
  if key.StartsOver then
    root <+: (reduce key.components).names
  else
    root.drop
        (root.length - (reduce key.components).ups) <+:
      (reduce key.components).names

instance (root : Place) (key : StoreKey) :
    Decidable (StaysInside root key) :=
  inferInstanceAs (Decidable (ite _ _ _))

/- The place of a key. -/
theorem resolve_pathFor (cwd : Place) :
    Path.resolve cwd (backend.pathFor key) =
      walk
        (if key.StartsOver then []
          else Path.resolve cwd backend.root)
        key.components := by
  unfold FilesystemStorageBackend.pathFor
    StoreKey.components StoreKey.StartsOver
  rw [Path.resolve_join]
  by_cases hKey : Path.IsAbsolute (Rust.utf8 key.key)
  · simp [hKey]
  · rw [if_neg hKey, if_neg hKey, walk_append,
      Path.resolve_join]
    by_cases hNamespace :
        Path.IsAbsolute (Rust.utf8 key.keyNamespace)
    · simp [hNamespace]
    · simp [hKey, hNamespace]

theorem prefix_resolve_iff (cwd : Place) :
    Path.resolve cwd backend.root <+:
        Path.resolve cwd (backend.pathFor key) ↔
      StaysInside (Path.resolve cwd backend.root) key := by
  rw [resolve_pathFor, StaysInside]
  split
  · rw [walk_eq_applyTo]
    simp [Reduced.applyTo]
  · exact prefix_walk_iff _ _

/- Every read of a key accesses its path. -/
theorem prefix_of_keyConfined
    {backend : FilesystemStorageBackend} {key : StoreKey}
    {cwd : Place}
    (hConfined : KeyConfined backend key cwd)
    (hUsable : (backend.pathFor key).Usable) :
    Path.resolve cwd backend.root <+:
      Path.resolve cwd (backend.pathFor key) := by
  have hRead :
      Performs (onDisk (backend.read key))
        [⟨.host (.readFile (backend.pathFor key)),
          .error .other⟩]
        (.ret (.error .backendUnavailable)) :=
    .step (.done _)
  exact hConfined _ (.read hRead) _
    (List.mem_singleton_self _) _ (.readFile _ _ hUsable)

/-
  A key is confined to the root exactly if its path cannot
  be used or it stays inside.
-/
theorem keyConfined_iff (cwd : Place) :
    KeyConfined backend key cwd ↔
      ¬ (backend.pathFor key).Usable ∨
        StaysInside (Path.resolve cwd backend.root) key := by
  rw [← prefix_resolve_iff]
  constructor
  · intro hConfined
    by_cases hUsable : (backend.pathFor key).Usable
    · exact .inr (prefix_of_keyConfined hConfined hUsable)
    · exact .inl hUsable
  · intro hEither calls hPerformed call hCall path hAccesses
    rcases accesses_pathFor hPerformed hCall hAccesses with
      ⟨rfl, hUsable⟩
    exact hEither.resolve_left (not_not.mpr hUsable)

/- A namespace that leaves the root is not refused. -/
theorem keyConfined_parent_namespace :
    ¬ KeyConfined ⟨Rust.utf8 "/srv/store"⟩ ⟨"..", "secret"⟩
      [] := by
  intro hConfined
  have hInside := (prefix_resolve_iff _ _ _).mp
    (prefix_of_keyConfined hConfined (by decide))
  revert hInside
  decide

end Store

end AjarGateway
