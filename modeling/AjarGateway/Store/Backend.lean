import AjarGateway.Interleaving.Program
import AjarGateway.Rust.Std

/-
  The filesystem storage backend and the calls the store
  makes to the host system.

  Loading a store is a program over three operations of the
  host: reading a file, listing a directory, and reading the
  clock.  A path is a byte string; an entry of a directory
  is known by its file name.

  Main declarations:
    * `Store.HostOp`
    * `Store.Path.join`
    * `Store.FilesystemStorageBackend.read`
    * `Store.readArtifact`
-/

------------------------------------------------------------
-- Errors
------------------------------------------------------------

namespace AjarGateway

namespace Store

/- The part of `std::io::ErrorKind` the backend looks at. -/
inductive IoErrorKind where
  | notFound
  | other
  deriving DecidableEq, Repr

/- Errors raised by storage backends. -/
inductive StoreError where
  | notFound
  | backendUnavailable
  | recordInvalid
  deriving DecidableEq, Repr

/- Startup errors for a prepared content store. -/
inductive StoreLoadError where
  | readFailed (kind : IoErrorKind)
  | backendReadFailed (error : StoreError)
  | jsonMalformed
  | manifestFieldMissing
  | viewFieldMissing
  | manifestTimeInvalid
  | manifestLifetimeTooLong
  | manifestExpired
  | manifestSequenceInvalid
  | duplicateViewUrl
  | invalidViewUrl
  deriving DecidableEq, Repr

/- The `Display` text of a load error. -/
def StoreLoadError.message : StoreLoadError → String
| .readFailed _ => "prepared content store read failed"
| .backendReadFailed _ =>
    "prepared content store read failed"
| .jsonMalformed => "prepared content store JSON malformed"
| .manifestFieldMissing =>
    "prepared manifest required field missing"
| .viewFieldMissing =>
    "prepared view required field missing"
| .manifestTimeInvalid =>
    "prepared manifest time window invalid"
| .manifestLifetimeTooLong =>
    "prepared manifest lifetime exceeds 180 days"
| .manifestExpired => "prepared manifest expired"
| .manifestSequenceInvalid =>
    "prepared manifest sequence invalid"
| .duplicateViewUrl => "prepared view URL duplicated"
| .invalidViewUrl => "prepared view URL invalid"

end Store

end AjarGateway

------------------------------------------------------------
-- Paths
------------------------------------------------------------

namespace AjarGateway

namespace Store

/- An operating-system string: any bytes. -/
abbrev OsString := List UInt8

/- A path, as the bytes of its `OsStr`. -/
abbrev Path := OsString

namespace Path

/- The byte of the path separator. -/
def separator : UInt8 := 47

/-
  `PathBuf::join`: an absolute path replaces the base, any
  other is pushed behind a separator.
-/
def join (base child : Path) : Path :=
  if child.head? = some separator then
    child
  else if base = [] ∨ base.getLast? = some separator then
    base ++ child
  else
    base ++ separator :: child

/-
  `Path::extension` of a file name: what follows its last
  dot, unless that dot is the first byte.
-/
def extension (fileName : OsString) : Option OsString :=
  let reversed := fileName.reverse
  let after := reversed.takeWhile (· ≠ 46)
  let before := (reversed.dropWhile (· ≠ 46)).drop 1
  if fileName = [46, 46] ∨ before = [] then
    none
  else
    some after.reverse

end Path

end Store

end AjarGateway

------------------------------------------------------------
-- Host Operations
------------------------------------------------------------

namespace AjarGateway

namespace Store

open Interleaving

/- The calls a load makes to the host system. -/
inductive HostOp where
  | readFile (path : Path)
  | readDir (path : Path)
  | nowUnixSeconds

/-
  The reply of each host call.  Listing a directory yields
  the file names of its entries in an arbitrary order, each
  of which may fail on its own.
-/
@[reducible] def HostOp.Reply : HostOp → Type
| .readFile _ => Except IoErrorKind (List UInt8)
| .readDir _ =>
    Except IoErrorKind (List (Except IoErrorKind OsString))
| .nowUnixSeconds => Int

abbrev hostSignature : Signature where
  Op := HostOp
  Reply := HostOp.Reply

/- The values `SystemClock` returns: 0 to `i64::MAX`. -/
def InClockRange (now : Int) : Prop :=
  0 ≤ now ∧ now < 2 ^ 63

def readFile
    (path : Path) :
    Program hostSignature
      (Except IoErrorKind (List UInt8)) :=
  .call (.readFile path) .ret

def readDir
    (path : Path) :
    Program hostSignature
      (Except IoErrorKind
        (List (Except IoErrorKind OsString))) :=
  .call (.readDir path) .ret

def nowUnixSeconds : Program hostSignature Int :=
  .call .nowUnixSeconds .ret

/- A step of loading a prepared content store. -/
abbrev Load (α : Type) : Type :=
  Fallible hostSignature StoreLoadError α

/- The contents of a filesystem. -/
structure FileSystem where
  readFile : Path → Except IoErrorKind (List UInt8)
  readDir :
    Path →
      Except IoErrorKind (List (Except IoErrorKind OsString))

/- The replies of a filesystem that stays as it is. -/
def FileSystem.reply
    (files : FileSystem)
    (now : Int) :
    (op : HostOp) → op.Reply
| .readFile path => files.readFile path
| .readDir path => files.readDir path
| .nowUnixSeconds => now

@[simp] theorem answerWith_readFile
    (files : FileSystem)
    (now : Int)
    (path : Path) :
    (readFile path).answerWith (files.reply now) =
      files.readFile path :=
  rfl

@[simp] theorem answerWith_readDir
    (files : FileSystem)
    (now : Int)
    (path : Path) :
    (readDir path).answerWith (files.reply now) =
      files.readDir path :=
  rfl

@[simp] theorem answerWith_nowUnixSeconds
    (files : FileSystem)
    (now : Int) :
    nowUnixSeconds.answerWith (files.reply now) = now :=
  rfl

end Store

end AjarGateway

------------------------------------------------------------
-- The Filesystem Backend
------------------------------------------------------------

namespace AjarGateway

namespace Store

open Interleaving

/- Stable identifier for a stored prepared artifact. -/
structure StoreKey where
  keyNamespace : String
  key : String
  deriving DecidableEq, Repr

/- The storage backend rooted at a directory. -/
structure FilesystemStorageBackend where
  root : Path

namespace FilesystemStorageBackend

def pathFor
    (backend : FilesystemStorageBackend)
    (key : StoreKey) : Path :=
  (backend.root.join (Rust.utf8 key.keyNamespace)).join
    (Rust.utf8 key.key)

/- Only a missing file is told apart from other failures. -/
def read
    (backend : FilesystemStorageBackend)
    (key : StoreKey) :
    Program hostSignature
      (Except StoreError (List UInt8)) := do
  match ← readFile (backend.pathFor key) with
  | .ok bytes => return .ok bytes
  | .error .notFound => return .error .notFound
  | .error .other => return .error .backendUnavailable

end FilesystemStorageBackend

def readArtifact
    (backend : FilesystemStorageBackend)
    (key : StoreKey) : Load (List UInt8) := do
  match ← backend.read key with
  | .ok bytes => return bytes
  | .error error => throw (.backendReadFailed error)

/- A successful artifact read is one successful file read. -/
theorem performs_readArtifact_ok_iff
    (backend : FilesystemStorageBackend)
    (key : StoreKey)
    (calls : List (Call hostSignature))
    (bytes : List UInt8) :
    Performs (readArtifact backend key).run calls
        (.ret (.ok bytes)) ↔
      calls =
        [⟨.readFile (backend.pathFor key), .ok bytes⟩] := by
  simp only [readArtifact, FilesystemStorageBackend.read,
    readFile, performs_run_bind_ok_iff,
    performs_run_liftM_ok_iff, performs_bind_iff,
    performs_call_ret_iff, performs_ret_iff]
  constructor
  · rintro ⟨_, _, _, rfl, ⟨_, _, result, rfl,
      ⟨_, _, rfl, rfl, hResult⟩, hSecond⟩, hLast⟩
    cases hResult
    rcases result with (_ | _) | content
    all_goals
      rcases (performs_ret_iff _ _ _).mp hSecond with
        ⟨rfl, hRead⟩
      cases hRead
      rcases (performs_ret_iff _ _ _).mp hLast with
        ⟨rfl, hBytes⟩
      cases hBytes
    rfl
  · rintro rfl
    exact ⟨_, [], .ok bytes, (List.append_nil _).symm,
      ⟨_, [], .ok bytes, (List.append_nil _).symm,
        ⟨.ok bytes, [], rfl, rfl, rfl⟩, .done _⟩,
      .done _⟩

end Store

end AjarGateway
