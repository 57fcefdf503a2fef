import AjarGateway.Store.KeyPaths
import AjarGateway.Store.Load

/-
  What the storage backend keeps over reads and writes.

  The backend is meant to be a map from keys to bytes, as the
  in-memory backend is.  It is one as long as different keys
  lead to different places inside the root and no write fails
  half-way.

  Key definitions include:
    * `Store.DiskExec`
    * `Store.Session`
    * `Store.written`
    * `Store.Separate`
    * `Store.PlainKey`

  Key theorems include:
    * `Store.disk_eq_written`
    * `Store.reads_last_write`
    * `Store.keyConfined_of_plain`
    * `Store.separate_of_plain`
-/

------------------------------------------------------------
-- Disks
------------------------------------------------------------

namespace AjarGateway

namespace Store

open Interleaving

/- The files of a disk, by their places. -/
structure Disk where
  files : Place → Option (List UInt8)

def Disk.put
    (disk : Disk)
    (place : Place)
    (value : List UInt8) : Disk where
  files := Function.update disk.files place (some value)

theorem Disk.put_files_self
    (disk : Disk)
    (place : Place)
    (value : List UInt8) :
    (disk.put place value).files place = some value :=
  Function.update_self ..

theorem Disk.put_files_of_ne
    (disk : Disk)
    {place other : Place}
    (value : List UInt8)
    (hNe : other ≠ place) :
    (disk.put place value).files other =
      disk.files other :=
  Function.update_of_ne hNe ..

/-
  What the calls of the backend do, in a process that runs
  in a directory.  Every call may fail; a file that is
  written is truncated first, and writing it may fail after
  a prefix of its value.
-/
inductive DiskExec (cwd : Place) :
    Disk → Call diskSignature → Disk → Prop where
  | readFile
      (disk : Disk)
      (path : Path)
      (bytes : List UInt8)
      (hUsable : path.Usable)
      (hFile :
        disk.files (Path.resolve cwd path) = some bytes) :
      DiskExec cwd disk ⟨.host (.readFile path), .ok bytes⟩
        disk
  | readFails
      (disk : Disk)
      (path : Path)
      (kind : IoErrorKind) :
      DiskExec cwd disk
        ⟨.host (.readFile path), .error kind⟩ disk
  | readDir
      (disk : Disk)
      (path : Path)
      (reply :
        Except IoErrorKind
          (List (Except IoErrorKind OsString))) :
      DiskExec cwd disk ⟨.host (.readDir path), reply⟩ disk
  | nowUnixSeconds
      (disk : Disk)
      (now : Int)
      (hRange : InClockRange now) :
      DiskExec cwd disk ⟨.host .nowUnixSeconds, now⟩ disk
  | createDirAll
      (disk : Disk)
      (path : Path)
      (reply : Except IoErrorKind Unit) :
      DiskExec cwd disk ⟨.createDirAll path, reply⟩ disk
  | writeFile
      (disk : Disk)
      (path : Path)
      (value : List UInt8)
      (hUsable : path.Usable) :
      DiskExec cwd disk ⟨.writeFile path value, .ok ()⟩
        (disk.put (Path.resolve cwd path) value)
  | writeFails
      (disk : Disk)
      (path : Path)
      (value : List UInt8)
      (kind : IoErrorKind) :
      DiskExec cwd disk ⟨.writeFile path value, .error kind⟩
        disk
  | writeInterrupted
      (disk : Disk)
      (path : Path)
      (value part : List UInt8)
      (kind : IoErrorKind)
      (hUsable : path.Usable)
      (hPart : part <+: value) :
      DiskExec cwd disk ⟨.writeFile path value, .error kind⟩
        (disk.put (Path.resolve cwd path) part)

inductive DiskExecs (cwd : Place) :
    Disk → List (Call diskSignature) → Disk → Prop where
  | nil (disk : Disk) : DiskExecs cwd disk [] disk
  | cons
      {before middle after : Disk}
      {call : Call diskSignature}
      {calls : List (Call diskSignature)}
      (hExec : DiskExec cwd before call middle)
      (hRest : DiskExecs cwd middle calls after) :
      DiskExecs cwd before (call :: calls) after

end Store

end AjarGateway

------------------------------------------------------------
-- Sessions
------------------------------------------------------------

namespace AjarGateway

namespace Store

open Interleaving

/- A call of the backend and what it returned. -/
inductive StorageEvent where
  | read
      (key : StoreKey)
      (result : Except StoreError (List UInt8))
  | write
      (key : StoreKey)
      (value : List UInt8)
      (result : Except StoreError Unit)

def StorageEvent.key : StorageEvent → StoreKey
| .read key _ => key
| .write key _ _ => key

variable (backend : FilesystemStorageBackend) (cwd : Place)

/- What the backend does in one call. -/
inductive Happens :
    Disk → StorageEvent → Disk → Prop where
  | read
      {before after : Disk} {key : StoreKey}
      {calls : List (Call diskSignature)}
      {result : Except StoreError (List UInt8)}
      (hPerforms :
        Performs (onDisk (backend.read key)) calls
          (.ret result))
      (hExecs : DiskExecs cwd before calls after) :
      Happens before (.read key result) after
  | write
      {before after : Disk} {key : StoreKey}
      {value : List UInt8}
      {calls : List (Call diskSignature)}
      {result : Except StoreError Unit}
      (hPerforms :
        Performs (backend.write key value) calls
          (.ret result))
      (hExecs : DiskExecs cwd before calls after) :
      Happens before (.write key value result) after

/- Calls of the backend, one after the other. -/
inductive Session
    (allowed : Disk → StorageEvent → Disk → Prop)
    (start : Disk) : List StorageEvent → Disk → Prop where
  | nil : Session allowed start [] start
  | snoc
      {events : List StorageEvent} {event : StorageEvent}
      {before after : Disk}
      (hSession : Session allowed start events before)
      (hHappens : Happens backend cwd before event after)
      (hAllowed : allowed before event after) :
      Session allowed start (events ++ [event]) after

/- What a map from keys to bytes would hold. -/
def noteWrite
    (map : StoreKey → Option (List UInt8)) :
    StorageEvent → StoreKey → Option (List UInt8)
| .write key value (.ok ()) =>
    Function.update map key (some value)
| _ => map

def written
    (events : List StorageEvent) :
    StoreKey → Option (List UInt8) :=
  events.foldl noteWrite fun _ => none

/- A read yields what was last written to its own key. -/
def ReadsLastWrite (events : List StorageEvent) : Prop :=
  ∀ first key bytes second,
    events = first ++ .read key (.ok bytes) :: second →
      written first key = some bytes

variable {backend : FilesystemStorageBackend} {cwd : Place}
variable {before after : Disk} {key : StoreKey}

/- A read that succeeds is one successful file read. -/
theorem performs_read
    {calls : List (Call diskSignature)}
    {result : Except StoreError (List UInt8)}
    (hPerforms :
      Performs (onDisk (backend.read key)) calls
        (.ret result)) :
    ∃ reply,
      calls =
          [⟨.host (.readFile (backend.pathFor key)),
            reply⟩] ∧
        ∀ bytes, result = .ok bytes → reply = .ok bytes := by
  rcases (performs_call_ret_iff _ _ _ _).mp hPerforms with
    ⟨reply, tail, rfl, hTail⟩
  refine ⟨reply, ?_⟩
  rcases reply with (_ | _) | content
  all_goals
    rcases (performs_ret_iff _ _ _).mp hTail with
      ⟨rfl, hResult⟩
    cases hResult
  · exact ⟨rfl, nofun⟩
  · exact ⟨rfl, nofun⟩
  · refine ⟨rfl, fun _ hOk => ?_⟩
    cases hOk
    rfl

/- A read that succeeds finds the file of its key. -/
theorem Happens.of_read
    {result : Except StoreError (List UInt8)}
    (hHappens :
      Happens backend cwd before (.read key result) after) :
    after = before ∧
      ∀ bytes, result = .ok bytes →
        (backend.pathFor key).Usable ∧
          before.files
              (Path.resolve cwd (backend.pathFor key)) =
            some bytes := by
  cases hHappens with
  | read hPerforms hExecs =>
      rcases performs_read hPerforms with
        ⟨reply, rfl, hReply⟩
      cases hExecs with
      | cons hExec hRest =>
          cases hRest
          cases hExec with
          | readFile _ bytes hUsable hFile =>
              refine ⟨rfl, fun _ hOk => ?_⟩
              cases hReply _ hOk
              exact ⟨hUsable, hFile⟩
          | readFails _ kind =>
              refine ⟨rfl, fun _ hOk => ?_⟩
              cases hReply _ hOk

/- A write that succeeds has written its value. -/
theorem Happens.of_write
    {value : List UInt8}
    (hHappens :
      Happens backend cwd before
        (.write key value (.ok ())) after) :
    (backend.pathFor key).Usable ∧
      after =
        before.put
          (Path.resolve cwd (backend.pathFor key)) value := by
  cases hHappens with
  | write hPerforms hExecs =>
      unfold FilesystemStorageBackend.write at hPerforms
      split at hPerforms
      · cases ((performs_ret_iff _ _ _).mp hPerforms).2
      · rcases (performs_call_ret_iff _ _ _ _).mp hPerforms
          with ⟨created, tail, rfl, hTail⟩
        rcases created with kind | ⟨⟨⟩⟩
        · cases ((performs_ret_iff _ _ _).mp hTail).2
        · rcases (performs_call_ret_iff _ _ _ _).mp hTail
            with ⟨wrote, last, rfl, hLast⟩
          rcases wrote with kind | ⟨⟨⟩⟩
          · cases ((performs_ret_iff _ _ _).mp hLast).2
          · cases ((performs_ret_iff _ _ _).mp hLast).1
            cases hExecs with
            | cons hCreate hRest =>
                cases hCreate
                cases hRest with
                | cons hWrite hDone =>
                    cases hDone
                    cases hWrite with
                    | writeFile _ _ hUsable =>
                        exact ⟨hUsable, rfl⟩

end Store

end AjarGateway

------------------------------------------------------------
-- The Backend As A Map
------------------------------------------------------------

namespace AjarGateway

namespace Store

open Interleaving

variable {backend : FilesystemStorageBackend} {cwd : Place}
variable {allowed : Disk → StorageEvent → Disk → Prop}
variable {start after : Disk}
variable {events : List StorageEvent}

theorem written_snoc
    (events : List StorageEvent)
    (event : StorageEvent) :
    written (events ++ [event]) =
      noteWrite (written events) event := by
  simp [written]

/- A session can be cut at each of its calls. -/
theorem Session.split_at
    {first second : List StorageEvent} {event : StorageEvent}
    (hSession :
      Session backend cwd allowed start
        (first ++ event :: second) after) :
    ∃ before middle,
      Session backend cwd allowed start first before ∧
        Happens backend cwd before event middle := by
  generalize hEvents : first ++ event :: second = events
    at hSession
  induction hSession generalizing second with
  | nil => simp at hEvents
  | @snoc events last before after hSession hHappens _ ih =>
      rcases List.eq_nil_or_concat second with
        rfl | ⟨second, final, rfl⟩
      · rcases List.append_inj' hEvents rfl with
          ⟨rfl, hLast⟩
        cases hLast
        exact ⟨before, after, hSession, hHappens⟩
      · rw [List.concat_eq_append, ← List.cons_append,
          ← List.append_assoc] at hEvents
        rcases List.append_inj' hEvents rfl with ⟨hInit, _⟩
        exact ih hInit

/- A write that fails leaves the files as they were. -/
def FailsIntact
    (before : Disk)
    (event : StorageEvent)
    (after : Disk) : Prop :=
  ∀ key value error,
    event = .write key value (.error error) →
      after = before

theorem failsIntact_of_ok
    {before after : Disk}
    {key : StoreKey} {value : List UInt8} :
    FailsIntact before (.write key value (.ok ())) after := by
  intro other found error hEvent
  injection hEvent with _ _ hResult
  cases hResult

def Reads
    (events : List StorageEvent)
    (key : StoreKey) : Prop :=
  ∃ result, .read key result ∈ events

def Writes
    (events : List StorageEvent)
    (key : StoreKey) : Prop :=
  ∃ value result, .write key value result ∈ events

/-
  A key that is read leads to a place where no file was
  before, and where no other key is written.
-/
def Separate
    (backend : FilesystemStorageBackend)
    (cwd : Place)
    (start : Disk)
    (events : List StorageEvent) : Prop :=
  ∀ key,
    Reads events key → (backend.pathFor key).Usable →
      start.files (Path.resolve cwd (backend.pathFor key)) =
          none ∧
        ∀ other,
          Writes events other →
            (backend.pathFor other).Usable →
              Path.resolve cwd (backend.pathFor key) =
                  Path.resolve cwd
                    (backend.pathFor other) →
                key = other

/- The file of such a key is what a map would hold. -/
theorem disk_eq_written
    {key : StoreKey}
    (hFresh :
      start.files (Path.resolve cwd (backend.pathFor key)) =
        none)
    (hApart : ∀ other,
      Writes events other →
        (backend.pathFor other).Usable →
          Path.resolve cwd (backend.pathFor key) =
              Path.resolve cwd (backend.pathFor other) →
            key = other)
    (hSession :
      Session backend cwd FailsIntact start events after) :
    after.files (Path.resolve cwd (backend.pathFor key)) =
      written events key := by
  induction hSession with
  | nil => exact hFresh
  | @snoc events event before after hSession hHappens hIntact
      ih =>
      have hEarlier := ih fun other hOther => by
        rcases hOther with ⟨value, result, hMem⟩
        exact hApart other
          ⟨value, result, List.mem_append_left _ hMem⟩
      rw [written_snoc]
      cases event with
      | read other result =>
          rw [hHappens.of_read.1]
          exact hEarlier
      | write other value result =>
          cases result with
          | error error =>
              rw [hIntact other value error rfl]
              exact hEarlier
          | ok done =>
              rcases hHappens.of_write with
                ⟨hUsable, rfl⟩
              by_cases hSame : key = other
              · subst hSame
                rw [Disk.put_files_self]
                simp [noteWrite]
              · have hPlaces :
                    Path.resolve cwd (backend.pathFor key) ≠
                      Path.resolve cwd
                        (backend.pathFor other) :=
                  fun hEq => hSame
                    (hApart other
                      ⟨value, .ok done, by simp⟩ hUsable hEq)
                rw [Disk.put_files_of_ne _ _ hPlaces,
                  noteWrite, Function.update_of_ne hSame]
                exact hEarlier

/-
  In every session whose keys are separate, and in which no
  failed write has damaged a file, each read yields what was
  last written to its key.
-/
theorem reads_last_write
    (hSeparate : Separate backend cwd start events)
    (hSession :
      Session backend cwd FailsIntact start events after) :
    ReadsLastWrite events := by
  intro first key bytes second hEvents
  subst hEvents
  rcases hSession.split_at with
    ⟨before, middle, hFirst, hHappens⟩
  rcases hHappens.of_read.2 bytes rfl with ⟨hUsable, hFile⟩
  rcases hSeparate key ⟨.ok bytes, by simp⟩ hUsable with
    ⟨hFresh, hApart⟩
  rw [← disk_eq_written hFresh _ hFirst]
  · exact hFile
  · rintro other ⟨value, result, hMem⟩
    exact hApart other
      ⟨value, result, List.mem_append_left _ hMem⟩

end Store

end AjarGateway

------------------------------------------------------------
-- Plain Keys
------------------------------------------------------------

namespace AjarGateway

namespace Store

open Interleaving Paths

/- A text that is one name of a directory entry. -/
def PlainName (text : String) : Prop :=
  Path.separator ∉ Rust.utf8 text ∧
    Path.componentOf (Rust.utf8 text) =
      some (.name (Rust.utf8 text))

instance (text : String) : Decidable (PlainName text) :=
  inferInstanceAs (Decidable (_ ∧ _))

/- A name in the root or in one of its directories. -/
structure PlainKey (key : StoreKey) : Prop where
  keyNamespace :
    key.keyNamespace = "." ∨ PlainName key.keyNamespace
  key : PlainName key.key

/- The directory of a plain key, from the root on. -/
def StoreKey.directory (key : StoreKey) : Place :=
  if key.keyNamespace = "." then
    []
  else
    [Rust.utf8 key.keyNamespace]

theorem components_of_plainName
    {text : String}
    (hPlain : PlainName text) :
    Path.components (Rust.utf8 text) =
      [.name (Rust.utf8 text)] := by
  rw [Path.components,
    List.splitOn_eq_singleton hPlain.1]
  simp [hPlain.2]

theorem not_isAbsolute_of_plainName
    {text : String}
    (hPlain : PlainName text) :
    ¬ Path.IsAbsolute (Rust.utf8 text) := by
  intro hAbsolute
  exact hPlain.1 (List.mem_of_mem_head? hAbsolute)

/- The components of a plain key are names. -/
theorem components_of_plainKey
    {key : StoreKey}
    (hPlain : PlainKey key) :
    ¬ key.StartsOver ∧
      key.components =
        (key.directory ++ [Rust.utf8 key.key]).map .name := by
  have hKey := not_isAbsolute_of_plainName hPlain.key
  unfold StoreKey.StartsOver StoreKey.components
    StoreKey.directory
  rw [if_neg hKey, components_of_plainName hPlain.key]
  rcases hPlain.keyNamespace with hDot | hName
  · rw [hDot]
    exact ⟨not_or.mpr ⟨by decide, hKey⟩, rfl⟩
  · have hNamespace := not_isAbsolute_of_plainName hName
    have hNotDot : key.keyNamespace ≠ "." := by
      intro hDot
      rw [hDot] at hName
      revert hName
      decide
    rw [if_neg hNotDot, components_of_plainName hName]
    exact ⟨not_or.mpr ⟨hNamespace, hKey⟩, rfl⟩

theorem directory_injective
    {key other : StoreKey}
    (hSame : key.directory = other.directory) :
    key.keyNamespace = other.keyNamespace := by
  unfold StoreKey.directory at hSame
  split at hSame <;> split at hSame
  · rename_i hDot hOtherDot
    rw [hDot, hOtherDot]
  · cases hSame
  · cases hSame
  · injection hSame with hNames _
    exact Rust.utf8_injective hNames

variable {backend : FilesystemStorageBackend} {cwd : Place}
variable {start : Disk} {events : List StorageEvent}
variable {key : StoreKey}

theorem resolve_pathFor_of_plain
    (hPlain : PlainKey key) :
    Path.resolve cwd (backend.pathFor key) =
      Path.resolve cwd backend.root ++
        (key.directory ++ [Rust.utf8 key.key]) := by
  rcases components_of_plainKey hPlain with
    ⟨hRelative, hComponents⟩
  rw [resolve_pathFor, if_neg hRelative, hComponents,
    walk_names]

/- Plain keys stay inside the root. -/
theorem keyConfined_of_plain
    (hPlain : PlainKey key) :
    KeyConfined backend key cwd := by
  intro calls hPerformed call hCall path hAccesses
  rw [(accesses_pathFor hPerformed hCall hAccesses).1,
    resolve_pathFor_of_plain hPlain]
  exact List.prefix_append _ _

/- A load reads plain keys only, given the file names. -/
theorem plainKey_of_load :
    PlainKey manifestKey ∧ PlainKey viewIndexKey ∧
      ∀ fileName,
        PlainName fileName →
          PlainKey (viewKey fileName) := by
  have hViews : PlainName "views" := by
    decide
  exact ⟨⟨.inl rfl, by decide⟩,
    ⟨.inl rfl, by decide⟩,
    fun _ hName => ⟨.inr hViews, hName⟩⟩

/- No file lies inside the root of the backend. -/
def EmptyInside
    (backend : FilesystemStorageBackend)
    (cwd : Place)
    (disk : Disk) : Prop :=
  ∀ place,
    Path.resolve cwd backend.root <+: place →
      disk.files place = none

/- Plain keys are separate in an empty directory. -/
theorem separate_of_plain
    (hEmpty : EmptyInside backend cwd start)
    (hPlain : ∀ event ∈ events, PlainKey event.key) :
    Separate backend cwd start events := by
  rintro key ⟨result, hRead⟩ _
  have hKey : PlainKey key := hPlain _ hRead
  refine ⟨?_, ?_⟩
  · apply hEmpty
    rw [resolve_pathFor_of_plain hKey]
    exact List.prefix_append _ _
  · rintro other ⟨value, written, hWrite⟩ _ hPlaces
    have hOther : PlainKey other := hPlain _ hWrite
    rw [resolve_pathFor_of_plain hKey,
      resolve_pathFor_of_plain hOther,
      List.append_cancel_left_eq] at hPlaces
    rcases List.append_inj' hPlaces rfl with
      ⟨hDirectories, hNames⟩
    injection hNames with hKeys _
    have hNamespaces :=
      directory_injective hDirectories
    cases key
    cases other
    rw [StoreKey.mk.injEq]
    exact ⟨hNamespaces, Rust.utf8_injective hKeys⟩

end Store

end AjarGateway

------------------------------------------------------------
-- Sessions That Are Not Those Of A Map
------------------------------------------------------------

namespace AjarGateway

namespace Store

open Interleaving

variable {backend : FilesystemStorageBackend} {cwd : Place}
variable {before : Disk} {key : StoreKey} {parent : Path}

/- Every usable path with a parent can be written. -/
theorem happens_write
    (value : List UInt8)
    (hParent :
      Path.parent (backend.pathFor key) = some parent)
    (hUsable : (backend.pathFor key).Usable) :
    Happens backend cwd before (.write key value (.ok ()))
      (before.put
        (Path.resolve cwd (backend.pathFor key)) value) := by
  have hPerforms :
      Performs (backend.write key value)
        [⟨.createDirAll parent, .ok ()⟩,
          ⟨.writeFile (backend.pathFor key) value, .ok ()⟩]
        (.ret (.ok ())) := by
    unfold FilesystemStorageBackend.write
    rw [hParent]
    exact .step (.step (.done _))
  exact .write hPerforms
    (.cons (.createDirAll _ _ _)
      (.cons (.writeFile _ _ _ hUsable) (.nil _)))

/- The write may fail after a prefix of its value. -/
theorem happens_write_interrupted
    {value part : List UInt8}
    (hParent :
      Path.parent (backend.pathFor key) = some parent)
    (hUsable : (backend.pathFor key).Usable)
    (hPart : part <+: value) :
    Happens backend cwd before
      (.write key value (.error .backendUnavailable))
      (before.put
        (Path.resolve cwd (backend.pathFor key)) part) := by
  have hPerforms :
      Performs (backend.write key value)
        [⟨.createDirAll parent, .ok ()⟩,
          ⟨.writeFile (backend.pathFor key) value,
            .error .other⟩]
        (.ret (.error .backendUnavailable)) := by
    unfold FilesystemStorageBackend.write
    rw [hParent]
    exact .step (.step (.done _))
  exact .write hPerforms
    (.cons (.createDirAll _ _ _)
      (.cons (.writeInterrupted _ _ _ _ _ hUsable hPart)
        (.nil _)))

/- A write may be refused, and the files stay. -/
theorem happens_write_refused
    (value : List UInt8)
    (hParent :
      Path.parent (backend.pathFor key) = some parent) :
    Happens backend cwd before
      (.write key value (.error .backendUnavailable))
      before := by
  have hPerforms :
      Performs (backend.write key value)
        [⟨.createDirAll parent, .ok ()⟩,
          ⟨.writeFile (backend.pathFor key) value,
            .error .other⟩]
        (.ret (.error .backendUnavailable)) := by
    unfold FilesystemStorageBackend.write
    rw [hParent]
    exact .step (.step (.done _))
  exact .write hPerforms
    (.cons (.createDirAll _ _ _)
      (.cons (.writeFails _ _ _ _) (.nil _)))

/- A file can be read. -/
theorem happens_read
    {bytes : List UInt8}
    (hUsable : (backend.pathFor key).Usable)
    (hFile :
      before.files
          (Path.resolve cwd (backend.pathFor key)) =
        some bytes) :
    Happens backend cwd before (.read key (.ok bytes))
      before := by
  have hPerforms :
      Performs (onDisk (backend.read key))
        [⟨.host (.readFile (backend.pathFor key)),
          .ok bytes⟩]
        (.ret (.ok bytes)) :=
    .step (.done _)
  exact .read hPerforms
    (.cons (.readFile _ _ _ hUsable hFile) (.nil _))

def sampleBackend : FilesystemStorageBackend :=
  ⟨Rust.utf8 "/srv/store"⟩

def samplePath : Path :=
  Rust.utf8 "/srv/store/views/de/home"

def emptyDisk : Disk := ⟨fun _ => none⟩

/- Two keys that are joined to one path. -/
def firstKey : StoreKey := ⟨"views", "de/home"⟩

def secondKey : StoreKey := ⟨"views/de", "home"⟩

theorem pathFor_firstKey :
    sampleBackend.pathFor firstKey = samplePath := by
  decide

theorem pathFor_secondKey :
    sampleBackend.pathFor secondKey = samplePath := by
  decide

theorem parent_samplePath :
    Path.parent samplePath =
      some (Rust.utf8 "/srv/store/views/de") := by
  decide

theorem usable_samplePath : samplePath.Usable := by
  decide

theorem happens_write_sample
    (before : Disk)
    (value : List UInt8)
    (hPath : sampleBackend.pathFor key = samplePath) :
    Happens sampleBackend [] before
      (.write key value (.ok ()))
      (before.put (Path.resolve [] samplePath) value) := by
  rw [← hPath]
  exact happens_write value
    (hPath ▸ parent_samplePath) (hPath ▸ usable_samplePath)

theorem happens_read_sample
    {bytes : List UInt8}
    (hPath : sampleBackend.pathFor key = samplePath)
    (hFile :
      before.files (Path.resolve [] samplePath) =
        some bytes) :
    Happens sampleBackend [] before (.read key (.ok bytes))
      before :=
  happens_read (hPath ▸ usable_samplePath)
    (by rw [hPath, hFile])

/- The other key is written between a write and a read. -/
def aliasedEvents : List StorageEvent :=
  [.write firstKey [1] (.ok ()),
    .write secondKey [2] (.ok ()),
    .read firstKey (.ok [2])]

/- A write is interrupted between a write and a read. -/
def damagedEvents : List StorageEvent :=
  [.write firstKey [1] (.ok ()),
    .write firstKey [2, 3] (.error .backendUnavailable),
    .read firstKey (.ok [2])]

theorem session_aliasedEvents :
    ∃ after,
      Session sampleBackend [] (fun _ _ _ => True) emptyDisk
        aliasedEvents after := by
  have hFirst := happens_write_sample emptyDisk [1]
    pathFor_firstKey
  have hSecond := happens_write_sample
    (emptyDisk.put (Path.resolve [] samplePath) [1]) [2]
    pathFor_secondKey
  have hRead := happens_read_sample pathFor_firstKey
    (Disk.put_files_self
      (emptyDisk.put (Path.resolve [] samplePath) [1])
      (Path.resolve [] samplePath) [2])
  exact ⟨_, ((Session.nil.snoc hFirst trivial).snoc hSecond
    trivial).snoc hRead trivial⟩

theorem session_damagedEvents :
    ∃ after,
      Session sampleBackend [] (fun _ _ _ => True) emptyDisk
        damagedEvents after := by
  have hFirst := happens_write_sample emptyDisk [1]
    pathFor_firstKey
  have hFailed :
      Happens sampleBackend []
        (emptyDisk.put (Path.resolve [] samplePath) [1])
        (.write firstKey [2, 3]
          (.error .backendUnavailable))
        ((emptyDisk.put (Path.resolve [] samplePath) [1]).put
          (Path.resolve [] samplePath) [2]) := by
    rw [← pathFor_firstKey]
    exact happens_write_interrupted
      (pathFor_firstKey ▸ parent_samplePath)
      (pathFor_firstKey ▸ usable_samplePath)
      (List.prefix_append [2] [3])
  have hRead := happens_read_sample pathFor_firstKey
    (Disk.put_files_self
      (emptyDisk.put (Path.resolve [] samplePath) [1])
      (Path.resolve [] samplePath) [2])
  exact ⟨_, ((Session.nil.snoc hFirst trivial).snoc hFailed
    trivial).snoc hRead trivial⟩

/-
  The backend returns what was written to another key, and
  what a failed write has left.
-/
theorem reads_last_write_fails :
    EmptyInside sampleBackend [] emptyDisk ∧
      (∃ after,
        Session sampleBackend [] (fun _ _ _ => True)
            emptyDisk aliasedEvents after ∧
          ¬ ReadsLastWrite aliasedEvents) ∧
        ∃ after,
          Session sampleBackend [] (fun _ _ _ => True)
              emptyDisk damagedEvents after ∧
            ¬ ReadsLastWrite damagedEvents := by
  rcases session_aliasedEvents with ⟨aliased, hAliased⟩
  rcases session_damagedEvents with
    ⟨damaged, hDamaged⟩
  refine ⟨fun _ _ => rfl, ⟨aliased, hAliased, ?_⟩,
    damaged, hDamaged, ?_⟩
  · intro hReads
    have hLast := hReads
      [.write firstKey [1] (.ok ()),
        .write secondKey [2] (.ok ())] firstKey [2] [] rfl
    simp [written, noteWrite, firstKey, secondKey] at hLast
  · intro hReads
    have hLast := hReads
      [.write firstKey [1] (.ok ()),
        .write firstKey [2, 3]
          (.error .backendUnavailable)] firstKey [2] [] rfl
    simp [written, noteWrite] at hLast

/- Two plain keys, and the last write of one fails. -/
def homeKey : StoreKey := ⟨"prepared", "home"⟩

def aboutKey : StoreKey := ⟨"prepared", "about"⟩

def homeEvents : List StorageEvent :=
  [.write homeKey [1] (.ok ()),
    .write aboutKey [2] (.ok ()),
    .write homeKey [3] (.error .backendUnavailable),
    .read homeKey (.ok [1])]

theorem parent_homeKey :
    Path.parent (sampleBackend.pathFor homeKey) =
      some (Rust.utf8 "/srv/store/prepared") := by
  decide

theorem parent_aboutKey :
    Path.parent (sampleBackend.pathFor aboutKey) =
      some (Rust.utf8 "/srv/store/prepared") := by
  decide

/- The files after each of the two successful writes. -/
def homeDisk : Disk :=
  emptyDisk.put
    (Path.resolve [] (sampleBackend.pathFor homeKey)) [1]

def aboutDisk : Disk :=
  homeDisk.put
    (Path.resolve [] (sampleBackend.pathFor aboutKey)) [2]

theorem aboutDisk_homeKey :
    aboutDisk.files
        (Path.resolve [] (sampleBackend.pathFor homeKey)) =
      some [1] := by
  rw [aboutDisk, Disk.put_files_of_ne _ _ (by decide),
    homeDisk, Disk.put_files_self]

theorem session_homeEvents :
    Session sampleBackend [] FailsIntact emptyDisk
      homeEvents aboutDisk := by
  have hUsable : (sampleBackend.pathFor homeKey).Usable := by
    decide
  have hHome :
      Happens sampleBackend [] emptyDisk
        (.write homeKey [1] (.ok ())) homeDisk :=
    happens_write [1] parent_homeKey hUsable
  have hAbout :
      Happens sampleBackend [] homeDisk
        (.write aboutKey [2] (.ok ())) aboutDisk :=
    happens_write [2] parent_aboutKey (by decide)
  have hFailed :
      Happens sampleBackend [] aboutDisk
        (.write homeKey [3] (.error .backendUnavailable))
        aboutDisk :=
    happens_write_refused [3] parent_homeKey
  have hRead :
      Happens sampleBackend [] aboutDisk
        (.read homeKey (.ok [1])) aboutDisk :=
    happens_read hUsable aboutDisk_homeKey
  have hTwo :=
    (Session.nil.snoc hHome failsIntact_of_ok).snoc hAbout
      failsIntact_of_ok
  exact (hTwo.snoc hFailed fun _ _ _ _ => rfl).snoc hRead
    nofun

/- Each key reads as its last write that succeeded. -/
theorem reads_last_write_sample :
    ReadsLastWrite homeEvents := by
  have hHome : PlainKey homeKey :=
    ⟨by decide, by decide⟩
  have hAbout : PlainKey aboutKey :=
    ⟨by decide, by decide⟩
  have hEmpty : EmptyInside sampleBackend [] emptyDisk :=
    fun _ _ => rfl
  refine reads_last_write (separate_of_plain hEmpty ?_)
    session_homeEvents
  intro event hEvent
  simp only [homeEvents, List.mem_cons, List.not_mem_nil,
    or_false] at hEvent
  rcases hEvent with rfl | rfl | rfl | rfl
  · exact hHome
  · exact hAbout
  · exact hHome
  · exact hHome

end Store

end AjarGateway
