import AjarGateway.Store.Prepared
import Mathlib.Data.Finset.Insert
import Mathlib.Data.List.Sort

/-
  Loading a prepared content store from its directory.

  `loadFromDir` is a program over the host: it reads the
  manifest, the clock, the view index, the listing of the
  views directory, and then every view file in the order of
  the sorted file names.  `loadFrom` runs it against files
  that stay as they are.

  Key definitions include:
    * `Store.loadFromDir`
    * `Store.loadFrom`
    * `Store.StoreAccepted`
    * `Store.WasLoaded`

  Key theorems include:
    * `Store.performs_loadFromDir_ok`
    * `Store.loadFrom_ok`
-/

------------------------------------------------------------
-- The Load Program
------------------------------------------------------------

namespace AjarGateway

namespace Store

open Interleaving

/- The file names with the extension `json`, as listed. -/
def jsonNames :
    List (Except IoErrorKind OsString) →
      Except StoreLoadError (List OsString)
| [] => .ok []
| .error kind :: _ => .error (.readFailed kind)
| .ok name :: rest => do
    let names ← jsonNames rest
    if (Path.extension name).bind Rust.fromUtf8 =
        some "json" then
      .ok (name :: names)
    else
      .ok names

/-
  The JSON entries of a directory.  All entries share the
  directory, so a path is known by its file name and paths
  compare as their file names do.
-/
def jsonFiles (path : Path) : Load (List OsString) := do
  match ← readDir path with
  | .error kind => throw (.readFailed kind)
  | .ok entries => Fallible.ofExcept (jsonNames entries)

def manifestKey : StoreKey := ⟨".", "manifest.json"⟩

def viewIndexKey : StoreKey := ⟨".", "view-index.json"⟩

def viewKey (fileName : String) : StoreKey :=
  ⟨"views", fileName⟩

/- Read and check one view file. -/
def loadView
    (json : SerdeJson)
    (backend : FilesystemStorageBackend)
    (viewPath : OsString) : Load (String × StoredView) := do
  let key ←
    Fallible.ofOption .invalidViewUrl
      (Rust.fromUtf8 viewPath)
  let bytes ← readArtifact backend (viewKey key)
  let viewJson ←
    Fallible.ofOption .jsonMalformed (json.fromSlice bytes)
  Fallible.ofExcept (validateViewRequiredFields viewJson)
  let view ←
    Fallible.ofOption .jsonMalformed
      (json.viewFromValue viewJson)
  let requestTarget ←
    Fallible.ofExcept (requestTargetFromViewUrl view.url)
  return (requestTarget, ⟨bytes, view⟩)

/- The loop over the view files with its two collections. -/
def loadViews
    (json : SerdeJson)
    (backend : FilesystemStorageBackend) :
    List OsString → Finset String →
      AList (fun _ : String => StoredView) →
        Load (AList (fun _ : String => StoredView))
| [], _, views => pure views
| viewPath :: rest, seenUrls, views => do
    let (requestTarget, view) ←
      loadView json backend viewPath
    if requestTarget ∈ seenUrls then
      throw .duplicateViewUrl
    else
      loadViews json backend rest
        (insert requestTarget seenUrls)
        (views.insert requestTarget view)

/- `PreparedContentStore::load_from_dir`. -/
def loadFromDir
    (json : SerdeJson)
    (path : Path) : Load PreparedContentStore := do
  let backend : FilesystemStorageBackend := ⟨path⟩
  let manifestBytes ← readArtifact backend manifestKey
  let manifestJson ←
    Fallible.ofOption .jsonMalformed
      (json.fromSlice manifestBytes)
  Fallible.ofExcept
    (validateManifestRequiredFields manifestJson)
  let manifest ←
    Fallible.ofOption .jsonMalformed
      (json.manifestFromValue manifestJson)
  let now ← nowUnixSeconds
  Fallible.ofExcept (validateManifestLifecycle manifest now)
  let indexBytes ← readArtifact backend viewIndexKey
  let _indexJson ←
    Fallible.ofOption .jsonMalformed
      (json.fromSlice indexBytes)
  let viewPaths ← jsonFiles (path.join (Rust.utf8 "views"))
  let views ←
    loadViews json backend
      (viewPaths.insertionSort (· ≤ ·)) ∅ ∅
  let expiresAtUnix ←
    Fallible.ofExcept (parseRfc3339Utc manifest.expiresAt)
  return {
    manifest := {
      bytes := manifestBytes
      etag :=
        strongEtag (Rust.utf8 "manifest") manifestBytes none
      expiresAtUnix := expiresAtUnix
      viewsIndex := manifest.views.index
      manifest := manifest }
    viewIndex := {
      bytes := indexBytes
      etag :=
        strongEtag (Rust.utf8 "view-index") indexBytes none }
    viewsByRequestTarget := views }

/- Load from files that do not change during the load. -/
def loadFrom
    (json : SerdeJson)
    (path : Path)
    (files : FileSystem)
    (now : Int) :
    Except StoreLoadError PreparedContentStore :=
  (loadFromDir json path).run.answerWith (files.reply now)

end Store

end AjarGateway

------------------------------------------------------------
-- What A Successful Load Has Read
------------------------------------------------------------

namespace AjarGateway

namespace Store

open Interleaving

/- The call that reads an artifact and returns its bytes. -/
def artifactRead
    (path : Path)
    (key : StoreKey)
    (bytes : List UInt8) : Call hostSignature :=
  ⟨.readFile
      ((⟨path⟩ : FilesystemStorageBackend).pathFor key),
    .ok bytes⟩

/- A view file that was read under a key and accepted. -/
structure ViewAccepted
    (json : SerdeJson)
    (requestTarget : String)
    (view : StoredView) : Prop where
  parsed :
    ∃ value,
      json.fromSlice view.bytes = some value ∧
        validateViewRequiredFields value = .ok () ∧
          json.viewFromValue value = some view.view
  target :
    requestTargetFromViewUrl view.view.url =
      .ok requestTarget

/- The manifest and index of a store that was accepted. -/
structure StoreAccepted
    (json : SerdeJson)
    (now : Int)
    (store : PreparedContentStore) : Prop where
  manifestParsed :
    ∃ value,
      json.fromSlice store.manifest.bytes = some value ∧
        validateManifestRequiredFields value = .ok () ∧
          json.manifestFromValue value =
            some store.manifest.manifest
  live : ManifestLive store.manifest.manifest now
  expiry :
    parseRfc3339Utc store.manifest.manifest.expiresAt =
      .ok store.manifest.expiresAtUnix
  viewsIndex :
    store.manifest.viewsIndex =
      store.manifest.manifest.views.index
  manifestEtag :
    store.manifest.etag =
      strongEtag (Rust.utf8 "manifest")
        store.manifest.bytes none
  indexParsed :
    (json.fromSlice store.viewIndex.bytes).isSome
  indexEtag :
    store.viewIndex.etag =
      strongEtag (Rust.utf8 "view-index")
        store.viewIndex.bytes none
  views : ∀ target view,
    store.viewForRequestTarget target = some view →
      ViewAccepted json target view

/- A sequence that starts with an artifact reads it first. -/
theorem performs_readArtifact_bind_ok_iff
    {α : Type}
    (path : Path)
    (key : StoreKey)
    (next : List UInt8 → Load α)
    (calls : List (Call hostSignature))
    (value : α) :
    Performs (readArtifact ⟨path⟩ key >>= next).run calls
        (.ret (.ok value)) ↔
      ∃ bytes rest,
        calls = artifactRead path key bytes :: rest ∧
          Performs (next bytes).run rest
            (.ret (.ok value)) := by
  rw [performs_run_bind_ok_iff]
  constructor
  · rintro ⟨_, rest, bytes, rfl, hRead, hNext⟩
    rw [performs_readArtifact_ok_iff] at hRead
    subst hRead
    exact ⟨bytes, rest, rfl, hNext⟩
  · rintro ⟨bytes, rest, rfl, hNext⟩
    exact ⟨[artifactRead path key bytes], rest, bytes, rfl,
      (performs_readArtifact_ok_iff _ _ _ _).mpr rfl, hNext⟩

/- One accepted view file takes exactly one read. -/
theorem performs_loadView_ok_iff
    (json : SerdeJson)
    (path : Path)
    (viewPath : OsString)
    (calls : List (Call hostSignature))
    (requestTarget : String)
    (view : StoredView) :
    Performs (loadView json ⟨path⟩ viewPath).run calls
        (.ret (.ok (requestTarget, view))) ↔
      ViewAccepted json requestTarget view ∧
        ∃ key,
          Rust.fromUtf8 viewPath = some key ∧
            calls =
              [artifactRead path (viewKey key)
                view.bytes] := by
  simp only [loadView, performs_ofOption_bind_ok_iff,
    performs_ofExcept_bind_ok_iff,
    performs_readArtifact_bind_ok_iff, Fallible.run_pure,
    performs_ret_iff]
  constructor
  · rintro ⟨key, hKey, bytes, _, rfl, value, hValue, _,
      hFields, parsed, hParsed, target, hTarget, rfl,
      hReturn⟩
    cases hReturn
    exact ⟨⟨⟨value, hValue, hFields, hParsed⟩, hTarget⟩,
      key, hKey, rfl⟩
  · rintro ⟨⟨⟨value, hValue, hFields, hParsed⟩, hTarget⟩,
      key, hKey, rfl⟩
    exact ⟨key, hKey, view.bytes, [], rfl, value, hValue, (),
      hFields, view.view, hParsed, requestTarget, hTarget,
      rfl, rfl⟩

/- The read of a listed file in the views directory. -/
def IsViewRead
    (path : Path)
    (names : List OsString)
    (call : Call hostSignature) : Prop :=
  ∃ name ∈ names,
    ∃ key bytes,
      Rust.fromUtf8 name = some key ∧
        call = artifactRead path (viewKey key) bytes

/-
  The loop over the view files only reads those files, and
  every view it adds is the content of one of the reads.
-/
theorem performs_loadViews_ok
    (json : SerdeJson)
    (path : Path)
    (viewPaths : List OsString)
    (seenUrls : Finset String)
    (views result : AList (fun _ : String => StoredView))
    (calls : List (Call hostSignature))
    (hPerforms :
      Performs
        (loadViews json ⟨path⟩ viewPaths seenUrls views).run
        calls (.ret (.ok result))) :
    (∀ call ∈ calls, IsViewRead path viewPaths call) ∧
      ∀ target view,
        result.lookup target = some view →
          views.lookup target = some view ∨
            (ViewAccepted json target view ∧
              ∃ fileName,
                Rust.utf8 fileName ∈ viewPaths ∧
                  artifactRead path (viewKey fileName)
                      view.bytes ∈
                    calls) := by
  induction viewPaths
      generalizing seenUrls views calls with
  | nil =>
      rcases (performs_ret_iff _ _ _).mp hPerforms with
        ⟨rfl, hResult⟩
      cases hResult
      exact ⟨by simp, fun _ _ hLookup => .inl hLookup⟩
  | cons viewPath rest ih =>
      rcases (performs_run_bind_ok_iff _ _ _ _).mp
          hPerforms with
        ⟨first, second, ⟨stored, storedView⟩, rfl, hFirst,
          hSecond⟩
      rcases (performs_loadView_ok_iff _ _ _ _ _ _).mp
          hFirst with
        ⟨hAccepted, key, hKey, rfl⟩
      by_cases hSeen : stored ∈ seenUrls
      · -- A second view for a target ends the load.
        simp [hSeen] at hSecond
      · simp only [if_neg hSeen] at hSecond
        rcases ih _ _ _ hSecond with ⟨hReads, hViews⟩
        constructor
        · intro call hCall
          rcases List.mem_append.mp hCall with hCall | hCall
          · rw [List.mem_singleton] at hCall
            exact ⟨viewPath, List.mem_cons_self, key,
              storedView.bytes, hKey, hCall⟩
          · rcases hReads call hCall with
              ⟨name, hName, hRead⟩
            exact ⟨name, List.mem_cons_of_mem _ hName,
              hRead⟩
        · intro target view hLookup
          rcases hViews target view hLookup with
            hOld | ⟨hNew, other, hName, hRead⟩
          · by_cases hTarget : target = stored
            · subst hTarget
              rw [AList.lookup_insert] at hOld
              cases hOld
              have hPath :=
                (Rust.fromUtf8_eq_some_iff _ _).mp hKey
              exact .inr ⟨hAccepted, key, by simp [← hPath],
                by simp⟩
            · rw [AList.lookup_insert_ne hTarget] at hOld
              exact .inl hOld
          · exact .inr ⟨hNew, other,
              List.mem_cons_of_mem _ hName, by simp [hRead]⟩

/-
  The calls of a successful load: the manifest, the clock,
  the index, the listing, and then only listed files.
-/
structure LoadCalls
    (json : SerdeJson)
    (path : Path)
    (store : PreparedContentStore)
    (calls : List (Call hostSignature)) : Prop where
  order :
    ∃ now entries names viewReads,
      calls =
          artifactRead path manifestKey
              store.manifest.bytes ::
            ⟨.nowUnixSeconds, now⟩ ::
              artifactRead path viewIndexKey
                  store.viewIndex.bytes ::
                ⟨.readDir (path.join (Rust.utf8 "views")),
                    .ok entries⟩ ::
                  viewReads ∧
        StoreAccepted json now store ∧
          jsonNames entries = .ok names ∧
            ∀ call ∈ viewReads, IsViewRead path names call
  views : ∀ target view,
    store.viewForRequestTarget target = some view →
      ∃ entries names fileName,
        ⟨.readDir (path.join (Rust.utf8 "views")),
            .ok entries⟩ ∈ calls ∧
          jsonNames entries = .ok names ∧
            Rust.utf8 fileName ∈ names ∧
              artifactRead path (viewKey fileName)
                  view.bytes ∈
                calls

theorem performs_jsonFiles_ok
    (path : Path)
    (calls : List (Call hostSignature))
    (names : List OsString)
    (hPerforms :
      Performs (jsonFiles path).run calls
        (.ret (.ok names))) :
    ∃ entries,
      calls = [⟨.readDir path, .ok entries⟩] ∧
        jsonNames entries = .ok names := by
  rcases (performs_run_bind_ok_iff _ _ _ _).mp hPerforms with
    ⟨first, second, entries, rfl, hFirst, hSecond⟩
  rw [performs_run_liftM_ok_iff, readDir,
    performs_operation_iff] at hFirst
  subst hFirst
  cases entries with
  | error kind => simp at hSecond
  | ok listed =>
      rw [performs_run_ofExcept_ok_iff] at hSecond
      exact ⟨listed, by rw [hSecond.1]; rfl, hSecond.2⟩

/- What a load that succeeded has read and accepted. -/
theorem performs_loadFromDir_ok
    (json : SerdeJson)
    (path : Path)
    (calls : List (Call hostSignature))
    (store : PreparedContentStore)
    (hPerforms :
      Performs (loadFromDir json path).run calls
        (.ret (.ok store))) :
    LoadCalls json path store calls := by
  unfold loadFromDir at hPerforms
  rcases (performs_readArtifact_bind_ok_iff _ _ _ _ _).mp
      hPerforms with
    ⟨manifestBytes, _, rfl, hParse⟩
  rcases (performs_ofOption_bind_ok_iff _ _ _ _ _).mp
      hParse with
    ⟨manifestJson, hManifestJson, hCheck⟩
  rcases (performs_ofExcept_bind_ok_iff _ _ _ _).mp
      hCheck with
    ⟨_, hFields, hType⟩
  rcases (performs_ofOption_bind_ok_iff _ _ _ _ _).mp
      hType with
    ⟨manifest, hManifest, hClock⟩
  rcases (performs_run_bind_ok_iff _ _ _ _).mp hClock with
    ⟨_, _, now, rfl, hNow, hLive⟩
  rw [performs_run_liftM_ok_iff, nowUnixSeconds,
    performs_operation_iff] at hNow
  subst hNow
  rcases (performs_ofExcept_bind_ok_iff _ _ _ _).mp
      hLive with
    ⟨_, hLifecycle, hIndexRead⟩
  rcases (performs_readArtifact_bind_ok_iff _ _ _ _ _).mp
      hIndexRead with
    ⟨indexBytes, _, rfl, hIndexParse⟩
  rcases (performs_ofOption_bind_ok_iff _ _ _ _ _).mp
      hIndexParse with
    ⟨indexJson, hIndex, hList⟩
  rcases (performs_run_bind_ok_iff _ _ _ _).mp hList with
    ⟨_, _, viewPaths, rfl, hFiles, hLoop⟩
  rcases (performs_run_bind_ok_iff _ _ _ _).mp hLoop with
    ⟨viewReads, _, views, rfl, hViews, hExpiry⟩
  rcases (performs_ofExcept_bind_ok_iff _ _ _ _).mp
      hExpiry with
    ⟨expires, hExpires, hReturn⟩
  rcases (performs_ret_iff _ _ _).mp hReturn with
    ⟨rfl, hStore⟩
  cases hStore
  rcases performs_jsonFiles_ok _ _ _ hFiles with
    ⟨entries, rfl, hNames⟩
  rcases performs_loadViews_ok _ _ _ _ _ _ _ hViews with
    ⟨hReads, hLookup⟩
  have hStored : ∀ target view,
      views.lookup target = some view →
        ViewAccepted json target view ∧
          ∃ fileName,
            Rust.utf8 fileName ∈
                viewPaths.insertionSort (· ≤ ·) ∧
              artifactRead path (viewKey fileName)
                  view.bytes ∈
                viewReads := by
    intro target view hView
    rcases hLookup target view hView with hEmpty | hRead
    · simp at hEmpty
    · exact hRead
  refine ⟨⟨now, entries, viewPaths, viewReads, ?_, ?_,
    hNames, ?_⟩, ?_⟩
  · simp [artifactRead]
  · exact {
      manifestParsed :=
        ⟨manifestJson, hManifestJson, hFields, hManifest⟩
      live :=
        (validateManifestLifecycle_ok_iff _ _).mp hLifecycle
      expiry := hExpires
      viewsIndex := rfl
      manifestEtag := rfl
      indexParsed := by simp [hIndex]
      indexEtag := rfl
      views := fun target view hView =>
        (hStored target view hView).1 }
  · intro call hCall
    rcases hReads call hCall with ⟨name, hName, hRead⟩
    exact ⟨name,
      (List.mem_insertionSort (· ≤ ·)).mp hName, hRead⟩
  · intro target view hView
    rcases (hStored target view hView).2 with
      ⟨fileName, hName, hRead⟩
    exact ⟨entries, viewPaths, fileName, by simp, hNames,
      (List.mem_insertionSort (· ≤ ·)).mp hName,
      by simp [hRead]⟩

/- The calls of a load from files that do not change. -/
theorem loadFrom_ok_calls
    (json : SerdeJson)
    (path : Path)
    (files : FileSystem)
    (now : Int)
    (store : PreparedContentStore)
    (hLoad : loadFrom json path files now = .ok store) :
    LoadCalls json path store
      ((loadFromDir json path).run.callsWith
        (files.reply now)) := by
  apply performs_loadFromDir_ok
  rw [← hLoad]
  exact performs_callsWith _ _

/- A store returned by a load has been accepted. -/
theorem loadFrom_ok
    (json : SerdeJson)
    (path : Path)
    (files : FileSystem)
    (now : Int)
    (store : PreparedContentStore)
    (hLoad : loadFrom json path files now = .ok store) :
    StoreAccepted json now store := by
  rcases (loadFrom_ok_calls _ _ _ _ _ hLoad).order with
    ⟨clock, _, _, _, hCalls, hAccepted, _⟩
  have hClock : clock = now :=
    Program.reply_of_mem_callsWith (files.reply now)
      (loadFromDir json path).run
      ⟨.nowUnixSeconds, clock⟩ (by simp [hCalls])
  rwa [hClock] at hAccepted

/- A JSON file listed in the views directory has the bytes. -/
def HoldsView
    (path : Path)
    (files : FileSystem)
    (bytes : List UInt8) : Prop :=
  ∃ entries names fileName,
    files.readDir (path.join (Rust.utf8 "views")) =
        .ok entries ∧
      jsonNames entries = .ok names ∧
        Rust.utf8 fileName ∈ names ∧
          files.readFile
              ((⟨path⟩ : FilesystemStorageBackend).pathFor
                (viewKey fileName)) =
            .ok bytes

/- Every artifact of a store is the content of a file. -/
structure ComesFrom
    (path : Path)
    (files : FileSystem)
    (store : PreparedContentStore) : Prop where
  manifest :
    files.readFile
        ((⟨path⟩ : FilesystemStorageBackend).pathFor
          manifestKey) =
      .ok store.manifest.bytes
  viewIndex :
    files.readFile
        ((⟨path⟩ : FilesystemStorageBackend).pathFor
          viewIndexKey) =
      .ok store.viewIndex.bytes
  views : ∀ target view,
    store.viewForRequestTarget target = some view →
      HoldsView path files view.bytes

/- A load whose calls files would answer comes from them. -/
theorem LoadCalls.comesFrom
    {json : SerdeJson} {path : Path}
    {store : PreparedContentStore}
    {calls : List (Call hostSignature)}
    {files : FileSystem}
    (hCalls : LoadCalls json path store calls)
    (hReplies : ∀ call ∈ calls, ∃ now,
      call.reply = files.reply now call.op) :
    ComesFrom path files store := by
  have hReads (key : StoreKey) (bytes : List UInt8)
      (hRead : artifactRead path key bytes ∈ calls) :
      files.readFile
          ((⟨path⟩ : FilesystemStorageBackend).pathFor key) =
        .ok bytes := by
    rcases hReplies _ hRead with ⟨_, hReply⟩
    exact hReply.symm
  rcases hCalls.order with ⟨_, _, _, _, hOrder, _⟩
  refine ⟨hReads _ _ ?_, hReads _ _ ?_, ?_⟩
  · rw [hOrder]
    exact List.mem_cons_self
  · rw [hOrder]
    simp
  · intro target view hView
    rcases hCalls.views target view hView with
      ⟨entries, names, fileName, hListing, hNames, hName,
        hRead⟩
    rcases hReplies _ hListing with ⟨_, hReply⟩
    exact ⟨entries, names, fileName, hReply.symm, hNames,
      hName, hReads _ _ hRead⟩

/- A store comes from the files it was loaded from. -/
theorem loadFrom_comesFrom
    (json : SerdeJson)
    (path : Path)
    (files : FileSystem)
    (now : Int)
    (store : PreparedContentStore)
    (hLoad : loadFrom json path files now = .ok store) :
    ComesFrom path files store := by
  apply (loadFrom_ok_calls _ _ _ _ _ hLoad).comesFrom
  intro call hCall
  exact ⟨now, Program.reply_of_mem_callsWith
    (files.reply now) (loadFromDir json path).run call hCall⟩

/- Some load of the directory has returned the store. -/
def WasLoaded
    (json : SerdeJson)
    (path : Path)
    (store : PreparedContentStore) : Prop :=
  ∃ files now,
    InClockRange now ∧
      loadFrom json path files now = .ok store

/- What a load accepts is live, whenever it was loaded. -/
theorem WasLoaded.live
    {json : SerdeJson}
    {path : Path}
    {store : PreparedContentStore}
    (hLoaded : WasLoaded json path store) :
    ∃ now,
      InClockRange now ∧
        ManifestLive store.manifest.manifest now := by
  rcases hLoaded with ⟨files, now, hRange, hLoad⟩
  exact ⟨now, hRange,
    (loadFrom_ok json path files now store hLoad).live⟩

/- A loaded store was not expired when it was loaded. -/
theorem WasLoaded.fresh
    {json : SerdeJson}
    {path : Path}
    {store : PreparedContentStore}
    (hLoaded : WasLoaded json path store) :
    ∃ now,
      InClockRange now ∧
        now < store.manifest.expiresAtUnix := by
  rcases hLoaded with ⟨files, now, hRange, hLoad⟩
  have hAccepted := loadFrom_ok json path files now store hLoad
  rcases hAccepted.live.window with
    ⟨_, expiresAt, _, hExpires, _, _, hLive⟩
  rw [hAccepted.expiry] at hExpires
  cases hExpires
  exact ⟨now, hRange, hLive⟩

/- The files determine the manifest, whenever loaded. -/
theorem loadFrom_manifest_unique
    (json : SerdeJson)
    (path : Path)
    (files : FileSystem)
    (now now' : Int)
    (first second : PreparedContentStore)
    (hFirst : loadFrom json path files now = .ok first)
    (hSecond : loadFrom json path files now' = .ok second) :
    first.manifest.manifest = second.manifest.manifest := by
  have hRead := (loadFrom_comesFrom _ _ _ _ _ hFirst).manifest
  rw [(loadFrom_comesFrom _ _ _ _ _ hSecond).manifest]
    at hRead
  have hBytes := Except.ok.inj hRead
  rcases (loadFrom_ok _ _ _ _ _ hFirst).manifestParsed with
    ⟨value, hValue, _, hTyped⟩
  rcases (loadFrom_ok _ _ _ _ _ hSecond).manifestParsed with
    ⟨value', hValue', _, hTyped'⟩
  rw [hBytes, hValue] at hValue'
  cases hValue'
  rw [hTyped] at hTyped'
  exact Option.some.inj hTyped'

end Store

end AjarGateway

------------------------------------------------------------
-- When A Load Succeeds
------------------------------------------------------------

namespace AjarGateway

namespace Store

open Interleaving

variable {json : SerdeJson} {path : Path}
variable {files : FileSystem} {now : Int}

theorem answerWith_readArtifact
    {key : StoreKey}
    {bytes : List UInt8}
    (hRead :
      files.readFile
          ((⟨path⟩ : FilesystemStorageBackend).pathFor key) =
        .ok bytes) :
    (readArtifact ⟨path⟩ key).run.answerWith
        (files.reply now) =
      .ok bytes := by
  simp [readArtifact, FilesystemStorageBackend.read, hRead]

/- A view file that is read and accepted. -/
theorem answerWith_loadView
    {viewPath : OsString} {key : String}
    {requestTarget : String} {view : StoredView}
    (hKey : Rust.fromUtf8 viewPath = some key)
    (hRead :
      files.readFile
          ((⟨path⟩ : FilesystemStorageBackend).pathFor
            (viewKey key)) =
        .ok view.bytes)
    (hAccepted : ViewAccepted json requestTarget view) :
    (loadView json ⟨path⟩ viewPath).run.answerWith
        (files.reply now) =
      .ok (requestTarget, view) := by
  rcases hAccepted with
    ⟨⟨value, hValue, hFields, hView⟩, hTarget⟩
  simp [loadView, hKey, answerWith_readArtifact hRead,
    hValue, hFields, hView, hTarget]

theorem answerWith_loadViews_cons
    {viewPath : OsString} {rest : List OsString}
    {seenUrls : Finset String}
    {views : AList (fun _ : String => StoredView)}
    {requestTarget : String} {view : StoredView}
    (hView :
      (loadView json ⟨path⟩ viewPath).run.answerWith
          (files.reply now) =
        .ok (requestTarget, view))
    (hFresh : requestTarget ∉ seenUrls) :
    (loadViews json ⟨path⟩ (viewPath :: rest) seenUrls
        views).run.answerWith (files.reply now) =
      (loadViews json ⟨path⟩ rest
        (insert requestTarget seenUrls)
        (views.insert requestTarget view)).run.answerWith
          (files.reply now) := by
  simp [loadViews, hView, hFresh]

/- The manifest part of a directory that can be loaded. -/
structure LoadableManifest
    (json : SerdeJson)
    (path : Path)
    (files : FileSystem)
    (now : Int)
    (bytes : List UInt8)
    (manifest : Manifest)
    (expiresAt : Int) : Prop where
  read :
    files.readFile
        ((⟨path⟩ : FilesystemStorageBackend).pathFor
          manifestKey) =
      .ok bytes
  parsed :
    ∃ value,
      json.fromSlice bytes = some value ∧
        validateManifestRequiredFields value = .ok () ∧
          json.manifestFromValue value = some manifest
  live : ManifestLive manifest now
  expiry : parseRfc3339Utc manifest.expiresAt = .ok expiresAt

/- Enough for a load to return the store of a directory. -/
theorem loadFrom_eq_ok
    {manifestBytes indexBytes : List UInt8}
    {manifest : Manifest} {expiresAt : Int}
    {entries : List (Except IoErrorKind OsString)}
    {names : List OsString}
    {views : AList (fun _ : String => StoredView)}
    (hManifest :
      LoadableManifest json path files now manifestBytes
        manifest expiresAt)
    (hIndex :
      files.readFile
          ((⟨path⟩ : FilesystemStorageBackend).pathFor
            viewIndexKey) =
        .ok indexBytes)
    (hIndexJson : (json.fromSlice indexBytes).isSome = true)
    (hListing :
      files.readDir (path.join (Rust.utf8 "views")) =
        .ok entries)
    (hNames : jsonNames entries = .ok names)
    (hViews :
      (loadViews json ⟨path⟩
          (names.insertionSort (· ≤ ·)) ∅ ∅).run.answerWith
          (files.reply now) =
        .ok views) :
    loadFrom json path files now =
      .ok {
        manifest := {
          bytes := manifestBytes
          etag :=
            strongEtag (Rust.utf8 "manifest") manifestBytes
              none
          expiresAtUnix := expiresAt
          viewsIndex := manifest.views.index
          manifest := manifest }
        viewIndex := {
          bytes := indexBytes
          etag :=
            strongEtag (Rust.utf8 "view-index") indexBytes
              none }
        viewsByRequestTarget := views } := by
  rcases hManifest with
    ⟨hRead, ⟨value, hValue, hFields, hTyped⟩, hLive,
      hExpiry⟩
  have hLifecycle :=
    (validateManifestLifecycle_ok_iff manifest now).mpr hLive
  rcases Option.isSome_iff_exists.mp hIndexJson with
    ⟨indexJson, hIndexValue⟩
  have hFiles :
      (jsonFiles
          (path.join (Rust.utf8 "views"))).run.answerWith
          (files.reply now) =
        .ok names := by
    simp [jsonFiles, hListing, hNames]
  simp [loadFrom, loadFromDir,
    answerWith_readArtifact hRead,
    answerWith_readArtifact hIndex, hValue, hFields, hTyped,
    hLifecycle, hIndexValue, hFiles, hViews, hExpiry]

end Store

end AjarGateway
