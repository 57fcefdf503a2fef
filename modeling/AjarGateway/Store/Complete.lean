import AjarGateway.Store.Reference
import Mathlib.Data.Set.Function

/-
  A stable store directory is loaded completely.

  Whether a load succeeds is a property of the content of
  the directory and of the clock.  A load that succeeds
  holds every view file exactly once, under the request
  target of its own URL and with exactly its bytes.

  Key definitions include:
    * `Store.DirectoryContent`
    * `Store.ValidDirectory`
    * `Store.LoadedExactly`

  Key theorems include:
    * `Store.answerWith_loadViews_ok_iff`
    * `Store.loadFrom_complete`
-/

------------------------------------------------------------
-- Required Fields
------------------------------------------------------------

namespace AjarGateway

namespace Store

/- An object that has all of some fields. -/
def Value.HasFields
    (value : Value)
    (fields : List String) : Prop :=
  ∃ object, value = .object object ∧
    ∀ field ∈ fields, ∃ content, (field, content) ∈ object

theorem validateRequiredFields_ok_iff
    (fields : List String)
    (missing : StoreLoadError)
    (value : Value) :
    validateRequiredFields fields missing value = .ok () ↔
      value.HasFields fields := by
  unfold validateRequiredFields Value.HasFields
  cases value with
  | object object =>
      simp only [Value.asObject, Value.object.injEq,
        exists_eq_left']
      split
      · rename_i hAll
        simp only [true_iff]
        simpa using hAll
      · rename_i hMissing
        simpa using hMissing
  | _ => simp [Value.asObject]

end Store

end AjarGateway

------------------------------------------------------------
-- Names Of View Files
------------------------------------------------------------

namespace AjarGateway

namespace Store

/- A name with a stem and the extension `json`. -/
def IsJsonName (name : OsString) : Prop :=
  ∃ stem, stem ≠ [] ∧ name = stem ++ Rust.utf8 ".json"

/- The last dot of a name, if any precedes a stem. -/
theorem extension_eq_some_iff
    (name extension : OsString)
    (hNoDot : 46 ∉ extension)
    (hNonempty : extension ≠ []) :
    Path.extension name = some extension ↔
      ∃ stem, stem ≠ [] ∧ name = stem ++ 46 :: extension := by
  unfold Path.extension
  dsimp only
  constructor
  · intro hExtension
    split at hExtension
    · cases hExtension
    · rename_i hStem
      rw [not_or] at hStem
      have hAfter := Option.some.inj hExtension
      have hSplit :=
        List.takeWhile_append_dropWhile
          (p := (· ≠ 46)) (l := name.reverse)
      cases hRest : name.reverse.dropWhile (· ≠ 46) with
      | nil =>
          rw [hRest] at hStem
          exact absurd rfl hStem.2
      | cons dot before =>
          have hDot : dot = 46 := by
            have hHead :=
              List.head?_dropWhile_not (· ≠ 46) name.reverse
            rw [hRest] at hHead
            simpa using hHead
          rw [hRest] at hStem hSplit
          refine ⟨before.reverse, by simpa using hStem.2, ?_⟩
          rw [← List.reverse_reverse name, ← hSplit, hDot,
            ← hAfter]
          simp
  · rintro ⟨stem, hStem, rfl⟩
    have hKeep : ∀ byte ∈ extension.reverse,
        decide (byte ≠ 46) = true := by
      intro byte hMem
      exact decide_eq_true fun hEq =>
        hNoDot (hEq ▸ List.mem_reverse.mp hMem)
    have hReverse :
        (stem ++ 46 :: extension).reverse =
          extension.reverse ++ 46 :: stem.reverse := by
      simp
    have hNotDots : stem ++ 46 :: extension ≠ [46, 46] := by
      intro hDots
      have hLength := congrArg List.length hDots
      have hStemLength := List.length_pos_of_ne_nil hStem
      have hLong := List.length_pos_of_ne_nil hNonempty
      simp only [List.length_append, List.length_cons,
        List.length_nil] at hLength
      omega
    rw [hReverse, List.takeWhile_append_of_pos hKeep,
      List.dropWhile_append_of_pos hKeep]
    simp [hNotDots, hStem]

theorem extension_json_iff
    (name : OsString) :
    (Path.extension name).bind Rust.fromUtf8 = some "json" ↔
      IsJsonName name := by
  have hExtension :
      (Path.extension name).bind Rust.fromUtf8 =
          some "json" ↔
        Path.extension name = some (Rust.utf8 "json") := by
    rw [Option.bind_eq_some_iff]
    simp only [Rust.fromUtf8_eq_some_iff, exists_eq_right]
  rw [hExtension, extension_eq_some_iff _ _
    (by decide) (by decide)]
  rfl

end Store

end AjarGateway

------------------------------------------------------------
-- The Loop Over The View Files
------------------------------------------------------------

namespace AjarGateway

namespace Store

open Interleaving

variable {json : SerdeJson} {path : Path}
variable {files : FileSystem} {now : Int}

/- A view file that is read, and its content accepted. -/
theorem answerWith_loadView_ok_iff
    {name : String}
    {bytes : List UInt8}
    (hRead :
      files.readFile
          ((⟨path⟩ : FilesystemStorageBackend).pathFor
            (viewKey name)) =
        .ok bytes)
    (target : String)
    (view : StoredView) :
    (loadView json ⟨path⟩ (Rust.utf8 name)).run.answerWith
        (files.reply now) =
      .ok (target, view) ↔
        view.bytes = bytes ∧ ViewAccepted json target view := by
  have hName : Rust.fromUtf8 (Rust.utf8 name) = some name :=
    (Rust.fromUtf8_eq_some_iff _ _).mpr rfl
  constructor
  · intro hAnswer
    have hPerforms :=
      performs_callsWith (files.reply now)
        (loadView json ⟨path⟩ (Rust.utf8 name)).run
    rw [hAnswer] at hPerforms
    rcases (performs_loadView_ok_iff _ _ _ _ _ _).mp
        hPerforms with
      ⟨hAccepted, key, hKey, hCalls⟩
    cases hName.symm.trans hKey
    have hReply :=
      Program.reply_of_mem_callsWith (files.reply now)
        (loadView json ⟨path⟩ (Rust.utf8 name)).run
        (artifactRead path (viewKey name) view.bytes)
        (by simp [hCalls])
    exact ⟨Except.ok.inj (hReply.trans hRead), hAccepted⟩
  · rintro ⟨rfl, hAccepted⟩
    exact answerWith_loadView hName hRead hAccepted

/- Every file of a loop that succeeds is accepted. -/
theorem answerWith_loadViews_accepts
    {paths : List OsString}
    {seenUrls : Finset String}
    {views result : AList (fun _ : String => StoredView)}
    (hLoop :
      (loadViews json ⟨path⟩ paths seenUrls
          views).run.answerWith (files.reply now) =
        .ok result) :
    ∀ viewPath ∈ paths, ∃ entry,
      (loadView json ⟨path⟩ viewPath).run.answerWith
          (files.reply now) =
        .ok entry := by
  induction paths generalizing seenUrls views with
  | nil =>
      intro viewPath hMem
      cases hMem
  | cons first rest ih =>
      unfold loadViews at hLoop
      rw [Fallible.answerWith_run_bind, Rust.bind_eq_ok_iff] at hLoop
      rcases hLoop with ⟨⟨target, view⟩, hFirst, hRest⟩
      dsimp only at hRest
      split at hRest
      · cases hRest
      · intro viewPath hMem
        rcases List.mem_cons.mp hMem with rfl | hIn
        · exact ⟨_, hFirst⟩
        · exact ih hRest viewPath hIn

/- The map that the loop builds from accepted entries. -/
def insertEntries
    (entries : List (String × StoredView))
    (views : AList (fun _ : String => StoredView)) :
    AList (fun _ : String => StoredView) :=
  entries.foldl
    (fun map entry => map.insert entry.1 entry.2) views

/-
  On files that are accepted one by one, the loop succeeds
  exactly when no target occurs twice or was seen before,
  and then it has inserted every entry.
-/
theorem answerWith_loadViews_ok_iff
    {paths : List OsString}
    {entryOf : OsString → String × StoredView}
    (hEntries : ∀ viewPath ∈ paths,
      (loadView json ⟨path⟩ viewPath).run.answerWith
          (files.reply now) =
        .ok (entryOf viewPath))
    (seenUrls : Finset String)
    (views result : AList (fun _ : String => StoredView)) :
    (loadViews json ⟨path⟩ paths seenUrls
        views).run.answerWith (files.reply now) =
      .ok result ↔
        (paths.map fun viewPath => (entryOf viewPath).1).Nodup ∧
          (∀ viewPath ∈ paths,
            (entryOf viewPath).1 ∉ seenUrls) ∧
          result =
            insertEntries (paths.map entryOf) views := by
  induction paths generalizing seenUrls views with
  | nil =>
      simp [loadViews, insertEntries, eq_comm]
  | cons first rest ih =>
      rw [List.forall_mem_cons] at hEntries
      unfold loadViews
      rw [Fallible.answerWith_run_bind, hEntries.1, Rust.ok_bind]
      dsimp only
      by_cases hSeen : (entryOf first).1 ∈ seenUrls
      · simp [hSeen]
      · rw [if_neg hSeen, ih hEntries.2, List.map_cons,
          List.nodup_cons, List.forall_mem_cons]
        simp only [Finset.mem_insert, not_or, List.mem_map,
          not_exists, not_and]
        constructor
        · rintro ⟨hDistinct, hFresh, hResult⟩
          exact ⟨⟨fun viewPath hMem => (hFresh _ hMem).1,
            hDistinct⟩, ⟨hSeen,
              fun viewPath hMem => (hFresh _ hMem).2⟩,
            hResult⟩
        · rintro ⟨⟨hFirst, hDistinct⟩, ⟨-, hFresh⟩, hResult⟩
          exact ⟨hDistinct,
            fun viewPath hMem =>
              ⟨hFirst _ hMem, hFresh _ hMem⟩,
            hResult⟩

/- Distinct entries are all found in the map. -/
theorem lookup_insertEntries
    {entries : List (String × StoredView)}
    (hDistinct : (entries.map Prod.fst).Nodup)
    (views : AList (fun _ : String => StoredView))
    (target : String) (view : StoredView) :
    (insertEntries entries views).lookup target = some view ↔
      (target, view) ∈ entries ∨
        (target ∉ entries.map Prod.fst ∧
          views.lookup target = some view) := by
  induction entries generalizing views with
  | nil => simp [insertEntries]
  | cons entry rest ih =>
      rw [List.map_cons, List.nodup_cons] at hDistinct
      unfold insertEntries at ih ⊢
      rw [List.foldl_cons, ih hDistinct.2, List.map_cons,
        List.mem_cons, List.mem_cons, not_or]
      by_cases hTarget : target = entry.1
      · have hAbsent : (target, view) ∉ rest := by
          intro hMem
          exact hDistinct.1
            (hTarget ▸ List.mem_map_of_mem (f := Prod.fst) hMem)
        have hEntry :
            (target, view) = entry ↔ entry.2 = view := by
          rw [hTarget, Prod.ext_iff]
          simp [eq_comm]
        rw [hEntry, hTarget, AList.lookup_insert]
        rw [hTarget] at hAbsent
        simp [hAbsent, hDistinct.1]
      · have hEntry : (target, view) ≠ entry := by
          rintro rfl
          exact hTarget rfl
        rw [AList.lookup_insert_ne hTarget]
        simp [hEntry, hTarget]

end Store

end AjarGateway

------------------------------------------------------------
-- The Content Of A Directory
------------------------------------------------------------

namespace AjarGateway

namespace Store

open Interleaving

/-
  What a store directory holds: the two artifacts, and the
  files of its views directory with their content.
-/
structure DirectoryContent where
  manifest : List UInt8
  viewIndex : List UInt8
  names : Finset String
  content : String → List UInt8

namespace DirectoryContent

/- The view files: the names with the extension `json`. -/
def viewNames (directory : DirectoryContent) : Set String :=
  { name | name ∈ directory.names ∧
      IsJsonName (Rust.utf8 name) }

/-
  Files at a path that hold this content.  Every read
  succeeds, and the listing is in any order.
-/
structure HeldBy
    (directory : DirectoryContent)
    (path : Path)
    (files : FileSystem) : Prop where
  manifest :
    files.readFile
        ((⟨path⟩ : FilesystemStorageBackend).pathFor
          manifestKey) =
      .ok directory.manifest
  viewIndex :
    files.readFile
        ((⟨path⟩ : FilesystemStorageBackend).pathFor
          viewIndexKey) =
      .ok directory.viewIndex
  listing :
    ∃ listed : List String,
      listed.Nodup ∧ listed.toFinset = directory.names ∧
        files.readDir (path.join (Rust.utf8 "views")) =
          .ok (listed.map fun name => .ok (Rust.utf8 name))
  views : ∀ name ∈ directory.viewNames,
    files.readFile
        ((⟨path⟩ : FilesystemStorageBackend).pathFor
          (viewKey name)) =
      .ok (directory.content name)

/-
  A view file that parses as a view with its required fields
  and has an accepted URL.
-/
structure IsView
    (json : SerdeJson)
    (directory : DirectoryContent)
    (name target : String)
    (view : View) : Prop where
  parsed :
    ∃ value,
      json.fromSlice (directory.content name) = some value ∧
        value.HasFields ["url", "etag", "chunks", "signature"] ∧
          json.viewFromValue value = some view
  target : requestTargetFromViewUrl view.url = .ok target

end DirectoryContent

/- The conditions on a directory and on the clock. -/
structure ValidDirectory
    (json : SerdeJson)
    (now : Int)
    (directory : DirectoryContent) : Prop where
  manifest :
    ∃ value manifest,
      json.fromSlice directory.manifest = some value ∧
        value.HasFields
          ["ajar_version", "profiles", "site", "keys", "views",
            "issued_at", "expires_at", "sequence",
            "signature"] ∧
        json.manifestFromValue value = some manifest ∧
          ManifestLive manifest now
  viewIndex :
    ∃ value, json.fromSlice directory.viewIndex = some value
  views : ∀ name ∈ directory.viewNames,
    ∃ target view, directory.IsView json name target view
  distinct : ∀ name ∈ directory.viewNames,
    ∀ other ∈ directory.viewNames, ∀ target view view',
      directory.IsView json name target view →
        directory.IsView json other target view' →
          name = other

/-
  A store that holds a directory: every view file under its
  own request target, with its own bytes, and nothing else.
-/
structure LoadedExactly
    (json : SerdeJson)
    (directory : DirectoryContent)
    (store : PreparedContentStore) : Prop where
  manifest : store.manifest.bytes = directory.manifest
  viewIndex : store.viewIndex.bytes = directory.viewIndex
  views :
    ∃ targetOf : String → String,
      Set.BijOn targetOf directory.viewNames
          { target | target ∈ store.viewsByRequestTarget } ∧
        ∀ name ∈ directory.viewNames, ∃ view,
          store.viewForRequestTarget (targetOf name) =
              some ⟨directory.content name, view⟩ ∧
            directory.IsView json name (targetOf name) view

variable {json : SerdeJson} {path : Path}
variable {files : FileSystem} {now : Int}
variable {directory : DirectoryContent}

/- A stored view is accepted as the content of its file. -/
theorem viewAccepted_iff
    (name target : String)
    (view : View) :
    ViewAccepted json target ⟨directory.content name, view⟩ ↔
      directory.IsView json name target view := by
  have hFields := fun value =>
    validateRequiredFields_ok_iff
      ["url", "etag", "chunks", "signature"]
      .viewFieldMissing value
  constructor
  · rintro ⟨⟨value, hValue, hValid, hTyped⟩, hTarget⟩
    exact ⟨⟨value, hValue, (hFields value).mp hValid, hTyped⟩,
      hTarget⟩
  · rintro ⟨⟨value, hValue, hValid, hTyped⟩, hTarget⟩
    exact ⟨⟨value, hValue, (hFields value).mpr hValid, hTyped⟩,
      hTarget⟩

/- The listing keeps the names of view files. -/
theorem jsonNames_utf8
    (listed : List String) :
    ∃ names : List String,
      jsonNames (listed.map fun name => .ok (Rust.utf8 name)) =
          .ok (names.map Rust.utf8) ∧
        names.Sublist listed ∧
          ∀ name, name ∈ names ↔
            name ∈ listed ∧ IsJsonName (Rust.utf8 name) := by
  induction listed with
  | nil => exact ⟨[], rfl, List.Sublist.refl _, by simp⟩
  | cons name rest ih =>
      rcases ih with ⟨names, hNames, hSublist, hMem⟩
      by_cases hJson : IsJsonName (Rust.utf8 name)
      · refine ⟨name :: names, ?_, hSublist.cons_cons name, ?_⟩
        · rw [List.map_cons, jsonNames, hNames, Rust.ok_bind,
            if_pos ((extension_json_iff _).mpr hJson)]
          rfl
        · intro other
          rw [List.mem_cons, List.mem_cons, hMem]
          constructor
          · rintro (rfl | hIn)
            · exact ⟨.inl rfl, hJson⟩
            · exact ⟨.inr hIn.1, hIn.2⟩
          · rintro ⟨rfl | hIn, hOther⟩
            · exact .inl rfl
            · exact .inr ⟨hIn, hOther⟩
      · refine ⟨names, ?_, hSublist.cons name, ?_⟩
        · rw [List.map_cons, jsonNames, hNames, Rust.ok_bind,
            if_neg (mt (extension_json_iff _).mp hJson)]
        · intro other
          rw [hMem, List.mem_cons]
          constructor
          · rintro ⟨hIn, hOther⟩
            exact ⟨.inr hIn, hOther⟩
          · rintro ⟨rfl | hIn, hOther⟩
            · exact absurd hOther hJson
            · exact ⟨hIn, hOther⟩

end Store

end AjarGateway

------------------------------------------------------------
-- Loading A Directory
------------------------------------------------------------

namespace AjarGateway

namespace Store

open Interleaving

variable {json : SerdeJson} {path : Path}
variable {files : FileSystem} {now : Int}
variable {directory : DirectoryContent}

/- The text of a file name. -/
def nameText (name : OsString) : String :=
  (Rust.fromUtf8 name).getD ""

@[simp] theorem nameText_utf8
    (name : String) :
    nameText (Rust.utf8 name) = name := by
  unfold nameText
  rw [(Rust.fromUtf8_eq_some_iff _ _).mpr rfl]
  rfl

/- The view files of a directory in the order of the loop. -/
structure LoopPaths
    (directory : DirectoryContent)
    (paths : List OsString) : Prop where
  distinct : paths.Nodup
  mem : ∀ viewPath, viewPath ∈ paths ↔
    ∃ name ∈ directory.viewNames, Rust.utf8 name = viewPath

/- The sorted listing is the loop over the view files. -/
theorem DirectoryContent.HeldBy.loopPaths
    (hHeld : directory.HeldBy path files) :
    ∃ entries names,
      files.readDir (path.join (Rust.utf8 "views")) =
          .ok entries ∧
        jsonNames entries = .ok names ∧
          LoopPaths directory (names.insertionSort (· ≤ ·)) := by
  rcases hHeld.listing with
    ⟨listed, hDistinct, hListed, hRead⟩
  rcases jsonNames_utf8 listed with
    ⟨names, hNames, hSublist, hMem⟩
  refine ⟨_, _, hRead, hNames, ?_, ?_⟩
  · apply (List.perm_insertionSort (· ≤ ·) _).nodup_iff.mpr
    exact (hSublist.nodup hDistinct).map Rust.utf8_injective
  · intro viewPath
    rw [List.mem_insertionSort, List.mem_map]
    apply exists_congr
    intro name
    apply and_congr_left
    intro _
    rw [hMem, ← List.mem_toFinset, hListed]
    rfl

/- What each file is loaded as. -/
structure ViewChoice
    (json : SerdeJson)
    (directory : DirectoryContent)
    (targetOf : String → String)
    (viewOf : String → View) : Prop where
  isView : ∀ name ∈ directory.viewNames,
    directory.IsView json name (targetOf name) (viewOf name)

variable {targetOf : String → String} {viewOf : String → View}
variable {paths : List OsString}

/- The entry of a file in the map. -/
def entryOf
    (directory : DirectoryContent)
    (targetOf : String → String)
    (viewOf : String → View)
    (viewPath : OsString) : String × StoredView :=
  (targetOf (nameText viewPath),
    ⟨directory.content (nameText viewPath),
      viewOf (nameText viewPath)⟩)

/- No target occurs twice when no two files share one. -/
theorem distinct_targets_iff
    (hPaths : LoopPaths directory paths) :
    (paths.map fun viewPath =>
        (entryOf directory targetOf viewOf viewPath).1).Nodup ↔
      Set.InjOn targetOf directory.viewNames := by
  rw [List.nodup_map_iff_inj_on hPaths.distinct]
  constructor
  · intro hDistinct name hName other hOther hSame
    apply Rust.utf8_injective
    apply hDistinct _ ((hPaths.mem _).mpr ⟨name, hName, rfl⟩)
      _ ((hPaths.mem _).mpr ⟨other, hOther, rfl⟩)
    unfold entryOf
    rwa [nameText_utf8, nameText_utf8]
  · intro hInjective viewPath hMem viewPath' hMem' hSame
    rcases (hPaths.mem viewPath).mp hMem with
      ⟨name, hName, rfl⟩
    rcases (hPaths.mem viewPath').mp hMem' with
      ⟨other, hOther, rfl⟩
    unfold entryOf at hSame
    rw [nameText_utf8, nameText_utf8] at hSame
    rw [hInjective hName hOther hSame]

/- The loop succeeds when no two targets are the same. -/
theorem loadViews_directory_ok_iff
    (hHeld : directory.HeldBy path files)
    (hPaths : LoopPaths directory paths)
    (hChoice : ViewChoice json directory targetOf viewOf)
    (result : AList (fun _ : String => StoredView)) :
    (loadViews json ⟨path⟩ paths ∅ ∅).run.answerWith
        (files.reply now) =
      .ok result ↔
        Set.InjOn targetOf directory.viewNames ∧
          result =
            insertEntries
              (paths.map (entryOf directory targetOf viewOf))
              ∅ := by
  have hEntries : ∀ viewPath ∈ paths,
      (loadView json ⟨path⟩ viewPath).run.answerWith
          (files.reply now) =
        .ok (entryOf directory targetOf viewOf viewPath) := by
    intro viewPath hMem
    rcases (hPaths.mem viewPath).mp hMem with
      ⟨name, hName, rfl⟩
    unfold entryOf
    rw [nameText_utf8]
    exact (answerWith_loadView_ok_iff (hHeld.views name hName)
      _ _).mpr ⟨rfl, (viewAccepted_iff _ _ _).mpr
        (hChoice.isView name hName)⟩
  rw [answerWith_loadViews_ok_iff hEntries,
    distinct_targets_iff hPaths]
  simp

/- The map that the loop returns holds exactly the files. -/
theorem lookup_directory
    (hPaths : LoopPaths directory paths)
    (hInjective : Set.InjOn targetOf directory.viewNames)
    (target : String)
    (view : StoredView) :
    (insertEntries
        (paths.map (entryOf directory targetOf viewOf))
        ∅).lookup target =
      some view ↔
        ∃ name ∈ directory.viewNames,
          targetOf name = target ∧
            ⟨directory.content name, viewOf name⟩ = view := by
  have hDistinct :
      ((paths.map (entryOf directory targetOf viewOf)).map
        Prod.fst).Nodup := by
    rw [List.map_map]
    exact (distinct_targets_iff hPaths).mpr hInjective
  rw [lookup_insertEntries hDistinct, List.mem_map]
  constructor
  · rintro (⟨viewPath, hMem, hEntry⟩ | ⟨-, hEmpty⟩)
    · rcases (hPaths.mem viewPath).mp hMem with
        ⟨name, hName, rfl⟩
      unfold entryOf at hEntry
      rw [nameText_utf8, Prod.mk.injEq] at hEntry
      exact ⟨name, hName, hEntry⟩
    · cases hEmpty
  · rintro ⟨name, hName, rfl, rfl⟩
    refine .inl ⟨Rust.utf8 name,
      (hPaths.mem _).mpr ⟨name, hName, rfl⟩, ?_⟩
    unfold entryOf
    rw [nameText_utf8]

/- The views of a load that succeeded come from the loop. -/
theorem loadFrom_ok_views
    {entries : List (Except IoErrorKind OsString)}
    {names : List OsString}
    {store : PreparedContentStore}
    (hListing :
      files.readDir (path.join (Rust.utf8 "views")) =
        .ok entries)
    (hNames : jsonNames entries = .ok names)
    (hLoad : loadFrom json path files now = .ok store) :
    (loadViews json ⟨path⟩ (names.insertionSort (· ≤ ·)) ∅
        ∅).run.answerWith (files.reply now) =
      .ok store.viewsByRequestTarget := by
  have hFiles :
      (jsonFiles
          (path.join (Rust.utf8 "views"))).run.answerWith
          (files.reply now) =
        .ok names := by
    simp [jsonFiles, hListing, hNames]
  unfold loadFrom loadFromDir at hLoad
  simp only [Fallible.answerWith_run_bind,
    Rust.bind_eq_ok_iff, hFiles] at hLoad
  rcases hLoad with ⟨_, -, _, -, _, -, _, -, _, -, _, -, _, -,
    _, -, _, hSame, views, hViews, _, -, hStore⟩
  cases hSame
  cases hStore
  exact hViews

/- A file is accepted as one view only. -/
theorem DirectoryContent.IsView.unique
    {name target target' : String}
    {view view' : View}
    (hFirst : directory.IsView json name target view)
    (hSecond : directory.IsView json name target' view') :
    target = target' ∧ view = view' := by
  rcases hFirst.parsed with ⟨value, hValue, -, hTyped⟩
  rcases hSecond.parsed with ⟨value', hValue', -, hTyped'⟩
  cases hValue.symm.trans hValue'
  cases hTyped.symm.trans hTyped'
  exact ⟨Except.ok.inj (hFirst.target.symm.trans
    hSecond.target), rfl⟩

theorem exists_viewChoice
    (hViews : ∀ name ∈ directory.viewNames,
      ∃ target view, directory.IsView json name target view) :
    ∃ targetOf viewOf,
      ViewChoice json directory targetOf viewOf := by
  have hNonempty : Nonempty View := ⟨⟨"", "", [], ⟨""⟩⟩⟩
  choose! targetOf viewOf hIsView using hViews
  exact ⟨targetOf, viewOf, ⟨hIsView⟩⟩

/- Two files share a target exactly if their entries do. -/
theorem ViewChoice.injOn_iff
    (hChoice : ViewChoice json directory targetOf viewOf) :
    Set.InjOn targetOf directory.viewNames ↔
      ∀ name ∈ directory.viewNames,
        ∀ other ∈ directory.viewNames, ∀ target view view',
          directory.IsView json name target view →
            directory.IsView json other target view' →
              name = other := by
  constructor
  · intro hInjective name hName other hOther target view
      view' hView hView'
    apply hInjective hName hOther
    rw [((hChoice.isView name hName).unique hView).1,
      ((hChoice.isView other hOther).unique hView').1]
  · intro hDistinct name hName other hOther hSame
    exact hDistinct name hName other hOther _ _ _
      (hChoice.isView name hName)
      (hSame ▸ hChoice.isView other hOther)

variable {store : PreparedContentStore}

/- Every view file of a loaded directory is accepted. -/
theorem isView_of_load
    (hHeld : directory.HeldBy path files)
    (hLoad : loadFrom json path files now = .ok store) :
    ∀ name ∈ directory.viewNames,
      ∃ target view,
        directory.IsView json name target view := by
  intro name hName
  rcases hHeld.loopPaths with
    ⟨entries, names, hListing, hNames, hPaths⟩
  rcases answerWith_loadViews_accepts
      (loadFrom_ok_views hListing hNames hLoad)
      (Rust.utf8 name)
      ((hPaths.mem _).mpr ⟨name, hName, rfl⟩) with
    ⟨⟨target, stored⟩, hEntry⟩
  rcases (answerWith_loadView_ok_iff
      (hHeld.views name hName) _ _).mp hEntry with
    ⟨hBytes, hAccepted⟩
  refine ⟨target, stored.view, ?_⟩
  rw [← viewAccepted_iff, ← hBytes]
  exact hAccepted

/- The artifacts of a loaded store are those held. -/
theorem DirectoryContent.HeldBy.artifacts
    (hHeld : directory.HeldBy path files)
    (hLoad : loadFrom json path files now = .ok store) :
    store.manifest.bytes = directory.manifest ∧
      store.viewIndex.bytes = directory.viewIndex := by
  have hFrom := loadFrom_comesFrom _ _ _ _ _ hLoad
  exact ⟨Except.ok.inj (hFrom.manifest.symm.trans
      hHeld.manifest),
    Except.ok.inj (hFrom.viewIndex.symm.trans
      hHeld.viewIndex)⟩

/- What a load accepts is a valid directory. -/
theorem validDirectory_of_load
    (hHeld : directory.HeldBy path files)
    (hLoad : loadFrom json path files now = .ok store) :
    ValidDirectory json now directory := by
  have hAccepted := loadFrom_ok _ _ _ _ _ hLoad
  rcases hHeld.artifacts hLoad with ⟨hManifest, hIndex⟩
  have hViews := isView_of_load hHeld hLoad
  rcases exists_viewChoice hViews with
    ⟨targetOf, viewOf, hChoice⟩
  rcases hHeld.loopPaths with
    ⟨entries, names, hListing, hNames, hPaths⟩
  have hLoop :=
    (loadViews_directory_ok_iff hHeld hPaths hChoice _).mp
      (loadFrom_ok_views hListing hNames hLoad)
  refine ⟨?_, ?_, hViews, hChoice.injOn_iff.mp hLoop.1⟩
  · rcases hAccepted.manifestParsed with
      ⟨value, hValue, hFields, hTyped⟩
    rw [hManifest] at hValue
    exact ⟨value, _, hValue,
      (validateRequiredFields_ok_iff _ _ _).mp hFields,
      hTyped, hAccepted.live⟩
  · have hParsed := hAccepted.indexParsed
    rw [hIndex] at hParsed
    exact Option.isSome_iff_exists.mp hParsed

/- A valid directory is loaded. -/
theorem loads_of_validDirectory
    (hHeld : directory.HeldBy path files)
    (hValid : ValidDirectory json now directory) :
    ∃ store, loadFrom json path files now = .ok store := by
  rcases hValid.manifest with
    ⟨value, manifest, hValue, hFields, hTyped, hLive⟩
  rcases exists_viewChoice hValid.views with
    ⟨targetOf, viewOf, hChoice⟩
  rcases hHeld.loopPaths with
    ⟨entries, names, hListing, hNames, hPaths⟩
  rcases hLive.window with
    ⟨_, expiresAt, _, hExpires, _, _, _⟩
  have hLoop :
      (loadViews json ⟨path⟩ (names.insertionSort (· ≤ ·))
          ∅ ∅).run.answerWith (files.reply now) =
        .ok (insertEntries
          ((names.insertionSort (· ≤ ·)).map
            (entryOf directory targetOf viewOf))
          ∅) :=
    (loadViews_directory_ok_iff hHeld hPaths hChoice _).mpr
      ⟨hChoice.injOn_iff.mpr hValid.distinct, rfl⟩
  exact ⟨_, loadFrom_eq_ok
    { read := hHeld.manifest
      parsed :=
        ⟨value, hValue,
          (validateRequiredFields_ok_iff _ _ _).mpr hFields,
          hTyped⟩
      live := hLive
      expiry := hExpires }
    hHeld.viewIndex
    (Option.isSome_iff_exists.mpr hValid.viewIndex)
    hListing hNames hLoop⟩

/- A loaded store holds exactly the directory. -/
theorem loadedExactly_of_load
    (hHeld : directory.HeldBy path files)
    (hLoad : loadFrom json path files now = .ok store) :
    LoadedExactly json directory store := by
  rcases hHeld.artifacts hLoad with ⟨hManifest, hIndex⟩
  rcases exists_viewChoice (isView_of_load hHeld hLoad) with
    ⟨targetOf, viewOf, hChoice⟩
  rcases hHeld.loopPaths with
    ⟨entries, names, hListing, hNames, hPaths⟩
  rcases (loadViews_directory_ok_iff hHeld hPaths hChoice
      _).mp (loadFrom_ok_views hListing hNames hLoad) with
    ⟨hInjective, hMap⟩
  have hLookup : ∀ target view,
      store.viewForRequestTarget target = some view ↔
        ∃ name ∈ directory.viewNames,
          targetOf name = target ∧
            ⟨directory.content name, viewOf name⟩ = view := by
    intro target view
    unfold PreparedContentStore.viewForRequestTarget
    rw [hMap]
    exact lookup_directory hPaths hInjective target view
  have hStored : ∀ name ∈ directory.viewNames,
      store.viewForRequestTarget (targetOf name) =
        some ⟨directory.content name, viewOf name⟩ :=
    fun name hName =>
      (hLookup _ _).mpr ⟨name, hName, rfl, rfl⟩
  refine ⟨hManifest, hIndex, targetOf,
    ⟨?_, hInjective, ?_⟩, ?_⟩
  · intro name hName
    apply AList.lookup_isSome.mp
    exact Option.isSome_iff_exists.mpr
      ⟨_, hStored name hName⟩
  · intro target hTarget
    rcases Option.isSome_iff_exists.mp
        (AList.lookup_isSome.mpr hTarget) with
      ⟨view, hView⟩
    rcases (hLookup target view).mp hView with
      ⟨name, hName, hSame, -⟩
    exact ⟨name, hName, hSame⟩
  · intro name hName
    exact ⟨_, hStored name hName, hChoice.isView name hName⟩

/-
  A load of a stable directory returns a store exactly when
  the directory is valid at the clock value, and the store
  then holds exactly the directory.
-/
theorem loadFrom_complete
    (hHeld : directory.HeldBy path files) :
    ((∃ store, loadFrom json path files now = .ok store) ↔
        ValidDirectory json now directory) ∧
      ∀ store, loadFrom json path files now = .ok store →
        LoadedExactly json directory store := by
  refine ⟨⟨?_, loads_of_validDirectory hHeld⟩, ?_⟩
  · rintro ⟨store, hLoad⟩
    exact validDirectory_of_load hHeld hLoad
  · intro store hLoad
    exact loadedExactly_of_load hHeld hLoad

/- Two views, and a file that is not JSON. -/
def sampleFolder : DirectoryContent where
  manifest := (sampleManifest "/views").bytes
  viewIndex := sampleIndex.bytes
  names := {"readme.txt", "views.json", "page.json"}
  content := fun name =>
    if name = "page.json" then
      (sampleView "/page" "Old").bytes
    else
      (sampleView "/views" "Views").bytes

/- The text of the other file does not matter. -/
def sampleFolderFiles : FileSystem :=
  directoryFiles sampleDir (sampleManifest "/views")
    sampleIndex
    [("readme.txt", .null),
      ("views.json", sampleView "/views" "Views"),
      ("page.json", sampleView "/page" "Old")]

theorem sampleFolder_viewNames
    {name : String}
    (hName : name ∈ sampleFolder.viewNames) :
    name = "page.json" ∨ name = "views.json" := by
  rcases hName with ⟨hListed, hJson⟩
  have hNames :
      name = "readme.txt" ∨
        name = "views.json" ∨ name = "page.json" := by
    simpa [sampleFolder] using hListed
  rcases hNames with rfl | hViews | hPage
  · rw [← extension_json_iff] at hJson
    exact absurd hJson (by decide)
  · exact .inr hViews
  · exact .inl hPage

theorem sampleFolder_heldBy :
    sampleFolder.HeldBy sampleDir sampleFolderFiles where
  manifest := by decide +kernel
  viewIndex := by decide
  listing :=
    ⟨["readme.txt", "views.json", "page.json"],
      by decide, rfl, by decide +kernel⟩
  views := by
    intro name hName
    rcases sampleFolder_viewNames hName with rfl | rfl
    · decide +kernel
    · decide

/- A view of the sample is accepted under its own URL. -/
theorem sampleFolder_isView
    {name url heading : String}
    (hContent :
      sampleFolder.content name =
        (sampleView url heading).bytes)
    (hKnown : sampleView url heading ∈ sampleDocuments)
    (hUrl : requestTargetFromViewUrl url = .ok url) :
    sampleFolder.IsView sampleJson name url
      (sampleViewTyped url heading) where
  parsed := by
    refine ⟨sampleView url heading, ?_, ?_,
      (pageOf "/views" url heading).view_typed⟩
    · rw [hContent]
      exact fromSlice_ofDocuments _ _ hKnown
        sampleDocuments_distinct
    · rw [← validateRequiredFields_ok_iff _
        .viewFieldMissing]
      exact (pageOf "/views" url heading).view_fields
  target := hUrl

theorem sampleFolder_page :
    sampleFolder.IsView sampleJson "page.json" "/page"
      (sampleViewTyped "/page" "Old") :=
  sampleFolder_isView rfl (by simp [sampleDocuments])
    (by decide +kernel)

theorem sampleFolder_views :
    sampleFolder.IsView sampleJson "views.json" "/views"
      (sampleViewTyped "/views" "Views") :=
  sampleFolder_isView rfl (by simp [sampleDocuments])
    (by decide)

theorem sampleFolder_valid :
    ValidDirectory sampleJson sampleNow sampleFolder where
  manifest := by
    have hKnown :
        (pageOf "/views" "/page" "Old").Known
          sampleDocuments :=
      sample_known (by simp [sampleDocuments])
        (by simp [sampleDocuments])
    have hLoadable :=
      Page.manifest_loadable hKnown sampleNow (by decide)
    rcases hLoadable.parsed with
      ⟨value, hValue, hFields, hTyped⟩
    exact ⟨value, _, hValue,
      (validateRequiredFields_ok_iff _ _ _).mp hFields,
      hTyped, hLoadable.live⟩
  viewIndex :=
    ⟨sampleIndex,
      fromSlice_ofDocuments _ _ (by simp [sampleDocuments])
        sampleDocuments_distinct⟩
  views := by
    intro name hName
    rcases sampleFolder_viewNames hName with rfl | rfl
    · exact ⟨_, _, sampleFolder_page⟩
    · exact ⟨_, _, sampleFolder_views⟩
  distinct := by
    intro name hName other hOther target view view' hView
      hView'
    rcases sampleFolder_viewNames hName with rfl | rfl
    · rcases sampleFolder_viewNames hOther with rfl | rfl
      · rfl
      · have hFirst := (hView.unique sampleFolder_page).1
        have hSecond := (hView'.unique sampleFolder_views).1
        exact absurd (hFirst.symm.trans hSecond) (by decide)
    · rcases sampleFolder_viewNames hOther with rfl | rfl
      · have hFirst := (hView.unique sampleFolder_views).1
        have hSecond := (hView'.unique sampleFolder_page).1
        exact absurd (hFirst.symm.trans hSecond) (by decide)
      · rfl

/- The sample is loaded, with both of its views. -/
theorem loadFrom_complete_samplePage :
    ∃ store,
      loadFrom sampleJson sampleDir sampleFolderFiles
          sampleNow =
        .ok store ∧
        LoadedExactly sampleJson sampleFolder store := by
  have hComplete :=
    @loadFrom_complete sampleJson _ _ sampleNow _
      sampleFolder_heldBy
  rcases hComplete.1.mpr sampleFolder_valid with
    ⟨store, hLoad⟩
  exact ⟨store, hLoad, hComplete.2 store hLoad⟩

end Store

end AjarGateway
