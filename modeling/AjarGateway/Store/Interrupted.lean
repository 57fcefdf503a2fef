import AjarGateway.Store.ListingOrder

/-
  Loads whose directory changes between two reads.

  Every read of a load sees the files of its own moment.  A
  load makes no call twice, as a directory lists no name
  twice, so there always are files that answer all calls as
  they were answered: the load returns what it would return
  from these files, had nothing changed.

  Key definitions include:
    * `Store.IsListing`
    * `Store.Credible`
    * `Store.Unread`

  Key theorems include:
    * `Store.meets_loadFromDir`
    * `Store.loaded_as_if`
-/

------------------------------------------------------------
-- The Paths That A Load Reads
------------------------------------------------------------

namespace AjarGateway

namespace Store

open Interleaving

namespace Path

/- A path is cut in one way at its last separator. -/
theorem append_separator_inj
    {first first' last last' : Path}
    (hLast : separator ∉ last)
    (hLast' : separator ∉ last')
    (hEq :
      first ++ separator :: last =
        first' ++ separator :: last') :
    first = first' ∧ last = last' := by
  rcases List.append_eq_append_iff.mp hEq with
    ⟨middle, rfl, hMiddle⟩ | ⟨middle, rfl, hMiddle⟩
  · cases middle with
    | nil =>
        rw [List.nil_append, List.cons.injEq] at hMiddle
        exact ⟨(List.append_nil _).symm, hMiddle.2⟩
    | cons byte rest =>
        rw [List.cons_append, List.cons.injEq] at hMiddle
        exact absurd (by simp [hMiddle.2]) hLast
  · cases middle with
    | nil =>
        rw [List.nil_append, List.cons.injEq] at hMiddle
        exact ⟨List.append_nil _, hMiddle.2.symm⟩
    | cons byte rest =>
        rw [List.cons_append, List.cons.injEq] at hMiddle
        exact absurd (by simp [hMiddle.2]) hLast'

theorem getLast?_join
    (base : Path)
    {child : Path}
    (hChild : child ≠ []) :
    (base.join child).getLast? = child.getLast? := by
  unfold join
  split
  · rfl
  · split
    · rw [List.getLast?_append_of_ne_nil _ hChild]
    · rw [List.getLast?_append_cons,
        List.getLast?_cons_of_ne_nil hChild]

/- A plain name is put behind a separator. -/
theorem join_plain
    {base child : Path}
    (hBase : base ≠ [])
    (hOpen : base.getLast? ≠ some separator)
    (hChild : separator ∉ child) :
    base.join child = base ++ separator :: child := by
  have hRelative : child.head? ≠ some separator := by
    intro hHead
    exact hChild (List.mem_of_mem_head? hHead)
  rw [join, if_neg hRelative, if_neg (by simp [hBase, hOpen])]

end Path

/- Where a key leads to, in a directory of the backend. -/
theorem pathFor_plain
    (path : Path)
    {dir name : String}
    (hDir : Rust.utf8 dir ≠ [])
    (hOpen :
      (Rust.utf8 dir).getLast? ≠ some Path.separator)
    (hName : Path.separator ∉ Rust.utf8 name) :
    (⟨path⟩ : FilesystemStorageBackend).pathFor
        ⟨dir, name⟩ =
      path.join (Rust.utf8 dir) ++
        Path.separator :: Rust.utf8 name := by
  have hLast := Path.getLast?_join path hDir
  apply Path.join_plain _ _ hName
  · intro hEmpty
    rw [hEmpty, List.getLast?_nil, eq_comm,
      List.getLast?_eq_none_iff] at hLast
    exact hDir hLast
  · rwa [hLast]

/- The manifest and the index are in the directory itself. -/
theorem topPath_eq
    (path : Path)
    {name : String}
    (hName : Path.separator ∉ Rust.utf8 name) :
    (⟨path⟩ : FilesystemStorageBackend).pathFor
        ⟨".", name⟩ =
      path.join (Rust.utf8 ".") ++
        Path.separator :: Rust.utf8 name :=
  pathFor_plain path (by decide) (by decide) hName

theorem viewPath_eq
    (path : Path)
    {key : String}
    (hKey : Path.separator ∉ Rust.utf8 key) :
    (⟨path⟩ : FilesystemStorageBackend).pathFor
        (viewKey key) =
      path.join (Rust.utf8 "views") ++
        Path.separator :: Rust.utf8 key :=
  pathFor_plain path (by decide) (by decide) hKey

theorem viewPath_injective
    (path : Path)
    {key key' : String}
    (hKey : Path.separator ∉ Rust.utf8 key)
    (hKey' : Path.separator ∉ Rust.utf8 key')
    (hEq :
      (⟨path⟩ : FilesystemStorageBackend).pathFor
          (viewKey key) =
        (⟨path⟩ : FilesystemStorageBackend).pathFor
          (viewKey key')) :
    key = key' := by
  rw [viewPath_eq path hKey, viewPath_eq path hKey'] at hEq
  have hLast :=
    (Path.append_separator_inj hKey hKey' hEq).2
  exact Rust.utf8_injective hLast

/- No view file is the manifest or the view index. -/
theorem topPath_ne_viewPath
    (path : Path)
    {name key : String}
    (hName : Path.separator ∉ Rust.utf8 name)
    (hKey : Path.separator ∉ Rust.utf8 key) :
    (⟨path⟩ : FilesystemStorageBackend).pathFor
        ⟨".", name⟩ ≠
      (⟨path⟩ : FilesystemStorageBackend).pathFor
        (viewKey key) := by
  intro hEq
  rw [topPath_eq path hName, viewPath_eq path hKey] at hEq
  have hDirs :=
    (Path.append_separator_inj hName hKey hEq).1
  have hLast :
      (Rust.utf8 ".").getLast? =
        (Rust.utf8 "views").getLast? := by
    rw [← Path.getLast?_join path (by decide), hDirs,
      Path.getLast?_join path (by decide)]
  exact absurd hLast (by decide)

theorem manifestPath_ne_indexPath (path : Path) :
    (⟨path⟩ : FilesystemStorageBackend).pathFor
        manifestKey ≠
      (⟨path⟩ : FilesystemStorageBackend).pathFor
        viewIndexKey := by
  intro hEq
  rw [manifestKey, viewIndexKey,
    topPath_eq path (by decide),
    topPath_eq path (by decide)] at hEq
  have hLast :=
    (Path.append_separator_inj (by decide) (by decide)
      hEq).2
  exact absurd hLast (by decide)

end Store

end AjarGateway

------------------------------------------------------------
-- What A Load May Find
------------------------------------------------------------

namespace AjarGateway

namespace Store

open Interleaving

/-
  What a directory can list: no name twice, and no name with
  a separator in it.
-/
structure IsListing
    (entries : List (Except IoErrorKind OsString)) :
    Prop where
  distinct : (listedNames entries).Nodup
  plain : ∀ name ∈ listedNames entries,
    Path.separator ∉ name

/- The calls that a host can have answered. -/
def Credible : Call hostSignature → Prop
| ⟨.readFile _, _⟩ => True
| ⟨.readDir _, .ok entries⟩ => IsListing entries
| ⟨.readDir _, .error _⟩ => True
| ⟨.nowUnixSeconds, now⟩ => InClockRange now

/- The view file of a name. -/
def viewOp (path : Path) (key : String) : HostOp :=
  .readFile
    ((⟨path⟩ : FilesystemStorageBackend).pathFor
      (viewKey key))

/-
  The names of view files that have not been read: they are
  different, and the file of each is one that no call so far
  has read.
-/
structure Unread
    (path : Path)
    (past : List (Call hostSignature))
    (names : List OsString) : Prop where
  distinct : names.Nodup
  plain : ∀ name ∈ names, Path.separator ∉ name
  unread : ∀ name ∈ names, ∀ key,
    Rust.fromUtf8 name = some key →
      viewOp path key ∉ past.map Call.op

/- The other view files are still unread after one. -/
theorem Unread.tail
    {path : Path} {past : List (Call hostSignature)}
    {name : OsString} {names : List OsString}
    {key : String} {reply : Except IoErrorKind (List UInt8)}
    (hUnread : Unread path past (name :: names))
    (hKey : Rust.fromUtf8 name = some key) :
    Unread path (past ++ [⟨viewOp path key, reply⟩])
      names := by
  have hDistinct := List.nodup_cons.mp hUnread.distinct
  have hPlain := List.forall_mem_cons.mp hUnread.plain
  refine ⟨hDistinct.2, hPlain.2, ?_⟩
  intro other hOther key' hKey' hRead
  rw [List.map_append, List.mem_append] at hRead
  rcases hRead with hEarlier | hLast
  · exact hUnread.unread other
      (List.mem_cons_of_mem _ hOther) key' hKey' hEarlier
  · rw [List.map_singleton, List.mem_singleton] at hLast
    have hName := (Rust.fromUtf8_eq_some_iff _ _).mp hKey
    have hName' := (Rust.fromUtf8_eq_some_iff _ _).mp hKey'
    have hEq : key' = key := by
      apply viewPath_injective path
      · rw [← hName']
        exact hPlain.2 other hOther
      · rw [← hName]
        exact hPlain.1
      · exact HostOp.readFile.inj hLast
    rw [hEq, ← hName] at hName'
    exact hDistinct.1 (hName' ▸ hOther)

/- Reading an artifact is one call, whatever it returns. -/
theorem meets_readArtifact
    {guard : List (Call hostSignature) → HostOp → Prop}
    {post :
      List (Call hostSignature) →
        Except StoreLoadError (List UInt8) → Prop}
    {past : List (Call hostSignature)}
    {path : Path} {key : StoreKey}
    (hGuard :
      guard past
        (.readFile
          ((⟨path⟩ : FilesystemStorageBackend).pathFor
            key)))
    (hPost : ∀ reply result,
      post
        (past ++
          [⟨.readFile
              ((⟨path⟩ : FilesystemStorageBackend).pathFor
                key),
            reply⟩])
        result) :
    (readArtifact ⟨path⟩ key).run.Meets guard post past := by
  refine ⟨hGuard, fun reply => ?_⟩
  rcases reply with (_ | _) | bytes
  · exact hPost _ _
  · exact hPost _ _
  · exact hPost _ _

/- A view file is read once, if it is read. -/
theorem meets_loadView
    {guard : List (Call hostSignature) → HostOp → Prop}
    {post :
      List (Call hostSignature) →
        Except StoreLoadError (String × StoredView) → Prop}
    {past : List (Call hostSignature)}
    (json : SerdeJson)
    {path : Path} {viewPath : OsString}
    (hFailed : ∀ failure, post past (.error failure))
    (hGuard : ∀ key,
      Rust.fromUtf8 viewPath = some key →
        guard past (viewOp path key))
    (hPost : ∀ key,
      Rust.fromUtf8 viewPath = some key →
        ∀ reply result,
          post (past ++ [⟨viewOp path key, reply⟩])
            result) :
    (loadView json ⟨path⟩ viewPath).run.Meets guard post
      past := by
  apply Fallible.meets_ofOption_bind hFailed
  intro key hKey
  rw [Fallible.meets_run_bind_iff]
  apply meets_readArtifact (hGuard key hKey)
  rintro reply (failure | bytes)
  · exact hPost key hKey _ _
  have hResult := hPost key hKey reply
  apply Fallible.meets_ofOption_bind
    (fun _ => hResult _)
  intro viewJson _
  apply Fallible.meets_ofExcept_bind
    (fun _ => hResult _)
  intro _ _
  apply Fallible.meets_ofOption_bind
    (fun _ => hResult _)
  intro view _
  apply Fallible.meets_ofExcept_bind
    (fun _ => hResult _)
  intro requestTarget _
  exact hResult _

/- The loop over view files reads each of them once. -/
theorem meets_loadViews
    (json : SerdeJson)
    {path : Path}
    {past : List (Call hostSignature)}
    (names : List OsString)
    (seenUrls : Finset String)
    (views : AList (fun _ : String => StoredView))
    (hUnread :
      (∀ call ∈ past, Credible call) →
        Unread path past names) :
    (loadViews json ⟨path⟩ names seenUrls views).run.Meets
      (NotCalled Credible) (fun _ _ => True) past := by
  induction names generalizing past seenUrls views with
  | nil => trivial
  | cons viewPath rest ih =>
      rw [loadViews, Fallible.meets_run_bind_iff]
      apply meets_loadView json (fun _ => trivial)
      · intro key hKey hCredible
        exact (hUnread hCredible).unread viewPath
          List.mem_cons_self key hKey
      · rintro key hKey reply (failure | ⟨target, view⟩)
        · trivial
        · simp only
          split
          · trivial
          · apply ih
            intro hCredible
            rw [List.forall_mem_append] at hCredible
            exact (hUnread hCredible.1).tail hKey

/- The files of a new listing have not been read. -/
theorem unread_of_listing
    {path : Path} {past : List (Call hostSignature)}
    {entries : List (Except IoErrorKind OsString)}
    {names : List OsString}
    (hListing : IsListing entries)
    (hNames : jsonNames entries = .ok names)
    (hPast :
      past.map Call.op =
        [.readFile
            ((⟨path⟩ : FilesystemStorageBackend).pathFor
              manifestKey),
          .nowUnixSeconds,
          .readFile
            ((⟨path⟩ : FilesystemStorageBackend).pathFor
              viewIndexKey),
          .readDir (path.join (Rust.utf8 "views"))]) :
    Unread path past (names.insertionSort (· ≤ ·)) := by
  have hKept :
      names = (listedNames entries).filter isJsonName := by
    rw [jsonNames_eq] at hNames
    split at hNames
    · cases hNames
    · exact (Except.ok.inj hNames).symm
  have hPlain : ∀ name ∈ names.insertionSort (· ≤ ·),
      Path.separator ∉ name := by
    intro name hName
    rw [List.mem_insertionSort, hKept] at hName
    exact hListing.plain name (List.mem_of_mem_filter hName)
  refine ⟨?_, hPlain, ?_⟩
  · rw [(List.perm_insertionSort _ names).nodup_iff, hKept]
    exact hListing.distinct.filter _
  · intro name hName key hKey hRead
    have hPlainKey : Path.separator ∉ Rust.utf8 key := by
      rw [← (Rust.fromUtf8_eq_some_iff _ _).mp hKey]
      exact hPlain name hName
    rw [hPast] at hRead
    simp only [viewOp, List.mem_cons, HostOp.readFile.injEq,
      reduceCtorEq, List.not_mem_nil, or_false, false_or]
      at hRead
    rcases hRead with hManifest | hIndex
    · exact topPath_ne_viewPath path (by decide) hPlainKey
        hManifest.symm
    · exact topPath_ne_viewPath path (by decide) hPlainKey
        hIndex.symm

/- Listing the view files is one call. -/
theorem meets_jsonFiles
    {guard : List (Call hostSignature) → HostOp → Prop}
    {post :
      List (Call hostSignature) →
        Except StoreLoadError (List OsString) → Prop}
    {past : List (Call hostSignature)}
    {path : Path}
    (hGuard : guard past (.readDir path))
    (hFailed : ∀ reply failure,
      post (past ++ [⟨.readDir path, reply⟩])
        (.error failure))
    (hListed : ∀ entries names,
      jsonNames entries = .ok names →
        post (past ++ [⟨.readDir path, .ok entries⟩])
          (.ok names)) :
    (jsonFiles path).run.Meets guard post past := by
  refine ⟨hGuard, fun reply => ?_⟩
  rcases reply with kind | entries
  · exact hFailed _ _
  · change (Fallible.ofExcept (jsonNames entries)).run.Meets
      guard post (past ++ [⟨.readDir path, .ok entries⟩])
    rw [Fallible.run_ofExcept]
    cases hNames : jsonNames entries with
    | error failure => exact hFailed _ _
    | ok names => exact hListed entries names hNames

/- No load makes a call twice. -/
theorem meets_loadFromDir
    (json : SerdeJson)
    (path : Path) :
    (loadFromDir json path).run.Meets
      (NotCalled Credible) (fun _ _ => True) [] := by
  rw [loadFromDir, Fallible.meets_run_bind_iff]
  apply meets_readArtifact
  · intro _
    exact List.not_mem_nil
  rintro manifestReply (failure | manifestBytes)
  · trivial
  apply Fallible.meets_ofOption_bind (fun _ => trivial)
  intro manifestJson _
  apply Fallible.meets_ofExcept_bind (fun _ => trivial)
  intro _ _
  apply Fallible.meets_ofOption_bind (fun _ => trivial)
  intro manifest _
  refine ⟨fun _ => by simp, fun now => ?_⟩
  apply Fallible.meets_ofExcept_bind (fun _ => trivial)
  intro _ _
  rw [Fallible.meets_run_bind_iff]
  apply meets_readArtifact
  · intro _ hAgain
    simp only [List.map_append, List.map_cons, List.map_nil,
      List.nil_append, List.mem_append, List.mem_singleton,
      HostOp.readFile.injEq, reduceCtorEq, or_false]
      at hAgain
    exact manifestPath_ne_indexPath path hAgain.symm
  rintro indexReply (failure | indexBytes)
  · trivial
  apply Fallible.meets_ofOption_bind (fun _ => trivial)
  intro indexJson _
  rw [Fallible.meets_run_bind_iff]
  apply meets_jsonFiles
  · intro _
    simp
  · exact fun _ _ => trivial
  intro entries names hNames
  simp only
  rw [Fallible.meets_run_bind_iff]
  apply (meets_loadViews json _ _ _ ?_).mono
  · rintro _ (failure | views) _
    · trivial
    · exact Fallible.meets_ofExcept_bind
        (fun _ => trivial) (fun _ _ => trivial)
  · intro hCredible
    apply unread_of_listing _ hNames
    · simp
    · exact hCredible
        ⟨.readDir (path.join (Rust.utf8 "views")),
          .ok entries⟩
        (by simp)

/-
  A load returns what it would return from files that do not
  change and that answer its calls as these were answered.
-/
theorem loaded_as_if
    {json : SerdeJson} {path : Path}
    {calls : List (Call hostSignature)}
    {result : Except StoreLoadError PreparedContentStore}
    (hPerforms :
      Performs (loadFromDir json path).run calls
        (.ret result))
    (hCredible : ∀ call ∈ calls, Credible call) :
    ∃ found now,
      InClockRange now ∧
        (∀ call ∈ calls,
          call.reply = found.reply now call.op) ∧
          loadFrom json path found now = result := by
  have hNodup :=
    hPerforms.nodup_of_notCalled
      (meets_loadFromDir json path) hCredible
  have hNothing : InClockRange 0 := ⟨by decide, by decide⟩
  rcases exists_reply_of_nodup
      ((⟨fun _ => .error .notFound,
        fun _ => .error .notFound⟩ : FileSystem).reply 0)
      calls hNodup with
    ⟨reply, hReplies, hOthers⟩
  let found : FileSystem :=
    ⟨fun file => reply (.readFile file),
      fun dir => reply (.readDir dir)⟩
  have hFound :
      found.reply (reply .nowUnixSeconds) = reply := by
    funext op
    cases op <;> rfl
  refine ⟨found, reply .nowUnixSeconds, ?_, ?_, ?_⟩
  · by_cases hClock :
        .nowUnixSeconds ∈ calls.map Call.op
    · rcases List.mem_map.mp hClock with ⟨call, hCall, hOp⟩
      have hReply := hReplies call hCall
      have hRange := hCredible call hCall
      rcases call with ⟨op, given⟩
      cases hOp
      change given = reply .nowUnixSeconds at hReply
      rw [← hReply]
      exact hRange
    · rw [hOthers _ hClock]
      exact hNothing
  · rw [hFound]
    exact hReplies
  · rw [loadFrom, hFound]
    exact hPerforms.answerWith_eq reply hReplies

end Store

end AjarGateway
