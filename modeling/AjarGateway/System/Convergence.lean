import AjarGateway.Store.Complete
import AjarGateway.System.Linearizability
import AjarGateway.System.Publish

/-
  Reloads after the last publish.

  Files determine the store that is loaded from them,
  whenever they are loaded.  So once the store directory no
  longer changes and no earlier reload is under way, every
  reload that succeeds installs the same store, and that
  store stays.

  Key definitions include:
    * `System.NoLoadUnderWay`

  Key theorems include:
    * `Store.loadFrom_unique`
    * `System.installed_of_assigned`
    * `System.reload_converges`
-/

------------------------------------------------------------
-- Loads Of The Same Files
------------------------------------------------------------

namespace AjarGateway

namespace Store

open Interleaving

variable {json : SerdeJson} {path : Path}
variable {files : FileSystem} {now now' : Int}

/- The loop over the view files does not read the clock. -/
theorem answerWith_loadViews_clock
    (now' : Int)
    {viewPaths : List OsString}
    {seenUrls : Finset String}
    {views result : AList (fun _ : String => StoredView)}
    (hResult :
      (loadViews json ⟨path⟩ viewPaths seenUrls
          views).run.answerWith (files.reply now) =
        .ok result) :
    (loadViews json ⟨path⟩ viewPaths seenUrls
        views).run.answerWith (files.reply now') =
      .ok result := by
  have hPerforms :=
    performs_callsWith (files.reply now)
      (loadViews json ⟨path⟩ viewPaths seenUrls views).run
  rw [hResult] at hPerforms
  have hReads :=
    (performs_loadViews_ok _ _ _ _ _ _ _ hPerforms).1
  rw [← hResult]
  apply Program.answerWith_congr
  intro call hCall
  rcases hReads call hCall with
    ⟨_, _, key, bytes, _, rfl⟩
  rfl

/- What a load found in the listing of the views. -/
theorem loadFrom_ok_listing
    {store : PreparedContentStore}
    (hLoad : loadFrom json path files now = .ok store) :
    ∃ entries names,
      files.readDir (path.join (Rust.utf8 "views")) =
          .ok entries ∧
        jsonNames entries = .ok names := by
  rcases (loadFrom_ok_calls _ _ _ _ _ hLoad).order with
    ⟨_, entries, names, _, hCalls, _, hNames, _⟩
  have hListing :=
    Program.reply_of_mem_callsWith (files.reply now)
      (loadFromDir json path).run
      ⟨.readDir (path.join (Rust.utf8 "views")),
        .ok entries⟩
      (by simp [hCalls])
  exact ⟨entries, names, hListing.symm, hNames⟩

/- The files determine the store, whenever it is loaded. -/
theorem loadFrom_unique
    {first second : PreparedContentStore}
    (hFirst : loadFrom json path files now = .ok first)
    (hSecond : loadFrom json path files now' = .ok second) :
    first = second := by
  have hTyped :=
    loadFrom_manifest_unique _ _ _ _ _ _ _ hFirst hSecond
  have hAccepted := loadFrom_ok _ _ _ _ _ hFirst
  have hAccepted' := loadFrom_ok _ _ _ _ _ hSecond
  have hFrom := loadFrom_comesFrom _ _ _ _ _ hFirst
  have hFrom' := loadFrom_comesFrom _ _ _ _ _ hSecond
  have hBytes :
      first.manifest.bytes = second.manifest.bytes :=
    Except.ok.inj (hFrom.manifest.symm.trans hFrom'.manifest)
  have hIndex :
      first.viewIndex.bytes = second.viewIndex.bytes :=
    Except.ok.inj
      (hFrom.viewIndex.symm.trans hFrom'.viewIndex)
  have hExpires :
      first.manifest.expiresAtUnix =
        second.manifest.expiresAtUnix := by
    have hParsed := hAccepted.expiry
    rw [hTyped, hAccepted'.expiry] at hParsed
    exact (Except.ok.inj hParsed).symm
  rcases loadFrom_ok_listing hFirst with
    ⟨entries, names, hListing, hNames⟩
  have hViews :
      first.viewsByRequestTarget =
        second.viewsByRequestTarget := by
    have hLoop :=
      answerWith_loadViews_clock now'
        (loadFrom_ok_views hListing hNames hFirst)
    rw [loadFrom_ok_views hListing hNames hSecond] at hLoop
    exact (Except.ok.inj hLoop).symm
  have hManifest : first.manifest = second.manifest := by
    have hEtag := hAccepted.manifestEtag
    rw [hBytes, ← hAccepted'.manifestEtag] at hEtag
    have hPath := hAccepted.viewsIndex
    rw [hTyped, ← hAccepted'.viewsIndex] at hPath
    cases hOne : first.manifest
    cases hTwo : second.manifest
    rw [hOne, hTwo] at hBytes hEtag hPath hExpires hTyped
    simp only at hBytes hEtag hPath hExpires hTyped
    rw [hBytes, hEtag, hPath, hExpires, hTyped]
  have hViewIndex : first.viewIndex = second.viewIndex := by
    have hEtag := hAccepted.indexEtag
    rw [hIndex, ← hAccepted'.indexEtag] at hEtag
    cases hOne : first.viewIndex
    cases hTwo : second.viewIndex
    rw [hOne, hTwo] at hIndex hEtag
    simp only at hIndex hEtag
    rw [hIndex, hEtag]
  cases first
  cases second
  simp only at hManifest hViewIndex hViews
  rw [hManifest, hViewIndex, hViews]

end Store

end AjarGateway

------------------------------------------------------------
-- After The Last Publish
------------------------------------------------------------

namespace AjarGateway

namespace System

open Http Interleaving Serving Store

variable {lib : Externals} {state : ProxyState}
variable {config : GatewayConfig} {files : FileSystem}
variable {shared : SharedState}
variable {first second : List (Event (gateway lib state))}
variable {middle after : Config (gateway lib state)}

/- No handler that has loaded a store is still running. -/
def NoLoadUnderWay
    (first : List (Event (gateway lib state)))
    (middle : Config (gateway lib state)) : Prop :=
  ∀ thread path reply,
    .call thread ⟨.loadFromDir path, reply⟩ ∈ first →
      ∀ program, middle.threads thread ≠ .running program

/- A handler that runs after it was over has not loaded. -/
theorem NoLoadUnderWay.not_mem
    {thread : Nat} {path : Path}
    {reply : Except StoreLoadError PreparedContentStore}
    {program : GatewayProgram (Response Body)}
    (hUnderWay : NoLoadUnderWay first middle)
    (hFirst : Run (.initial shared) first middle)
    (hSecond : Run middle second after)
    (hRunning : after.threads thread = .running program) :
    .call thread ⟨.loadFromDir path, reply⟩ ∉ first := by
  intro hLoad
  have hEnded := hUnderWay thread path reply hLoad
  have hIdle : middle.threads thread ≠ .idle := by
    intro hIdle
    have hTraced := hFirst.traced thread
    rw [hIdle] at hTraced
    rcases hTraced with ⟨_, hCalls, _⟩
    rw [← mem_callsOf_iff, hCalls] at hLoad
    cases hLoad
  rw [hSecond.threads_of_ended hIdle hEnded] at hRunning
  exact hEnded program hRunning

/- The store that the present files are loaded as. -/
def LoadsTo
    (json : SerdeJson)
    (path : Path)
    (files : FileSystem)
    (store : PreparedContentStore) : Prop :=
  ∃ now,
    InClockRange now ∧
      loadFrom json path files now = .ok store

theorem LoadsTo.unique
    {json : SerdeJson} {path : Path}
    {store store' : PreparedContentStore}
    (hFirst : LoadsTo json path files store)
    (hSecond : LoadsTo json path files store') :
    store = store' := by
  rcases hFirst with ⟨now, _, hLoad⟩
  rcases hSecond with ⟨now', _, hLoad'⟩
  exact loadFrom_unique hLoad hLoad'

/- A load after the last publish is one of its files. -/
theorem loadsTo_of_no_change
    {thread : Nat} {path : Path}
    {store : PreparedContentStore}
    (hSecond : Run middle second after)
    (hNoChange : ∀ made, .change made ∉ second)
    (hLoad :
      .call thread ⟨.loadFromDir path, .ok store⟩ ∈
        second) :
    LoadsTo lib.json path middle.state.files store := by
  rcases List.append_of_mem hLoad with
    ⟨earlier, later, rfl⟩
  rcases hSecond.split_at with
    ⟨before, _, hEarlier, hStep, _⟩
  have hFiles :=
    files_of_no_change hEarlier fun made hMade =>
      hNoChange made (List.mem_append_left _ hMade)
  cases hStep with
  | call _ hExec =>
      rcases Exec.loadFromDir_reply hExec with
        ⟨_, now, hRange, hReply⟩
      rw [hFiles] at hReply
      exact ⟨now, hRange, hReply.symm⟩

/-
  Once a store was assigned after the last publish, the
  installed store is what its files are loaded as.
-/
theorem installed_of_assigned
    {path : Path}
    (hDir : state.config.storeDir = some path)
    (hFirst : Run (.initial shared) first middle)
    (hUnderWay : NoLoadUnderWay first middle)
    (hSecond : Run middle second after)
    (hNoChange : ∀ made, .change made ∉ second)
    (hAssigned :
      ∃ thread update,
        .call thread ⟨.writeStore update, .assigned⟩ ∈
          second) :
    ∃ store,
      LoadsTo lib.json path middle.state.files store ∧
        after.state.installed = some store := by
  induction hSecond with
  | nil =>
      rcases hAssigned with ⟨_, _, hNone⟩
      cases hNone
  | @snoc second before event after hSecond hStep ih =>
      have hKept : ∀ made, .change made ∉ second := by
        intro made hMade
        exact hNoChange made (List.mem_append_left _ hMade)
      by_cases hEvent :
          ∃ thread update,
            event = .call thread
              ⟨.writeStore update, .assigned⟩
      · rcases hEvent with ⟨thread, update, rfl⟩
        rcases step_assigned (hFirst.append hSecond) hStep
          with
          ⟨loadPath, _, loaded, _, hLoadDir, _, _,
            hInstalled, hLoad⟩
        rw [hDir] at hLoadDir
        cases hLoadDir
        have hNew :
            .call thread ⟨.loadFromDir path, .ok loaded⟩ ∈
              second := by
          rcases List.mem_append.mp hLoad with
            hOld | hNew
          · cases hStep with
            | call hRunning _ =>
                exact absurd hOld
                  (hUnderWay.not_mem hFirst hSecond
                    hRunning)
          · exact hNew
        exact ⟨loaded,
          loadsTo_of_no_change hSecond hKept hNew,
          hInstalled⟩
      · have hEarlier :
            ∃ thread update,
              .call thread
                  ⟨.writeStore update, .assigned⟩ ∈
                second := by
          rcases hAssigned with ⟨thread, update, hMem⟩
          rcases List.mem_append.mp hMem with hOld | hLast
          · exact ⟨thread, update, hOld⟩
          · rw [List.mem_singleton] at hLast
            exact absurd ⟨thread, update, hLast.symm⟩ hEvent
        rcases ih hKept hEarlier with
          ⟨store, hLoads, hInstalled⟩
        refine ⟨store, hLoads, ?_⟩
        rcases step_installed_cases hStep with
          hSame | hNewlyAssigned
        · exact hSame.trans hInstalled
        · exact absurd hNewlyAssigned hEvent

end System

end AjarGateway

------------------------------------------------------------
-- Reloads After The Last Publish
------------------------------------------------------------

namespace AjarGateway

namespace System

open Http Interleaving Serving Store

variable {lib : Externals} {state : ProxyState}
variable {config : GatewayConfig} {files : FileSystem}
variable {shared : SharedState}
variable {first second before last :
  List (Event (gateway lib state))}
variable {middle after : Config (gateway lib state)}

theorem installed_of_not_assigned
    (hSecond : Run middle second after)
    (hNone : ¬∃ thread update,
      .call thread ⟨.writeStore update, .assigned⟩ ∈
        second) :
    after.state.installed = middle.state.installed := by
  induction hSecond with
  | nil => rfl
  | snoc _ hStep ih =>
      have hBefore := ih fun ⟨thread, update, hMem⟩ =>
        hNone ⟨thread, update, List.mem_append_left _ hMem⟩
      rcases step_installed_cases hStep with
        hSame | ⟨thread, update, rfl⟩
      · exact hSame.trans hBefore
      · exact absurd ⟨thread, update, by simp⟩ hNone

/-
  What requests find that start once a store was assigned
  after the last publish: the store that its files are
  loaded as, unless the lock is poisoned.
-/
theorem found_of_assigned
    {path : Path} {store : PreparedContentStore}
    {thread : Nat} {request : Request Chunks}
    {snapshot : Option PreparedContentStore}
    (hDir : state.config.storeDir = some path)
    (hFirst : Run (.initial shared) first middle)
    (hUnderWay : NoLoadUnderWay first middle)
    (hSecond : Run middle (before ++ last) after)
    (hNoChange : ∀ made, .change made ∉ before ++ last)
    (hAssigned :
      ∃ writer update,
        .call writer ⟨.writeStore update, .assigned⟩ ∈
          before)
    (hLoads :
      LoadsTo lib.json path middle.state.files store)
    (hStart :
      .start thread (.publicRequest request) ∈ last)
    (hRead :
      .call thread ⟨.readStore, snapshot⟩ ∈
        first ++ (before ++ last)) :
    snapshot = some store ∨
      snapshot = none ∧ after.state.Poisoned := by
  have hRun := hFirst.append hSecond
  have hInLast :
      .call thread ⟨.readStore, snapshot⟩ ∈ last := by
    rw [← List.append_assoc] at hRun hRead
    have hNone := (hRun.start_before_call hStart).1
    rcases List.mem_append.mp hRead with hOld | hNew
    · rw [← mem_callsOf_iff, hNone] at hOld
      cases hOld
    · exact hNew
  rcases List.append_of_mem hInLast with
    ⟨earlier, later, rfl⟩
  rw [← List.append_assoc] at hSecond hNoChange
  rcases hSecond.split_at with
    ⟨atRead, _, hBefore, hStep, hLater⟩
  rcases hAssigned with ⟨writer, update, hWrite⟩
  rcases installed_of_assigned hDir hFirst hUnderWay hBefore
      (fun made hMade =>
        hNoChange made (List.mem_append_left _ hMade))
      ⟨writer, update, List.mem_append_left _ hWrite⟩ with
    ⟨found, hFound, hInstalled⟩
  rw [hFound.unique hLoads] at hInstalled
  have hAfter := Run.cons hStep hLater
  cases hStep with
  | call _ hExec =>
      rcases Exec.readStore_reply hExec with
        ⟨lock, hLock, hReply⟩
      split at hReply
      · rename_i hPoisoned
        right
        exact ⟨hReply,
          poisoned_later hAfter ⟨lock, hLock, hPoisoned⟩⟩
      · rw [SharedState.installed, hLock] at hInstalled
        cases hInstalled
        exact .inl hReply

/- The calls of an answered reload, by the way it ended. -/
theorem exit_of_answered
    {events : List (Event (gateway lib state))}
    {reloader : Nat} {answer : Response Body}
    (hRun :
      Run (.initial shared)
        (events ++ .answer reloader answer :: last) after)
    (hReload :
      .start reloader .reload ∈
        events ++ .answer reloader answer :: last) :
    ReloadExit state (callsOf reloader events) answer := by
  rw [List.append_cons] at hRun hReload
  rcases hRun.split with ⟨_, hInit, _⟩
  have hStart :
      .start reloader .reload ∈
        events ++ [.answer reloader answer] := by
    rcases List.mem_append.mp hReload with hOld | hNew
    · exact hOld
    · have hNone := (hRun.start_before_call hNew).2
      have hAnswered :
          answer ∈ answersOf reloader
            (events ++ [.answer reloader answer]) :=
        (mem_answersOf_iff _ _ _).mpr (by simp)
      rw [hNone] at hAnswered
      cases hAnswered
  rcases hInit.performs_of_answer
      (List.mem_append_right _ (List.mem_singleton_self _))
    with ⟨incoming, hStarts, hPerforms⟩
  have hOnce := (hInit.performs_of_start hStart).1
  rw [hStarts, List.singleton_inj] at hOnce
  subst hOnce
  have hCalls :
      callsOf reloader
          (events ++ [.answer reloader answer]) =
        callsOf reloader events := by
    simp [callsOf, Event.callOf]
  rw [hCalls] at hPerforms
  exact exit_of_performs hPerforms

/- A reload answered after the publish has loaded after it. -/
theorem calls_of_answered
    {reloader : Nat} {answer : Response Body} {path : Path}
    {reply : Except StoreLoadError PreparedContentStore}
    {rest : List (Call gatewaySignature)}
    (hFirst : Run (.initial shared) first middle)
    (hUnderWay : NoLoadUnderWay first middle)
    (hSecond :
      Run middle (before ++ .answer reloader answer :: last)
        after)
    (hCalls :
      callsOf reloader (first ++ before) =
        ⟨.loadFromDir path, reply⟩ :: rest) :
    callsOf reloader before =
      ⟨.loadFromDir path, reply⟩ :: rest := by
  rcases hSecond.split_at with
    ⟨atAnswer, _, hBefore, hStep, _⟩
  have hNotLoaded :
      .call reloader ⟨.loadFromDir path, reply⟩ ∉ first := by
    cases hStep with
    | answer hRunning =>
        exact hUnderWay.not_mem hFirst hBefore hRunning
  rw [callsOf, List.filterMap_append, ← callsOf,
    ← callsOf] at hCalls
  cases hEarlier : callsOf reloader first with
  | nil => rwa [hEarlier, List.nil_append] at hCalls
  | cons call calls =>
      rw [hEarlier, List.cons_append] at hCalls
      have hHead := (List.cons.inj hCalls).1
      have hMem : call ∈ callsOf reloader first := by
        rw [hEarlier]
        exact List.mem_cons_self
      rw [hHead, mem_callsOf_iff] at hMem
      exact absurd hMem hNotLoaded

/-
  After the last publish reloads converge.  When no handler
  that has loaded before is still running, a reload that is
  answered 200 reports the store that the present files are
  loaded as; this store is installed from then on, and every
  request that starts later is served from it, unless a
  panic has poisoned the lock.
-/
theorem reload_converges
    {reloader : Nat} {answer : Response Body}
    (hStarted : Started lib config files state shared)
    (hFirst : Run (.initial shared) first middle)
    (hUnderWay : NoLoadUnderWay first middle)
    (hSecond :
      Run middle (before ++ .answer reloader answer :: last)
        after)
    (hNoChange : ∀ made,
      .change made ∉
        before ++ .answer reloader answer :: last)
    (hReload :
      .start reloader .reload ∈
        first ++
          (before ++ .answer reloader answer :: last))
    (hStatus : answer.status = 200) :
    ∃ path store,
      state.config.storeDir = some path ∧
        LoadsTo lib.json path middle.state.files store ∧
        answer =
          reloadedResponse store.viewCount
            store.manifestSequence ∧
        after.state.installed = some store ∧
        ∀ thread request served,
          .start thread (.publicRequest request) ∈ last →
            .answer thread served ∈ last →
              ∃ env : Surroundings,
                served = respond lib state env request ∧
                  (env.snapshot = some store ∨
                    env.snapshot = none ∧
                      after.state.Poisoned) := by
  have hRun := hFirst.append hSecond
  have hParts := hRun
  rw [← List.append_assoc] at hParts hReload
  have hExit := exit_of_answered hParts hReload
  generalize hCalls :
    callsOf reloader (first ++ before) = calls at hExit
  cases hExit with
  | notConfigured => cases hStatus
  | notLoaded _ _ _ => cases hStatus
  | lowerSequence _ _ _ => cases hStatus
  | poisoned _ _ _ => cases hStatus
  | reloaded path loaded hDir =>
      have hBefore :=
        calls_of_answered hFirst hUnderWay hSecond hCalls
      have hLoad :
          .call reloader ⟨.loadFromDir path, .ok loaded⟩ ∈
            before := by
        rw [← mem_callsOf_iff, hBefore]
        simp
      have hWrite :
          .call reloader
              ⟨.writeStore (assignUnlessLower loaded),
                .assigned⟩ ∈ before := by
        rw [← mem_callsOf_iff, hBefore]
        simp
      have hLoads :
          LoadsTo lib.json path middle.state.files loaded :=
        loadsTo_of_no_change hSecond hNoChange
          (List.mem_append_left _ hLoad)
      rcases installed_of_assigned hDir hFirst hUnderWay
          hSecond hNoChange
          ⟨reloader, _, List.mem_append_left _ hWrite⟩ with
        ⟨store, hStore, hInstalled⟩
      rw [hStore.unique hLoads] at hInstalled
      refine ⟨path, loaded, hDir, hLoads, rfl, hInstalled,
        ?_⟩
      intro thread request served hStart hAnswer
      have hHasStore : state.hasStore = true := by
        rcases hStarted.store with
          ⟨hNone, _⟩ | ⟨_, _, _, _, hHas, _⟩
        · rw [hDir] at hNone
          cases hNone
        · exact hHas
      have hInRun : ∀ event ∈ last,
          event ∈
            first ++
              (before ++
                .answer reloader
                    (reloadedResponse loaded.viewCount
                      loaded.manifestSequence) ::
                  last) := by
        intro event hEvent
        simp [hEvent]
      rcases read_of_answered hHasStore hRun
          (hInRun _ hStart) (hInRun _ hAnswer) with
        ⟨env, hRespond, hRead⟩
      refine ⟨env, hRespond, ?_⟩
      exact found_of_assigned hDir hFirst hUnderWay hSecond
        hNoChange ⟨reloader, _, hWrite⟩ hLoads
        (List.mem_cons_of_mem _ hStart) hRead

/- The old page is served; then the new one is published. -/
def publishedEvents
    (flag : Bool) :
    List (Event (gateway sampleExt sampleState)) :=
  clientEvents flag ++ [.change (samplePageFiles "New")]

/- Two reloads load the new page, and one installs it. -/
def besideEvents :
    List (Event (gateway sampleExt sampleState)) :=
  (loadEvents sampleExt sampleState 3 sampleDir
      (samplePage "New") ++
    loadEvents sampleExt sampleState 4 sampleDir
      (samplePage "New")) ++
    (commitCalls (samplePage "New")).map (Event.call 3)

/- The other reload ends, and the page is requested. -/
def servedEvents :
    List (Event (gateway sampleExt sampleState)) :=
  commitEvents sampleExt sampleState 4
      (samplePage "New") ++
    requestEvents sampleExt sampleState 5
      (sampleEnv (samplePage "New"))
      (getRequest manifestTarget .empty)

/- How the two reloads are answered. -/
def samplePageReloaded : Response Body :=
  reloadedResponse (samplePage "New").viewCount
    (samplePage "New").manifestSequence

theorem run_publishedEvents :
    ∃ flag middle,
      Run (.initial sampleShared) (publishedEvents flag)
          middle ∧
        middle.state.files = samplePageFiles "New" ∧
        middle.state.lock =
            some ⟨samplePage "Old", false, none⟩ ∧
          ∀ thread, 2 < thread →
            middle.threads thread = .idle := by
  rcases run_clientEvents with
    ⟨flag, clients, hClients, hClean, hIdle⟩
  rcases run_change clients (samplePageFiles "New") with
    ⟨middle, hChange, hMiddle, hThreads⟩
  refine ⟨flag, middle, hClients.append hChange, ?_, ?_, ?_⟩
  · rw [hMiddle]
  · rw [hMiddle]
    exact hClean
  · intro thread hThread
    rw [hThreads]
    exact hIdle thread hThread

theorem run_servedEvents
    {middle : Config (gateway sampleExt sampleState)}
    (hFiles : middle.state.files = samplePageFiles "New")
    (hLock :
      middle.state.lock =
        some ⟨samplePage "Old", false, none⟩)
    (hIdle : ∀ thread, 2 < thread →
      middle.threads thread = .idle) :
    ∃ after,
      Run middle
          (besideEvents ++
            .answer 3 samplePageReloaded :: servedEvents)
          after ∧
        ¬after.state.Poisoned := by
  rcases run_load rfl rfl (hIdle 3 (by decide))
      sampleNow_inClockRange
      (hFiles ▸ samplePage_new_loads) with
    ⟨loaded, hLoad, hLoaded, hRunning, hOthers⟩
  rw [← hLoaded] at hFiles hLock
  rcases run_load rfl rfl
      ((hOthers 4 (by decide)).trans (hIdle 4 (by decide)))
      sampleNow_inClockRange
      (hFiles ▸ samplePage_new_loads) with
    ⟨beside, hLoad', hBeside, hRunning', hOthers'⟩
  rw [← hBeside] at hLock
  rw [← hOthers' 3 (by decide)] at hRunning
  rcases run_commit hRunning hLock
      (samplePage_sequence_le _ _) with
    ⟨first, hFirst, hFirstState, hFirstOthers⟩
  have hNew :
      first.state.lock =
        some ⟨samplePage "New", false, none⟩ := by
    rw [hFirstState, committed_lock]
  rw [← hFirstOthers 4 (by decide)] at hRunning'
  rcases run_commit hRunning' hNew
      (samplePage_sequence_le _ _) with
    ⟨second, hSecond, hSecondState, hSecondOthers⟩
  have hNew' :
      second.state.lock =
        some ⟨samplePage "New", false, none⟩ := by
    rw [hSecondState, committed_lock]
  have hIdle' : second.threads 5 = .idle := by
    rw [hSecondOthers 5 (by decide),
      hFirstOthers 5 (by decide), hOthers' 5 (by decide),
      hOthers 5 (by decide)]
    exact hIdle 5 (by decide)
  rcases run_request_kept (getRequest manifestTarget .empty)
      hIdle' (sampleEnv_agrees hNew')
      (by rw [hSecondState]; rfl) with
    ⟨after, hRequest, hAfter, _⟩
  refine ⟨after, ?_, ?_⟩
  · have hRun :=
      hLoad.append (hLoad'.append
        (hFirst.append (hSecond.append hRequest)))
    simpa [besideEvents, servedEvents, commitEvents,
      samplePageReloaded] using hRun
  · rintro ⟨lock, hPoisoned, hTrue⟩
    rw [hAfter, hNew'] at hPoisoned
    cases hPoisoned
    cases hTrue

/- Before the publish only the answered reload has loaded. -/
theorem publishedEvents_no_load_under_way
    {flag : Bool}
    {middle : Config (gateway sampleExt sampleState)}
    (hRun :
      Run (.initial sampleShared) (publishedEvents flag)
        middle) :
    NoLoadUnderWay (publishedEvents flag) middle := by
  intro thread path reply hLoad
  have hReload : thread = 0 := by
    have hRequests (other : Nat) (env : Surroundings)
        (hMem :
          .call thread ⟨.loadFromDir path, reply⟩ ∈
            requestEvents sampleExt sampleState other env
              (getRequest manifestTarget .empty)) :
        False := by
      exact absurd (stage_of_mem_requestEvents hMem)
        (Nat.not_succ_le_zero 0)
    simp only [publishedEvents, clientEvents,
      List.mem_append, List.mem_singleton, reduceCtorEq,
      or_false] at hLoad
    rcases hLoad with (hLoad | hCommit) | hFirst | hSecond
    · simp only [loadEvents, List.mem_cons, reduceCtorEq,
        List.not_mem_nil, or_false, false_or,
        Event.call.injEq] at hLoad
      exact hLoad.1
    · simp [commitEvents, commitCalls] at hCommit
    · exact (hRequests 1 _ hFirst).elim
    · exact (hRequests 2 _ hSecond).elim
  subst hReload
  apply hRun.not_running_of_answer
  exact List.mem_append_left _
    (clientEvents_answered flag).1

theorem served_no_change (made : FileSystem) :
    .change made ∉
      besideEvents ++
        .answer 3 samplePageReloaded :: servedEvents := by
  intro hMade
  have hNone :
      changesOf
          (besideEvents ++
            .answer 3 samplePageReloaded ::
              servedEvents) = [] := by
    simp [besideEvents, servedEvents]
  have hMem :
      made ∈
        changesOf
          (besideEvents ++
            .answer 3 samplePageReloaded ::
              servedEvents) :=
    List.mem_filterMap.mpr ⟨_, hMade, rfl⟩
  rw [hNone] at hMem
  cases hMem

/- Two reloads converge to the page published before them. -/
theorem reload_converges_sample :
    ∃ flag after env,
      Run (.initial sampleShared)
          (publishedEvents flag ++
            (besideEvents ++
              .answer 3 samplePageReloaded ::
                servedEvents))
          after ∧
        after.state.installed = some (samplePage "New") ∧
        respond sampleExt sampleState
              (sampleEnv (samplePage "New"))
              (getRequest manifestTarget .empty) =
            respond sampleExt sampleState env
              (getRequest manifestTarget .empty) ∧
          env.snapshot = some (samplePage "New") := by
  rcases run_publishedEvents with
    ⟨flag, middle, hFirst, hFiles, hLock, hIdle⟩
  rcases run_servedEvents hFiles hLock hIdle with
    ⟨after, hSecond, hClean⟩
  have hReload :
      .start 3 .reload ∈
        publishedEvents flag ++
          (besideEvents ++
            .answer 3 samplePageReloaded ::
              servedEvents) := by
    simp [besideEvents, loadEvents]
  rcases reload_converges sample_started hFirst
      (publishedEvents_no_load_under_way hFirst) hSecond
      served_no_change hReload rfl with
    ⟨path, store, hDir, hLoads, _, hInstalled, hServed⟩
  cases hDir
  rw [hFiles] at hLoads
  have hNew : store = samplePage "New" :=
    hLoads.unique
      ⟨sampleNow, sampleNow_inClockRange,
        samplePage_new_loads⟩
  subst hNew
  rcases hServed 5 (getRequest manifestTarget .empty)
      (respond sampleExt sampleState
        (sampleEnv (samplePage "New"))
        (getRequest manifestTarget .empty))
      (by simp [servedEvents, requestEvents])
      (by simp [servedEvents, requestEvents]) with
    ⟨env, hRespond, hFound | ⟨_, hPoisoned⟩⟩
  · exact ⟨flag, after, env, hFirst.append hSecond,
      hInstalled, hRespond, hFound⟩
  · exact absurd hPoisoned hClean

/- An assignment is refused for a higher sequence only. -/
theorem Exec.returned_lower
    {json : SerdeJson} {thread : Nat}
    {loaded : PreparedContentStore}
    {old new : SharedState}
    (hExec :
      Exec json thread old
        ⟨.writeStore (assignUnlessLower loaded), .returned⟩
        new) :
    ∃ current,
      old.installed = some current ∧
        loaded.manifestSequence <
          current.manifestSequence := by
  cases hExec with
  | returnEarly lock _ hLock _ _ hUpdate =>
      refine ⟨lock.installed, ?_, ?_⟩
      · rw [SharedState.installed, hLock]
        rfl
      · rw [assignUnlessLower] at hUpdate
        split at hUpdate
        · assumption
        · cases hUpdate

/- After the last publish no assignment is refused. -/
theorem not_returned_of_no_change
    {path : Path} {writer : Nat}
    {loaded : PreparedContentStore}
    (hDir : state.config.storeDir = some path)
    (hFirst : Run (.initial shared) first middle)
    (hUnderWay : NoLoadUnderWay first middle)
    (hSecond : Run middle second after)
    (hNoChange : ∀ made, .change made ∉ second)
    (hLoads :
      LoadsTo lib.json path middle.state.files loaded)
    (hLe : ∀ old, middle.state.installed = some old →
      old.manifestSequence ≤ loaded.manifestSequence) :
    .call writer
        ⟨.writeStore (assignUnlessLower loaded),
          .returned⟩ ∉ second := by
  intro hReturned
  rcases List.append_of_mem hReturned with
    ⟨earlier, later, rfl⟩
  rcases hSecond.split_at with
    ⟨atWrite, _, hEarlier, hStep, _⟩
  have hKept : ∀ made, .change made ∉ earlier := by
    intro made hMade
    exact hNoChange made (List.mem_append_left _ hMade)
  cases hStep with
  | call _ hExec =>
      rcases hExec.returned_lower with
        ⟨current, hCurrent, hLower⟩
      by_cases hAssigned :
          ∃ thread update,
            .call thread ⟨.writeStore update, .assigned⟩ ∈
              earlier
      · rcases installed_of_assigned hDir hFirst hUnderWay
            hEarlier hKept hAssigned with
          ⟨store, hStore, hInstalled⟩
        rw [hCurrent, hStore.unique hLoads] at hInstalled
        cases hInstalled
        omega
      · rw [installed_of_not_assigned hEarlier hAssigned]
          at hCurrent
        have hSequence := hLe current hCurrent
        omega

/-
  After the last publish a reload succeeds whenever it can
  load: when the present files load as a store of at least
  the installed sequence and the lock stays clean, it is
  answered 200 exactly if its own load succeeded.
-/
theorem reload_succeeds_iff
    {reloader : Nat} {answer : Response Body} {path : Path}
    {store : PreparedContentStore}
    (hDir : state.config.storeDir = some path)
    (hFirst : Run (.initial shared) first middle)
    (hUnderWay : NoLoadUnderWay first middle)
    (hSecond :
      Run middle (before ++ .answer reloader answer :: last)
        after)
    (hNoChange : ∀ made,
      .change made ∉
        before ++ .answer reloader answer :: last)
    (hReload :
      .start reloader .reload ∈
        first ++
          (before ++ .answer reloader answer :: last))
    (hLoads :
      LoadsTo lib.json path middle.state.files store)
    (hLe : ∀ old, middle.state.installed = some old →
      old.manifestSequence ≤ store.manifestSequence)
    (hClean : ¬after.state.Poisoned) :
    answer.status = 200 ↔
      .call reloader ⟨.loadFromDir path, .ok store⟩ ∈
        before := by
  have hParts := hFirst.append hSecond
  rw [← List.append_assoc] at hParts hReload
  have hExit := exit_of_answered hParts hReload
  generalize hCalls :
    callsOf reloader (first ++ before) = calls at hExit
  have hSame {loadPath : Path}
      {reply : Except StoreLoadError PreparedContentStore}
      {rest : List (Call gatewaySignature)}
      (hRest :
        callsOf reloader (first ++ before) =
          ⟨.loadFromDir loadPath, reply⟩ :: rest) :
      ∀ call,
        .call reloader call ∈ before ↔
          call ∈
            (⟨.loadFromDir loadPath, reply⟩ :: rest :
              List (Call gatewaySignature)) := by
    intro call
    rw [← mem_callsOf_iff,
      calls_of_answered hFirst hUnderWay hSecond hRest]
  have hLoadedStore {loadPath : Path}
      {loaded : PreparedContentStore}
      (hLoadDir : state.config.storeDir = some loadPath)
      (hLoad :
        .call reloader
            ⟨.loadFromDir loadPath, .ok loaded⟩ ∈ before) :
      loadPath = path ∧ loaded = store := by
    rw [hDir] at hLoadDir
    cases hLoadDir
    have hLoaded :=
      loadsTo_of_no_change hSecond hNoChange
        (List.mem_append_left _ hLoad)
    exact ⟨rfl, hLoaded.unique hLoads⟩
  cases hExit with
  | notConfigured =>
      constructor
      · intro hStatus
        cases hStatus
      · intro hLoad
        have hMem := List.mem_append_right first hLoad
        rw [← mem_callsOf_iff, hCalls] at hMem
        simp [failureCalls] at hMem
  | notLoaded loadPath error _ =>
      constructor
      · intro hStatus
        cases hStatus
      · intro hLoad
        rw [hSame hCalls] at hLoad
        simp [failureCalls] at hLoad
  | lowerSequence loadPath loaded hLoadDir =>
      have hLoad := (hSame hCalls _).mpr List.mem_cons_self
      rcases hLoadedStore hLoadDir hLoad with ⟨rfl, rfl⟩
      have hReturned :=
        (hSame hCalls
          ⟨.writeStore (assignUnlessLower loaded),
            .returned⟩).mpr (by simp)
      exact absurd (List.mem_append_left _ hReturned)
        (not_returned_of_no_change hDir hFirst hUnderWay
          hSecond hNoChange hLoads hLe)
  | poisoned loadPath loaded hLoadDir =>
      have hWrite :=
        (hSame hCalls
          ⟨.writeStore (assignUnlessLower loaded),
            .poisoned⟩).mpr (by simp)
      rcases List.append_of_mem hWrite with
        ⟨earlier, later, rfl⟩
      rw [List.append_assoc] at hSecond
      rcases hSecond.split_at with
        ⟨atWrite, _, _, hStep, hLater⟩
      have hAfter := Run.cons hStep hLater
      apply absurd _ hClean
      cases hStep with
      | call _ hExec =>
          exact poisoned_later hAfter
            hExec.poisoned_of_writeStore_poisoned
  | reloaded loadPath loaded hLoadDir =>
      have hLoad := (hSame hCalls _).mpr List.mem_cons_self
      rcases hLoadedStore hLoadDir hLoad with ⟨rfl, rfl⟩
      exact ⟨fun _ => hLoad, fun _ => rfl⟩

/- The first of the two reloads has loaded the new page. -/
theorem reload_succeeds_iff_sample :
    ∃ flag middle after,
      Run (.initial sampleShared) (publishedEvents flag)
          middle ∧
        Run middle
            (besideEvents ++
              .answer 3 samplePageReloaded :: servedEvents)
            after ∧
          .call 3
              ⟨.loadFromDir sampleDir,
                .ok (samplePage "New")⟩ ∈ besideEvents := by
  rcases run_publishedEvents with
    ⟨flag, middle, hFirst, hFiles, hLock, hIdle⟩
  rcases run_servedEvents hFiles hLock hIdle with
    ⟨after, hSecond, hClean⟩
  have hReload :
      .start 3 .reload ∈
        publishedEvents flag ++
          (besideEvents ++
            .answer 3 samplePageReloaded ::
              servedEvents) := by
    simp [besideEvents, loadEvents]
  have hLoads :
      LoadsTo sampleExt.json sampleDir middle.state.files
        (samplePage "New") := by
    rw [hFiles]
    exact ⟨sampleNow, sampleNow_inClockRange,
      samplePage_new_loads⟩
  have hLe : ∀ old, middle.state.installed = some old →
      old.manifestSequence ≤
        (samplePage "New").manifestSequence := by
    intro old hOld
    rw [SharedState.installed, hLock] at hOld
    cases hOld
    exact samplePage_sequence_le _ _
  have hStatus : samplePageReloaded.status = 200 := rfl
  have hLoaded :=
    (reload_succeeds_iff rfl hFirst
      (publishedEvents_no_load_under_way hFirst) hSecond
      served_no_change hReload hLoads hLe hClean).mp hStatus
  exact ⟨flag, middle, after, hFirst, hSecond, hLoaded⟩

end System

end AjarGateway
