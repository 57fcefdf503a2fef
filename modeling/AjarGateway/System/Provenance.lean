import AjarGateway.System.Expiry
import AjarGateway.System.Linearizability

/-
  Where everything that is served has come from.

  The store is never edited in memory.  What a request is
  served was in a file of the store directory, at a moment
  of the run before the store was read.

  Key definitions include:
    * `System.HeldBefore`
    * `System.ViewFile`
    * `System.OnDisk`

  Key theorems include:
    * `System.installed_from_disk`
    * `System.served_from_disk`
-/

------------------------------------------------------------
-- The Files Of A Run
------------------------------------------------------------

namespace AjarGateway

namespace System

open Http Interleaving Serving Store

variable {lib : Externals} {state : ProxyState}
variable {config : GatewayConfig} {files held : FileSystem}
variable {shared : SharedState}
variable {events : List (Event (gateway lib state))}
variable {after : Config (gateway lib state)}

/- The directory holds these files at some moment. -/
def HeldBefore
    (files : FileSystem)
    (events : List (Event (gateway lib state)))
    (held : FileSystem) : Prop :=
  held = files ∨ .change held ∈ events

theorem HeldBefore.append
    (hHeld : HeldBefore files events held)
    (later : List (Event (gateway lib state))) :
    HeldBefore files (events ++ later) held := by
  rcases hHeld with hFirst | hChange
  · exact .inl hFirst
  · exact .inr (List.mem_append_left _ hChange)

/- The present files are those of the last change. -/
theorem heldBefore_of_run
    (hRun : Run (.initial shared) events after) :
    HeldBefore shared.files events after.state.files := by
  induction hRun with
  | nil => exact .inl rfl
  | @snoc events before event after _ hStep ih =>
      cases hStep with
      | start _ | answer _ | cancel _ _ =>
          exact ih.append _
      | call _ hExec =>
          rw [Config.setThread_state, hExec.files_eq]
          exact ih.append _
      | panic _ hUnwind =>
          rw [Config.setThread_state, hUnwind.files_eq]
          exact ih.append _
      | @change made _ hChange =>
          cases hChange
          exact .inr (by simp)

/- Every store that is ever installed is that of files. -/
theorem installed_from_disk
    {store : PreparedContentStore}
    (hStarted : Started lib config files state shared)
    (hRun : Run (.initial shared) events after)
    (hInstalled : after.state.installed = some store) :
    ∃ path held now,
      state.config.storeDir = some path ∧
        HeldBefore files events held ∧
          InClockRange now ∧
            loadFrom lib.json path held now = .ok store := by
  have hFiles : shared.files = files := by
    rcases hStarted.store with
      ⟨_, _, rfl⟩ | ⟨_, _, _, _, _, _, _, rfl⟩
    · rfl
    · rfl
  induction hRun generalizing store with
  | nil =>
      rcases hStarted.store with
        ⟨_, _, rfl⟩ |
          ⟨path, now, first, hDir, _, hRange, hLoad, rfl⟩
      · cases hInstalled
      · cases hInstalled
        exact ⟨path, files, now, hDir, .inl rfl, hRange,
          hLoad⟩
  | snoc hRun hStep ih =>
      rcases step_installed_cases hStep with
        hSame | ⟨thread, update, rfl⟩
      · rcases ih (hSame ▸ hInstalled) with
          ⟨path, held, now, hDir, hHeld, hLoad⟩
        exact ⟨path, held, now, hDir, hHeld.append _, hLoad⟩
      · rcases step_assigned hRun hStep with
          ⟨path, _, loaded, _, hDir, _, _, hLoaded, hLoad⟩
        rw [hLoaded] at hInstalled
        cases hInstalled
        rcases List.append_of_mem hLoad with
          ⟨first, second, rfl⟩
        rcases hRun.performs_of_call with
          ⟨before, _, _, _, hBefore, _, hExec, _, _⟩
        rcases Exec.loadFromDir_reply hExec with
          ⟨_, now, hRange, hReply⟩
        have hHeld := heldBefore_of_run hBefore
        rw [hFiles] at hHeld
        rw [List.append_assoc]
        exact ⟨path, before.state.files, now, hDir,
          hHeld.append _, hRange, hReply.symm⟩

/- A store that is read was the one of files before. -/
theorem read_from_disk
    {store : PreparedContentStore} {thread : Nat}
    (hStarted : Started lib config files state shared)
    (hRun : Run (.initial shared) events after)
    (hRead :
      .call thread ⟨.readStore, some store⟩ ∈ events) :
    ∃ first second path held now,
      events =
          first ++
            .call thread ⟨.readStore, some store⟩ ::
              second ∧
        state.config.storeDir = some path ∧
          HeldBefore files first held ∧
            InClockRange now ∧
              loadFrom lib.json path held now =
                .ok store := by
  rcases List.append_of_mem hRead with
    ⟨first, second, hEvents⟩
  rw [hEvents] at hRun
  rcases hRun.performs_of_call with
    ⟨before, _, _, _, hBefore, _, hExec, _, _⟩
  rcases Exec.readStore_reply hExec with
    ⟨lock, hLock, hSnapshot⟩
  have hInstalled : before.state.installed = some store := by
    rw [SharedState.installed, hLock]
    split at hSnapshot
    · cases hSnapshot
    · exact hSnapshot.symm
  rcases installed_from_disk hStarted hBefore hInstalled with
    ⟨path, held, now, hLoaded⟩
  exact ⟨first, second, path, held, now, hEvents, hLoaded⟩

end System

end AjarGateway

------------------------------------------------------------
-- What Is Served
------------------------------------------------------------

namespace AjarGateway

namespace System

open Http Interleaving Serving Store

/- A listed view file whose view is for the target. -/
structure ViewFile
    (json : SerdeJson)
    (path : Path)
    (files : FileSystem)
    (requestTarget : String)
    (view : StoredView) : Prop where
  held : HoldsView path files view.bytes
  accepted : ViewAccepted json requestTarget view

/-
  The bytes are on disk: as a file, or as the view in a file
  that is rendered.
-/
def OnDisk
    (json : SerdeJson)
    (path : Path)
    (files : FileSystem)
    (requestTarget : String)
    (bytes : List UInt8) : Target → Prop
| .manifest =>
    files.readFile
        ((⟨path⟩ : FilesystemStorageBackend).pathFor
          manifestKey) =
      .ok bytes
| .viewIndex =>
    files.readFile
        ((⟨path⟩ : FilesystemStorageBackend).pathFor
          viewIndexKey) =
      .ok bytes
| .viewJson view =>
    bytes = view.bytes ∧
      ViewFile json path files requestTarget view
| .viewMarkdown view =>
    bytes = Rust.utf8 (renderMarkdown view) ∧
      ViewFile json path files requestTarget view

/- A loaded store has every target of a request on disk. -/
theorem onDisk_of_loaded
    {lib : Externals} {path : Path}
    {files : FileSystem} {now : Int}
    {store : PreparedContentStore}
    {request : Request Chunks} {target : Target}
    (hLoad : loadFrom lib.json path files now = .ok store)
    (hTarget :
      storeTarget lib.http store request = some target) :
    OnDisk lib.json path files (requestTarget request.uri)
      (target.bytes store) target := by
  have hComes := loadFrom_comesFrom _ _ _ _ _ hLoad
  have hAccepted := loadFrom_ok _ _ _ _ _ hLoad
  have hViewFile {view : StoredView}
      (hView : RoutesView store request.uri view) :
      ViewFile lib.json path files
        (requestTarget request.uri) view :=
    ⟨hComes.views _ _ hView.stored,
      hAccepted.views _ _ hView.stored⟩
  rcases (storeTarget_cases hTarget).2 with
    ⟨_, rfl⟩ | ⟨_, _, rfl⟩ | ⟨view, hView, rfl | rfl⟩
  · exact hComes.manifest
  · exact hComes.viewIndex
  · exact ⟨rfl, hViewFile hView⟩
  · exact ⟨rfl, hViewFile hView⟩

variable {lib : Externals} {state : ProxyState}
variable {config : GatewayConfig} {files : FileSystem}
variable {shared : SharedState}
variable {events : List (Event (gateway lib state))}
variable {after : Config (gateway lib state)}
variable {thread : Nat} {request : Request Chunks}
variable {answer : Response Body}

/-
  Nothing but the content of the store directory is served
  from the store.  The bytes of a 200 were on disk at a
  moment of the run before the request has read the store.
-/
theorem served_from_disk
    {store : PreparedContentStore} {target : Target}
    (hStarted : Started lib config files state shared)
    (hRun : Run (.initial shared) events after)
    (hStart :
      .start thread (.publicRequest request) ∈ events)
    (hAnswer : .answer thread answer ∈ events)
    (hRead :
      .call thread ⟨.readStore, some store⟩ ∈ events)
    (hTarget :
      storeTarget lib.http store request = some target)
    (hStatus : answer.status = 200) :
    ∃ first second path held bytes,
      events =
          first ++
            .call thread ⟨.readStore, some store⟩ ::
              second ∧
        state.config.storeDir = some path ∧
          HeldBefore files first held ∧
            answer.body.bytes? = some bytes ∧
              OnDisk lib.json path held
                (requestTarget request.uri) bytes target := by
  rcases answered_from_store hStarted hRun hStart hAnswer
      hRead hTarget with
    ⟨time, _, _, hContent⟩
  rw [hContent] at hStatus
  rw [(answerFromStore_ok hStatus).2.2] at hContent
  rcases read_from_disk hStarted hRun hRead with
    ⟨first, second, path, held, _, hEvents, hDir, hHeld, _,
      hLoad⟩
  refine ⟨first, second, path, held, target.bytes store,
    hEvents, hDir, hHeld, ?_, onDisk_of_loaded hLoad hTarget⟩
  rw [hContent, Target.content_body, Body.bytes?_ofBytes]

/- The sample view is served as its file on disk. -/
theorem served_from_disk_sample :
    ∃ (held : FileSystem) (bytes : List UInt8),
      HeldBefore (samplePageFiles "Old")
          (requestEvents sampleExt sampleState 0
            (sampleEnv (samplePage "Old"))
            (acceptRequest pageTarget ajarJson))
          held ∧
        (respond sampleExt sampleState
            (sampleEnv (samplePage "Old"))
            (acceptRequest pageTarget
              ajarJson)).body.bytes? =
          some bytes ∧
        HoldsView sampleDir held bytes := by
  have hTarget :=
    (storeTarget_acceptRequest reference_readsVisibleAscii
      (pageTarget_routes "Old")).1
  rcases run_request
      (c := (Config.initial sampleShared :
        Config (gateway sampleExt sampleState)))
      (acceptRequest pageTarget ajarJson) rfl
      (sampleEnv_agrees rfl) rfl with
    ⟨after, hRun⟩
  rcases requestEvents_eq sampleExt sampleState 0
      (sampleEnv (samplePage "Old"))
      (acceptRequest pageTarget ajarJson)
      (samplePage "Old") rfl rfl with
    ⟨last, hEvents⟩
  have hStatus :
      (respond sampleExt sampleState
          (sampleEnv (samplePage "Old"))
          (acceptRequest pageTarget ajarJson)).status =
        200 := by
    rw [respond_of_target sampleExt sampleState _ rfl rfl
        hTarget,
      answerFromStore_of_fresh (by decide) rfl]
    exact Target.content_status _ _ _ _
  have hAnswer :
      .answer 0
          (respond sampleExt sampleState
            (sampleEnv (samplePage "Old"))
            (acceptRequest pageTarget ajarJson)) ∈
        requestEvents sampleExt sampleState 0
          (sampleEnv (samplePage "Old"))
          (acceptRequest pageTarget ajarJson) := by
    simp [requestEvents]
  rcases served_from_disk sample_started hRun
      List.mem_cons_self hAnswer (by simp [hEvents]) hTarget
      hStatus with
    ⟨first, second, path, held, bytes, hSplit, hDir, hHeld,
      hBytes, rfl, hDisk⟩
  cases hDir
  rw [hSplit]
  exact ⟨held, _, hHeld.append _, hBytes, hDisk.held⟩

end System

end AjarGateway
