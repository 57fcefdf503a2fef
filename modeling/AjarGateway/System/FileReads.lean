import AjarGateway.Interleaving.Division
import AjarGateway.Store.Interrupted
import AjarGateway.Store.Snapshot
import AjarGateway.System.Linearizability

/-
  Loads that read one file after another.

  A reload reads the store directory file by file, while
  requests, other reloads and changes of the directory go
  on.  The gateway of `System.gateway` loads at once.  It is
  refined by the one that reads: every run of the latter
  shows what some run of the former shows.

  Key definitions include:
    * `System.fileReads`
    * `System.FoundInRun`

  Key theorems include:
    * `System.file_reads_refine`
    * `System.file_reads_linearizable`
-/

------------------------------------------------------------
-- The Gateway That Reads
------------------------------------------------------------

namespace AjarGateway

namespace System

open Http Interleaving Serving Store

/- A load is performed by reading the directory. -/
def loadBody
    (json : SerdeJson) :
    (op : GatewayOp) →
      Option (Program hostSignature op.Reply)
| .loadFromDir path => some (loadFromDir json path).run
| _ => none

/- A read sees the files of its own moment. -/
def ReadsHost
    (shared : SharedState)
    (call : Call hostSignature) : Prop :=
  ∃ now,
    InClockRange now ∧
      call.reply = shared.files.reply now call.op

/- The loads of the gateway, read by read. -/
abbrev fileReads
    (lib : Externals)
    (state : ProxyState) :
    Division (gateway lib state) hostSignature where
  body := loadBody lib.json
  observe := ReadsHost

variable {lib : Externals} {state : ProxyState}

/-
  What a load has read could have been there at once: the
  files that answer all of its reads as they were answered.
-/
theorem fileReads_gathers :
    (fileReads lib state).Gathers Credible where
  begins := by
    intro op value hBody
    cases op with
    | loadFromDir path => cases Option.some.inj hBody
    | _ => cases hBody
  gather := by
    intro op program calls reply hBody hPerforms hCredible
      shared
    cases op with
    | loadFromDir path =>
        cases hBody
        rcases loaded_as_if hPerforms hCredible with
          ⟨found, now, hRange, _, rfl⟩
        refine ⟨found, { shared with files := found },
          shared.files, rfl, fun thread => ?_, rfl⟩
        exact .loadFromDir { shared with files := found }
          path now hRange
    | _ => cases hBody

/- A load at once is one that nothing has interrupted. -/
theorem fileReads_splits :
    (fileReads lib state).Splits where
  unwind := by
    intro thread before op program after hBody hUnwind
    cases hUnwind
    cases hBody
  cancel := by
    intro op program hBody hCancellable
    cases op with
    | loadFromDir path => exact hCancellable
    | _ => cases hBody
  exec := by
    intro thread before op program reply after hBody hExec
    cases op with
    | loadFromDir path =>
        cases hBody
        rcases Exec.loadFromDir_reply hExec with
          ⟨rfl, now, hRange, rfl⟩
        have hRead :=
          performs_callsWith (after.files.reply now)
            (loadFromDir lib.json path).run
        refine ⟨rfl, _, hRead, ?_⟩
        intro call hCall
        exact ⟨now, hRange,
          Program.reply_of_mem_callsWith
            (after.files.reply now) _ call hCall⟩
    | _ => cases hBody

end System

end AjarGateway

------------------------------------------------------------
-- What The Reads Find
------------------------------------------------------------

namespace AjarGateway

namespace System

open Http Interleaving Serving Store

variable {lib : Externals} {state : ProxyState}
variable {shared : SharedState}
variable {events :
  List (Event (fileReads lib state).machine)}
variable {after : Config (fileReads lib state).machine}

/- A step keeps the files, unless it changes them. -/
theorem fileReads_step_files
    {before : Config (fileReads lib state).machine}
    {event : Event (fileReads lib state).machine}
    (hStep : Step before event after) :
    after.state.files = before.state.files ∨
      event = .change after.state.files := by
  cases hStep with
  | start _ | answer _ | cancel _ _ => exact .inl rfl
  | @call _ op _ _ _ _ hExec =>
      cases op with
      | whole op => exact .inl hExec.files_eq
      | part op =>
          rcases hExec with ⟨rfl, _⟩
          exact .inl rfl
  | @panic _ op _ _ _ hUnwind =>
      cases op with
      | whole op => exact .inl hUnwind.files_eq
      | part op => exact hUnwind.elim
  | change hChange =>
      cases hChange
      exact .inr rfl

/- The present files are the first ones or were changed to. -/
theorem fileReads_run_files
    (hRun :
      Run (.initial shared :
          Config (fileReads lib state).machine)
        events after) :
    after.state.files ∈ shared.files :: changesOf events := by
  induction hRun with
  | nil => exact List.mem_cons_self
  | @snoc events before event after _ hStep ih =>
      rw [changesOf_append, ← List.cons_append]
      rcases fileReads_step_files hStep with hSame | rfl
      · rw [hSame]
        exact List.mem_append_left _ ih
      · exact List.mem_append_right _ (by simp)

/- A read that files of the run have answered. -/
def FoundInRun
    (shared : SharedState)
    (events : List (Event (fileReads lib state).machine))
    (call : Call hostSignature) : Prop :=
  ∃ held ∈ shared.files :: changesOf events,
    ∃ now,
      InClockRange now ∧
        call.reply = held.reply now call.op

theorem found_of_part
    {thread : Nat} {call : Call hostSignature}
    (hRun :
      Run (.initial shared :
          Config (fileReads lib state).machine)
        events after)
    (hCall : call ∈ partsOf thread events) :
    FoundInRun shared events call := by
  rw [mem_partsOf_iff] at hCall
  rcases List.append_of_mem hCall with
    ⟨first, second, rfl⟩
  rcases hRun.performs_of_call with
    ⟨before, _, _, _, hBefore, _, hExec, _, _⟩
  rcases hExec with ⟨_, now, hRange, hReply⟩
  refine ⟨before.state.files, ?_, now, hRange, hReply⟩
  rw [changesOf_append, ← List.cons_append]
  exact List.mem_append_left _ (fileReads_run_files hBefore)

/- Files whose directories list what a directory can. -/
def Lists (files : FileSystem) : Prop :=
  ∀ dir entries,
    files.readDir dir = .ok entries → IsListing entries

theorem credible_of_found
    {call : Call hostSignature}
    (hLists : ∀ held ∈ shared.files :: changesOf events,
      Lists held)
    (hFound : FoundInRun shared events call) :
    Credible call := by
  rcases hFound with ⟨held, hHeld, now, hRange, hReply⟩
  rcases call with ⟨op, reply⟩
  cases op with
  | readFile path => trivial
  | nowUnixSeconds =>
      cases hReply
      exact hRange
  | readDir dir =>
      cases reply with
      | error kind => trivial
      | ok entries =>
          exact hLists held hHeld dir entries hReply.symm

end System

end AjarGateway

------------------------------------------------------------
-- The Reading Gateway Refines The Loading One
------------------------------------------------------------

namespace AjarGateway

namespace System

open Http Interleaving Serving Store

variable {lib : Externals} {state : ProxyState}
variable {shared : SharedState}
variable {events :
  List (Event (fileReads lib state).machine)}
variable {after : Config (fileReads lib state).machine}

/-
  Every load of the second run was read in the first: some
  reads of its handler in a row, each answered by files that
  the directory held, are a load with that result.
-/
def LoadsRead
    (shared : SharedState)
    (events : List (Event (fileReads lib state).machine))
    (grouped : List (Event (gateway lib state))) : Prop :=
  ∀ thread path result,
    .call thread ⟨.loadFromDir path, result⟩ ∈ grouped →
      ∃ reads,
        reads <:+: partsOf thread events ∧
          (∀ call ∈ reads, FoundInRun shared events call) ∧
            Performs (loadFromDir lib.json path).run reads
              (.ret result)

/- Every run is regrouped into one that loads at once. -/
theorem regrouped_of_run
    (hLists : ∀ held ∈ shared.files :: changesOf events,
      Lists held)
    (hRun :
      Run (.initial shared :
          Config (fileReads lib state).machine)
        events after) :
    ∃ (grouped : List (Event (gateway lib state)))
        (finish : Config (gateway lib state)),
      Run (.initial shared) grouped finish ∧
        (fileReads lib state).shown events =
            grouped.filter (fileReads lib state).shows ∧
          LoadsRead shared events grouped ∧
            finish.state = after.state := by
  have hFound : ∀ thread,
      ∀ call ∈ partsOf thread events,
        FoundInRun shared events call :=
    fun _ _ hCall => found_of_part hRun hCall
  rcases hRun.regroup fileReads_gathers
      (fun thread call hCall =>
        credible_of_found hLists
          (hFound thread call hCall)) with
    ⟨grouped, finish, hGrouped, hRegroups, hSimulates⟩
  refine ⟨grouped, finish, hGrouped, hRegroups.shown_eq, ?_,
    hSimulates.state_eq.symm⟩
  intro thread path result hLoad
  rcases hRegroups.parts_of_call rfl hLoad with
    ⟨reads, hReads, hPerforms⟩
  exact ⟨reads, hReads,
    fun call hCall =>
      hFound thread call (hReads.subset hCall),
    hPerforms⟩

/-
  Reading the directory file by file shows nothing new.  If
  no directory lists a name twice or with a separator, what
  a run shows is shown by a run in which every load happens
  at once, of files that hold what its reads have found; and
  what these runs show is shown by a run that reads.
-/
theorem file_reads_refine (hLists : Lists shared.files) :
    (∀ (events : List (Event (fileReads lib state).machine))
        (after : Config (fileReads lib state).machine),
      Run (.initial shared) events after →
        (∀ made ∈ changesOf events, Lists made) →
          ∃ (grouped : List (Event (gateway lib state)))
              (finish : Config (gateway lib state)),
            Run (.initial shared) grouped finish ∧
              (fileReads lib state).shown events =
                  grouped.filter (fileReads lib state).shows ∧
                LoadsRead shared events grouped ∧
                  finish.state = after.state) ∧
      ∀ (grouped : List (Event (gateway lib state)))
          (finish : Config (gateway lib state)),
        Run (.initial shared) grouped finish →
          ∃ (events :
                List (Event (fileReads lib state).machine))
              (after : Config (fileReads lib state).machine),
            Run (.initial shared) events after ∧
              (fileReads lib state).shown events =
                  grouped.filter (fileReads lib state).shows ∧
                changesOf events = changesOf grouped ∧
                  after.state = finish.state := by
  constructor
  · intro events after hRun hChanges
    apply regrouped_of_run _ hRun
    rw [List.forall_mem_cons]
    exact ⟨hLists, hChanges⟩
  · intro grouped finish hRun
    rcases hRun.divide fileReads_splits with
      ⟨events, hEvents, hShown, hChanges⟩
    exact ⟨events, _, hEvents, hShown, hChanges, rfl⟩

end System

end AjarGateway

------------------------------------------------------------
-- A Reload That A Change Interrupts
------------------------------------------------------------

namespace AjarGateway

namespace System

open Http Interleaving Serving Store

variable {lib : Externals} {state : ProxyState}

/- A whole reload, with a change between two of its reads. -/
theorem run_interruptedReload
    {c : Config (gateway lib state)} {thread : Nat}
    {path : Path} {renamed : FileSystem}
    {current loaded : PreparedContentStore}
    {first second : List (Call hostSignature)}
    (hDir : state.config.storeDir = some path)
    (hStore : state.hasStore = true)
    (hIdle : c.threads thread = .idle)
    (hLock : c.state.lock = some ⟨current, false, none⟩)
    (hPerforms :
      Performs (loadFromDir lib.json path).run
        (first ++ second) (.ret (.ok loaded)))
    (hFirst : ∀ call ∈ first, ReadsHost c.state call)
    (hSecond : ∀ call ∈ second,
      ReadsHost { c.state with files := renamed } call)
    (hLe :
      current.manifestSequence ≤ loaded.manifestSequence) :
    ∃ (events : List (Event (fileReads lib state).machine))
        (after : Config (fileReads lib state).machine),
      Run (c.divide (fileReads lib state)) events after ∧
        changesOf events = [renamed] ∧
          .answer thread
              (reloadedResponse loaded.viewCount
                loaded.manifestSequence) ∈ events ∧
            after.state.installed = some loaded := by
  have hProgram :
      ∃ next,
        reloadStore state =
            .call (.loadFromDir path) next ∧
          next (.ok loaded) = commitStore loaded := by
    rw [reloadStore, hDir, hStore]
    exact ⟨_, rfl, rfl⟩
  rcases hProgram with ⟨next, hReload, hNext⟩
  have hStart :
      Step c (.start thread .reload)
        (c.setThread thread
          (.running (.call (.loadFromDir path) next))) := by
    rw [← hReload]
    exact .start hIdle
  rcases hStart.divide fileReads_splits with
    ⟨starting, hStarting, _, hNone⟩
  have hBody :
      (fileReads lib state).body (.loadFromDir path) =
        some (loadFromDir lib.json path).run :=
    rfl
  have hChange :
      (gateway lib state).change
        (c.setThread thread
          (.running (.call (.loadFromDir path) next))).state
        renamed { c.state with files := renamed } :=
    rfl
  have hLoading :=
    Run.interrupted (Config.setThread_threads_self c thread _)
      hBody hPerforms hFirst hChange hSecond
  rw [hNext] at hLoading
  let ready : Config (gateway lib state) :=
    { c.setThread thread
        (.running (.call (.loadFromDir path) next)) with
      state := { c.state with files := renamed } }
  have hReady :
      (ready.setThread thread
        (.running (commitStore loaded))).threads thread =
          .running (commitStore loaded) :=
    Config.setThread_threads_self _ _ _
  rcases run_commit hReady hLock hLe with
    ⟨finish, hCommit, hFinish, _⟩
  rcases hCommit.divide fileReads_splits with
    ⟨committing, hCommitting, hShown, hKept⟩
  have hAnswer :
      (.answer thread
          (reloadedResponse loaded.viewCount
            loaded.manifestSequence) :
        Event (gateway lib state)) ∈
          commitEvents lib state thread loaded := by
    simp [commitEvents]
  refine ⟨_, _, (hStarting.append hLoading).append
    hCommitting, ?_, List.mem_append_right _
      ((mem_of_shown_iff hShown rfl).mp hAnswer), ?_⟩
  · rw [changesOf_append, changesOf_append, hNone, hKept,
      changesOf_append, changesOf_change_cons,
      changesOf_calls, changesOf_calls]
    simp [commitEvents]
  · have hInstalled :
        finish.state.installed = some loaded := by
      rw [hFinish, SharedState.installed, committed_lock]
      rfl
    exact hInstalled

end System

end AjarGateway

------------------------------------------------------------
-- The Sample Directory Renamed
------------------------------------------------------------

namespace AjarGateway

namespace System

open Http Interleaving Serving Store

/- The one view file of a sample directory is listed. -/
theorem sample_lists (index url heading : String) :
    Lists (sampleFiles index url heading) := by
  intro dir entries hListed
  simp only [sampleFiles, directoryFiles] at hListed
  split at hListed
  · cases hListed
    have hPage : IsListing [.ok (Rust.utf8 "page.json")] :=
      ⟨by decide, by decide⟩
    exact hPage
  · cases hListed

/-
  A sample reload whose directory is renamed after its first
  read installs the old manifest with the new view.
-/
theorem run_sampleReload :
    ∃ (events :
          List (Event
            (fileReads sampleExt sampleState).machine))
        (after :
          Config (fileReads sampleExt sampleState).machine),
      Run (.initial sampleShared) events after ∧
        changesOf events =
            [sampleFiles "/index" "/page" "New"] ∧
          .answer 0
              (reloadedResponse (samplePage "New").viewCount
                (samplePage "New").manifestSequence) ∈
            events ∧
            after.state.installed =
              some (samplePage "New") := by
  have hManifest :
      sampleManifest "/views" ∈ sampleDocuments := by
    simp [sampleDocuments]
  have hView :
      sampleView "/page" "New" ∈ sampleDocuments := by
    simp [sampleDocuments]
  have hUrl :
      requestTargetFromViewUrl "/page" = .ok "/page" := by
    decide
  rcases sampleCalls_eq hManifest hView hUrl with
    ⟨rest, hCalls, hReplies⟩
  have hPerforms :=
    performs_callsWith
      ((samplePageFiles "New").reply sampleNow)
      (loadFromDir sampleJson sampleDir).run
  change Performs _ (sampleCalls "/views" "/page" "New")
    (.ret (loadFrom _ _ _ _)) at hPerforms
  rw [hCalls, samplePage_new_loads] at hPerforms
  have hSplit :
      Performs (loadFromDir sampleExt.json sampleDir).run
        ([artifactRead sampleDir manifestKey
          (sampleManifest "/views").bytes] ++ rest)
        (.ret (.ok (samplePage "New"))) :=
    hPerforms
  have hFirst :
      ∀ call ∈ [artifactRead sampleDir manifestKey
          (sampleManifest "/views").bytes],
        ReadsHost sampleShared call := by
    rw [List.forall_mem_singleton]
    exact ⟨sampleNow, sampleNow_inClockRange,
      sample_manifest_read.symm⟩
  have hSecond : ∀ call ∈ rest,
      ReadsHost
        { sampleShared with
          files := sampleFiles "/index" "/page" "New" }
        call :=
    fun call hCall =>
      ⟨sampleNow, sampleNow_inClockRange,
        hReplies "/index" call hCall⟩
  exact run_interruptedReload
    (c := (Config.initial sampleShared :
      Config (gateway sampleExt sampleState)))
    rfl rfl rfl rfl hSplit hFirst hSecond
    (samplePage_sequence_le "Old" "New")

/- It is also the reload of a directory that holds both. -/
theorem file_reads_refine_sample :
    ∃ (events :
          List (Event
            (fileReads sampleExt sampleState).machine))
        (grouped :
          List (Event (gateway sampleExt sampleState)))
        (finish : Config (gateway sampleExt sampleState)),
      changesOf events =
          [sampleFiles "/index" "/page" "New"] ∧
        Run (.initial sampleShared) grouped finish ∧
          .answer 0
              (reloadedResponse (samplePage "New").viewCount
                (samplePage "New").manifestSequence) ∈
            grouped ∧
            LoadsRead sampleShared events grouped ∧
              finish.state.installed =
                some (samplePage "New") := by
  rcases run_sampleReload with
    ⟨events, after, hRun, hChanges, hAnswer, hInstalled⟩
  have hLists : Lists sampleShared.files :=
    sample_lists "/views" "/page" "Old"
  have hRenamed : ∀ made ∈ changesOf events, Lists made := by
    intro made hMade
    rw [hChanges, List.mem_singleton] at hMade
    subst hMade
    exact sample_lists "/index" "/page" "New"
  rcases (file_reads_refine hLists).1 events after hRun
      hRenamed with
    ⟨grouped, finish, hGrouped, hShown, hLoads, hState⟩
  refine ⟨events, grouped, finish, hChanges, hGrouped,
    (mem_of_shown_iff hShown rfl).mpr hAnswer, hLoads, ?_⟩
  rw [hState]
  exact hInstalled

end System

end AjarGateway

------------------------------------------------------------
-- Linearizability Over Reads
------------------------------------------------------------

namespace AjarGateway

namespace System

open Http Interleaving Serving Store

variable {lib : Externals} {state : ProxyState}
variable {config : GatewayConfig} {files : FileSystem}
variable {shared : SharedState}
variable {events :
  List (Event (fileReads lib state).machine)}
variable {after : Config (fileReads lib state).machine}

/- An update assigns what its own handler has read. -/
def UpdatesRead
    (shared : SharedState)
    (path : Path)
    (events : List (Event (fileReads lib state).machine))
    (operation :
      Operation (register PreparedContentStore)) : Prop :=
  ∀ update, operation.op = .update update →
    ∃ loaded reads,
      update = assignUnlessLower loaded ∧
        reads <:+: partsOf operation.thread events ∧
          (∀ call ∈ reads, FoundInRun shared events call) ∧
            Performs (loadFromDir lib.json path).run reads
              (.ret (.ok loaded))

/- No point is the load itself. -/
theorem storePoint_of_divided
    (call : Call gatewaySignature)
    (hBody :
      ((fileReads lib state).body call.op).isSome = true) :
    (storePoints lib state).point call = none := by
  rcases call with ⟨op, reply⟩
  cases op with
  | loadFromDir path => rfl
  | _ => cases hBody

/-
  The gateway is linearizable also when its reloads read the
  directory file by file, whatever happens in between.  The
  order is that of the calls at the lock again, which are
  all shown.
-/
theorem file_reads_linearizable
    (hStarted : Started lib config files state shared)
    (hStore : state.hasStore = true)
    (hLists : ∀ held ∈ shared.files :: changesOf events,
      Lists held)
    (hRun :
      Run (.initial shared :
          Config (fileReads lib state).machine)
        events after) :
    ∃ path store last,
      state.config.storeDir = some path ∧
        shared.installed = some store ∧
          Linearizes
              ((storeSpecification lib state).divided
                (fileReads lib state))
              events ⟨store, false⟩
              ((storePoints lib state).order
                ((fileReads lib state).shown events))
              last ∧
            (∀ operation ∈
                (storePoints lib state).order
                  ((fileReads lib state).shown events),
              UpdatesRead shared path events operation) ∧
              after.state.installed = some last.value ∧
                (last.broken = true ↔
                  after.state.Poisoned) := by
  rcases regrouped_of_run hLists hRun with
    ⟨grouped, finish, hGrouped, hShown, hLoads, hState⟩
  rcases linearizes_of_run hStarted hStore hGrouped with
    ⟨store, last, hInstalled, hLinear, hHolds⟩
  rcases holdsRegister_of_started hStarted hStore with
    ⟨path, _, hDir, _⟩
  rw [hState] at hHolds
  rw [(storePoints lib state).order_shown
    storePoint_of_divided hShown]
  refine ⟨path, store, last, hDir, hInstalled,
    hLinear.of_shown hShown, ?_, hHolds.installed_eq,
    hHolds.broken_iff⟩
  intro operation hMem update hOp
  rcases load_of_update hGrouped hMem hOp with
    ⟨other, loaded, hOther, rfl, hLoad⟩
  rw [hDir] at hOther
  cases hOther
  rcases hLoads _ _ _ hLoad with
    ⟨reads, hReads, hFound, hPerforms⟩
  exact ⟨loaded, reads, rfl, hReads, hFound, hPerforms⟩

/- The renamed sample directory, with its one reload. -/
theorem file_reads_linearizable_sample :
    ∃ (events :
          List (Event
            (fileReads sampleExt sampleState).machine))
        (last : Register PreparedContentStore),
      changesOf events =
          [sampleFiles "/index" "/page" "New"] ∧
        Linearizes
            ((storeSpecification sampleExt
              sampleState).divided
                (fileReads sampleExt sampleState))
            events ⟨samplePage "Old", false⟩
            ((storePoints sampleExt sampleState).order
              ((fileReads sampleExt sampleState).shown
                events))
            last ∧
          last.value = samplePage "New" := by
  rcases run_sampleReload with
    ⟨events, after, hRun, hChanges, _, hInstalled⟩
  have hLists :
      ∀ held ∈ sampleShared.files :: changesOf events,
        Lists held := by
    rw [hChanges, List.forall_mem_cons,
      List.forall_mem_singleton]
    exact ⟨sample_lists "/views" "/page" "Old",
      sample_lists "/index" "/page" "New"⟩
  rcases file_reads_linearizable sample_started rfl hLists
      hRun with
    ⟨_, store, last, _, hStore, hLinear, _, hLast, _⟩
  cases hStore
  refine ⟨events, last, hChanges, hLinear, ?_⟩
  rw [hInstalled] at hLast
  exact (Option.some.inj hLast).symm

end System

end AjarGateway
