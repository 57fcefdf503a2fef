import AjarGateway.System.Poisoning
import AjarGateway.System.Reload

/-
  Reloads against publishes.

  A publish replaces the contents of the store directory.  A
  ledger kept beside a run numbers the publishes and notes
  which one each handler has loaded and which one the
  installed store came from.

  Key definitions include:
    * `System.Ledger`
    * `System.NoReloadLost`
    * `System.AssignsInOrder`
    * `System.CommitsInOrder`

  Key theorems include:
    * `System.LedgerHolds.step`
    * `System.no_reload_lost`
    * `System.commitsInOrder_of_increasing`
-/

------------------------------------------------------------
-- Publishes
------------------------------------------------------------

namespace AjarGateway

namespace System

open Http Interleaving Serving Store

variable {lib : Externals} {state : ProxyState}

/- The contents of the store directory so far, in order. -/
def publishes
    (files : FileSystem)
    (events : List (Event (gateway lib state))) :
    List FileSystem :=
  files :: changesOf events

@[simp] theorem changesOf_loadEvents
    (thread : Nat)
    (path : Path)
    (loaded : PreparedContentStore) :
    changesOf (loadEvents lib state thread path loaded) =
      [] :=
  rfl

@[simp] theorem changesOf_commitEvents
    (thread : Nat)
    (loaded : PreparedContentStore) :
    changesOf (commitEvents lib state thread loaded) = [] :=
  rfl

@[simp] theorem changesOf_requestEvents
    (thread : Nat)
    (env : Surroundings)
    (request : Request Chunks) :
    changesOf (requestEvents lib state thread env request) =
      [] := by
  simp [requestEvents]

/-
  What a history says about publishes, numbered from the
  initial content on: how many there were after it, which
  one each handler has loaded, and which one the installed
  store was loaded from.
-/
structure Ledger where
  published : Nat
  loadedAt : Nat → Nat
  installedAt : Nat

def Ledger.note
    (ledger : Ledger) : Event (gateway lib state) → Ledger
| .change _ => { ledger with published := ledger.published + 1 }
| .call thread ⟨.loadFromDir _, _⟩ =>
    { ledger with
      loadedAt :=
        Function.update ledger.loadedAt thread
          ledger.published }
| .call thread ⟨.writeStore _, .assigned⟩ =>
    { ledger with installedAt := ledger.loadedAt thread }
| _ => ledger

def ledgerOf
    (events : List (Event (gateway lib state))) : Ledger :=
  events.foldl Ledger.note ⟨0, fun _ => 0, 0⟩

theorem ledgerOf_snoc
    (events : List (Event (gateway lib state)))
    (event : Event (gateway lib state)) :
    ledgerOf (events ++ [event]) =
      (ledgerOf events).note event := by
  simp [ledgerOf]

/- A store is what one of the publishes is loaded as. -/
def LoadedFrom
    (json : SerdeJson)
    (path : Path)
    (published : List FileSystem)
    (index : Nat)
    (store : PreparedContentStore) : Prop :=
  ∃ files now,
    published[index]? = some files ∧ InClockRange now ∧
      loadFrom json path files now = .ok store

theorem LoadedFrom.append
    {json : SerdeJson} {path : Path}
    {published later : List FileSystem} {index : Nat}
    {store : PreparedContentStore}
    (hLoaded : LoadedFrom json path published index store) :
    LoadedFrom json path (published ++ later) index
      store := by
  rcases hLoaded with ⟨files, now, hFiles, hRange, hLoad⟩
  refine ⟨files, now, ?_, hRange, hLoad⟩
  rw [List.getElem?_append_left, hFiles]
  exact (List.getElem?_eq_some_iff.mp hFiles).1

/- What the ledger says is true of a state. -/
structure LedgerHolds
    (path : Path)
    (files : FileSystem)
    (events : List (Event (gateway lib state)))
    (c : Config (gateway lib state)) : Prop where
  count :
    (publishes files events).length =
      (ledgerOf events).published + 1
  present :
    (publishes files events)[(ledgerOf events).published]? =
      some c.state.files
  loaded : ∀ thread store,
    .call thread ⟨.loadFromDir path, .ok store⟩ ∈ events →
      LoadedFrom lib.json path (publishes files events)
        ((ledgerOf events).loadedAt thread) store
  installed : ∀ store,
    c.state.installed = some store →
      LoadedFrom lib.json path (publishes files events)
        (ledgerOf events).installedAt store

/- An event that neither publishes, loads nor assigns. -/
def Unnoted : Event (gateway lib state) → Prop
| .change _ => False
| .call _ ⟨.loadFromDir _, _⟩ => False
| .call _ ⟨.writeStore _, .assigned⟩ => False
| _ => True

/- A call publishes nothing. -/
theorem publishes_call
    (files : FileSystem)
    (events : List (Event (gateway lib state)))
    (thread : Nat)
    (call : Call gatewaySignature) :
    publishes files (events ++ [.call thread call]) =
      publishes files events := by
  simp [publishes]

theorem LedgerHolds.of_unnoted
    {path : Path} {files : FileSystem}
    {events : List (Event (gateway lib state))}
    {event : Event (gateway lib state)}
    {before after : Config (gateway lib state)}
    (hHolds : LedgerHolds path files events before)
    (hEvent : Unnoted event)
    (hFiles : after.state.files = before.state.files)
    (hInstalled :
      after.state.installed = before.state.installed) :
    LedgerHolds path files (events ++ [event]) after := by
  have hLedger :
      ledgerOf (events ++ [event]) = ledgerOf events := by
    rw [ledgerOf_snoc]
    unfold Unnoted at hEvent
    unfold Ledger.note
    split at hEvent <;> simp_all
  have hPublishes :
      publishes files (events ++ [event]) =
        publishes files events := by
    cases event <;>
      simp_all [publishes, changesOf, Event.changeOf,
        Unnoted]
  refine ⟨?_, ?_, ?_, ?_⟩
  · rw [hLedger, hPublishes]
    exact hHolds.count
  · rw [hLedger, hPublishes, hFiles]
    exact hHolds.present
  · intro thread store hLoad
    rw [hLedger, hPublishes]
    apply hHolds.loaded
    rcases List.mem_append.mp hLoad with hLoad | hLoad
    · exact hLoad
    · rw [List.mem_singleton] at hLoad
      subst hLoad
      exact hEvent.elim
  · intro store hStore
    rw [hLedger, hPublishes]
    exact hHolds.installed store (hInstalled ▸ hStore)

variable {path : Path} {files : FileSystem}
variable {shared : SharedState}
variable {events : List (Event (gateway lib state))}
variable {before after : Config (gateway lib state)}

/- A publish is the last one after itself. -/
theorem LedgerHolds.change
    {published : FileSystem}
    (hHolds : LedgerHolds path files events before) :
    LedgerHolds path files (events ++ [.change published])
      { before with
        state :=
          { before.state with files := published } } := by
  have hPublishes :
      publishes files (events ++ [.change published]) =
        publishes files events ++ [published] := by
    simp [publishes]
  refine ⟨?_, ?_, ?_, ?_⟩
  · rw [hPublishes, List.length_append, hHolds.count,
      ledgerOf_snoc]
    rfl
  · rw [hPublishes, ledgerOf_snoc]
    show _[(ledgerOf events).published + 1]? = _
    rw [← hHolds.count]
    simp
  · intro thread store hLoad
    rw [hPublishes, ledgerOf_snoc]
    exact (hHolds.loaded thread store
      (by simpa using hLoad)).append
  · intro store hStore
    rw [hPublishes, ledgerOf_snoc]
    exact (hHolds.installed store hStore).append

/- A load reads the last publish. -/
theorem LedgerHolds.load
    {thread : Nat}
    {reply : Except StoreLoadError PreparedContentStore}
    (hHolds : LedgerHolds path files events before)
    (hRun :
      Run (.initial shared)
        (events ++
          [.call thread ⟨.loadFromDir path, reply⟩])
        after)
    (hExec :
      Exec lib.json thread before.state
        ⟨.loadFromDir path, reply⟩ after.state) :
    LedgerHolds path files
      (events ++
        [.call thread ⟨.loadFromDir path, reply⟩])
      after := by
  rcases Exec.loadFromDir_reply hExec with
    ⟨hSame, now, hRange, hReply⟩
  refine ⟨?_, ?_, ?_, ?_⟩
  · rw [publishes_call, ledgerOf_snoc]
    exact hHolds.count
  · rw [publishes_call, ledgerOf_snoc, hSame]
    exact hHolds.present
  · intro other store hLoad
    rw [publishes_call, ledgerOf_snoc]
    by_cases hOther : other = thread
    · subst hOther
      -- The handler has not loaded before this call.
      have hFirst := (calls_before_load hRun).1
      have hReplied : reply = .ok store := by
        rcases List.mem_append.mp hLoad with
          hEarlier | hThis
        · rw [← mem_callsOf_iff, hFirst] at hEarlier
          cases hEarlier
        · simpa [eq_comm] using hThis
      refine ⟨before.state.files, now, ?_, hRange,
        hReply.symm.trans hReplied⟩
      simpa [Ledger.note] using hHolds.present
    · have hEarlier :
          .call other ⟨.loadFromDir path, .ok store⟩ ∈
            events := by
        simpa [hOther] using hLoad
      simpa [Ledger.note, hOther] using
        hHolds.loaded other store hEarlier
  · intro store hStore
    rw [publishes_call, ledgerOf_snoc]
    exact hHolds.installed store (hSame ▸ hStore)

/- An assigned store is from the publish it was loaded at. -/
theorem LedgerHolds.assign
    {thread : Nat} {loaded : PreparedContentStore}
    (hHolds : LedgerHolds path files events before)
    (hFiles : after.state.files = before.state.files)
    (hInstalled : after.state.installed = some loaded)
    (hLoad :
      .call thread ⟨.loadFromDir path, .ok loaded⟩ ∈
        events) :
    LedgerHolds path files
      (events ++
        [.call thread
          ⟨.writeStore (assignUnlessLower loaded),
            .assigned⟩])
      after := by
  refine ⟨?_, ?_, ?_, ?_⟩
  · rw [publishes_call, ledgerOf_snoc]
    exact hHolds.count
  · rw [publishes_call, ledgerOf_snoc, hFiles]
    exact hHolds.present
  · intro other store hOther
    rw [publishes_call, ledgerOf_snoc]
    exact hHolds.loaded other store (by simpa using hOther)
  · intro store hStore
    rw [hInstalled] at hStore
    cases hStore
    rw [publishes_call, ledgerOf_snoc]
    exact hHolds.loaded thread loaded hLoad

/- Every step keeps the ledger true. -/
theorem LedgerHolds.step
    {event : Event (gateway lib state)}
    (hDir : state.config.storeDir = some path)
    (hRun : Run (.initial shared) events before)
    (hStep : Step before event after)
    (hHolds : LedgerHolds path files events before) :
    LedgerHolds path files (events ++ [event]) after := by
  have hNext := hRun.snoc hStep
  cases hStep with
  | start _ => exact hHolds.of_unnoted trivial rfl rfl
  | answer _ => exact hHolds.of_unnoted trivial rfl rfl
  | cancel _ _ => exact hHolds.of_unnoted trivial rfl rfl
  | panic _ hUnwind =>
      exact hHolds.of_unnoted trivial hUnwind.files_eq
        hUnwind.installed_eq
  | change hChange =>
      cases hChange
      exact hHolds.change
  | @call thread op next reply _ hRunning hExec =>
      have hFiles := Exec.files_eq hExec
      cases op with
      | loadFromDir loadPath =>
          have hLoadDir := (calls_before_load hNext).2
          rw [hDir] at hLoadDir
          cases hLoadDir
          exact hHolds.load hNext hExec
      | writeStore update =>
          cases reply with
          | assigned =>
              rcases step_assigned hRun
                  (.call hRunning hExec) with
                ⟨loadPath, _, loaded, rfl, hLoadDir, _, _,
                  hInstalled, hLoad⟩
              rw [hDir] at hLoadDir
              cases hLoadDir
              exact hHolds.assign hFiles hInstalled hLoad
          | returned =>
              exact hHolds.of_unnoted trivial hFiles
                (Exec.installed_of_not_assigned hExec
                  (by simp))
          | poisoned =>
              exact hHolds.of_unnoted trivial hFiles
                (Exec.installed_of_not_assigned hExec
                  (by simp))
      | _ =>
          exact hHolds.of_unnoted trivial hFiles
            (Exec.installed_of_not_assigned hExec (by simp))

end System

end AjarGateway

------------------------------------------------------------
-- The Ledger Of A Run
------------------------------------------------------------

namespace AjarGateway

namespace System

open Http Interleaving Serving Store

variable {lib : Externals} {state : ProxyState}
variable {config : GatewayConfig} {files : FileSystem}
variable {shared : SharedState} {path : Path}
variable {events first second :
  List (Event (gateway lib state))}
variable {after : Config (gateway lib state)}

/- The first publish is the content at the start. -/
theorem LedgerHolds.start
    (hStarted : Started lib config files state shared)
    (hDir : state.config.storeDir = some path) :
    LedgerHolds path files []
      (.initial shared : Config (gateway lib state)) := by
  rcases hStarted.store with
    ⟨hNone, _⟩ |
      ⟨loadDir, now, store, hLoadDir, _, hRange, hLoad, rfl⟩
  · rw [hDir] at hNone
    cases hNone
  · rw [hDir] at hLoadDir
    cases hLoadDir
    refine ⟨rfl, rfl, by simp, ?_⟩
    intro installed hInstalled
    cases hInstalled
    exact ⟨files, now, rfl, hRange, hLoad⟩

/- The ledger is true after every run. -/
theorem ledger_holds
    (hStarted : Started lib config files state shared)
    (hDir : state.config.storeDir = some path)
    (hRun : Run (.initial shared) events after) :
    LedgerHolds path files events after := by
  induction hRun with
  | nil => exact .start hStarted hDir
  | snoc hRun hStep ih => exact ih.step hDir hRun hStep

/- Only a load by the same handler changes its entry. -/
theorem Ledger.loadedAt_note
    (ledger : Ledger)
    (event : Event (gateway lib state))
    (thread : Nat)
    (hLoad : ∀ path reply,
      event ≠ .call thread ⟨.loadFromDir path, reply⟩) :
    (ledger.note event).loadedAt thread =
      ledger.loadedAt thread := by
  unfold Ledger.note
  split
  · rfl
  · rename_i other loadPath reply
    have hOther : thread ≠ other := by
      rintro rfl
      exact hLoad loadPath reply rfl
    exact Function.update_of_ne hOther _ _
  · rfl
  · rfl

/- Only an assignment changes the installed publish. -/
theorem Ledger.installedAt_note
    (ledger : Ledger)
    (event : Event (gateway lib state)) :
    (ledger.note event).installedAt = ledger.installedAt ∨
      ∃ thread update,
        event =
            .call thread ⟨.writeStore update, .assigned⟩ ∧
          (ledger.note event).installedAt =
            ledger.loadedAt thread := by
  unfold Ledger.note
  split
  · exact .inl rfl
  · exact .inl rfl
  · exact .inr ⟨_, _, rfl, rfl⟩
  · exact .inl rfl

/- What a handler has loaded stays, since it loads once. -/
theorem loadedAt_append
    {thread : Nat}
    (hRun : Run (.initial shared) (first ++ second) after)
    (hCalls : callsOf thread first ≠ []) :
    (ledgerOf (first ++ second)).loadedAt thread =
      (ledgerOf first).loadedAt thread := by
  induction second using List.reverseRecOn
      generalizing after with
  | nil => rw [List.append_nil]
  | append_singleton second event ih =>
      rw [← List.append_assoc] at hRun ⊢
      rcases hRun.last with ⟨before, hBefore, _⟩
      rw [ledgerOf_snoc, Ledger.loadedAt_note, ih hBefore]
      rintro loadPath reply rfl
      have hNone := (calls_before_load hRun).1
      rw [callsOf, List.filterMap_append,
        List.append_eq_nil_iff] at hNone
      exact hCalls hNone.1

end System

end AjarGateway

------------------------------------------------------------
-- No Reload Is Lost
------------------------------------------------------------

namespace AjarGateway

namespace System

open Http Interleaving Serving Store

variable {lib : Externals} {state : ProxyState}

/- Files that can be loaded, with their sequence. -/
def HasSequence
    (json : SerdeJson)
    (path : Path)
    (files : FileSystem)
    (sequence : Int) : Prop :=
  ∃ now store,
    InClockRange now ∧
      loadFrom json path files now = .ok store ∧
        store.manifestSequence = sequence

/- Complete valid stores whose sequences never decrease. -/
def ValidPublishes
    (json : SerdeJson)
    (path : Path)
    (published : List FileSystem) : Prop :=
  ∃ sequences : List Int,
    List.Forall₂ (HasSequence json path) published
        sequences ∧
      sequences.Pairwise (· ≤ ·)

/-
  Once a reload was answered 200, a request that starts
  later reads a store of the publish that the reload has
  loaded, or of a later one among those made so far.
-/
def NoReloadLost
    (path : Path)
    (files : FileSystem)
    (events : List (Event (gateway lib state))) : Prop :=
  ∀ first second before last reloader answer later request
      store,
    events = first ++ .answer reloader answer :: second →
    .start reloader .reload ∈ first →
    answer.status = 200 →
    .start later (.publicRequest request) ∈ second →
    events =
      before ++ .call later ⟨.readStore, some store⟩ ::
        last →
      ∃ index,
        (ledgerOf first).loadedAt reloader ≤ index ∧
          LoadedFrom lib.json path (publishes files before)
            index store

/-
  No reload assigns a store over one that was loaded from a
  later publish.
-/
def AssignsInOrder
    (events : List (Event (gateway lib state))) : Prop :=
  ∀ first second thread update,
    events =
        first ++
          .call thread ⟨.writeStore update, .assigned⟩ ::
            second →
      (ledgerOf first).installedAt ≤
        (ledgerOf first).loadedAt thread

theorem AssignsInOrder.of_append
    {first second : List (Event (gateway lib state))}
    (hOrder : AssignsInOrder (first ++ second)) :
    AssignsInOrder first := by
  rintro earlier later thread update rfl
  exact hOrder earlier (later ++ second) thread update
    (by simp)

/- In order, the installed publish never goes back. -/
theorem installedAt_append
    (first second : List (Event (gateway lib state)))
    (hOrder : AssignsInOrder (first ++ second)) :
    (ledgerOf first).installedAt ≤
      (ledgerOf (first ++ second)).installedAt := by
  induction second using List.reverseRecOn with
  | nil => rw [List.append_nil]
  | append_singleton second event ih =>
      rw [← List.append_assoc] at hOrder ⊢
      have hEarlier := ih hOrder.of_append
      rw [ledgerOf_snoc]
      rcases Ledger.installedAt_note
          (ledgerOf (first ++ second)) event with
        hSame | ⟨thread, update, rfl, hAssigned⟩
      · rw [hSame]
        exact hEarlier
      · rw [hAssigned]
        exact hEarlier.trans
          (hOrder _ [] thread update rfl)

variable {config : GatewayConfig} {files : FileSystem}
variable {shared : SharedState} {path : Path}
variable {after : Config (gateway lib state)}

/- A reload that was answered 200 installed its publish. -/
theorem installedAt_of_answered
    {first second : List (Event (gateway lib state))}
    {reloader : Nat} {answer : Response Body}
    (hRun :
      Run (.initial shared)
        (first ++ .answer reloader answer :: second) after)
    (hOrder :
      AssignsInOrder
        (first ++ .answer reloader answer :: second))
    (hReload : .start reloader .reload ∈ first)
    (hStatus : answer.status = 200) :
    (ledgerOf first).loadedAt reloader ≤
      (ledgerOf first).installedAt := by
  rcases answered_reload_before hRun hReload hStatus with
    ⟨_, loaded, _, _, hWrite, _⟩
  rcases List.append_of_mem hWrite with
    ⟨earlier, between, rfl⟩
  rcases hRun.split with ⟨_, hFirst, _⟩
  rcases hFirst.split_at with
    ⟨_, _, hEarlier, hStep, _⟩
  rcases step_assigned hEarlier hStep with
    ⟨_, _, _, _, _, _, _, _, hLoad⟩
  have hCalls : callsOf reloader earlier ≠ [] := by
    rw [← mem_callsOf_iff] at hLoad
    exact List.ne_nil_of_mem hLoad
  have hLoaded := loadedAt_append hFirst hCalls
  have hInstalled := installedAt_append
    (earlier ++
      [.call reloader
        ⟨.writeStore (assignUnlessLower loaded),
          .assigned⟩])
    between (by simpa using hOrder.of_append)
  rw [ledgerOf_snoc] at hInstalled
  rw [hLoaded]
  simpa [Ledger.note] using hInstalled

/-
  Whenever a reload comes to write a store of no lower
  sequence than the installed one, at a lock that is not
  poisoned, the installed store was loaded from no later
  publish than its own.
-/
def CommitsInOrder
    (shared : SharedState)
    (events : List (Event (gateway lib state))) : Prop :=
  ∀ first second thread update reply
      (before : Config (gateway lib state)) path loaded
      current,
    events =
        first ++
          .call thread ⟨.writeStore update, reply⟩ ::
            second →
      Run (.initial shared) first before →
        ¬before.state.Poisoned →
          state.config.storeDir = some path →
            .call thread ⟨.loadFromDir path, .ok loaded⟩ ∈
                first →
              before.state.installed = some current →
                current.manifestSequence ≤
                    loaded.manifestSequence →
                  (ledgerOf first).installedAt ≤
                    (ledgerOf first).loadedAt thread

/- The check of the sequence leaves only such writes. -/
theorem CommitsInOrder.assigns
    {events : List (Event (gateway lib state))}
    (hOrder : CommitsInOrder shared events)
    (hRun : Run (.initial shared) events after) :
    AssignsInOrder events := by
  rintro first second thread update rfl
  rcases hRun.split_at with
    ⟨before, _, hBefore, hStep, _⟩
  rcases step_assigned hBefore hStep with
    ⟨path, current, loaded, _, hDir, hCurrent, hLe, _,
      hLoad⟩
  have hClean : ¬before.state.Poisoned := by
    cases hStep with
    | call _ hExec =>
        exact Exec.not_poisoned_of_assigned hExec
  exact hOrder first second thread update .assigned before
    path loaded current rfl hBefore hClean hDir hLoad
    hCurrent hLe

/-
  In every run whose reloads commit in the order of their
  loads, no reload is lost.
-/
theorem no_reload_lost
    {now : Int}
    {events : List (Event (gateway lib state))}
    (hRange : InClockRange now)
    (hStartup :
      startup lib config files now = .ok (state, shared))
    (hDir : config.storeDir = some path)
    (hRun : Run (.initial shared) events after)
    (hCommits : CommitsInOrder shared events) :
    NoReloadLost path files events := by
  have hOrder := hCommits.assigns hRun
  intro first second before last reloader answer later
    request store hAnswered hReload hStatus hStart hRead
  have hStarted := startup_ok hRange hStartup
  have hStateDir : state.config.storeDir = some path := by
    have hValid :=
      GatewayConfig.validate_ok _ _ _ hStarted.validated
    rw [hValid.2.2.2.2, hDir]
  subst hAnswered
  have hLe :=
    installedAt_of_answered hRun hOrder hReload hStatus
  rcases answer_before_call hRun hStart hRead with
    ⟨middle, rfl⟩
  rw [hRead] at hRun hOrder
  rcases hRun.split_at with
    ⟨atRead, _, hBefore, hStep, _⟩
  have hMono := installedAt_append first
    (.answer reloader answer :: middle) hOrder.of_append
  refine ⟨_, hLe.trans hMono, ?_⟩
  apply (ledger_holds hStarted hStateDir hBefore).installed
  cases hStep with
  | call _ hExec =>
      rcases Exec.readStore_reply hExec with
        ⟨lock, hLock, hReply⟩
      split at hReply
      · cases hReply
      · cases hReply
        rw [SharedState.installed, hLock]
        rfl

theorem CommitsInOrder.of_not_written
    {events : List (Event (gateway lib state))}
    (hEvents : ∀ thread update reply,
      .call thread ⟨.writeStore update, reply⟩ ∉ events) :
    CommitsInOrder shared events := by
  rintro first second thread update reply _ _ _ _ rfl
  exact absurd (by simp) (hEvents thread update reply)

theorem CommitsInOrder.snoc
    {first : List (Event (gateway lib state))}
    {event : Event (gateway lib state)}
    (hOrder : CommitsInOrder shared first)
    (hEvent : ∀ thread update reply,
      event = .call thread ⟨.writeStore update, reply⟩ →
        (ledgerOf first).installedAt ≤
          (ledgerOf first).loadedAt thread) :
    CommitsInOrder shared (first ++ [event]) := by
  intro before later thread update reply atWrite path loaded
    current hEvents hBefore hClean hDir hLoad hCurrent hLe
  rcases List.eq_nil_or_concat later with
    rfl | ⟨rest, last, rfl⟩
  · rcases List.append_inj' hEvents rfl with ⟨rfl, hCall⟩
    exact hEvent thread update reply
      (List.singleton_inj.mp hCall)
  · rw [List.concat_eq_append, ← List.cons_append,
      ← List.append_assoc] at hEvents
    rcases List.append_inj' hEvents rfl with ⟨hFirst, _⟩
    exact hOrder before rest thread update reply atWrite path
      loaded current hFirst hBefore hClean hDir hLoad
      hCurrent hLe

/- What does not write does not disturb the order. -/
theorem CommitsInOrder.append
    {first second : List (Event (gateway lib state))}
    (hOrder : CommitsInOrder shared first)
    (hSecond : ∀ thread update reply,
      .call thread ⟨.writeStore update, reply⟩ ∉ second) :
    CommitsInOrder shared (first ++ second) := by
  induction second using List.reverseRecOn with
  | nil => rwa [List.append_nil]
  | append_singleton second event ih =>
      rw [← List.append_assoc]
      refine CommitsInOrder.snoc (ih ?_) ?_
      · intro thread update reply hCall
        exact hSecond thread update reply
          (List.mem_append_left _ hCall)
      · rintro thread update reply rfl
        exact absurd (by simp) (hSecond thread update reply)

/- A commit is in order when its load is late enough. -/
theorem CommitsInOrder.commit
    {first : List (Event (gateway lib state))}
    (thread : Nat)
    (loaded : PreparedContentStore)
    (hOrder : CommitsInOrder shared first)
    (hLe :
      (ledgerOf first).installedAt ≤
        (ledgerOf first).loadedAt thread) :
    CommitsInOrder shared
      (first ++ commitEvents lib state thread loaded) := by
  rw [commitEvents, commitCalls, List.map_cons,
    List.cons_append, List.append_cons]
  refine CommitsInOrder.append (hOrder.snoc ?_) (by simp)
  intro other update reply hCall
  cases hCall
  exact hLe

/- The new page is published, reloaded and requested. -/
theorem no_reload_lost_sample :
    ∃ (events : List (Event (gateway sampleExt sampleState)))
      (after : Config (gateway sampleExt sampleState)),
      Run (.initial sampleShared) events after ∧
        CommitsInOrder sampleShared events ∧
          NoReloadLost sampleDir (samplePageFiles "Old")
            events := by
  rcases run_change
      (.initial sampleShared :
        Config (gateway sampleExt sampleState))
      (samplePageFiles "New") with
    ⟨changed, hChange, hChanged, hThreads⟩
  have hLock :
      changed.state.lock =
        some ⟨samplePage "Old", false, none⟩ := by
    rw [hChanged]
    rfl
  have hFiles :
      changed.state.files = samplePageFiles "New" := by
    rw [hChanged]
  rcases run_reload rfl rfl (congrFun hThreads 0) hLock
      sampleNow_inClockRange
      (hFiles ▸ samplePage_new_loads)
      (samplePage_sequence_le _ _) with
    ⟨reloaded, hReload, hReloaded, hOthers⟩
  rcases run_request (getRequest pageTarget .empty)
      ((hOthers 1 (by decide)).trans (congrFun hThreads 1))
      (sampleEnv_agrees (by rw [hReloaded, committed_lock]))
      (by rw [hReloaded]; rfl) with
    ⟨after, hRequest⟩
  have hRun := (hChange.append hReload).append hRequest
  rw [← List.append_assoc] at hRun
  have hLoad : CommitsInOrder sampleShared
      ([Event.change (samplePageFiles "New")] ++
        loadEvents sampleExt sampleState 0 sampleDir
          (samplePage "New")) :=
    .of_not_written (by simp [loadEvents])
  have hOrder :=
    (hLoad.commit 0 (samplePage "New")
      (Nat.zero_le _)).append
    (writeStore_not_mem_requestEvents sampleExt sampleState 1
      (sampleEnv (samplePage "New"))
      (getRequest pageTarget .empty))
  exact ⟨_, after, hRun, hOrder,
    no_reload_lost sampleNow_inClockRange sample_startup rfl
      hRun hOrder⟩

/- An older load is assigned after a newer reload. -/
def outdatedEvents :
    List (Event (gateway sampleExt sampleState)) :=
  loadEvents sampleExt sampleState 0 sampleDir
      (samplePage "Old") ++
    [.change (samplePageFiles "New")] ++
    (loadEvents sampleExt sampleState 1 sampleDir
        (samplePage "New") ++
      commitEvents sampleExt sampleState 1
        (samplePage "New")) ++
    commitEvents sampleExt sampleState 0 (samplePage "Old")

/- A request is then served from the older load. -/
theorem run_outdatedEvents :
    ∃ after,
      Run (.initial sampleShared)
        (outdatedEvents ++
          requestEvents sampleExt sampleState 2
            (sampleEnv (samplePage "Old"))
            (getRequest pageTarget .empty))
        after := by
  have hIdle (thread : Nat) :
      (Config.initial sampleShared :
        Config (gateway sampleExt sampleState)).threads
          thread = .idle :=
    rfl
  rcases run_load rfl rfl (hIdle 0) sampleNow_inClockRange
      samplePage_old_loads with
    ⟨loaded, hLoad, hLoaded, hRunning, hOthers⟩
  rcases run_change loaded (samplePageFiles "New") with
    ⟨changed, hChange, hChanged, hThreads⟩
  rw [hLoaded] at hChanged
  have hFiles :
      changed.state.files = samplePageFiles "New" := by
    rw [hChanged]
  have hLock :
      changed.state.lock =
        some ⟨samplePage "Old", false, none⟩ := by
    rw [hChanged]
    rfl
  rcases run_reload rfl rfl
      ((congrFun hThreads 1).trans (hOthers 1 (by decide)))
      hLock sampleNow_inClockRange
      (hFiles ▸ samplePage_new_loads)
      (samplePage_sequence_le _ _) with
    ⟨reloaded, hReload, hReloaded, hOthers'⟩
  rcases run_commit
      ((hOthers' 0 (by decide)).trans
        ((congrFun hThreads 0).trans hRunning))
      (by rw [hReloaded, committed_lock])
      (samplePage_sequence_le _ _) with
    ⟨outdated, hCommit, hOutdated, hOthers''⟩
  rcases run_request (getRequest pageTarget .empty)
      ((hOthers'' 2 (by decide)).trans
        ((hOthers' 2 (by decide)).trans
          ((congrFun hThreads 2).trans
            (hOthers 2 (by decide)))))
      (sampleEnv_agrees (by rw [hOutdated, committed_lock]))
      (by rw [hOutdated]; rfl) with
    ⟨after, hRequest⟩
  exact ⟨after,
    (((hLoad.append hChange).append hReload).append
      hCommit).append hRequest⟩

theorem publishes_outdatedEvents
    (tail : List (Event (gateway sampleExt sampleState))) :
    publishes (samplePageFiles "Old")
        (outdatedEvents ++ tail) =
      [samplePageFiles "Old", samplePageFiles "New"] ++
        changesOf tail := by
  simp [publishes, outdatedEvents]

/-
  An older load is assigned after a newer one: the reload of
  the new page was answered 200, and the old page is served.
-/
theorem no_reload_lost_overtaken :
    ∃ (events : List (Event (gateway sampleExt sampleState)))
      (after : Config (gateway sampleExt sampleState)),
      startup sampleExt sampleConfig (samplePageFiles "Old")
          sampleNow =
        .ok (sampleState, sampleShared) ∧
      Run (.initial sampleShared) events after ∧
      ValidPublishes sampleJson sampleDir
        (publishes (samplePageFiles "Old") events) ∧
      ¬ NoReloadLost sampleDir (samplePageFiles "Old")
        events := by
  rcases run_outdatedEvents with ⟨after, hRun⟩
  rcases requestEvents_eq sampleExt sampleState 2
      (sampleEnv (samplePage "Old"))
      (getRequest pageTarget .empty)
      (samplePage "Old") rfl rfl with
    ⟨last, hEvents⟩
  refine ⟨_, after, sample_startup, hRun, ?_, ?_⟩
  · refine ⟨[1, 1], ?_, by decide⟩
    rw [publishes_outdatedEvents, changesOf_requestEvents,
      List.append_nil]
    exact .cons
      ⟨sampleNow, _, sampleNow_inClockRange,
        samplePage_old_loads, rfl⟩
      (.cons
        ⟨sampleNow, _, sampleNow_inClockRange,
          samplePage_new_loads, rfl⟩
        .nil)
  · intro hKept
    have hServed := hKept
      (loadEvents sampleExt sampleState 0 sampleDir
          (samplePage "Old") ++
        [.change (samplePageFiles "New")] ++
        loadEvents sampleExt sampleState 1 sampleDir
          (samplePage "New") ++
        (commitCalls (samplePage "New")).map (Event.call 1))
      (commitEvents sampleExt sampleState 0
          (samplePage "Old") ++
        requestEvents sampleExt sampleState 2
          (sampleEnv (samplePage "Old"))
          (getRequest pageTarget .empty))
      (outdatedEvents ++
        [.start 2 (.publicRequest
            (getRequest pageTarget .empty)),
          .call 2 ⟨.fetchAdd .requestsTotal, ()⟩])
      last 1
      (reloadedResponse (samplePage "New").viewCount
        (samplePage "New").manifestSequence)
      2 (getRequest pageTarget .empty) (samplePage "Old")
      (by simp [outdatedEvents, commitEvents])
      (by simp [loadEvents]) rfl (by simp [hEvents])
      (by simp [hEvents])
    rcases hServed with
      ⟨index, hIndex, files, now, hFiles, _, hOld⟩
    have hLater : 1 ≤ index := hIndex
    rw [publishes_outdatedEvents] at hFiles
    cases index with
    | zero => omega
    | succ index =>
        cases index with
        | zero =>
            cases hFiles
            exact samplePage_new_not_old now hOld
        | succ index => cases hFiles

end System

end AjarGateway

------------------------------------------------------------
-- Publishes That Increase The Sequence
------------------------------------------------------------

namespace AjarGateway

namespace System

open Http Interleaving Serving Store

/- A store has the sequence of the files it is from. -/
theorem LoadedFrom.sequence
    {json : SerdeJson} {path : Path}
    {published : List FileSystem} {sequences : List Int}
    {index : Nat} {store : PreparedContentStore}
    (hSequences :
      List.Forall₂ (HasSequence json path) published
        sequences)
    (hLoaded : LoadedFrom json path published index store) :
    sequences[index]? = some store.manifestSequence := by
  rcases hLoaded with ⟨files, now, hFiles, _, hLoad⟩
  rcases List.getElem?_eq_some_iff.mp hFiles with
    ⟨hIndex, rfl⟩
  have hIndex' : index < sequences.length :=
    hSequences.length_eq ▸ hIndex
  rcases hSequences.get hIndex hIndex' with
    ⟨now', other, _, hOther, hSequence⟩
  rw [List.getElem?_eq_getElem hIndex']
  have hSame := loadFrom_manifest_unique _ _ _ _ _ _ _ hLoad
    hOther
  exact congrArg some
    (hSequence.symm.trans (congrArg Manifest.sequence
      hSame.symm))

variable {lib : Externals} {state : ProxyState}
variable {config : GatewayConfig} {files : FileSystem}
variable {shared : SharedState} {path : Path}
variable {after : Config (gateway lib state)}

/-
  When every publish has a higher sequence than the one
  before it, the sequence check keeps commits in order.
-/
theorem commitsInOrder_of_increasing
    {events : List (Event (gateway lib state))}
    {sequences : List Int}
    (hStarted : Started lib config files state shared)
    (hDir : state.config.storeDir = some path)
    (hSequences :
      List.Forall₂ (HasSequence lib.json path)
        (publishes files events) sequences)
    (hIncreasing : sequences.Pairwise (· < ·)) :
    CommitsInOrder shared events := by
  rintro first second thread update reply before loadDir
    loaded current rfl hBefore _ hLoadDir hLoad hCurrent hLe
  rw [hDir] at hLoadDir
  cases hLoadDir
  have hHolds := ledger_holds hStarted hDir hBefore
  have hPublishes (tail : List (Event (gateway lib state))) :
      publishes files (first ++ tail) =
        publishes files first ++
          changesOf tail := by
    simp [publishes]
  rw [hPublishes] at hSequences
  have hInstalledAt :=
    ((hHolds.installed current hCurrent).append).sequence
      hSequences
  have hLoadedAt :=
    ((hHolds.loaded thread loaded hLoad).append).sequence
      hSequences
  by_contra hOvertaken
  rw [not_le] at hOvertaken
  rcases List.getElem?_eq_some_iff.mp hInstalledAt with
    ⟨hBound, hInstalled⟩
  rcases List.getElem?_eq_some_iff.mp hLoadedAt with
    ⟨hBound', hLoaded⟩
  have hLt :=
    List.pairwise_iff_getElem.mp hIncreasing _ _ hBound'
      hBound hOvertaken
  rw [hInstalled, hLoaded] at hLt
  omega

end System

end AjarGateway
