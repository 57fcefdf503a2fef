import AjarGateway.Interleaving.Pool
import AjarGateway.Store.Reference

/-
  Loads against renames of the store directory.

  Every generation of the store directory is a filesystem of
  its own.  A rename puts another generation in place at any
  moment, also between two reads of one load, and each read
  sees the generation in place.  What a rename may change
  depends on where it lands among the reads of a load.

  Key definitions include:
    * `Store.loader`
    * `Store.inPlace`
    * `Store.RenamesSpare`

  Key theorems include:
    * `Store.sameFor_inPlace`
    * `Store.load_consistent`
-/

------------------------------------------------------------
-- Generations
------------------------------------------------------------

namespace AjarGateway

namespace Store

open Interleaving

/- Loads over a directory that is replaced by renames. -/
abbrev loader
    (json : SerdeJson)
    (path : Path) :
    Machine hostSignature
      (Except StoreLoadError PreparedContentStore) where
  State := FileSystem
  Handler := Unit
  Change := FileSystem
  program := fun _ => (loadFromDir json path).run
  exec := fun _ files call after =>
    after = files ∧
      ∃ now,
        InClockRange now ∧
          call.reply = files.reply now call.op
  unwind := fun _ _ _ _ => False
  cancellable := fun _ => False
  change := fun _ renamed after => after = renamed

variable {json : SerdeJson} {path : Path}

/- A complete and valid generation. -/
def IsGeneration
    (json : SerdeJson)
    (path : Path)
    (files : FileSystem) : Prop :=
  ∃ now store,
    InClockRange now ∧
      loadFrom json path files now = .ok store

/- The generations that have been in place, in order. -/
def generations
    (files : FileSystem)
    (events : List (Event (loader json path))) :
    List FileSystem :=
  files :: changesOf events

/- The generation in place after these events. -/
def inPlace
    (files : FileSystem)
    (events : List (Event (loader json path))) :
    FileSystem :=
  (changesOf events).getLast?.getD files

theorem inPlace_append
    (files : FileSystem)
    (first second : List (Event (loader json path))) :
    inPlace files (first ++ second) =
      inPlace (inPlace files first) second := by
  simp [inPlace, Option.getD_or]

theorem inPlace_mem_generations
    (files : FileSystem)
    (first second : List (Event (loader json path))) :
    inPlace files first ∈
      generations files (first ++ second) := by
  rw [generations, changesOf_append, inPlace]
  cases hLast : (changesOf first).getLast? with
  | none => exact List.mem_cons_self
  | some renamed =>
      apply List.mem_cons_of_mem
      apply List.mem_append_left
      exact List.mem_of_getLast? hLast

theorem state_inPlace
    {files : FileSystem}
    {events : List (Event (loader json path))}
    {after : Config (loader json path)}
    (hRun : Run (.initial files) events after) :
    after.state = inPlace files events := by
  induction hRun with
  | nil => rfl
  | @snoc events before event after hRun hStep ih =>
      cases hStep with
      | change hChange =>
          rw [hChange]
          simp [inPlace]
      | call _ hExec =>
          rw [Config.setThread_state, hExec.1, ih]
          simp [inPlace]
      | start _ =>
          rw [Config.setThread_state, ih]
          simp [inPlace]
      | answer _ =>
          rw [Config.setThread_state, ih]
          simp [inPlace]
      | panic _ hUnwind => exact hUnwind.elim
      | cancel _ hCancel => exact hCancel.elim

end Store

end AjarGateway

------------------------------------------------------------
-- A Load That A Rename Interrupts
------------------------------------------------------------

namespace AjarGateway

namespace Store

open Interleaving

/- The calls of a load from the sample directory. -/
def sampleCalls
    (index url heading : String) :
    List (Call hostSignature) :=
  (loadFromDir sampleJson sampleDir).run.callsWith
    ((sampleFiles index url heading).reply 1782864000)

variable {index url heading : String}

/-
  After the manifest, a load from a sample directory reads
  what any other manifest leaves as it is.
-/
theorem sampleCalls_eq
    (hManifest : sampleManifest index ∈ sampleDocuments)
    (hView : sampleView url heading ∈ sampleDocuments)
    (hUrl : requestTargetFromViewUrl url = .ok url) :
    ∃ rest,
      sampleCalls index url heading =
          artifactRead sampleDir manifestKey
              (sampleManifest index).bytes ::
            rest ∧
        ∀ other, ∀ call ∈ rest,
          call.reply =
            (sampleFiles other url heading).reply 1782864000
              call.op := by
  have hLoad := sample_loads hManifest hView hUrl
  have hReplies (call : Call hostSignature)
      (hCall : call ∈ sampleCalls index url heading) :
      call.reply =
        (sampleFiles index url heading).reply 1782864000
          call.op :=
    Program.reply_of_mem_callsWith _ _ call hCall
  rcases (loadFrom_ok_calls _ _ _ _ _ hLoad).order with
    ⟨now, entries, names, viewReads, hOrder, _, hNames,
      hReads⟩
  refine ⟨_, hOrder, ?_⟩
  change sampleCalls index url heading = _ at hOrder
  rw [hOrder] at hReplies
  intro other call hCall
  have hReply := hReplies call (List.mem_cons_of_mem _ hCall)
  simp only [List.mem_cons] at hCall
  rcases hCall with rfl | rfl | rfl | hView
  · exact hReply
  · exact hReply.trans
      (sample_index_read.trans sample_index_read.symm)
  · exact hReply
  · -- The listing only names the sample view file.
    have hEntries := hReplies
      ⟨.readDir (sampleDir.join (Rust.utf8 "views")),
        .ok entries⟩ (by simp)
    cases hEntries.trans sample_listing
    cases hNames.symm.trans Page.names
    rcases hReads call hView with
      ⟨name, hName, key, bytes, hKey, rfl⟩
    rw [List.mem_singleton] at hName
    subst hName
    cases hKey.symm.trans Page.name
    exact hReply.trans
      (sample_view_read.trans sample_view_read.symm)

/- A load up to the renames that come after its first call. -/
def interruptedStart
    (first : Call hostSignature)
    (passing : List FileSystem) :
    List (Event (loader json path)) :=
  [.start 0 (), .call 0 first] ++ passing.map Event.change

/- The last rename, and the load from there on. -/
def interruptedEnd
    (renamed : FileSystem)
    (rest : List (Call hostSignature))
    (store : PreparedContentStore) :
    List (Event (loader json path)) :=
  .change renamed ::
    (rest.map (Event.call 0) ++ [.answer 0 (.ok store)])

/- The events of a load that renames interrupt. -/
def interruptedEvents
    (first : Call hostSignature)
    (passing : List FileSystem)
    (renamed : FileSystem)
    (rest : List (Call hostSignature))
    (store : PreparedContentStore) :
    List (Event (loader json path)) :=
  interruptedStart first passing ++
    interruptedEnd renamed rest store

theorem changesOf_interruptedEvents
    (json : SerdeJson)
    (path : Path)
    (first : Call hostSignature)
    (passing : List FileSystem)
    (renamed : FileSystem)
    (rest : List (Call hostSignature))
    (store : PreparedContentStore) :
    changesOf
        (interruptedEvents first passing renamed rest store :
          List (Event (loader json path))) =
      passing ++ [renamed] := by
  have hPassing :
      changesOf
          (passing.map Event.change :
            List (Event (loader json path))) =
        passing := by
    simp [changesOf, Event.changeOf, Function.comp_def]
  simp [interruptedEvents, interruptedStart, interruptedEnd,
    hPassing]

/- Only the start of the load is answered. -/
theorem answer_mem_interruptedEvents
    {first : Call hostSignature}
    {passing : List FileSystem}
    {renamed : FileSystem}
    {rest : List (Call hostSignature)}
    {store loaded : PreparedContentStore}
    {thread : Nat}
    (hAnswer :
      (.answer thread (.ok loaded) :
          Event (loader json path)) ∈
        interruptedEvents first passing renamed rest store) :
    thread = 0 ∧ loaded = store := by
  simpa [interruptedEvents, interruptedStart,
    interruptedEnd] using hAnswer

/- Renames may come at any moment. -/
theorem run_renames
    (c : Config (loader json path))
    (passing : List FileSystem) :
    ∃ after : Config (loader json path),
      Run c (passing.map Event.change) after ∧
        after.threads = c.threads := by
  induction passing using List.reverseRecOn with
  | nil => exact ⟨c, .nil, rfl⟩
  | append_singleton passing renamed ih =>
      rcases ih with ⟨before, hRun, hThreads⟩
      refine ⟨{ before with state := renamed }, ?_, hThreads⟩
      rw [List.map_append]
      exact hRun.snoc (.change rfl)

/- Calls that the generation in place answers can be made. -/
theorem execs_replies
    {json : SerdeJson} {path : Path}
    {files : FileSystem} {now : Int} {thread : Nat}
    (calls : List (Call hostSignature))
    (hRange : InClockRange now)
    (hReplies : ∀ call ∈ calls,
      call.reply = files.reply now call.op) :
    (loader json path).Execs thread files calls files := by
  induction calls with
  | nil => exact .nil _
  | cons call rest ih =>
      refine .cons ⟨rfl, now, hRange,
        hReplies call List.mem_cons_self⟩ (ih ?_)
      intro other hOther
      exact hReplies other (List.mem_cons_of_mem _ hOther)

/-
  Renames may follow the first call of a load; the other
  calls then see the generation renamed last.
-/
theorem run_interrupted
    {json : SerdeJson} {path : Path}
    {files renamed : FileSystem} {now : Int}
    {first : Call hostSignature}
    {rest : List (Call hostSignature)}
    {store : PreparedContentStore}
    (passing : List FileSystem)
    (hRange : InClockRange now)
    (hPerforms :
      Performs (loadFromDir json path).run (first :: rest)
        (.ret (.ok store)))
    (hFirst : first.reply = files.reply now first.op)
    (hRest : ∀ call ∈ rest,
      call.reply = renamed.reply now call.op) :
    ∃ after : Config (loader json path),
      Run (.initial files)
        (interruptedEvents first passing renamed rest store)
        after := by
  have hSplit :
      Performs (loadFromDir json path).run ([first] ++ rest)
        (.ret (.ok store)) :=
    hPerforms
  rcases hSplit.split with ⟨middle, hOne, hMore⟩
  have hStart :
      Step (.initial files : Config (loader json path))
        (.start 0 ()) _ :=
    .start rfl
  rcases Run.exists_of_performs
      (Config.setThread_threads_self
        (.initial files : Config (loader json path)) 0
        (.running (loadFromDir json path).run))
      hOne
      (execs_replies [first] hRange
        (List.forall_mem_singleton.mpr hFirst)) with
    ⟨before, hBefore, _, hRunning⟩
  rcases run_renames before passing with
    ⟨passed, hPassed, hThreads⟩
  rw [← hThreads] at hRunning
  have hRename :
      Step passed (.change renamed)
        { passed with state := renamed } :=
    .change rfl
  rcases Run.exists_of_performs
      (c := { passed with state := renamed }) hRunning hMore
      (execs_replies rest hRange hRest) with
    ⟨last, hLast, _, hReturned⟩
  exact ⟨_,
    ((Run.cons hStart hBefore).append hPassed).append
      (Run.cons hRename (hLast.snoc (.answer hReturned)))⟩

/-
  The sample load over a directory whose manifest names
  `index`, interrupted by renames, the last of which is to
  another manifest.
-/
theorem sample_interrupted
    (index heading before other : String)
    (passing : List FileSystem)
    (hManifest : sampleManifest index ∈ sampleDocuments)
    (hView : sampleView "/page" heading ∈ sampleDocuments) :
    ∃ (rest : List (Call hostSignature))
      (after : Config (loader sampleJson sampleDir)),
      Run (.initial (sampleFiles index "/page" before))
          (interruptedEvents
            (artifactRead sampleDir manifestKey
              (sampleManifest index).bytes)
            passing (sampleFiles other "/page" heading) rest
            (sampleStore index "/page" heading))
          after ∧
        ∀ anyIndex, ∀ call ∈ rest,
          call.reply =
            (sampleFiles anyIndex "/page" heading).reply
              1782864000 call.op := by
  have hUrl :
      requestTargetFromViewUrl "/page" = .ok "/page" := by
    decide
  have hLoad := sample_loads hManifest hView hUrl
  rcases sampleCalls_eq hManifest hView hUrl with
    ⟨rest, hCalls, hReplies⟩
  have hPerforms :=
    performs_callsWith
      ((sampleFiles index "/page" heading).reply 1782864000)
      (loadFromDir sampleJson sampleDir).run
  change Performs _ (sampleCalls index "/page" heading)
    (.ret (loadFrom _ _ _ _)) at hPerforms
  rw [hCalls, hLoad] at hPerforms
  have hFirst :
      (sampleFiles index "/page" before).readFile
          ((⟨sampleDir⟩ : FilesystemStorageBackend).pathFor
            manifestKey) =
        .ok (sampleManifest index).bytes :=
    sample_manifest_read
  rcases run_interrupted passing ⟨by decide, by decide⟩
      hPerforms hFirst.symm (hReplies other) with
    ⟨after, hRun⟩
  exact ⟨rest, after, hRun, hReplies⟩

end Store

end AjarGateway

------------------------------------------------------------
-- Consistent Loads
------------------------------------------------------------

namespace AjarGateway

namespace Store

open Interleaving

variable {json : SerdeJson} {path : Path}

/- Both generations answer the operation alike. -/
def SameFor (files renamed : FileSystem) : HostOp → Prop
| .readFile file =>
    files.readFile file = renamed.readFile file
| .readDir directory =>
    files.readDir directory = renamed.readDir directory
| .nowUnixSeconds => True

theorem sameFor_iff
    (files renamed : FileSystem)
    (op : HostOp)
    (now : Int) :
    SameFor files renamed op ↔
      files.reply now op = renamed.reply now op := by
  cases op <;> simp [SameFor, FileSystem.reply]

/- Every rename leaves what the thread has read as it was. -/
def KeepsRead
    (files : FileSystem)
    (thread : Nat)
    (events : List (Event (loader json path))) : Prop :=
  ∀ before renamed after,
    events = before ++ .change renamed :: after →
      ∀ call, .call thread call ∈ before →
        SameFor (inPlace files before) renamed call.op

/- Every rename leaves what is still to be read as it was. -/
def KeepsUnread
    (files : FileSystem)
    (thread : Nat)
    (events : List (Event (loader json path))) : Prop :=
  ∀ before renamed after,
    events = before ++ .change renamed :: after →
      ∀ call, .call thread call ∈ after →
        SameFor (inPlace files before) renamed call.op

/-
  From some moment on, the renames leave what the load has
  still to read as it was; before, they leave what it has
  already read as it was.
-/
def RenamesSpare
    (files : FileSystem)
    (thread : Nat)
    (events : List (Event (loader json path))) : Prop :=
  ∃ first second,
    events = first ++ second ∧
      KeepsRead files thread first ∧
        KeepsUnread (inPlace files first) thread second

/-
  Renames that all leave an operation as it was do so
  together: induction on the events, where only a rename
  puts another generation in place.
-/
theorem sameFor_inPlace
    {files : FileSystem} {op : HostOp}
    {events : List (Event (loader json path))}
    (hRenames : ∀ before renamed after,
      events = before ++ .change renamed :: after →
        SameFor (inPlace files before) renamed op) :
    SameFor files (inPlace files events) op := by
  induction events using List.reverseRecOn with
  | nil => exact (sameFor_iff _ _ _ 0).mpr rfl
  | append_singleton events event ih =>
      have hBefore := ih fun before renamed after hEvents =>
        hRenames before renamed (after ++ [event])
          (by simp [hEvents])
      cases event with
      | change renamed =>
          have hLast := hRenames events renamed [] rfl
          have hPlace :
              inPlace files (events ++ [.change renamed]) =
                renamed := by
            simp [inPlace]
          rw [hPlace]
          rw [sameFor_iff _ _ _ 0] at hBefore hLast ⊢
          exact hBefore.trans hLast
      | start _ _ | call _ _ | answer _ _ | panic _
      | cancel _ =>
          simpa [inPlace, changesOf, Event.changeOf] using
            hBefore

/- A call returns what the generation in place holds. -/
theorem reply_inPlace
    {files : FileSystem} {thread : Nat}
    {call : Call hostSignature}
    {first second : List (Event (loader json path))}
    {after : Config (loader json path)}
    (hRun :
      Run (.initial files)
        (first ++ .call thread call :: second) after) :
    ∃ now,
      call.reply =
        (inPlace files first).reply now call.op := by
  rcases hRun.performs_of_call with
    ⟨before, _, _, _, hBefore, _, hExec, _, _⟩
  rcases hExec with ⟨_, now, _, hReply⟩
  rw [state_inPlace hBefore] at hReply
  exact ⟨now, hReply⟩

/-
  Every call of a load that the renames spare is answered as
  the generation at the turn would answer it: the calls
  before it are kept up to the turn, and the calls after it
  from the turn on.
-/
theorem reply_of_spared
    {files : FileSystem} {thread : Nat}
    {call : Call hostSignature}
    {first second : List (Event (loader json path))}
    {after : Config (loader json path)}
    (hRun : Run (.initial files) (first ++ second) after)
    (hRead : KeepsRead files thread first)
    (hUnread :
      KeepsUnread (inPlace files first) thread second)
    (hCall : .call thread call ∈ first ++ second) :
    ∃ now,
      call.reply =
        (inPlace files first).reply now call.op := by
  rcases List.mem_append.mp hCall with hFirst | hSecond
  · rcases List.append_of_mem hFirst with
      ⟨before, later, rfl⟩
    rw [List.append_assoc, List.cons_append] at hRun
    rcases reply_inPlace hRun with ⟨now, hReply⟩
    have hSame :
        SameFor (inPlace files before)
          (inPlace files
            (before ++ .call thread call :: later))
          call.op := by
      rw [inPlace_append]
      apply sameFor_inPlace
      intro middle renamed rest hEvents
      have hMade : .call thread call ∈ middle := by
        cases middle with
        | nil => cases hEvents
        | cons event middle =>
            cases hEvents
            exact List.mem_cons_self
      rw [← inPlace_append]
      exact hRead (before ++ middle) renamed rest
        (by simp [hEvents]) call
        (List.mem_append_right _ hMade)
    rw [sameFor_iff _ _ _ now] at hSame
    exact ⟨now, hReply.trans hSame⟩
  · rcases List.append_of_mem hSecond with
      ⟨before, later, rfl⟩
    rw [← List.append_assoc] at hRun
    rcases reply_inPlace hRun with ⟨now, hReply⟩
    rw [inPlace_append] at hReply
    have hSame :
        SameFor (inPlace files first)
          (inPlace (inPlace files first) before) call.op := by
      apply sameFor_inPlace
      rintro middle renamed rest rfl
      exact hUnread middle renamed _ (by simp; rfl) call
        (by simp)
    rw [sameFor_iff _ _ _ now] at hSame
    exact ⟨now, hReply.trans hSame.symm⟩

/- Every store that is returned is of one generation. -/
def ConsistentLoads
    (files : FileSystem)
    (events : List (Event (loader json path))) : Prop :=
  ∀ thread store,
    .answer thread (.ok store) ∈ events →
      ∃ generation ∈ generations files events,
        ComesFrom path generation store

/-
  In every run in which the renames spare each load that
  succeeds, every store returned is of one generation.
-/
theorem load_consistent
    {files : FileSystem}
    {events : List (Event (loader json path))}
    {after : Config (loader json path)}
    (hRun : Run (.initial files) events after)
    (hRenames : ∀ thread store,
      .answer thread (.ok store) ∈ events →
        RenamesSpare files thread events) :
    ConsistentLoads files events := by
  intro thread store hAnswer
  rcases hRenames thread store hAnswer with
    ⟨first, second, rfl, hRead, hUnread⟩
  refine ⟨inPlace files first,
    inPlace_mem_generations files first second, ?_⟩
  rcases hRun.performs_of_answer hAnswer with
    ⟨_, _, hPerforms⟩
  apply (performs_loadFromDir_ok _ _ _ _
    hPerforms).comesFrom
  intro call hCall
  rw [mem_callsOf_iff] at hCall
  exact reply_of_spared hRun hRead hUnread hCall

/-
  A load whose manifest is read from the first generation
  and the rest from the third: the second, which no read has
  seen, has them all.
-/
theorem load_consistent_sample :
    ∃ (events : List (Event (loader sampleJson sampleDir)))
      (after : Config (loader sampleJson sampleDir)),
      Run (.initial (sampleFiles "/index" "/page" "Old"))
          events after ∧
        changesOf events =
          [sampleFiles "/index" "/page" "New",
            sampleFiles "/views" "/page" "New"] ∧
          .answer 0
              (.ok (sampleStore "/index" "/page" "New")) ∈
            events ∧
            ConsistentLoads
              (sampleFiles "/index" "/page" "Old")
              events := by
  have hManifest :
      sampleManifest "/index" ∈ sampleDocuments := by
    simp [sampleDocuments]
  rcases sample_interrupted "/index" "New" "Old" "/views"
      [sampleFiles "/index" "/page" "New"]
      hManifest (by simp [sampleDocuments]) with
    ⟨rest, after, hRun, hReplies⟩
  refine ⟨_, after, hRun,
    changesOf_interruptedEvents _ _ _ _ _ _ _,
    by simp [interruptedEvents, interruptedEnd],
    load_consistent hRun ?_⟩
  intro thread store hAnswer
  rcases answer_mem_interruptedEvents hAnswer with ⟨rfl, _⟩
  refine ⟨_, _, rfl, ?_, ?_⟩
  · -- The first rename keeps the manifest that was read.
    rintro (_ | ⟨_, _ | ⟨_, _ | ⟨_, before⟩⟩⟩) renamed after
      hEvents call hCall
    all_goals
      simp [interruptedStart] at hEvents
    rcases hEvents with ⟨rfl, rfl, rfl, _⟩
    simp only [List.mem_cons, reduceCtorEq, Event.call.injEq,
      true_and, List.not_mem_nil, or_false, false_or]
      at hCall
    subst hCall
    exact sample_manifest_read.trans
      sample_manifest_read.symm
  · -- The second keeps everything but the manifest.
    rintro (_ | ⟨_, before⟩) renamed after hEvents call hCall
    · simp only [interruptedEnd, List.nil_append,
        List.cons.injEq, Event.change.injEq] at hEvents
      rcases hEvents with ⟨rfl, rfl⟩
      have hRest : call ∈ rest := by
        simpa using hCall
      rw [sameFor_iff _ _ _ 1782864000]
      exact (hReplies "/index" call hRest).symm.trans
        (hReplies "/views" call hRest)
    · simp only [interruptedEnd, List.cons_append,
        List.cons.injEq] at hEvents
      have hChange := congrArg changesOf hEvents.2
      simp at hChange

/-
  The manifest of the old generation with the view of the
  new one is returned as a store.
-/
theorem load_consistent_mixed :
    ∃ (events : List (Event (loader sampleJson sampleDir)))
      (after : Config (loader sampleJson sampleDir)),
      Run (.initial (sampleFiles "/index" "/page" "Old"))
          events after ∧
        (∀ generation ∈
          generations (sampleFiles "/index" "/page" "Old")
            events,
          IsGeneration sampleJson sampleDir generation) ∧
        ¬ ConsistentLoads
          (sampleFiles "/index" "/page" "Old") events := by
  have hIndex :
      sampleManifest "/index" ∈ sampleDocuments := by
    simp [sampleDocuments]
  have hViews :
      sampleManifest "/views" ∈ sampleDocuments := by
    simp [sampleDocuments]
  have hOld : sampleView "/page" "Old" ∈ sampleDocuments := by
    simp [sampleDocuments]
  have hNew : sampleView "/page" "New" ∈ sampleDocuments := by
    simp [sampleDocuments]
  have hUrl :
      requestTargetFromViewUrl "/page" = .ok "/page" := by
    decide
  rcases sample_interrupted "/index" "New" "Old" "/views" []
      hIndex hNew with
    ⟨rest, after, hRun, _⟩
  refine ⟨_, after, hRun, ?_, ?_⟩
  · intro generation hGeneration
    rw [generations, changesOf_interruptedEvents]
      at hGeneration
    simp only [List.nil_append, List.mem_cons,
      List.not_mem_nil, or_false] at hGeneration
    rcases hGeneration with rfl | rfl
    · exact ⟨1782864000, _, ⟨by decide, by decide⟩,
        sample_loads hIndex hOld hUrl⟩
    · exact ⟨1782864000, _, ⟨by decide, by decide⟩,
        sample_loads hViews hNew hUrl⟩
  · intro hConsistent
    rcases hConsistent 0 (sampleStore "/index" "/page" "New")
        (by simp [interruptedEvents, interruptedEnd]) with
      ⟨generation, hGeneration, hFrom⟩
    rw [generations, changesOf_interruptedEvents]
      at hGeneration
    simp only [List.nil_append, List.mem_cons,
      List.not_mem_nil, or_false] at hGeneration
    rcases hGeneration with rfl | rfl
    · -- The old generation does not hold the new view.
      rcases hFrom.views "/page" _ (AList.lookup_insert _)
        with ⟨_, _, _, _, _, _, hRead⟩
      rcases sample_readFile_ok hRead with
        hBytes | hBytes | hBytes
      · exact absurd hBytes (by decide)
      · exact absurd hBytes (by decide)
      · exact absurd hBytes (by decide)
    · -- The new generation has another manifest.
      have hManifest := hFrom.manifest
      rw [sample_manifest_read]
        at hManifest
      exact absurd (Except.ok.inj hManifest)
        (by decide)

end Store

end AjarGateway
