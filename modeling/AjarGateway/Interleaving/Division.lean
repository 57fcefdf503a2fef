import AjarGateway.Interleaving.Linearization

/-
  Operations that are not atomic.

  An operation of a machine may stand for a program of
  smaller ones, its parts, which only look at the state; the
  surroundings and other handlers act between two of them.
  A run over parts is regrouped into a run of the machine:
  an operation is called where its last part was, in a state
  that the surroundings put in place for this one call.

  Key definitions include:
    * `Interleaving.Division`
    * `Interleaving.Division.machine`
    * `Interleaving.Division.Gathers`
    * `Interleaving.Regroups`

  Key theorems include:
    * `Interleaving.Run.regroup`
    * `Interleaving.Run.divide`
-/

------------------------------------------------------------
-- Programs Over Parts
------------------------------------------------------------

namespace Interleaving

/- An operation that is left whole, or a part of one. -/
inductive DividedOp (S U : Signature) where
  | whole (op : S.Op)
  | part (op : U.Op)

@[reducible] def DividedOp.Reply
    {S U : Signature} : DividedOp S U → Type
| .whole op => S.Reply op
| .part op => U.Reply op

abbrev Signature.divided (S U : Signature) : Signature where
  Op := DividedOp S U
  Reply := DividedOp.Reply

variable {S U : Signature} {α β : Type}

namespace Program

/- A program of parts. -/
def ofParts : Program U α → Program (S.divided U) α
| .ret value => .ret value
| .call op next =>
    .call (.part op) fun reply => (next reply).ofParts

/- Every operation that has a body is performed by it. -/
def divide
    (body : (op : S.Op) → Option (Program U (S.Reply op))) :
    Program S α → Program (S.divided U) α
| .ret value => .ret value
| .call op next =>
    match body op with
    | none =>
        .call (.whole op) fun reply =>
          (next reply).divide body
    | some program =>
        program.ofParts >>= fun reply =>
          (next reply).divide body

variable {body : (op : S.Op) → Option (Program U (S.Reply op))}

theorem divide_call_of_none
    {op : S.Op}
    {next : S.Reply op → Program S α}
    (hBody : body op = none) :
    (Program.call op next).divide body =
      .call (.whole op) fun reply =>
        (next reply).divide body := by
  rw [divide, hBody]

theorem divide_call_of_some
    {op : S.Op}
    {next : S.Reply op → Program S α}
    {program : Program U (S.Reply op)}
    (hBody : body op = some program) :
    (Program.call op next).divide body =
      program.ofParts >>= fun reply =>
        (next reply).divide body := by
  rw [divide, hBody]

end Program

/- The call of a part, among all calls. -/
def Call.asPart (call : Call U) : Call (S.divided U) :=
  ⟨.part call.op, call.reply⟩

theorem Performs.ofParts
    {program rest : Program U α} {calls : List (Call U)}
    (hPerforms : Performs program calls rest) :
    Performs (program.ofParts : Program (S.divided U) α)
      (calls.map Call.asPart) rest.ofParts := by
  induction hPerforms with
  | done program => exact .done _
  | step _ ih => exact .step ih

/- What follows a program does not change its calls. -/
theorem Performs.bind
    {program rest : Program S α} {calls : List (Call S)}
    (hPerforms : Performs program calls rest)
    (next : α → Program S β) :
    Performs (program >>= next) calls (rest >>= next) := by
  induction hPerforms with
  | done program => exact .done _
  | step _ ih => exact .step ih

end Interleaving

------------------------------------------------------------
-- Divided Machines
------------------------------------------------------------

namespace Interleaving

variable {S U : Signature} {Answer : Type}
variable {M : Machine S Answer}

/-
  How operations of a machine are divided.  `observe s call`
  says that the part may be answered so in `s`.
-/
structure Division (M : Machine S Answer) (U : Signature) where
  body : (op : S.Op) → Option (Program U (S.Reply op))
  observe : M.State → Call U → Prop

/- Only an operation that is left whole may panic. -/
def Machine.unwindWhole
    (M : Machine S Answer)
    (thread : Nat)
    (before : M.State) : DividedOp S U → M.State → Prop
| .whole op, after => M.unwind thread before op after
| .part _, _ => False

def Machine.cancellableWhole
    (M : Machine S Answer) : DividedOp S U → Prop
| .whole op => M.cancellable op
| .part _ => False

namespace Division

variable (D : Division M U)

def exec (thread : Nat) (before : M.State) :
    Call (S.divided U) → M.State → Prop
| ⟨.whole op, reply⟩, after =>
    M.exec thread before ⟨op, reply⟩ after
| ⟨.part op, reply⟩, after =>
    after = before ∧ D.observe before ⟨op, reply⟩

/- The machine whose handlers make the parts one by one. -/
abbrev machine : Machine (S.divided U) Answer where
  State := M.State
  Handler := M.Handler
  Change := M.Change
  program := fun handler =>
    (M.program handler).divide D.body
  exec := D.exec
  unwind := M.unwindWhole
  cancellable := M.cancellableWhole
  change := M.change

/-
  When an operation that was performed in parts could have
  been one call: whatever the parts have found, as long as
  each is `credible`, the surroundings may put a state in
  place for that call and take it back.
-/
structure Gathers (credible : Call U → Prop) : Prop where
  begins : ∀ {op value},
    D.body op ≠ some (.ret value)
  gather : ∀ {op program calls reply},
    D.body op = some program →
      Performs program calls (.ret reply) →
        (∀ call ∈ calls, credible call) →
          ∀ state, ∃ made placed undone,
            M.change state made placed ∧
              (∀ thread,
                M.exec thread placed ⟨op, reply⟩ placed) ∧
                M.change placed undone state

end Division

/- The part an event performs for one thread. -/
def Event.partOf
    {N : Machine (S.divided U) Answer} (thread : Nat) :
    Event N → Option (Call U)
| .call other ⟨.part op, reply⟩ =>
    if other = thread then some ⟨op, reply⟩ else none
| _ => none

/- The parts performed by one thread, in order. -/
def partsOf
    {N : Machine (S.divided U) Answer}
    (thread : Nat)
    (events : List (Event N)) : List (Call U) :=
  events.filterMap (Event.partOf thread)

variable {N : Machine (S.divided U) Answer}

theorem partsOf_snoc
    (thread : Nat)
    (events : List (Event N))
    (event : Event N) :
    partsOf thread (events ++ [event]) =
      partsOf thread events ++
        (event.partOf thread).toList := by
  cases hPart : event.partOf thread <;>
    simp [partsOf, hPart]

theorem partsOf_snoc_of_none
    {thread : Nat} {event : Event N}
    (events : List (Event N))
    (hNone : event.partOf thread = none) :
    partsOf thread (events ++ [event]) =
      partsOf thread events := by
  rw [partsOf_snoc, hNone]
  exact List.append_nil _

theorem partsOf_infix_snoc
    (thread : Nat)
    (events : List (Event N))
    (event : Event N) :
    partsOf thread events <:+:
      partsOf thread (events ++ [event]) := by
  rw [partsOf_snoc]
  exact (List.prefix_append _ _).isInfix

theorem mem_partsOf_iff
    (thread : Nat)
    (events : List (Event N))
    (call : Call U) :
    call ∈ partsOf thread events ↔
      .call thread call.asPart ∈ events := by
  simp only [partsOf, List.mem_filterMap]
  constructor
  · rintro ⟨event, hEvent, hPart⟩
    cases event with
    | call other made =>
        rcases made with ⟨op | op, reply⟩
        · cases hPart
        · simp only [Event.partOf,
            Option.ite_none_right_eq_some,
            Option.some.injEq] at hPart
          rcases hPart with ⟨rfl, rfl⟩
          exact hEvent
    | _ => cases hPart
  · intro hEvent
    exact ⟨_, hEvent, by simp [Event.partOf, Call.asPart]⟩

end Interleaving

------------------------------------------------------------
-- What The Whole Machine Has Still To Do
------------------------------------------------------------

namespace Interleaving

variable {S U : Signature} {Answer : Type}
variable {M : Machine S Answer}

/-
  The first program is the divided one of the second, or
  what is left of it after some parts of an operation that
  the second has not called yet.  These parts are the last
  ones of the `past`.
-/
inductive Behind (D : Division M U) (past : List (Call U)) :
    Program (S.divided U) Answer → Program S Answer →
      Prop where
  | ret (answer : Answer) :
      Behind D past (.ret answer) (.ret answer)
  | whole
      {op : S.Op}
      {next : S.Reply op → Program S Answer}
      (hBody : D.body op = none) :
      Behind D past
        (.call (.whole op) fun reply =>
          (next reply).divide D.body)
        (.call op next)
  | part
      {op : S.Op}
      {next : S.Reply op → Program S Answer}
      {program : Program U (S.Reply op)}
      {made : List (Call U)}
      {partOp : U.Op}
      {rest : U.Reply partOp → Program U (S.Reply op)}
      (hBody : D.body op = some program)
      (hMade : made <:+ past)
      (hPerforms :
        Performs program made (.call partOp rest)) :
      Behind D past
        (.call (.part partOp) fun found =>
          (rest found).ofParts >>= fun reply =>
            (next reply).divide D.body)
        (.call op next)

inductive ThreadBehind (D : Division M U)
    (past : List (Call U)) :
    Thread (S.divided U) Answer → Thread S Answer →
      Prop where
  | idle : ThreadBehind D past .idle .idle
  | running
      {program : Program (S.divided U) Answer}
      {whole : Program S Answer}
      (hBehind : Behind D past program whole) :
      ThreadBehind D past (.running program)
        (.running whole)
  | answered (answer : Answer) :
      ThreadBehind D past (.answered answer)
        (.answered answer)
  | panicked : ThreadBehind D past .panicked .panicked
  | cancelled : ThreadBehind D past .cancelled .cancelled

/- One state, and every handler behind its counterpart. -/
structure Simulates (D : Division M U)
    (events : List (Event D.machine))
    (divided : Config D.machine)
    (whole : Config M) : Prop where
  state_eq : divided.state = whole.state
  threads : ∀ thread,
    ThreadBehind D (partsOf thread events)
      (divided.threads thread) (whole.threads thread)

variable {D : Division M U} {credible : Call U → Prop}

/- A divided program is behind the program. -/
theorem behind_divide
    (hGathers : D.Gathers credible)
    (past : List (Call U))
    (program : Program S Answer) :
    Behind D past (program.divide D.body) program := by
  cases program with
  | ret answer => exact .ret answer
  | call op next =>
      cases hBody : D.body op with
      | none =>
          rw [Program.divide_call_of_none hBody]
          exact .whole hBody
      | some body =>
          rw [Program.divide_call_of_some hBody]
          cases body with
          | ret value => exact absurd hBody hGathers.begins
          | call partOp rest =>
              exact .part hBody List.nil_suffix (.done _)

theorem Simulates.initial
    (D : Division M U)
    (state : M.State) :
    Simulates D [] (.initial state) (.initial state) :=
  ⟨rfl, fun _ => .idle⟩

/- An event of one handler, matched on both sides. -/
theorem Simulates.setThread
    {events : List (Event D.machine)}
    {event : Event D.machine}
    {divided divided' : Config D.machine}
    {whole whole' : Config M}
    {thread : Nat}
    {status : Thread (S.divided U) Answer}
    {status' : Thread S Answer}
    (hSimulates : Simulates D events divided whole)
    (hState : divided'.state = whole'.state)
    (hThreads : divided'.threads = divided.threads)
    (hThreads' : whole'.threads = whole.threads)
    (hOwn : event.thread? = some thread)
    (hStatus :
      ThreadBehind D (partsOf thread (events ++ [event]))
        status status') :
    Simulates D (events ++ [event])
      (divided'.setThread thread status)
      (whole'.setThread thread status') := by
  refine ⟨hState, fun other => ?_⟩
  by_cases hOther : other = thread
  · subst hOther
    simpa using hStatus
  · have hNone : event.partOf other = none := by
      cases event with
      | call made call =>
          cases hOwn
          rcases call with ⟨op | op, reply⟩
          · rfl
          · exact if_neg (Ne.symm hOther)
      | _ => rfl
    rw [partsOf_snoc_of_none _ hNone,
      Config.setThread_threads_of_ne _ _ hOther,
      Config.setThread_threads_of_ne _ _ hOther, hThreads,
      hThreads']
    exact hSimulates.threads other

/- An event that leaves the other side as it is. -/
theorem Simulates.setThread_left
    {events : List (Event D.machine)}
    {event : Event D.machine}
    {divided : Config D.machine} {whole : Config M}
    {thread : Nat}
    {status : Thread (S.divided U) Answer}
    (hSimulates : Simulates D events divided whole)
    (hOwn : event.thread? = some thread)
    (hStatus :
      ThreadBehind D (partsOf thread (events ++ [event]))
        status (whole.threads thread)) :
    Simulates D (events ++ [event])
      (divided.setThread thread status) whole := by
  have hSame :
      whole.setThread thread (whole.threads thread) =
        whole := by
    rw [Config.setThread, Function.update_eq_self]
  rw [← hSame]
  exact hSimulates.setThread hSimulates.state_eq rfl rfl
    hOwn hStatus

end Interleaving

------------------------------------------------------------
-- Regrouped Runs
------------------------------------------------------------

namespace Interleaving

variable {S U : Signature} {Answer : Type}
variable {M : Machine S Answer} {D : Division M U}

/- The same event of the machine, for all but the parts. -/
def Event.undivided : Event D.machine → Option (Event M)
| .start thread handler => some (.start thread handler)
| .call thread ⟨.whole op, reply⟩ =>
    some (.call thread ⟨op, reply⟩)
| .call _ ⟨.part _, _⟩ => none
| .answer thread given => some (.answer thread given)
| .panic thread => some (.panic thread)
| .cancel thread => some (.cancel thread)
| .change made => some (.change made)

/- The event is no call of a divided operation. -/
def Division.LeavesWhole
    (D : Division M U) : Event M → Prop
| .call _ performed => D.body performed.op = none
| _ => True

/-
  The events of a run over parts, and of a run without: one
  by one the same, a part left out, and with the last part
  of an operation its one call.
-/
inductive Regroups (D : Division M U) :
    List (Event D.machine) → List (Event M) → Prop where
  | nil : Regroups D [] []
  | same
      {events : List (Event D.machine)}
      {grouped : List (Event M)}
      {event : Event D.machine} {event' : Event M}
      (hInit : Regroups D events grouped)
      (hSame : event.undivided = some event')
      (hWhole : D.LeavesWhole event') :
      Regroups D (events ++ [event]) (grouped ++ [event'])
  | part
      {events : List (Event D.machine)}
      {grouped : List (Event M)}
      {event : Event D.machine}
      (hInit : Regroups D events grouped)
      (hPart : event.undivided = none) :
      Regroups D (events ++ [event]) grouped
  | gathered
      {events : List (Event D.machine)}
      {grouped : List (Event M)}
      {event : Event D.machine}
      {thread : Nat} {op : S.Op} {reply : S.Reply op}
      {program : Program U (S.Reply op)}
      {calls : List (Call U)} {made undone : M.Change}
      (hInit : Regroups D events grouped)
      (hPart : event.undivided = none)
      (hBody : D.body op = some program)
      (hCalls : calls <:+ partsOf thread (events ++ [event]))
      (hPerforms : Performs program calls (.ret reply)) :
      Regroups D (events ++ [event])
        (grouped ++
          [.change made, .call thread ⟨op, reply⟩,
            .change undone])

variable {credible : Call U → Prop}
variable {events : List (Event D.machine)}

/- A running handler is behind a running counterpart. -/
theorem Simulates.behind
    {divided : Config D.machine} {whole : Config M}
    {thread : Nat} {program : Program (S.divided U) Answer}
    (hSimulates : Simulates D events divided whole)
    (hRunning : divided.threads thread = .running program) :
    ∃ rest,
      whole.threads thread = .running rest ∧
        Behind D (partsOf thread events) program rest := by
  have hStatus := hSimulates.threads thread
  rw [hRunning] at hStatus
  generalize whole.threads thread = status at hStatus
  cases hStatus with
  | running hBehind => exact ⟨_, rfl, hBehind⟩

/- An event that is no part happens on both sides. -/
theorem Simulates.step_same
    {event : Event D.machine} {event' : Event M}
    {divided after : Config D.machine} {whole : Config M}
    (hGathers : D.Gathers credible)
    (hSimulates : Simulates D events divided whole)
    (hStep : Step divided event after)
    (hSame : event.undivided = some event') :
    D.LeavesWhole event' ∧
      ∃ finish,
        Step whole event' finish ∧
          Simulates D (events ++ [event]) after finish := by
  cases hStep with
  | @start thread handler hIdle =>
      cases hSame
      have hStatus := hSimulates.threads thread
      rw [hIdle] at hStatus
      generalize hWhole : whole.threads thread = status
        at hStatus
      cases hStatus with
      | idle =>
          exact ⟨trivial, _, .start hWhole,
            hSimulates.setThread hSimulates.state_eq rfl rfl
              rfl (.running (behind_divide hGathers _ _))⟩
  | @call thread op next reply state hRunning hExec =>
      rcases hSimulates.behind hRunning with
        ⟨_, hWhole, hBehind⟩
      cases hBehind with
      | part _ _ _ => cases hSame
      | @whole op next hBody =>
          cases hSame
          have hExec' :
              M.exec thread whole.state ⟨op, reply⟩
                state := by
            rw [← hSimulates.state_eq]
            exact hExec
          exact ⟨hBody, _, .call hWhole hExec',
            hSimulates.setThread rfl rfl rfl rfl
              (.running (behind_divide hGathers _ _))⟩
  | @answer thread answer hRunning =>
      cases hSame
      rcases hSimulates.behind hRunning with
        ⟨_, hWhole, hBehind⟩
      cases hBehind with
      | ret answer =>
          exact ⟨trivial, _, .answer hWhole,
            hSimulates.setThread hSimulates.state_eq rfl
              rfl rfl (.answered answer)⟩
  | @panic thread op next state hRunning hUnwind =>
      cases hSame
      rcases hSimulates.behind hRunning with
        ⟨_, hWhole, hBehind⟩
      cases hBehind with
      | part _ _ _ => exact hUnwind.elim
      | @whole op next hBody =>
          have hUnwind' :
              M.unwind thread whole.state op state := by
            rw [← hSimulates.state_eq]
            exact hUnwind
          exact ⟨trivial, _, .panic hWhole hUnwind',
            hSimulates.setThread rfl rfl rfl rfl
              .panicked⟩
  | @cancel thread op next hRunning hCancellable =>
      cases hSame
      rcases hSimulates.behind hRunning with
        ⟨_, hWhole, hBehind⟩
      cases hBehind with
      | part _ _ _ => exact hCancellable.elim
      | @whole op next hBody =>
          exact ⟨trivial, _, .cancel hWhole hCancellable,
            hSimulates.setThread hSimulates.state_eq rfl
              rfl rfl .cancelled⟩
  | @change made state hChange =>
      cases hSame
      have hChange' : M.change whole.state made state := by
        rw [← hSimulates.state_eq]
        exact hChange
      refine ⟨trivial, _, .change hChange', rfl,
        fun thread => ?_⟩
      rw [partsOf_snoc_of_none events rfl]
      exact hSimulates.threads thread

/- An operation is called in the state it is gathered in. -/
theorem Run.gathered
    {whole : Config M} {thread : Nat}
    {op : S.Op} {reply : S.Reply op}
    {next : S.Reply op → Program S Answer}
    {program : Program U (S.Reply op)} {calls : List (Call U)}
    (hGathers : D.Gathers credible)
    (hRunning :
      whole.threads thread = .running (.call op next))
    (hBody : D.body op = some program)
    (hPerforms : Performs program calls (.ret reply))
    (hCredible : ∀ call ∈ calls, credible call) :
    ∃ made undone,
      Run whole
        [.change made, .call thread ⟨op, reply⟩,
          .change undone]
        (whole.setThread thread (.running (next reply))) := by
  rcases hGathers.gather hBody hPerforms hCredible
      whole.state with
    ⟨made, placed, undone, hMade, hExec, hUndone⟩
  exact ⟨made, undone,
    ((Run.nil.snoc (.change hMade)).snoc
      (.call hRunning (hExec thread))).snoc
        (.change hUndone)⟩

/-
  A part that is not the last one of its operation leaves
  the other side as it is; at the last one the operation is
  called, in the state that it is gathered in.
-/
theorem Simulates.step_part
    {event : Event D.machine}
    {divided after : Config D.machine} {whole : Config M}
    (hGathers : D.Gathers credible)
    (hSimulates : Simulates D events divided whole)
    (hStep : Step divided event after)
    (hPart : event.undivided = none)
    (hCredible : ∀ thread,
      ∀ call ∈ partsOf thread (events ++ [event]),
        credible call) :
    Simulates D (events ++ [event]) after whole ∨
      ∃ thread op reply program calls made undone finish,
        D.body op = some program ∧
          calls <:+ partsOf thread (events ++ [event]) ∧
            Performs program calls (.ret reply) ∧
              Run whole
                [.change made, .call thread ⟨op, reply⟩,
                  .change undone]
                finish ∧
                Simulates D (events ++ [event]) after
                  finish := by
  cases hStep with
  | @call thread divOp divNext found state hRunning hExec =>
      rcases hSimulates.behind hRunning with
        ⟨_, hWhole, hBehind⟩
      cases hBehind with
      | whole _ => cases hPart
      | @part op next program made partOp rest hBody hMade
          hPerforms =>
          rcases hExec with ⟨rfl, _⟩
          have hParts :
              made ++ [⟨partOp, found⟩] <:+
                partsOf thread
                  (events ++
                    [.call thread
                      ⟨.part partOp, found⟩]) := by
            rw [partsOf_snoc]
            simpa [Event.partOf] using
              List.suffix_append_self_iff.mpr hMade
          have hCalls := hPerforms.snoc found
          cases hRest : rest found with
          | call partOp' rest' =>
              left
              apply hSimulates.setThread_left rfl
              simp only [hWhole, hRest]
              rw [hRest] at hCalls
              exact .running (.part hBody hParts hCalls)
          | ret reply =>
              right
              rw [hRest] at hCalls
              rcases Run.gathered hGathers hWhole hBody hCalls
                  (fun call hCall =>
                    hCredible thread call
                      (hParts.subset hCall)) with
                ⟨change, undone, hRun⟩
              refine ⟨thread, op, reply, program, _, change,
                undone, _, hBody, hParts, hCalls, hRun, ?_⟩
              apply hSimulates.setThread
                hSimulates.state_eq rfl rfl rfl
              simp only [hRest]
              exact .running (behind_divide hGathers _ _)
  | _ => cases hPart

/- One event over parts is matched by a short run. -/
theorem Simulates.step
    {event : Event D.machine}
    {divided after : Config D.machine} {whole : Config M}
    (hGathers : D.Gathers credible)
    (hSimulates : Simulates D events divided whole)
    (hStep : Step divided event after)
    (hCredible : ∀ thread,
      ∀ call ∈ partsOf thread (events ++ [event]),
        credible call) :
    ∃ more finish,
      Run whole more finish ∧
        Simulates D (events ++ [event]) after finish ∧
          ∀ grouped,
            Regroups D events grouped →
              Regroups D (events ++ [event])
                (grouped ++ more) := by
  cases hEvent : event.undivided with
  | some event' =>
      rcases hSimulates.step_same hGathers hStep hEvent with
        ⟨hLeaves, finish, hWhole, hFinish⟩
      exact ⟨[event'], finish, Run.nil.snoc hWhole, hFinish,
        fun _ hGrouped => hGrouped.same hEvent hLeaves⟩
  | none =>
      rcases hSimulates.step_part hGathers hStep hEvent
          hCredible with
        hFinish |
          ⟨thread, op, reply, program, calls, made, undone,
            finish, hBody, hCalls, hPerforms, hMore,
            hFinish⟩
      · refine ⟨[], whole, .nil, hFinish, ?_⟩
        intro grouped hGrouped
        rw [List.append_nil]
        exact hGrouped.part hEvent
      · exact ⟨_, finish, hMore, hFinish,
          fun _ hGrouped =>
            hGrouped.gathered hEvent hBody hCalls
              hPerforms⟩

/- A run over parts is regrouped into a run without. -/
theorem Run.regroup
    {state : M.State} {after : Config D.machine}
    (hGathers : D.Gathers credible)
    (hRun :
      Run (.initial state : Config D.machine) events after)
    (hCredible : ∀ thread,
      ∀ call ∈ partsOf thread events, credible call) :
    ∃ (grouped : List (Event M)) (finish : Config M),
      Run (.initial state) grouped finish ∧
        Regroups D events grouped ∧
          Simulates D events after finish := by
  induction hRun with
  | nil =>
      exact ⟨[], _, .nil, .nil, Simulates.initial D state⟩
  | @snoc events before event after _ hStep ih =>
      have hEarlier : ∀ thread,
          ∀ call ∈ partsOf thread events,
            credible call := by
        intro thread call hCall
        apply hCredible thread
        rw [partsOf_snoc]
        exact List.mem_append_left _ hCall
      rcases ih hEarlier with
        ⟨grouped, middle, hGrouped, hRegroups, hSimulates⟩
      rcases hSimulates.step hGathers hStep hCredible with
        ⟨more, finish, hMore, hFinish, hExtends⟩
      exact ⟨_, finish, hGrouped.append hMore,
        hExtends grouped hRegroups, hFinish⟩

end Interleaving

------------------------------------------------------------
-- What Both Runs Show
------------------------------------------------------------

namespace Interleaving

variable {S U : Signature} {Answer : Type}
variable {M : Machine S Answer} {D : Division M U}

/- Neither a change nor a call of a divided operation. -/
def Division.shows (D : Division M U) : Event M → Bool
| .call _ performed => (D.body performed.op).isNone
| .change _ => false
| _ => true

/- What a run over parts shows, in order. -/
def Division.shown
    (D : Division M U)
    (events : List (Event D.machine)) : List (Event M) :=
  (events.filterMap Event.undivided).filter D.shows

/- An event that is no part, as one over parts. -/
def Event.whole
    (D : Division M U) : Event M → Event D.machine
| .start thread handler => .start thread handler
| .call thread performed =>
    .call thread ⟨.whole performed.op, performed.reply⟩
| .answer thread given => .answer thread given
| .panic thread => .panic thread
| .cancel thread => .cancel thread
| .change made => .change made

theorem Event.undivided_eq_some_iff
    (event : Event D.machine)
    (event' : Event M) :
    event.undivided = some event' ↔
      event = event'.whole D := by
  constructor
  · intro hSame
    cases event with
    | call thread performed =>
        rcases performed with ⟨op | op, reply⟩
        · cases hSame
          rfl
        · cases hSame
    | _ =>
        cases hSame
        rfl
  · rintro rfl
    cases event' <;> rfl

theorem Division.mem_shown_iff
    {events : List (Event D.machine)} {event : Event M}
    (hShows : D.shows event = true) :
    event ∈ D.shown events ↔ event.whole D ∈ events := by
  simp [Division.shown, Event.undivided_eq_some_iff, hShows]

/- A run shows the same as the run it is regrouped into. -/
theorem Regroups.shown_eq
    {events : List (Event D.machine)}
    {grouped : List (Event M)}
    (hRegroups : Regroups D events grouped) :
    D.shown events = grouped.filter D.shows := by
  induction hRegroups with
  | nil => rfl
  | same _ hSame _ ih =>
      rw [Division.shown, List.filterMap_append,
        List.filter_append, List.filter_append, ← ih]
      simp [Division.shown, hSame]
  | part _ hPart ih =>
      rw [Division.shown, List.filterMap_append,
        List.filter_append, ← ih]
      simp [Division.shown, hPart]
  | gathered _ hPart hBody _ _ ih =>
      rw [Division.shown, List.filterMap_append,
        List.filter_append, List.filter_append, ← ih]
      simp [Division.shown, hPart, Division.shows, hBody]

/- The call of a divided operation was made in parts. -/
theorem Regroups.parts_of_call
    {events : List (Event D.machine)}
    {grouped : List (Event M)}
    {thread : Nat} {op : S.Op} {reply : S.Reply op}
    {program : Program U (S.Reply op)}
    (hRegroups : Regroups D events grouped)
    (hBody : D.body op = some program)
    (hCall : .call thread ⟨op, reply⟩ ∈ grouped) :
    ∃ calls,
      calls <:+: partsOf thread events ∧
        Performs program calls (.ret reply) := by
  induction hRegroups with
  | nil => cases hCall
  | @same events _ event _ _ _ hWhole ih =>
      rcases List.mem_append.mp hCall with hEarlier | hLast
      · rcases ih hEarlier with ⟨calls, hParts, hPerforms⟩
        exact ⟨calls,
          hParts.trans (partsOf_infix_snoc ..), hPerforms⟩
      · rw [List.mem_singleton] at hLast
        subst hLast
        have hNone : D.body op = none := hWhole
        rw [hNone] at hBody
        cases hBody
  | part _ _ ih =>
      rcases ih hCall with ⟨calls, hParts, hPerforms⟩
      exact ⟨calls, hParts.trans (partsOf_infix_snoc ..),
        hPerforms⟩
  | gathered _ _ hGiven hCalls hPerforms ih =>
      rcases List.mem_append.mp hCall with hEarlier | hLast
      · rcases ih hEarlier with ⟨calls, hParts, hPerforms⟩
        exact ⟨calls,
          hParts.trans (partsOf_infix_snoc ..), hPerforms⟩
      · simp only [List.mem_cons, reduceCtorEq,
          List.not_mem_nil, or_false, false_or] at hLast
        cases hLast
        rw [hGiven] at hBody
        cases hBody
        exact ⟨_, hCalls.isInfix, hPerforms⟩

end Interleaving

------------------------------------------------------------
-- Real Time
------------------------------------------------------------

namespace Interleaving

variable {S T U : Signature} {Answer : Type}
variable {M : Machine S Answer}

/- The last event starts a handler, or nothing is new. -/
theorem answeredBefore_snoc_iff
    (events : List (Event M))
    (event : Event M)
    (earlier later : Nat) :
    AnsweredBefore (events ++ [event]) earlier later ↔
      AnsweredBefore events earlier later ∨
        (∃ answer, .answer earlier answer ∈ events) ∧
          ∃ handler, event = .start later handler := by
  constructor
  · rintro ⟨first, answer, second, handler, hEvents, hStart⟩
    rcases List.eq_nil_or_concat second with
      rfl | ⟨front, final, rfl⟩
    · cases hStart
    · rw [List.concat_eq_append, ← List.cons_append,
        ← List.append_assoc] at hEvents
      rcases List.append_inj' hEvents rfl with
        ⟨rfl, hFinal⟩
      rw [List.singleton_inj] at hFinal
      subst hFinal
      rw [List.concat_eq_append] at hStart
      rcases List.mem_append.mp hStart with hFront | hLast
      · exact .inl ⟨first, answer, front, handler, rfl,
          hFront⟩
      · rw [List.mem_singleton] at hLast
        exact .inr ⟨⟨answer, by simp⟩, handler, hLast.symm⟩
  · rintro (⟨first, answer, second, handler, rfl, hStart⟩ |
      ⟨⟨answer, hAnswer⟩, handler, rfl⟩)
    · exact ⟨first, answer, second ++ [event], handler,
        by simp, List.mem_append_left _ hStart⟩
    · rcases List.append_of_mem hAnswer with
        ⟨first, second, rfl⟩
      exact ⟨first, answer, second ++ [.start later handler],
        handler, by simp, by simp⟩

/- Only the starts and the answers of a run matter. -/
theorem answeredBefore_filterMap_iff
    {N : Machine T Answer}
    {view : Event N → Option (Event M)}
    (hStart : ∀ event thread,
      (∃ handler, view event = some (.start thread handler)) ↔
        ∃ handler, event = .start thread handler)
    (hAnswer : ∀ event thread answer,
      view event = some (.answer thread answer) ↔
        event = .answer thread answer)
    (events : List (Event N))
    (earlier later : Nat) :
    AnsweredBefore (events.filterMap view) earlier later ↔
      AnsweredBefore events earlier later := by
  induction events using List.reverseRecOn with
  | nil =>
      constructor
      · rintro ⟨_, _, _, _, hEvents, _⟩
        simp at hEvents
      · rintro ⟨_, _, _, _, hEvents, _⟩
        simp at hEvents
  | append_singleton events event ih =>
      have hAnswered :
          (∃ answer,
              .answer earlier answer ∈
                events.filterMap view) ↔
            ∃ answer, .answer earlier answer ∈ events := by
        simp [hAnswer]
      rw [answeredBefore_snoc_iff, ← ih, ← hAnswered,
        ← hStart, List.filterMap_append]
      cases hView : view event with
      | none => simp [hView]
      | some event' =>
          rw [List.filterMap_cons_some hView,
            List.filterMap_nil, answeredBefore_snoc_iff]
          simp

variable {D : Division M U}
variable {events : List (Event D.machine)}
variable {grouped : List (Event M)}

/- Real time is the same in runs that show the same. -/
theorem answeredBefore_of_shown_iff
    (hShown : D.shown events = grouped.filter D.shows)
    (earlier later : Nat) :
    AnsweredBefore grouped earlier later ↔
      AnsweredBefore events earlier later := by
  have hFilter (whole : List (Event M)) :
      AnsweredBefore (whole.filter D.shows) earlier later ↔
        AnsweredBefore whole earlier later := by
    rw [← List.filterMap_eq_filter]
    apply answeredBefore_filterMap_iff
    case hStart =>
      intro event thread
      cases event <;> simp [Option.guard, Division.shows]
    case hAnswer =>
      intro event thread answer
      cases event <;> simp [Option.guard, Division.shows]
  have hUndivided :
      AnsweredBefore
          (events.filterMap Event.undivided :
            List (Event M))
          earlier later ↔
        AnsweredBefore events earlier later := by
    apply answeredBefore_filterMap_iff
    case hStart =>
      intro event thread
      simp only [Event.undivided_eq_some_iff]
      rfl
    case hAnswer =>
      intro event thread answer
      exact Event.undivided_eq_some_iff _ _
  rw [← hFilter grouped, ← hShown, Division.shown, hFilter,
    hUndivided]

/- What is shown by one of them is an event of the other. -/
theorem mem_of_shown_iff
    {event : Event M}
    (hShown : D.shown events = grouped.filter D.shows)
    (hShows : D.shows event = true) :
    event ∈ grouped ↔ event.whole D ∈ events := by
  rw [← Division.mem_shown_iff hShows, hShown,
    List.mem_filter]
  exact (and_iff_left hShows).symm

/- Points that are whole are shown, in the same order. -/
theorem Points.order_shown
    {O : SequentialObject}
    (points : Points M O)
    (hWhole : ∀ call,
      (D.body call.op).isSome = true →
        points.point call = none)
    (hShown : D.shown events = grouped.filter D.shows) :
    points.order (D.shown events) = points.order grouped := by
  have hSame : ∀ event : Event M,
      (if D.shows event = true then points.operation event
        else none) = points.operation event := by
    intro event
    cases hShows : D.shows event with
    | true => rfl
    | false =>
        cases event with
        | call thread call =>
            have hSome : (D.body call.op).isSome = true := by
              simpa [Division.shows,
                Option.isNone_eq_false_iff] using hShows
            simp [Points.operation, hWhole call hSome]
        | change made => rfl
        | _ => cases hShows
  rw [hShown, Points.order, List.filterMap_filter,
    funext hSame]
  rfl

/- What handlers say about their operations. -/
def Specification.divided
    {O : SequentialObject}
    (spec : Specification M O)
    (D : Division M U) : Specification D.machine O where
  active := spec.active
  passive := spec.passive

/- A linearization is one of every run that shows as much. -/
theorem Linearizes.of_shown
    {O : SequentialObject} {spec : Specification M O}
    {first last : O.State} {order : List (Operation O)}
    (hShown : D.shown events = grouped.filter D.shows)
    (hLinear : Linearizes spec grouped first order last) :
    Linearizes (spec.divided D) events first order last where
  legal := hLinear.legal
  once := hLinear.once
  started := by
    intro operation hOperation
    rcases hLinear.started operation hOperation with
      ⟨handler, hStart⟩
    exact ⟨handler, (mem_of_shown_iff hShown rfl).mp hStart⟩
  answered := by
    intro thread handler answer hStart hAnswer
    have hStarted :
        (.start thread handler : Event M) ∈ grouped :=
      (mem_of_shown_iff hShown rfl).mpr hStart
    have hAnswered :
        (.answer thread answer : Event M) ∈ grouped :=
      (mem_of_shown_iff hShown rfl).mpr hAnswer
    exact hLinear.answered thread handler answer hStarted
      hAnswered
  realTime := by
    apply hLinear.realTime.imp
    intro earlier later hNot hBefore
    exact hNot
      ((answeredBefore_of_shown_iff hShown _ _).mpr hBefore)

end Interleaving

------------------------------------------------------------
-- Runs Without Interruption
------------------------------------------------------------

namespace Interleaving

variable {S U : Signature} {Answer : Type}
variable {M : Machine S Answer}

/-
  When the parts of an operation can be made in a row: it
  leaves the state alone, which answers all the parts, and
  its handler cannot be stopped while it is called.
-/
structure Division.Splits (D : Division M U) : Prop where
  unwind : ∀ {thread before op program after},
    D.body op = some program →
      ¬M.unwind thread before op after
  cancel : ∀ {op program},
    D.body op = some program → ¬M.cancellable op
  exec : ∀ {thread before op program reply after},
    D.body op = some program →
      M.exec thread before ⟨op, reply⟩ after →
        after = before ∧
          ∃ calls,
            Performs program calls (.ret reply) ∧
              ∀ call ∈ calls, D.observe before call

def Thread.divide
    (body : (op : S.Op) → Option (Program U (S.Reply op))) :
    Thread S Answer → Thread (S.divided U) Answer
| .idle => .idle
| .running rest => .running (rest.divide body)
| .answered given => .answered given
| .panicked => .panicked
| .cancelled => .cancelled

/- The same configuration, with nothing made in parts. -/
def Config.divide
    (D : Division M U)
    (c : Config M) : Config D.machine where
  state := c.state
  threads := fun thread => (c.threads thread).divide D.body

variable {D : Division M U}

theorem Config.divide_setThread
    (c : Config M)
    (thread : Nat)
    (status : Thread S Answer) :
    (c.setThread thread status).divide D =
      (c.divide D).setThread thread
        (status.divide D.body) := by
  simp only [divide, setThread, Config.mk.injEq, true_and]
  funext other
  by_cases hOther : other = thread
  · subst hOther
    simp
  · simp [hOther]

theorem Config.divide_threads
    {c : Config M} {thread : Nat}
    {status : Thread S Answer}
    (hStatus : c.threads thread = status) :
    (c.divide D).threads thread = status.divide D.body :=
  congrArg (Thread.divide D.body) hStatus

/- A handler before an operation that is left whole. -/
theorem Config.divide_running_whole
    {c : Config M} {thread : Nat} {op : S.Op}
    {next : S.Reply op → Program S Answer}
    (hRunning : c.threads thread = .running (.call op next))
    (hBody : D.body op = none) :
    (c.divide D).threads thread =
      .running (.call (.whole op) fun reply =>
        (next reply).divide D.body) := by
  rw [divide_threads hRunning, Thread.divide,
    Program.divide_call_of_none hBody]

/- A handler before the parts of an operation. -/
theorem Config.divide_running_parts
    {c : Config M} {thread : Nat} {op : S.Op}
    {next : S.Reply op → Program S Answer}
    {program : Program U (S.Reply op)}
    (hRunning : c.threads thread = .running (.call op next))
    (hBody : D.body op = some program) :
    (c.divide D).threads thread =
      .running (program.ofParts >>= fun reply =>
        (next reply).divide D.body) := by
  rw [divide_threads hRunning, Thread.divide,
    Program.divide_call_of_some hBody]

/- Parts that the state answers can be made in a row. -/
theorem Division.execs_of_observe
    {state : M.State} {calls : List (Call U)}
    (thread : Nat)
    (hObserve : ∀ call ∈ calls, D.observe state call) :
    D.machine.Execs thread state (calls.map Call.asPart)
      state := by
  induction calls with
  | nil => exact .nil _
  | cons call rest ih =>
      rw [List.forall_mem_cons] at hObserve
      exact .cons ⟨rfl, hObserve.1⟩ (ih hObserve.2)

theorem Division.shown_parts
    (D : Division M U)
    (thread : Nat)
    (calls : List (Call U)) :
    D.shown
        ((calls.map Call.asPart).map (Event.call thread)) =
      [] := by
  induction calls with
  | nil => rfl
  | cons call rest ih => exact ih

/- Every event is matched by a run over parts. -/
theorem Step.divide
    {c after : Config M} {event : Event M}
    (hSplits : D.Splits)
    (hStep : Step c event after) :
    ∃ events,
      Run (c.divide D) events (after.divide D) ∧
        D.shown events = [event].filter D.shows ∧
          changesOf events = changesOf [event] := by
  cases hStep with
  | @start thread handler hIdle =>
      refine ⟨[.start thread handler], ?_, rfl, rfl⟩
      rw [Config.divide_setThread]
      exact Run.nil.snoc
        (.start (Config.divide_threads hIdle))
  | @call thread op next reply state hRunning hExec =>
      cases hBody : D.body op with
      | none =>
          refine ⟨[.call thread ⟨.whole op, reply⟩], ?_,
            rfl, rfl⟩
          rw [Config.divide_setThread]
          exact Run.nil.snoc
            (.call (Config.divide_running_whole hRunning hBody)
              hExec)
      | some program =>
          rcases hSplits.exec hBody hExec with
            ⟨rfl, calls, hPerforms, hObserve⟩
          have hRun :=
            Run.of_performs
              (Config.divide_running_parts hRunning hBody)
              (hPerforms.ofParts.bind fun given =>
                (next given).divide D.body)
              (D.execs_of_observe thread hObserve)
          refine ⟨(calls.map Call.asPart).map
            (Event.call thread), ?_, ?_, ?_⟩
          · rw [Config.divide_setThread]
            exact hRun
          · rw [D.shown_parts]
            simp [Division.shows, hBody]
          · exact changesOf_calls thread _
  | @answer thread answer hRunning =>
      refine ⟨[.answer thread answer], ?_, rfl, rfl⟩
      rw [Config.divide_setThread]
      exact Run.nil.snoc
        (.answer (Config.divide_threads hRunning))
  | @panic thread op next state hRunning hUnwind =>
      cases hBody : D.body op with
      | none =>
          refine ⟨[.panic thread], ?_, rfl, rfl⟩
          rw [Config.divide_setThread]
          exact Run.nil.snoc
            (.panic (Config.divide_running_whole hRunning hBody)
              hUnwind)
      | some program =>
          exact absurd hUnwind (hSplits.unwind hBody)
  | @cancel thread op next hRunning hCancellable =>
      cases hBody : D.body op with
      | none =>
          refine ⟨[.cancel thread], ?_, rfl, rfl⟩
          rw [Config.divide_setThread]
          exact Run.nil.snoc
            (.cancel
              (Config.divide_running_whole hRunning hBody)
              hCancellable)
      | some program =>
          exact absurd hCancellable (hSplits.cancel hBody)
  | @change made state hChange =>
      refine ⟨[.change made], ?_, rfl, rfl⟩
      exact Run.nil.snoc (.change hChange)

/- Every run is one over parts, made without a break. -/
theorem Run.divide
    {c after : Config M} {grouped : List (Event M)}
    (hSplits : D.Splits)
    (hRun : Run c grouped after) :
    ∃ events,
      Run (c.divide D) events (after.divide D) ∧
        D.shown events = grouped.filter D.shows ∧
          changesOf events = changesOf grouped := by
  induction hRun with
  | nil => exact ⟨[], .nil, rfl, rfl⟩
  | @snoc grouped before event after _ hStep ih =>
      rcases ih with ⟨events, hEvents, hShown, hChanges⟩
      rcases hStep.divide hSplits with
        ⟨more, hMore, hLast, hMade⟩
      refine ⟨events ++ more, hEvents.append hMore, ?_, ?_⟩
      · rw [Division.shown, List.filterMap_append,
          List.filter_append, List.filter_append]
        exact congrArg₂ (· ++ ·) hShown hLast
      · rw [changesOf_append, changesOf_append, hChanges,
          hMade]

/- A change may come between two parts of an operation. -/
theorem Run.interrupted
    {c : Config M} {thread : Nat}
    {op : S.Op} {reply : S.Reply op}
    {next : S.Reply op → Program S Answer}
    {program : Program U (S.Reply op)}
    {first second : List (Call U)}
    {made : M.Change} {state : M.State}
    (hRunning : c.threads thread = .running (.call op next))
    (hBody : D.body op = some program)
    (hPerforms :
      Performs program (first ++ second) (.ret reply))
    (hFirst : ∀ call ∈ first, D.observe c.state call)
    (hChange : M.change c.state made state)
    (hSecond : ∀ call ∈ second, D.observe state call) :
    Run (c.divide D)
      ((first.map Call.asPart).map (Event.call thread) ++
        .change made ::
          (second.map Call.asPart).map (Event.call thread))
      (({ c with state := state }.setThread thread
        (.running (next reply))).divide D) := by
  rcases hPerforms.split with ⟨middle, hBefore, hAfter⟩
  have hRun :=
    Run.of_performs
      (Config.divide_running_parts hRunning hBody)
      (hBefore.ofParts.bind fun given =>
        (next given).divide D.body)
      (D.execs_of_observe thread hFirst)
  have hMade := hRun.snoc (.change hChange)
  -- The change keeps the handler where the parts left it.
  let stopped : Config D.machine :=
    { (c.divide D).setThread thread
        (.running (middle.ofParts >>= fun given =>
          (next given).divide D.body)) with
      state := state }
  have hRest :=
    Run.of_performs (c := stopped)
      (Config.setThread_threads_self (c.divide D) _ _)
      (hAfter.ofParts.bind fun given =>
        (next given).divide D.body)
      (D.execs_of_observe thread hSecond)
  have hFinish :
      stopped.setThread thread
          (.running ((next reply).divide D.body)) =
        (({ c with state := state } : Config M).setThread
          thread (.running (next reply))).divide D := by
    rw [Config.divide_setThread]
    exact Config.setThread_setThread (c.divide D) _ _ _ state
  have hAll := hMade.append hRest
  rw [List.append_assoc, List.singleton_append] at hAll
  rw [← hFinish]
  exact hAll

end Interleaving
