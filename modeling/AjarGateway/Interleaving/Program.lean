import Mathlib.Data.List.Induction
import Mathlib.Logic.Function.Basic
import Mathlib.Tactic.Common

/-
  Programs of atomic operations.

  A program either returns a value or performs one atomic
  operation and continues with the reply.  The operations
  and the types of their replies form a signature.  Nothing
  here says what an operation does: a program may be
  answered by fixed replies (`answerWith`) or performed
  call by call against any source of replies (`Performs`).

  Key definitions include:
    * `Interleaving.Program`
    * `Interleaving.Program.answerWith`
    * `Interleaving.Performs`

  Key theorems include:
    * `Interleaving.performs_bind_iff`
    * `Interleaving.Performs.answerWith_eq`
    * `Interleaving.performs_run_bind_ok_iff`
    * `Interleaving.Program.meets_bind_iff`
    * `Interleaving.Program.meets_of_performs`
    * `Interleaving.Performs.exists_reply`
-/

------------------------------------------------------------
-- Programs
------------------------------------------------------------

namespace Interleaving

/- Operation names together with the type of each reply. -/
structure Signature where
  Op : Type
  Reply : Op → Type

/- A program over the operations of a signature. -/
inductive Program (S : Signature) (α : Type) : Type where
  | ret (value : α)
  | call (op : S.Op) (next : S.Reply op → Program S α)

/- One performed operation with the reply it received. -/
structure Call (S : Signature) where
  op : S.Op
  reply : S.Reply op

namespace Program

variable {S : Signature} {α β : Type}

/- Run `next` on the value the program returns. -/
def bind :
    Program S α → (α → Program S β) → Program S β
| .ret value, next => next value
| .call op rest, next =>
    .call op (fun reply => (rest reply).bind next)

instance : Monad (Program S) where
  pure := .ret
  bind := bind

@[simp] theorem pure_eq_ret (value : α) :
    (pure value : Program S α) = .ret value :=
  rfl

@[simp] theorem ret_bind
    (value : α)
    (next : α → Program S β) :
    (Program.ret value >>= next) = next value :=
  rfl

@[simp] theorem call_bind
    (op : S.Op)
    (rest : S.Reply op → Program S α)
    (next : α → Program S β) :
    (Program.call op rest >>= next) =
      .call op (fun reply => rest reply >>= next) :=
  rfl

/- The value returned when every operation gets its reply. -/
def answerWith
    (reply : (op : S.Op) → S.Reply op) :
    Program S α → α
| .ret value => value
| .call op next => (next (reply op)).answerWith reply

@[simp] theorem answerWith_ret
    (reply : (op : S.Op) → S.Reply op)
    (value : α) :
    (Program.ret value : Program S α).answerWith reply =
      value :=
  rfl

@[simp] theorem answerWith_call
    (reply : (op : S.Op) → S.Reply op)
    (op : S.Op)
    (next : S.Reply op → Program S α) :
    (Program.call op next).answerWith reply =
      (next (reply op)).answerWith reply :=
  rfl

@[simp] theorem answerWith_bind
    (reply : (op : S.Op) → S.Reply op)
    (program : Program S α)
    (next : α → Program S β) :
    (program >>= next).answerWith reply =
      (next (program.answerWith reply)).answerWith
        reply := by
  induction program with
  | ret value => rfl
  | call op rest ih =>
      simpa using ih (reply op)

/- The calls made when every operation gets its reply. -/
def callsWith
    (reply : (op : S.Op) → S.Reply op) :
    Program S α → List (Call S)
| .ret _ => []
| .call op next =>
    ⟨op, reply op⟩ :: (next (reply op)).callsWith reply

@[simp] theorem callsWith_ret
    (reply : (op : S.Op) → S.Reply op)
    (value : α) :
    (Program.ret value : Program S α).callsWith reply = [] :=
  rfl

@[simp] theorem callsWith_call
    (reply : (op : S.Op) → S.Reply op)
    (op : S.Op)
    (next : S.Reply op → Program S α) :
    (Program.call op next).callsWith reply =
      ⟨op, reply op⟩ ::
        (next (reply op)).callsWith reply :=
  rfl

@[simp] theorem answerWith_map
    (reply : (op : S.Op) → S.Reply op)
    (f : α → β)
    (program : Program S α) :
    (f <$> program).answerWith reply =
      f (program.answerWith reply) :=
  answerWith_bind reply program fun value => .ret (f value)

@[simp] theorem callsWith_bind
    (reply : (op : S.Op) → S.Reply op)
    (program : Program S α)
    (next : α → Program S β) :
    (program >>= next).callsWith reply =
      program.callsWith reply ++
        (next (program.answerWith reply)).callsWith
          reply := by
  induction program with
  | ret value => rfl
  | call op rest ih =>
      exact congrArg (⟨op, reply op⟩ :: ·) (ih (reply op))

theorem reply_of_mem_callsWith
    (reply : (op : S.Op) → S.Reply op)
    (program : Program S α)
    (call : Call S)
    (hCall : call ∈ program.callsWith reply) :
    call.reply = reply call.op := by
  induction program with
  | ret value => cases hCall
  | call op next ih =>
      rcases List.mem_cons.mp hCall with rfl | hCall
      · rfl
      · exact ih (reply op) hCall

/- Only the replies to the calls of a program matter. -/
theorem answerWith_congr
    {reply reply' : (op : S.Op) → S.Reply op}
    (program : Program S α)
    (hSame : ∀ call ∈ program.callsWith reply,
      reply' call.op = reply call.op) :
    program.answerWith reply' =
      program.answerWith reply := by
  induction program with
  | ret value => rfl
  | call op next ih =>
      rw [callsWith, List.forall_mem_cons] at hSame
      have hFirst : reply' op = reply op := hSame.1
      rw [answerWith_call, answerWith_call, hFirst]
      exact ih (reply op) hSame.2

end Program

end Interleaving

------------------------------------------------------------
-- Performed Calls
------------------------------------------------------------

namespace Interleaving

variable {S : Signature} {α β : Type}

/-
  `Performs program calls rest` says that the program can
  make exactly these calls in this order, after which `rest`
  remains to be performed.
-/
inductive Performs :
    Program S α → List (Call S) → Program S α → Prop where
  | done (program : Program S α) :
      Performs program [] program
  | step
      {op : S.Op}
      {next : S.Reply op → Program S α}
      {reply : S.Reply op}
      {calls : List (Call S)}
      {rest : Program S α}
      (tail : Performs (next reply) calls rest) :
      Performs (.call op next) (⟨op, reply⟩ :: calls) rest

@[simp] theorem performs_ret_iff
    (value : α)
    (calls : List (Call S))
    (rest : Program S α) :
    Performs (.ret value) calls rest ↔
      calls = [] ∧ rest = .ret value := by
  constructor
  · intro hPerforms
    cases hPerforms
    exact ⟨rfl, rfl⟩
  · rintro ⟨rfl, rfl⟩
    exact .done _

theorem performs_call_iff
    (op : S.Op)
    (next : S.Reply op → Program S α)
    (calls : List (Call S))
    (rest : Program S α) :
    Performs (.call op next) calls rest ↔
      (calls = [] ∧ rest = .call op next) ∨
        ∃ reply tail,
          calls = ⟨op, reply⟩ :: tail ∧
            Performs (next reply) tail rest := by
  constructor
  · intro hPerforms
    cases hPerforms with
    | done => exact .inl ⟨rfl, rfl⟩
    | step tail => exact .inr ⟨_, _, rfl, tail⟩
  · rintro (⟨rfl, rfl⟩ | ⟨reply, tail, rfl, hTail⟩)
    · exact .done _
    · exact .step hTail

/- A program that returns after a call has made that call. -/
@[simp] theorem performs_call_ret_iff
    (op : S.Op)
    (next : S.Reply op → Program S α)
    (calls : List (Call S))
    (value : α) :
    Performs (.call op next) calls (.ret value) ↔
      ∃ reply tail,
        calls = ⟨op, reply⟩ :: tail ∧
          Performs (next reply) tail (.ret value) := by
  simp [performs_call_iff]

/- One operation that returned is one call. -/
theorem performs_operation_iff
    (op : S.Op)
    (calls : List (Call S))
    (reply : S.Reply op) :
    Performs (.call op .ret) calls (.ret reply) ↔
      calls = [⟨op, reply⟩] := by
  rw [performs_call_ret_iff]
  constructor
  · rintro ⟨given, tail, rfl, hTail⟩
    rcases (performs_ret_iff _ _ _).mp hTail with
      ⟨rfl, hReply⟩
    cases hReply
    rfl
  · rintro rfl
    exact ⟨reply, [], rfl, .done _⟩

/- Performing one more operation extends the calls. -/
theorem Performs.snoc
    {program : Program S α}
    {calls : List (Call S)}
    {op : S.Op}
    {next : S.Reply op → Program S α}
    (hPerforms : Performs program calls (.call op next))
    (reply : S.Reply op) :
    Performs program (calls ++ [⟨op, reply⟩])
      (next reply) := by
  generalize hRest : Program.call op next = rest at hPerforms
  induction hPerforms with
  | done program =>
      subst hRest
      exact .step (.done _)
  | step tail ih =>
      exact .step (ih hRest)

/- Calls may be performed in two batches. -/
theorem Performs.split
    {program rest : Program S α}
    {first second : List (Call S)}
    (hPerforms : Performs program (first ++ second) rest) :
    ∃ middle,
      Performs program first middle ∧
        Performs middle second rest := by
  induction first generalizing program with
  | nil => exact ⟨program, .done _, hPerforms⟩
  | cons call first ih =>
      cases hPerforms with
      | step tail =>
          rcases ih tail with ⟨middle, hFirst, hSecond⟩
          exact ⟨middle, .step hFirst, hSecond⟩

/- The calls of a sequence are those of its two parts. -/
theorem performs_bind_iff
    (program : Program S α)
    (next : α → Program S β)
    (calls : List (Call S))
    (value : β) :
    Performs (program >>= next) calls (.ret value) ↔
      ∃ first second middle,
        calls = first ++ second ∧
          Performs program first (.ret middle) ∧
            Performs (next middle) second
              (.ret value) := by
  induction program generalizing calls with
  | ret middle =>
      simp
  | call op rest ih =>
      simp only [Program.call_bind, performs_call_ret_iff,
        ih]
      constructor
      · rintro ⟨reply, tail, rfl, first, second, middle,
          rfl, hFirst, hSecond⟩
        exact ⟨⟨op, reply⟩ :: first, second, middle, rfl,
          ⟨reply, first, rfl, hFirst⟩, hSecond⟩
      · rintro ⟨_, second, middle, rfl,
          ⟨reply, first, rfl, hFirst⟩, hSecond⟩
        exact ⟨reply, first ++ second, rfl, first, second,
          middle, rfl, hFirst, hSecond⟩

/-
  A program whose calls all received the replies of `reply`
  returns what they answer.
-/
theorem Performs.answerWith_eq
    {program : Program S α}
    {calls : List (Call S)}
    {value : α}
    (reply : (op : S.Op) → S.Reply op)
    (hPerforms : Performs program calls (.ret value))
    (hReplies : ∀ call ∈ calls, call.reply = reply call.op) :
    program.answerWith reply = value := by
  induction program generalizing calls with
  | ret returned =>
      have hReturned := (performs_ret_iff _ _ _).mp hPerforms
      exact (Program.ret.inj hReturned.2).symm
  | call op next ih =>
      rcases (performs_call_ret_iff _ _ _ _).mp hPerforms with
        ⟨given, tail, rfl, hTail⟩
      have hGiven : given = reply op :=
        hReplies ⟨op, given⟩ List.mem_cons_self
      subst hGiven
      exact ih _ hTail
        (fun call hCall =>
          hReplies call (List.mem_cons_of_mem _ hCall))

/- It has then made the calls of those replies. -/
theorem Performs.eq_callsWith
    {program : Program S α}
    {calls : List (Call S)}
    {value : α}
    (reply : (op : S.Op) → S.Reply op)
    (hPerforms : Performs program calls (.ret value))
    (hReplies : ∀ call ∈ calls, call.reply = reply call.op) :
    calls = program.callsWith reply := by
  induction program generalizing calls with
  | ret returned =>
      exact ((performs_ret_iff _ _ _).mp hPerforms).1
  | call op next ih =>
      rcases (performs_call_ret_iff _ _ _ _).mp hPerforms with
        ⟨given, tail, rfl, hTail⟩
      have hGiven : given = reply op :=
        hReplies ⟨op, given⟩ List.mem_cons_self
      subst hGiven
      exact congrArg (⟨op, reply op⟩ :: ·)
        (ih _ hTail
          (fun call hCall =>
            hReplies call (List.mem_cons_of_mem _ hCall)))

end Interleaving

------------------------------------------------------------
-- Programs That May Fail
------------------------------------------------------------

namespace Interleaving

variable {S : Signature} {ε α β : Type}

/- A program that stops at its first error. -/
abbrev Fallible (S : Signature) (ε α : Type) : Type :=
  ExceptT ε (Program S) α

namespace Fallible

/- Stop unless the given result is a value. -/
def ofExcept : Except ε α → Fallible S ε α
| .ok value => pure value
| .error failure => throw failure

/- Stop with an error unless a value is present. -/
def ofOption (error : ε) : Option α → Fallible S ε α
| some value => pure value
| none => throw error

/- Stop with an error of the program, in other words. -/
def attempt
    {δ : Type}
    (wrap : δ → ε)
    (program : Program S (Except δ α)) : Fallible S ε α :=
  ExceptT.mk do
    let result ← program
    return result.mapError wrap

@[simp] theorem run_ofExcept (result : Except ε α) :
    (ofExcept result : Fallible S ε α).run =
      .ret result := by
  cases result <;> rfl

@[simp] theorem run_ofOption
    (error : ε)
    (value : Option α) :
    (ofOption error value : Fallible S ε α).run =
      .ret (value.elim (.error error) .ok) := by
  cases value <;> rfl

@[simp] theorem run_pure (value : α) :
    (pure value : Fallible S ε α).run = .ret (.ok value) :=
  rfl

/- Fixed replies answer a sequence part by part. -/
@[simp] theorem answerWith_run_bind
    (reply : (op : S.Op) → S.Reply op)
    (program : Fallible S ε α)
    (next : α → Fallible S ε β) :
    (program >>= next).run.answerWith reply =
      program.run.answerWith reply >>= fun value =>
        (next value).run.answerWith reply := by
  rw [ExceptT.run_bind, Program.answerWith_bind]
  cases program.run.answerWith reply <;> rfl

/- A failed sequence makes the calls of its first part. -/
theorem callsWith_run_bind
    (reply : (op : S.Op) → S.Reply op)
    (program : Fallible S ε α)
    (next : α → Fallible S ε β) :
    (program >>= next).run.callsWith reply =
      program.run.callsWith reply ++
        match program.run.answerWith reply with
        | .ok value => (next value).run.callsWith reply
        | .error _ => [] := by
  rw [ExceptT.run_bind, Program.callsWith_bind]
  cases program.run.answerWith reply <;> rfl

@[simp] theorem run_liftM (program : Program S α) :
    (liftM program : Fallible S ε α).run =
      program >>= fun value => .ret (.ok value) :=
  rfl

end Fallible

/- A sequence succeeds exactly when both parts do. -/
theorem performs_run_bind_ok_iff
    (program : Fallible S ε α)
    (next : α → Fallible S ε β)
    (calls : List (Call S))
    (value : β) :
    Performs (program >>= next).run calls
        (.ret (.ok value)) ↔
      ∃ first second middle,
        calls = first ++ second ∧
          Performs program.run first
            (.ret (.ok middle)) ∧
          Performs (next middle).run second
            (.ret (.ok value)) := by
  rw [ExceptT.run_bind, performs_bind_iff]
  constructor
  · rintro ⟨first, second, middle, hCalls, hFirst,
      hSecond⟩
    cases middle with
    | ok middle =>
        exact ⟨first, second, middle, hCalls, hFirst,
          hSecond⟩
    | error failure =>
        have hFailure :=
          ((performs_ret_iff _ _ _).mp hSecond).2
        cases hFailure
  · rintro ⟨first, second, middle, hCalls, hFirst,
      hSecond⟩
    exact ⟨first, second, .ok middle, hCalls, hFirst,
      hSecond⟩

/- A program lifted into a fallible one does not fail. -/
theorem performs_run_liftM_ok_iff
    (program : Program S α)
    (calls : List (Call S))
    (value : α) :
    Performs (liftM program : Fallible S ε α).run calls
        (.ret (.ok value)) ↔
      Performs program calls (.ret value) := by
  rw [Fallible.run_liftM, performs_bind_iff]
  constructor
  · rintro ⟨first, second, middle, rfl, hFirst, hSecond⟩
    rcases (performs_ret_iff _ _ _).mp hSecond with
      ⟨rfl, hValue⟩
    cases hValue
    simpa using hFirst
  · intro hPerforms
    exact ⟨calls, [], value, by simp, hPerforms, .done _⟩

@[simp] theorem performs_run_ofExcept_ok_iff
    (result : Except ε α)
    (calls : List (Call S))
    (value : α) :
    Performs (Fallible.ofExcept result).run calls
        (.ret (.ok value)) ↔
      calls = [] ∧ result = .ok value := by
  simp [eq_comm]

/- A sequence that starts with a result goes on from it. -/
theorem performs_ofExcept_bind_ok_iff
    (result : Except ε α)
    (next : α → Fallible S ε β)
    (calls : List (Call S))
    (value : β) :
    Performs (Fallible.ofExcept result >>= next).run calls
        (.ret (.ok value)) ↔
      ∃ middle,
        result = .ok middle ∧
          Performs (next middle).run calls
            (.ret (.ok value)) := by
  rw [performs_run_bind_ok_iff]
  constructor
  · rintro ⟨first, second, middle, rfl, hResult, hNext⟩
    rw [performs_run_ofExcept_ok_iff] at hResult
    rcases hResult with ⟨rfl, hResult⟩
    exact ⟨middle, hResult, hNext⟩
  · rintro ⟨middle, hResult, hNext⟩
    exact ⟨[], calls, middle, rfl,
      (performs_run_ofExcept_ok_iff _ _ _).mpr
        ⟨rfl, hResult⟩, hNext⟩

theorem performs_ofOption_bind_ok_iff
    (error : ε)
    (result : Option α)
    (next : α → Fallible S ε β)
    (calls : List (Call S))
    (value : β) :
    Performs (Fallible.ofOption error result >>= next).run
        calls (.ret (.ok value)) ↔
      ∃ middle,
        result = some middle ∧
          Performs (next middle).run calls
            (.ret (.ok value)) := by
  have hExcept :
      (Fallible.ofOption error result : Fallible S ε α) =
        Fallible.ofExcept
          (result.elim (.error error) .ok) := by
    cases result <;> rfl
  rw [hExcept, performs_ofExcept_bind_ok_iff]
  cases result with
  | none => simp
  | some value => simp

/- A sequence ends with its first part if that part fails. -/
theorem performs_run_bind_iff
    (program : Fallible S ε α)
    (next : α → Fallible S ε β)
    (calls : List (Call S))
    (result : Except ε β) :
    Performs (program >>= next).run calls
        (.ret result) ↔
      (∃ failure,
        result = .error failure ∧
          Performs program.run calls
            (.ret (.error failure))) ∨
        ∃ first second middle,
          calls = first ++ second ∧
            Performs program.run first
              (.ret (.ok middle)) ∧
            Performs (next middle).run second
              (.ret result) := by
  rw [ExceptT.run_bind, performs_bind_iff]
  constructor
  · rintro ⟨first, second, middle, rfl, hFirst, hSecond⟩
    cases middle with
    | ok middle =>
        exact .inr ⟨first, second, middle, rfl, hFirst,
          hSecond⟩
    | error failure =>
        rcases (performs_ret_iff _ _ _).mp hSecond with
          ⟨rfl, hResult⟩
        cases hResult
        rw [List.append_nil]
        exact .inl ⟨failure, rfl, hFirst⟩
  · rintro (⟨failure, rfl, hFirst⟩ |
      ⟨first, second, middle, rfl, hFirst, hSecond⟩)
    · exact ⟨calls, [], .error failure,
        (List.append_nil _).symm, hFirst, .done _⟩
    · exact ⟨first, second, .ok middle, rfl, hFirst,
        hSecond⟩

/- An attempt makes the calls of its program. -/
theorem performs_run_attempt_iff
    {δ : Type}
    (wrap : δ → ε)
    (program : Program S (Except δ α))
    (calls : List (Call S))
    (result : Except ε α) :
    Performs (Fallible.attempt wrap program).run calls
        (.ret result) ↔
      ∃ found,
        result = found.mapError wrap ∧
          Performs program calls (.ret found) := by
  have hRun :
      (Fallible.attempt wrap program).run =
        program >>= fun found =>
          .ret (found.mapError wrap) :=
    rfl
  rw [hRun, performs_bind_iff]
  constructor
  · rintro ⟨first, second, found, rfl, hFirst, hSecond⟩
    rcases (performs_ret_iff _ _ _).mp hSecond with
      ⟨rfl, hResult⟩
    cases hResult
    rw [List.append_nil]
    exact ⟨found, rfl, hFirst⟩
  · rintro ⟨found, rfl, hPerforms⟩
    exact ⟨calls, [], found, (List.append_nil _).symm,
      hPerforms, .done _⟩

/- A sequence ends with its attempt if the attempt fails. -/
theorem performs_attempt_bind_iff
    {δ : Type}
    (wrap : δ → ε)
    (program : Program S (Except δ α))
    (next : α → Fallible S ε β)
    (calls : List (Call S))
    (result : Except ε β) :
    Performs (Fallible.attempt wrap program >>= next).run
        calls (.ret result) ↔
      (∃ failure,
        result = .error (wrap failure) ∧
          Performs program calls
            (.ret (.error failure))) ∨
        ∃ first second value,
          calls = first ++ second ∧
            Performs program first (.ret (.ok value)) ∧
              Performs (next value).run second
                (.ret result) := by
  simp only [performs_run_bind_iff,
    performs_run_attempt_iff]
  constructor
  · rintro (⟨error, rfl, found, hFound, hPerforms⟩ |
      ⟨first, second, value, rfl, ⟨found, hFound, hFirst⟩,
        hSecond⟩)
    · cases found with
      | ok value => cases hFound
      | error failure =>
          cases hFound
          exact .inl ⟨failure, rfl, hPerforms⟩
    · cases found with
      | ok given =>
          cases hFound
          exact .inr ⟨first, second, value, rfl, hFirst,
            hSecond⟩
      | error failure => cases hFound
  · rintro (⟨failure, rfl, hPerforms⟩ |
      ⟨first, second, value, rfl, hFirst, hSecond⟩)
    · exact .inl ⟨wrap failure, rfl, .error failure, rfl,
        hPerforms⟩
    · exact .inr ⟨first, second, value, rfl,
        ⟨.ok value, rfl, hFirst⟩, hSecond⟩

/- A sequence after a result ends with its error. -/
theorem performs_ofExcept_bind_iff
    (found : Except ε α)
    (next : α → Fallible S ε β)
    (calls : List (Call S))
    (result : Except ε β) :
    Performs (Fallible.ofExcept found >>= next).run calls
        (.ret result) ↔
      (∃ failure,
        found = .error failure ∧ calls = [] ∧
          result = .error failure) ∨
        ∃ value,
          found = .ok value ∧
            Performs (next value).run calls
              (.ret result) := by
  rw [performs_run_bind_iff]
  cases found with
  | error failure =>
      simp [and_comm, eq_comm]
  | ok value =>
      simp

/- What a lifted program returned is passed on. -/
theorem performs_liftM_bind_iff
    (program : Program S α)
    (next : α → Fallible S ε β)
    (calls : List (Call S))
    (result : Except ε β) :
    Performs (liftM program >>= next).run calls
        (.ret result) ↔
      ∃ first second value,
        calls = first ++ second ∧
          Performs program first (.ret value) ∧
            Performs (next value).run second
              (.ret result) := by
  have hRun :
      (liftM program >>= next : Fallible S ε β).run =
        program >>= fun value => (next value).run := by
    rw [ExceptT.run_bind, Fallible.run_liftM]
    induction program with
    | ret value => rfl
    | call op rest ih =>
        exact congrArg (Program.call op) (funext ih)
  rw [hRun, performs_bind_iff]

/- Fixed replies are one way to perform a program. -/
theorem performs_callsWith
    (reply : (op : S.Op) → S.Reply op)
    (program : Program S α) :
    Performs program (program.callsWith reply)
      (.ret (program.answerWith reply)) := by
  induction program with
  | ret value => exact .done _
  | call op next ih => exact .step (ih (reply op))

end Interleaving

------------------------------------------------------------
-- Contracts
------------------------------------------------------------

namespace Interleaving

variable {S : Signature} {ε α β : Type}

/-
  A contract speaks about the calls made so far.  A program
  meets it when every call it makes is allowed by `guard`
  after the calls before it, and every value it returns is
  allowed by `post` after all of them.
-/
def Program.Meets
    (guard : List (Call S) → S.Op → Prop)
    (post : List (Call S) → α → Prop) :
    List (Call S) → Program S α → Prop
| past, .ret value => post past value
| past, .call op next =>
    guard past op ∧
      ∀ reply,
        (next reply).Meets guard post (past ++ [⟨op, reply⟩])

@[simp] theorem Program.meets_ret_iff
    (guard : List (Call S) → S.Op → Prop)
    (post : List (Call S) → α → Prop)
    (past : List (Call S))
    (value : α) :
    (Program.ret value).Meets guard post past ↔
      post past value :=
  Iff.rfl

@[simp] theorem Program.meets_call_iff
    (guard : List (Call S) → S.Op → Prop)
    (post : List (Call S) → α → Prop)
    (past : List (Call S))
    (op : S.Op)
    (next : S.Reply op → Program S α) :
    (Program.call op next).Meets guard post past ↔
      guard past op ∧
        ∀ reply,
          (next reply).Meets guard post
            (past ++ [⟨op, reply⟩]) :=
  Iff.rfl

/- A postcondition may be weakened. -/
theorem Program.Meets.mono
    {guard : List (Call S) → S.Op → Prop}
    {post post' : List (Call S) → α → Prop}
    {past : List (Call S)}
    {program : Program S α}
    (hMeets : program.Meets guard post past)
    (hPost : ∀ calls value,
      post calls value → post' calls value) :
    program.Meets guard post' past := by
  induction program generalizing past with
  | ret value => exact hPost past value hMeets
  | call op next ih =>
      exact ⟨hMeets.1, fun reply => ih reply (hMeets.2 reply)⟩

/- The contract of the second part ends the first part. -/
@[simp] theorem Program.meets_bind_iff
    (guard : List (Call S) → S.Op → Prop)
    (post : List (Call S) → β → Prop)
    (past : List (Call S))
    (program : Program S α)
    (next : α → Program S β) :
    (program >>= next).Meets guard post past ↔
      program.Meets guard
        (fun past value => (next value).Meets guard post past)
        past := by
  induction program generalizing past with
  | ret value => rfl
  | call op rest ih =>
      simp only [Program.call_bind, Program.meets_call_iff,
        ih]

/- The remainder of a program keeps its contract. -/
theorem Performs.meets
    {guard : List (Call S) → S.Op → Prop}
    {post : List (Call S) → α → Prop}
    {past calls : List (Call S)}
    {program rest : Program S α}
    (hPerforms : Performs program calls rest)
    (hMeets : program.Meets guard post past) :
    rest.Meets guard post (past ++ calls) := by
  induction hPerforms generalizing past with
  | done program => simpa using hMeets
  | step tail ih => simpa using ih (hMeets.2 _)

/- A returned value satisfies the postcondition. -/
theorem Performs.post
    {guard : List (Call S) → S.Op → Prop}
    {post : List (Call S) → α → Prop}
    {calls : List (Call S)}
    {program : Program S α}
    {value : α}
    (hPerforms : Performs program calls (.ret value))
    (hMeets : program.Meets guard post []) :
    post calls value := by
  simpa using hPerforms.meets hMeets

/- Every call was allowed after the calls before it. -/
theorem Performs.guard
    {guard : List (Call S) → S.Op → Prop}
    {post : List (Call S) → α → Prop}
    {past first second : List (Call S)}
    {call : Call S}
    {program rest : Program S α}
    (hPerforms :
      Performs program (first ++ call :: second) rest)
    (hMeets : program.Meets guard post past) :
    guard (past ++ first) call.op := by
  generalize hCalls : first ++ call :: second = calls
    at hPerforms
  induction hPerforms generalizing past first with
  | done program => simp at hCalls
  | step tail ih =>
      cases first with
      | nil =>
          simp only [List.nil_append, List.cons.injEq]
            at hCalls
          rw [hCalls.1]
          simpa using hMeets.1
      | cons head earlier =>
          simp only [List.cons_append, List.cons.injEq]
            at hCalls
          rw [hCalls.1]
          simpa using ih (hMeets.2 _) hCalls.2

/- Every call of a list is allowed after the calls before. -/
def Guarded
    (guard : List (Call S) → S.Op → Prop) :
    List (Call S) → List (Call S) → Prop
| _, [] => True
| past, call :: rest =>
    guard past call.op ∧
      Guarded guard (past ++ [call]) rest

@[simp] theorem guarded_nil
    (guard : List (Call S) → S.Op → Prop)
    (past : List (Call S)) :
    Guarded guard past [] :=
  trivial

@[simp] theorem guarded_cons_iff
    (guard : List (Call S) → S.Op → Prop)
    (past rest : List (Call S))
    (call : Call S) :
    Guarded guard past (call :: rest) ↔
      guard past call.op ∧
        Guarded guard (past ++ [call]) rest :=
  Iff.rfl

@[simp] theorem guarded_append_iff
    (guard : List (Call S) → S.Op → Prop)
    (past first second : List (Call S)) :
    Guarded guard past (first ++ second) ↔
      Guarded guard past first ∧
        Guarded guard (past ++ first) second := by
  induction first generalizing past with
  | nil => simp
  | cons call first ih =>
      simp only [List.cons_append, guarded_cons_iff, ih,
        List.append_assoc, List.nil_append, and_assoc]

/- Calls that are allowed after any others. -/
theorem guarded_of_forall
    {guard : List (Call S) → S.Op → Prop}
    {past calls : List (Call S)}
    (hAllowed : ∀ call ∈ calls, ∀ past,
      guard past call.op) :
    Guarded guard past calls := by
  induction calls generalizing past with
  | nil => trivial
  | cons call calls ih =>
      rw [List.forall_mem_cons] at hAllowed
      exact ⟨hAllowed.1 past, ih hAllowed.2⟩

/-
  A program meets a contract that its completed runs keep:
  every run can be completed, with any replies.
-/
theorem Program.meets_of_performs
    {guard : List (Call S) → S.Op → Prop}
    {post : List (Call S) → α → Prop}
    {past : List (Call S)}
    {program : Program S α}
    (base : (op : S.Op) → S.Reply op)
    (hRuns : ∀ calls value,
      Performs program calls (.ret value) →
        Guarded guard past calls ∧
          post (past ++ calls) value) :
    program.Meets guard post past := by
  induction program generalizing past with
  | ret value => simpa using (hRuns [] value (.done _)).2
  | call op next ih =>
      constructor
      · have hRun := performs_callsWith base
          (Program.call op next)
        exact (hRuns _ _ hRun).1.1
      · intro reply
        apply ih
        intro calls value hPerforms
        rcases hRuns _ _ (.step hPerforms) with
          ⟨hGuarded, hPost⟩
        exact ⟨hGuarded.2, by simpa using hPost⟩

end Interleaving

------------------------------------------------------------
-- Contracts Of Programs That May Fail
------------------------------------------------------------

namespace Interleaving

variable {S : Signature} {ε α β : Type}

/- The contract of both parts, as far as the first goes. -/
theorem Fallible.meets_run_bind_iff
    (guard : List (Call S) → S.Op → Prop)
    (post : List (Call S) → Except ε β → Prop)
    (past : List (Call S))
    (program : Fallible S ε α)
    (next : α → Fallible S ε β) :
    (program >>= next).run.Meets guard post past ↔
      program.run.Meets guard
        (fun past result =>
          match result with
          | .ok value =>
              (next value).run.Meets guard post past
          | .error failure => post past (.error failure))
        past := by
  rw [ExceptT.run_bind, Program.meets_bind_iff]
  constructor
  · intro hMeets
    apply hMeets.mono
    rintro past (failure | value) hPost
    · exact hPost
    · exact hPost
  · intro hMeets
    apply hMeets.mono
    rintro past (failure | value) hPost
    · exact hPost
    · exact hPost

variable {guard : List (Call S) → S.Op → Prop}
variable {post : List (Call S) → Except ε β → Prop}
variable {past : List (Call S)}

/- A result that is there makes no call. -/
theorem Fallible.meets_ofExcept_bind
    {result : Except ε α}
    {next : α → Fallible S ε β}
    (hFailed : ∀ failure, post past (.error failure))
    (hNext : ∀ value,
      result = .ok value →
        (next value).run.Meets guard post past) :
    (Fallible.ofExcept result >>= next).run.Meets guard post
      past := by
  rw [Fallible.meets_run_bind_iff, Fallible.run_ofExcept]
  cases result with
  | ok value => exact hNext value rfl
  | error failure => exact hFailed failure

theorem Fallible.meets_ofOption_bind
    {error : ε} {result : Option α}
    {next : α → Fallible S ε β}
    (hFailed : ∀ failure, post past (.error failure))
    (hNext : ∀ value,
      result = some value →
        (next value).run.Meets guard post past) :
    (Fallible.ofOption error result >>= next).run.Meets
      guard post past := by
  rw [Fallible.meets_run_bind_iff, Fallible.run_ofOption]
  cases result with
  | some value => exact hNext value rfl
  | none => exact hFailed error

end Interleaving

------------------------------------------------------------
-- Programs That Call No Operation Twice
------------------------------------------------------------

namespace Interleaving

variable {S : Signature} {ε α β : Type}

/-
  Every operation has a stage, and the program calls them
  in increasing stages from `low` on and below `high`.
-/
def Program.Climbs (stage : S.Op → Nat) :
    Nat → Nat → Program S α → Prop
| _, _, .ret _ => True
| low, high, .call op next =>
    (low ≤ stage op ∧ stage op < high) ∧
      ∀ reply, (next reply).Climbs stage (stage op + 1) high

theorem Program.Climbs.mono
    {stage : S.Op → Nat}
    {low high low' high' : Nat}
    {program : Program S α}
    (hClimbs : program.Climbs stage low high)
    (hLow : low' ≤ low)
    (hHigh : high ≤ high') :
    program.Climbs stage low' high' := by
  induction program generalizing low low' with
  | ret value => trivial
  | call op next ih =>
      exact ⟨⟨Nat.le_trans hLow hClimbs.1.1,
          Nat.lt_of_lt_of_le hClimbs.1.2 hHigh⟩,
        fun reply =>
          ih reply (hClimbs.2 reply) (Nat.le_refl _)⟩

/- A sequence climbs when its parts do, one after another. -/
theorem Program.Climbs.bind
    {stage : S.Op → Nat}
    {low middle high : Nat}
    {program : Program S α}
    {next : α → Program S β}
    (hLow : low ≤ middle)
    (hHigh : middle ≤ high)
    (hProgram : program.Climbs stage low middle)
    (hNext : ∀ value, (next value).Climbs stage middle high) :
    (program >>= next).Climbs stage low high := by
  induction program generalizing low with
  | ret value =>
      exact (hNext value).mono hLow (Nat.le_refl _)
  | call op rest ih =>
      exact ⟨⟨hProgram.1.1,
          Nat.lt_of_lt_of_le hProgram.1.2 hHigh⟩,
        fun reply =>
          ih reply hProgram.1.2 (hProgram.2 reply)⟩

/- The second part of a failed sequence is left out. -/
theorem Fallible.climbs_run_bind
    {stage : S.Op → Nat}
    {low middle high : Nat}
    {program : Fallible S ε α}
    {next : α → Fallible S ε β}
    (hLow : low ≤ middle)
    (hHigh : middle ≤ high)
    (hProgram : program.run.Climbs stage low middle)
    (hNext : ∀ value,
      (next value).run.Climbs stage middle high) :
    (program >>= next).run.Climbs stage low high := by
  rw [ExceptT.run_bind]
  apply hProgram.bind hLow hHigh
  rintro (error | value)
  · trivial
  · exact hNext value

/- A climbing program meets a contract of its stages. -/
theorem Program.Climbs.meets
    {stage : S.Op → Nat}
    {low high : Nat}
    {guard : List (Call S) → S.Op → Prop}
    {past : List (Call S)}
    {program : Program S α}
    (hClimbs : program.Climbs stage low high)
    (hGuard : ∀ past op, low ≤ stage op → guard past op) :
    program.Meets guard (fun _ _ => True) past := by
  induction program generalizing low past with
  | ret value => trivial
  | call op next ih =>
      refine ⟨hGuard past op hClimbs.1.1, fun reply => ?_⟩
      apply ih reply (hClimbs.2 reply)
      intro past other hStage
      have hFirst := hClimbs.1.1
      exact hGuard past other (by omega)

/- The calls of a climbing program have increasing stages. -/
theorem Performs.stages
    {stage : S.Op → Nat}
    {low high : Nat}
    {calls : List (Call S)}
    {program rest : Program S α}
    (hPerforms : Performs program calls rest)
    (hClimbs : program.Climbs stage low high) :
    (∀ call ∈ calls, low ≤ stage call.op) ∧
      (calls.map Call.op).Nodup := by
  induction hPerforms generalizing low with
  | done program => simp
  | @step op next reply calls rest tail ih =>
      rcases ih (hClimbs.2 reply) with ⟨hStages, hNodup⟩
      constructor
      · intro call hCall
        rcases List.mem_cons.mp hCall with rfl | hCall
        · exact hClimbs.1.1
        · have hStage := hStages call hCall
          have hFirst := hClimbs.1.1
          omega
      · refine List.nodup_cons.mpr ⟨?_, hNodup⟩
        intro hAgain
        rcases List.mem_map.mp hAgain with
          ⟨call, hCall, hOp⟩
        have hStage := hStages call hCall
        rw [hOp] at hStage
        exact Nat.not_succ_le_self _ hStage

/- Calls of different operations have one reply function. -/
theorem exists_reply_of_nodup
    (base : (op : S.Op) → S.Reply op)
    (calls : List (Call S))
    (hNodup : (calls.map Call.op).Nodup) :
    ∃ reply : (op : S.Op) → S.Reply op,
      (∀ call ∈ calls, call.reply = reply call.op) ∧
        ∀ op, op ∉ calls.map Call.op →
          reply op = base op := by
  classical
  induction calls with
  | nil => exact ⟨base, by simp, fun _ _ => rfl⟩
  | cons call rest ih =>
      rw [List.map_cons, List.nodup_cons] at hNodup
      rcases ih hNodup.2 with ⟨reply, hReply, hOthers⟩
      refine ⟨Function.update reply call.op call.reply, ?_,
        ?_⟩
      · intro other hOther
        rcases List.mem_cons.mp hOther with rfl | hOther
        · rw [Function.update_self]
        · have hNe : other.op ≠ call.op := fun hEq =>
            hNodup.1 (hEq ▸ List.mem_map_of_mem hOther)
          rw [Function.update_of_ne hNe]
          exact hReply other hOther
      · intro op hOp
        rw [List.map_cons, List.mem_cons, not_or] at hOp
        rw [Function.update_of_ne hOp.1]
        exact hOthers op hOp.2

/-
  A program that calls no operation twice returns what some
  fixed replies answer, and has made exactly their calls.
-/
theorem Performs.exists_reply
    {stage : S.Op → Nat}
    {low high : Nat}
    {calls : List (Call S)}
    {program : Program S α}
    {value : α}
    (base : (op : S.Op) → S.Reply op)
    (hPerforms : Performs program calls (.ret value))
    (hClimbs : program.Climbs stage low high) :
    ∃ reply : (op : S.Op) → S.Reply op,
      (∀ call ∈ calls, call.reply = reply call.op) ∧
        value = program.answerWith reply ∧
          calls = program.callsWith reply := by
  rcases exists_reply_of_nodup base calls
      (hPerforms.stages hClimbs).2 with
    ⟨reply, hReplies, _⟩
  exact ⟨reply, hReplies,
    (hPerforms.answerWith_eq reply hReplies).symm,
    hPerforms.eq_callsWith reply hReplies⟩

/-
  The operation has not been called, if all that was found
  is `credible`.
-/
def NotCalled
    (credible : Call S → Prop)
    (past : List (Call S))
    (op : S.Op) : Prop :=
  (∀ call ∈ past, credible call) → op ∉ past.map Call.op

/- No operation is called twice on what is credible. -/
theorem Performs.nodup_of_notCalled
    {credible : Call S → Prop}
    {post : List (Call S) → α → Prop}
    {calls : List (Call S)}
    {program rest : Program S α}
    (hPerforms : Performs program calls rest)
    (hMeets : program.Meets (NotCalled credible) post [])
    (hCredible : ∀ call ∈ calls, credible call) :
    (calls.map Call.op).Nodup := by
  induction calls using List.reverseRecOn generalizing rest with
  | nil => simp
  | append_singleton calls call ih =>
      have hNew := hPerforms.guard hMeets
      rcases hPerforms.split with ⟨middle, hInit, _⟩
      rw [List.nil_append] at hNew
      rw [List.forall_mem_append] at hCredible
      rw [List.map_append, List.map_singleton,
        List.nodup_append]
      refine ⟨ih hInit hCredible.1, by simp, ?_⟩
      rintro op hOp _ hLast rfl
      rw [List.mem_singleton] at hLast
      subst hLast
      exact hNew hCredible.1 hOp

end Interleaving
