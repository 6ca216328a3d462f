import Mathlib.Tactic

/-!
# Programs that ask an environment

A program is a tree of requests to its environment with the continuation for every
answer; it ends with a value or with a failure.  A run is the list of requests and
answers along one branch.  `Safe` is the program logic: every request is permitted
by what was asked and answered before it, and the outcome meets its postcondition.
-/

namespace Portcullis.Lib

open List

inductive Prog (Op : Type) (Ans : Op → Type) (Failure Value : Type) where
  | ret (value : Value)
  | fail (failure : Failure)
  | ask (op : Op) (next : Ans op → Prog Op Ans Failure Value)

structure Event (Op : Type) (Ans : Op → Type) where
  op : Op
  answer : Ans op

namespace Prog

variable {Op : Type} {Ans : Op → Type} {Failure Value Result : Type}

abbrev Trace (Op : Type) (Ans : Op → Type) := List (Event Op Ans)

def bind : Prog Op Ans Failure Value → (Value → Prog Op Ans Failure Result) →
    Prog Op Ans Failure Result
  | .ret value, continuation => continuation value
  | .fail failure, _ => .fail failure
  | .ask op next, continuation => .ask op fun answer => bind (next answer) continuation

instance : Monad (Prog Op Ans Failure) where
  pure := .ret
  bind := bind

/-- Run the handler on a failure of the program. -/
def recover : Prog Op Ans Failure Value → (Failure → Prog Op Ans Failure Value) →
    Prog Op Ans Failure Value
  | .ret value, _ => .ret value
  | .fail failure, handler => handler failure
  | .ask op next, handler => .ask op fun answer => recover (next answer) handler

def request (op : Op) : Prog Op Ans Failure (Ans op) := .ask op .ret

/-! ## Runs -/

inductive Runs : Prog Op Ans Failure Value → Trace Op Ans → Except Failure Value → Prop where
  | ret (value : Value) : Runs (.ret value) [] (.ok value)
  | fail (failure : Failure) : Runs (.fail failure) [] (.error failure)
  | ask (op : Op) (next : Ans op → Prog Op Ans Failure Value) (answer : Ans op)
      (trace : Trace Op Ans) (outcome : Except Failure Value)
      (rest : Runs (next answer) trace outcome) :
      Runs (.ask op next) (⟨op, answer⟩ :: trace) outcome

/-- The outcome against an environment that answers each request from a snapshot. -/
def exec (env : (op : Op) → Ans op) : Prog Op Ans Failure Value → Except Failure Value
  | .ret value => .ok value
  | .fail failure => .error failure
  | .ask op next => exec env (next (env op))

def trace (env : (op : Op) → Ans op) : Prog Op Ans Failure Value → Trace Op Ans
  | .ret _ => []
  | .fail _ => []
  | .ask op next => ⟨op, env op⟩ :: trace env (next (env op))

theorem runs_exec (env : (op : Op) → Ans op) (program : Prog Op Ans Failure Value) :
    Runs program (trace env program) (exec env program) := by
  induction program with
  | ret value => exact .ret value
  | fail failure => exact .fail failure
  | ask op next ih => exact .ask op next (env op) _ _ (ih (env op))

theorem answer_of_mem_trace (env : (op : Op) → Ans op)
    (program : Prog Op Ans Failure Value) (event : Event Op Ans)
    (mem : event ∈ trace env program) : event.answer = env event.op := by
  induction program with
  | ret value => cases mem
  | fail failure => cases mem
  | ask op next ih =>
    rcases mem_cons.mp mem with here | later
    · rw [here]
    · exact ih (env op) later

namespace Runs

variable {outcome : Except Failure Value} {run : Trace Op Ans}

theorem ret_cases {value : Value} (runs : Runs (.ret value) run outcome) :
    run = [] ∧ outcome = .ok value := by
  cases runs
  exact ⟨rfl, rfl⟩

theorem fail_cases {failure : Failure} (runs : Runs (.fail failure) run outcome) :
    run = [] ∧ outcome = .error failure := by
  cases runs
  exact ⟨rfl, rfl⟩

theorem request_cases {op : Op} {outcome : Except Failure (Ans op)}
    (runs : Runs (request op) run outcome) :
    ∃ answer, run = [⟨op, answer⟩] ∧ outcome = .ok answer := by
  cases runs with
  | ask _ _ answer rest _ ended =>
    obtain ⟨rfl, rfl⟩ := ended.ret_cases
    exact ⟨answer, rfl, rfl⟩

theorem bind_cases {program : Prog Op Ans Failure Value}
    {continuation : Value → Prog Op Ans Failure Result} {outcome : Except Failure Result}
    (runs : Runs (program >>= continuation) run outcome) :
    (∃ failure, Runs program run (.error failure) ∧ outcome = .error failure) ∨
      ∃ first value rest, run = first ++ rest ∧ Runs program first (.ok value) ∧
        Runs (continuation value) rest outcome := by
  induction program generalizing run with
  | ret value => exact .inr ⟨[], value, run, rfl, .ret value, runs⟩
  | fail failure =>
    obtain ⟨rfl, rfl⟩ := runs.fail_cases
    exact .inl ⟨failure, .fail failure, rfl⟩
  | ask op next ih =>
    cases runs with
    | ask _ _ answer rest _ later =>
      rcases ih answer later with
        ⟨failure, failed, rfl⟩ | ⟨first, value, rest, rfl, passed, ended⟩
      · exact .inl ⟨failure, .ask op next answer _ _ failed, rfl⟩
      · exact .inr ⟨⟨op, answer⟩ :: first, value, rest, rfl, .ask op next answer _ _ passed, ended⟩

theorem recover_cases {program : Prog Op Ans Failure Value}
    {handler : Failure → Prog Op Ans Failure Value}
    (runs : Runs (program.recover handler) run outcome) :
    (∃ value, Runs program run (.ok value) ∧ outcome = .ok value) ∨
      ∃ first failure rest, run = first ++ rest ∧ Runs program first (.error failure) ∧
        Runs (handler failure) rest outcome := by
  induction program generalizing run with
  | ret value =>
    obtain ⟨rfl, rfl⟩ := runs.ret_cases
    exact .inl ⟨value, .ret value, rfl⟩
  | fail failure => exact .inr ⟨[], failure, run, rfl, .fail failure, runs⟩
  | ask op next ih =>
    cases runs with
    | ask _ _ answer rest _ later =>
      rcases ih answer later with
        ⟨value, passed, rfl⟩ | ⟨first, failure, rest, rfl, failed, ended⟩
      · exact .inl ⟨value, .ask op next answer _ _ passed, rfl⟩
      · exact .inr ⟨⟨op, answer⟩ :: first, failure, rest, rfl,
          .ask op next answer _ _ failed, ended⟩

end Runs

variable (env : (op : Op) → Ans op) (program : Prog Op Ans Failure Value)

@[simp] theorem exec_pure (value : Value) :
    exec env (pure value : Prog Op Ans Failure Value) = .ok value :=
  rfl

@[simp] theorem exec_fail (failure : Failure) :
    exec env (.fail failure : Prog Op Ans Failure Value) = .error failure :=
  rfl

@[simp] theorem exec_request (env : (op : Op) → Ans op) (op : Op) :
    exec env (request op : Prog Op Ans Failure (Ans op)) = .ok (env op) :=
  rfl

@[simp] theorem exec_bind (continuation : Value → Prog Op Ans Failure Result) :
    exec env (program >>= continuation) =
      (exec env program).bind fun value => exec env (continuation value) := by
  induction program with
  | ret value => rfl
  | fail failure => rfl
  | ask op next ih => exact ih (env op)

theorem exec_bind_ok_iff (continuation : Value → Prog Op Ans Failure Result) (result : Result) :
    exec env (program >>= continuation) = .ok result ↔
      ∃ value, exec env program = .ok value ∧ exec env (continuation value) = .ok result := by
  rw [exec_bind]
  cases exec env program with
  | ok value => simp [Except.bind]
  | error failure => simp [Except.bind]

@[simp] theorem exec_recover (handler : Failure → Prog Op Ans Failure Value) :
    exec env (program.recover handler) =
      match exec env program with
      | .ok value => .ok value
      | .error failure => exec env (handler failure) := by
  induction program with
  | ret value => rfl
  | fail failure => rfl
  | ask op next ih => exact ih (env op)

/-! ## Environments with a state -/

/-- A run against an environment that has a state: the outcome, every request with its
answer and the state it met, and the state at the end. -/
structure Driven (State Op : Type) (Ans : Op → Type) (Failure Value : Type) where
  outcome : Except Failure Value
  log : List (State × Event Op Ans)
  final : State

section Drive

variable {State : Type} (serve : State → (op : Op) → Ans op × State)

def drive (state : State) : Prog Op Ans Failure Value → Driven State Op Ans Failure Value
  | .ret value => ⟨.ok value, [], state⟩
  | .fail failure => ⟨.error failure, [], state⟩
  | .ask op next =>
    let served := serve state op
    let rest := drive served.2 (next served.1)
    ⟨rest.outcome, (state, ⟨op, served.1⟩) :: rest.log, rest.final⟩

variable (state : State) (program : Prog Op Ans Failure Value)

theorem runs_drive : Runs program ((drive serve state program).log.map Prod.snd)
      (drive serve state program).outcome := by
  induction program generalizing state with
  | ret value => exact .ret value
  | fail failure => exact .fail failure
  | ask op next ih => exact .ask op next (serve state op).1 _ _ (ih (serve state op).1 _)

theorem answer_of_mem_log (met : State) (event : Event Op Ans)
    (mem : (met, event) ∈ (drive serve state program).log) :
    event.answer = (serve met event.op).1 := by
  induction program generalizing state with
  | ret value => cases mem
  | fail failure => cases mem
  | ask op next ih =>
    rcases mem_cons.mp mem with here | later
    · cases here
      rfl
    · exact ih (serve state op).1 (serve state op).2 later

theorem drive_met {before after : List (State × Event Op Ans)} {met : State} {event : Event Op Ans}
    (split : (drive serve state program).log = before ++ (met, event) :: after) :
    met = before.foldl (fun state entry => (serve state entry.2.op).2) state := by
  induction program generalizing state before with
  | ret value => simp [drive] at split
  | fail failure => simp [drive] at split
  | ask op next ih =>
    cases before with
    | nil => exact (Prod.mk.inj (List.cons.inj split).1).1.symm
    | cons first rest =>
      obtain ⟨rfl, later⟩ := List.cons.inj split
      exact ih (serve state op).1 (serve state op).2 later

theorem drive_final : (drive serve state program).final =
      (drive serve state program).log.foldl (fun state entry => (serve state entry.2.op).2)
        state := by
  induction program generalizing state with
  | ret value => rfl
  | fail failure => rfl
  | ask op next ih => exact ih (serve state op).1 (serve state op).2

def Driven.andThen (first : Driven State Op Ans Failure Value)
    (rest : Driven State Op Ans Failure Result) : Driven State Op Ans Failure Result :=
  ⟨rest.outcome, first.log ++ rest.log, rest.final⟩

theorem drive_bind_ok (continuation : Value → Prog Op Ans Failure Result) (value : Value)
    (returned : (drive serve state program).outcome = .ok value) :
    drive serve state (program >>= continuation) = (drive serve state program).andThen
        (drive serve (drive serve state program).final (continuation value)) := by
  induction program generalizing state with
  | ret result =>
    cases returned
    rfl
  | fail failure => cases returned
  | ask op next ih =>
    have later := ih (serve state op).1 (serve state op).2 returned
    change (⟨(drive serve _ (next _ >>= continuation)).outcome,
      _ :: (drive serve _ (next _ >>= continuation)).log,
      (drive serve _ (next _ >>= continuation)).final⟩ : Driven State Op Ans Failure Result) = _
    rw [later]
    rfl

theorem drive_bind_error (continuation : Value → Prog Op Ans Failure Result) (failure : Failure)
    (failed : (drive serve state program).outcome = .error failure) :
    drive serve state (program >>= continuation) =
      ⟨.error failure, (drive serve state program).log, (drive serve state program).final⟩ := by
  induction program generalizing state with
  | ret result => cases failed
  | fail other =>
    cases failed
    rfl
  | ask op next ih =>
    have later := ih (serve state op).1 (serve state op).2 failed
    change (⟨(drive serve _ (next _ >>= continuation)).outcome,
      _ :: (drive serve _ (next _ >>= continuation)).log,
      (drive serve _ (next _ >>= continuation)).final⟩ : Driven State Op Ans Failure Result) = _
    rw [later]
    rfl

theorem drive_recover_ok (handler : Failure → Prog Op Ans Failure Value) (value : Value)
    (returned : (drive serve state program).outcome = .ok value) :
    drive serve state (program.recover handler) = drive serve state program := by
  induction program generalizing state with
  | ret result => rfl
  | fail failure => cases returned
  | ask op next ih =>
    have later := ih (serve state op).1 (serve state op).2 returned
    change (⟨(drive serve _ ((next _).recover handler)).outcome,
      _ :: (drive serve _ ((next _).recover handler)).log,
      (drive serve _ ((next _).recover handler)).final⟩ : Driven State Op Ans Failure Value) = _
    rw [later]
    rfl

theorem drive_recover_error (handler : Failure → Prog Op Ans Failure Value) (failure : Failure)
    (failed : (drive serve state program).outcome = .error failure) :
    drive serve state (program.recover handler) = (drive serve state program).andThen
        (drive serve (drive serve state program).final (handler failure)) := by
  induction program generalizing state with
  | ret result => cases failed
  | fail other =>
    cases failed
    rfl
  | ask op next ih =>
    have later := ih (serve state op).1 (serve state op).2 failed
    change (⟨(drive serve _ ((next _).recover handler)).outcome,
      _ :: (drive serve _ ((next _).recover handler)).log,
      (drive serve _ ((next _).recover handler)).final⟩ : Driven State Op Ans Failure Value) = _
    rw [later]
    rfl

end Drive

/-! ## Program logic -/

section Logic

variable (permitted : Trace Op Ans → Op → Prop)

def Safe (returns : Trace Op Ans → Value → Prop) (fails : Trace Op Ans → Failure → Prop) :
    Trace Op Ans → Prog Op Ans Failure Value → Prop
  | history, .ret value => returns history value
  | history, .fail failure => fails history failure
  | history, .ask op next =>
    permitted history op ∧ ∀ answer, Safe returns fails (history ++ [⟨op, answer⟩]) (next answer)

def Meets (returns : Trace Op Ans → Value → Prop) (fails : Trace Op Ans → Failure → Prop)
    (history : Trace Op Ans) : Except Failure Value → Prop
  | .ok value => returns history value
  | .error failure => fails history failure

variable {permitted}
variable {returns : Trace Op Ans → Value → Prop} {fails : Trace Op Ans → Failure → Prop}

variable {history : Trace Op Ans} {program : Prog Op Ans Failure Value}

/-- Sequencing: the continuation may use the postcondition of the first program and
that the history has only grown. -/
theorem Safe.bind {ends : Trace Op Ans → Result → Prop}
    {continuation : Value → Prog Op Ans Failure Result}
    (first : Safe permitted returns fails history program)
    (rest : ∀ later value, history <+: later → returns later value →
      Safe permitted ends fails later (continuation value)) :
    Safe permitted ends fails history (program >>= continuation) := by
  induction program generalizing history with
  | ret value => exact rest history value (prefix_refl _) first
  | fail failure => exact first
  | ask op next ih =>
    refine ⟨first.1, ?_⟩
    intro answer
    apply ih answer (first.2 answer)
    intro later value grown returned
    exact rest later value ((prefix_append _ _).trans grown) returned

theorem Safe.recover {caught : Trace Op Ans → Failure → Prop}
    {handler : Failure → Prog Op Ans Failure Value}
    (body : Safe permitted returns caught history program)
    (handled : ∀ later failure, history <+: later → caught later failure →
      Safe permitted returns fails later (handler failure)) :
    Safe permitted returns fails history (program.recover handler) := by
  induction program generalizing history with
  | ret value => exact body
  | fail failure => exact handled history failure (prefix_refl _) body
  | ask op next ih =>
    refine ⟨body.1, ?_⟩
    intro answer
    apply ih answer (body.2 answer)
    intro later failure grown failed
    exact handled later failure ((prefix_append _ _).trans grown) failed

/-- Consequence, with the fact that the history has only grown. -/
theorem Safe.conseq {weaker : Trace Op Ans → Value → Prop}
    (body : Safe permitted returns fails history program)
    (implies : ∀ later value, history <+: later → returns later value → weaker later value) :
    Safe permitted weaker fails history program := by
  induction program generalizing history with
  | ret value => exact implies history value (prefix_refl _) body
  | fail failure => exact body
  | ask op next ih =>
    refine ⟨body.1, ?_⟩
    intro answer
    apply ih answer (body.2 answer)
    intro later value grown returned
    exact implies later value ((prefix_append _ _).trans grown) returned

theorem Safe.weaken (body : Safe permitted returns fails history program) :
    Safe permitted returns (fun _ _ => True) history program := by
  induction program generalizing history with
  | ret value => exact body
  | fail failure => trivial
  | ask op next ih => exact ⟨body.1, fun answer => ih answer (body.2 answer)⟩

theorem Safe.permit {allowed : Trace Op Ans → Op → Prop}
    (body : Safe permitted returns fails history program)
    (implies : ∀ later op, permitted later op → allowed later op) :
    Safe allowed returns fails history program := by
  induction program generalizing history with
  | ret value => exact body
  | fail failure => exact body
  | ask op next ih =>
    exact ⟨implies history op body.1, fun answer => ih answer (body.2 answer)⟩

/-- Framing: a program known to make requests of one kind only adds requests of that
kind to the history. -/
theorem Safe.frame {kind : Op → Prop}
    (body : Safe (fun _ op => kind op) returns fails history program)
    (allowed : ∀ later op, kind op → permitted later op) :
    Safe permitted (fun later value => returns later value ∧
      ∃ added, later = history ++ added ∧ ∀ event ∈ added, kind event.op) fails history
      program := by
  induction program generalizing history with
  | ret value => exact ⟨body, [], by simp, by simp⟩
  | fail failure => exact body
  | ask op next ih =>
    refine ⟨allowed history op body.1, ?_⟩
    intro answer
    refine (ih answer (body.2 answer)).conseq ?_
    rintro later value _ ⟨returned, added, rfl, ofKind⟩
    refine ⟨returned, ⟨op, answer⟩ :: added, by simp, ?_⟩
    simpa using ⟨body.1, ofKind⟩

theorem Safe.request {op : Op} {history : Trace Op Ans} (allowed : permitted history op) :
    Safe permitted (fun later answer => later = history ++ [⟨op, answer⟩]) fails history
      (request op : Prog Op Ans Failure (Ans op)) :=
  ⟨allowed, fun _ => rfl⟩

/-- Every request of a run is permitted by the part of the run before it, and the
outcome of the run meets the postcondition. -/
theorem Safe.run {program : Prog Op Ans Failure Value} {run : Trace Op Ans}
    {outcome : Except Failure Value} (runs : Runs program run outcome) :
    ∀ {history : Trace Op Ans}, Safe permitted returns fails history program →
      (∀ before event after, run = before ++ event :: after →
        permitted (history ++ before) event.op) ∧
      Meets returns fails (history ++ run) outcome := by
  induction runs with
  | ret value =>
    intro history safe
    rw [append_nil]
    refine ⟨?_, safe⟩
    intro before event after split
    simp at split
  | fail failure =>
    intro history safe
    rw [append_nil]
    refine ⟨?_, safe⟩
    intro before event after split
    simp at split
  | ask op next answer trace outcome _ ih =>
    intro history safe
    obtain ⟨restPermitted, post⟩ := ih (safe.2 answer)
    refine ⟨?_, by simpa using post⟩
    intro before event after split
    cases before with
    | nil =>
      obtain ⟨rfl, _⟩ := List.cons.inj split
      simpa using safe.1
    | cons first others =>
      obtain ⟨rfl, restSplit⟩ := List.cons.inj split
      have inner := restPermitted others event after restSplit
      simpa using inner

end Logic

end Prog

end Portcullis.Lib
