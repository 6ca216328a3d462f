import Portcullis.Gateway.Router

/-!
# Runs of the proxy handlers

What a run of a handler has seen, of which kinds its requests are, and how it ends at a
return, a response or an exception.
-/

namespace Portcullis.Gateway.Mediation

open Lib

abbrev History := Prog.Trace Op Ans

def Saw (history : History) (op : Op) (answer : Ans op) : Prop := ⟨op, answer⟩ ∈ history

variable {history later : History}

theorem Saw.mono {op : Op} {answer : Ans op} (saw : Saw history op answer)
    (grown : history <+: later) : Saw later op answer :=
  grown.subset saw

theorem saw_last (history : History) (op : Op) (answer : Ans op) :
    Saw (history ++ [⟨op, answer⟩]) op answer := by
  simp [Saw]

def isForward : Op → Bool
  | .forward _ => true
  | _ => false

end Portcullis.Gateway.Mediation

namespace Portcullis.Gateway.Stages

open Gateway.Mediation Lib

/-! ## Kinds of requests -/

inductive Kind where
  | hook
  | preAuth
  | identity
  | audit
  | registry
  | limits
  | permissions
  | sessionRead
  | sessionWrite
  | metering
  | cap
  | environ
  | upstream
  deriving DecidableEq, Repr

def kind : Op → Kind
  | .pluginPreAuth => .hook
  | .checkPreAuthLimit _ _ _ => .preAuth
  | .authenticate _ => .identity
  | .recordEvent _ => .audit
  | .getBySlug _ _ => .registry
  | .listPolicies _ => .limits
  | .limiterCheck _ _ => .limits
  | .permissionsForSubject _ _ _ => .permissions
  | .redisGet _ => .sessionRead
  | .redisExpire _ _ => .sessionRead
  | .redisSet _ _ _ => .sessionWrite
  | .redisDelete _ => .sessionWrite
  | .recordUsageQueued _ => .metering
  | .checkUsageCap _ => .cap
  | .getenv _ => .environ
  | .forward _ => .upstream

/-- The run consists of requests of these kinds. -/
def Of (kinds : List Kind) (run : History) : Prop := ∀ event ∈ run, kind event.op ∈ kinds

theorem of_nil (kinds : List Kind) : Of kinds [] := by simp [Of]

theorem of_cons {kinds : List Kind} {event : Event Op Ans} {rest : History}
    (later : Of kinds rest) (here : kind event.op ∈ kinds := by simp [kind]) :
    Of kinds (event :: rest) := by
  intro other mem
  rcases List.mem_cons.mp mem with rfl | inside
  · exact here
  · exact later other inside

theorem of_append {kinds : List Kind} {first rest : History} (left : Of kinds first)
    (right : Of kinds rest) : Of kinds (first ++ rest) := by
  intro event mem
  rcases List.mem_append.mp mem with before | after
  · exact left event before
  · exact right event after

theorem Of.mono {kinds wider : List Kind} {run : History} (within : Of kinds run)
    (subset : kinds ⊆ wider := by decide) : Of wider run :=
  fun event mem => subset (within event mem)

theorem Of.absent {kinds : List Kind} {run : History} (within : Of kinds run) {op : Op}
    (other : kind op ∉ kinds) (answer : Ans op) : ¬ Saw run op answer :=
  fun saw => other (within ⟨op, answer⟩ saw)

theorem Of.no_forward {kinds : List Kind} {run : History} (within : Of kinds run)
    (other : Kind.upstream ∉ kinds := by decide) : ∀ event ∈ run, isForward event.op = false := by
  rintro ⟨op, answer⟩ mem
  have ofKind := within _ mem
  cases op with
  | forward call => exact absurd ofKind other
  | _ => rfl

/-! ## Leaving a program -/

section Leaving

variable {Value : Type} {run : History} {outcome : Except Exit Value}

theorem pure_run {value : Value} (runs : Prog.Runs (pure value : Gate Value) run outcome) :
    run = [] ∧ outcome = .ok value :=
  runs.ret_cases

theorem respond_run {resp : Response}
    (runs : Prog.Runs (respond resp : Gate Value) run outcome) :
    run = [] ∧ outcome = .error (.respond resp) :=
  runs.fail_cases

theorem raise_run {exn : Exn} (runs : Prog.Runs (raise exn : Gate Value) run outcome) :
    run = [] ∧ outcome = .error (.raise exn) :=
  runs.fail_cases

theorem request_bind_run {op : Op} {continuation : Ans op → Gate Value}
    (runs : Prog.Runs (request op >>= continuation) run outcome) :
    ∃ answer rest, run = ⟨op, answer⟩ :: rest ∧ Prog.Runs (continuation answer) rest outcome := by
  rcases runs.bind_cases with ⟨exit, failed, _⟩ | ⟨first, value, rest, rfl, asked, later⟩
  · obtain ⟨answer, _, no⟩ := failed.request_cases
    cases no
  · obtain ⟨answer, rfl, same⟩ := asked.request_cases
    cases same
    exact ⟨value, rest, rfl, later⟩

theorem orRaise_bind_run {Asked : Type} {answer : Except Exn Asked}
    {continuation : Asked → Gate Value}
    (runs : Prog.Runs (orRaise answer >>= continuation) run outcome) :
    (∃ exn, answer = .error exn ∧ run = [] ∧ outcome = .error (.raise exn)) ∨
      ∃ value, answer = .ok value ∧ Prog.Runs (continuation value) run outcome := by
  cases answer with
  | ok value => exact .inr ⟨value, rfl, runs⟩
  | error exn =>
    obtain ⟨rfl, rfl⟩ := raise_run runs
    exact .inl ⟨exn, rfl, rfl, rfl⟩

end Leaving

end Portcullis.Gateway.Stages
