import Mathlib.Data.List.Basic

/-!
# Atomic operations

An operation on a database gives a new state or fails, and a failed operation leaves the
state as it was.  A run performs operations one after the other.
-/

namespace Portcullis.Lib.Transactions

/-! ## Fallible steps -/

section Fallible

variable {Failure First Second : Type}

theorem ok_of_bind {first : Except Failure First} {next : First → Except Failure Second}
    {result : Second} (hok : first >>= next = .ok result) :
    ∃ value, first = .ok value ∧ next value = .ok result := by
  cases first with
  | error failure => cases hok
  | ok value => exact ⟨value, rfl, hok⟩

theorem ok_of_map {first : Except Failure First} {change : First → Second} {result : Second}
    (hok : first.map change = .ok result) :
    ∃ value, first = .ok value ∧ change value = result := by
  cases first with
  | error failure => cases hok
  | ok value => exact ⟨value, rfl, Except.ok.inj hok⟩

end Fallible

/-! ## Runs -/

variable {State Operation Failure : Type} (perform : State → Operation → Except Failure State)

def commit (state : State) (operation : Operation) : State :=
  match perform state operation with
  | .ok after => after
  | .error _ => state

def run (state : State) (operations : List Operation) : State :=
  operations.foldl (commit perform) state

/-- The condition holds of each operation in the state it meets. -/
def Along (condition : State → Operation → Prop) : State → List Operation → Prop
  | _, [] => True
  | state, operation :: rest =>
    condition state operation ∧ Along condition (commit perform state operation) rest

instance decidableAlong (condition : State → Operation → Prop)
    [decides : ∀ state operation, Decidable (condition state operation)] :
    (state : State) → (operations : List Operation) →
      Decidable (Along perform condition state operations)
  | _, [] => inferInstanceAs (Decidable True)
  | state, operation :: rest =>
    @instDecidableAnd _ _ (decides state operation)
      (decidableAlong condition (commit perform state operation) rest)

variable {perform}

variable {operation : Operation} {state : State}

theorem commit_of_ok {after : State} (did : perform state operation = .ok after) :
    commit perform state operation = after := by
  unfold commit
  rw [did]

theorem commit_of_error {failure : Failure} (failed : perform state operation = .error failure) :
    commit perform state operation = state := by
  unfold commit
  rw [failed]

variable (invariant property : State → Prop)

theorem commit_cases (failed : ∀ failure, perform state operation = .error failure → property state)
    (hok : ∀ after, perform state operation = .ok after → property after) :
    property (commit perform state operation) := by
  cases did : perform state operation with
  | error failure =>
    rw [commit_of_error did]
    exact failed failure did
  | ok after =>
    rw [commit_of_ok did]
    exact hok after did

theorem commit_iff {condition : Prop} (holds : property state)
    (failed : ∀ failure, perform state operation = .error failure → condition)
    (hok : ∀ after, perform state operation = .ok after → (property after ↔ condition)) :
    property (commit perform state operation) ↔ condition :=
  commit_cases (fun after => property after ↔ condition)
    (fun failure failing => iff_of_true holds (failed failure failing)) hok

theorem invariant_commit
    (keeps : ∀ state operation, invariant state → invariant (commit perform state operation))
    {start : State} (holds : invariant start) (operations : List Operation) :
    invariant (run perform start operations) := by
  induction operations generalizing start with
  | nil => exact holds
  | cons operation rest ih => exact ih (keeps start operation holds)

theorem invariant_run {invariant : State → Prop}
    (keeps : ∀ state operation after, perform state operation = .ok after → invariant state →
      invariant after)
    {start : State} (holds : invariant start) (operations : List Operation) :
    invariant (run perform start operations) := by
  refine invariant_commit invariant (fun state operation current => ?_) holds operations
  exact commit_cases invariant (fun _ _ => current)
    (fun after did => keeps state operation after did current)

/-- A property that an operation keeps exactly under a condition holds throughout a run
exactly if the condition holds along it. -/
theorem throughout_iff_along {condition : State → Operation → Prop}
    (invariantStep : ∀ state operation, invariant state →
      invariant (commit perform state operation))
    (propertyStep : ∀ state operation, invariant state → property state →
      (property (commit perform state operation) ↔ condition state operation)) {start : State}
    (invariantHolds : invariant start) (holds : property start) (operations : List Operation) :
    (∀ first rest, operations = first ++ rest → property (run perform start first)) ↔
      Along perform condition start operations := by
  induction operations generalizing start with
  | nil =>
    refine ⟨fun _ => trivial, fun _ first rest split => ?_⟩
    rw [(List.append_eq_nil_iff.mp split.symm).1]
    exact holds
  | cons operation later ih =>
    have stepped := propertyStep start operation invariantHolds holds
    have onward := invariantStep start operation invariantHolds
    constructor
    · intro always
      have afterStep : property (commit perform start operation) :=
        always [operation] later rfl
      refine ⟨stepped.mp afterStep, (ih onward afterStep).mp fun first rest split => ?_⟩
      exact always (operation :: first) rest (by rw [split, List.cons_append])
    · rintro ⟨here, cleared⟩ first rest split
      cases first with
      | nil => exact holds
      | cons head first =>
        obtain ⟨rfl, same⟩ := List.cons.inj split
        exact (ih onward (stepped.mpr here)).mpr cleared first rest same

theorem along_of_invariant {left right : State → Operation → Prop}
    (keeps : ∀ state operation, invariant state → invariant (commit perform state operation))
    (implies : ∀ state operation, invariant state → left state operation → right state operation)
    {start : State} (holds : invariant start) {operations : List Operation}
    (along : Along perform left start operations) : Along perform right start operations := by
  induction operations generalizing start with
  | nil => trivial
  | cons operation rest ih =>
    exact ⟨implies start operation holds along.1, ih (keeps start operation holds) along.2⟩

theorem forall_operations_iff_along {property condition : State → Operation → Prop}
    (equivalent : ∀ state operation, property state operation ↔ condition state operation)
    (start : State) (operations : List Operation) :
    (∀ first operation rest, operations = first ++ operation :: rest →
        property (run perform start first) operation) ↔
      Along perform condition start operations := by
  induction operations generalizing start with
  | nil => exact ⟨fun _ => trivial, fun _ first operation rest split => by simp at split⟩
  | cons operation later ih =>
    constructor
    · intro always
      refine ⟨(equivalent _ _).mp (always [] operation later rfl),
        (ih _).mp fun first next rest split => ?_⟩
      exact always (operation :: first) next rest (by rw [split, List.cons_append])
    · rintro ⟨here, along⟩ first next rest split
      cases first with
      | nil =>
        obtain ⟨rfl, rfl⟩ := List.cons.inj split
        exact (equivalent _ _).mpr here
      | cons head first =>
        obtain ⟨rfl, same⟩ := List.cons.inj split
        exact (ih _).mpr along first next rest same

end Portcullis.Lib.Transactions
