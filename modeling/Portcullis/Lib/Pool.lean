import Portcullis.Lib.Prog

/-!
# Interleaved programs

Programs that share a state.  A turn lets one of them make its next request, which the
rules answer from the shared state and from a choice of the environment; other turns
change the shared state on their own.  Programs that are safe one by one are safe in
every interleaving.
-/

namespace Portcullis.Lib

structure Pool (Shared Op : Type) (Ans : Op → Type) (Failure Value : Type) where
  shared : Shared
  programs : Nat → Prog Op Ans Failure Value
  histories : Nat → Prog.Trace Op Ans

inductive Turn (Choice Drift : Type) where
  | move (thread : Nat) (choice : Choice)
  | drift (change : Drift)

structure PoolRules (Shared Op : Type) (Ans : Op → Type) (Choice Drift : Type) where
  serve : Choice → Shared → (op : Op) → Ans op × Shared
  drift : Drift → Shared → Shared

namespace Pool

variable {Shared Op : Type} {Ans : Op → Type} {Failure Value Choice Drift : Type}
  (rules : PoolRules Shared Op Ans Choice Drift)

def asking (pool : Pool Shared Op Ans Failure Value) (thread : Nat) : Option Op :=
  match pool.programs thread with
  | .ask op _ => some op
  | _ => none

/-- A program that has ended does nothing. -/
def step (pool : Pool Shared Op Ans Failure Value) :
    Turn Choice Drift → Pool Shared Op Ans Failure Value
  | .drift change => { pool with shared := rules.drift change pool.shared }
  | .move thread choice =>
    match pool.programs thread with
    | .ask op next =>
      let served := rules.serve choice pool.shared op
      { shared := served.2
        programs := Function.update pool.programs thread (next served.1)
        histories := Function.update pool.histories thread
          (pool.histories thread ++ [⟨op, served.1⟩]) }
    | _ => pool

def run (pool : Pool Shared Op Ans Failure Value) (turns : List (Turn Choice Drift)) :
    Pool Shared Op Ans Failure Value :=
  turns.foldl (step rules) pool

theorem run_append (pool : Pool Shared Op Ans Failure Value)
    (before after : List (Turn Choice Drift)) :
    run rules pool (before ++ after) = run rules (run rules pool before) after :=
  List.foldl_append

theorem shared_step_move (pool : Pool Shared Op Ans Failure Value) (thread : Nat)
    (choice : Choice) :
    (step rules pool (.move thread choice)).shared =
      match pool.asking thread with
      | some op => (rules.serve choice pool.shared op).2
      | none => pool.shared := by
  unfold step asking
  dsimp only
  cases pool.programs thread <;> rfl

def advance (choice : Choice) (shared : Shared) :
    Prog Op Ans Failure Value → Prog Op Ans Failure Value × Shared
  | .ask op next => (next (rules.serve choice shared op).1, (rules.serve choice shared op).2)
  | ended => (ended, shared)

theorem step_move (pool : Pool Shared Op Ans Failure Value) (mover : Nat) (choice : Choice) :
    (step rules pool (.move mover choice)).shared =
        (advance rules choice pool.shared (pool.programs mover)).2 ∧
      (step rules pool (.move mover choice)).programs = Function.update pool.programs mover
        (advance rules choice pool.shared (pool.programs mover)).1 := by
  have same := Function.update_eq_self mover pool.programs
  unfold step advance
  dsimp only
  cases prog : pool.programs mover with
  | ask op next => exact ⟨rfl, rfl⟩
  | ret value => exact ⟨rfl, (prog ▸ same).symm⟩
  | fail failure => exact ⟨rfl, (prog ▸ same).symm⟩

/-! ## Safety of every program -/

variable (permitted : Nat → Prog.Trace Op Ans → Op → Prop)

/-- What remains of each program is safe after what it has seen. -/
def Obeys (pool : Pool Shared Op Ans Failure Value) : Prop :=
  ∀ thread, Prog.Safe (permitted thread) (fun _ _ => True) (fun _ _ => True)
    (pool.histories thread) (pool.programs thread)

variable {permitted}

variable {pool : Pool Shared Op Ans Failure Value}

theorem Obeys.permits (obeys : Obeys permitted pool) (thread : Nat) (op : Op)
    (asks : pool.asking thread = some op) : permitted thread (pool.histories thread) op := by
  have safe := obeys thread
  unfold asking at asks
  split at asks
  · rename_i asked next prog
    rw [prog] at safe
    rw [← Option.some.inj asks]
    exact safe.1
  · cases asks

theorem Obeys.step {pool : Pool Shared Op Ans Failure Value} (obeys : Obeys permitted pool)
    (turn : Turn Choice Drift) : Obeys permitted (pool.step rules turn) := by
  cases turn with
  | drift change => exact obeys
  | move mover choice =>
    unfold Pool.step
    dsimp only
    split
    · rename_i op next prog
      intro thread
      by_cases moved : thread = mover
      · subst moved
        have safe := obeys thread
        rw [prog] at safe
        simpa using safe.2 (rules.serve choice pool.shared op).1
      · simpa [Function.update_of_ne moved] using obeys thread
    · exact obeys

theorem Obeys.run (obeys : Obeys permitted pool) (turns : List (Turn Choice Drift)) :
    Obeys permitted (pool.run rules turns) := by
  induction turns generalizing pool with
  | nil => exact obeys
  | cons turn rest ih => exact ih (obeys.step rules turn)

/-! ## Conditions along a run -/

/-- The condition holds before each turn. -/
def Along (condition : Pool Shared Op Ans Failure Value → Turn Choice Drift → Prop)
    (pool : Pool Shared Op Ans Failure Value) : List (Turn Choice Drift) → Prop
  | [] => True
  | turn :: rest => condition pool turn ∧ Along condition (step rules pool turn) rest

instance decidableAlong
    (condition : Pool Shared Op Ans Failure Value → Turn Choice Drift → Prop)
    [decides : ∀ pool turn, Decidable (condition pool turn)] :
    (turns : List (Turn Choice Drift)) → (pool : Pool Shared Op Ans Failure Value) →
      Decidable (Along rules condition pool turns)
  | [], _ => inferInstanceAs (Decidable True)
  | turn :: rest, pool =>
    @instDecidableAnd _ _ (decides pool turn) (decidableAlong condition rest (step rules pool turn))

theorem forall_turns_iff_along
    {condition : Pool Shared Op Ans Failure Value → Turn Choice Drift → Prop}
    (turns : List (Turn Choice Drift)) (pool : Pool Shared Op Ans Failure Value) :
    (∀ first turn rest, turns = first ++ turn :: rest →
        condition (run rules pool first) turn) ↔ Along rules condition pool turns := by
  induction turns generalizing pool with
  | nil => exact ⟨fun _ => trivial, fun _ first turn rest split => by simp at split⟩
  | cons turn later ih =>
    constructor
    · intro always
      refine ⟨always [] turn later rfl, (ih _).mp fun first next rest split => ?_⟩
      exact always (turn :: first) next rest (by rw [split, List.cons_append])
    · rintro ⟨here, along⟩ first next rest split
      cases first with
      | nil =>
        obtain ⟨rfl, rfl⟩ := List.cons.inj split
        exact here
      | cons head first =>
        obtain ⟨rfl, same⟩ := List.cons.inj split
        exact (ih _).mpr along first next rest same

theorem along_congr_of_invariant (inv : Pool Shared Op Ans Failure Value → Prop)
    {left right : Pool Shared Op Ans Failure Value → Turn Choice Drift → Prop}
    (keeps : ∀ pool turn, inv pool → inv (step rules pool turn))
    (same : ∀ pool turn, inv pool → (left pool turn ↔ right pool turn))
    (turns : List (Turn Choice Drift)) (holds : inv pool) :
    Along rules left pool turns ↔ Along rules right pool turns := by
  induction turns generalizing pool with
  | nil => exact Iff.rfl
  | cons turn rest ih => exact and_congr (same pool turn holds) (ih (keeps pool turn holds))

/-- Where a condition keeps an invariant, what both imply holds along with the condition. -/
theorem Along.imp_of_invariant (inv : Pool Shared Op Ans Failure Value → Prop)
    {condition property : Pool Shared Op Ans Failure Value → Turn Choice Drift → Prop}
    (keeps : ∀ pool turn, inv pool → condition pool turn → inv (step rules pool turn))
    (implies : ∀ pool turn, inv pool → condition pool turn → property pool turn)
    {turns : List (Turn Choice Drift)} (holds : inv pool)
    (along : Along rules condition pool turns) : Along rules property pool turns := by
  induction turns generalizing pool with
  | nil => trivial
  | cons turn rest ih =>
    exact ⟨implies pool turn holds along.1, ih (keeps pool turn holds along.1) along.2⟩

theorem along_congr {left right : Pool Shared Op Ans Failure Value → Turn Choice Drift → Prop}
    (same : ∀ pool turn, left pool turn ↔ right pool turn) (turns : List (Turn Choice Drift))
    (pool : Pool Shared Op Ans Failure Value) :
    Along rules left pool turns ↔ Along rules right pool turns :=
  along_congr_of_invariant rules (fun _ => True) (fun _ _ _ => trivial)
    (fun pool turn _ => same pool turn) turns trivial

/-- A fact that a turn keeps unless it is of a certain kind holds at the end of a run
or was given up by such a turn. -/
theorem kept_or_released {condition : Pool Shared Op Ans Failure Value → Turn Choice Drift → Prop}
    {fact : Pool Shared Op Ans Failure Value → Prop}
    {releases : Pool Shared Op Ans Failure Value → Turn Choice Drift → Prop}
    (stepKeeps : ∀ pool turn, Obeys permitted pool → condition pool turn → fact pool →
      fact (step rules pool turn) ∨ releases pool turn)
    (turns : List (Turn Choice Drift)) (pool : Pool Shared Op Ans Failure Value)
    (obeys : Obeys permitted pool) (along : Along rules condition pool turns)
    (holds : fact pool) :
    fact (run rules pool turns) ∨
      ∃ first turn rest, turns = first ++ turn :: rest ∧ releases (run rules pool first) turn := by
  induction turns generalizing pool with
  | nil => exact .inl holds
  | cons turn rest ih =>
    rcases stepKeeps pool turn obeys along.1 holds with kept | released
    · rcases ih (step rules pool turn) (obeys.step rules turn) along.2 kept with
        final | ⟨first, later, others, split, released⟩
      · exact .inl final
      · exact .inr ⟨turn :: first, later, others, by rw [split, List.cons_append], released⟩
    · exact .inr ⟨[], turn, rest, rfl, released⟩

end Pool

end Portcullis.Lib
