import Mathlib.Data.List.Basic
import Mathlib.Order.Basic

/-!
# Runs of a step that answers or fails

A run feeds inputs to a step and lists each input with its answer; it fails with the first
step that does.
-/

namespace Portcullis.Lib.Trace

open List

variable {State Input Output Error : Type}

def trace (step : State → Input → Except Error (State × Output)) :
    State → List Input → Except Error (State × List (Input × Output))
  | state, [] => .ok (state, [])
  | state, input :: rest => do
    let (next, output) ← step state input
    let (last, entries) ← trace step next rest
    return (last, (input, output) :: entries)

variable {step : State → Input → Except Error (State × Output)} {state last : State}
  {inputs : List Input} {entries : List (Input × Output)}

theorem trace_cons {next : State} {input : Input} {output : Output}
    (stepped : step state input = .ok (next, output))
    (ran : trace step next inputs = .ok (last, entries)) :
    trace step state (input :: inputs) = .ok (last, (input, output) :: entries) := by
  simp only [trace, stepped, ran, bind, Except.bind, pure, Except.pure]

theorem of_trace_cons {input : Input}
    (ran : trace step state (input :: inputs) = .ok (last, entries)) :
    ∃ next output later, step state input = .ok (next, output) ∧
      trace step next inputs = .ok (last, later) ∧ entries = (input, output) :: later := by
  simp only [trace] at ran
  cases stepped : step state input with
  | error failure => simp [stepped, bind, Except.bind] at ran
  | ok answer =>
    obtain ⟨next, output⟩ := answer
    cases later : trace step next inputs with
    | error failure => simp [stepped, later, bind, Except.bind] at ran
    | ok answers =>
      simp only [stepped, later, bind, Except.bind, pure, Except.pure, Except.ok.injEq,
        Prod.mk.injEq] at ran
      obtain ⟨rfl, rfl⟩ := ran
      exact ⟨next, output, _, rfl, later, rfl⟩

theorem map_fst_of_trace (ran : trace step state inputs = .ok (last, entries)) :
    entries.map Prod.fst = inputs := by
  induction inputs generalizing state entries with
  | nil =>
    cases ran
    rfl
  | cons input rest ih =>
    obtain ⟨next, output, later, -, onward, rfl⟩ := of_trace_cons ran
    rw [map_cons, ih onward]

theorem of_trace_append {front back : List (Input × Output)}
    (ran : trace step state inputs = .ok (last, front ++ back)) :
    ∃ middle, trace step state (front.map Prod.fst) = .ok (middle, front) ∧
      trace step middle (back.map Prod.fst) = .ok (last, back) := by
  obtain rfl := map_fst_of_trace ran
  induction front generalizing state with
  | nil => exact ⟨state, rfl, ran⟩
  | cons entry front ih =>
    obtain ⟨input, answer⟩ := entry
    obtain ⟨next, output, later, stepped, onward, same⟩ := of_trace_cons ran
    cases same
    obtain ⟨middle, first, second⟩ := ih onward
    exact ⟨middle, trace_cons stepped first, second⟩

theorem last_of_trace (good : State → Input × Output → Prop) {next : State}
    {entry : Input × Output} (ran : trace step next inputs = .ok (last, entries))
    (here : good next entry) (there : ∀ final ∈ entries.getLast?, good last final) :
    ∀ final ∈ (entry :: entries).getLast?, good last final := by
  cases entries with
  | nil =>
    obtain rfl : inputs = [] := (map_fst_of_trace ran).symm
    cases ran
    intro final found
    rw [List.getLast?_singleton] at found
    cases found
    exact here
  | cons second others =>
    rw [List.getLast?_cons_cons]
    exact there

section Invariant

variable (invariant : State → Prop)

theorem exists_trace (steps : ∀ state input, invariant state →
      ∃ next output, step state input = .ok (next, output) ∧ invariant next)
    (inputs : List Input) (holds : invariant state) :
    ∃ last entries, trace step state inputs = .ok (last, entries) ∧ invariant last := by
  induction inputs generalizing state with
  | nil => exact ⟨state, [], rfl, holds⟩
  | cons input rest ih =>
    obtain ⟨next, output, stepped, kept⟩ := steps state input holds
    obtain ⟨last, entries, ran, atLast⟩ := ih kept
    exact ⟨last, (input, output) :: entries, trace_cons stepped ran, atLast⟩

theorem forall_of_trace (good : Input → Output → Prop)
    (steps : ∀ state input next output, invariant state →
      step state input = .ok (next, output) → invariant next ∧ good input output)
    (holds : invariant state) (ran : trace step state inputs = .ok (last, entries)) :
    ∀ entry ∈ entries, good entry.1 entry.2 := by
  induction inputs generalizing state entries with
  | nil =>
    cases ran
    exact fun entry mem => absurd mem not_mem_nil
  | cons input rest ih =>
    obtain ⟨next, output, later, stepped, onward, rfl⟩ := of_trace_cons ran
    obtain ⟨kept, ans⟩ := steps state input next output holds stepped
    intro entry mem
    rcases mem_cons.mp mem with rfl | deeper
    · exact ans
    · exact ih kept onward entry deeper

end Invariant

/-! ## Inputs with times and names -/

section Inputs

variable {Time Name : Type} [Preorder Time] {timeOf : Input → Time} {nameOf : Input → Name}
  {seen : List Name} {first : Input} {rest : List Input}

theorem le_of_ordered_cons (ordered : ((first :: rest).map timeOf).Pairwise (· ≤ ·)) :
    ∀ input ∈ first :: rest, timeOf first ≤ timeOf input := by
  intro input mem
  rcases mem_cons.mp mem with rfl | deeper
  · exact le_refl _
  · exact (pairwise_cons.mp ordered).1 _ (mem_map_of_mem deeper)

omit [Preorder Time] in
theorem unseen_rest (distinct : ((first :: rest).map nameOf).Nodup)
    (unseen : ∀ input ∈ first :: rest, nameOf input ∉ seen) :
    ∀ input ∈ rest, nameOf input ∉ nameOf first :: seen := by
  intro input mem inside
  rcases mem_cons.mp inside with same | older
  · exact (nodup_cons.mp distinct).1 (mem_map.mpr ⟨input, mem, same⟩)
  · exact unseen input (mem_cons_of_mem _ mem) older

end Inputs

end Portcullis.Lib.Trace
