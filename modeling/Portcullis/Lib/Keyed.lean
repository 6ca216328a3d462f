import Mathlib.Data.List.Basic
import Mathlib.Logic.Function.Basic

/-!
# Machines over keyed cells

A request addresses at most one cell and its reply depends on that cell only.  Requests
that address none of the watched cells can then be dropped from a run without changing
what the others observe there.
-/

namespace Portcullis.Lib.Keyed

open List

variable {Key Cell Request Reply : Type} [DecidableEq Key]

structure Machine (Key Cell Request Reply : Type) where
  keyOf : Request → Option Key
  respond : Request → Cell → Cell × Reply
  idle : Request → Reply

namespace Machine

variable (machine : Machine Key Cell Request Reply)

def step (cells : Key → Cell) (request : Request) : (Key → Cell) × Reply :=
  match machine.keyOf request with
  | none => (cells, machine.idle request)
  | some key =>
    (Function.update cells key (machine.respond request (cells key)).1,
      (machine.respond request (cells key)).2)

def run : (Key → Cell) → List Request → List (Request × Reply)
  | _, [] => []
  | cells, request :: rest =>
    (request, (machine.step cells request).2) :: run (machine.step cells request).1 rest

theorem step_other_key (cells : Key → Cell) (request : Request) (key : Key)
    (other : machine.keyOf request ≠ some key) :
    (machine.step cells request).1 key = cells key := by
  unfold step
  split
  · rfl
  rename_i own addressed
  have ne : key ≠ own := by
    rintro rfl
    exact other addressed
  exact Function.update_of_ne ne _ _

theorem step_same_key (cells : Key → Cell) (request : Request) (key : Key)
    (addressed : machine.keyOf request = some key) :
    (machine.step cells request).1 key = (machine.respond request (cells key)).1 ∧
      (machine.step cells request).2 = (machine.respond request (cells key)).2 := by
  simp [step, addressed]

theorem step_reply_congr (left right : Key → Cell) (request : Request)
    (agree : ∀ key, machine.keyOf request = some key → left key = right key) :
    (machine.step left request).2 = (machine.step right request).2 := by
  unfold step
  split
  · rfl
  · rename_i key addressed
    simp only [agree key addressed]

theorem step_cell_congr (left right : Key → Cell) (request : Request) (key : Key)
    (agree : left key = right key) :
    (machine.step left request).1 key = (machine.step right request).1 key := by
  by_cases addressed : machine.keyOf request = some key
  · rw [(machine.step_same_key left request key addressed).1,
      (machine.step_same_key right request key addressed).1, agree]
  · rw [machine.step_other_key left request key addressed,
      machine.step_other_key right request key addressed, agree]

/-- Dropping requests that address no watched cell changes no observed reply, when the
observed requests address watched cells only. -/
theorem run_filter_observed (watched : Key → Prop) (kept observed : Request → Bool) :
    ∀ (requests : List Request) (left right : Key → Cell),
      (∀ request ∈ requests, kept request = false → observed request = false ∧
        ∀ key, machine.keyOf request = some key → ¬ watched key) →
      (∀ request ∈ requests, observed request = true →
        ∀ key, machine.keyOf request = some key → watched key) →
      (∀ key, watched key → left key = right key) →
        (machine.run left requests).filter (fun entry => observed entry.1) =
          (machine.run right (requests.filter kept)).filter (fun entry => observed entry.1) := by
  intro requests
  induction requests with
  | nil =>
    intro left right _ _ _
    rfl
  | cons request rest ih =>
    intro left right dropped seen agree
    have droppedRest := fun other mem => dropped other (mem_cons_of_mem _ mem)
    have seenRest := fun other mem => seen other (mem_cons_of_mem _ mem)
    cases keeps : kept request with
    | false =>
      obtain ⟨unobserved, unwatched⟩ := dropped request mem_cons_self keeps
      have agreeAfter : ∀ key, watched key →
          (machine.step left request).1 key = right key := by
        intro key watch
        rw [machine.step_other_key left request key
          (fun addressed => unwatched key addressed watch)]
        exact agree key watch
      rw [filter_cons_of_neg (by simp [keeps]), run,
        filter_cons_of_neg (by simp [unobserved])]
      exact ih _ right droppedRest seenRest agreeAfter
    | true =>
      have agreeAfter : ∀ key, watched key →
          (machine.step left request).1 key = (machine.step right request).1 key :=
        fun key watch => machine.step_cell_congr left right request key (agree key watch)
      have restEq := ih _ _ droppedRest seenRest agreeAfter
      rw [filter_cons_of_pos keeps, run, run]
      cases observes : observed request with
      | false =>
        rw [filter_cons_of_neg (by simp [observes]),
          filter_cons_of_neg (by simp [observes])]
        exact restEq
      | true =>
        have sameReply := machine.step_reply_congr left right request
          (fun key addressed =>
            agree key (seen request mem_cons_self observes key addressed))
        rw [filter_cons_of_pos (by simpa using observes),
          filter_cons_of_pos (by simpa using observes), sameReply, restEq]

end Machine

end Portcullis.Lib.Keyed
