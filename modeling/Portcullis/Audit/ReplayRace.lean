import Mathlib.Tactic
import Portcullis.Lib.Transactions

/-!
# Spills during a replay

`spill_to_dlq` of `app/observability/audit_dlq.py` appends a line to the dead-letter file.
`scripts/audit_dlq_replay.py --truncate` inserts the lines in one transaction until it meets the
end of the file, commits, and truncates the file if it has read a line.
-/

namespace Portcullis.Audit.ReplayRace

open Lib.Transactions List

variable {Event : Type}

/-- A line with the number of the spill that wrote it. -/
abbrev Line (Event : Type) := Nat × Event

inductive Replay (Event : Type) where
  | idle
  | reading (inserted : List (Line Event))
  | ended (inserted : List (Line Event))
  | committed (inserted : List (Line Event))

/-- `spilled` has a line for each spill that has returned `True`. -/
structure World (Event : Type) where
  file : List (Line Event)
  log : List (Line Event)
  spilled : List (Line Event)
  replay : Replay Event

inductive Step (Event : Type) where
  | spill (event : Event) (written : Bool)
  | start
  | readLine
  | endOfFile
  | commit
  | truncate
  /-- A line does not decode, an insertion or the commit fails, or the process ends. -/
  | fail

def perform (world : World Event) : Step Event → Except Unit (World Event)
  | .spill event written =>
    let line := (world.spilled.length, event)
    .ok (if written then
      { world with file := world.file ++ [line], spilled := world.spilled ++ [line] } else world)
  | .fail => .ok { world with replay := .idle }
  | step =>
    match world.replay, step with
    | .idle, .start => .ok { world with replay := .reading [] }
    | .reading inserted, .readLine =>
      match world.file[inserted.length]? with
      | some line => .ok { world with replay := .reading (inserted ++ [line]) }
      | none => .error ()
    | .reading inserted, .endOfFile =>
      if world.file.length ≤ inserted.length then .ok { world with replay := .ended inserted }
      else .error ()
    | .ended inserted, .commit =>
      .ok { world with log := world.log ++ inserted, replay := .committed inserted }
    | .committed inserted, .truncate =>
      .ok { world with file := if inserted = [] then world.file else [], replay := .idle }
    | _, _ => .error ()

def start : World Event := ⟨[], [], [], .idle⟩

/-- Every spilled event is in the file or in the audit log. -/
def NoneLost (world : World Event) : Prop :=
  ∀ line ∈ world.spilled, line ∈ world.file ∨ line ∈ world.log

/-- A truncation finds only lines in the file that its replay has read. -/
def Undisturbed (world : World Event) : Step Event → Prop
  | .truncate =>
    match world.replay with
    | .committed inserted => inserted = [] ∨ world.file.length ≤ inserted.length
    | _ => True
  | _ => True

/-! ## What a replay has read -/

/-- What was inserted starts the file; once the end was met, no other line is in the log. -/
def Progress (file log : List (Line Event)) : Replay Event → Prop
  | .idle => True
  | .reading inserted => ∃ rest, file = inserted ++ rest
  | .ended inserted => ∃ rest, file = inserted ++ rest ∧ ∀ line ∈ rest, line ∉ log
  | .committed inserted =>
    ∃ rest, file = inserted ++ rest ∧ (∀ line ∈ inserted, line ∈ log) ∧ ∀ line ∈ rest, line ∉ log

structure Invariant (world : World Event) : Prop where
  known : ∀ line, line ∈ world.file ∨ line ∈ world.log → line ∈ world.spilled
  numbered : ∀ line ∈ world.spilled, line.1 < world.spilled.length
  distinct : world.file.Nodup
  progress : Progress world.file world.log world.replay

theorem invariant_start : Invariant (start : World Event) where
  known := by simp [start]
  numbered := by simp [start]
  distinct := nodup_nil
  progress := trivial

theorem Progress.spill {file log : List (Line Event)} {replay : Replay Event} {line : Line Event}
    (progress : Progress file log replay) (fresh : line ∉ log) :
    Progress (file ++ [line]) log replay := by
  cases replay with
  | idle => trivial
  | reading ins =>
    obtain ⟨rest, rfl⟩ := progress
    exact ⟨rest ++ [line], append_assoc _ _ _⟩
  | ended ins =>
    obtain ⟨rest, rfl, unlogged⟩ := progress
    refine ⟨rest ++ [line], append_assoc _ _ _, ?_⟩
    simpa [or_imp, forall_and, fresh] using unlogged
  | committed ins =>
    obtain ⟨rest, rfl, logged, unlogged⟩ := progress
    refine ⟨rest ++ [line], append_assoc _ _ _, logged, ?_⟩
    simpa [or_imp, forall_and, fresh] using unlogged

theorem Invariant.spill {world : World Event} (inv : Invariant world) (event : Event) :
    Invariant { world with
      file := world.file ++ [(world.spilled.length, event)]
      spilled := world.spilled ++ [(world.spilled.length, event)] } := by
  have fresh : ∀ line, line ∈ world.file ∨ line ∈ world.log →
      line ≠ (world.spilled.length, event) := by
    rintro line held rfl
    exact lt_irrefl _ (inv.numbered _ (inv.known _ held))
  constructor
  · intro line held
    have := inv.known line
    simp only [mem_append] at held ⊢
    tauto
  · intro line mem
    rw [length_append, length_singleton]
    rcases mem_append.mp mem with prev | new
    · exact Nat.lt_succ_of_lt (inv.numbered line prev)
    · rw [mem_singleton.mp new]
      exact Nat.lt_succ_self _
  · exact nodup_append.mpr ⟨inv.distinct, nodup_singleton _,
      fun line held other same => mem_singleton.mp same ▸ fresh line (.inl held)⟩
  · exact inv.progress.spill fun logged => fresh _ (.inr logged) rfl

theorem invariant_step (world : World Event) (step : Step Event) (after : World Event)
    (did : perform world step = .ok after) (inv : Invariant world) :
    Invariant after := by
  obtain ⟨file, log, spilled, replay⟩ := world
  have progress := inv.progress
  cases step with
  | spill event written =>
    cases written <;> cases did
    · exact inv
    · exact inv.spill event
  | fail =>
    cases did
    exact { inv with progress := trivial }
  | start =>
    cases replay <;> cases did
    exact { inv with progress := ⟨file, rfl⟩ }
  | readLine =>
    cases replay with
    | reading ins =>
      obtain ⟨rest, rfl⟩ := progress
      cases rest with
      | nil => simp [perform] at did
      | cons line rest =>
        simp only [perform, List.getElem?_append_right le_rfl, Nat.sub_self, List.getElem?_cons_zero,
          Except.ok.injEq] at did
        subst did
        exact { inv with progress := ⟨rest, by simp⟩ }
    | _ => cases did
  | endOfFile =>
    cases replay with
    | reading ins =>
      obtain ⟨rest, rfl⟩ := progress
      simp only [perform, length_append] at did
      split at did <;> cases did
      have empty : rest = [] := length_eq_zero_iff.mp (by omega)
      exact { inv with progress := ⟨rest, rfl, by simp [empty]⟩ }
    | _ => cases did
  | commit =>
    cases replay <;> cases did
    obtain ⟨rest, rfl, unlogged⟩ := progress
    have apart := (nodup_append.mp inv.distinct).2.2
    refine ⟨fun line held => inv.known line ?_, inv.numbered, inv.distinct,
      rest, rfl, fun line => mem_append_right log, fun line mem logged => ?_⟩
    · simp only [mem_append] at held ⊢
      tauto
    · rcases mem_append.mp logged with prev | new
      · exact unlogged line mem prev
      · exact apart line new line mem rfl
  | truncate =>
    cases replay <;> cases did
    refine ⟨fun line held => inv.known line ?_, inv.numbered, ?_, trivial⟩
    · split at held <;> simp_all
    split
    · exact inv.distinct
    · exact nodup_nil

theorem noneLost_step {world : World Event} (step : Step Event) (inv : Invariant world)
    (kept : NoneLost world) :
    NoneLost (commit perform world step) ↔ Undisturbed world step := by
  obtain ⟨file, log, spilled, replay⟩ := world
  refine commit_iff NoneLost kept (fun _ failed => ?_) fun after did => ?_
  · cases step <;> cases replay <;> trivial
  cases step with
  | spill event written =>
    refine iff_of_true ?_ trivial
    cases written <;> cases did
    · exact kept
    intro line mem
    rcases mem_append.mp mem with earlier | new
    · exact (kept line earlier).imp_left (mem_append_left _)
    · exact .inl (mem_append_right _ new)
  | truncate =>
    cases replay <;> cases did
    rename_i ins
    obtain ⟨rest, rfl, logged, unlogged⟩ := inv.progress
    by_cases read : ins = []
    · simpa [NoneLost, Undisturbed, read] using kept
    simp only [NoneLost, Undisturbed, read, if_false, false_or, not_mem_nil,
      length_append]
    constructor
    · intro survives
      have empty : rest = [] := eq_nil_iff_forall_not_mem.mpr fun line mem =>
        unlogged line mem (survives line
          (inv.known line (.inl (mem_append_right _ mem))))
      simp [empty]
    · intro whole line mem
      have empty : rest = [] := length_eq_zero_iff.mp (by omega)
      rcases kept line mem with held | earlier
      · exact logged line (by simpa [empty] using held)
      · exact earlier
  | commit =>
    cases replay <;> cases did
    refine iff_of_true (fun line mem => ?_) trivial
    exact (kept line mem).imp_right (mem_append_left _)
  | readLine | endOfFile =>
    refine iff_of_true ?_ trivial
    cases replay with
    | reading ins =>
      simp only [perform] at did
      split at did <;> cases did
      exact kept
    | _ => cases did
  | start | fail =>
    cases replay <;> cases did <;>
    exact iff_of_true kept trivial

end Portcullis.Audit.ReplayRace
