import Portcullis.Metering.UsageQueue

/-!
# Usage accepted during a shutdown

`stop` of `app/usage_queue.py` puts its sentinel behind what is queued and awaits the loop.
Until it returns, `enqueue` goes on accepting deltas.  The sentinel cuts the queue in two: what
stands before it is committed, what stands behind it stays in the queue for ever.
-/

namespace Portcullis.Metering.Shutdown

open Lib.Ledger Metering.UsageQueue List

/-! ## The deltas themselves -/

/-- The deltas the loop holds and the ones it has committed, in the order it took them. -/
structure Account where
  inHand : List Delta
  committed : List Delta

section Deltas

variable (limits : Limits)

/-- What a step of the loop takes from the queue. -/
def takenAt (state : State) : Event → List Delta
  | .work _ =>
    match state.phase, state.queue with
    | .waiting, some first :: _ => [first]
    | .draining batch _, some item :: _ =>
      if (batch.length : Int) < limits.maxBatch then [item] else []
    | _, _ => []
  | _ => []

def commitsAt (state : State) : Event → Bool
  | .work true =>
    match state.phase with
    | .flushing [] _ _ => true
    | _ => false
  | _ => false

def Account.after (account : Account) (state : State) (event : Event) : Account :=
  if commitsAt state event then ⟨[], account.committed ++ account.inHand⟩
  else ⟨account.inHand ++ takenAt limits state event, account.committed⟩

def tally : State → Account → List Event → Account
  | _, account, [] => account
  | state, account, event :: rest =>
    tally (step limits state event) (account.after limits state event) rest

/-- The deltas that have been committed when the events are over. -/
def committed (database : UsageDaily) (events : List Event) : List Delta :=
  (tally limits (start database) ⟨[], []⟩ events).committed

/-- The deltas accepted once the sentinel is in the queue. -/
def lateAt (state : State) (event : Event) : List Delta :=
  if state.stop = .put then acceptedAt limits state event else []

def late : State → List Event → List Delta
  | _, [] => []
  | state, event :: rest => lateAt limits state event ++ late (step limits state event) rest

end Deltas

/-! ## What a step keeps -/

def Holds (state : State) (account : Account) : Prop :=
  match state.phase with
  | .waiting => account.inHand = []
  | .stopped => account.inHand = []
  | .draining batch _ => account.inHand = batch
  | .sleeping batch => account.inHand = batch
  | .flushing pending written _ =>
    ∀ key, total written key + sumAt key pending =
      total state.database key + sumAt key account.inHand

inductive Cut (state : State) (behind : List Delta) : Prop where
  | unput (stop : state.stop ≠ .put) (queue : none ∉ state.queue)
      (going : state.phase.ending = false) (none : behind = [])
  | put (stop : state.stop = .put) (before : List Delta)
      (queue : state.queue = before.map some ++ none :: behind.map some)
      (going : state.phase.ending = false)
  | taken (stop : state.stop = .put) (queue : state.queue = behind.map some)
      (ending : state.phase.ending = true)

/-- Nothing is lost between the queue and the rows, and the sentinel keeps its place. -/
structure Accounted (database : UsageDaily) (state : State) (account : Account)
    (entered behind : List Delta) : Prop where
  all : entered = account.committed ++ account.inHand ++ state.queue.filterMap id
  holds : Holds state account
  rows : ∀ key, total state.database key = total database key + sumAt key account.committed
  cut : Cut state behind

section Steps

variable {limits : Limits} {database : UsageDaily} {state : State} {account : Account}
  {entered behind : List Delta}

variable (limits) in
theorem work_moves (holds : Holds state account) :
    ∃ more, (account.after limits state (.work true)).committed = account.committed ++ more ∧
      more ++ (account.after limits state (.work true)).inHand ++
          (work limits true state).queue.filterMap id =
        account.inHand ++ state.queue.filterMap id ∧
      Holds (work limits true state) (account.after limits state (.work true)) ∧
      ∀ key, total (work limits true state).database key =
        total state.database key + sumAt key more := by
  cases phase : state.phase with
  | waiting =>
    rw [Holds, phase] at holds
    refine ⟨[], ?_⟩
    cases queue : state.queue with
    | nil => simp [Account.after, commitsAt, takenAt, work, phase, queue, Holds, holds]
    | cons head rest =>
      cases head with
      | none => simp [Account.after, commitsAt, takenAt, work, phase, queue, Holds, holds]
      | some first =>
        simp [Account.after, commitsAt, takenAt, work, phase, queue, Holds, holds]
  | draining batch slept =>
    rw [Holds, phase] at holds
    refine ⟨[], ?_⟩
    by_cases room : (batch.length : Int) < limits.maxBatch
    · cases queue : state.queue with
      | nil =>
        cases slept <;>
          simp [Account.after, commitsAt, takenAt, work, drained, beginFlush, phase, queue,
            room, Holds, holds, sumAt_aggregate]
      | cons head rest =>
        cases head with
        | none =>
          simp [Account.after, commitsAt, takenAt, work, beginFlush, phase, queue, room,
            Holds, holds, sumAt_aggregate]
        | some item =>
          simp [Account.after, commitsAt, takenAt, work, phase, queue, room, Holds, holds]
    · have untouched : takenAt limits state (.work true) = [] := by
        simp only [takenAt, phase]
        split
        · rename_i no _
          cases no
        · rename_i same _
          cases same
          exact if_neg room
        · rfl
      cases slept <;>
        simp [Account.after, commitsAt, untouched, work, drained, beginFlush, phase, room,
          Holds, holds, sumAt_aggregate]
  | sleeping batch =>
    rw [Holds, phase] at holds
    exact ⟨[], by simp [Account.after, commitsAt, takenAt, work, phase, Holds, holds]⟩
  | flushing pending written last =>
    rw [Holds, phase] at holds
    cases pending with
    | nil =>
      refine ⟨account.inHand, ?_⟩
      cases last <;> simpa [Account.after, commitsAt, work, phase, afterFlush, Holds] using holds
    | cons head rest =>
      refine ⟨[], ?_⟩
      simp only [sumAt_cons, ← add_assoc] at holds
      simpa [Account.after, commitsAt, takenAt, work, phase, Holds, total_credit] using holds
  | stopped =>
    rw [Holds, phase] at holds
    exact ⟨[], by simp [Account.after, commitsAt, takenAt, work, phase, Holds, holds]⟩

theorem cut_of_takes {after : State} (cut : Cut state behind) (takes : Takes state after)
    (stop : after.stop = state.stop) : Cut after behind := by
  cases takes with
  | nothing queue ending _ _ =>
    cases cut with
    | unput unput absent going vacant =>
      exact .unput (stop ▸ unput) (queue ▸ absent) (ending.trans going) vacant
    | put put before shape going =>
      exact .put (stop.trans put) before (queue.trans shape) (ending.trans going)
    | taken put shape finished =>
      exact .taken (stop.trans put) (queue.trans shape) (ending.trans finished)
  | item delta queue ending went _ _ =>
    cases cut with
    | unput unput absent going vacant =>
      rw [queue, mem_cons, not_or] at absent
      exact .unput (stop ▸ unput) absent.2 ending vacant
    | put put before shape going =>
      rw [queue] at shape
      cases before with
      | nil => cases shape
      | cons first rest =>
        exact .put (stop.trans put) rest (List.cons.inj shape).2 ending
    | taken put shape finished => cases went.symm.trans finished
  | sentinel queue ending went _ _ =>
    cases cut with
    | unput unput absent going vacant =>
      rw [queue] at absent
      exact absurd mem_cons_self absent
    | put put before shape going =>
      rw [queue] at shape
      cases before with
      | nil => exact .taken (stop.trans put) (List.cons.inj shape).2 ending
      | cons first rest => cases shape
    | taken put shape finished => cases went.symm.trans finished

theorem cut_enqueue (cut : Cut state behind) (delta : Delta) :
    Cut { state with queue := state.queue ++ [some delta] }
      (behind ++ if state.stop = .put then [delta] else []) := by
  cases cut with
  | unput unput absent going vacant =>
    rw [if_neg unput]
    exact .unput unput (by simpa using absent) going (by simp [vacant])
  | put put before shape going =>
    rw [if_pos put]
    refine .put put before ?_ going
    simp [shape]
  | taken put shape finished =>
    rw [if_pos put]
    refine .taken put ?_ finished
    simp [shape]

theorem accounted_enqueue (accounted : Accounted database state account entered behind)
    (delta : Delta) : Accounted database (step limits state (.enqueue delta))
      (account.after limits state (.enqueue delta))
      (entered ++ acceptedAt limits state (.enqueue delta))
      (behind ++ lateAt limits state (.enqueue delta)) := by
  obtain ⟨all, holds, rows, cut⟩ := accounted
  have same : account.after limits state (.enqueue delta) = account := by
    simp [Account.after, commitsAt, takenAt]
  rw [same]
  by_cases refused : full limits state.queue = true
  · have stays : (enqueue limits state delta) =
        (false, { state with dropped := state.dropped + 1 }) := if_pos refused
    have nothing : acceptedAt limits state (.enqueue delta) = [] := by
      rw [acceptedAt, stays]
      rfl
    rw [lateAt, nothing, ite_self, append_nil, append_nil, step, stays]
    refine ⟨all, holds, rows, ?_⟩
    cases cut with
    | unput unput absent going vacant => exact .unput unput absent going vacant
    | put put before shape going => exact .put put before shape going
    | taken put shape finished => exact .taken put shape finished
  · have goes : (enqueue limits state delta) =
        (true, { state with queue := state.queue ++ [some delta] }) := if_neg refused
    have enters : acceptedAt limits state (.enqueue delta) = [delta] := by
      rw [acceptedAt, goes]
      rfl
    rw [lateAt, enters, step, goes]
    refine ⟨?_, holds, rows, cut_enqueue cut delta⟩
    rw [all, filterMap_append, ← append_assoc]
    rfl

theorem accounted_put (accounted : Accounted database state account entered behind) :
    Accounted database (put limits state) account entered behind := by
  rw [put]
  split
  · rename_i putting
    split
    · exact accounted
    obtain ⟨all, holds, rows, cut⟩ := accounted
    refine ⟨?_, holds, rows, ?_⟩
    · rw [all, filterMap_append]
      exact congrArg (account.committed ++ account.inHand ++ ·) (append_nil _).symm
    cases cut with
    | unput unput absent going vacant =>
      obtain ⟨before, queue⟩ := map_some_of_not_mem absent
      refine .put rfl before ?_ going
      rw [vacant, queue]
      rfl
    | put put _ _ _ => cases put.symm.trans putting
    | taken put _ _ => cases put.symm.trans putting
  · exact accounted

theorem accounted_stop (accounted : Accounted database state account entered behind) :
    Accounted database (step limits state .stop) account entered behind := by
  obtain ⟨all, holds, rows, cut⟩ := accounted
  refine ⟨all, holds, rows, ?_⟩
  cases cut with
  | unput unput absent going vacant =>
    refine .unput ?_ absent going vacant
    show (if state.stop = .uncalled then Stop.putting else state.stop) ≠ .put
    split
    · nofun
    · exact unput
  | put put before shape going =>
    refine .put ?_ before shape going
    rw [step, put]
    rfl
  | taken put shape finished =>
    refine .taken ?_ shape finished
    rw [step, put]
    rfl

theorem accounted_work (accounted : Accounted database state account entered behind) :
    Accounted database (work limits true state) (account.after limits state (.work true))
      entered behind := by
  obtain ⟨all, holds, rows, cut⟩ := accounted
  obtain ⟨more, grown, moved, held, credited⟩ := work_moves limits holds
  refine ⟨?_, held, ?_, ?_⟩
  · rw [all, grown, append_assoc, ← moved]
    simp only [append_assoc]
  · intro key
    rw [credited, rows, grown, sumAt_append, add_assoc]
  · rcases work_takes limits state with ⟨unmoved, -⟩ | takes
    · rw [unmoved]
      exact cut
    · exact cut_of_takes cut takes (work_stop limits true state)

variable (limits) in
theorem accounted_step (accounted : Accounted database state account entered behind)
    {event : Event} (succeeds : event ≠ .work false) :
    Accounted database (step limits state event) (account.after limits state event)
      (entered ++ acceptedAt limits state event) (behind ++ lateAt limits state event) := by
  have untouched : event = .stop ∨ event = .put → account.after limits state event = account := by
    rintro (rfl | rfl) <;> simp [Account.after, commitsAt, takenAt]
  cases event with
  | enqueue delta => exact accounted_enqueue accounted delta
  | stop =>
    rw [untouched (.inl rfl), lateAt, acceptedAt, ite_self, append_nil, append_nil]
    exact accounted_stop accounted
  | put =>
    rw [untouched (.inr rfl), lateAt, acceptedAt, ite_self, append_nil, append_nil]
    exact accounted_put accounted
  | work answer =>
    rw [lateAt, acceptedAt, ite_self, append_nil, append_nil]
    cases answer with
    | false => exact absurd rfl succeeds
    | true => exact accounted_work accounted

theorem accounted_run (accounted : Accounted database state account entered behind)
    (events : List Event) (succeeds : ∀ event ∈ events, event ≠ .work false) :
    Accounted database (run limits state events) (tally limits state account events)
      (entered ++ accepted limits state events) (behind ++ late limits state events) := by
  induction events generalizing state account entered behind with
  | nil =>
    rw [accepted, late, append_nil, append_nil]
    exact accounted
  | cons event rest ih =>
    have next := accounted_step limits accounted (succeeds event mem_cons_self)
    have later := ih next (fun event inside => succeeds event (mem_cons_of_mem _ inside))
    rw [accepted, late, ← append_assoc, ← append_assoc]
    exact later

theorem accounted_start (database : UsageDaily) :
    Accounted database (start database) ⟨[], []⟩ [] [] where
  all := rfl
  holds := rfl
  rows _ := (add_zero _).symm
  cut := .unput nofun not_mem_nil rfl rfl

theorem late_eq_nil_iff (events : List Event) : late limits state events = [] ↔
    ∀ before delta after, events = before ++ .enqueue delta :: after →
      (run limits state before).stop = .put → full limits (run limits state before).queue := by
  induction events generalizing state with
  | nil => simp [late]
  | cons event rest ih =>
    rw [late, append_eq_nil_iff, ih]
    constructor
    · rintro ⟨first, later⟩ before delta after shape put
      cases before with
      | nil =>
        obtain ⟨rfl, rfl⟩ := List.cons.inj shape
        rw [show (run limits state []) = state from rfl] at put ⊢
        rw [lateAt, if_pos put, acceptedAt, enqueue] at first
        by_contra room
        rw [if_neg room] at first
        cases first
      | cons head front =>
        obtain ⟨rfl, onward⟩ := List.cons.inj shape
        exact later front delta after onward put
    · intro refused
      refine ⟨?_, fun before delta after shape put =>
        refused (event :: before) delta after (by rw [shape, cons_append]) put⟩
      rw [lateAt]
      split
      · rename_i put
        cases event with
        | enqueue delta =>
          have full : full limits state.queue = true := refused [] delta rest rfl put
          rw [acceptedAt, enqueue, if_pos full]
          rfl
        | _ => rfl
      · rfl

end Steps

/-! ## When `stop` returns -/

def noUsage : UsageDaily := fun _ => none

end Portcullis.Metering.Shutdown
