import Portcullis.Lib.Ledger
import Portcullis.Lib.Uuid

/-!
# Batched usage counters

`UsageQueue` of `app/usage_queue.py`.  Deltas wait in a bounded queue; a loop collects them
into a batch, sleeps, collects again and writes one upsert for each tenant and day.  `stop`
puts a sentinel behind what is queued.  Each step of the loop may interleave with the
enqueues.  What is queued, in the batch, written and committed always adds up to what was
accepted.
-/

namespace Portcullis.Metering.UsageQueue

open Lib Lib.Ledger List

@[ext]
structure Bucket where
  requests : Int
  toolCalls : Int
  rbacDenials : Int
  rateLimitRejections : Int
  deriving DecidableEq, Repr

namespace Bucket

instance : Zero Bucket := ⟨⟨0, 0, 0, 0⟩⟩

/-- Counter by counter, as `_flush` and the upsert add. -/
instance : Add Bucket where
  add first second :=
    ⟨first.requests + second.requests, first.toolCalls + second.toolCalls,
      first.rbacDenials + second.rbacDenials,
      first.rateLimitRejections + second.rateLimitRejections⟩

theorem add_def (first second : Bucket) : first + second =
    ⟨first.requests + second.requests, first.toolCalls + second.toolCalls,
      first.rbacDenials + second.rbacDenials,
      first.rateLimitRejections + second.rateLimitRejections⟩ := rfl

theorem zero_def : (0 : Bucket) = ⟨0, 0, 0, 0⟩ := rfl

instance : AddCommMonoid Bucket where
  add_assoc first second third := by simp only [add_def, add_assoc]
  zero_add bucket := by simp only [add_def, zero_def, zero_add]
  add_zero bucket := by simp only [add_def, zero_def, add_zero]
  add_comm first second := by simp only [add_def, add_comm]
  nsmul := nsmulRec

end Bucket

/-- A date by its ordinal. -/
abbrev Day := Int

abbrev Key := Uuid × Day

abbrev Delta := Key × Bucket

abbrev UsageDaily := Key → Option Bucket

structure Limits where
  maxBatch : Int
  /-- Not positive for an unbounded queue. -/
  queueSize : Int

/-- Where the loop stands.  `last` flushes return from the loop afterwards. -/
inductive Phase where
  | waiting
  | draining (batch : List Delta) (slept : Bool)
  | sleeping (batch : List Delta)
  | flushing (pending : List Delta) (written : UsageDaily) (last : Bool)
  | stopped

/-- `stop` has not been called, waits for room in the queue, or has put its sentinel. -/
inductive Stop where
  | uncalled
  | putting
  | put
  deriving DecidableEq, Repr

/-- The sentinel is `none`. -/
structure State where
  queue : List (Option Delta)
  phase : Phase
  stop : Stop
  dropped : Nat
  database : UsageDaily

def start (database : UsageDaily) : State := ⟨[], .waiting, .uncalled, 0, database⟩

/-- `succeeds` is the database's answer to the increment or the commit, if the loop is at
one. -/
inductive Event where
  | enqueue (delta : Delta)
  | stop
  | put
  | work (succeeds : Bool)
  deriving DecidableEq

section Code

variable (limits : Limits)

def full (queue : List (Option Delta)) : Bool :=
  decide (0 < limits.queueSize ∧ limits.queueSize ≤ queue.length)

/-- `enqueue`, with its answer. -/
def enqueue (state : State) (delta : Delta) : Bool × State :=
  if full limits state.queue then (false, { state with dropped := state.dropped + 1 })
  else (true, { state with queue := state.queue ++ [some delta] })

/-- The awaited `put` of the sentinel gets its turn. -/
def put (state : State) : State :=
  match state.stop with
  | .putting =>
    if full limits state.queue then state
    else { state with queue := state.queue ++ [none], stop := .put }
  | _ => state

/-- `_flush` up to its first statement. -/
def beginFlush (state : State) (batch : List Delta) (last : Bool) : Phase :=
  .flushing (aggregate batch) state.database last

def afterFlush (last : Bool) : Phase := if last then .stopped else .waiting

/-- The end of a draining loop. -/
def drained (state : State) (batch : List Delta) (slept : Bool) : State :=
  { state with phase := if slept then beginFlush state batch false else .sleeping batch }

/-- A step of `_flush_loop`; a failed statement drops the batch. -/
def work (succeeds : Bool) (state : State) : State :=
  match state.phase with
  | .waiting =>
    match state.queue with
    | [] => state
    | none :: rest => { state with queue := rest, phase := .stopped }
    | some first :: rest => { state with queue := rest, phase := .draining [first] false }
  | .draining batch slept =>
    if (batch.length : Int) < limits.maxBatch then
      match state.queue with
      | [] => drained state batch slept
      | none :: rest => { state with queue := rest, phase := beginFlush state batch true }
      | some item :: rest =>
        { state with queue := rest, phase := .draining (batch ++ [item]) slept }
    else drained state batch slept
  | .sleeping batch => { state with phase := .draining batch true }
  | .flushing pending written last =>
    if succeeds then
      match pending with
      | (key, bucket) :: rest =>
        { state with phase := .flushing rest (credit written key bucket) last }
      | [] => { state with database := written, phase := afterFlush last }
    else { state with phase := afterFlush last }
  | .stopped => state

def step (state : State) : Event → State
  | .enqueue delta => (enqueue limits state delta).2
  | .stop => { state with stop := if state.stop = .uncalled then .putting else state.stop }
  | .put => put limits state
  | .work succeeds => work limits succeeds state

def run (state : State) (events : List Event) : State := events.foldl (step limits) state

def acceptedAt (state : State) : Event → List Delta
  | .enqueue delta => if (enqueue limits state delta).1 then [delta] else []
  | .stop => []
  | .put => []
  | .work _ => []

/-- The deltas for which `enqueue` answered true. -/
def accepted : State → List Event → List Delta
  | _, [] => []
  | state, event :: rest =>
    acceptedAt limits state event ++ accepted (step limits state event) rest

end Code

/-! ## What a step of the loop does -/

def Phase.ending : Phase → Bool
  | .stopped => true
  | .flushing _ _ last => last
  | _ => false

/-- What the loop has in its hands or has committed. -/
def recorded (state : State) (key : Key) : Bucket :=
  match state.phase with
  | .waiting => total state.database key
  | .stopped => total state.database key
  | .draining batch _ => total state.database key + sumAt key batch
  | .sleeping batch => total state.database key + sumAt key batch
  | .flushing pending written _ => total written key + sumAt key pending

/-- What the steps of the loop have still to do, in steps. -/
def Phase.remaining : Phase → Nat
  | .waiting => 0
  | .stopped => 0
  | .draining batch false => batch.length + 5
  | .sleeping batch => batch.length + 4
  | .draining batch true => batch.length + 3
  | .flushing pending _ _ => pending.length + 1

/-- What a step of the loop takes from the queue. -/
inductive Takes (before after : State) : Prop where
  | nothing (queue : after.queue = before.queue) (ending : after.phase.ending = before.phase.ending)
      (recorded : ∀ key, recorded after key = recorded before key)
      (remaining : after.phase.remaining < before.phase.remaining)
  | item (delta : Delta) (queue : before.queue = some delta :: after.queue)
      (ending : after.phase.ending = false) (went : before.phase.ending = false)
      (recorded : ∀ key, recorded after key =
        recorded before key + if delta.1 = key then delta.2 else 0)
      (remaining : after.phase.remaining ≤ before.phase.remaining + 6)
  | sentinel (queue : before.queue = none :: after.queue) (ending : after.phase.ending = true)
      (went : before.phase.ending = false)
      (recorded : ∀ key, recorded after key = recorded before key)
      (remaining : after.phase.remaining ≤ before.phase.remaining)

def Blocked (state : State) : Prop :=
  (state.phase = .waiting ∧ state.queue = []) ∨ state.phase = .stopped

section Steps

variable (limits : Limits)

theorem work_stop (succeeds : Bool) (state : State) :
    (work limits succeeds state).stop = state.stop := by
  unfold work drained
  split
  · split <;> rfl
  · split
    · split <;> rfl
    · rfl
  · rfl
  · split
    · split <;> rfl
    · rfl
  · rfl

theorem drained_takes (state : State) (batch : List Delta) (slept : Bool)
    (phase : state.phase = .draining batch slept) : Takes state (drained state batch slept) := by
  have collected := length_aggregate_le batch
  cases slept with
  | false =>
    refine .nothing rfl ?_ ?_ ?_
    · rw [phase]
      rfl
    · intro key
      simp only [recorded, phase, drained, Bool.false_eq_true, if_false]
    · rw [phase]
      exact Nat.lt_succ_self _
  | true =>
    refine .nothing rfl ?_ ?_ ?_
    · rw [phase]
      rfl
    · intro key
      simp only [recorded, phase, drained, if_true, beginFlush, sumAt_aggregate]
    · rw [phase]
      simp only [drained, if_true, beginFlush, Phase.remaining]
      omega

theorem work_takes (state : State) :
    (work limits true state = state ∧ Blocked state) ∨ Takes state (work limits true state) := by
  cases phase : state.phase with
  | waiting =>
    cases queue : state.queue with
    | nil => exact .inl ⟨by simp only [work, phase, queue], .inl ⟨phase, queue⟩⟩
    | cons head rest =>
      cases head with
      | none =>
        refine .inr (.sentinel ?_ ?_ ?_ ?_ ?_)
        all_goals simp [work, phase, queue, Phase.ending, recorded, Phase.remaining]
      | some first =>
        refine .inr (.item first ?_ ?_ ?_ ?_ ?_)
        all_goals simp [work, phase, queue, Phase.ending, recorded, Phase.remaining]
  | draining batch slept =>
    by_cases room : (batch.length : Int) < limits.maxBatch
    · cases queue : state.queue with
      | nil =>
        have left : work limits true state = drained state batch slept := by
          simp only [work, phase, queue, if_pos room]
        rw [left]
        exact .inr (drained_takes state batch slept phase)
      | cons head rest =>
        cases head with
        | none =>
          have collected := length_aggregate_le batch
          refine .inr (.sentinel ?_ ?_ ?_ ?_ ?_)
          all_goals simp [work, phase, queue, room, Phase.ending, recorded, beginFlush,
            sumAt_aggregate]
          cases slept <;> simp only [Phase.remaining] <;> omega
        | some item =>
          refine .inr (.item item ?_ ?_ ?_ ?_ ?_)
          all_goals simp [work, phase, queue, room, Phase.ending, recorded, add_assoc]
          cases slept <;> simp only [Phase.remaining, length_append,
            length_singleton] <;> omega
    · have left : work limits true state = drained state batch slept := by
        simp only [work, phase, if_neg room]
      rw [left]
      exact .inr (drained_takes state batch slept phase)
  | sleeping batch =>
    refine .inr (.nothing ?_ ?_ ?_ ?_)
    all_goals simp [work, phase, Phase.ending, recorded, Phase.remaining]
  | flushing pending written last =>
    cases pending with
    | nil =>
      refine .inr (.nothing ?_ ?_ ?_ ?_)
      all_goals cases last <;> simp [work, phase, Phase.ending, recorded, afterFlush,
        Phase.remaining]
    | cons head rest =>
      refine .inr (.nothing ?_ ?_ ?_ ?_)
      all_goals simp [work, phase, Phase.ending, recorded, Phase.remaining, total_credit, add_assoc]
  | stopped => exact .inl ⟨by simp only [work, phase], .inr phase⟩

end Steps

/-! ## Conservation -/

section Conservation

variable (limits : Limits)

def held (state : State) (key : Key) : Bucket :=
  recorded state key + sumAt key (state.queue.filterMap id)

theorem held_of_takes {before after : State} (takes : Takes before after) (key : Key) :
    held after key = held before key := by
  cases takes with
  | nothing queue _ recorded _ => rw [held, held, queue, recorded]
  | item delta queue _ _ recorded _ =>
    have queued : before.queue.filterMap id = delta :: after.queue.filterMap id := by
      rw [queue]
      rfl
    rw [held, held, queued, recorded, sumAt_cons, add_assoc]
  | sentinel queue _ _ recorded _ =>
    have queued : before.queue.filterMap id = after.queue.filterMap id := by
      rw [queue]
      rfl
    rw [held, held, queued, recorded]

theorem held_step (state : State) (event : Event) (succeeds : event ≠ .work false) (key : Key) :
    held (step limits state event) key =
      held state key + sumAt key (acceptedAt limits state event) := by
  cases event with
  | enqueue delta =>
    rw [step, acceptedAt, enqueue]
    split
    · exact (add_zero _).symm
    · rw [if_pos rfl, held, filterMap_append, sumAt_append, ← add_assoc]
      rfl
  | stop => exact (add_zero _).symm
  | put =>
    rw [step, acceptedAt, sumAt_nil, add_zero, put]
    split
    · split
      · rfl
      · rw [held, filterMap_append, sumAt_append]
        exact congrArg (recorded state key + ·) (add_zero _)
    · rfl
  | work answer =>
    cases answer with
    | false => exact absurd rfl succeeds
    | true =>
      rw [step, acceptedAt, sumAt_nil, add_zero]
      rcases work_takes limits state with ⟨unmoved, -⟩ | takes
      · rw [unmoved]
      · exact held_of_takes takes key

theorem held_run (state : State) (events : List Event)
    (succeeds : ∀ event ∈ events, event ≠ .work false) (key : Key) :
    held (run limits state events) key =
      held state key + sumAt key (accepted limits state events) := by
  induction events generalizing state with
  | nil => exact (add_zero _).symm
  | cons event rest ih =>
    have first := held_step limits state event (succeeds event mem_cons_self) key
    have later := ih (step limits state event)
      (fun event inside => succeeds event (mem_cons_of_mem _ inside))
    rw [accepted, sumAt_append, ← add_assoc, ← first]
    exact later

end Conservation

/-! ## The sentinel -/

/-- The sentinel is the last of the queue until the loop takes it, and the loop returns only
after it has. -/
inductive Orderly (state : State) : Prop where
  | unput (stop : state.stop ≠ .put) (queue : none ∉ state.queue)
      (going : state.phase.ending = false)
  | put (stop : state.stop = .put) (deltas : List Delta)
      (queue : state.queue = deltas.map some ++ [none]) (going : state.phase.ending = false)
  | taken (stop : state.stop = .put) (queue : state.queue = []) (ending : state.phase.ending = true)

section Sentinel

variable {limits : Limits}

theorem map_some_of_not_mem {queue : List (Option Delta)} (absent : none ∉ queue) :
    ∃ deltas : List Delta, queue = deltas.map some := by
  induction queue with
  | nil => exact ⟨[], rfl⟩
  | cons head rest ih =>
    rw [mem_cons, not_or] at absent
    obtain ⟨deltas, rfl⟩ := ih absent.2
    cases head with
    | none => exact absurd rfl absent.1
    | some delta => exact ⟨delta :: deltas, rfl⟩

theorem orderly_of_takes {before after : State} (orderly : Orderly before)
    (takes : Takes before after) (stop : after.stop = before.stop) : Orderly after := by
  cases takes with
  | nothing queue ending _ _ =>
    cases orderly with
    | unput unput absent going =>
      exact .unput (stop ▸ unput) (queue ▸ absent) (ending.trans going)
    | put put deltas behind going =>
      exact .put (stop.trans put) deltas (queue.trans behind) (ending.trans going)
    | taken put vacant finished =>
      exact .taken (stop.trans put) (queue.trans vacant) (ending.trans finished)
  | item delta queue ending _ _ _ =>
    cases orderly with
    | unput unput absent going =>
      rw [queue, mem_cons, not_or] at absent
      exact .unput (stop ▸ unput) absent.2 ending
    | put put deltas behind going =>
      rw [queue] at behind
      cases deltas with
      | nil => cases behind
      | cons first rest =>
        exact .put (stop.trans put) rest (List.cons.inj behind).2 ending
    | taken put vacant finished =>
      rw [queue] at vacant
      cases vacant
  | sentinel queue ending _ _ _ =>
    cases orderly with
    | unput unput absent going =>
      rw [queue] at absent
      exact absurd mem_cons_self absent
    | put put deltas behind going =>
      rw [queue] at behind
      cases deltas with
      | nil => exact .taken (stop.trans put) (List.cons.inj behind).2 ending
      | cons first rest => cases behind
    | taken put vacant finished =>
      rw [queue] at vacant
      cases vacant

/-- Nothing is enqueued once `stop` has been called, and the database answers. -/
def Proper (state : State) (event : Event) : Prop :=
  match event with
  | .enqueue _ => state.stop = .uncalled
  | .work succeeds => succeeds = true
  | _ => True

variable {state : State}

theorem orderly_step (orderly : Orderly state) {event : Event} (proper : Proper state event) :
    Orderly (step limits state event) := by
  cases event with
  | enqueue delta =>
    cases orderly with
    | unput unput absent going =>
      rw [step, enqueue]
      split
      · exact .unput unput absent going
      · refine .unput unput ?_ going
        simpa using absent
    | put put _ _ _ => cases put.symm.trans proper
    | taken put _ _ => cases put.symm.trans proper
  | stop =>
    cases orderly with
    | unput unput absent going =>
      refine .unput ?_ absent going
      show (if state.stop = .uncalled then Stop.putting else state.stop) ≠ .put
      split
      · nofun
      · exact unput
    | put put deltas behind going =>
      refine .put ?_ deltas behind going
      rw [step, put]
      rfl
    | taken put vacant finished =>
      refine .taken ?_ vacant finished
      rw [step, put]
      rfl
  | put =>
    rw [step, UsageQueue.put]
    split
    · rename_i putting
      cases orderly with
      | unput unput absent going =>
        split
        · exact .unput unput absent going
        · obtain ⟨deltas, queue⟩ := map_some_of_not_mem absent
          exact .put rfl deltas (congrArg (· ++ [none]) queue) going
      | put put _ _ _ => cases put.symm.trans putting
      | taken put _ _ => cases put.symm.trans putting
    · exact orderly
  | work answer =>
    cases (show answer = true from proper)
    rw [step]
    rcases work_takes limits state with ⟨unmoved, -⟩ | takes
    · rw [unmoved]
      exact orderly
    · exact orderly_of_takes orderly takes (work_stop limits true state)

theorem uncalled_step (uncalled : state.stop = .uncalled) {event : Event} (other : event ≠ .stop) :
    (step limits state event).stop = .uncalled := by
  cases event with
  | enqueue delta =>
    rw [step, enqueue]
    split <;> exact uncalled
  | stop => exact absurd rfl other
  | put =>
    rw [step, put, uncalled]
    exact uncalled
  | work answer => exact (work_stop limits answer state).trans uncalled

theorem orderly_before (orderly : Orderly state) (uncalled : state.stop = .uncalled)
    (events : List Event) (proper : ∀ event ∈ events, event ≠ .stop ∧ event ≠ .work false) :
    Orderly (run limits state events) := by
  induction events generalizing state with
  | nil => exact orderly
  | cons event rest ih =>
    obtain ⟨notStop, succeeds⟩ := proper event mem_cons_self
    have first : Proper state event := by
      cases event with
      | enqueue delta => exact uncalled
      | work answer => cases answer <;> trivial
      | _ => trivial
    exact ih (orderly_step orderly first) (uncalled_step uncalled notStop)
      (fun event inside => proper event (mem_cons_of_mem _ inside))

/-- The steps that are left once `stop` has been called. -/
def Closing (event : Event) : Prop := event = .put ∨ event = .work true

instance : DecidablePred Closing :=
  fun event => inferInstanceAs (Decidable (event = .put ∨ event = .work true))

theorem Closing.proper {event : Event} (closing : Closing event) (state : State) :
    Proper state event := by
  rcases closing with rfl | rfl
  · trivial
  · rfl

theorem orderly_closing (orderly : Orderly state) (events : List Event)
    (closing : ∀ event ∈ events, Closing event) : Orderly (run limits state events) := by
  induction events generalizing state with
  | nil => exact orderly
  | cons event rest ih =>
    exact ih (orderly_step orderly ((closing event mem_cons_self).proper state))
      (fun event inside => closing event (mem_cons_of_mem _ inside))

end Sentinel

/-! ## The loop returns -/

section Progress

variable {limits : Limits}

/-- Bounds the steps until the loop returns: every delta in the queue may need a batch of its
own. -/
def remaining (state : State) : Nat :=
  7 * state.queue.length + state.phase.remaining + if state.stop = .putting then 8 else 0

theorem remaining_of_takes {before after : State} (takes : Takes before after)
    (stop : after.stop = before.stop) : remaining after < remaining before := by
  rw [remaining, remaining, stop]
  cases takes with
  | nothing queue _ _ fewer =>
    rw [queue]
    omega
  | item delta queue _ _ _ most =>
    rw [queue, length_cons]
    omega
  | sentinel queue _ _ _ most =>
    rw [queue, length_cons]
    omega

theorem closing_step (state : State) {event : Event} (closing : Closing event) :
    step limits state event = state ∨ remaining (step limits state event) < remaining state := by
  rcases closing with rfl | rfl
  · rw [step, put]
    split
    · rename_i putting
      split
      · exact .inl rfl
      simp only [remaining, putting, length_append, length_singleton, if_true,
        if_neg (show Stop.put ≠ .putting by decide)]
      omega
    · exact .inl rfl
  · rcases work_takes limits state with ⟨unmoved, -⟩ | takes
    · exact .inl unmoved
    · exact .inr (remaining_of_takes takes (work_stop limits true state))

theorem closing_run (state : State) (events : List Event)
    (closing : ∀ event ∈ events, Closing event) :
    (run limits state events = state ∧ ∀ event ∈ events, step limits state event = state) ∨
      remaining (run limits state events) < remaining state := by
  induction events generalizing state with
  | nil => exact .inl ⟨rfl, fun _ inside => (not_mem_nil inside).elim⟩
  | cons event rest ih =>
    have later := ih (step limits state event)
      (fun event inside => closing event (mem_cons_of_mem _ inside))
    rw [show run limits state (event :: rest) = run limits (step limits state event) rest from rfl]
    rcases closing_step state (closing event mem_cons_self) with unmoved | closer
    · rw [unmoved] at later ⊢
      refine later.imp_left (fun ⟨same, each⟩ => ⟨same, fun event inside => ?_⟩)
      rcases mem_cons.mp inside with rfl | behind
      · exact unmoved
      · exact each event behind
    · refine .inr ?_
      rcases later with ⟨same, -⟩ | closest
      · rwa [same]
      · exact closest.trans closer

variable {state : State}

theorem stopped_of_unmoved (orderly : Orderly state) (called : state.stop ≠ .uncalled)
    (unput : step limits state .put = state) (unmoved : step limits state (.work true) = state) :
    state.phase = .stopped := by
  rcases work_takes limits state with ⟨-, blocked⟩ | takes
  · rcases blocked with ⟨waiting, vacant⟩ | stopped
    · cases stop : state.stop with
      | uncalled => exact absurd stop called
      | putting =>
        -- an empty queue has room for the sentinel
        have room : full limits state.queue = false := by
          rw [vacant, full, decide_eq_false_iff_not]
          rintro ⟨bounded, reached⟩
          exact absurd (lt_of_lt_of_le bounded reached) (lt_irrefl _)
        have after := congrArg State.stop unput
        rw [step, put, stop] at after
        simp only [room] at after
        cases after
      | put =>
        cases orderly with
        | unput unput _ _ => exact absurd stop unput
        | put _ deltas behind _ =>
          rw [vacant] at behind
          exact absurd behind.symm (by simp)
        | taken _ _ ending =>
          rw [waiting] at ending
          cases ending
    · exact stopped
  · have fewer := remaining_of_takes takes (work_stop limits true state)
    rw [show work limits true state = state from unmoved] at fewer
    exact absurd fewer (lt_irrefl _)

/-- A turn of the waiting `put` and one of the loop, among any number of them. -/
def Round (events : List Event) : Prop :=
  .put ∈ events ∧ .work true ∈ events ∧ ∀ event ∈ events, Closing event

theorem called_closing (called : state.stop ≠ .uncalled) (events : List Event)
    (closing : ∀ event ∈ events, Closing event) :
    (run limits state events).stop ≠ .uncalled := by
  induction events generalizing state with
  | nil => exact called
  | cons event rest ih =>
    refine ih ?_ (fun event inside => closing event (mem_cons_of_mem _ inside))
    rcases closing event mem_cons_self with rfl | rfl
    · rw [step, put]
      split
      · split
        · exact called
        · nofun
      · exact called
    · rw [step, work_stop]
      exact called

theorem stopped_closing (stopped : state.phase = .stopped) (events : List Event)
    (closing : ∀ event ∈ events, Closing event) :
    (run limits state events).phase = .stopped := by
  induction events generalizing state with
  | nil => exact stopped
  | cons event rest ih =>
    refine ih ?_ (fun event inside => closing event (mem_cons_of_mem _ inside))
    rcases closing event mem_cons_self with rfl | rfl
    · rw [step, put]
      split
      · split <;> exact stopped
      · exact stopped
    · rw [step, work, stopped]
      exact stopped

theorem stopped_after_rounds (orderly : Orderly state) (called : state.stop ≠ .uncalled)
    (rounds : List (List Event)) (each : ∀ round ∈ rounds, Round round)
    (enough : remaining state < rounds.length) :
    (run limits state rounds.flatten).phase = .stopped := by
  induction rounds generalizing state with
  | nil => cases enough
  | cons round rest ih =>
    obtain ⟨puts, works, closing⟩ := each round mem_cons_self
    have others : ∀ round ∈ rest, Round round :=
      fun round inside => each round (mem_cons_of_mem _ inside)
    have split : run limits state (round :: rest).flatten =
        run limits (run limits state round) rest.flatten := by
      rw [flatten_cons, run, foldl_append]
      rfl
    rw [split]
    rcases @closing_run limits state round closing with ⟨same, unmoved⟩ | closer
    · rw [same]
      refine stopped_closing
        (stopped_of_unmoved orderly called (unmoved _ puts) (unmoved _ works)) _ ?_
      intro event inside
      obtain ⟨round, mem, among⟩ := mem_flatten.mp inside
      exact (others round mem).2.2 event among
    · rw [length_cons] at enough
      exact ih (orderly_closing orderly round closing) (called_closing called round closing)
        others (by omega)

end Progress

/-! ## Usage is conserved -/

/-- When the loop has returned, every accepted delta is committed once, and it does return. -/
theorem usage_conserved (limits : Limits) (database : UsageDaily) (before after : List Event)
    (running : ∀ event ∈ before, event ≠ .stop ∧ event ≠ .work false)
    (closing : ∀ event ∈ after, Closing event) :
    ((run limits (start database) (before ++ .stop :: after)).phase = .stopped → ∀ key,
      total (run limits (start database) (before ++ .stop :: after)).database key =
        total database key +
          sumAt key (accepted limits (start database) (before ++ .stop :: after))) ∧
    ∃ bound, ∀ rounds : List (List Event), (∀ round ∈ rounds, Round round) → bound < rounds.length →
        (run limits (start database)
          (before ++ .stop :: after ++ rounds.flatten)).phase = .stopped := by
  have called : Orderly (step limits (run limits (start database) before) .stop) :=
    orderly_step (orderly_before (by exact .unput nofun not_mem_nil rfl) rfl before running) trivial
  have shape : run limits (start database) (before ++ .stop :: after) =
      run limits (step limits (run limits (start database) before) .stop) after := by
    rw [run, foldl_append]
    rfl
  have orderly : Orderly (run limits (start database) (before ++ .stop :: after)) := by
    rw [shape]
    exact orderly_closing called after closing
  constructor
  · intro stopped key
    have succeeds : ∀ event ∈ before ++ .stop :: after, event ≠ .work false := by
      intro event inside
      rcases mem_append.mp inside with early | late
      · exact (running event early).2
      · rcases mem_cons.mp late with rfl | later
        · exact Event.noConfusion
        · rcases closing event later with rfl | rfl <;> simp
    have balance := held_run limits (start database) _ succeeds key
    cases orderly with
    | unput _ _ going => rw [stopped] at going; cases going
    | put _ _ _ going => rw [stopped] at going; cases going
    | taken _ vacant _ =>
      rw [held, vacant, recorded, stopped] at balance
      simpa [held, start, recorded] using balance
  · refine ⟨remaining (run limits (start database) (before ++ .stop :: after)),
      fun rounds each enough => ?_⟩
    have past : (run limits (start database) (before ++ .stop :: after)).stop ≠ .uncalled := by
      rw [shape]
      refine called_closing ?_ after closing
      show (if _ = Stop.uncalled then Stop.putting else _) ≠ .uncalled
      split
      · exact Stop.noConfusion
      · assumption
    rw [run, foldl_append]
    exact stopped_after_rounds orderly past rounds each enough

def sampleDelta (tenant : BitVec 128) (calls : Int) : Delta := ((⟨tenant⟩, 20000), ⟨1, calls, 0, 0⟩)

/-- Two tenants and batches of two: the third delta needs a batch of its own. -/
theorem usage_conserved_sample : total (run ⟨2, 3⟩ (start fun _ => none)
        ([.enqueue (sampleDelta 1 4), .enqueue (sampleDelta 2 5), .work true,
            .enqueue (sampleDelta 1 6)] ++ .stop :: .put :: List.replicate 16 (.work true))).database
          (⟨1⟩, 20000) = ⟨2, 10, 0, 0⟩ := by
  have conserved := (usage_conserved ⟨2, 3⟩ (fun _ => none)
    [.enqueue (sampleDelta 1 4), .enqueue (sampleDelta 2 5), .work true,
      .enqueue (sampleDelta 1 6)] (.put :: List.replicate 16 (.work true))
    (by decide) (by decide)).1 rfl (⟨1⟩, 20000)
  exact conserved.trans (by decide)

end Portcullis.Metering.UsageQueue
