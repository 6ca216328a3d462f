import Portcullis.Lib.Session
import Portcullis.Lib.Transactions

/-!
# Sessions under READ COMMITTED

Programs that share a database, each in a session of its own.  A turn lets one session
make its next request.  An answered statement takes locks and keeps them to the end of its
transaction; a statement that needs a lock of another session waits, and is evaluated
again when it has its next turn.  A program that has ended closes its session, which rolls
back what is not committed.
-/

namespace Portcullis.Lib.ReadCommitted

open Lib.Session List

variable {Data Op : Type} {Ans : Op → Type} {Lock Failure Value : Type}

structure World (Data Op : Type) (Ans : Op → Type) (Lock Failure Value : Type) where
  committed : Data
  programs : Nat → Sql Op Ans Failure Value
  histories : Nat → Prog.Trace (Request Op) (Reply Ans)
  owner : Lock → Option Nat

structure Turn where
  session : Nat
  fault : Bool

def start (committed : Data) (programs : Nat → Sql Op Ans Failure Value) :
    World Data Op Ans Lock Failure Value where
  committed := committed
  programs := programs
  histories _ := []
  owner _ := none

variable {engine : Engine Data Op Ans} {locks : Event Op Ans → List Lock}
variable {world after : World Data Op Ans Lock Failure Value}

/-! ## Open transactions -/

/-- An answered statement of a transaction that is still open. -/
def Pending (world : World Data Op Ans Lock Failure Value) (session : Nat)
    (event : Event Op Ans) : Prop :=
  (∃ request next, world.programs session = .ask request next) ∧
    ∃ events, writesOf (world.histories session) = some events ∧ event ∈ events

theorem not_pending_start (committed : Data) (programs : Nat → Sql Op Ans Failure Value)
    (session : Nat) (event : Event Op Ans) :
    ¬ Pending (start committed programs : World Data Op Ans Lock Failure Value) session event := by
  rintro ⟨-, events, opened, mem⟩
  cases opened
  cases mem

/-- A fact that each open transaction relies on for what it has written. -/
def Relied (fact : Event Op Ans → Data → Prop)
    (world : World Data Op Ans Lock Failure Value) : Prop :=
  ∀ session event, Pending world session event → fact event world.committed

/-- A session holds the locks of what it has written. -/
def Locked (locks : Event Op Ans → List Lock)
    (world : World Data Op Ans Lock Failure Value) : Prop :=
  ∀ session event, Pending world session event → ∀ lock ∈ locks event,
    world.owner lock = some session

theorem relied_start (fact : Event Op Ans → Data → Prop) (committed : Data)
    (programs : Nat → Sql Op Ans Failure Value) :
    Relied fact (start committed programs : World Data Op Ans Lock Failure Value) :=
  fun session event pending => absurd pending (not_pending_start committed programs session event)

theorem locked_start (committed : Data) (programs : Nat → Sql Op Ans Failure Value) :
    Locked locks (start committed programs : World Data Op Ans Lock Failure Value) :=
  fun session event pending => absurd pending (not_pending_start committed programs session event)

theorem Locked.apart (locked : Locked locks world) {session other : Nat}
    {event written : Event Op Ans} (apart : other ≠ session)
    (pending : Pending world session event) (others : Pending world other written) {lock : Lock}
    (held : lock ∈ locks written) : lock ∉ locks event := fun also =>
  apart (Option.some.inj
    ((locked other written others lock held).symm.trans (locked session event pending lock also)))

/-! ## What remains of the programs -/

variable {permitted : Nat → Prog.Trace (Request Op) (Reply Ans) → Request Op → Prop}
  {returns : Nat → Prog.Trace (Request Op) (Reply Ans) → Value → Prop}
  {fails : Nat → Prog.Trace (Request Op) (Reply Ans) → Raised Failure → Prop}

variable (permitted returns fails) in
/-- What remains of each program is safe after what it has seen. -/
def Obeys (world : World Data Op Ans Lock Failure Value) : Prop :=
  ∀ session, Prog.Safe (permitted session) (returns session) (fails session)
    (world.histories session) (world.programs session)

variable {request : Request Op} {session : Nat} {event : Event Op Ans}

theorem Obeys.permits (obeys : Obeys permitted returns fails world)
    {next : Reply Ans request → Sql Op Ans Failure Value}
    (prog : world.programs session = .ask request next) :
    permitted session (world.histories session) request := by
  have safe := obeys session
  rw [prog] at safe
  exact safe.1

theorem Obeys.returned (obeys : Obeys permitted returns fails world) {value : Value}
    (prog : world.programs session = .ret value) :
    returns session (world.histories session) value := by
  have safe := obeys session
  rw [prog] at safe
  exact safe

theorem Obeys.failed (obeys : Obeys permitted returns fails world) {session : Nat}
    {failure : Raised Failure} (prog : world.programs session = .fail failure) :
    fails session (world.histories session) failure := by
  have safe := obeys session
  rw [prog] at safe
  exact safe

/-! ## Locks -/

variable (engine locks)

def needs : Event (Request Op) (Reply Ans) → List Lock
  | ⟨.statement op, .ok answer⟩ => locks ⟨op, answer⟩
  | ⟨.statement _, .error _⟩ => []
  | ⟨.commit, _⟩ => []
  | ⟨.rollback, _⟩ => []

def heldByOther (owner : Lock → Option Nat) (session : Nat) (lock : Lock) : Bool :=
  (owner lock).any fun holder => holder != session

def released (owner : Lock → Option Nat) (session : Nat) : Lock → Option Nat := fun lock =>
  if owner lock = some session then none else owner lock

theorem released_of_other {owner : Lock → Option Nat} {other : Nat} {lock : Lock}
    (owned : owner lock = some other) (apart : other ≠ session) :
    released owner session lock = some other := by
  unfold released
  rw [if_neg fun same => apart (Option.some.inj (owned.symm.trans same)), owned]

variable [DecidableEq Lock]

def seized (owner : Lock → Option Nat) (session : Nat) (needed : List Lock) :
    Lock → Option Nat := fun lock =>
  if lock ∈ needed then some session else owner lock

/-- The end of a transaction releases its locks, and so does an error. -/
def relock (owner : Lock → Option Nat) (session : Nat) :
    Event (Request Op) (Reply Ans) → Lock → Option Nat
  | ⟨.statement op, .ok answer⟩ => seized owner session (locks ⟨op, answer⟩)
  | ⟨.statement _, .error _⟩ => released owner session
  | ⟨.commit, _⟩ => released owner session
  | ⟨.rollback, _⟩ => released owner session

/-! ## Turns -/

def served (world : World Data Op Ans Lock Failure Value) (session : Nat) (request : Request Op)
    (next : Reply Ans request → Sql Op Ans Failure Value) (answer : Reply Ans request) :
    World Data Op Ans Lock Failure Value where
  committed := settle engine world.committed (writesOf (world.histories session)) ⟨request, answer⟩
  programs := Function.update world.programs session (next answer)
  histories := Function.update world.histories session
    (world.histories session ++ [⟨request, answer⟩])
  owner := relock locks world.owner session ⟨request, answer⟩

/-- A statement that has to wait fails with the lock it waits for. -/
def perform (world : World Data Op Ans Lock Failure Value) (turn : Turn) :
    Except Lock (World Data Op Ans Lock Failure Value) :=
  match world.programs turn.session with
  | .ask request next =>
    let answer := reply engine turn.fault world.committed
      (writesOf (world.histories turn.session)) request
    match (needs locks ⟨request, answer⟩).find? (heldByOther world.owner turn.session) with
    | some lock => .error lock
    | none => .ok (served engine locks world turn.session request next answer)
  | .ret _ => .ok { world with owner := released world.owner turn.session }
  | .fail _ => .ok { world with owner := released world.owner turn.session }

def run (world : World Data Op Ans Lock Failure Value) (turns : List Turn) :
    World Data Op Ans Lock Failure Value :=
  Transactions.run (perform engine locks) world turns

variable {engine locks} {turn : Turn}

theorem perform_cases (did : perform engine locks world turn = .ok after) :
    (∃ request next answer, world.programs turn.session = .ask request next ∧
        answer = reply engine turn.fault world.committed
          (writesOf (world.histories turn.session)) request ∧
        (∀ lock ∈ needs locks ⟨request, answer⟩, ∀ holder, world.owner lock = some holder →
          holder = turn.session) ∧
        after = served engine locks world turn.session request next answer) ∨
      (∀ request next, world.programs turn.session ≠ .ask request next) ∧
        after = { world with owner := released world.owner turn.session } := by
  unfold perform at did
  cases prog : world.programs turn.session with
  | ask request next =>
    rw [prog] at did
    dsimp only at did
    split at did
    · cases did
    rename_i unheld
    refine .inl ⟨request, next, _, rfl, rfl, fun lock needed holder owned => ?_,
      (Except.ok.inj did).symm⟩
    have free := List.find?_eq_none.mp unheld lock needed
    simpa [heldByOther, owned] using free
  | ret value =>
    rw [prog] at did
    exact .inr ⟨nofun, (Except.ok.inj did).symm⟩
  | fail failure =>
    rw [prog] at did
    exact .inr ⟨nofun, (Except.ok.inj did).symm⟩

/-- The turn commits an open transaction. -/
def Commits (world : World Data Op Ans Lock Failure Value) (turn : Turn) : Prop :=
  turn.fault = false ∧ (∃ next, world.programs turn.session = .ask .commit next) ∧
    ∃ events, writesOf (world.histories turn.session) = some events

theorem committed_cases (did : perform engine locks world turn = .ok after) :
    ¬ Commits world turn ∧ after.committed = world.committed ∨
      ∃ next events, turn.fault = false ∧ world.programs turn.session = .ask .commit next ∧
        writesOf (world.histories turn.session) = some events ∧
        after = served engine locks world turn.session .commit next (.ok ()) ∧
        after.committed = view engine world.committed events := by
  rcases perform_cases did with
    ⟨request, next, answer, prog, ans, -, rfl⟩ | ⟨ended, rfl⟩
  · cases request with
    | statement op =>
      refine .inl ⟨?_, by cases answer <;> rfl⟩
      rintro ⟨-, ⟨next, asks⟩, -⟩
      cases prog.symm.trans asks
    | rollback =>
      refine .inl ⟨?_, rfl⟩
      rintro ⟨-, ⟨next, asks⟩, -⟩
      cases prog.symm.trans asks
    | commit =>
      cases answer with
      | error rej =>
        refine .inl ⟨?_, rfl⟩
        rintro ⟨calm, -, events, opened⟩
        rw [calm, opened] at ans
        cases ans
      | ok acc =>
        obtain ⟨calm, events, opened⟩ := reply_commit_ok engine ans.symm
        refine .inr ⟨next, events, calm, prog, opened, rfl, ?_⟩
        change view engine world.committed ((writesOf (world.histories turn.session)).getD []) = _
        rw [opened]
        rfl
  · refine .inl ⟨?_, rfl⟩
    rintro ⟨-, ⟨next, asks⟩, -⟩
    exact ended .commit next asks

/-! ## Locks of open transactions -/

theorem relock_of_other {owner : Lock → Option Nat} {other : Nat} {lock : Lock}
    {event : Event (Request Op) (Reply Ans)} (owned : owner lock = some other)
    (apart : other ≠ session)
    (free : ∀ lock ∈ needs locks event, ∀ holder, owner lock = some holder → holder = session) :
    relock locks owner session event lock = some other := by
  obtain ⟨request, answer⟩ := event
  cases request with
  | statement op =>
    cases answer with
    | ok answer =>
      have outside : lock ∉ locks ⟨op, answer⟩ := fun needed =>
        apart (free lock needed other owned)
      exact (if_neg outside).trans owned
    | error rej => exact released_of_other owned apart
  | commit => exact released_of_other owned apart
  | rollback => exact released_of_other owned apart

theorem pending_served {next : Reply Ans request → Sql Op Ans Failure Value}
    {answer : Reply Ans request} (prog : world.programs session = .ask request next)
    (pending : Pending (served engine locks world session request next answer) session event) :
    ∃ op found, request = .statement op ∧ HEq answer (Except.ok found : Except Rejection (Ans op)) ∧
      (Pending world session event ∨ event = ⟨op, found⟩) := by
  obtain ⟨-, events, opened, mem⟩ := pending
  have recorded : record (writesOf (world.histories session)) ⟨request, answer⟩ = some events := by
    rw [← writesOf_append, ← opened]
    exact congrArg writesOf (Function.update_self session _ world.histories).symm
  cases request with
  | statement op =>
    cases answer with
    | error rej => cases recorded
    | ok found =>
      obtain ⟨before, already, rfl⟩ := Option.map_eq_some_iff.mp recorded
      refine ⟨op, found, rfl, HEq.rfl, (mem_append.mp mem).imp (fun old => ?_) ?_⟩
      · exact ⟨⟨_, _, prog⟩, before, already, old⟩
      · exact mem_singleton.mp
  | commit =>
    cases answer with
    | error rej => cases recorded
    | ok acc =>
      cases recorded
      cases mem
  | rollback =>
    cases recorded
    cases mem

theorem pending_served_other {other : Nat} {next : Reply Ans request → Sql Op Ans Failure Value}
    {answer : Reply Ans request} (apart : other ≠ session) :
    Pending (served engine locks world session request next answer) other event ↔
      Pending world other event := by
  unfold Pending served
  dsimp only
  rw [Function.update_of_ne apart, Function.update_of_ne apart]

theorem Locked.perform (locked : Locked locks world)
    (did : perform engine locks world turn = .ok after) : Locked locks after := by
  rcases perform_cases did with ⟨request, next, answer, prog, -, free, rfl⟩ | ⟨ended, rfl⟩
  · intro session event pending lock held
    by_cases same : session = turn.session
    · subst same
      obtain ⟨op, found, rfl, ans, known⟩ := pending_served prog pending
      cases eq_of_heq ans
      change (if lock ∈ locks ⟨op, found⟩ then some turn.session else world.owner lock) = _
      split
      · rfl
      rename_i outside
      rcases known with old | rfl
      · exact locked _ event old lock held
      · exact absurd held outside
    · exact relock_of_other
        (locked session event ((pending_served_other same).mp pending) lock held) same free
  · intro session event pending lock held
    have apart : session ≠ turn.session := by
      rintro rfl
      obtain ⟨⟨request, next, prog⟩, -⟩ := pending
      exact ended request next prog
    exact released_of_other (locked session event pending lock held) apart

theorem committed_induction (did : perform engine locks world turn = .ok after)
    (property : Data → Prop)
    (keeps : ∀ event, Pending world turn.session event → ∀ data, property data →
      property (engine.change event data))
    (holds : property world.committed) : property after.committed := by
  rcases committed_cases did with ⟨-, same⟩ | ⟨next, events, -, prog, opened, -, changed⟩
  · rw [same]
    exact holds
  · rw [changed]
    exact view_induction engine property
      (fun event mem => keeps event ⟨⟨_, _, prog⟩, events, opened, mem⟩) holds

/-- A session relies on what no change under other locks than its own breaks. -/
theorem Locked.relies (locked : Locked locks world)
    (did : ReadCommitted.perform engine locks world turn = .ok after)
    (pending : Pending world session event) (apart : turn.session ≠ session)
    (property : Data → Prop)
    (keeps : ∀ written data, (∀ lock ∈ locks written, lock ∉ locks event) → property data →
      property (engine.change written data)) (holds : property world.committed) :
    property after.committed :=
  committed_induction did property
    (fun written others data => keeps written data fun _ held =>
      locked.apart apart pending others held) holds

/-- Such a fact has to hold when the statement is answered, and no change under other
locks may break it. -/
theorem Relied.perform {fact : Event Op Ans → Data → Prop} (relied : Relied fact world)
    (locked : Locked locks world)
    (did : ReadCommitted.perform engine locks world turn = .ok after)
    (arrives : ∀ op next events answer, world.programs turn.session = .ask (.statement op) next →
      writesOf (world.histories turn.session) = some events →
      engine.execute (view engine world.committed events) op = .ok answer →
      fact ⟨op, answer⟩ world.committed)
    (keeps : ∀ event written data, (∀ lock ∈ locks written, lock ∉ locks event) →
      fact event data → fact event (engine.change written data)) : Relied fact after := by
  intro session event pending
  rcases perform_cases did with ⟨request, next, answer, prog, ans, -, rfl⟩ | ⟨-, rfl⟩
  · by_cases same : session = turn.session
    · subst same
      obtain ⟨op, found, rfl, answer_eq, known⟩ := pending_served prog pending
      cases eq_of_heq answer_eq
      rcases known with old | rfl
      · exact relied _ event old
      · obtain ⟨events, opened, executed⟩ := reply_statement_ok engine ans.symm
        exact arrives op next events found prog opened executed
    · have before := (pending_served_other same).mp pending
      exact locked.relies did before (Ne.symm same) (fact event)
        (fun written data => keeps event written data) (relied session event before)
  · exact relied session event pending

/-! ## Programs -/

theorem Obeys.perform (obeys : Obeys permitted returns fails world)
    (did : perform engine locks world turn = .ok after) :
    Obeys permitted returns fails after := by
  rcases perform_cases did with ⟨request, next, answer, prog, -, -, rfl⟩ | ⟨-, rfl⟩
  · intro session
    by_cases same : session = turn.session
    · subst same
      have safe := obeys turn.session
      rw [prog] at safe
      simpa [served] using safe.2 answer
    · simpa [served, Function.update_of_ne same] using obeys session
  · exact obeys

/-! ## Histories -/

theorem history_perform (did : perform engine locks world turn = .ok after) (session : Nat) :
    world.histories session <+: after.histories session := by
  rcases perform_cases did with ⟨request, next, answer, -, -, -, rfl⟩ | ⟨-, rfl⟩
  · by_cases same : session = turn.session
    · subst same
      simp [served]
    · simp [served, Function.update_of_ne same]
  · exact prefix_refl _

theorem returned_cases (did : perform engine locks world turn = .ok after) {value : Value}
    (returned : after.programs session = .ret value) :
    world.programs session = .ret value ∧ after.histories session = world.histories session ∨
      session = turn.session ∧ ∃ event,
        after.histories session = world.histories session ++ [event] := by
  rcases perform_cases did with ⟨request, next, answer, -, -, -, done⟩ | ⟨-, rfl⟩
  · by_cases same : session = turn.session
    · subst same
      refine .inr ⟨rfl, ⟨request, answer⟩, ?_⟩
      rw [done]
      exact Function.update_self _ _ _
    · have kept : after.programs session = world.programs session := by
        rw [done]
        exact Function.update_of_ne same _ _
      refine .inl ⟨kept.symm.trans returned, ?_⟩
      rw [done]
      exact Function.update_of_ne same _ _
  · exact .inl ⟨returned, rfl⟩

theorem committed_of_history (did : perform engine locks world turn = .ok after)
    (grown : after.histories turn.session =
      world.histories turn.session ++ [⟨.commit, .ok ()⟩]) {events : List (Event Op Ans)}
    (opened : writesOf (world.histories turn.session) = some events) :
    (∃ next, world.programs turn.session = .ask .commit next) ∧
      after.committed = view engine world.committed events := by
  rcases perform_cases did with ⟨request, next, answer, prog, -, -, done⟩ | ⟨-, rfl⟩
  · have made : after.histories turn.session =
        world.histories turn.session ++ [⟨request, answer⟩] := by
      rw [done]
      exact Function.update_self _ _ _
    cases append_cancel_left (made.symm.trans grown)
    refine ⟨⟨next, prog⟩, ?_⟩
    rw [done]
    change view engine world.committed ((writesOf (world.histories turn.session)).getD []) = _
    rw [opened]
    rfl
  · simp at grown

theorem history_run (world : World Data Op Ans Lock Failure Value) (turns : List Turn)
    (session : Nat) :
    world.histories session <+: (run engine locks world turns).histories session :=
  @Transactions.invariant_run _ _ _ (perform engine locks)
    (fun state => world.histories session <+: state.histories session)
    (fun _ _ _ did grown => grown.trans (history_perform did session))
    world (prefix_refl _) turns

theorem committed_of_never {turns first rest : List Turn}
    (never : (⟨.commit, .ok ()⟩ : Event (Request Op) (Reply Ans)) ∉
      (run engine locks world turns).histories turn.session)
    (split : turns = first ++ turn :: rest) :
    (run engine locks world (first ++ [turn])).committed =
      (run engine locks world first).committed := by
  have last : run engine locks world (first ++ [turn]) =
      Transactions.commit (perform engine locks) (run engine locks world first) turn :=
    foldl_append
  have onward : run engine locks world turns =
      run engine locks (run engine locks world (first ++ [turn])) rest := by
    rw [split, append_cons]
    exact foldl_append
  rw [last]
  rw [onward, last] at never
  cases did : perform engine locks (run engine locks world first) turn with
  | error lock => rw [Transactions.commit_of_error did]
  | ok after =>
    rw [Transactions.commit_of_ok did] at never ⊢
    rcases committed_cases did with ⟨-, same⟩ | ⟨next, events, -, -, -, rfl, -⟩
    · exact same
    · refine absurd ((history_run _ rest turn.session).subset ?_) never
      simp [served]

end Portcullis.Lib.ReadCommitted
