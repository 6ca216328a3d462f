import Portcullis.Lib.Prog

/-!
# Database sessions

A program talks to its database in statements, commits and rollbacks.  A statement sees
the committed data with the changes of its own open transaction; a commit makes these
part of the committed data.  An error aborts the transaction: every later request fails
until it is rolled back.
-/

namespace Portcullis.Lib.Session

/-- A constraint that was violated, or any other database error. -/
inductive Rejection where
  | violation
  | fault
  deriving DecidableEq, Repr

inductive Request (Op : Type) where
  | statement (op : Op)
  | commit
  | rollback

abbrev Reply {Op : Type} (Ans : Op → Type) : Request Op → Type
  | .statement op => Except Rejection (Ans op)
  | .commit => Except Rejection Unit
  | .rollback => Unit

/-- What statements mean: the answer on the data that is seen, and the change that an
answered statement makes. -/
structure Engine (Data Op : Type) (Ans : Op → Type) where
  execute : Data → (op : Op) → Except Rejection (Ans op)
  change : Event Op Ans → Data → Data

/-! ## Transactions -/

section Transactions

variable {Data Op : Type} {Ans : Op → Type} (engine : Engine Data Op Ans)

/-- The answered statements of the open transaction; none if it is aborted. -/
abbrev Writes (Op : Type) (Ans : Op → Type) := Option (List (Event Op Ans))

def view (committed : Data) (events : List (Event Op Ans)) : Data :=
  events.foldl (fun data event => engine.change event data) committed

/-- The transaction after an answered request. -/
def record (writes : Writes Op Ans) : Event (Request Op) (Reply Ans) → Writes Op Ans
  | ⟨.statement op, .ok answer⟩ => writes.map fun events => events ++ [⟨op, answer⟩]
  | ⟨.statement _, .error _⟩ => none
  | ⟨.commit, .ok _⟩ => some []
  | ⟨.commit, .error _⟩ => none
  | ⟨.rollback, _⟩ => some []

def writesOf (history : Prog.Trace (Request Op) (Reply Ans)) : Writes Op Ans :=
  history.foldl record (some [])

/-- A fault may hit any statement and any commit; the data is then as before. -/
def reply (fault : Bool) (committed : Data) (writes : Writes Op Ans) :
    (request : Request Op) → Reply Ans request
  | .statement op =>
    if fault then .error .fault
    else match writes with
      | none => .error .fault
      | some events => engine.execute (view engine committed events) op
  | .commit => if fault then .error .fault else if writes.isSome then .ok () else .error .fault
  | .rollback => ()

def settle (committed : Data) (writes : Writes Op Ans) :
    Event (Request Op) (Reply Ans) → Data
  | ⟨.commit, .ok _⟩ => view engine committed (writes.getD [])
  | ⟨.commit, .error _⟩ => committed
  | ⟨.statement _, _⟩ => committed
  | ⟨.rollback, _⟩ => committed

theorem view_append (committed : Data) (first second : List (Event Op Ans)) :
    view engine committed (first ++ second) = view engine (view engine committed first) second :=
  List.foldl_append

variable {committed : Data} {events : List (Event Op Ans)}

theorem view_induction (property : Data → Prop)
    (keeps : ∀ event ∈ events, ∀ data, property data → property (engine.change event data))
    (holds : property committed) : property (view engine committed events) := by
  induction events generalizing committed with
  | nil => exact holds
  | cons event rest ih =>
    exact ih (fun later mem => keeps later (.tail _ mem))
      (keeps event (.head _) committed holds)

theorem view_eq_of_reads (reads : ∀ event ∈ events, ∀ data, engine.change event data = data) :
    view engine committed events = committed :=
  view_induction engine (fun data => data = committed)
    (fun event mem data same => (reads event mem data).trans same) rfl

theorem writesOf_append (history : Prog.Trace (Request Op) (Reply Ans))
    (event : Event (Request Op) (Reply Ans)) :
    writesOf (history ++ [event]) = record (writesOf history) event := by
  unfold writesOf
  rw [List.foldl_append]
  rfl

def statements (events : List (Event Op Ans)) : Prog.Trace (Request Op) (Reply Ans) :=
  events.map fun event => ⟨.statement event.op, .ok event.answer⟩

theorem statements_append (events : List (Event Op Ans)) (op : Op) (answer : Ans op) :
    statements events ++ [⟨.statement op, .ok answer⟩] = statements (events ++ [⟨op, answer⟩]) := by
  unfold statements
  rw [List.map_append]
  rfl

theorem writesOf_statements (events : List (Event Op Ans)) :
    writesOf (statements events) = some events := by
  induction events using List.reverseRecOn with
  | nil => rfl
  | append_singleton events event ih => rw [← statements_append, writesOf_append, ih]; rfl

theorem mem_statements {op : Op} {answer : Ans op} :
    (⟨.statement op, .ok answer⟩ : Event (Request Op) (Reply Ans)) ∈ statements events ↔
      ⟨op, answer⟩ ∈ events := by
  unfold statements
  rw [List.mem_map]
  constructor
  · rintro ⟨⟨made, found⟩, mem, same⟩
    cases same
    exact mem
  · exact fun mem => ⟨⟨op, answer⟩, mem, rfl⟩

theorem commit_not_mem_statements (events : List (Event Op Ans)) (answer : Except Rejection Unit) :
    (⟨.commit, answer⟩ : Event (Request Op) (Reply Ans)) ∉ statements events := by
  intro mem
  obtain ⟨event, -, same⟩ := List.mem_map.mp mem
  cases same

theorem reply_statement_ok {fault : Bool} {writes : Writes Op Ans} {op : Op} {answer : Ans op}
    (ans : reply engine fault committed writes (.statement op) = .ok answer) :
    ∃ events, writes = some events ∧
      engine.execute (view engine committed events) op = .ok answer := by
  unfold reply at ans
  dsimp only at ans
  split at ans
  · cases ans
  · split at ans
    · cases ans
    · exact ⟨_, rfl, ans⟩

theorem reply_commit_ok {fault : Bool} {writes : Writes Op Ans}
    (ans : reply engine fault committed writes .commit = .ok ()) :
    fault = false ∧ ∃ events, writes = some events := by
  unfold reply at ans
  dsimp only at ans
  split at ans
  · cases ans
  rename_i calm
  split at ans
  · rename_i live
    exact ⟨eq_false_of_ne_true calm, Option.isSome_iff_exists.mp live⟩
  · cases ans

end Transactions

/-! ## Programs -/

/-- An exception of the program, or a database error that reached it. -/
inductive Raised (Failure : Type) where
  | own (failure : Failure)
  | database (rejection : Rejection)
  deriving DecidableEq, Repr

abbrev Sql (Op : Type) (Ans : Op → Type) (Failure : Type) :=
  Prog (Request Op) (Reply Ans) (Raised Failure)

section Programs

variable {Op : Type} {Ans : Op → Type} {Failure Value : Type}

def refuse (failure : Failure) : Sql Op Ans Failure Value := .fail (.own failure)

def check : Except Failure Value → Sql Op Ans Failure Value
  | .ok value => .ret value
  | .error failure => refuse failure

def passed : Except Rejection Value → Sql Op Ans Failure Value
  | .ok value => .ret value
  | .error rejection => .fail (.database rejection)

def query (op : Op) : Sql Op Ans Failure (Ans op) := .ask (.statement op) passed

def commit : Sql Op Ans Failure Unit := .ask .commit passed

def rollback : Sql Op Ans Failure Unit := .ask .rollback .ret

/-! ### Safety -/

variable {Result : Type} {permitted : Prog.Trace (Request Op) (Reply Ans) → Request Op → Prop}
  {returns : Prog.Trace (Request Op) (Reply Ans) → Result → Prop}
  {fails : Prog.Trace (Request Op) (Reply Ans) → Raised Failure → Prop}
  {history : Prog.Trace (Request Op) (Reply Ans)}

theorem safe_check {result : Except Failure Value}
    {continuation : Value → Sql Op Ans Failure Result}
    (refused : ∀ failure, result = .error failure → fails history (.own failure))
    (rest : ∀ value, result = .ok value →
      Prog.Safe permitted returns fails history (continuation value)) :
    Prog.Safe permitted returns fails history (check result >>= continuation) := by
  cases result with
  | ok value => exact rest value rfl
  | error failure => exact refused failure rfl

theorem safe_query {op : Op} {continuation : Ans op → Sql Op Ans Failure Result}
    (allowed : permitted history (.statement op))
    (rejected : ∀ rej, fails (history ++ [⟨.statement op, .error rej⟩])
      (.database rej))
    (rest : ∀ answer, Prog.Safe permitted returns fails
      (history ++ [⟨.statement op, .ok answer⟩]) (continuation answer)) :
    Prog.Safe permitted returns fails history (query op >>= continuation) := by
  refine ⟨allowed, fun answer => ?_⟩
  cases answer with
  | ok value => exact rest value
  | error rej => exact rejected rej

theorem safe_commit {continuation : Unit → Sql Op Ans Failure Result}
    (allowed : permitted history .commit)
    (rejected : ∀ rej, fails (history ++ [⟨.commit, .error rej⟩]) (.database rej))
    (rest : Prog.Safe permitted returns fails (history ++ [⟨.commit, .ok ()⟩]) (continuation ())) :
    Prog.Safe permitted returns fails history (commit >>= continuation) := by
  refine ⟨allowed, fun answer => ?_⟩
  cases answer with
  | ok value => exact rest
  | error rej => exact rejected rej

end Programs

/-! ## A session on its own -/

/-- What a single session finds; the requests that faults hit are known in advance. -/
structure Connection (Data Op : Type) (Ans : Op → Type) where
  committed : Data
  writes : Writes Op Ans
  faults : List Bool

section Connections

variable {Data Op : Type} {Ans : Op → Type}

def connect (committed : Data) (faults : List Bool) : Connection Data Op Ans :=
  ⟨committed, some [], faults⟩

def serve (engine : Engine Data Op Ans) (connection : Connection Data Op Ans)
    (request : Request Op) : Reply Ans request × Connection Data Op Ans :=
  let answer := reply engine (connection.faults.headD false) connection.committed
    connection.writes request
  (answer,
    { committed := settle engine connection.committed connection.writes ⟨request, answer⟩
      writes := record connection.writes ⟨request, answer⟩
      faults := connection.faults.tail })

variable {Failure Value Result : Type} (engine : Engine Data Op Ans)

def conduct (connection : Connection Data Op Ans) (program : Sql Op Ans Failure Value) :
    Except (Raised Failure) Value × Connection Data Op Ans :=
  ((Prog.drive (serve engine) connection program).outcome,
    (Prog.drive (serve engine) connection program).final)

theorem conduct_bind (connection : Connection Data Op Ans) (prog : Sql Op Ans Failure Value)
    (continuation : Value → Sql Op Ans Failure Result) :
    conduct engine connection (prog >>= continuation) =
      match conduct engine connection prog with
      | (.ok value, after) => conduct engine after (continuation value)
      | (.error failure, after) => (.error failure, after) := by
  unfold conduct
  cases ended : (Prog.drive (serve engine) connection prog).outcome with
  | ok value =>
    rw [Prog.drive_bind_ok _ _ _ _ value ended]
    simp only [Prog.Driven.andThen]
  | error failure => rw [Prog.drive_bind_error _ _ _ _ failure ended]

end Connections

end Portcullis.Lib.Session
