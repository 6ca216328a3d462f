import Portcullis.Lib.Session

/-!
# Rehearsed transactions

Where nothing fails by accident, what a program does in a transaction is a function of the
data it sees.  A program that passes every database error on, at the latest with its next
statement, does just that or stops, and if it stops the committed data is as before.
-/

namespace Portcullis.Lib.Session

variable {Data Op : Type} {Ans : Op → Type} {Failure Value Result : Type}

/-- An engine given by what a statement answers and leaves. -/
def Engine.ofEffect (effect : Data → (op : Op) → Except Rejection (Ans op × Data)) :
    Engine Data Op Ans where
  execute data op := (effect data op).map Prod.fst
  change event data :=
    match effect data event.op with
    | .ok (_, after) => after
    | .error _ => data

structure Rehearsed (Data Value : Type) where
  value : Value
  data : Data
  requests : Nat

section Rehearse

variable (engine : Engine Data Op Ans)

/-- The end of a program whose statements are all accepted; none if one is rejected, or if
the program fails or ends its transaction. -/
def rehearse : Sql Op Ans Failure Value → Data → Option (Rehearsed Data Value)
  | .ret value, data => some ⟨value, data, 0⟩
  | .fail _, _ => none
  | .ask (.statement op) next, data =>
    match engine.execute data op with
    | .ok answer =>
      (rehearse (next (.ok answer)) (engine.change ⟨op, answer⟩ data)).map fun done =>
        { done with requests := done.requests + 1 }
    | .error _ => none
  | .ask .commit _, _ => none
  | .ask .rollback _, _ => none

/-- In an aborted transaction the program fails. -/
def Blocked : Sql Op Ans Failure Value → Prop
  | .ret _ => False
  | .fail _ => True
  | .ask (.statement _) next => ∀ rejection, Blocked (next (.error rejection))
  | .ask .commit next => ∀ rejection, Blocked (next (.error rejection))
  | .ask .rollback _ => False

/-- The program ends no transaction, and it fails once a statement is rejected. -/
def Strict : Sql Op Ans Failure Value → Prop
  | .ret _ => True
  | .fail _ => True
  | .ask (.statement _) next =>
    (∀ rejection, Blocked (next (.error rejection))) ∧ ∀ answer, Strict (next (.ok answer))
  | .ask .commit _ => False
  | .ask .rollback _ => False

/-- No fault hits one of the next requests. -/
def spared (requests : Nat) (faults : List Bool) : Bool :=
  (faults.take requests).all fun fault => !fault

def Stops (connection : Connection Data Op Ans) (program : Sql Op Ans Failure Value) : Prop :=
  ∃ failure after, conduct engine connection program = (.error failure, after) ∧
    after.committed = connection.committed

end Rehearse

/-! ## Faults -/

theorem spared_succ (requests : Nat) (faults : List Bool) :
    spared (requests + 1) faults = (!faults.headD false && spared requests faults.tail) := by
  cases faults with
  | nil => simp [spared]
  | cons fault rest => simp [spared]

theorem spared_add (first second : Nat) (faults : List Bool) : spared (first + second) faults =
      (spared first faults && spared second (faults.drop first)) := by
  unfold spared
  rw [List.take_add, List.all_append]

/-! ## Running a rehearsed program -/

variable {engine : Engine Data Op Ans} {committed : Data} {faults : List Bool}

theorem conduct_ask (connection : Connection Data Op Ans) (request : Request Op)
    (next : Reply Ans request → Sql Op Ans Failure Value) :
    conduct engine connection (.ask request next) =
      conduct engine (serve engine connection request).2
        (next (serve engine connection request).1) :=
  rfl

variable {after connection : Connection Data Op Ans} {program : Sql Op Ans Failure Value}
  {rest : Value → Sql Op Ans Failure Result}

theorem stops_of_serve {request : Request Op} {next : Reply Ans request → Sql Op Ans Failure Value}
    {answer : Reply Ans request} (served : serve engine connection request = (answer, after))
    (kept : after.committed = connection.committed) (rest : Stops engine after (next answer)) :
    Stops engine connection (.ask request next) := by
  obtain ⟨failure, last, ended, unchanged⟩ := rest
  refine ⟨failure, last, ?_, unchanged.trans kept⟩
  rw [conduct_ask, served]
  exact ended

theorem stops_of_blocked (blocked : Blocked program) :
    Stops engine ⟨committed, none, faults⟩ program := by
  induction program generalizing faults with
  | ret value => exact blocked.elim
  | fail failure => exact ⟨failure, _, rfl, rfl⟩
  | ask request next ih =>
    cases request with
    | statement op =>
      have failed : serve engine ⟨committed, none, faults⟩ (.statement op) =
          (.error .fault, ⟨committed, none, faults.tail⟩) := by
        simp [serve, reply, settle, record]
      exact stops_of_serve failed rfl (ih _ (blocked .fault))
    | commit =>
      have failed : serve engine ⟨committed, none, faults⟩ .commit =
          (.error .fault, ⟨committed, none, faults.tail⟩) := by
        simp [serve, reply, settle, record]
      exact stops_of_serve failed rfl (ih _ (blocked .fault))
    | rollback => exact blocked.elim

variable {events : List (Event Op Ans)}

theorem serve_fault {op : Op} (hit : faults.headD false = true) :
    serve engine ⟨committed, some events, faults⟩ (.statement op) =
      (.error .fault, ⟨committed, none, faults.tail⟩) := by
  simp only [serve, reply, settle, record, hit, if_true]

theorem serve_rejected {op : Op} {rej : Rejection} (calm : faults.headD false = false)
    (rejected : engine.execute (view engine committed events) op = .error rej) :
    serve engine ⟨committed, some events, faults⟩ (.statement op) =
      (.error rej, ⟨committed, none, faults.tail⟩) := by
  simp only [serve, reply, settle, record, calm, rejected, Bool.false_eq_true, if_false]

theorem serve_answered {op : Op} {answer : Ans op} (calm : faults.headD false = false)
    (executed : engine.execute (view engine committed events) op = .ok answer) :
    serve engine ⟨committed, some events, faults⟩ (.statement op) =
      (.ok answer, ⟨committed, some (events ++ [⟨op, answer⟩]), faults.tail⟩) := by
  simp only [serve, reply, settle, record, calm, executed, Bool.false_eq_true, if_false,
    Option.map_some]

theorem conduct_of_rehearse {done : Rehearsed Data Value}
    (rehearsed : rehearse engine program (view engine committed events) = some done)
    (calm : spared done.requests faults = true) :
    ∃ all, conduct engine ⟨committed, some events, faults⟩ program =
        (.ok done.value, ⟨committed, some all, faults.drop done.requests⟩) ∧
      view engine committed all = done.data := by
  induction program generalizing events faults done with
  | ret value =>
    cases rehearsed
    exact ⟨events, rfl, rfl⟩
  | fail failure => cases rehearsed
  | ask request next ih =>
    cases request with
    | commit => cases rehearsed
    | rollback => cases rehearsed
    | statement op =>
      cases executed : engine.execute (view engine committed events) op with
      | error rej => simp [rehearse, executed] at rehearsed
      | ok answer =>
        simp only [rehearse, executed, Option.map_eq_some_iff] at rehearsed
        obtain ⟨rest, onward, rfl⟩ := rehearsed
        rw [spared_succ, Bool.and_eq_true, Bool.not_eq_true'] at calm
        have grown : view engine committed (events ++ [⟨op, answer⟩]) =
            engine.change ⟨op, answer⟩ (view engine committed events) := by
          rw [view_append]
          rfl
        rw [← grown] at onward
        obtain ⟨all, ended, seen⟩ := ih _ onward calm.2
        refine ⟨all, ?_, seen⟩
        rw [conduct_ask, serve_answered calm.1 executed, ended, List.drop_tail]

theorem stops_of_strict (strict : Strict program)
    (unfinished : ∀ done, rehearse engine program (view engine committed events) = some done →
      spared done.requests faults = false) :
    Stops engine ⟨committed, some events, faults⟩ program := by
  induction program generalizing events faults with
  | ret value =>
    have hit := unfinished _ rfl
    simp [spared] at hit
  | fail failure => exact ⟨failure, _, rfl, rfl⟩
  | ask request next ih =>
    cases request with
    | commit => exact strict.elim
    | rollback => exact strict.elim
    | statement op =>
      cases calm : faults.headD false with
      | true => exact stops_of_serve (serve_fault calm) rfl (stops_of_blocked (strict.1 _))
      | false =>
        cases executed : engine.execute (view engine committed events) op with
        | error rej =>
          exact stops_of_serve (serve_rejected calm executed) rfl (stops_of_blocked (strict.1 _))
        | ok answer =>
          refine stops_of_serve (serve_answered calm executed) rfl
            (ih _ (strict.2 answer) fun done rehearsed => ?_)
          rw [view_append] at rehearsed
          have hit := unfinished { done with requests := done.requests + 1 } (by
            simp only [rehearse, executed, Option.map_eq_some_iff]
            exact ⟨done, rehearsed, rfl⟩)
          rw [spared_succ, calm] at hit
          exact hit

theorem Stops.bind (stops : Stops engine connection program)
    (rest : Value → Sql Op Ans Failure Result) :
    Stops engine connection (program >>= rest) := by
  obtain ⟨failure, after, ended, kept⟩ := stops
  refine ⟨failure, after, ?_, kept⟩
  rw [conduct_bind, ended]

theorem serve_commit (calm : faults.headD false = false) :
    serve engine ⟨committed, some events, faults⟩ .commit =
      (.ok (), ⟨view engine committed events, some [], faults.tail⟩) := by
  simp only [serve, reply, settle, record, calm, Bool.false_eq_true, if_false,
    Option.isSome_some, if_true, Option.getD_some]

theorem serve_commit_fault (hit : faults.headD false = true) :
    serve engine ⟨committed, some events, faults⟩ .commit =
      (.error .fault, ⟨committed, none, faults.tail⟩) := by
  simp only [serve, reply, settle, record, hit, if_true]

theorem conduct_commit {rest : Unit → Sql Op Ans Failure Result}
    (calm : faults.headD false = false) :
    conduct engine ⟨committed, some events, faults⟩ (commit >>= rest) =
      conduct engine (connect (view engine committed events) faults.tail) (rest ()) := by
  change conduct engine _ (.ask .commit fun answer => passed answer >>= rest) = _
  rw [conduct_ask, serve_commit calm]
  rfl

theorem stops_commit {rest : Unit → Sql Op Ans Failure Result} (hit : faults.headD false = true) :
    Stops engine ⟨committed, some events, faults⟩ (commit >>= rest) := by
  exact stops_of_serve (serve_commit_fault hit) rfl ⟨.database .fault, _, rfl, rfl⟩

theorem conduct_commit_cases (strict : Strict program) (rest : Value → Sql Op Ans Failure Result)
    (data : Data) (faults : List Bool) :
    (∃ done, rehearse engine program data = some done ∧ spared (done.requests + 1) faults = true ∧
        conduct engine (connect data faults) (program >>= fun value => commit >>= fun _ =>
            rest value) =
          conduct engine (connect done.data (faults.drop (done.requests + 1))) (rest done.value)) ∨
      ((∀ done, rehearse engine program data = some done →
          spared (done.requests + 1) faults = false) ∧
        Stops engine (connect data faults) (program >>= fun value => commit >>= fun _ =>
            rest value)) := by
  by_cases completes : ∃ done, rehearse engine program data = some done ∧
      spared done.requests faults = true
  · obtain ⟨done, rehearsed, calm⟩ := completes
    have seen : rehearse engine program (view engine data []) = some done := rehearsed
    obtain ⟨all, ended, shown⟩ := conduct_of_rehearse seen calm
    have reached : conduct engine (connect data faults) (program >>= fun value =>
        commit >>= fun _ => rest value) = conduct engine ⟨data, some all, faults.drop done.requests⟩
            (commit >>= fun _ => rest done.value) := by
      rw [conduct_bind, connect, ended]
    have next : spared (done.requests + 1) faults =
        !(faults.drop done.requests).headD false := by
      rw [spared_add, calm, spared_succ]
      simp [spared]
    cases hit : (faults.drop done.requests).headD false with
    | false =>
      refine .inl ⟨done, rehearsed, by rw [next, hit]; rfl, ?_⟩
      rw [reached, conduct_commit hit, shown, List.tail_drop]
    | true =>
      refine .inr ⟨fun other same => ?_, ?_⟩
      · cases rehearsed.symm.trans same
        rw [next, hit]
        rfl
      · obtain ⟨failure, after, stopped, kept⟩ : Stops engine
            ⟨data, some all, faults.drop done.requests⟩
            (commit >>= fun _ => rest done.value) := stops_commit hit
        exact ⟨failure, after, reached.trans stopped, kept⟩
  · have unfinished : ∀ done, rehearse engine program data = some done →
        spared done.requests faults = false := fun done rehearsed =>
      eq_false_of_ne_true fun calm => completes ⟨done, rehearsed, calm⟩
    refine .inr ⟨fun done rehearsed => ?_, (stops_of_strict strict unfinished).bind _⟩
    rw [spared_add, unfinished done rehearsed, Bool.false_and]

/-! ### Programs that return -/

/-- An open transaction that shows the data. -/
def Shows (engine : Engine Data Op Ans) (connection : Connection Data Op Ans)
    (committed data : Data) : Prop :=
  ∃ events faults, connection = ⟨committed, some events, faults⟩ ∧
    view engine committed events = data

theorem Shows.committed_eq {data : Data} (shows : Shows engine connection committed data) :
    connection.committed = committed := by
  obtain ⟨events, faults, rfl, -⟩ := shows
  rfl

theorem returned_bind {result : Result}
    (ret : conduct engine connection (program >>= rest) = (.ok result, after)) :
    ∃ value middle, conduct engine connection program = (.ok value, middle) ∧
      conduct engine middle (rest value) = (.ok result, after) := by
  rw [conduct_bind] at ret
  rcases ended : conduct engine connection program with ⟨outcome, middle⟩
  rw [ended] at ret
  cases outcome with
  | error failure => cases ret
  | ok value => exact ⟨value, middle, rfl, ret⟩

theorem returned_strict {data : Data} (shows : Shows engine connection committed data)
    (strict : Strict program) {value : Value}
    (ret : conduct engine connection program = (.ok value, after)) :
    ∃ done, rehearse engine program data = some done ∧ done.value = value ∧
      Shows engine after committed done.data := by
  obtain ⟨events, faults, rfl, rfl⟩ := shows
  by_cases completes : ∃ done, rehearse engine program (view engine committed events) =
      some done ∧ spared done.requests faults = true
  · obtain ⟨done, rehearsed, calm⟩ := completes
    obtain ⟨all, ended, shown⟩ := conduct_of_rehearse rehearsed calm
    cases ended.symm.trans ret
    exact ⟨done, rehearsed, rfl, all, _, rfl, shown⟩
  · obtain ⟨failure, last, stopped, -⟩ : Stops engine ⟨committed, some events, faults⟩ program :=
      stops_of_strict strict fun done rehearsed =>
        eq_false_of_ne_true fun calm => completes ⟨done, rehearsed, calm⟩
    cases stopped.symm.trans ret

theorem returned_commit {data : Data} (shows : Shows engine connection committed data)
    (ret : conduct engine connection (commit : Sql Op Ans Failure Unit) = (.ok (), after)) :
    Shows engine after data data := by
  obtain ⟨events, faults, rfl, rfl⟩ := shows
  rw [commit, conduct_ask] at ret
  cases hit : faults.headD false with
  | true =>
    rw [serve_commit_fault hit] at ret
    cases ret
  | false =>
    rw [serve_commit hit] at ret
    cases ret
    exact ⟨[], faults.tail, rfl, rfl⟩

/-! ## Rules -/

theorem strict_pure (value : Value) : Strict (pure value : Sql Op Ans Failure Value) := trivial

theorem strict_refuse (failure : Failure) : Strict (refuse failure : Sql Op Ans Failure Value) :=
  trivial

theorem strict_query (op : Op) : Strict (query op : Sql Op Ans Failure (Ans op)) :=
  ⟨fun _ => trivial, fun _ => trivial⟩

theorem Blocked.bind (blocked : Blocked program) (rest : Value → Sql Op Ans Failure Result) :
    Blocked (program >>= rest) := by
  induction program with
  | ret value => exact blocked.elim
  | fail failure => trivial
  | ask request next ih =>
    cases request with
    | statement op => exact fun rej => ih _ (blocked rej)
    | commit => exact fun rej => ih _ (blocked rej)
    | rollback => exact blocked.elim

theorem Strict.bind (strict : Strict program) (onward : ∀ value, Strict (rest value)) :
    Strict (program >>= rest) := by
  induction program with
  | ret value => exact onward value
  | fail failure => trivial
  | ask request next ih =>
    cases request with
    | statement op =>
      exact ⟨fun rej => (strict.1 rej).bind rest,
        fun answer => ih _ (strict.2 answer)⟩
    | commit => exact strict.elim
    | rollback => exact strict.elim

theorem rehearse_bind (program : Sql Op Ans Failure Value)
    (rest : Value → Sql Op Ans Failure Result) (data : Data) :
    rehearse engine (program >>= rest) data =
      (rehearse engine program data).bind fun first =>
        (rehearse engine (rest first.value) first.data).map fun second =>
          { second with requests := first.requests + second.requests } := by
  induction program generalizing data with
  | ret value =>
    change rehearse engine (rest value) data = _
    simp [rehearse]
  | fail failure => rfl
  | ask request next ih =>
    cases request with
    | commit => rfl
    | rollback => rfl
    | statement op =>
      change rehearse engine (.ask (.statement op) fun answer => next answer >>= rest) data = _
      simp only [rehearse]
      cases engine.execute data op with
      | error rej => rfl
      | ok answer =>
        simp only [ih]
        cases rehearse engine (next (.ok answer)) (engine.change ⟨op, answer⟩ data) with
        | none => rfl
        | some first =>
          simp only [Option.bind_some, Option.map_map]
          refine congrArg (fun change => Option.map change _) (funext fun second => ?_)
          simp only [Function.comp_apply, Rehearsed.mk.injEq, true_and]
          omega

theorem rehearse_query (op : Op) (data : Data) :
    rehearse engine (query op : Sql Op Ans Failure (Ans op)) data =
      (engine.execute data op).toOption.map fun answer =>
        ⟨answer, engine.change ⟨op, answer⟩ data, 1⟩ := by
  simp only [query, rehearse]
  cases engine.execute data op with
  | error rej => rfl
  | ok answer => rfl

theorem rehearse_query_effect (effect : Data → (op : Op) → Except Rejection (Ans op × Data))
    (op : Op) (data : Data) :
    rehearse (Engine.ofEffect effect) (query op : Sql Op Ans Failure (Ans op)) data =
      (effect data op).toOption.map fun done => ⟨done.1, done.2, 1⟩ := by
  rw [rehearse_query]
  simp only [Engine.ofEffect]
  cases effect data op with
  | error rej => rfl
  | ok done => rfl

/-! ### Handlers of exceptions -/

/-- The program fails on a rejected statement only. -/
def Loyal : Sql Op Ans Failure Value → Prop
  | .ret _ => True
  | .fail _ => False
  | .ask (.statement _) next => ∀ answer, Loyal (next (.ok answer))
  | .ask .commit _ => True
  | .ask .rollback _ => True

theorem loyal_query (op : Op) : Loyal (query op : Sql Op Ans Failure (Ans op)) :=
  fun _ => trivial

theorem Loyal.bind (loyal : Loyal program) (onward : ∀ value, Loyal (rest value)) :
    Loyal (program >>= rest) := by
  induction program with
  | ret value => exact onward value
  | fail failure => exact loyal.elim
  | ask request next ih =>
    cases request with
    | statement op => exact fun answer => ih _ (loyal answer)
    | commit => trivial
    | rollback => trivial

/-- A handler of database errors has no part in a rehearsal. -/
theorem rehearse_recover (loyal : Loyal program)
    (handler : Raised Failure → Sql Op Ans Failure Value) (data : Data) :
    rehearse engine (program.recover handler) data = rehearse engine program data := by
  induction program generalizing data with
  | ret value => rfl
  | fail failure => exact loyal.elim
  | ask request next ih =>
    cases request with
    | commit => rfl
    | rollback => rfl
    | statement op =>
      simp only [Prog.recover, rehearse]
      cases engine.execute data op with
      | error rej => rfl
      | ok answer => simp only [ih _ (loyal answer)]

theorem Blocked.recover_bind (blocked : Blocked program)
    {handler : Raised Failure → Sql Op Ans Failure Value}
    (handled : ∀ raised, Blocked (handler raised >>= rest)) :
    Blocked (program.recover handler >>= rest) := by
  induction program with
  | ret value => exact blocked.elim
  | fail failure => exact handled failure
  | ask request next ih =>
    cases request with
    | statement op => exact fun rej => ih _ (blocked rej)
    | commit => exact fun rej => ih _ (blocked rej)
    | rollback => exact blocked.elim

/-- A handler may swallow an error if what follows meets the aborted transaction. -/
theorem Strict.recover_bind (strict : Strict program) (loyal : Loyal program)
    {handler : Raised Failure → Sql Op Ans Failure Value}
    (handled : ∀ raised, Blocked (handler raised >>= rest))
    (onward : ∀ value, Strict (rest value)) :
    Strict (program.recover handler >>= rest) := by
  induction program with
  | ret value => exact onward value
  | fail failure => exact loyal.elim
  | ask request next ih =>
    cases request with
    | statement op =>
      exact ⟨fun rej => (strict.1 rej).recover_bind handled,
        fun answer => ih _ (strict.2 answer) (loyal answer)⟩
    | commit => exact strict.elim
    | rollback => exact strict.elim

end Portcullis.Lib.Session
