import Portcullis.Gateway.SessionRace

/-!
# Claiming session ids

`SessionStore.claim_or_validate` of `app/gateway/session.py`: a `SET NX`, and for an id
that is taken a lookup.  Any number of calls are interleaved at these two steps while
records expire or are deleted at any time and Redis fails.  From the creation of a record
to its end one owner is told that the session is theirs.
-/

namespace Portcullis.Gateway.SessionClaim

open Gateway.Mediation Gateway.Session Gateway.SessionRace Gateway.SessionText Lib List

/-! ## Calls -/

inductive ClaimOp where
  | setNx (key value : String) (seconds : Nat)
  | lookup (sessionId : String)

abbrev ClaimAns : ClaimOp → Type
  | .setNx _ _ _ => Except Exn Bool
  | .lookup _ => Except Exit (Option SessionRecord)

structure Claim where
  sessionId : String
  owner : Owner

abbrev ClaimProgram := Prog ClaimOp ClaimAns Exit

def ask (op : ClaimOp) : ClaimProgram (ClaimAns op) := Prog.request op

def verdict (claim : Claim) : Except Exit (Option SessionRecord) → ClaimProgram Bool
  | .error exit => .fail exit
  | .ok existing =>
    pure (matchesOwner existing claim.owner.tenantId claim.owner.subjectId claim.owner.serverSlug)

def validate (claim : Claim) : ClaimProgram Bool := do
  let existing ← ask (.lookup claim.sessionId)
  verdict claim existing

/-- What follows the `SET NX`.  Any exception of Redis is an answer of `False`. -/
def settle (claim : Claim) : Except Exn Bool → ClaimProgram Bool
  | .error _ => pure false
  | .ok true => pure true
  | .ok false => validate claim

/-- `claim_or_validate`. -/
def claimOrValidate (claim : Claim) : ClaimProgram Bool :=
  if !isValidSessionId claim.sessionId then pure false
  else do
    let claimed ← ask (.setNx (sessionKey claim.sessionId) claim.owner.text sessionTtlSeconds)
    settle claim claimed

/-! ## Steps -/

/-- How Redis replies to the commands of a step: to `SET NX`, and in a lookup to `GET` and
to `EXPIRE`. -/
structure ClaimChoice where
  setNx : Reply
  get : Choice
  refresh : Choice

def serveLookup (choice : ClaimChoice) (store : Store) (op : Op) : Ans op × Store :=
  match op with
  | .redisGet key => serve choice.get store (.redisGet key)
  | op => serve choice.refresh store op

def serveClaim (platform : Platform) (choice : ClaimChoice) (store : Store) :
    (op : ClaimOp) → ClaimAns op × Store
  | .setNx key value _ =>
    (choice.setNx.answer (decide (store key = none)),
      if choice.setNx.executed ∧ store key = none then Function.update store key (some value)
      else store)
  | .lookup sessionId =>
    let looked := Prog.drive (serveLookup choice) store (lookup platform sessionId)
    (looked.outcome, looked.final)

/-- A record may expire or be deleted at any time. -/
def claimRules (platform : Platform) : PoolRules Store ClaimOp ClaimAns ClaimChoice String where
  serve := serveClaim platform
  drift := expire

abbrev ClaimWorld := Pool Store ClaimOp ClaimAns Exit Bool

def startClaims (store : Store) (claims : Nat → Claim) : ClaimWorld where
  shared := store
  programs thread := claimOrValidate (claims thread)
  histories _ := []

/-! ## Lookups -/

section Lookup

variable {platform : Platform} {choice : ClaimChoice} {store : Store} {sessionId : String}

theorem drive_lookup_found :
    (Prog.drive (serveLookup choice) store (lookup platform sessionId)).final = store ∧
      ∀ record, (Prog.drive (serveLookup choice) store (lookup platform sessionId)).outcome =
          .ok (some record) →
        ∃ raw, store (sessionKey sessionId) = some raw ∧
          readRecord platform raw = .ok (some record) := by
  unfold Session.lookup
  cases got : choice.get.reply with
  | refused exn =>
    simp [Prog.drive, request, Prog.request, bind, Prog.bind, serveLookup, serve, Reply.answer,
      got, pure]
  | lost exn =>
    simp [Prog.drive, request, Prog.request, bind, Prog.bind, serveLookup, serve, Reply.answer,
      got, pure]
  | served =>
    cases held : store (sessionKey sessionId) with
    | none =>
      simp [Prog.drive, request, Prog.request, bind, Prog.bind, serveLookup, serve,
        Reply.answer, got, held, pure]
    | some raw =>
      cases parsed : (Json.parseText platform.jsonLimits raw.toList).map (Json.resolve .last) with
      | error failure =>
        cases failure <;>
          simp [Prog.drive, request, Prog.request, bind, Prog.bind, serveLookup, serve,
            Reply.answer, got, held, parsed, pure, raise]
      | ok payload =>
        cases refreshed : choice.refresh.reply <;>
          simp [Prog.drive, request, Prog.request, bind, Prog.bind, serveLookup, serve,
            Reply.answer, got, held, parsed, refreshed, orRaise, pure, raise, readRecord]

theorem drive_lookup_owner {owner : Owner} (decodes : 0 < platform.jsonLimits.depth)
    (recorded : store (sessionKey sessionId) = some owner.text)
    (got : choice.get.reply = .served) (refreshed : choice.refresh.reply = .served) :
    (Prog.drive (serveLookup choice) store (lookup platform sessionId)).outcome =
      .ok (some owner.record) := by
  have parsed := parse_payloadText owner.tenantId owner.subjectId owner.serverSlug
    platform.jsonLimits
  rw [if_neg (Nat.pos_iff_ne_zero.mp decodes)] at parsed
  unfold Session.lookup
  simp only [Prog.drive, request, Prog.request, bind, Prog.bind, serveLookup, serve, Reply.answer,
    got, recorded, Owner.text, parsed, refreshed, Except.map]
  rfl

end Lookup

/-! ## Stages of a call -/

inductive Stage (claim : Claim) : ClaimProgram Bool → Prop where
  | entering (valid : isValidSessionId claim.sessionId = true) : Stage claim (claimOrValidate claim)
  | validating (valid : isValidSessionId claim.sessionId = true) : Stage claim (validate claim)
  | returned (answer : Bool) : Stage claim (.ret answer)
  | raised (exit : Exit) : Stage claim (.fail exit)

/-- What a turn of a call can do to it and to the store. -/
inductive Moved (platform : Platform) (claim : Claim) (choice : ClaimChoice) (store : Store) :
    ClaimProgram Bool → ClaimProgram Bool × Store → Prop where
  | failed {after : Store} (unserved : choice.setNx ≠ .served)
      (kept : after = store ∨ store (sessionKey claim.sessionId) = none ∧
        after = Function.update store (sessionKey claim.sessionId) (some claim.owner.text)) :
      Moved platform claim choice store (claimOrValidate claim) (.ret false, after)
  | claimed (absent : store (sessionKey claim.sessionId) = none) :
      Moved platform claim choice store (claimOrValidate claim)
        (.ret true, Function.update store (sessionKey claim.sessionId) (some claim.owner.text))
  | taken (valid : isValidSessionId claim.sessionId = true)
      (present : store (sessionKey claim.sessionId) ≠ none) :
      Moved platform claim choice store (claimOrValidate claim) (validate claim, store)
  | validated {existing : Option SessionRecord} (found : (Prog.drive (serveLookup choice) store
        (lookup platform claim.sessionId)).outcome = .ok existing) :
      Moved platform claim choice store (validate claim)
        (.ret (matchesOwner existing claim.owner.tenantId claim.owner.subjectId
          claim.owner.serverSlug), store)
  | broken {exit : Exit} (failed : (Prog.drive (serveLookup choice) store
        (lookup platform claim.sessionId)).outcome = .error exit) :
      Moved platform claim choice store (validate claim) (.fail exit, store)
  | returned (answer : Bool) : Moved platform claim choice store (.ret answer) (.ret answer, store)
  | raised (exit : Exit) : Moved platform claim choice store (.fail exit) (.fail exit, store)

section Stages

variable {platform : Platform} {claim : Claim} {program : ClaimProgram Bool}

theorem stage_start (claim : Claim) : Stage claim (claimOrValidate claim) := by
  cases valid : isValidSessionId claim.sessionId with
  | true => exact .entering valid
  | false =>
    have refused : claimOrValidate claim = .ret false := by
      unfold claimOrValidate
      rw [valid]
      rfl
    rw [refused]
    exact .returned false

theorem advance_entering (valid : isValidSessionId claim.sessionId = true)
    (choice : ClaimChoice) (store : Store) :
    Pool.advance (claimRules platform) choice store (claimOrValidate claim) =
      (settle claim (choice.setNx.answer (decide (store (sessionKey claim.sessionId) = none))),
        if choice.setNx.executed ∧ store (sessionKey claim.sessionId) = none then
          Function.update store (sessionKey claim.sessionId) (some claim.owner.text)
        else store) := by
  unfold claimOrValidate
  rw [valid]
  rfl

theorem advance_validating (choice : ClaimChoice) (store : Store) :
    Pool.advance (claimRules platform) choice store (validate claim) = (verdict claim
        (Prog.drive (serveLookup choice) store (lookup platform claim.sessionId)).outcome,
        store) :=
  Prod.ext rfl drive_lookup_found.1

theorem moved (stage : Stage claim program) (choice : ClaimChoice) (store : Store) :
    Moved platform claim choice store program
      (Pool.advance (claimRules platform) choice store program) := by
  cases stage with
  | entering valid =>
    rw [advance_entering valid]
    by_cases absent : store (sessionKey claim.sessionId) = none
    · cases replied : choice.setNx with
      | served =>
        simp only [absent]
        exact .claimed absent
      | refused exn =>
        exact .failed (by rw [replied]; nofun) (.inl rfl)
      | lost exn =>
        simp only [absent]
        exact .failed (by rw [replied]; nofun) (.inr ⟨absent, rfl⟩)
    · rw [if_neg fun written => absent written.2]
      cases replied : choice.setNx with
      | served =>
        rw [decide_eq_false absent]
        exact .taken valid absent
      | refused exn => exact .failed (by rw [replied]; nofun) (.inl rfl)
      | lost exn => exact .failed (by rw [replied]; nofun) (.inl rfl)
  | validating valid =>
    rw [advance_validating]
    cases looked : (Prog.drive (serveLookup choice) store
        (lookup platform claim.sessionId)).outcome with
    | error exit => exact .broken looked
    | ok old => exact .validated looked
  | returned answer => exact .returned answer
  | raised exit => exact .raised exit

variable {after : ClaimProgram Bool × Store} {choice : ClaimChoice} {store : Store}

theorem Moved.stage (moves : Moved platform claim choice store program after) :
    Stage claim after.1 := by
  cases moves with
  | failed _ _ => exact .returned false
  | claimed _ => exact .returned true
  | taken valid _ => exact .validating valid
  | validated _ => exact .returned _
  | broken _ => exact .raised _
  | returned answer => exact .returned answer
  | raised exit => exact .raised exit

theorem Moved.keeps (moves : Moved platform claim choice store program after) {key text : String}
    (held : store key = some text) : after.2 key = some text := by
  have absentElsewhere : store (sessionKey claim.sessionId) = none →
      Function.update store (sessionKey claim.sessionId) (some claim.owner.text) key =
        some text := by
    intro absent
    have other : key ≠ sessionKey claim.sessionId := by
      intro same
      rw [same, absent] at held
      cases held
    rw [Function.update_of_ne other, held]
  cases moves with
  | failed _ kept =>
    rcases kept with rfl | ⟨absent, rfl⟩
    · exact held
    · exact absentElsewhere absent
  | claimed absent => exact absentElsewhere absent
  | _ => exact held

theorem Moved.creates (moves : Moved platform claim choice store program after) {sessionId : String}
    (absent : store (sessionKey sessionId) = none)
    (created : after.2 (sessionKey sessionId) ≠ none) :
    claim.sessionId = sessionId ∧ after.2 (sessionKey sessionId) = some claim.owner.text ∧
      (choice.setNx = .served → after.1 = .ret true) := by
  have writes : Function.update store (sessionKey claim.sessionId) (some claim.owner.text)
      (sessionKey sessionId) ≠ none → claim.sessionId = sessionId := by
    intro written
    by_contra other
    rw [Function.update_of_ne fun same => other (sessionKey_injective _ _ same).symm] at written
    exact written absent
  cases moves with
  | failed unserved kept =>
    rcases kept with rfl | ⟨_, rfl⟩
    · exact absurd absent created
    · obtain rfl := writes created
      exact ⟨rfl, Function.update_self .., fun served => absurd served unserved⟩
  | claimed _ =>
    obtain rfl := writes created
    exact ⟨rfl, Function.update_self .., fun _ => rfl⟩
  | _ => exact absurd absent created

theorem Moved.wins (moves : Moved platform claim choice store program after) {owner : Owner}
    (held : store (sessionKey claim.sessionId) = some owner.text) (won : after.1 = .ret true) :
    program = .ret true ∨ claim.owner = owner := by
  cases moves with
  | failed _ _ => cases won
  | claimed absent =>
    rw [absent] at held
    cases held
  | taken _ _ => cases won
  | validated found =>
    rename_i old
    right
    have matched := Prog.ret.inj won
    cases old with
    | none => cases matched
    | some record =>
      obtain ⟨raw, stored, read⟩ := drive_lookup_found.2 record found
      obtain rfl : owner.text = raw := Option.some.inj (held.symm.trans stored)
      obtain rfl := Option.some.inj (readRecord_text platform owner _ read)
      simp only [matchesOwner, Bool.and_eq_true, decide_eq_true_eq] at matched
      apply Owner.record_injective
      simp only [Owner.record] at matched ⊢
      rw [matched.1.1, matched.1.2, matched.2]
  | broken _ => cases won
  | returned answer => exact .inl won
  | raised exit => cases won

end Stages

/-! ## Lives of records -/

def claimsAfter (platform : Platform) (store : Store) (claims : Nat → Claim)
    (turns : List (Turn ClaimChoice String)) : ClaimWorld :=
  (startClaims store claims).run (claimRules platform) turns

def Staged (claims : Nat → Claim) (world : ClaimWorld) : Prop :=
  ∀ thread, Stage (claims thread) (world.programs thread)

def Held (world : ClaimWorld) (sessionId : String) (owner : Owner) : Prop :=
  world.shared (sessionKey sessionId) = some owner.text

section Worlds

variable {platform : Platform} {claims : Nat → Claim} {world : ClaimWorld}

theorem Staged.moved (staged : Staged claims world) (mover : Nat) (choice : ClaimChoice) :
    Moved platform (claims mover) choice world.shared (world.programs mover)
      (Pool.advance (claimRules platform) choice world.shared (world.programs mover)) :=
  SessionClaim.moved (staged mover) choice world.shared

theorem Staged.step (staged : Staged claims world) (turn : Turn ClaimChoice String) :
    Staged claims (world.step (claimRules platform) turn) := by
  cases turn with
  | drift key => exact staged
  | move mover choice =>
    intro thread
    rw [(Pool.step_move (claimRules platform) world mover choice).2]
    by_cases same : thread = mover
    · subst same
      rw [Function.update_self]
      exact (staged.moved thread choice).stage
    · rw [Function.update_of_ne same]
      exact staged thread

theorem Staged.run (staged : Staged claims world) (turns : List (Turn ClaimChoice String)) :
    Staged claims (world.run (claimRules platform) turns) := by
  induction turns generalizing world with
  | nil => exact staged
  | cons turn rest ih => exact ih (staged.step turn)

theorem staged_start (store : Store) (claims : Nat → Claim) :
    Staged claims (startClaims store claims) :=
  fun thread => stage_start (claims thread)

variable {sessionId : String} {owner : Owner}

theorem Held.step (held : Held world sessionId owner) (staged : Staged claims world)
    {turn : Turn ClaimChoice String} (alive : turn ≠ .drift (sessionKey sessionId)) :
    Held (world.step (claimRules platform) turn) sessionId owner := by
  cases turn with
  | drift key =>
    have other : sessionKey sessionId ≠ key := fun same => alive (by rw [same])
    exact (Function.update_of_ne other none world.shared).trans held
  | move mover choice =>
    rw [Held, (Pool.step_move (claimRules platform) world mover choice).1]
    exact (staged.moved mover choice).keeps held

variable {thread : Nat} {program : ClaimProgram Bool}

theorem winner_step (held : Held world sessionId owner) (staged : Staged claims world)
    (turn : Turn ClaimChoice String) (onId : (claims thread).sessionId = sessionId)
    (won : (world.step (claimRules platform) turn).programs thread = .ret true) :
    world.programs thread = .ret true ∨ (claims thread).owner = owner := by
  cases turn with
  | drift key => exact .inl won
  | move mover choice =>
    rw [(Pool.step_move (claimRules platform) world mover choice).2] at won
    by_cases same : thread = mover
    · subst same
      rw [Function.update_self] at won
      rw [← onId] at held
      exact (staged.moved thread choice).wins held won
    · rw [Function.update_of_ne same] at won
      exact .inl won

/-- While the record lives it stays, and who is newly told `True` is its owner. -/
theorem winner_run (between : List (Turn ClaimChoice String)) (held : Held world sessionId owner)
    (staged : Staged claims world) (alive : .drift (sessionKey sessionId) ∉ between)
    (onId : (claims thread).sessionId = sessionId)
    (won : (world.run (claimRules platform) between).programs thread = .ret true) :
    world.programs thread = .ret true ∨ (claims thread).owner = owner := by
  induction between generalizing world with
  | nil => exact .inl won
  | cons turn rest ih =>
    have kept : Held (world.step (claimRules platform) turn) sessionId owner :=
      held.step staged fun same => alive (same ▸ mem_cons_self)
    rcases ih kept (staged.step turn) (fun later => alive (mem_cons_of_mem _ later)) won with
      prev | same
    · exact winner_step held staged turn onId prev
    · exact .inr same

/-! ## Calls of the owner -/

/-- Redis carries out every command of the step. -/
def Healthy (choice : ClaimChoice) : Prop :=
  choice.setNx = .served ∧ choice.get.reply = .served ∧ choice.refresh.reply = .served

def moves (thread : Nat) : Turn ClaimChoice String → Bool
  | .move mover _ => decide (mover = thread)
  | .drift _ => false

/-- How many steps a call is away from `True`. -/
inductive Due (claim : Claim) : Nat → ClaimProgram Bool → Prop where
  | entering (valid : isValidSessionId claim.sessionId = true) : Due claim 2 (claimOrValidate claim)
  | validating : Due claim 1 (validate claim)
  | won : Due claim 0 (.ret true)

theorem matchesOwner_record (owner : Owner) :
    matchesOwner (some owner.record) owner.tenantId owner.subjectId owner.serverSlug = true := by
  simp [matchesOwner, Owner.record]

theorem Due.advance {claim : Claim} {count : Nat} (due : Due claim count program)
    (decodes : 0 < platform.jsonLimits.depth) {choice : ClaimChoice} (healthy : Healthy choice)
    {store : Store} (held : store (sessionKey claim.sessionId) = some claim.owner.text) :
    Due claim (count - 1) (Pool.advance (claimRules platform) choice store program).1 := by
  cases due with
  | entering valid =>
    rw [advance_entering valid, held, healthy.1]
    exact .validating
  | validating =>
    rw [advance_validating, drive_lookup_owner decodes held healthy.2.1 healthy.2.2]
    change Due claim 0 (.ret (matchesOwner (some claim.owner.record) _ _ _))
    rw [matchesOwner_record]
    exact .won
  | won => exact .won

theorem Due.run (decodes : 0 < platform.jsonLimits.depth) {count : Nat}
    (between : List (Turn ClaimChoice String))
    (held : Held world (claims thread).sessionId (claims thread).owner)
    (staged : Staged claims world) (alive : .drift (sessionKey (claims thread).sessionId) ∉ between)
    (healthy : ∀ choice, .move thread choice ∈ between → Healthy choice)
    (due : Due (claims thread) count (world.programs thread)) :
    Due (claims thread) (count - between.countP (moves thread))
      ((world.run (claimRules platform) between).programs thread) := by
  induction between generalizing world count with
  | nil => exact due
  | cons turn rest ih =>
    have kept : Held (world.step (claimRules platform) turn) (claims thread).sessionId
        (claims thread).owner :=
      held.step staged fun same => alive (same ▸ mem_cons_self)
    have onward {left : Nat} (dueNext : Due (claims thread) left
        ((world.step (claimRules platform) turn).programs thread)) :=
      ih kept (staged.step turn) (fun later => alive (mem_cons_of_mem _ later))
        (fun choice later => healthy choice (mem_cons_of_mem _ later)) dueNext
    cases turn with
    | drift key => exact onward due
    | move mover choice =>
      have programs := (Pool.step_move (claimRules platform) world mover choice).2
      by_cases same : mover = thread
      · subst same
        have dueNext : Due (claims mover) (count - 1) (Pool.advance (claimRules platform) choice
            world.shared (world.programs mover)).1 :=
          due.advance decodes (healthy choice mem_cons_self) held
        rw [countP_cons_of_pos (by simp [moves]), Nat.add_comm, ← Nat.sub_sub]
        apply onward
        rw [programs, Function.update_self]
        exact dueNext
      · rw [countP_cons_of_neg (by simpa [moves] using same)]
        apply onward
        rw [programs, Function.update_of_ne (Ne.symm same)]
        exact due

theorem Stage.due {claim : Claim} (stage : Stage claim program)
    (pending : ∀ answer, program ≠ .ret answer) (unbroken : ∀ exit, program ≠ .fail exit) :
    ∃ count ≤ 2, Due claim count program := by
  cases stage with
  | entering valid => exact ⟨2, le_rfl, .entering valid⟩
  | validating _ => exact ⟨1, Nat.le_succ 1, .validating⟩
  | returned answer => exact absurd rfl (pending answer)
  | raised exit => exact absurd rfl (unbroken exit)

theorem Due.eq_won {claim : Claim} (due : Due claim 0 program) : program = .ret true := by
  generalize left : 0 = count at due
  cases due with
  | entering _ => cases left
  | validating => cases left
  | won => rfl

theorem created_step (staged : Staged claims world) {turn : Turn ClaimChoice String}
    (absent : world.shared (sessionKey sessionId) = none)
    (created : (world.step (claimRules platform) turn).shared (sessionKey sessionId) ≠ none) :
    ∃ creator choice, turn = .move creator choice ∧ (claims creator).sessionId = sessionId ∧
      Held (world.step (claimRules platform) turn) sessionId (claims creator).owner ∧
      (choice.setNx = .served →
        (world.step (claimRules platform) turn).programs creator = .ret true) ∧
      ∀ thread ≠ creator, (world.step (claimRules platform) turn).programs thread =
        world.programs thread := by
  cases turn with
  | drift key =>
    refine absurd ?_ created
    change expire key world.shared (sessionKey sessionId) = none
    by_cases same : sessionKey sessionId = key
    · rw [expire, same, Function.update_self]
    · rw [expire, Function.update_of_ne same, absent]
  | move mover choice =>
    obtain ⟨shared, programs⟩ := Pool.step_move (claimRules platform) world mover choice
    rw [shared] at created
    obtain ⟨onId, stored, ans⟩ := (staged.moved mover choice).creates absent created
    refine ⟨mover, choice, rfl, onId, by rw [Held, shared, stored], fun served => ?_, ?_⟩
    · rw [programs, Function.update_self, ans served]
    · intro thread other
      rw [programs, Function.update_of_ne other]

theorem pending_of_asking (pending : world.asking thread ≠ none) :
    (∀ answer, world.programs thread ≠ .ret answer) ∧
      ∀ exit, world.programs thread ≠ .fail exit := by
  constructor
  · intro answer ended
    exact pending (by rw [Pool.asking, ended])
  · intro exit ended
    exact pending (by rw [Pool.asking, ended])

end Worlds

def sampleClaims : Nat → Claim
  | 0 => ⟨"session-0001", sampleOwner "alice"⟩
  | 1 => ⟨"session-0001", sampleOwner "alice"⟩
  | _ => ⟨"session-0001", sampleOwner "bob"⟩

def healthyMove (thread : Nat) : Turn ClaimChoice String :=
  .move thread ⟨.served, callerChoice "", callerChoice ""⟩

def sampleClaimsAfter (turns : List (Turn ClaimChoice String)) : ClaimWorld :=
  claimsAfter (sampleContext "" []).platform (fun _ => none) sampleClaims turns

end Portcullis.Gateway.SessionClaim
