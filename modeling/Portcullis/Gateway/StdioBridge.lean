import Mathlib.Logic.Function.Basic
import Mathlib.Tactic.Common
import Portcullis.Lib.Transactions

/-!
# The stdio bridge

`send_request` and `_read_responses` of `app/gateway/stdio_bridge.py` around one
subprocess.  The calls of all clients share one dictionary of futures, keyed by the id the
client chose.  A turn is what one task does between two points at which it waits, a step of
the subprocess, or a timer that fires.

The timer of `wait_for` cancels the future (or marks the task, if the future is already
resolved) and the task removes its entry only when it runs again.
-/

namespace Portcullis.Gateway.StdioBridge

open Lib List

/-! ## Lines -/

/-- What `get("id")` gives: nothing or null, a list or an object, or a key of the
dictionary. -/
inductive Id (Key : Type) where
  | null
  | unhashable
  | key (value : Key)

inductive Message where
  | answer (call : Nat)
  | other
  deriving DecidableEq

/-- Text that does not parse, JSON that is no object, or an object with its id. -/
inductive Content (Key : Type) where
  | undecodable
  | scalar
  | object (id : Id Key) (message : Message)

structure Line (Key : Type) where
  size : Nat
  content : Content Key

def Line.message {Key : Type} (line : Line Key) : Message :=
  match line.content with
  | .object _ message => message
  | .undecodable => .other
  | .scalar => .other

/-- Lines that are no response: log text, notifications. -/
def Line.chatter {Key : Type} (line : Line Key) : Bool :=
  match line.content with
  | .object (.key _) _ => false
  | .object _ (.answer _) => false
  | _ => true

/-- The default limit of `StreamReader`: `readline` raises beyond it. -/
def streamLimit : Nat := 65536

/-- A call to `send_request` and the length of the line that answers it. -/
structure Call (Key : Type) where
  id : Id Key
  answerSize : Nat

/-! ## Turns -/

inductive Status where
  | idle
  | notified
  | failed
  | waiting
  | resolved (message : Message)
  | expired
  | returned (message : Message)
  | timedOut
  deriving DecidableEq

/-- `pending` is `_pending_responses`; `stdin` and `stdout` are the pipes; `held` the
requests the subprocess has read and not answered.  `answered` keeps the calls whose answer
was written. -/
structure Bridge (Key : Type) where
  pending : Key → Option Nat
  status : Nat → Status
  stdin : List Nat
  held : List Nat
  stdout : List (Line Key)
  answered : List Nat
  reading : Bool

def started {Key : Type} : Bridge Key :=
  { pending := fun _ => none, status := fun _ => .idle, stdin := [], held := [], stdout := [],
    answered := [], reading := true }

inductive Turn (Key : Type) where
  | send (call : Nat)
  | accept
  | answer (call : Nat)
  | chat (line : Line Key)
  | read
  | expire (call : Nat)
  | resume (call : Nat)

section Steps

variable {Key : Type} [DecidableEq Key]

variable (calls : Nat → Call Key) (bridge : Bridge Key)

def Bridge.mark (call : Nat) (status : Status) : Bridge Key :=
  { bridge with status := Function.update bridge.status call status }

def Bridge.pop (key : Key) : Bridge Key :=
  { bridge with pending := Function.update bridge.pending key none }

def sendRequest (call : Nat) : Bridge Key :=
  match (calls call).id with
  | .null => { bridge.mark call .notified with stdin := bridge.stdin ++ [call] }
  -- the assignment to the dictionary raises before the line is written
  | .unhashable => bridge.mark call .failed
  | .key key =>
    { bridge.mark call .waiting with
      pending := Function.update bridge.pending key (some call)
      stdin := bridge.stdin ++ [call] }

def answerLine (call : Nat) : Line Key :=
  { size := (calls call).answerSize, content := .object (calls call).id (.answer call) }

def setResult (call : Nat) (message : Message) : Bridge Key :=
  if bridge.status call = .waiting then bridge.mark call (.resolved message)
  -- `set_result` on a cancelled future raises, which ends the reader
  else { bridge with reading := false }

def readResponse (line : Line Key) : Bridge Key :=
  if streamLimit < line.size then { bridge with reading := false }
  else
    match line.content with
    | .undecodable => bridge
    | .scalar => { bridge with reading := false }
    | .object .null _ => bridge
    | .object .unhashable _ => { bridge with reading := false }
    | .object (.key key) message =>
      match bridge.pending key with
      | none => bridge
      | some call => setResult (bridge.pop key) call message

/-- The task of a call runs again. -/
def resumed (call : Nat) : Bridge Key :=
  match bridge.status call with
  | .resolved message => bridge.mark call (.returned message)
  | .expired =>
    match (calls call).id with
    | .key key => (bridge.pop key).mark call .timedOut
    | .null => bridge
    | .unhashable => bridge
  | _ => bridge

/-- The timer of a call still runs. -/
def Bridge.open (call : Nat) : Bool :=
  match bridge.status call with
  | .waiting => true
  | .resolved _ => true
  | _ => false

/-- A turn that is not possible changes nothing. -/
def step (calls : Nat → Call Key) (bridge : Bridge Key) : Turn Key → Bridge Key
  | .send call => if bridge.status call = .idle then sendRequest calls bridge call else bridge
  | .accept =>
    match bridge.stdin with
    | [] => bridge
    | call :: rest => { bridge with stdin := rest, held := call :: bridge.held }
  | .answer call =>
    if call ∈ bridge.held then
      { bridge with
        held := bridge.held.erase call
        stdout := bridge.stdout ++ [answerLine calls call]
        answered := call :: bridge.answered }
    else bridge
  | .chat line =>
    if line.chatter then { bridge with stdout := bridge.stdout ++ [line] } else bridge
  | .read =>
    match bridge.reading, bridge.stdout with
    | true, line :: rest => readResponse { bridge with stdout := rest } line
    | _, _ => bridge
  | .expire call => if bridge.open call then bridge.mark call .expired else bridge
  | .resume call => resumed calls bridge call

def perform (turn : Turn Key) : Except Empty (Bridge Key) :=
  .ok (step calls bridge turn)

def run (turns : List (Turn Key)) : Bridge Key :=
  Transactions.run (perform calls) started turns

/-! ## What clients rely on -/

/-- Calls that return a response return the answer to their own request. -/
def OwnAnswers (bridge : Bridge Key) : Prop :=
  ∀ call message, bridge.status call = .returned message → message = .answer call

/-- No timer of a call fires after its answer was written. -/
def Timely (turn : Turn Key) : Prop :=
  match turn with
  | .expire call => bridge.open call = true → call ∉ bridge.answered
  | _ => True

def Correct (turns : List (Turn Key)) : Prop :=
  OwnAnswers (run calls turns) ∧ Transactions.Along (perform calls) Timely started turns

/-- The bridge keeps up: no timer fires while the answer to its call is still in the pipe, or
has been handed to the call and the call has not run since. -/
def KeepsUp (turn : Turn Key) : Prop :=
  match turn with
  | .expire call => bridge.open call = true → bridge.status call = .waiting ∧
        ∀ line ∈ bridge.stdout, line.message ≠ .answer call
  | _ => True

def Prompt (turns : List (Turn Key)) : Prop :=
  Transactions.Along (perform calls) KeepsUp started turns

def Distinct (calls : Nat → Call Key) : Prop :=
  ∀ first second key, (calls first).id = .key key → (calls second).id = .key key → first = second

def AnswersFit (calls : Nat → Call Key) : Prop :=
  ∀ call key, (calls call).id = .key key → (calls call).answerSize ≤ streamLimit

/-! ## Unique ids -/

/-- With distinct ids an entry of the dictionary and its call belong together, and an answer
that was written is in the pipe until its call has it. -/
structure Routed (bridge : Bridge Key) : Prop where
  registered : ∀ key call, bridge.pending key = some call →
    (calls call).id = .key key ∧ (bridge.status call = .waiting ∨ bridge.status call = .expired)
  awaited : ∀ call, bridge.status call = .waiting →
    ∃ key, (calls call).id = .key key ∧ bridge.pending key = some call
  resolved : ∀ call message, bridge.status call = .resolved message →
    message = .answer call ∧ call ∈ bridge.answered
  returned : OwnAnswers bridge
  begun : ∀ call, call ∈ bridge.stdin ∨ call ∈ bridge.held ∨ call ∈ bridge.answered →
    bridge.status call ≠ .idle
  lines : ∀ line ∈ bridge.stdout,
    line.chatter = true ∨ ∃ call ∈ bridge.answered, line = answerLine calls call
  unread : ∀ call ∈ bridge.answered, bridge.status call = .waiting →
    answerLine calls call ∈ bridge.stdout

section Routing

variable {calls : Nat → Call Key} {bridge : Bridge Key}

omit [DecidableEq Key] in
theorem routed_started : Routed calls (started : Bridge Key) where
  registered _ _ found := nomatch found
  awaited _ waiting := nomatch waiting
  resolved _ _ done := nomatch done
  returned _ _ done := nomatch done
  begun _ found := by simp [started] at found
  lines _ found := absurd found not_mem_nil
  unread _ found := absurd found not_mem_nil

/-- A status a call may take over from `bridge`. -/
structure Ends (bridge : Bridge Key) (call : Nat) (status : Status) : Prop where
  begun : status ≠ .idle
  settled : status ≠ .waiting
  own : ∀ message, status = .resolved message ∨ status = .returned message →
    message = .answer call ∧ call ∈ bridge.answered

variable {call : Nat} {line : Line Key} {rest : List (Line Key)}

omit [DecidableEq Key] in
theorem Routed.mark (routed : Routed calls bridge) {status : Status}
    (ends : Ends bridge call status)
    (entry : status = .expired ∨ ∀ key, bridge.pending key ≠ some call) :
    Routed calls (bridge.mark call status) := by
  obtain ⟨registered, awaited, resolved, ret, begun, lines, unread⟩ := routed
  obtain ⟨started, settled, own⟩ := ends
  constructor <;> simp only [Bridge.mark, OwnAnswers, Function.update_apply] <;> grind [OwnAnswers]

theorem Routed.settle (routed : Routed calls bridge) (distinct : Distinct calls) {key : Key}
    (identified : (calls call).id = .key key) {status : Status} (ends : Ends bridge call status) :
    Routed calls ((bridge.pop key).mark call status) := by
  obtain ⟨registered, awaited, resolved, ret, begun, lines, unread⟩ := routed
  obtain ⟨started, settled, own⟩ := ends
  have owned : ∀ other, bridge.pending key = some other → other = call := fun other found =>
    distinct other call key (registered key other found).1 identified
  constructor <;> simp only [Bridge.mark, Bridge.pop] <;>
    grind [OwnAnswers]

omit [DecidableEq Key] in
theorem Routed.absent (routed : Routed calls bridge) (settled : bridge.status call ≠ .waiting)
    (live : bridge.status call ≠ .expired) (key : Key) :
    bridge.pending key ≠ some call := by
  intro found
  exact (routed.registered key call found).2.elim settled live

theorem Routed.register (routed : Routed calls bridge) (distinct : Distinct calls) {key : Key}
    (identified : (calls call).id = .key key) (idle : bridge.status call = .idle) :
    Routed calls { bridge.mark call .waiting with
      pending := Function.update bridge.pending key (some call) } := by
  obtain ⟨registered, awaited, resolved, ret, begun, lines, unread⟩ := routed
  have owned : ∀ other, (calls other).id = .key key → other = call := fun other same =>
    distinct other call key same identified
  constructor <;> simp only [Bridge.mark] <;> grind [OwnAnswers]

omit [DecidableEq Key] in
theorem Routed.write (routed : Routed calls bridge) (begun : bridge.status call ≠ .idle) :
    Routed calls { bridge with stdin := bridge.stdin ++ [call] } :=
  { routed with
    begun := by
      intro other found
      simp only [mem_append, mem_singleton] at found
      rcases found with (queued | rfl) | later
      · exact routed.begun other (.inl queued)
      · exact begun
      · exact routed.begun other (.inr later) }

theorem Routed.send (routed : Routed calls bridge) (distinct : Distinct calls)
    (idle : bridge.status call = .idle) : Routed calls (sendRequest calls bridge call) := by
  have absent : ∀ key, bridge.pending key ≠ some call :=
    routed.absent (by simp [idle]) (by simp [idle])
  unfold sendRequest
  cases identified : (calls call).id with
  | null =>
    have marked : Routed calls (bridge.mark call .notified) :=
      routed.mark ⟨by nofun, by nofun, by nofun⟩ (.inr absent)
    exact marked.write (by simp [Bridge.mark])
  | unhashable => exact routed.mark ⟨by nofun, by nofun, by nofun⟩ (.inr absent)
  | key key => exact (routed.register distinct identified idle).write (by simp [Bridge.mark])

omit [DecidableEq Key] in
theorem Routed.accept (routed : Routed calls bridge) {rest : List Nat}
    (next : bridge.stdin = call :: rest) :
    Routed calls { bridge with stdin := rest, held := call :: bridge.held } :=
  { routed with
    begun := by
      intro other found
      refine routed.begun other ?_
      simp only [next, mem_cons] at found ⊢
      tauto }

omit [DecidableEq Key] in
theorem Routed.answer (routed : Routed calls bridge) (held : call ∈ bridge.held) :
    Routed calls { bridge with
      held := bridge.held.erase call
      stdout := bridge.stdout ++ [answerLine calls call]
      answered := call :: bridge.answered } := by
  obtain ⟨registered, awaited, resolved, ret, begun, lines, unread⟩ := routed
  refine ⟨registered, awaited, ?_, ret, ?_, ?_, ?_⟩
  · intro other message done
    exact ⟨(resolved other message done).1, mem_cons_of_mem _ (resolved other message done).2⟩
  · intro other found
    refine begun other ?_
    have within : other ∈ bridge.held.erase call → other ∈ bridge.held := mem_of_mem_erase
    grind
  · grind
  · grind

omit [DecidableEq Key] in
theorem Routed.chat (routed : Routed calls bridge) (chatter : line.chatter) :
    Routed calls { bridge with stdout := bridge.stdout ++ [line] } :=
  { routed with
    lines := by
      intro other found
      rcases mem_append.mp found with before | added
      · exact routed.lines other before
      · exact .inl (mem_singleton.mp added ▸ chatter)
    unread := fun call ans waiting =>
      mem_append_left _ (routed.unread call ans waiting) }

omit [DecidableEq Key] in
theorem Routed.expire (routed : Routed calls bridge) (call : Nat) :
    Routed calls (bridge.mark call .expired) :=
  routed.mark ⟨by nofun, by nofun, by nofun⟩ (.inl rfl)

theorem Routed.resume (routed : Routed calls bridge) (distinct : Distinct calls) (call : Nat) :
    Routed calls (resumed calls bridge call) := by
  unfold resumed
  split
  next message done =>
      obtain ⟨own, ans⟩ := routed.resolved call message done
      subst own
      exact routed.mark ⟨by nofun, by nofun, by simpa using ans⟩
        (.inr (routed.absent (by simp [done]) (by simp [done])))
  next expired =>
      split
      next key identified => exact routed.settle distinct identified ⟨by nofun, by nofun, by nofun⟩
      next => exact routed
      next => exact routed
  next => exact routed

omit [DecidableEq Key] in
theorem Bridge.mark_status_self (bridge : Bridge Key) (call : Nat) :
    bridge.mark call (bridge.status call) = bridge := by
  simp [Bridge.mark]

omit [DecidableEq Key] in
theorem Routed.discard (routed : Routed calls bridge) (next : bridge.stdout = line :: rest)
    (unawaited : ∀ call, bridge.status call = .waiting → line ≠ answerLine calls call)
    (reading : Bool) : Routed calls { bridge with stdout := rest, reading := reading } :=
  { routed with
    lines := fun other found => routed.lines other (next ▸ mem_cons_of_mem _ found)
    unread := by
      intro call ans waiting
      have found := routed.unread call ans waiting
      rw [next, mem_cons] at found
      exact found.resolve_left (unawaited call waiting).symm }

omit [DecidableEq Key] in
theorem Routed.unawaited_of_chatter (routed : Routed calls bridge) (chatter : line.chatter = true)
    (waiting : bridge.status call = .waiting) :
    line ≠ answerLine calls call := by
  rintro rfl
  obtain ⟨key, identified, _⟩ := routed.awaited call waiting
  simp [Line.chatter, answerLine, identified] at chatter

omit [DecidableEq Key] in
theorem answerLine_injective {first second : Nat}
    (same : answerLine calls first = answerLine calls second) : first = second := by
  simp only [answerLine, Line.mk.injEq, Content.object.injEq, Message.answer.injEq] at same
  exact same.2.2

theorem Routed.readChatter (routed : Routed calls bridge) (next : bridge.stdout = line :: rest)
    (chatter : line.chatter = true) :
    Routed calls (readResponse { bridge with stdout := rest } line) := by
  have dropped : ∀ reading, Routed calls { bridge with stdout := rest, reading := reading } :=
    routed.discard next fun call waiting => routed.unawaited_of_chatter chatter waiting
  unfold readResponse
  split
  · exact dropped false
  split
  next => exact dropped bridge.reading
  next => exact dropped false
  next => exact dropped bridge.reading
  next => exact dropped false
  next key message object => simp [Line.chatter, object] at chatter

theorem Routed.readAnswer (routed : Routed calls bridge) (distinct : Distinct calls)
    (fit : AnswersFit calls) (next : bridge.stdout = answerLine calls call :: rest)
    (ans : call ∈ bridge.answered) :
    Routed calls (readResponse { bridge with stdout := rest } (answerLine calls call)) := by
  have dropped : bridge.status call ≠ .waiting →
      ∀ reading, Routed calls { bridge with stdout := rest, reading := reading } := by
    refine fun settled => routed.discard next fun other waiting same => ?_
    exact settled (answerLine_injective same ▸ waiting)
  have unkeyed (foreign : ∀ key, (calls call).id ≠ .key key) : bridge.status call ≠ .waiting := by
    intro waiting
    obtain ⟨key, identified, _⟩ := routed.awaited call waiting
    exact foreign key identified
  cases identified : (calls call).id with
  | null =>
    have free := dropped (unkeyed (by simp [identified]))
    simp only [readResponse, answerLine, identified]
    split
    · exact free false
    · exact free bridge.reading
  | unhashable =>
    have free := dropped (unkeyed (by simp [identified]))
    simp only [readResponse, answerLine, identified]
    split <;> exact free false
  | key key =>
    have within : ¬ streamLimit < (calls call).answerSize :=
      Nat.not_lt.mpr (fit call key identified)
    simp only [readResponse, answerLine, identified, within]
    cases found : bridge.pending key with
    | none =>
      refine dropped (fun waiting => ?_) bridge.reading
      obtain ⟨other, same, entry⟩ := routed.awaited call waiting
      obtain rfl : key = other := by simpa [identified] using same
      rw [found] at entry
      cases entry
    | some owner =>
      obtain rfl : owner = call :=
        distinct owner call key (routed.registered key owner found).1 identified
      -- the entry is the call's own: it gets its answer, or has expired before
      show Routed calls
        (setResult (Bridge.pop { bridge with stdout := rest } key) owner (.answer owner))
      unfold setResult
      split
      next waiting =>
          have settled : Routed calls ((bridge.pop key).mark owner (.resolved (.answer owner))) :=
            routed.settle distinct identified ⟨by nofun, by nofun, by simpa using ans⟩
          refine settled.discard next (fun other waits same => ?_) bridge.reading
          simp [Bridge.mark, ← answerLine_injective same] at waits
      next live =>
          have expired : (bridge.pop key).status owner = .expired :=
            (routed.registered key owner found).2.resolve_left live
          have settled : Routed calls ((bridge.pop key).mark owner .expired) :=
            routed.settle distinct identified ⟨by nofun, by nofun, by nofun⟩
          rw [← expired, Bridge.mark_status_self] at settled
          refine settled.discard next (fun other waits same => ?_) false
          exact live (answerLine_injective same ▸ waits)

theorem Routed.read (routed : Routed calls bridge) (distinct : Distinct calls)
    (fit : AnswersFit calls) (next : bridge.stdout = line :: rest) :
    Routed calls (readResponse { bridge with stdout := rest } line) := by
  rcases routed.lines line (next ▸ mem_cons_self) with chatter | ⟨call, ans, rfl⟩
  · exact routed.readChatter next chatter
  · exact routed.readAnswer distinct fit next ans

theorem Routed.step (routed : Routed calls bridge) (distinct : Distinct calls)
    (fit : AnswersFit calls) (turn : Turn Key) : Routed calls (step calls bridge turn) := by
  cases turn with
  | send call =>
    simp only [StdioBridge.step]
    split
    next idle => exact routed.send distinct idle
    next => exact routed
  | accept =>
    simp only [StdioBridge.step]
    split
    next => exact routed
    next call rest next => exact routed.accept next
  | answer call =>
    simp only [StdioBridge.step]
    split
    next held => exact routed.answer held
    next => exact routed
  | chat line =>
    simp only [StdioBridge.step]
    split
    next chatter => exact routed.chat chatter
    next => exact routed
  | read =>
    simp only [StdioBridge.step]
    split
    next line rest _ next => exact routed.read distinct fit next
    next => exact routed
  | expire call =>
    simp only [StdioBridge.step]
    split
    next => exact routed.expire call
    next => exact routed
  | resume call => exact routed.resume distinct call

omit [DecidableEq Key] in
theorem message_of_chatter (chatter : line.chatter = true) (call : Nat) :
    line.message ≠ .answer call := by
  obtain ⟨size, content⟩ := line
  rcases content with _ | _ | ⟨_ | _ | key, _ | _⟩ <;> simp_all [Line.chatter, Line.message]

omit [DecidableEq Key] in
theorem Routed.unread_iff (routed : Routed calls bridge) (waiting : bridge.status call = .waiting) :
    call ∈ bridge.answered ↔ ∃ line ∈ bridge.stdout, line.message = .answer call := by
  constructor
  · intro ans
    exact ⟨answerLine calls call, routed.unread call ans waiting, rfl⟩
  rintro ⟨line, found, message⟩
  rcases routed.lines line found with chatter | ⟨other, ans, rfl⟩
  · exact absurd message (message_of_chatter chatter call)
  · exact Message.answer.inj message ▸ ans

omit [DecidableEq Key] in
theorem Routed.timely_iff (routed : Routed calls bridge) (turn : Turn Key) :
    Timely bridge turn ↔ KeepsUp bridge turn := by
  cases turn with
  | expire call =>
    refine imp_congr_right fun opened => ?_
    cases current : bridge.status call with
    | waiting => simp [routed.unread_iff current]
    | resolved message => simp [(routed.resolved call message current).2]
    | _ => simp [Bridge.open, current] at opened
  | _ => exact Iff.rfl

theorem correct_iff_prompt (distinct : Distinct calls) (fit : AnswersFit calls)
    (turns : List (Turn Key)) : Correct calls turns ↔ Prompt calls turns := by
  have keeps : ∀ bridge turn, Routed calls bridge →
      Routed calls (Transactions.commit (perform calls) bridge turn) :=
    fun _ turn routed => routed.step distinct fit turn
  have own : OwnAnswers (run calls turns) :=
    (Transactions.invariant_commit (Routed calls) keeps routed_started turns).returned
  constructor
  · rintro ⟨-, timely⟩
    exact Transactions.along_of_invariant (Routed calls) keeps
      (fun _ turn routed => (routed.timely_iff turn).mp) routed_started timely
  · intro prompt
    exact ⟨own, Transactions.along_of_invariant (Routed calls) keeps
      (fun _ turn routed => (routed.timely_iff turn).mpr) routed_started prompt⟩

end Routing

/-! ## Shared ids -/

def overtaking (first second : Nat) : List (Turn Key) :=
  [.send first, .send second, .accept, .answer first, .read, .resume second]

theorem status_overtaking {calls : Nat → Call Key} {first second : Nat} {key : Key}
    (identified : (calls first).id = .key key) (same : (calls second).id = .key key)
    (ne : first ≠ second) (fits : (calls first).answerSize ≤ streamLimit) :
    (run calls (overtaking first second)).status second = .returned (.answer first) := by
  have within : ¬ streamLimit < (calls first).answerSize := Nat.not_lt.mpr fits
  simp [run, Transactions.run, Transactions.commit, perform, overtaking, step, started,
    sendRequest, identified, same, Bridge.mark, Bridge.pop, ne.symm, answerLine, readResponse,
    within, setResult, resumed]

def overflowing (call : Nat) : List (Turn Key) :=
  [.send call, .accept, .answer call, .read, .expire call]

theorem prompt_overflowing {calls : Nat → Call Key} {call : Nat} {key : Key}
    (identified : (calls call).id = .key key) (long : streamLimit < (calls call).answerSize) :
    Prompt calls (overflowing call) ∧ ¬ Correct calls (overflowing call) := by
  constructor
  · simp [Prompt, Transactions.Along, KeepsUp, Transactions.commit, perform, overflowing, step,
      started, sendRequest, identified, Bridge.mark, answerLine, readResponse, long]
  rintro ⟨-, timely⟩
  simp [Transactions.Along, Timely, Transactions.commit, perform, overflowing, step,
    started, sendRequest, identified, Bridge.mark, answerLine, readResponse, long,
    Bridge.open] at timely

/-- Every answer reaches the call it answers, as long as the bridge keeps up, exactly if no
two calls carry one id and every answer fits the reader's limit.  A bridge that falls behind
loses an answer even then. -/
theorem bridge_correct_iff (calls : Nat → Call Key) :
    ((∀ turns, Prompt calls turns → Correct calls turns) ↔ Distinct calls ∧ AnswersFit calls) ∧
      (Distinct calls ∧ AnswersFit calls → ∀ turns, Correct calls turns ↔ Prompt calls turns) := by
  refine ⟨⟨fun correct => ?_, fun ⟨distinct, fit⟩ turns prompt => ?_⟩,
    fun ⟨distinct, fit⟩ => correct_iff_prompt distinct fit⟩
  · have fit : AnswersFit calls := by
      intro call key identified
      by_contra long
      obtain ⟨prompt, wrong⟩ := prompt_overflowing identified (Nat.not_le.mp long)
      exact wrong (correct _ prompt)
    refine ⟨fun first second key identified same => ?_, fit⟩
    by_contra ne
    have prompt : Prompt calls (overtaking first second) := by
      simp [Prompt, Transactions.Along, KeepsUp, overtaking]
    have received := (correct _ prompt).1 second _
      (status_overtaking identified same ne (fit first key identified))
    exact ne (Message.answer.inj received)
  · exact (correct_iff_prompt distinct fit turns).mpr prompt

end Steps

def bothFromOne : Nat → Call Nat := fun _ => { id := .key 1, answerSize := 80 }

/-- The second client receives the answer to the first; the answer to the second is dropped,
and the first client's call times out. -/
def crossed : List (Turn Nat) :=
  [.send 0, .send 1, .accept, .accept, .answer 0, .read, .resume 1, .answer 1, .read, .expire 0,
    .resume 0]

theorem shared_id_crosses_answers : Prompt bothFromOne crossed ∧ ¬ Correct bothFromOne crossed ∧
      (run bothFromOne crossed).status 1 = .returned (.answer 0) ∧
      (run bothFromOne crossed).status 0 = .timedOut ∧
      (run bothFromOne crossed).answered = [1, 0] := by
  have received : (run bothFromOne crossed).status 1 = .returned (.answer 0) := by decide
  refine ⟨?_, fun correct => ?_, received, by decide, by decide⟩
  · simp [Prompt, Transactions.Along, KeepsUp, crossed, Transactions.commit, perform, step,
      started, sendRequest, bothFromOne, Bridge.mark, Bridge.pop, answerLine, readResponse,
      streamLimit, setResult, resumed]
  · cases correct.1 1 _ received

end Portcullis.Gateway.StdioBridge
