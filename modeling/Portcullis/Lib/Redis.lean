import Mathlib.Data.Rat.Floor
import Mathlib.Tactic

/-!
# Redis keys and the commands a one-key script uses

A key holds nothing or a typed value with an optional deadline.  A command on a
value of another type is refused.  Sorted sets carry the proof that their members
are distinct, so `ZADD` of an existing member can only replace its score.  The
deadline is the instant at which the server may drop the key.
-/

namespace Portcullis.Lib.Redis

@[ext]
structure ZSet where
  members : List (String × ℚ)
  distinct : (members.map Prod.fst).Nodup

inductive Value where
  | text (value : String)
  | hash (fields : List (String × ℚ))
  | zset (value : ZSet)

structure Entry where
  value : Value
  deadline : Option ℚ

/-- What one key holds. -/
abbrev Slot := Option Entry

inductive RedisError where
  | wrongType
  | unavailable
  deriving DecidableEq, Repr

namespace ZSet

def empty : ZSet := ⟨[], List.nodup_nil⟩

def card (set : ZSet) : Nat := set.members.length

variable (set : ZSet)

def contains (member : String) : Bool :=
  (set.members.map Prod.fst).contains member

/-- `ZREMRANGEBYSCORE key -inf bound`. -/
def removeUpTo (bound : ℚ) : ZSet where
  members := set.members.filter fun item => decide (bound < item.2)
  distinct := set.distinct.sublist (List.filter_sublist.map Prod.fst)

/-- `ZADD key score member`. -/
def add (score : ℚ) (member : String) : ZSet where
  members := (member, score) :: set.members.filter fun item => decide (item.1 ≠ member)
  distinct := by
    rw [List.map_cons, List.nodup_cons]
    refine ⟨?_, set.distinct.sublist (List.filter_sublist.map Prod.fst)⟩
    intro inside
    obtain ⟨item, kept, same⟩ := List.mem_map.mp inside
    have different := (List.mem_filter.mp kept).2
    rw [decide_eq_true_eq] at different
    exact different same

/-- `ZRANGE key 0 0 WITHSCORES`: least score, ties by member. -/
def oldest (set : ZSet) : Option (String × ℚ) :=
  set.members.foldl (fun best item =>
    match best with
    | none => some item
    | some current =>
      if item.2 < current.2 ∨ (item.2 = current.2 ∧ item.1 < current.1) then some item
      else some current) none

theorem foldl_oldest (items : List (String × ℚ)) : ∀ first : String × ℚ,
    ∃ item ∈ first :: items, (∀ other ∈ first :: items, item.2 ≤ other.2) ∧
      items.foldl (fun best item =>
        match best with
        | none => some item
        | some current =>
          if item.2 < current.2 ∨ (item.2 = current.2 ∧ item.1 < current.1) then some item
          else some current) (some first) = some item := by
  induction items with
  | nil => exact fun first => ⟨first, List.mem_singleton_self _, by simp, rfl⟩
  | cons second rest ih =>
    intro first
    rw [List.foldl_cons]
    dsimp only
    split
    · rename_i prev
      obtain ⟨item, mem, least, found⟩ := ih second
      refine ⟨item, List.mem_cons_of_mem _ mem, ?_, found⟩
      intro other inside
      rcases List.mem_cons.mp inside with rfl | later
      · have second := least second List.mem_cons_self
        rcases prev with less | ⟨same, -⟩
        · linarith
        · linarith
      · exact least other later
    · rename_i notEarlier
      obtain ⟨item, mem, least, found⟩ := ih first
      have kept : first.2 ≤ second.2 := not_lt.mp fun less => notEarlier (.inl less)
      refine ⟨item, ?_, ?_, found⟩
      · rcases List.mem_cons.mp mem with rfl | later
        · exact List.mem_cons_self
        · exact List.mem_cons_of_mem _ (List.mem_cons_of_mem _ later)
      · intro other inside
        have first := least first List.mem_cons_self
        rcases List.mem_cons.mp inside with rfl | deeper
        · exact first
        rcases List.mem_cons.mp deeper with rfl | later
        · linarith
        · exact least other (List.mem_cons_of_mem _ later)

theorem oldest_spec (held : set.members ≠ []) :
    ∃ item ∈ set.members, set.oldest = some item ∧ ∀ other ∈ set.members, item.2 ≤ other.2 := by
  rcases set with ⟨_ | ⟨first, rest⟩, distinct⟩
  · exact absurd rfl held
  · obtain ⟨item, mem, least, found⟩ := foldl_oldest rest first
    exact ⟨item, mem, found, least⟩

/-- Number of members whose score lies above a threshold. -/
def countAbove (threshold : ℚ) : Nat :=
  set.members.countP fun item => decide (threshold < item.2)

theorem countAbove_anti {low high : ℚ} (below : low ≤ high) :
    set.countAbove high ≤ set.countAbove low := by
  apply List.countP_mono_left
  intro item _ above
  rw [decide_eq_true_eq] at above ⊢
  exact lt_of_le_of_lt below above

/-- Eviction is invisible above its bound. -/
theorem countAbove_removeUpTo (bound threshold : ℚ) (above : bound ≤ threshold) :
    (set.removeUpTo bound).countAbove threshold = set.countAbove threshold := by
  unfold countAbove removeUpTo
  rw [List.countP_filter]
  apply List.countP_congr
  intro item _
  simp only [Bool.and_eq_true, decide_eq_true_eq]
  constructor
  · exact fun both => both.1
  · exact fun scored => ⟨scored, lt_of_le_of_lt above scored⟩

theorem filter_of_not_contains (member : String) (fresh : set.contains member = false) :
    set.members.filter (fun item => decide (item.1 ≠ member)) = set.members := by
  apply List.filter_eq_self.mpr
  intro item inside
  rw [decide_eq_true_eq]
  intro same
  have present : set.contains member = true := by
    rw [contains, List.contains_iff_mem]
    exact List.mem_map.mpr ⟨item, inside, same⟩
  rw [fresh] at present
  cases present

theorem members_add (score : ℚ) (member : String) : (set.add score member).members =
      (member, score) :: set.members.filter fun item => decide (item.1 ≠ member) :=
  rfl

theorem members_add_of_fresh (score : ℚ) (member : String) (fresh : set.contains member = false) :
    (set.add score member).members = (member, score) :: set.members := by
  rw [members_add, filter_of_not_contains set member fresh]

theorem countAbove_add_of_fresh (score threshold : ℚ) (member : String)
    (fresh : set.contains member = false) :
    (set.add score member).countAbove threshold =
      set.countAbove threshold + if threshold < score then 1 else 0 := by
  rw [countAbove, members_add_of_fresh set score member fresh, List.countP_cons, countAbove]
  simp only [decide_eq_true_eq]

end ZSet

/-! ## Hash fields -/

abbrev Fields := List (String × ℚ)

def getField (name : String) (fields : Fields) : Option ℚ :=
  (fields.find? fun field => field.1 = name).map Prod.snd

def setField (name : String) (value : ℚ) : Fields → Fields
  | [] => [(name, value)]
  | field :: rest =>
    if field.1 = name then (name, value) :: rest else field :: setField name value rest

theorem getField_cons (target : String) (field : String × ℚ) (rest : Fields) :
    getField target (field :: rest) =
      if field.1 = target then some field.2 else getField target rest := by
  by_cases same : field.1 = target
  · simp [getField, same]
  · simp [getField, same]

theorem getField_setField (name target : String) (value : ℚ) (fields : Fields) :
    getField target (setField name value fields) =
      if name = target then some value else getField target fields := by
  induction fields with
  | nil => rw [setField, getField_cons]
  | cons field rest ih =>
    by_cases here : field.1 = name
    · rw [setField, if_pos here, getField_cons, getField_cons, here]
      by_cases same : name = target
      · rw [if_pos same, if_pos same]
      · rw [if_neg same, if_neg same, if_neg same]
    · rw [setField, if_neg here, getField_cons, getField_cons, ih]
      by_cases same : name = target
      · rw [if_pos same, if_pos same, if_neg (same ▸ here)]
      · rw [if_neg same, if_neg same]

/-! ## Commands on one key -/

/-- The key read as a sorted set; an absent key is an empty set. -/
def asZSet : Slot → Except RedisError ZSet
  | none => .ok ZSet.empty
  | some ⟨.zset set, _⟩ => .ok set
  | some ⟨.text _, _⟩ => .error .wrongType
  | some ⟨.hash _, _⟩ => .error .wrongType

/-- The key read as a hash; an absent key has no fields. -/
def asHash : Slot → Except RedisError Fields
  | none => .ok []
  | some ⟨.hash fields, _⟩ => .ok fields
  | some ⟨.text _, _⟩ => .error .wrongType
  | some ⟨.zset _, _⟩ => .error .wrongType

def deadlineOf (slot : Slot) : Option ℚ := slot.bind (·.deadline)

variable (slot : Slot)

/-- Write a sorted set back; Redis removes the key, deadline included, with the
last member. -/
def storeZSet (set : ZSet) : Slot :=
  if set.members.isEmpty then none else some ⟨.zset set, deadlineOf slot⟩

def zremrangebyscore (bound : ℚ) : Except RedisError Slot := do
  let set ← asZSet slot
  return storeZSet slot (set.removeUpTo bound)

def zcard (slot : Slot) : Except RedisError Nat := do
  let set ← asZSet slot
  return set.card

def zadd (score : ℚ) (member : String) : Except RedisError Slot := do
  let set ← asZSet slot
  return storeZSet slot (set.add score member)

def zrangeFirst (slot : Slot) : Except RedisError (Option (String × ℚ)) := do
  let set ← asZSet slot
  return set.oldest

/-- `HMGET key first second`. -/
def hmget (first second : String) :
    Except RedisError (Option ℚ × Option ℚ) := do
  let fields ← asHash slot
  return (getField first fields, getField second fields)

/-- `HSET key first value second value`. -/
def hset (first : String) (firstValue : ℚ) (second : String) (secondValue : ℚ) :
    Except RedisError Slot := do
  let fields ← asHash slot
  return some ⟨.hash (setField second secondValue (setField first firstValue fields)),
    deadlineOf slot⟩

/-- `EXPIRE key seconds` at the server time `clock`. -/
def expire (clock : ℚ) (seconds : Int) : Slot :=
  if seconds ≤ 0 then none
  else slot.map fun entry => { entry with deadline := some (clock + seconds) }

/-- Drop the key when its deadline has passed. -/
def lapse (clock : ℚ) : Slot :=
  if (deadlineOf slot).any (fun deadline => decide (deadline ≤ clock)) then none
  else slot

theorem asZSet_storeZSet (set : ZSet) : asZSet (storeZSet slot set) = .ok set := by
  unfold storeZSet
  split
  · rename_i vacant
    rw [List.isEmpty_iff] at vacant
    exact congrArg Except.ok (ZSet.ext vacant.symm)
  · rfl

theorem deadlineOf_storeZSet (set : ZSet) (deadline : ℚ)
    (stored : deadlineOf (storeZSet slot set) = some deadline) :
    deadlineOf slot = some deadline := by
  unfold storeZSet at stored
  split at stored
  · cases stored
  · exact stored

theorem asZSet_expire (clock : ℚ) (seconds : Int) (pos : 0 < seconds) :
    asZSet (expire slot clock seconds) = asZSet slot := by
  rw [expire, if_neg (by omega)]
  rcases slot with _ | ⟨_ | _ | _, deadline⟩ <;> rfl

theorem deadlineOf_expire (clock : ℚ) (seconds : Int) (deadline : ℚ)
    (stored : deadlineOf (expire slot clock seconds) = some deadline) :
    deadline = clock + seconds := by
  unfold expire at stored
  split at stored
  · cases stored
  · cases slot with
    | none => cases stored
    | some entry => exact (Option.some.inj stored).symm

theorem lapse_eq (clock : ℚ) :
    (lapse slot clock = none ∧ ∃ deadline ∈ deadlineOf slot, deadline ≤ clock) ∨
      (lapse slot clock = slot ∧ ¬ ∃ deadline ∈ deadlineOf slot, deadline ≤ clock) := by
  have due : (deadlineOf slot).any (fun deadline => decide (deadline ≤ clock)) = true ↔
      ∃ deadline ∈ deadlineOf slot, deadline ≤ clock := by
    simp only [Option.any_eq_true, decide_eq_true_eq, Option.mem_def]
  rw [lapse]
  split
  · rename_i passed
    exact .inl ⟨rfl, due.mp passed⟩
  · rename_i early
    exact .inr ⟨rfl, fun passed => early (due.mpr passed)⟩

/-! ## Numbers as the scripting engine prints them -/

/-- Exponent of the leading decimal digit of a positive number. -/
def decimalExponent (value : ℚ) : Int :=
  if 1 ≤ value then Nat.log 10 value.floor.toNat
  else -(Nat.clog 10 (1 / value).ceil.toNat : Int)

def roundHalfEven (value : ℚ) : Nat :=
  let below := value.floor.toNat
  let excess := value - below
  if excess < 1 / 2 ∨ (excess = 1 / 2 ∧ below % 2 = 0) then below else below + 1

/-- Fourteen significant digits of a positive number and the exponent of the
first of them. -/
def significant (value : ℚ) : Nat × Int :=
  let exponent := decimalExponent value
  let digits := roundHalfEven (value / (10 : ℚ) ^ (exponent - 13))
  if digits = 10 ^ 14 then (10 ^ 13, exponent + 1) else (digits, exponent)

/-- The value of the fourteen digits that are printed. -/
def luaRounded (value : ℚ) : ℚ :=
  if value = 0 then 0
  else
    let (digits, exponent) := significant |value|
    (if value < 0 then -1 else 1) * digits * (10 : ℚ) ^ (exponent - 13)

def dropTrailingZeros (digits : List Char) : List Char :=
  (digits.reverse.dropWhile (· == '0')).reverse

def pointed (whole fraction : List Char) : List Char :=
  if fraction.isEmpty then whole else whole ++ '.' :: fraction

/-- `%.14g` of a positive number. -/
def formatPositive (value : ℚ) : List Char :=
  let (number, exponent) := significant value
  let digits := Nat.toDigits 10 number
  if -4 ≤ exponent ∧ exponent < 14 then
    if 0 ≤ exponent then
      pointed (digits.take (exponent.toNat + 1))
        (dropTrailingZeros (digits.drop (exponent.toNat + 1)))
    else
      pointed ['0'] (List.replicate ((-exponent).toNat - 1) '0' ++ dropTrailingZeros digits)
  else
    let power := Nat.toDigits 10 exponent.natAbs
    pointed (digits.take 1) (dropTrailingZeros (digits.drop 1)) ++
      'e' :: (if exponent < 0 then '-' else '+') ::
        (if power.length < 2 then '0' :: power else power)

/-- `tostring(number)` of the embedded Lua: fourteen significant digits. -/
def luaTostring (value : ℚ) : String :=
  if value = 0 then "0"
  else if value < 0 then String.ofList ('-' :: formatPositive (-value))
  else String.ofList (formatPositive value)

end Portcullis.Lib.Redis
