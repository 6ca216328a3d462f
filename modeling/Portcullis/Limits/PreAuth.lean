import Portcullis.Limits.WindowLog

/-!
# The checks before authentication

`run_pre_auth_checks` of the proxy and the middleware of the management API both call
`check_pre_auth_limit`, each with its own limit and window.  The key of that check is built from
the client address alone, so that the two count in one sorted set.
-/

namespace Portcullis.Limits.PreAuth

open Lib.Redis Lib.Trace List
open Limits.Enforcement (Buckets presentSlot)
open Limits.ExactScripts Limits.Policies Limits.RedisBucket
open Limits.SlidingWindow (evictedAt)
open Limits.WindowLog

/-- `/mcp` and `/v1`. -/
inductive Surface where
  | proxy
  | management
  deriving DecidableEq, Repr

/-- What `parse_default` makes of a configured default. -/
structure Rate where
  limit : Int
  window : Int

/-- `auth_rate_limit_default` for the proxy, `management_api_rate_limit_default` for the
management API. -/
abbrev Settings := Surface → Rate

def preAuthKey (clientIp : String) : String := "pre_auth:" ++ clientIp

def preAuthPolicy (rate : Rate) : EffectivePolicy where
  algorithm := .slidingWindow
  requestLimit := rate.limit
  windowSeconds := rate.window
  burstCapacity := none
  scope := .tool

def checkPreAuthLimit (buckets : Buckets) (clientIp : String) (rate : Rate) (visit : Visit) :
    Except RedisError (Buckets × RateLimitResult) := do
  let key := preAuthKey clientIp
  let (slot, result) ← checkSlidingWindow (presentSlot (buckets key) visit.call)
    (preAuthPolicy rate) visit.now visit.now visit.random
  return (Function.update buckets key slot, result)

structure Request where
  surface : Surface
  visit : Visit

inductive Verdict where
  | passes
  | limited
  | unavailable
  deriving DecidableEq, Repr

/-- The proxy fails closed when Redis does, the management API fails open. -/
def arrive (settings : Settings) (clientIp : String) (buckets : Buckets) (request : Request) :
    Buckets × Verdict :=
  match checkPreAuthLimit buckets clientIp (settings request.surface) request.visit with
  | .ok (after, result) => (after, if result.allowed then .passes else .limited)
  | .error _ =>
    (buckets, match request.surface with
      | .proxy => .unavailable
      | .management => .passes)

def arrivals (settings : Settings) (clientIp : String) :
    Buckets → List Request → List (Request × Verdict)
  | _, [] => []
  | buckets, request :: rest =>
    (request, (arrive settings clientIp buckets request).2) ::
      arrivals settings clientIp (arrive settings clientIp buckets request).1 rest

def vacant : Buckets := fun _ => none

def onSurface (surface : Surface) (requests : List Request) : List Request :=
  requests.filter fun request => decide (request.surface = surface)

def verdictsOn (surface : Surface) (entries : List (Request × Verdict)) :
    List (Request × Verdict) :=
  entries.filter fun entry => decide (entry.1.surface = surface)

/-- Requests that passed in `(final - window, final]`. -/
def passedWithin (rate : Rate) (final : ℚ) (entries : List (Request × Verdict)) : Nat :=
  entries.countP fun entry => decide (entry.2 = .passes ∧
    final - rate.window < entry.1.visit.now ∧ entry.1.visit.now ≤ final)

/-! ## Traffic that does not interfere -/

/-- The admissions each surface would make by itself, and what of all of them one key would
still hold, until it expires. -/
structure Ledger where
  own : Surface → List ℚ
  shared : List ℚ
  expiry : Option ℚ

def Ledger.start : Ledger := ⟨fun _ => [], [], none⟩

section Settings

variable (settings : Settings)

/-- What of the shared admissions lies in the window of a request. -/
def Ledger.left (ledger : Ledger) (request : Request) : List ℚ :=
  let now := request.visit.now
  (if ledger.expiry.any (fun expiry => decide (expiry ≤ now)) then [] else ledger.shared).filter
    fun stamp => decide (now - (settings request.surface).window < stamp)

/-- By its own admissions the surface has room for the request. -/
def Ledger.hasRoom (ledger : Ledger) (request : Request) : Prop :=
  (recent (preAuthPolicy (settings request.surface)) request.visit.now
    (ledger.own request.surface) : Int) < (settings request.surface).limit

instance (ledger : Ledger) (request : Request) : Decidable (ledger.hasRoom settings request) :=
  inferInstanceAs (Decidable (_ < _))

def Ledger.after (ledger : Ledger) (request : Request) : Ledger :=
  let now := request.visit.now
  if ledger.hasRoom settings request then
    { own := Function.update ledger.own request.surface (now :: ledger.own request.surface)
      shared := now :: ledger.left settings request
      expiry := some (now + (settings request.surface).window) }
  else { ledger with shared := ledger.left settings request }

theorem Ledger.after_own_self (ledger : Ledger) (request : Request) :
    (ledger.after settings request).own request.surface =
      if ledger.hasRoom settings request then
        request.visit.now :: ledger.own request.surface
      else ledger.own request.surface := by
  by_cases room : ledger.hasRoom settings request
  · simp [Ledger.after, room]
  · simp [Ledger.after, room]

theorem Ledger.after_own_of_ne (ledger : Ledger) (request : Request) {surface : Surface}
    (other : surface ≠ request.surface) :
    (ledger.after settings request).own surface = ledger.own surface := by
  by_cases room : ledger.hasRoom settings request
  · simp [Ledger.after, room, other]
  · simp [Ledger.after, room]

/-- At every request the shared admissions leave room just when the own ones do. -/
def Harmless : Ledger → List Request → Prop
  | _, [] => True
  | ledger, request :: rest =>
    (ledger.hasRoom settings request ↔
      ((ledger.left settings request).length : Int) < (settings request.surface).limit) ∧
    Harmless (ledger.after settings request) rest

instance decidableHarmless : ∀ (ledger : Ledger) (requests : List Request),
    Decidable (Harmless settings ledger requests)
  | _, [] => inferInstanceAs (Decidable True)
  | ledger, request :: rest =>
    have := decidableHarmless (ledger.after settings request) rest
    inferInstanceAs (Decidable (_ ∧ _))

/-- Each surface gets the verdicts it would get without the other. -/
def Independent (clientIp : String) (requests : List Request) : Prop :=
  ∀ surface, verdictsOn surface (arrivals settings clientIp vacant requests) =
    arrivals settings clientIp vacant (onSurface surface requests)

/-- No window admits more requests of a surface than its limit. -/
def Bounded (clientIp : String) (requests : List Request) : Prop :=
  ∀ surface final, (passedWithin (settings surface) final
    (verdictsOn surface (arrivals settings clientIp vacant requests)) : Int) ≤
      (settings surface).limit

/-! ## One request -/

variable {settings} {clientIp : String} {buckets : Buckets} {request : Request}

theorem arrive_of_visitKey {slot : Slot} {result : RateLimitResult}
    (ans : visitKey luaRounded (preAuthPolicy (settings request.surface))
      (buckets (preAuthKey clientIp)) request.visit = .ok (slot, result)) :
    arrive settings clientIp buckets request = (Function.update buckets (preAuthKey clientIp) slot,
        if result.allowed then .passes else .limited) := by
  have checked : checkPreAuthLimit buckets clientIp (settings request.surface) request.visit =
      .ok (Function.update buckets (preAuthKey clientIp) slot, result) := by
    rw [checkPreAuthLimit, checkSlidingWindow_eq]
    rw [visitKey] at ans
    simp only [ans, bind, Except.bind, pure, Except.pure]
  rw [arrive, checked]

/-- The key holds the shared admissions of the ledger, under names from `seen`, and expires with
them. -/
structure Holds (seen : List String) (ledger : Ledger) (slot : Slot) : Prop where
  held : ∃ set, asZSet slot = .ok set ∧ set.members.map Prod.snd = ledger.shared ∧
    ∀ item ∈ set.members, item.1 ∈ seen
  expires : ledger.shared ≠ [] → deadlineOf slot = ledger.expiry

theorem Holds.start : Holds [] Ledger.start none where
  held := ⟨ZSet.empty, rfl, rfl, fun _ absent => absurd absent not_mem_nil⟩
  expires occupied := absurd rfl occupied

variable {seen : List String} {ledger : Ledger} {slot : Slot}

variable (settings) in
theorem map_snd_evictedAt (set : ZSet) (request : Request) :
    (evictedAt (preAuthPolicy (settings request.surface)) request.visit.call set).members.map
        Prod.snd =
      (set.members.map Prod.snd).filter fun stamp =>
        decide (request.visit.now - (settings request.surface).window < stamp) := by
  rw [filter_map]
  rfl

variable (settings) in
theorem Holds.evicted (holds : Holds seen ledger slot) (request : Request) :
    ∃ set, asZSet (presentSlot slot request.visit.call) = .ok set ∧
      (evictedAt (preAuthPolicy (settings request.surface)) request.visit.call set).members.map
        Prod.snd = ledger.left settings request ∧
      (∀ item ∈ set.members, item.1 ∈ seen) ∧
      (ledger.left settings request ≠ [] →
        deadlineOf (presentSlot slot request.visit.call) = ledger.expiry) := by
  obtain ⟨set, held, stamps, known⟩ := holds.held
  have nothing : ledger.shared = [] → ledger.left settings request = [] := by
    intro none
    simp [Ledger.left, none]
  rcases lapse_eq slot request.visit.now with ⟨gone, deadline, stored, passed⟩ | ⟨kept, early⟩
  · have present : presentSlot slot request.visit.call = none := gone
    have left : ledger.left settings request = [] := by
      by_cases occupied : ledger.shared = []
      · exact nothing occupied
      · have expiry := (holds.expires occupied).symm.trans stored
        simp [Ledger.left, expiry, passed]
    rw [present]
    refine ⟨ZSet.empty, rfl, left.symm, fun _ absent => absurd absent not_mem_nil, ?_⟩
    exact fun some => absurd left some
  · have present : presentSlot slot request.visit.call = slot := kept
    rw [present]
    by_cases occupied : ledger.shared = []
    · refine ⟨set, held, ?_, known, fun some => absurd (nothing occupied) some⟩
      rw [map_snd_evictedAt, stamps, nothing occupied, occupied, filter_nil]
    have expiry := holds.expires occupied
    refine ⟨set, held, ?_, known, fun _ => expiry⟩
    have unexpired : ¬ ledger.expiry.any
        (fun expiry => decide (expiry ≤ request.visit.now)) = true := by
      rw [← expiry, Option.any_eq_true]
      rintro ⟨deadline, stored, passed⟩
      exact early ⟨deadline, stored, of_decide_eq_true passed⟩
    rw [map_snd_evictedAt, stamps, Ledger.left, if_neg unexpired]

/-- The verdict under the shared key, and the key after it if it is the verdict the surface would
get by itself. -/
theorem arrive_shared (windowPositive : 0 < (settings request.surface).window)
    (holds : Holds seen ledger (buckets (preAuthKey clientIp)))
    (fresh : request.visit.member ∉ seen) :
    (arrive settings clientIp buckets request).2 =
        (if ((ledger.left settings request).length : Int) < (settings request.surface).limit
          then .passes else .limited) ∧
      ((ledger.hasRoom settings request ↔
          ((ledger.left settings request).length : Int) < (settings request.surface).limit) →
        Holds (request.visit.member :: seen) (ledger.after settings request)
          ((arrive settings clientIp buckets request).1 (preAuthKey clientIp))) := by
  obtain ⟨set, held, stamps, known, deadline⟩ := holds.evicted settings request
  have counted : (evictedAt (preAuthPolicy (settings request.surface)) request.visit.call
      set).card = (ledger.left settings request).length := by
    rw [← stamps, length_map, ZSet.card]
  have knownEvicted : ∀ item ∈ (evictedAt (preAuthPolicy (settings request.surface))
      request.visit.call set).members, item.1 ∈ request.visit.member :: seen :=
    fun item mem => mem_cons_of_mem _ (known item (mem_filter.mp mem).1)
  by_cases room : ((ledger.left settings request).length : Int) < (settings request.surface).limit
  · obtain ⟨after, ran, entered, renewed⟩ := window_admits luaRounded held windowPositive
      (show ((evictedAt (preAuthPolicy (settings request.surface)) request.visit.call
        set).card : Int) < _ by rwa [counted])
    rw [arrive_of_visitKey ran, if_pos room]
    refine ⟨rfl, fun agree => ?_⟩
    show Holds _ _ (Function.update buckets (preAuthKey clientIp) after (preAuthKey clientIp))
    rw [Function.update_self, Ledger.after, if_pos (agree.mpr room)]
    have new : (evictedAt (preAuthPolicy (settings request.surface)) request.visit.call
        set).contains request.visit.member = false := by
      rw [ZSet.contains, contains_eq_mem, decide_eq_false_iff_not]
      intro present
      obtain ⟨item, mem, same⟩ := mem_map.mp present
      exact fresh (same ▸ known item (mem_filter.mp mem).1)
    have members : (enteredAt (preAuthPolicy (settings request.surface)) request.visit.call
        set).members = (request.visit.member, request.visit.now) :: (evictedAt (preAuthPolicy
          (settings request.surface)) request.visit.call set).members :=
      ZSet.members_add_of_fresh _ _ _ new
    refine ⟨⟨_, entered, ?_, ?_⟩, fun _ => renewed⟩
    · rw [members, map_cons, stamps]
    rw [members]
    intro item mem
    rcases mem_cons.mp mem with rfl | older
    · exact mem_cons_self
    · exact knownEvicted item older
  · have ran := window_refuses luaRounded held
      (show (settings request.surface).limit ≤ (evictedAt (preAuthPolicy
        (settings request.surface)) request.visit.call set).card by
          rw [counted]
          exact not_lt.mp room)
    rw [arrive_of_visitKey ran, if_neg room]
    refine ⟨rfl, fun agree => ?_⟩
    show Holds _ _ (Function.update buckets (preAuthKey clientIp) _ (preAuthKey clientIp))
    rw [Function.update_self, Ledger.after, if_neg (fun alone => room (agree.mp alone))]
    refine ⟨⟨_, asZSet_storeZSet _ _, stamps, knownEvicted⟩, fun some => ?_⟩
    have occupied : (evictedAt (preAuthPolicy (settings request.surface)) request.visit.call
        set).members.isEmpty = false := by
      rw [isEmpty_eq_false_iff]
      intro none
      rw [none, map_nil] at stamps
      exact some stamps.symm
    rw [storeZSet, if_neg (by simp [occupied])]
    exact deadline some

/-- The key mirrors the log of a surface by itself as of its last request, not after `now`. -/
def Logged (settings : Settings) (surface : Surface) (now : ℚ) (seen : List String)
    (log : List ℚ) (slot : Slot) : Prop :=
  ∃ last history, last ≤ now ∧ Mirrors (preAuthPolicy (settings surface)) last history slot ∧
    history.map Prod.snd = log ∧ ∀ entry ∈ history, entry.1 ∈ seen

theorem Logged.mono {surface : Surface} {now later : ℚ} {more : List String} {log : List ℚ}
    (logged : Logged settings surface now seen log slot) (after : now ≤ later)
    (subset : ∀ name ∈ seen, name ∈ more) : Logged settings surface later more log slot := by
  obtain ⟨last, history, before, mirrors, stamps, known⟩ := logged
  exact ⟨last, history, le_trans before after, mirrors, stamps,
    fun entry mem => subset _ (known entry mem)⟩

theorem Logged.past {surface : Surface} {now : ℚ} {log : List ℚ}
    (logged : Logged settings surface now seen log slot) : ∀ stamp ∈ log, stamp ≤ now := by
  obtain ⟨last, history, before, mirrors, rfl, -⟩ := logged
  intro stamp mem
  obtain ⟨entry, inside, rfl⟩ := mem_map.mp mem
  exact le_trans (mirrors.past entry inside) before

theorem arrive_alone {now : ℚ} {log : List ℚ} (limitPositive : 0 < (settings request.surface).limit)
    (windowPositive : 0 < (settings request.surface).window)
    (logged : Logged settings request.surface now seen log (buckets (preAuthKey clientIp)))
    (later : now ≤ request.visit.now) (fresh : request.visit.member ∉ seen) :
    (arrive settings clientIp buckets request).2 =
        (if (recent (preAuthPolicy (settings request.surface)) request.visit.now log : Int) <
          (settings request.surface).limit then .passes else .limited) ∧
      Logged settings request.surface request.visit.now (request.visit.member :: seen)
        (if (recent (preAuthPolicy (settings request.surface)) request.visit.now log : Int) <
          (settings request.surface).limit then request.visit.now :: log else log)
        ((arrive settings clientIp buckets request).1 (preAuthKey clientIp)) := by
  obtain ⟨last, history, before, mirrors, rfl, known⟩ := logged
  replace later := le_trans before later
  have counted := recent_eq (preAuthPolicy (settings request.surface))
    (fun entry mem => le_trans (mirrors.past entry mem) later)
  rw [counted]
  by_cases room : ((inWindow (preAuthPolicy (settings request.surface)) request.visit.now
      history).length : Int) < (settings request.surface).limit
  · have unseen : request.visit.member ∉ history.map Prod.fst := by
      intro mem
      obtain ⟨entry, inside, same⟩ := mem_map.mp mem
      exact fresh (same ▸ known entry inside)
    obtain ⟨after, result, ran, allowed, kept⟩ :=
      visitKey_admits luaRounded windowPositive mirrors later room unseen
    rw [arrive_of_visitKey ran, if_pos allowed, if_pos room, if_pos room]
    refine ⟨rfl, request.visit.now, request.visit.entry :: history, le_refl _, ?_, rfl, ?_⟩
    · show Mirrors _ _ _ (Function.update buckets (preAuthKey clientIp) after _)
      rwa [Function.update_self]
    intro entry mem
    rcases mem_cons.mp mem with rfl | older
    · exact mem_cons_self
    · exact mem_cons_of_mem _ (known entry older)
  · obtain ⟨after, result, oldest, ran, denied, kept, -⟩ :=
      visitKey_refuses luaRounded limitPositive mirrors later (not_lt.mp room)
    rw [arrive_of_visitKey ran, if_neg (by simp [denied]), if_neg room, if_neg room]
    refine ⟨rfl, request.visit.now, history, le_refl _, ?_, rfl,
      fun entry mem => mem_cons_of_mem _ (known entry mem)⟩
    show Mirrors _ _ _ (Function.update buckets (preAuthKey clientIp) after _)
    rwa [Function.update_self]

/-! ## Runs -/

variable {joint : Buckets} {alone : Surface → Buckets} {rest : List Request}

/-- The verdicts under one key are those of the surfaces by themselves. -/
def Undisturbed (settings : Settings) (clientIp : String) (joint : Buckets)
    (alone : Surface → Buckets) (requests : List Request) : Prop :=
  ∀ surface, verdictsOn surface (arrivals settings clientIp joint requests) =
    arrivals settings clientIp (alone surface) (onSurface surface requests)

theorem undisturbed_cons : Undisturbed settings clientIp joint alone (request :: rest) ↔
      (arrive settings clientIp joint request).2 =
          (arrive settings clientIp (alone request.surface) request).2 ∧
        Undisturbed settings clientIp (arrive settings clientIp joint request).1
          (Function.update alone request.surface
            (arrive settings clientIp (alone request.surface) request).1) rest := by
  have split : ∀ surface, (verdictsOn surface (arrivals settings clientIp joint (request :: rest)) =
          arrivals settings clientIp (alone surface) (onSurface surface (request :: rest))) ↔
        (request.surface = surface → (arrive settings clientIp joint request).2 =
          (arrive settings clientIp (alone request.surface) request).2) ∧
        verdictsOn surface (arrivals settings clientIp (arrive settings clientIp joint request).1
            rest) =
          arrivals settings clientIp (Function.update alone request.surface
            (arrive settings clientIp (alone request.surface) request).1 surface)
            (onSurface surface rest) := by
    intro surface
    by_cases here : request.surface = surface
    · subst here
      simp [verdictsOn, onSurface, arrivals]
    · simp [verdictsOn, onSurface, arrivals, here, Function.update_of_ne (Ne.symm here)]
  constructor
  · intro undisturbed
    exact ⟨((split request.surface).mp (undisturbed request.surface)).1 rfl,
      fun surface => ((split surface).mp (undisturbed surface)).2⟩
  · rintro ⟨here, there⟩ surface
    exact (split surface).mpr ⟨fun _ => here, there surface⟩

/-- Limits and windows as the validator of the settings admits them. -/
structure Positive (settings : Settings) : Prop where
  limit : ∀ surface, 0 < (settings surface).limit
  window : ∀ surface, 0 < (settings surface).window

theorem undisturbed_iff_harmless (pos : Positive settings) : ∀ (requests : List Request)
    (joint : Buckets) (alone : Surface → Buckets) (ledger : Ledger) (now : ℚ)
    (seen : List String), Holds seen ledger (joint (preAuthKey clientIp)) →
      (∀ surface, Logged settings surface now seen (ledger.own surface)
        (alone surface (preAuthKey clientIp))) →
      (∀ request ∈ requests, now ≤ request.visit.now) →
      (requests.map fun request => request.visit.now).Pairwise (· ≤ ·) →
      (requests.map fun request => request.visit.member).Nodup →
      (∀ request ∈ requests, request.visit.member ∉ seen) →
        (Undisturbed settings clientIp joint alone requests ↔
          Harmless settings ledger requests) := by
  intro requests
  induction requests with
  | nil => exact fun _ _ _ _ _ _ _ _ _ _ _ => iff_of_true (fun _ => rfl) trivial
  | cons request rest ih =>
    intro joint alone ledger now seen holds logged after ordered distinct unseen
    obtain ⟨follows, restOrdered⟩ := pairwise_cons.mp ordered
    have restDistinct := (nodup_cons.mp distinct).2
    have fresh := unseen request mem_cons_self
    have later := after request mem_cons_self
    obtain ⟨verdict, kept⟩ := arrive_shared (pos.window request.surface) holds fresh
    obtain ⟨own, mirrored⟩ := arrive_alone (pos.limit request.surface)
      (pos.window request.surface) (logged request.surface) later fresh
    have same : (arrive settings clientIp joint request).2 =
        (arrive settings clientIp (alone request.surface) request).2 ↔
          (ledger.hasRoom settings request ↔ ((ledger.left settings request).length : Int) <
            (settings request.surface).limit) := by
      rw [verdict, own]
      show _ = (if ledger.hasRoom settings request then _ else _) ↔ _
      by_cases first : ledger.hasRoom settings request
      · by_cases second : ((ledger.left settings request).length : Int) <
            (settings request.surface).limit
        · simp [second]
        · simp [second]
      · by_cases second : ((ledger.left settings request).length : Int) <
            (settings request.surface).limit
        · simp [second]
        · simp [second]
    rw [undisturbed_cons, same, Harmless]
    apply and_congr_right
    intro agree
    refine ih _ _ _ request.visit.now (request.visit.member :: seen) (kept agree) ?_ ?_
      restOrdered restDistinct (unseen_rest distinct unseen)
    · intro surface
      by_cases here : surface = request.surface
      · subst here
        rw [Function.update_self, Ledger.after_own_self]
        exact mirrored
      · rw [Function.update_of_ne here, Ledger.after_own_of_ne settings ledger request here]
        exact (logged surface).mono later fun name mem => mem_cons_of_mem _ mem
    · exact fun other mem => follows _ (mem_map_of_mem mem)

theorem passedWithin_cons (rate : Rate) (final : ℚ) (request : Request) (verdict : Verdict)
    (entries : List (Request × Verdict)) :
    passedWithin rate final ((request, verdict) :: entries) = passedWithin rate final entries +
      if verdict = .passes ∧ final - rate.window < request.visit.now ∧
        request.visit.now ≤ final then 1 else 0 := by
  simp only [passedWithin, countP_cons, decide_eq_true_eq]

variable (clientIp) in
theorem passedWithin_alone (pos : Positive settings) {surface : Surface} (final : ℚ) :
    ∀ (requests : List Request) (buckets : Buckets) (now : ℚ) (seen : List String)
      (log : List ℚ), Logged settings surface now seen log (buckets (preAuthKey clientIp)) →
      Sparse (preAuthPolicy (settings surface)) log →
      (∀ request ∈ requests, request.surface = surface) →
      (∀ request ∈ requests, now ≤ request.visit.now) →
      (requests.map fun request => request.visit.now).Pairwise (· ≤ ·) →
      (requests.map fun request => request.visit.member).Nodup →
      (∀ request ∈ requests, request.visit.member ∉ seen) →
        (passedWithin (settings surface) final (arrivals settings clientIp buckets requests) +
          recent (preAuthPolicy (settings surface)) final log : Int) ≤
            (settings surface).limit := by
  intro requests
  induction requests with
  | nil =>
    intro buckets now seen log _ sparse _ _ _ _ _
    have within : (recent (preAuthPolicy (settings surface)) final log : Int) ≤
      (settings surface).limit := sparse final
    simpa [arrivals, passedWithin] using within
  | cons request rest ih =>
    intro buckets now seen log logged sparse mine after ordered distinct unseen
    obtain rfl := mine request mem_cons_self
    obtain ⟨follows, restOrdered⟩ := pairwise_cons.mp ordered
    have restDistinct := (nodup_cons.mp distinct).2
    have later := after request mem_cons_self
    obtain ⟨verdict, kept⟩ := arrive_alone (pos.limit request.surface)
      (pos.window request.surface) logged later (unseen request mem_cons_self)
    have restBound := fun log kept sparse => ih (arrive settings clientIp buckets request).1
      request.visit.now (request.visit.member :: seen) log kept sparse
      (fun other mem => mine other (mem_cons_of_mem _ mem))
      (fun other mem => follows _ (mem_map_of_mem mem)) restOrdered restDistinct
      (unseen_rest distinct unseen)
    rw [arrivals, passedWithin_cons, verdict]
    by_cases room : (recent (preAuthPolicy (settings request.surface)) request.visit.now log :
        Int) < (settings request.surface).limit
    · rw [if_pos room] at kept ⊢
      have bound := restBound _ kept (sparse.cons (fun stamp mem =>
        le_trans (logged.past stamp mem) later) room)
      have counted : recent (preAuthPolicy (settings request.surface)) final
          (request.visit.now :: log) = recent (preAuthPolicy (settings request.surface)) final log +
              if final - (settings request.surface).window < request.visit.now ∧
                request.visit.now ≤ final then 1 else 0 := recent_cons _ _ _ _
      simp only [true_and]
      rw [counted] at bound
      push_cast at bound ⊢
      linarith
    · rw [if_neg room] at kept ⊢
      have bound := restBound _ kept sparse
      simpa using bound

theorem logged_vacant (pos : Positive settings) (surface : Surface) (now : ℚ) :
    Logged settings surface now [] [] (vacant (preAuthKey clientIp)) :=
  ⟨now, [], le_refl now, mirrors_none _ (le_of_lt (pos.limit surface)) now, rfl,
    fun _ absent => absurd absent not_mem_nil⟩

theorem bounded_alone (pos : Positive settings) (surface : Surface) (requests : List Request)
    (ordered : (requests.map fun request => request.visit.now).Pairwise (· ≤ ·))
    (distinct : (requests.map fun request => request.visit.member).Nodup) (final : ℚ) :
    (passedWithin (settings surface) final
      (arrivals settings clientIp vacant (onSurface surface requests)) : Int) ≤
        (settings surface).limit := by
  have chosen : (onSurface surface requests).Sublist requests := filter_sublist
  have mine : ∀ request ∈ onSurface surface requests, request.surface = surface :=
    fun request mem => of_decide_eq_true (mem_filter.mp mem).2
  have ordered' := ordered.sublist (chosen.map fun request => request.visit.now)
  have distinct' := distinct.sublist (chosen.map fun request => request.visit.member)
  have sparse : Sparse (preAuthPolicy (settings surface)) [] :=
    fun _ => le_of_lt (pos.limit surface)
  cases shape : onSurface surface requests with
  | nil => exact le_of_lt (pos.limit surface)
  | cons first rest =>
    rw [shape] at mine ordered' distinct'
    have bound := passedWithin_alone clientIp pos final (first :: rest) vacant
      first.visit.now [] [] (logged_vacant pos surface first.visit.now) sparse mine
      (le_of_ordered_cons ordered') ordered' distinct' (fun _ _ => not_mem_nil)
    simpa [recent] using bound

end Settings

theorem independent_iff_harmless {settings : Settings} (pos : Positive settings)
    (clientIp : String) {requests : List Request}
    (ordered : (requests.map fun request => request.visit.now).Pairwise (· ≤ ·))
    (distinct : (requests.map fun request => request.visit.member).Nodup) :
    Independent settings clientIp requests ↔ Harmless settings Ledger.start requests := by
  cases requests with
  | nil => exact iff_of_true (fun _ => rfl) trivial
  | cons first rest =>
    exact undisturbed_iff_harmless pos (first :: rest) vacant (fun _ => vacant)
      Ledger.start first.visit.now [] Holds.start
      (fun surface => logged_vacant pos surface first.visit.now)
      (le_of_ordered_cons ordered) ordered distinct (fun _ _ => not_mem_nil)

/-- The surfaces do not influence each other, and each keeps to its limit in every window, just
if the admissions they would make by themselves never crowd each other out of the one key or
take each other from it. -/
theorem pre_auth_independent_iff (settings : Settings) (positive : Positive settings)
    (clientIp : String) (requests : List Request)
    (ordered : (requests.map fun request => request.visit.now).Pairwise (· ≤ ·))
    (distinct : (requests.map fun request => request.visit.member).Nodup) :
    (Independent settings clientIp requests ∧ Bounded settings clientIp requests) ↔
      Harmless settings Ledger.start requests := by
  rw [← independent_iff_harmless positive clientIp ordered distinct]
  refine ⟨And.left, fun apart => ⟨apart, fun surface final => ?_⟩⟩
  rw [apart surface]
  exact bounded_alone positive surface requests ordered distinct final

def rates (proxy management : Rate) : Settings
  | .proxy => proxy
  | .management => management

/-- `20/minute` and `100/minute`. -/
def defaults : Settings := rates ⟨20, 60⟩ ⟨100, 60⟩

def requestAt (surface : Surface) (now : ℚ) : Request := ⟨surface, now, 1 / 2⟩

theorem positive_defaults : Positive defaults where
  limit surface := by cases surface <;> decide
  window surface := by cases surface <;> decide

/-- A few calls of each surface leave each other alone. -/
theorem few_calls_independent : Independent defaults "10.0.0.1"
        [requestAt .proxy 0, requestAt .management 1, requestAt .proxy 2] ∧
      Bounded defaults "10.0.0.1"
        [requestAt .proxy 0, requestAt .management 1, requestAt .proxy 2] :=
  (pre_auth_independent_iff defaults positive_defaults "10.0.0.1"
    [requestAt .proxy 0, requestAt .management 1, requestAt .proxy 2] (by decide +kernel)
    (by decide +kernel)).mpr (by decide +kernel)

/-- Under the defaults, twenty requests to the management API lock the address out of the proxy.
With a window of a second, one such request makes the proxy forget its own admissions: of three
within a minute all pass a limit of two. -/
theorem shared_key_interferes : (verdictsOn .proxy (arrivals defaults "10.0.0.1" vacant
        ((List.range 20).map (fun second => requestAt .management second) ++
          [requestAt .proxy 20]))).map Prod.snd = [.limited] ∧
      (arrivals defaults "10.0.0.1" vacant [requestAt .proxy 20]).map Prod.snd = [.passes] ∧
      (verdictsOn .proxy (arrivals (rates ⟨2, 60⟩ ⟨100, 1⟩) "10.0.0.1" vacant
        [requestAt .proxy 0, requestAt .proxy 1, requestAt .management 3,
          requestAt .proxy 4])).map Prod.snd = [.passes, .passes, .passes] ∧
      (arrivals (rates ⟨2, 60⟩ ⟨100, 1⟩) "10.0.0.1" vacant
        [requestAt .proxy 0, requestAt .proxy 1, requestAt .proxy 4]).map Prod.snd =
          [.passes, .passes, .limited] := by
  decide +kernel

end Portcullis.Limits.PreAuth
