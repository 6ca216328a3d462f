import Portcullis.Gateway.SessionRace

/-!
# State that identities share

Session records and rate-limit keys name a subject by tenant and id, without the type of the
identity, and a key has the id in a sanitised and bounded form.  Subjects that agree in what is
named share sessions and buckets.
-/

namespace Portcullis.Gateway.IdentitySharing

open Auth.Rbac (Subject)
open Gateway.JsonRpc (RpcId)
open Gateway.Mediation Gateway.Session Gateway.SessionRace Gateway.SessionText Lib
open Limits.Policies (Scope)
open Limits.RedisBucket

/-! ## Sessions -/

/-- A request of the second subject presents a session that was recorded for the first, on
whichever servers, and passes `validate_session`. -/
def SharesSession (recorded presenting : Subject) : Prop :=
  ∃ (ctx : Context) (rpcId : Option RpcId) (env : (op : Op) → Ans op)
    (sessionId serverSlug : String),
    ctx.request.header "mcp-session-id" = some sessionId ∧ sessionId ≠ "" ∧
      env (.redisGet (sessionKey sessionId)) =
        .ok (some (payloadText recorded.tenantId recorded.subjectId serverSlug)) ∧
      Prog.exec env (validateSession ctx presenting rpcId) = .ok ()

section Validation

variable {env : (op : Op) → Ans op} (sessionId : String) (owner : Owner)
  (stored : env (.redisGet (sessionKey sessionId)) = .ok (some owner.text))
include stored

theorem exec_lookup_owner (platform : Platform) : Prog.exec env (lookup platform sessionId) =
      if platform.jsonLimits.depth = 0 then .error (.raise .recursionError)
      else
        match env (.redisExpire (sessionKey sessionId) sessionTtlSeconds) with
        | .ok _ => .ok (some owner.record)
        | .error exn => .error (.raise exn) := by
  have parsed := parse_payloadText owner.tenantId owner.subjectId owner.serverSlug
    platform.jsonLimits
  unfold Session.lookup
  rw [Prog.exec_bind]
  simp only [request, Prog.exec_request, stored, Except.bind, Owner.text, parsed]
  by_cases flat : platform.jsonLimits.depth = 0
  · simp [flat, Except.map, raise]
  simp only [flat, if_false, Except.map, Prog.exec_bind, Prog.exec_request]
  cases env (.redisExpire (sessionKey sessionId) sessionTtlSeconds) with
  | ok _ => rfl
  | error exn => rfl

theorem validateSession_accepts_iff {ctx : Context} {presenting : Subject}
    {rpcId : Option RpcId} (presented : ctx.request.header "mcp-session-id" = some sessionId)
    (named : sessionId ≠ "") :
    Prog.exec env (validateSession ctx presenting rpcId) = .ok () ↔
      isValidSessionId sessionId = true ∧ ctx.platform.jsonLimits.depth ≠ 0 ∧
        env (.redisExpire (sessionKey sessionId) sessionTtlSeconds) = .ok () ∧
        owner = ⟨presenting.tenantId, presenting.subjectId, ctx.request.serverSlug⟩ := by
  have looked := exec_lookup_owner sessionId owner stored ctx.platform
  have matched : matchesOwner (some owner.record) presenting.tenantId presenting.subjectId
      ctx.request.serverSlug = true ↔
        owner = ⟨presenting.tenantId, presenting.subjectId, ctx.request.serverSlug⟩ :=
    (matchesOwner_some _ _ _ _).trans
      ⟨fun same => Owner.record_injective _ _ same, fun same => by rw [same]; rfl⟩
  rw [← matched]
  unfold validateSession
  simp only [presented, if_neg named]
  cases valid : isValidSessionId sessionId with
  | false => simp [respond]
  | true =>
    simp only [Bool.not_true, Bool.false_eq_true, if_false, Prog.exec_bind, exceptAll,
      Prog.exec_recover, looked]
    by_cases flat : ctx.platform.jsonLimits.depth = 0
    · simp [flat, respond, Except.bind]
    simp only [flat, if_false, ne_eq]
    cases env (.redisExpire (sessionKey sessionId) sessionTtlSeconds) with
    | error exn => simp [respond, Except.bind]
    | ok done =>
      simp only [Except.bind]
      split
      · rename_i owned
        simp [owned]
      · rename_i foreign
        simp [foreign, respond]

end Validation

theorem sharesSession_iff (recorded presenting : Subject) : SharesSession recorded presenting ↔
      recorded.tenantId = presenting.tenantId ∧ recorded.subjectId = presenting.subjectId := by
  constructor
  · rintro ⟨ctx, rpcId, env, sessionId, serverSlug, presented, named, stored, acc⟩
    have owned := ((validateSession_accepts_iff sessionId
      ⟨recorded.tenantId, recorded.subjectId, serverSlug⟩ stored presented named).mp acc).2.2.2
    exact ⟨congrArg Owner.tenantId owned, congrArg Owner.subjectId owned⟩
  · rintro ⟨sameTenant, sameSubject⟩
    refine ⟨inSession (sampleContext "" []) "session-0001", none,
      ({ sampleSnapshot [] emptyUpstream with
        redis := fun _ => .ok (some (payloadText recorded.tenantId recorded.subjectId
          "github-mcp")) } : Snapshot).answer, "session-0001", "github-mcp", by decide, by decide,
      rfl, ?_⟩
    refine (validateSession_accepts_iff "session-0001"
      ⟨recorded.tenantId, recorded.subjectId, "github-mcp"⟩ rfl (by decide) (by decide)).mpr
        ⟨by decide, by decide, rfl, ?_⟩
    rw [sameTenant, sameSubject]
    rfl

/-! ## Buckets -/

/-- A request of each, under policies that do not count globally, is counted under one key. -/
def SharesBucket (first second : Subject) : Prop :=
  ∃ (firstSlug firstTool secondSlug secondTool : String) (firstScope secondScope : Scope),
    firstScope ≠ .global ∧ secondScope ≠ .global ∧
      checkKey first.tenantId first.subjectId firstSlug firstTool firstScope =
        checkKey second.tenantId second.subjectId secondSlug secondTool secondScope

theorem head?_segments (subjectId serverSlug toolOrMethod : String) {scope : Scope}
    (counted : scope ≠ .global) :
    (segments subjectId serverSlug toolOrMethod scope).head? =
      some (sanitizeSegment subjectId 200).toList := by
  cases scope with
  | global => exact absurd rfl counted
  | _ => rfl

theorem sharesBucket_iff (first second : Subject) : SharesBucket first second ↔
      first.tenantId = second.tenantId ∧
        sanitizeSegment first.subjectId 200 = sanitizeSegment second.subjectId 200 := by
  constructor
  · rintro ⟨firstSlug, firstTool, secondSlug, secondTool, firstScope, secondScope,
      firstCounted, secondCounted, same⟩
    obtain ⟨sameTenant, sameSegments⟩ := (checkKey_eq_iff _ _ _ _ _ _ _ _ _ _).mp same
    have heads := congrArg List.head? sameSegments
    rw [head?_segments _ _ _ firstCounted, head?_segments _ _ _ secondCounted] at heads
    exact ⟨sameTenant, String.toList_injective (Option.some.inj heads)⟩
  · rintro ⟨sameTenant, sameSubject⟩
    refine ⟨"", "", "", "", .subject, .subject, nofun, nofun, ?_⟩
    rw [checkKey, checkKey, sameTenant, sameSubject]

end Portcullis.Gateway.IdentitySharing
