import Portcullis.Gateway.Snapshot

/-!
# Tenant and identity isolation

What the checks of a request compute from the database depends on the rows of the
caller's tenant, and of these on the bindings of the very caller.  Rate-limit keys of
different tenants never coincide.
-/

namespace Portcullis.Gateway.Isolation

open Auth.Rbac Lib Lib.Glob Limits.Policies Limits.RedisBucket Models Repositories List

/-- Everything the checks decide from the database for one tool of one caller. -/
structure Authorization where
  server : Option McpServer
  allowed : Bool
  policy : Except DefaultError EffectivePolicy
  key : Except DefaultError String

/-- `rows` are the permission rows in the order the database returned them. -/
def authorization (ctx : Context) (database : Database) (rows : List ToolPermission)
    (subject : Subject) (toolName : String) : Authorization :=
  let policy := effectivePolicy ctx subject toolName (database.listPolicies subject.tenantId)
  { server := database.getBySlug subject.tenantId ctx.request.serverSlug
    allowed := (evaluatePermission fnmatchcase subject.subjectId ctx.request.serverSlug
      toolName rows).allowed
    policy := policy
    key := policy.map (limiterKey ctx subject toolName) }

theorem authorization_congr (ctx : Context) (left right : Database) (subject : Subject)
    (toolName : String) (leftRows rightRows : List ToolPermission)
    (agree : AgreeOn left right subject.tenantId subject.subjectType subject.subjectId)
    (leftReturned : leftRows.Perm (left.getPermissionsForSubject subject.tenantId
      subject.subjectType subject.subjectId))
    (rightReturned : rightRows.Perm (right.getPermissionsForSubject subject.tenantId
      subject.subjectType subject.subjectId)) :
    authorization ctx left leftRows subject toolName =
      authorization ctx right rightRows subject toolName := by
  have sameRules : ∀ rule, rule ∈ leftRows ↔ rule ∈ rightRows := by
    intro rule
    rw [leftReturned.mem_iff, rightReturned.mem_iff]
    exact agree.mem_permissions rule
  have sameVerdict := allowed_congr fnmatchcase subject.subjectId ctx.request.serverSlug
    toolName rightRows leftRows sameRules
  unfold authorization
  rw [agree.getBySlug_eq, sameVerdict, agree.policies]

/-- Non-interference of authorization, and separation of the tenants' keys. -/
theorem authorization_isolated :
    (∀ (ctx : Context) (left right : Database) (subject : Subject) (toolName : String)
      (leftRows rightRows : List ToolPermission),
      AgreeOn left right subject.tenantId subject.subjectType subject.subjectId →
        leftRows.Perm (left.getPermissionsForSubject subject.tenantId subject.subjectType
          subject.subjectId) →
        rightRows.Perm (right.getPermissionsForSubject subject.tenantId subject.subjectType
          subject.subjectId) →
        authorization ctx left leftRows subject toolName =
          authorization ctx right rightRows subject toolName) ∧
      ∀ (tenant other : Uuid) (subjectId slug tool otherSubjectId otherSlug otherTool : String)
        (scope otherScope : Scope), tenant ≠ other → checkKey tenant subjectId slug tool scope ≠
            checkKey other otherSubjectId otherSlug otherTool otherScope := by
  refine ⟨?_, ?_⟩
  · intro ctx left right subject toolName leftRows rightRows agree leftReturned rightReturned
    exact authorization_congr ctx left right subject toolName leftRows rightRows agree
      leftReturned rightReturned
  · intro tenant other subjectId slug tool otherSubjectId otherSlug otherTool scope otherScope
      ne sameKey
    exact ne ((checkKey_eq_iff _ _ _ _ _ _ _ _ _ _).mp sameKey).1

def ownRule : ToolPermission := ⟨⟨5#128⟩, ⟨3#128⟩, "github-mcp", "github_list_*", .allow, 0⟩

def foreignRule : ToolPermission := ⟨⟨6#128⟩, ⟨7#128⟩, "*", "*", .allow, 9⟩

/-- The sample database with a role of another tenant, bound to a subject of the same
id, and the same id bound to the tenant's own role as an API key. -/
def crowdedDatabase : Database where
  servers := { sampleServer with tenantId := ⟨8#128⟩ } :: [sampleServer]
  roles := ⟨⟨7#128⟩, ⟨8#128⟩, "owner"⟩ :: (sampleDatabase [ownRule]).roles
  bindings := ⟨⟨9#128⟩, ⟨7#128⟩, .oauthSubject, sampleSubject.subjectId⟩ ::
    ⟨⟨10#128⟩, ⟨3#128⟩, .apiKey, sampleSubject.subjectId⟩ ::
    (sampleDatabase [ownRule]).bindings
  permissions := [foreignRule, ownRule]
  policies := []

theorem crowdedDatabase_agrees :
    AgreeOn (sampleDatabase [ownRule]) crowdedDatabase sampleSubject.tenantId
      sampleSubject.subjectType sampleSubject.subjectId where
  roles := by
    intro role ofTenant
    constructor
    · intro mem
      exact mem_cons_of_mem _ mem
    intro mem
    rcases mem_cons.mp mem with foreign | own
    · rw [foreign] at ofTenant
      exact absurd ofTenant (by decide)
    · exact own
  permissions := by
    intro permission role roleMember _ ofRole
    have isOwn : role = ⟨⟨3#128⟩, sampleSubject.tenantId, "analyst"⟩ :=
      mem_singleton.mp roleMember
    constructor
    · intro mem
      exact mem_cons_of_mem _ mem
    intro mem
    rcases mem_cons.mp mem with foreign | own
    · rw [foreign, isOwn] at ofRole
      exact absurd ofRole (by decide)
    · exact own
  bindings := by
    intro binding role roleMember _ ofRole ofType _
    have isOwn : role = ⟨⟨3#128⟩, sampleSubject.tenantId, "analyst"⟩ :=
      mem_singleton.mp roleMember
    constructor
    · intro mem
      exact mem_cons_of_mem _ (mem_cons_of_mem _ mem)
    intro mem
    rcases mem_cons.mp mem with foreign | rest
    · rw [foreign, isOwn] at ofRole
      exact absurd ofRole (by decide)
    rcases mem_cons.mp rest with otherType | own
    · rw [otherType] at ofType
      exact absurd ofType (by decide)
    · exact own
  servers := by decide
  policies := rfl

theorem authorization_isolated_sample :
    authorization (sampleContext "" []) (sampleDatabase [ownRule]) [ownRule] sampleSubject
        "github_list_issues" =
      authorization (sampleContext "" []) crowdedDatabase [ownRule] sampleSubject
        "github_list_issues" :=
  authorization_isolated.1 (sampleContext "" []) (sampleDatabase [ownRule]) crowdedDatabase
    sampleSubject "github_list_issues" [ownRule] [ownRule] crowdedDatabase_agrees
    (List.Perm.of_eq (by decide)) (List.Perm.of_eq (by decide))

end Portcullis.Gateway.Isolation
