import SchoolOs.Principal
import SchoolOs.Rls

/-!
The context of a request: who acts, under which tenant, and the guards of the routes.
-/

namespace SchoolOs

/-- What the guards and the services read off a request. -/
structure HttpRequest where
  /-- The subject of a valid access token. -/
  identity : Option Ulid
  schoolIdHeader : Option String
  requestId : String
  clientIp : Option String
  userAgent : Option String
  deriving DecidableEq

/-- The user id is `none` where the source has the empty string. -/
structure RequestContext where
  userId : Option Ulid
  personId : Option Ulid
  email : Option String
  organizationId : Option Ulid
  schoolId : Option Ulid
  accessibleSchoolIds : Finset Ulid
  permissions : Finset String
  permissionScopes : Scopes
  roleCodes : Finset String
  scope : Option DataScope
  requestId : String
  ipAddress : Option String
  isPlatformAdmin : Bool

namespace RequestContext

def hasPermission (ctx : RequestContext) (code : String) : Bool :=
  ctx.isPlatformAdmin || code ∈ ctx.permissions

/-- Strongest scope under which the principal holds the code. -/
def effectiveScopeFor (ctx : RequestContext) (code : String) : Option DataScope :=
  if ctx.isPlatformAdmin then some .platform else ctx.permissionScopes.lookup code

end RequestContext

def getCurrentUserId (request : HttpRequest) : Fallible Ulid :=
  found request.identity authenticationError

def contextOf (principal : Principal) (request : HttpRequest) : RequestContext where
  userId := some principal.userId
  personId := principal.personId
  email := principal.email
  organizationId := principal.organizationId
  schoolId := principal.schoolId
  accessibleSchoolIds := principal.accessibleSchoolIds
  permissions := principal.permissions
  permissionScopes := principal.permissionScopes
  roleCodes := principal.roleCodes
  scope := principal.scope
  requestId := request.requestId
  ipAddress := request.clientIp
  isPlatformAdmin := principal.isPlatformAdmin

section Guards

variable (db : DB) (ord : RowOrder) (clk : Clock)

/-- Resolves the principal and binds the tenant settings of the transaction. -/
def getContext (request : HttpRequest) : Fallible (RequestContext × Gucs) := do
  let userId ← getCurrentUserId request
  let principal ← resolvePrincipal db ord clk userId request.schoolIdHeader
  let gucs := setTenantContext Gucs.unset principal.schoolId principal.organizationId
  return (contextOf principal request, gucs)

/-- Minimal context for requests that carry no identity. -/
def systemCtx (ipAddress : Option String) : RequestContext where
  userId := none
  personId := none
  email := none
  organizationId := none
  schoolId := none
  accessibleSchoolIds := ∅
  permissions := ∅
  permissionScopes := ∅
  roleCodes := ∅
  scope := none
  requestId := ""
  ipAddress := ipAddress
  isPlatformAdmin := false

/-- The guard a route with `require(permission, scope)` runs on its context. -/
def guard (permission : Permission) (scope : Option DataScope) (ctx : RequestContext) :
    Fallible Unit := do
  let effective ← found (ctx.effectiveScopeFor permission.code)
    (forbiddenError ("Missing permission: " ++ permission.code))
  ensure (∀ s ∈ scope, s.strength ≤ effective.strength)
    (forbiddenError ("Insufficient scope for: " ++ permission.code))

def require (permission : Permission) (scope : Option DataScope) (request : HttpRequest) :
    Fallible RequestContext := do
  let (ctx, _) ← getContext db ord clk request
  guard permission scope ctx
  return ctx

def requireAuthenticated (request : HttpRequest) : Fallible RequestContext := do
  let (ctx, _) ← getContext db ord clk request
  ensure (ctx.userId ≠ none) authenticationError
  return ctx

end Guards

variable {db : DB} {ord : RowOrder} {clk : Clock}

lemma getContext_ok {request : HttpRequest} {r : RequestContext × Gucs} :
    getContext db ord clk request = .ok r ↔
      ∃ u p, request.identity = some u ∧
        resolvePrincipal db ord clk u request.schoolIdHeader = .ok p ∧
        r = (contextOf p request, setTenantContext Gucs.unset p.schoolId p.organizationId) := by
  simp only [getContext, getCurrentUserId, bind_ok, found_ok, pure_ok]
  refine ⟨?_, ?_⟩
  · rintro ⟨u, hu, p, hp, rfl⟩
    exact ⟨u, p, hu, hp, rfl⟩
  · rintro ⟨u, p, hu, hp, rfl⟩
    exact ⟨u, hu, p, hp, rfl⟩

lemma requireAuthenticated_ok {request : HttpRequest} {ctx : RequestContext} :
    requireAuthenticated db ord clk request = .ok ctx ↔
      ∃ u p, request.identity = some u ∧
        resolvePrincipal db ord clk u request.schoolIdHeader = .ok p ∧
        contextOf p request = ctx := by
  simp only [requireAuthenticated, bind_ok, getContext_ok, ensure_ok, pure_ok]
  refine ⟨?_, ?_⟩
  · rintro ⟨r, ⟨u, p, hu, hp, rfl⟩, _, _, rfl⟩
    exact ⟨u, p, hu, hp, rfl⟩
  · rintro ⟨u, p, hu, hp, rfl⟩
    exact ⟨_, ⟨u, p, hu, hp, rfl⟩, (), by simp [contextOf], rfl⟩

end SchoolOs
