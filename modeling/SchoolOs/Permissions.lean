import Mathlib.Data.Finset.Basic
import Mathlib.Tactic.Common

/-!
Permission codes and data scopes. A permission answers which action, a data scope which
rows.
-/

namespace SchoolOs

/-- Row-visibility tier. -/
inductive DataScope
  | own | assigned | school | organization | platform
  deriving DecidableEq

def DataScope.value : DataScope → String
  | .own => "OWN"
  | .assigned => "ASSIGNED"
  | .school => "SCHOOL"
  | .organization => "ORGANIZATION"
  | .platform => "PLATFORM"

/-- The position of a scope in `_ORDER`. The code only ever compares two of them. -/
def DataScope.strength : DataScope → ℕ
  | .own => 0
  | .assigned => 1
  | .school => 2
  | .organization => 3
  | .platform => 4

/-- `DataScope.strongest`: the scope of largest strength in a set. -/
def DataScope.strongest (scopes : Finset DataScope) : Option DataScope :=
  [.platform, .organization, .school, .assigned, .own].find? (· ∈ scopes)

/-- A code-declared permission; its code joins the three parts with dots. -/
structure Permission where
  module : String
  resource : String
  action : String
  deriving DecidableEq

def Permission.code (p : Permission) : String := p.module ++ "." ++ p.resource ++ "." ++ p.action

/-! ### The permissions of the access-control module -/

def pUserCreate : Permission := ⟨"iam", "user", "create"⟩
def pUserUpdate : Permission := ⟨"iam", "user", "update"⟩
def pUserDelete : Permission := ⟨"iam", "user", "delete"⟩
def pUserTogglePlatformAdmin : Permission := ⟨"iam", "user", "toggle_platform_admin"⟩
def pMembershipCreate : Permission := ⟨"iam", "membership", "create"⟩
def pMembershipUpdate : Permission := ⟨"iam", "membership", "update"⟩
def pMembershipDelete : Permission := ⟨"iam", "membership", "delete"⟩
def pMembershipGrantRole : Permission := ⟨"iam", "membership", "grant_role"⟩
def pMembershipRevokeRole : Permission := ⟨"iam", "membership", "revoke_role"⟩
def pRoleCreate : Permission := ⟨"iam", "role", "create"⟩
def pRoleUpdate : Permission := ⟨"iam", "role", "update"⟩
def pRoleDelete : Permission := ⟨"iam", "role", "delete"⟩

end SchoolOs
