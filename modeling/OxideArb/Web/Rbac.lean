import Mathlib.Data.Finset.Image
import OxideArb.Lib.Table
import OxideArb.Web.Jwt

/-!
# Roles and policies

Users, roles, memberships and policy lines are rows of the database; every write is one
transaction. The enforcer is a copy of the policy lines, refreshed by a reload.
-/

namespace OxideArb.Web

open Checked

inductive RoleStatus
  | enabled
  | disabled
deriving DecidableEq, Repr

inductive RoleKind
  | builtin
  | custom
deriving DecidableEq, Repr

inductive ResourceType
  | system | market | opportunity | trade | pnl | risk | blacklist | runtimeConfig
  | controlFactor | publication | materialization | replay | analytics | audit
  | operationLog | user | role | menu | permission
deriving DecidableEq, Repr

inductive Operation
  | read | create | update | delete | assign | halt | resume | switchMode | reset | reject
  | shadow | publish | rollback | activate | enqueue | emergency
deriving DecidableEq, Repr

structure RoleId where
  text : String
deriving DecidableEq, Repr

structure RoleInfo where
  id : RoleId
  code : String
  kind : RoleKind
  status : RoleStatus
deriving DecidableEq, Repr

/-! ## The database -/

/-- The rows of users, roles and memberships, and the policy lines kept beside them. A
membership refers to a role that exists, and no two roles share a code. -/
structure Db where
  users : Table UserInfo.id
  roles : Table RoleInfo.id
  userRoles : Finset (UserId × RoleId)
  /-- The `g` lines: a user and a role code. -/
  groupings : Finset (UserId × String)
  /-- The `p` lines: a role code and a permission. -/
  policies : Finset (String × ResourceType × Operation)
  foreignKey : ∀ row ∈ userRoles, (roles.get row.2).isSome = true
  uniqueCode : ∀ a ∈ roles.rows, ∀ b ∈ roles.rows, a.code = b.code → a.id = b.id

inductive StorageError
  | notFound (entity : String)
  | conflict
deriving DecidableEq, Repr

namespace Db

def empty : Db where
  users := .empty
  roles := .empty
  userRoles := ∅
  groupings := ∅
  policies := ∅
  foreignKey row h := absurd h (Finset.notMem_empty row)
  uniqueCode _ h := absurd h List.not_mem_nil

variable (db : Db) (id : UserId)

def createUser (user : UserInfo) : Except StorageError Db :=
  match db.users.insert user with
  | none => .error .conflict
  | some users => .ok { db with users := users }

def changeUserStatus (status : UserStatus) : Except StorageError Db :=
  let (hit, users) := db.users.updateKey id (fun _ => true) (fun row => { row with status := status })
    fun _ => rfl
  if hit then .ok { db with users := users } else .error (.notFound "user")

def deleteUser : Except StorageError Db :=
  match db.users.get id with
  | none => .error (.notFound "user")
  | some _ =>
    .ok { db with
      users := db.users.without id
      userRoles := db.userRoles.filter (·.1 ≠ id)
      groupings := db.groupings.filter (·.1 ≠ id)
      foreignKey := fun row h => db.foreignKey row (Finset.mem_of_mem_filter row h) }

def codesOf (ids : Finset RoleId) (p : RoleInfo → Bool) : Finset String :=
  ((db.roles.rows.filter fun role => role.id ∈ ids ∧ p role = true).map RoleInfo.code).toFinset

def rolesOf : Finset RoleId :=
  (db.userRoles.filter (·.1 = id)).image Prod.snd

def setRoles (roleIds : List RoleId) : Except StorageError Db :=
  let target := roleIds.toFinset
  match db.users.get id with
  | none => .error (.notFound "user")
  | some _ =>
    if hall : ∀ role ∈ target, (db.roles.get role).isSome = true then
      let current := db.rolesOf id
      let added := target \ current
      let removed := current \ target
      .ok { db with
        userRoles := (db.userRoles ∪ added.image fun role => (id, role)).filter fun row =>
          ¬ (row.1 = id ∧ row.2 ∈ removed)
        groupings := (db.groupings ∪
          (db.codesOf added fun role => role.status = .enabled).image fun code => (id, code)).filter
            fun line => ¬ (line.1 = id ∧ line.2 ∈ db.codesOf removed fun _ => true)
        foreignKey := by
          intro row h
          rcases Finset.mem_union.mp (Finset.mem_of_mem_filter row h) with h | h
          · exact db.foreignKey row h
          · obtain ⟨role, hrole, rfl⟩ := Finset.mem_image.mp h
            exact hall role (Finset.mem_sdiff.mp hrole).1 }
    else .error (.notFound "role")

def createRole (id : RoleId) (code : String) : Except StorageError Db :=
  if hcode : ∀ role ∈ db.roles.rows, role.code ≠ code then
    match hinsert : db.roles.insert ⟨id, code, .custom, .enabled⟩ with
    | none => .error .conflict
    | some roles =>
      .ok { db with
        roles := roles
        foreignKey := by
          intro row h
          have hsome := db.foreignKey row h
          by_cases hid : row.2 = id
          · rw [hid, Table.get_insert hinsert]
            rfl
          · rw [Table.get_insert_ne hinsert hid]
            exact hsome
        uniqueCode := by
          have hrows : roles.rows = db.roles.rows ++ [⟨id, code, .custom, .enabled⟩] :=
            Table.rows_insert hinsert
          intro a ha b hb hab
          rw [hrows] at ha hb
          rcases List.mem_append.mp ha with ha | ha
          · rcases List.mem_append.mp hb with hb | hb
            · exact db.uniqueCode a ha b hb hab
            · rw [List.mem_singleton.mp hb] at hab
              exact absurd hab (hcode a ha)
          · rw [List.mem_singleton.mp ha] at hab ⊢
            rcases List.mem_append.mp hb with hb | hb
            · exact absurd hab.symm (hcode b hb)
            · rw [List.mem_singleton.mp hb] }
  else .error .conflict

/-- Enable or disable a role. The groupings of a disabled role are dropped, those of an
enabled one rebuilt from its members. -/
def changeRoleStatus (id : RoleId) (status : RoleStatus) : Except StorageError Db :=
  match db.roles.get id with
  | none => .error (.notFound "role")
  | some role =>
    if role.status = status then .ok db
    else
      .ok { db with
        roles := (db.roles.updateKey id (fun _ => true) (fun row => { row with status := status })
          fun _ => rfl).2
        groupings := match status with
          | .disabled => db.groupings.filter (·.2 ≠ role.code)
          | .enabled => db.groupings ∪
            (db.userRoles.filter (·.2 = id)).image fun row => (row.1, role.code)
        foreignKey := by
          intro row h
          rw [Table.isSome_get_updateKey]
          exact db.foreignKey row h
        uniqueCode := by
          intro a ha b hb hab
          have hsame : ∀ {c c₀ : RoleInfo}, c = c₀ ∨ c = { c₀ with status := status } →
              c.code = c₀.code ∧ c.id = c₀.id := by
            rintro c c₀ (rfl | rfl) <;> exact ⟨rfl, rfl⟩
          obtain ⟨a₀, ha₀, ha⟩ := Table.mem_rows_updateKey (by intro; rfl) ha
          obtain ⟨b₀, hb₀, hb⟩ := Table.mem_rows_updateKey (by intro; rfl) hb
          rw [(hsame ha).1, (hsame hb).1] at hab
          rw [(hsame ha).2, (hsame hb).2]
          exact db.uniqueCode a₀ ha₀ b₀ hb₀ hab }

def deleteRole (id : RoleId) : Except StorageError Db :=
  match db.roles.get id with
  | none => .error (.notFound "role")
  | some role =>
    if role.kind = .builtin then .error .conflict
    else
      .ok { db with
        roles := db.roles.without id
        userRoles := db.userRoles.filter (·.2 ≠ id)
        groupings := db.groupings.filter (·.2 ≠ role.code)
        policies := db.policies.filter (·.1 ≠ role.code)
        foreignKey := by
          intro row h
          rw [Finset.mem_filter] at h
          rw [Table.get_without_ne _ h.2]
          exact db.foreignKey row h.1
        uniqueCode := by
          intro a ha b hb
          exact db.uniqueCode a (List.mem_of_mem_filter ha) b (List.mem_of_mem_filter hb) }

def setPermissions (id : RoleId) (permissions : List (ResourceType × Operation)) :
    Except StorageError Db :=
  match db.roles.get id with
  | none => .error (.notFound "role")
  | some role =>
    .ok { db with
      policies := db.policies.filter (·.1 ≠ role.code) ∪
        permissions.toFinset.image fun permission => (role.code, permission) }

end Db

inductive DbOp
  | createUser (user : UserInfo)
  | changeUserStatus (id : UserId) (status : UserStatus)
  | deleteUser (id : UserId)
  | setRoles (id : UserId) (roleIds : List RoleId)
  | createRole (id : RoleId) (code : String)
  | changeRoleStatus (id : RoleId) (status : RoleStatus)
  | deleteRole (id : RoleId)
  | setPermissions (id : RoleId) (permissions : List (ResourceType × Operation))

def Db.run (db : Db) : DbOp → Except StorageError Db
  | .createUser user => db.createUser user
  | .changeUserStatus id status => db.changeUserStatus id status
  | .deleteUser id => db.deleteUser id
  | .setRoles id roleIds => db.setRoles id roleIds
  | .createRole id code => db.createRole id code
  | .changeRoleStatus id status => db.changeRoleStatus id status
  | .deleteRole id => db.deleteRole id
  | .setPermissions id permissions => db.setPermissions id permissions

/-! ## The enforcer and the rules of the routes -/

def superAdminRole : String := "super_admin"

structure Enforcer where
  groupings : Finset (UserId × String)
  policies : Finset (String × ResourceType × Operation)

namespace Enforcer

/-- The matcher: the subject holds `super_admin`, or a role that has the permission. -/
def enforce (e : Enforcer) (sub : String) (resource : ResourceType) (operation : Operation) :
    Bool :=
  (⟨sub⟩, superAdminRole) ∈ e.groupings ∨
    ∃ line ∈ e.policies, (⟨sub⟩, line.1) ∈ e.groupings ∧ line.2 = (resource, operation)

end Enforcer

/-! ## Requests -/

structure WebState where
  db : Db
  enforcer : Enforcer
  blacklist : Blacklist

/-! ## What happens meanwhile -/

inductive WebStep
  | transaction (op : DbOp) (commits : Bool)
  | reload (succeeds : Bool)
  | revoke (r : Revocation)

def WebState.step (s : WebState) : WebStep → WebState
  | .transaction op commits =>
    match s.db.run op with
    | .ok db => if commits then { s with db := db } else s
    | .error _ => s
  | .reload succeeds =>
    { s with enforcer := if succeeds then ⟨s.db.groupings, s.db.policies⟩ else ⟨∅, ∅⟩ }
  | .revoke r => { s with blacklist := r.apply s.blacklist }

end OxideArb.Web
