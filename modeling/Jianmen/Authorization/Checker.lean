import Jianmen.Library.Table
import Jianmen.Library.Text

/-!
# Permissions and grants

A user acts through the permissions of their roles and reaches resources through grants: direct
ones, those of their groups and temporary ones.  A permission or a grant names a resource, all
resources of a type, or a group of resources, and an account is also reached through what it belongs
to.  Every check reads the database anew.
-/

namespace Jianmen.Authorization

/-! ## Rows

Whether the active marker of a row is set is `active`. -/

abbrev Time := ℕ

structure User where
  id : String
  isSuperAdmin : Bool := false
  status : String := "active"
  expiresAt : Option Time := none
  active : Bool := true

structure Role where
  id : String
  status : String := "active"
  active : Bool := true

structure Permission where
  id : String
  action : String
  resourceType : String := ""
  resourceId : String := ""
  effect : String := "allow"
  active : Bool := true

structure RolePermission where
  roleId : String
  permissionId : String

structure UserRole where
  userId : String
  roleId : String
  expiresAt : Option Time := none

structure ResourceGrant where
  principalType : String
  principalId : String
  resourceType : String
  resourceId : String
  effect : String := "allow"
  expiresAt : Option Time := none
  active : Bool := true

structure UserGroup where
  id : String
  active : Bool := true

structure UserGroupMember where
  groupId : String
  userId : String

structure TemporaryAccount where
  id : String
  status : String := "active"
  expiresAt : Option Time := none
  active : Bool := true

structure TemporaryAccountGrant where
  temporaryAccountId : String
  userId : String
  resourceType : String
  resourceId : String
  startsAt : Option Time := none
  expiresAt : Option Time := none
  revokedAt : Option Time := none
  active : Bool := true

structure ResourceGroup where
  id : String
  name : String
  groupType : String
  active : Bool := true

/-- A host, a database instance, an application, a container endpoint or a platform account: a
resource with the name of the group it is in. -/
structure Resource where
  id : String
  groupName : String
  active : Bool := true

/-- An account on a host or on a database instance. -/
structure Account where
  id : String
  /-- The host or the instance. -/
  parentId : String
  groupName : String
  active : Bool := true

structure Database where
  users : Table User.id := .empty
  roles : Table Role.id := .empty
  permissions : Table Permission.id := .empty
  rolePermissions : List RolePermission := []
  userRoles : List UserRole := []
  resourceGrants : List ResourceGrant := []
  userGroups : Table UserGroup.id := .empty
  userGroupMembers : List UserGroupMember := []
  temporaryAccounts : Table TemporaryAccount.id := .empty
  temporaryAccountGrants : List TemporaryAccountGrant := []
  resourceGroups : Table ResourceGroup.id := .empty
  hosts : Table Resource.id := .empty
  databaseInstances : Table Resource.id := .empty
  applications : Table Resource.id := .empty
  containerEndpoints : Table Resource.id := .empty
  platformAccounts : Table Resource.id := .empty
  hostAccounts : Table Account.id := .empty
  databaseAccounts : Table Account.id := .empty

def resourceTypeGroup : String := "resource_group"
def resourceTypeHost : String := "host"
def resourceTypeHostAccount : String := "host_account"
def resourceTypeDatabaseAccount : String := "database_account"
def resourceTypeDatabaseInstance : String := "database_instance"
def resourceTypeApplication : String := "application"
def resourceTypeContainerEndpoint : String := "container_endpoint"
def resourceTypePlatformAccount : String := "platform_account"
def resourceTypeAccountGroup : String := "account_group"
def resourceGroupTypeResource : String := "resource"
def resourceGroupTypeAccount : String := "account"
def permissionEffectAllow : String := "allow"
def permissionEffectDeny : String := "deny"

/-- A time that has not come, or none. -/
def unexpired (now : Time) (expiresAt : Option Time) : Bool :=
  expiresAt.all fun time => now < time

/-! ## Active resources -/

/-- The rows of an account table joined with what the accounts belong to, both active. -/
def joined (accounts : Table Account.id) (parents : Table Resource.id) : List (Account × Resource) :=
  accounts.rows.flatMap fun account =>
    (parents.rows.filter fun parent =>
      parent.id == account.parentId && account.active && parent.active).map (account, ·)

def activeResourceExists (db : Database) (resourceType resourceId : String) : Bool :=
  let present (table : Table Resource.id) :=
    0 < table.count fun row => row.id == resourceId && row.active
  let account (accounts : Table Account.id) (parents : Table Resource.id) :=
    0 < (joined accounts parents).countP fun row => row.1.id == resourceId
  if resourceType = resourceTypeHost then present db.hosts
  else if resourceType = resourceTypeHostAccount then account db.hostAccounts db.hosts
  else if resourceType = resourceTypeDatabaseInstance then present db.databaseInstances
  else if resourceType = resourceTypeDatabaseAccount then
    account db.databaseAccounts db.databaseInstances
  else if resourceType = resourceTypeApplication then present db.applications
  else if resourceType = resourceTypeContainerEndpoint then present db.containerEndpoints
  else if resourceType = resourceTypePlatformAccount then present db.platformAccounts
  else if resourceType = resourceTypeGroup ∨ resourceType = resourceTypeAccountGroup then
    0 < db.resourceGroups.count fun row => row.id == resourceId && row.active
  else true

def auditedResourceType (resourceType : String) : Bool :=
  [resourceTypeHost, resourceTypeHostAccount, resourceTypeDatabaseInstance,
    resourceTypeDatabaseAccount, resourceTypeApplication, resourceTypeContainerEndpoint,
    resourceTypePlatformAccount, resourceTypeGroup, resourceTypeAccountGroup].contains resourceType

/-! ## Permissions -/

def actionMatches (granted requested : String) : Bool :=
  granted == requested || granted == "*"

def resourceTypeMatches (granted requested : String) : Bool :=
  granted == requested || granted == "*"

def resourceIdMatches (granted requested : String) : Bool :=
  granted == requested || granted == "*"

/-- `strings.EqualFold` against a word whose letters have no other forms than the two cases. -/
def equalFold (text word : String) : Bool :=
  text.toList.map Char.toLower == word.toList.map Char.toLower

namespace Permission

def isActionOnly (permission : Permission) : Bool :=
  permission.resourceType == "" && permission.resourceId == ""

def isAllow (permission : Permission) : Bool :=
  permission.effect == "" || equalFold permission.effect permissionEffectAllow

def isDeny (permission : Permission) : Bool :=
  equalFold permission.effect permissionEffectDeny

end Permission

/-- The permissions of the roles of a user. -/
def permissionsForUser (db : Database) (now : Time) (userId : String) : List Permission :=
  db.permissions.rows.flatMap fun permission =>
    db.rolePermissions.flatMap fun rolePermission =>
      db.userRoles.flatMap fun userRole =>
        db.roles.rows.flatMap fun role =>
          (db.users.rows.filter fun user =>
            rolePermission.permissionId == permission.id &&
              userRole.roleId == rolePermission.roleId && role.id == userRole.roleId &&
              user.id == userRole.userId && userRole.userId == userId &&
              unexpired now userRole.expiresAt && permission.active && role.active &&
              user.active && (role.status == "" || role.status == "active")).map fun _ => permission

/-- Whether an active resource of a table is in a group. -/
def inGroup (table : Table Resource.id) (groupName resourceId : String) : Bool :=
  0 < table.count fun row => row.groupName == groupName && row.id == resourceId && row.active

/-- Whether what an account belongs to is in a group. -/
def parentInGroup (accounts : Table Account.id) (parents : Table Resource.id)
    (groupName resourceId : String) : Bool :=
  0 < (joined accounts parents).countP fun row =>
    row.2.groupName == groupName && row.1.id == resourceId

/-- Whether an account is in a group itself. -/
def accountInGroup (accounts : Table Account.id) (parents : Table Resource.id)
    (groupName resourceId : String) : Bool :=
  0 < (joined accounts parents).countP fun row =>
    row.1.groupName == groupName && row.1.id == resourceId

namespace Checker

/-- `Checker.groupContainsResource`: the name of the group counts, whatever its type. -/
def groupContainsResource (db : Database) (groupId resourceType resourceId : String) : Bool :=
  match (db.resourceGroups.get? groupId).filter ResourceGroup.active with
  | none => false
  | some group =>
    if resourceType = resourceTypeHostAccount then
      parentInGroup db.hostAccounts db.hosts group.name resourceId
    else if resourceType = resourceTypeDatabaseAccount then
      parentInGroup db.databaseAccounts db.databaseInstances group.name resourceId
    else if resourceType = resourceTypeHost then inGroup db.hosts group.name resourceId
    else if resourceType = resourceTypeDatabaseInstance then
      inGroup db.databaseInstances group.name resourceId
    else if resourceType = resourceTypeApplication then
      inGroup db.applications group.name resourceId
    else if resourceType = resourceTypePlatformAccount then
      inGroup db.platformAccounts group.name resourceId
    else false

def resourceMatches (db : Database) (permission : Permission) (resourceType resourceId : String) :
    Bool :=
  if resourceTypeMatches permission.resourceType resourceType &&
      resourceIdMatches permission.resourceId resourceId then true
  else if permission.resourceType == resourceTypeGroup && permission.resourceId != "" then
    groupContainsResource db permission.resourceId resourceType resourceId
  else false

/-- `Checker.matches`. -/
def permissionMatches (db : Database) (permission : Permission)
    (action resourceType resourceId : String) : Bool :=
  if !actionMatches permission.action action then false
  else if resourceType == "" && resourceId == "" then permission.isActionOnly
  else permission.isActionOnly || resourceMatches db permission resourceType resourceId

/-- The pass over the allowing permissions; `none` when one of them allows at once. -/
def allowing (db : Database) (action resourceType resourceId : String) :
    List Permission → Bool × Bool → Option (Bool × Bool)
  | [], found => some found
  | permission :: rest, (hasAction, hasResourceGrant) =>
    if !permission.isAllow then
      allowing db action resourceType resourceId rest (hasAction, hasResourceGrant)
    else if actionMatches permission.action action && permission.isActionOnly then
      allowing db action resourceType resourceId rest (true, hasResourceGrant)
    else if resourceType != "" && resourceId != "" &&
        resourceMatches db permission resourceType resourceId then
      if actionMatches permission.action action then none
      else
        allowing db action resourceType resourceId rest
          (hasAction, hasResourceGrant || permission.action == "" || permission.action == "*")
    else allowing db action resourceType resourceId rest (hasAction, hasResourceGrant)

def hasPermission (db : Database) (now : Time) (userId action resourceType resourceId : String) :
    Bool :=
  let userId := trimSpace userId
  let action := trimSpace action
  let resourceType := trimSpace resourceType
  let resourceId := trimSpace resourceId
  if userId == "" || action == "" then false
  else if resourceType != "" && resourceId != "" &&
      !activeResourceExists db resourceType resourceId then false
  else
    let permissions := permissionsForUser db now userId
    if permissions.any fun permission =>
        permission.isDeny && permissionMatches db permission action resourceType resourceId then false
    else
      match allowing db action resourceType resourceId permissions
          (false, resourceType == "" && resourceId == "") with
      | none => true
      | some (hasAction, hasResourceGrant) => hasAction && hasResourceGrant

def hasDeny (db : Database) (now : Time) (userId action resourceType resourceId : String) : Bool :=
  let userId := trimSpace userId
  let action := trimSpace action
  let resourceType := trimSpace resourceType
  let resourceId := trimSpace resourceId
  if userId == "" || action == "" then false
  else if resourceType != "" && resourceId != "" &&
      !activeResourceExists db resourceType resourceId then false
  else
    (permissionsForUser db now userId).any fun permission =>
      permission.isDeny && permissionMatches db permission action resourceType resourceId

end Checker

/-! ## Grants -/

namespace ResourceGrantChecker

def directGrantsForUser (db : Database) (now : Time) (userId : String) : List ResourceGrant :=
  db.resourceGrants.flatMap fun grant =>
    (db.users.rows.filter fun user =>
      user.id == grant.principalId && grant.principalType == "user" &&
        grant.principalId == userId && grant.active && user.active &&
        unexpired now grant.expiresAt).map fun _ => grant

def groupGrantsForUser (db : Database) (now : Time) (userId : String) : List ResourceGrant :=
  db.resourceGrants.flatMap fun grant =>
    db.userGroupMembers.flatMap fun member =>
      db.userGroups.rows.flatMap fun group =>
        (db.users.rows.filter fun user =>
          member.groupId == grant.principalId && group.id == member.groupId &&
            user.id == member.userId && grant.principalType == "user_group" &&
            member.userId == userId && grant.active && group.active && user.active &&
            unexpired now grant.expiresAt).map fun _ => grant

def temporaryGrantsForUser (db : Database) (now : Time) (userId : String) : List ResourceGrant :=
  db.temporaryAccountGrants.flatMap fun grant =>
    db.temporaryAccounts.rows.flatMap fun account =>
      (db.users.rows.filter fun user =>
        account.id == grant.temporaryAccountId && user.id == grant.userId &&
          grant.userId == userId && grant.active && account.active && user.active &&
          grant.revokedAt.isNone && account.status == "active" &&
          (grant.startsAt.all fun time => time ≤ now) && unexpired now grant.expiresAt &&
          unexpired now account.expiresAt).map fun _ =>
        { principalType := "user"
          principalId := userId
          resourceType := grant.resourceType
          resourceId := grant.resourceId
          effect := permissionEffectAllow
          expiresAt := grant.expiresAt }

def containsAccount (accounts : Table Account.id) (parents : Table Resource.id)
    (parentId accountId : String) : Bool :=
  0 < (joined accounts parents).countP fun row =>
    row.1.parentId == parentId && row.1.id == accountId

def hostContainsAccount (db : Database) (hostId accountId : String) : Bool :=
  containsAccount db.hostAccounts db.hosts hostId accountId

def databaseContainsAccount (db : Database) (instanceId accountId : String) : Bool :=
  containsAccount db.databaseAccounts db.databaseInstances instanceId accountId

/-- `ResourceGrantChecker.groupContainsResource`: the group must have the type. -/
def groupContainsResource (db : Database) (groupId resourceType resourceId groupType : String) :
    Bool :=
  match db.resourceGroups.rows.find? fun group =>
      group.id == groupId && group.groupType == groupType && group.active with
  | none => false
  | some group =>
    if groupType = resourceGroupTypeAccount then
      if resourceType = resourceTypeHostAccount then
        accountInGroup db.hostAccounts db.hosts group.name resourceId
      else if resourceType = resourceTypeDatabaseAccount then
        accountInGroup db.databaseAccounts db.databaseInstances group.name resourceId
      else if resourceType = resourceTypePlatformAccount then
        inGroup db.platformAccounts group.name resourceId
      else false
    else if resourceType = resourceTypeHostAccount then
      parentInGroup db.hostAccounts db.hosts group.name resourceId
    else if resourceType = resourceTypeDatabaseAccount then
      parentInGroup db.databaseAccounts db.databaseInstances group.name resourceId
    else if resourceType = resourceTypeHost then inGroup db.hosts group.name resourceId
    else if resourceType = resourceTypeDatabaseInstance then
      inGroup db.databaseInstances group.name resourceId
    else if resourceType = resourceTypeApplication then
      inGroup db.applications group.name resourceId
    else if resourceType = resourceTypeContainerEndpoint then
      inGroup db.containerEndpoints group.name resourceId
    else false

def matchesGrant (db : Database) (grant : ResourceGrant) (resourceType resourceId : String) : Bool :=
  if resourceTypeMatches grant.resourceType resourceType &&
      resourceIdMatches grant.resourceId resourceId then true
  else if grant.resourceType = resourceTypeHost then
    resourceType == resourceTypeHostAccount && hostContainsAccount db grant.resourceId resourceId
  else if grant.resourceType = resourceTypeDatabaseInstance then
    resourceType == resourceTypeDatabaseAccount &&
      databaseContainsAccount db grant.resourceId resourceId
  else if grant.resourceType = resourceTypeGroup then
    groupContainsResource db grant.resourceId resourceType resourceId resourceGroupTypeResource
  else if grant.resourceType = resourceTypeAccountGroup then
    groupContainsResource db grant.resourceId resourceType resourceId resourceGroupTypeAccount
  else false

/-- Every grant a user has. -/
def grantsForUser (db : Database) (now : Time) (userId : String) : List ResourceGrant :=
  directGrantsForUser db now userId ++ groupGrantsForUser db now userId ++
    temporaryGrantsForUser db now userId

def hasGrant (db : Database) (now : Time) (userId resourceType resourceId : String) : Bool :=
  let userId := trimSpace userId
  let resourceType := trimSpace resourceType
  let resourceId := trimSpace resourceId
  if userId == "" || resourceType == "" || resourceId == "" then false
  else if !activeResourceExists db resourceType resourceId then false
  else
    let allGrants := grantsForUser db now userId
    if allGrants.any fun grant =>
        matchesGrant db grant resourceType resourceId && grant.effect == permissionEffectDeny then
      false
    else
      allGrants.any fun grant =>
        matchesGrant db grant resourceType resourceId && grant.effect == permissionEffectAllow

end ResourceGrantChecker

end Jianmen.Authorization
