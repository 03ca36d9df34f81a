import Jianmen.Authorization.Checker

/-!
# Batches of requests

A batch is decided from facts that are loaded once: the groups that permissions or grants name, and
for every requested resource whether it is active, the groups it is in and what it belongs to.  The
facts are maps from texts to texts, and a resource is found in them under its type and its
identifier with a zero byte in between.
-/

namespace Jianmen.Authorization

/-! ## Facts -/

structure BatchAuthorizationRequest where
  resourceType : String
  resourceId : String
  actions : List String

structure BatchActionDecision where
  actionAllowed : Bool := false
  allowed : Bool := false
  denied : Bool := false
  deriving DecidableEq

def batchResourceKey (resourceType resourceId : String) : String :=
  resourceType ++ "\x00" ++ resourceId

/-- A map from texts to texts, in which a missing key stands for the empty text. -/
abbrev Texts := String → String

/-- Put a text under a key. -/
def Texts.put (texts : Texts) (key value : String) : Texts :=
  fun other => if other = key then value else texts other

structure BatchFacts where
  permissionGroups : Texts := fun _ => ""
  permissionOf : Texts := fun _ => ""
  resourceGroups : Texts := fun _ => ""
  accountGroups : Texts := fun _ => ""
  resourceOf : Texts := fun _ => ""
  accountOf : Texts := fun _ => ""
  hostOf : Texts := fun _ => ""
  instanceOf : Texts := fun _ => ""
  activeResources : String → Bool := fun _ => false

namespace BatchFacts

def groupMatches (facts : BatchFacts) (groupId resourceType resourceId : String) (account : Bool) :
    Bool :=
  let key := batchResourceKey resourceType resourceId
  if account then
    facts.accountGroups groupId != "" && facts.accountGroups groupId == facts.accountOf key
  else facts.resourceGroups groupId != "" && facts.resourceGroups groupId == facts.resourceOf key

def permissionGroupMatches (facts : BatchFacts) (groupId resourceType resourceId : String) : Bool :=
  let groupName := facts.permissionGroups groupId
  if groupName == "" then false
  else groupName == facts.permissionOf (batchResourceKey resourceType resourceId)

def resourceIsActive (facts : BatchFacts) (resourceType resourceId : String) : Bool :=
  if !auditedResourceType resourceType then true
  else facts.activeResources (batchResourceKey resourceType resourceId)

/-- Note that a resource is active. -/
def markActive (facts : BatchFacts) (key : String) : BatchFacts :=
  { facts with
    activeResources := fun other => if other = key then true else facts.activeResources other }

end BatchFacts

/-- Append an identifier that is not listed yet. -/
def appendUnique (ids : List String) (id : String) : List String :=
  if ids.contains id then ids else ids ++ [id]

def batchIDs (requests : List BatchAuthorizationRequest) (resourceType : String) : List String :=
  requests.foldl (fun ids request =>
    if request.resourceType == resourceType && trimSpace request.resourceId != "" then
      appendUnique ids request.resourceId
    else ids) []

def appendUniqueBatchIDs (ids additional : List String) : List String :=
  additional.foldl appendUnique ids

def groupIDsFromPermissions (permissions : List Permission) : List String :=
  permissions.foldl (fun ids permission =>
    if permission.resourceType == resourceTypeGroup && permission.resourceId != "" then
      appendUnique ids permission.resourceId
    else ids) []

def groupIDsFromGrants (grants : List ResourceGrant) : List String :=
  grants.foldl (fun ids grant =>
    if (grant.resourceType == resourceTypeGroup || grant.resourceType == resourceTypeAccountGroup) &&
        grant.resourceId != "" then
      appendUnique ids grant.resourceId
    else ids) []

namespace BatchFacts

/-- Note a group. -/
def addGroup (facts : BatchFacts) (group : ResourceGroup) : BatchFacts :=
  let facts := (facts.markActive (batchResourceKey resourceTypeGroup group.id)).markActive
    (batchResourceKey resourceTypeAccountGroup group.id)
  let facts := { facts with permissionGroups := facts.permissionGroups.put group.id group.name }
  if group.groupType = resourceGroupTypeAccount then
    { facts with accountGroups := facts.accountGroups.put group.id group.name }
  else { facts with resourceGroups := facts.resourceGroups.put group.id group.name }

/-- Note a host, a database instance or an application. -/
def addResource (resourceType : String) (facts : BatchFacts) (row : Resource) : BatchFacts :=
  let key := batchResourceKey resourceType row.id
  let facts := facts.markActive key
  { facts with
    permissionOf := facts.permissionOf.put key row.groupName
    resourceOf := facts.resourceOf.put key row.groupName }

/-- Note a platform account, which is in groups of accounts. -/
def addPlatformAccount (facts : BatchFacts) (row : Resource) : BatchFacts :=
  let key := batchResourceKey resourceTypePlatformAccount row.id
  let facts := facts.markActive key
  { facts with
    permissionOf := facts.permissionOf.put key row.groupName
    accountOf := facts.accountOf.put key row.groupName }

/-- Note a container endpoint, whose group says nothing about permissions. -/
def addContainerEndpoint (facts : BatchFacts) (row : Resource) : BatchFacts :=
  let key := batchResourceKey resourceTypeContainerEndpoint row.id
  let facts := facts.markActive key
  { facts with resourceOf := facts.resourceOf.put key row.groupName }

/-- Note an account, under the group of what it belongs to and under its own. -/
def addAccount (resourceType : String) (facts : BatchFacts) (row : Account × Resource) :
    BatchFacts :=
  let key := batchResourceKey resourceType row.1.id
  let facts := facts.markActive key
  { facts with
    permissionOf := facts.permissionOf.put key row.2.groupName
    resourceOf := facts.resourceOf.put key row.2.groupName
    accountOf := facts.accountOf.put key row.1.groupName }

def addHostAccount (facts : BatchFacts) (row : Account × Resource) : BatchFacts :=
  let facts := facts.addAccount resourceTypeHostAccount row
  { facts with hostOf := facts.hostOf.put row.1.id row.1.parentId }

def addDatabaseAccount (facts : BatchFacts) (row : Account × Resource) : BatchFacts :=
  let facts := facts.addAccount resourceTypeDatabaseAccount row
  { facts with instanceOf := facts.instanceOf.put row.1.id row.1.parentId }

end BatchFacts

/-- The active rows with the identifiers. -/
def activeRows (table : Table Resource.id) (ids : List String) : List Resource :=
  table.rows.filter fun row => ids.contains row.id && row.active

/-- `loadBatchFacts`. -/
def loadBatchFacts (db : Database) (requests : List BatchAuthorizationRequest)
    (groupIds : List String) : BatchFacts :=
  let allGroupIds := appendUniqueBatchIDs groupIds (batchIDs requests resourceTypeGroup)
  let allGroupIds := appendUniqueBatchIDs allGroupIds (batchIDs requests resourceTypeAccountGroup)
  let facts : BatchFacts := (db.resourceGroups.rows.filter fun group =>
    allGroupIds.contains group.id && group.active).foldl BatchFacts.addGroup {}
  let facts := (activeRows db.hosts (batchIDs requests resourceTypeHost)).foldl
    (BatchFacts.addResource resourceTypeHost) facts
  let facts :=
    (activeRows db.databaseInstances (batchIDs requests resourceTypeDatabaseInstance)).foldl
      (BatchFacts.addResource resourceTypeDatabaseInstance) facts
  let facts := (activeRows db.applications (batchIDs requests resourceTypeApplication)).foldl
    (BatchFacts.addResource resourceTypeApplication) facts
  let facts := (activeRows db.platformAccounts (batchIDs requests resourceTypePlatformAccount)).foldl
    BatchFacts.addPlatformAccount facts
  let facts :=
    (activeRows db.containerEndpoints (batchIDs requests resourceTypeContainerEndpoint)).foldl
      BatchFacts.addContainerEndpoint facts
  let facts := ((joined db.hostAccounts db.hosts).filter fun row =>
    (batchIDs requests resourceTypeHostAccount).contains row.1.id).foldl
      BatchFacts.addHostAccount facts
  ((joined db.databaseAccounts db.databaseInstances).filter fun row =>
    (batchIDs requests resourceTypeDatabaseAccount).contains row.1.id).foldl
      BatchFacts.addDatabaseAccount facts

/-! ## Decisions -/

/-- The trimmed actions that are not blank, each once. -/
def distinctActions (actions : List String) : List String :=
  actions.foldl (fun known action =>
    let action := trimSpace action
    if action == "" then known else appendUnique known action) []

def normalizedBatchActions (actions : List String) : List String :=
  distinctActions actions

def batchPermissionResourceMatches (permission : Permission) (request : BatchAuthorizationRequest)
    (facts : BatchFacts) : Bool :=
  if !facts.resourceIsActive request.resourceType request.resourceId then false
  else if resourceTypeMatches permission.resourceType request.resourceType &&
      resourceIdMatches permission.resourceId request.resourceId then true
  else
    permission.resourceType == resourceTypeGroup &&
      facts.permissionGroupMatches permission.resourceId request.resourceType request.resourceId

/-- What the permissions say about an action: whether it is allowed and denied in general, and
denied for the resource. -/
structure ActionFacts where
  globalAllowed : Bool := false
  globalDenied : Bool := false
  resourceDenied : Bool := false

/-- The pass over the permissions for one action. -/
def weighPermissions (facts : BatchFacts) (request : BatchAuthorizationRequest) (action : String)
    (permissions : List Permission) : ActionFacts :=
  permissions.foldl (fun found permission =>
    if !actionMatches permission.action action then found
    else if permission.isActionOnly then
      { found with
        globalDenied := found.globalDenied || permission.isDeny
        globalAllowed := found.globalAllowed || permission.isAllow }
    else if permission.isDeny && batchPermissionResourceMatches permission request facts then
      { found with resourceDenied := true }
    else found) {}

/-- One action of a request. -/
def decideAction (resourceActive : Bool) (decision : BatchActionDecision) (found : ActionFacts) :
    BatchActionDecision :=
  if found.globalDenied || !found.globalAllowed then decision
  else
    let decision : BatchActionDecision := { decision with actionAllowed := true }
    if !resourceActive then decision
    else if found.resourceDenied then { decision with denied := true }
    else { decision with allowed := true }

/-- The pass over the actions of one request. -/
def decideActions (facts : BatchFacts) (permissions : List Permission)
    (request : BatchAuthorizationRequest) : BatchActionDecision :=
  let resourceActive := facts.resourceIsActive request.resourceType request.resourceId
  let decision := (normalizedBatchActions request.actions).foldl (fun decision action =>
    decideAction resourceActive decision (weighPermissions facts request action permissions)) {}
  if decision.allowed then { decision with denied := false } else decision

/-- `BatchActionDecisionsContext`. -/
def batchActionDecisions (db : Database) (now : Time) (userId : String)
    (requests : List BatchAuthorizationRequest) : List BatchActionDecision :=
  let userId := trimSpace userId
  if requests.isEmpty || userId == "" then requests.map fun _ => {}
  else
    let permissions := permissionsForUser db now userId
    let facts := loadBatchFacts db requests (groupIDsFromPermissions permissions)
    requests.map (decideActions facts permissions)

def batchGrantMatches (grant : ResourceGrant) (request : BatchAuthorizationRequest)
    (facts : BatchFacts) : Bool :=
  if !facts.resourceIsActive request.resourceType request.resourceId then false
  else if resourceTypeMatches grant.resourceType request.resourceType &&
      resourceIdMatches grant.resourceId request.resourceId then true
  else if grant.resourceType = resourceTypeHost then
    request.resourceType == resourceTypeHostAccount &&
      facts.hostOf request.resourceId == grant.resourceId
  else if grant.resourceType = resourceTypeDatabaseInstance then
    request.resourceType == resourceTypeDatabaseAccount &&
      facts.instanceOf request.resourceId == grant.resourceId
  else if grant.resourceType = resourceTypeGroup then
    if request.resourceType = resourceTypePlatformAccount then false
    else facts.groupMatches grant.resourceId request.resourceType request.resourceId false
  else if grant.resourceType = resourceTypeAccountGroup then
    facts.groupMatches grant.resourceId request.resourceType request.resourceId true
  else false

/-- The pass over the grants for one request; a denial ends it. -/
def weighGrants (facts : BatchFacts) (request : BatchAuthorizationRequest) :
    List ResourceGrant → Bool → Bool
  | [], allowed => allowed
  | grant :: rest, allowed =>
    if !batchGrantMatches grant request facts then weighGrants facts request rest allowed
    else if grant.effect == permissionEffectDeny then false
    else weighGrants facts request rest (allowed || grant.effect == permissionEffectAllow)

/-- `BatchGrantsContext`. -/
def batchGrants (db : Database) (now : Time) (userId : String)
    (requests : List BatchAuthorizationRequest) : List Bool :=
  let userId := trimSpace userId
  if requests.isEmpty || userId == "" then requests.map fun _ => false
  else
    let grants := ResourceGrantChecker.grantsForUser db now userId
    let facts := loadBatchFacts db requests (groupIDsFromGrants grants)
    requests.map fun request => weighGrants facts request grants false

end Jianmen.Authorization
