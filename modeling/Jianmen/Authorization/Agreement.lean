import Jianmen.Authorization.Facts

/-!
# Single requests and batches

The authorization service decides a request by single checks and a list of requests by a batch.
Both ask for the subject, then for an action that is allowed in general, then for one that is not
denied for the resource, then for a grant; on one database they come to the same decisions.
-/

namespace Jianmen.Authorization

open List BatchFacts ResourceGrantChecker

/-! ## The service -/

inductive AuthorizationReason where
  | allowed
  | superAdmin
  | missingUser
  | invalidIdentity
  | actionDenied
  | invalidResource
  | resourceDenied
  deriving DecidableEq

structure AuthorizationRequest where
  userId : String := ""
  actions : List String
  resourceType : String
  resourceId : String

structure AuthorizationDecision where
  allowed : Bool := false
  reason : AuthorizationReason
  deriving DecidableEq

/-- `FindIdentitySubject`: the active user, unless their time is over. -/
def findIdentitySubject (db : Database) (now : Time) (userId : String) : Option User :=
  let userId := trimSpace userId
  if userId == "" then none
  else
    ((db.users.get? userId).filter User.active).filter fun user =>
      user.status == "active" && (user.isSuperAdmin || unexpired now user.expiresAt)

def normalizedActions (actions : List String) : List String :=
  distinctActions actions

/-- The pass over the actions: whether one is allowed, and whether one was denied for the resource
before. -/
def authorizeActions (db : Database) (now : Time) (subjectId resourceType resourceId : String) :
    List String → Bool → Bool × Bool
  | [], denied => (false, denied)
  | action :: rest, denied =>
    if !Checker.hasPermission db now subjectId action "" "" then
      authorizeActions db now subjectId resourceType resourceId rest denied
    else if resourceType != "" &&
        Checker.hasDeny db now subjectId action resourceType resourceId then
      authorizeActions db now subjectId resourceType resourceId rest true
    else (true, denied)

/-- `Authorize`. -/
def authorize (db : Database) (now : Time) (request : AuthorizationRequest) :
    AuthorizationDecision :=
  let userId := trimSpace request.userId
  if userId == "" then { reason := .missingUser }
  else
    match findIdentitySubject db now userId with
    | none => { reason := .invalidIdentity }
    | some subject =>
      let resourceType := trimSpace request.resourceType
      let resourceId := trimSpace request.resourceId
      if (resourceType == "") != (resourceId == "") then { reason := .invalidResource }
      else if subject.isSuperAdmin then { allowed := true, reason := .superAdmin }
      else
        let (allowedAction, resourcePermissionDenied) :=
          authorizeActions db now subject.id resourceType resourceId
            (normalizedActions request.actions) false
        if !allowedAction then
          if resourcePermissionDenied then { reason := .resourceDenied }
          else { reason := .actionDenied }
        else if resourceType != "" &&
            !ResourceGrantChecker.hasGrant db now subject.id resourceType resourceId then
          { reason := .resourceDenied }
        else { allowed := true, reason := .allowed }

/-- What can be said about a request before the subject's rights are known: a decision, or the
request to be decided in the batch. -/
def prepareRequest (request : AuthorizationRequest) :
    AuthorizationDecision ⊕ BatchAuthorizationRequest :=
  let resourceType := trimSpace request.resourceType
  let resourceId := trimSpace request.resourceId
  if resourceType == "" || resourceId == "" then .inl { reason := .invalidResource }
  else
    let actions := normalizedActions request.actions
    if actions.isEmpty then .inl { reason := .actionDenied }
    else .inr { resourceType := resourceType, resourceId := resourceId, actions := actions }

/-- The decision on a valid request from those of the two checkers. -/
def combineDecisions (action : BatchActionDecision) (granted : Bool) : AuthorizationDecision :=
  if !action.actionAllowed then { reason := .actionDenied }
  else if !action.allowed || !granted then { reason := .resourceDenied }
  else { allowed := true, reason := .allowed }

/-- `AuthorizeBatch`. -/
def authorizeBatch (db : Database) (now : Time) (userId : String)
    (requests : List AuthorizationRequest) : Except String (List AuthorizationDecision) :=
  if requests.isEmpty then .ok []
  else
    let userId := trimSpace userId
    if userId == "" then .ok (requests.map fun _ => { reason := .missingUser })
    else
      match findIdentitySubject db now userId with
      | none => .ok (requests.map fun _ => { reason := .invalidIdentity })
      | some subject =>
        let prepared := requests.map prepareRequest
        if subject.isSuperAdmin then
          .ok (prepared.map fun request =>
            request.elim id fun _ => { allowed := true, reason := .superAdmin })
        else
          let batch := prepared.map fun request =>
            request.elim (fun _ => { resourceType := "", resourceId := "", actions := [] }) id
          let actionDecisions := batchActionDecisions db now subject.id batch
          let grantDecisions := batchGrants db now subject.id batch
          if actionDecisions.length != requests.length ||
              grantDecisions.length != requests.length then
            .error "batch authorization decision count mismatch"
          else
            .ok ((prepared.zip (actionDecisions.zip grantDecisions)).map fun request =>
              request.1.elim id fun _ => combineDecisions request.2.1 request.2.2)

/-! ## Actions -/

/-- The loop that collects actions keeps them apart, trimmed and not blank. -/
theorem distinctActions_spec (actions : List String) : (distinctActions actions).Nodup ∧
      ∀ action ∈ distinctActions actions, trimSpace action = action ∧ action ≠ "" := by
  have collected : ∀ (actions known : List String),
      (known.Nodup ∧ ∀ action ∈ known, trimSpace action = action ∧ action ≠ "") →
      let all := actions.foldl (fun known action =>
        let action := trimSpace action
        if action == "" then known else appendUnique known action) known
      all.Nodup ∧ ∀ action ∈ all, trimSpace action = action ∧ action ≠ "" := by
    intro actions
    induction actions with
    | nil => exact fun _ sound => sound
    | cons action _ ih =>
      intro known sound
      apply ih _
      by_cases blank : trimSpace action = ""
      · simpa [blank] using sound
      by_cases listed : trimSpace action ∈ known
      · simpa [appendUnique, listed] using sound
      simp only [blank, beq_iff_eq, appendUnique, contains_eq_mem, listed]
      refine ⟨sound.1.append (nodup_singleton _) (disjoint_singleton.mpr listed), ?_⟩
      intro other member
      obtain earlier | new := mem_append.mp member
      · exact sound.2 other earlier
      · rw [mem_singleton.mp new]
        exact ⟨trimSpace_idem action, blank⟩
  exact collected actions [] ⟨nodup_nil, by simp⟩

/-- Normalized actions stay as they are. -/
theorem distinctActions_idem (actions : List String) :
    distinctActions (distinctActions actions) = distinctActions actions := by
  have kept : ∀ actions known : List String, (known ++ actions).Nodup →
      (∀ action ∈ actions, trimSpace action = action ∧ action ≠ "") →
      actions.foldl (fun known action =>
        let action := trimSpace action
        if action == "" then known else appendUnique known action) known = known ++ actions := by
    intro actions
    induction actions with
    | nil => exact fun known _ _ => (append_nil known).symm
    | cons action _ ih =>
      intro known distinct sound
      obtain ⟨⟨trimmed, some_text⟩, there⟩ := forall_mem_cons.mp sound
      have fresh : action ∉ known := by
        intro member
        exact disjoint_of_nodup_append distinct member (.head _)
      have added : (if trimSpace action == "" then known else appendUnique known (trimSpace action)) =
          known ++ [action] := by
        simp [trimmed, some_text, appendUnique, fresh]
      rw [foldl_cons]
      rw [added, ih (known ++ [action]) (by rwa [← append_cons]) there, ← append_cons]
  obtain ⟨distinct, sound⟩ := distinctActions_spec actions
  exact kept (distinctActions actions) [] distinct sound

/-! ## Permissions -/

variable {db : Database} {now : Time}

/-- The action is allowed in general. -/
def generallyAllowed (permissions : List Permission) (action : String) : Bool :=
  !(permissions.any fun permission =>
      actionMatches permission.action action && permission.isActionOnly && permission.isDeny) &&
    permissions.any fun permission =>
      actionMatches permission.action action && permission.isActionOnly && permission.isAllow

/-- Without a resource, only permissions for an action alone are looked at. -/
theorem allowing_eq (action : String) (permissions : List Permission) (hasAction : Bool) :
    Checker.allowing db action "" "" permissions (hasAction, true) =
      some (hasAction || permissions.any fun permission =>
        actionMatches permission.action action && permission.isActionOnly && permission.isAllow,
        true) := by
  induction permissions generalizing hasAction with
  | nil => simp [Checker.allowing]
  | cons permission _ ih =>
    cases allow : permission.isAllow with
    | false => simp [Checker.allowing, allow, ih]
    | true =>
      cases action_only : actionMatches permission.action action && permission.isActionOnly with
      | false => simp [Checker.allowing, action_only, ih]
      | true => simp [Checker.allowing, allow, action_only, ih]

theorem hasPermission_eq {userId action : String} (user : trimSpace userId = userId ∧ userId ≠ "")
    (trimmed : trimSpace action = action ∧ action ≠ "") :
    Checker.hasPermission db now userId action "" "" =
      generallyAllowed (permissionsForUser db now userId) action := by
  have blank : trimSpace "" = "" := rfl
  have denied : (fun permission : Permission => permission.isDeny &&
      Checker.permissionMatches db permission action "" "") = fun permission =>
        actionMatches permission.action action && permission.isActionOnly && permission.isDeny := by
    funext permission
    cases permission.isDeny with
    | false => simp
    | true =>
      cases matched : actionMatches permission.action action with
      | false | true => simp [Checker.permissionMatches, matched]
  simp only [Checker.hasPermission, user.1, trimmed.1, blank, denied, generallyAllowed]
  simp only [beq_false_of_ne user.2, beq_false_of_ne trimmed.2, Bool.or_self, Bool.false_eq_true,
    if_false, bne_self_eq_false, Bool.false_and, beq_self_eq_true, allowing_eq, Bool.and_true]
  split
  · next found => simp [found]
  rename_i none_found
  rw [Bool.not_eq_true] at none_found
  rw [none_found]
  rfl

/-- What the pass over the permissions finds. -/
theorem weighPermissions_eq (facts : BatchFacts) (request : BatchAuthorizationRequest)
    (action : String) (permissions : List Permission) :
    weighPermissions facts request action permissions =
      { globalAllowed := permissions.any fun permission =>
          actionMatches permission.action action && permission.isActionOnly && permission.isAllow
        globalDenied := permissions.any fun permission =>
          actionMatches permission.action action && permission.isActionOnly && permission.isDeny
        resourceDenied := permissions.any fun permission =>
          actionMatches permission.action action && !permission.isActionOnly && permission.isDeny &&
            batchPermissionResourceMatches permission request facts } := by
  have weighed : ∀ (permissions : List Permission) (found : ActionFacts),
      permissions.foldl (fun found permission =>
        if !actionMatches permission.action action then found
        else if permission.isActionOnly then
          { found with
            globalDenied := found.globalDenied || permission.isDeny
            globalAllowed := found.globalAllowed || permission.isAllow }
        else if permission.isDeny && batchPermissionResourceMatches permission request facts then
          { found with resourceDenied := true }
        else found) found =
      { globalAllowed := found.globalAllowed || permissions.any fun permission =>
          actionMatches permission.action action && permission.isActionOnly && permission.isAllow
        globalDenied := found.globalDenied || permissions.any fun permission =>
          actionMatches permission.action action && permission.isActionOnly && permission.isDeny
        resourceDenied := found.resourceDenied || permissions.any fun permission =>
          actionMatches permission.action action && !permission.isActionOnly && permission.isDeny &&
            batchPermissionResourceMatches permission request facts } := by
    intro permissions
    induction permissions with
    | nil => simp
    | cons permission _ ih =>
      intro found
      rw [foldl_cons, ih]
      cases matched : actionMatches permission.action action with
      | false => simp [matched]
      | true =>
        cases action_only : permission.isActionOnly with
        | true => simp [matched, action_only, Bool.or_assoc]
        | false =>
          cases denied : permission.isDeny &&
              batchPermissionResourceMatches permission request facts with
          | false => simp [matched, action_only, denied]
          | true => simp [matched, action_only, denied]
  rw [weighPermissions, weighed]
  simp

/-! ## Facts of a request -/

/-- Every active group has an identifier. -/
def GroupsIdentified (db : Database) : Prop :=
  ∀ group ∈ db.resourceGroups.rows, group.active = true → group.id ≠ ""

theorem GroupsIdentified.nameless (identified : GroupsIdentified db) :
    activeGroup db "" = none := by
  cases found : activeGroup db "" with
  | none => rfl
  | some group =>
    obtain ⟨present, active⟩ := Option.filter_eq_some_iff.mp found
    exact absurd (Table.get?_key present) (identified group (Table.get?_mem present) active)

/-- Every active group is one of resources or one of accounts. -/
def GroupsTyped (db : Database) : Prop :=
  ∀ group ∈ db.resourceGroups.rows, group.active = true →
    group.groupType = resourceGroupTypeResource ∨ group.groupType = resourceGroupTypeAccount

/-- A group that is not one of accounts is one of resources. -/
theorem GroupsTyped.resource (typed : GroupsTyped db) {id : String} {group : ResourceGroup}
    (found : activeGroup db id = some group) :
    (group.groupType != resourceGroupTypeAccount) =
    (group.groupType == resourceGroupTypeResource) := by
  obtain ⟨present, active⟩ := Option.filter_eq_some_iff.mp found
  obtain type | type := typed group (Table.get?_mem present) active
  · rw [type]
    decide
  · rw [type]
    decide

/-- A request of a batch that can be told apart from the others. -/
structure Requested (requests : List BatchAuthorizationRequest) (request : BatchAuthorizationRequest) :
    Prop where
  member : request ∈ requests
  named : trimSpace request.resourceId ≠ ""
  free : ZeroFree request.resourceType

section Request

variable {requests : List BatchAuthorizationRequest} {request : BatchAuthorizationRequest}
  {groupIds : List String}

theorem resourceIsActive_eq (requested : Requested requests request) :
    (loadBatchFacts db requests groupIds).resourceIsActive request.resourceType request.resourceId =
      (standing db request.resourceType request.resourceId).isSome := by
  have said := @said_loadBatchFacts db requests groupIds request requested.member requested.named
    requested.free
  unfold BatchFacts.resourceIsActive
  cases audited : auditedResourceType request.resourceType with
  | false =>
    have unknown := unaudited audited
    simp [standing, unknown]
  | true =>
    rw [audited] at said
    have active := congrArg Said.active said
    simp only [BatchFacts.said] at active
    rw [active]
    cases standing db request.resourceType request.resourceId with
    | none | some => rfl

/-- The groups of an active resource. -/
theorem groupsOf_eq (requested : Requested requests request) {stands : Standing}
    (active : standing db request.resourceType request.resourceId = some stands) :
    let key := batchResourceKey request.resourceType request.resourceId
    let facts := loadBatchFacts db requests groupIds
    facts.permissionOf key = stands.permissionGroup ∧ facts.resourceOf key = stands.resourceGroup ∧
      facts.accountOf key = stands.accountGroup := by
  have said := @said_loadBatchFacts db requests groupIds request requested.member requested.named
    requested.free
  have agree : (loadBatchFacts db requests groupIds).said
      (batchResourceKey request.resourceType request.resourceId) = stands.said ∨
      (loadBatchFacts db requests groupIds).said
        (batchResourceKey request.resourceType request.resourceId) = {} ∧ stands = {} := by
    cases audited : auditedResourceType request.resourceType with
    | false =>
      rw [audited] at said
      have unknown := unaudited audited
      refine .inr ⟨said, ?_⟩
      simpa [standing, unknown, eq_comm] using active
    | true =>
      rw [audited, active] at said
      exact .inl said
  obtain said | ⟨said, rfl⟩ := agree
  · exact ⟨congrArg Said.permissionOf said, congrArg Said.resourceOf said,
      congrArg Said.accountOf said⟩
  · exact ⟨congrArg Said.permissionOf said, congrArg Said.resourceOf said,
      congrArg Said.accountOf said⟩

/-- A name found in a map, where the empty text stands for none. -/
theorem name_matches {group : Option ResourceGroup} (named : ∀ found, group = some found →
    found.name ≠ "") (other : String) :
    ((group.map ResourceGroup.name).getD "" != "" &&
      (group.map ResourceGroup.name).getD "" == other) = group.any fun found =>
        other == found.name := by
  cases group with
  | none => rfl
  | some found =>
    have some_name : (found.name != "") := bne_iff_ne.mpr (named found rfl)
    simp only [Option.map_some, Option.getD_some, some_name]
    exact Bool.beq_comm

/-- A guard that returns early is a conjunction. -/
theorem ite_false_eq (name : String) (answer : Bool) :
    (if name == "" then false else answer) = (name != "" && answer) := by
  cases blank : name == "" with
  | false | true => simp [bne, blank]

/-- Groups that permissions name are asked for, unless the identifier is empty. -/
theorem mem_groupIDsFromPermissions {permissions : List Permission} {permission : Permission}
    (member : permission ∈ permissions) (typed : permission.resourceType = resourceTypeGroup)
    (given : permission.resourceId ≠ "") :
    permission.resourceId ∈ groupIDsFromPermissions permissions := by
  rw [groupIDsFromPermissions, mem_foldl_appendUnique]
  exact .inr ⟨permission, member, by simp [typed, given], rfl⟩

theorem mem_groupIDsFromGrants {grants : List ResourceGrant} {grant : ResourceGrant}
    (member : grant ∈ grants)
    (typed : grant.resourceType = resourceTypeGroup ∨ grant.resourceType = resourceTypeAccountGroup)
    (given : grant.resourceId ≠ "") : grant.resourceId ∈ groupIDsFromGrants grants := by
  rw [groupIDsFromGrants, mem_foldl_appendUnique]
  exact .inr ⟨grant, member, by simp [typed, given], rfl⟩

/-- An active group has an identifier that is asked for. -/
theorem GroupsIdentified.asked (identified : GroupsIdentified db) {id : String}
    (given : id ≠ "" → id ∈ groupIds) : activeGroup db id ≠ none → id ∈ groupIds := by
  intro known
  apply given
  rintro rfl
  exact known identified.nameless

/-- Permissions match a requested resource in the batch as they do in a single check. -/
theorem permissionResourceMatches_eq (named : GroupsNamed db) (identified : GroupsIdentified db)
    (requested : Requested requests request) {permissions : List Permission}
    {permission : Permission} (member : permission ∈ permissions) :
    batchPermissionResourceMatches permission request
        (loadBatchFacts db requests (groupIDsFromPermissions permissions)) =
      ((standing db request.resourceType request.resourceId).isSome &&
        Checker.resourceMatches db permission request.resourceType request.resourceId) := by
  rw [batchPermissionResourceMatches, resourceIsActive_eq requested]
  cases active : standing db request.resourceType request.resourceId with
  | none => rfl
  | some stands =>
    simp only [Option.isSome_some, Bool.not_true, Bool.false_eq_true, if_false, Bool.true_and,
      Checker.resourceMatches]
    split
    · rfl
    by_cases typed : permission.resourceType = resourceTypeGroup
    · have names := (@groupNames_loadBatchFacts db requests _ _ (identified.asked
        (mem_groupIDsFromPermissions member typed))).1
      have groups := (@groupsOf_eq db requests request (groupIDsFromPermissions permissions)
        requested stands active).1
      have matched : (loadBatchFacts db requests
          (groupIDsFromPermissions permissions)).permissionGroupMatches permission.resourceId
            request.resourceType request.resourceId =
          Checker.groupContainsResource db permission.resourceId request.resourceType
            request.resourceId := by
        rw [checker_group_eq named, active, permissionGroupMatches, names, groups]
        simp only [Option.any_some]
        rw [← name_matches (fun found => named.of_active) stands.permissionGroup]
        exact ite_false_eq _ _
      rw [matched, typed, beq_self_eq_true, Bool.true_and, Bool.true_and]
      split
      · rfl
      rename_i blank
      rw [bne_iff_ne, not_not] at blank
      rw [checker_group_eq named, blank, identified.nameless]
      rfl
    · simp [typed]

/-- An active account belongs to its parent. -/
theorem hostContainsAccount_eq {hostId id : String} {stands : Standing}
    (active : standing db resourceTypeHostAccount id = some stands) :
    hostContainsAccount db hostId id = (stands.parent == hostId) := by
  simp only [standing, resourceTypeHost, resourceTypeHostAccount, String.reduceEq, if_false, if_true,
    Option.map_eq_some_iff] at active
  obtain ⟨_, found, rfl⟩ := active
  rw [hostContainsAccount, containsAccount_eq, found]
  rfl

theorem databaseContainsAccount_eq {instanceId id : String} {stands : Standing}
    (active : standing db resourceTypeDatabaseAccount id = some stands) :
    databaseContainsAccount db instanceId id = (stands.parent == instanceId) := by
  simp only [standing, resourceTypeHost, resourceTypeHostAccount, resourceTypeDatabaseInstance,
    resourceTypeDatabaseAccount, String.reduceEq, if_false, if_true,
    Option.map_eq_some_iff] at active
  obtain ⟨_, found, rfl⟩ := active
  rw [databaseContainsAccount, containsAccount_eq, found]
  rfl

/-- The name of an active group of a kind, in the map of the groups of that kind. -/
theorem typed_name_matches (named : GroupsNamed db) {kind kept : ResourceGroup → Bool} (id : String)
    (kinds : ∀ group, activeGroup db id = some group → kept group = kind group) (other : String) :
    ((((activeGroup db id).filter kept).map ResourceGroup.name).getD "" != "" &&
      (((activeGroup db id).filter kept).map ResourceGroup.name).getD "" == other) =
      (activeGroup db id).any fun group => kind group && other == group.name := by
  rw [name_matches fun found present => named.of_active (Option.filter_eq_some_iff.mp present).1]
  cases found : activeGroup db id with
  | none => rfl
  | some group =>
    rw [Option.any_some, ← kinds group found]
    cases taken : kept group with
    | false | true => simp [taken]

/-- A platform account is in no group of resources. -/
theorem platformAccount_ungrouped {id : String} {stands : Standing}
    (active : standing db resourceTypePlatformAccount id = some stands) :
    stands.resourceGroup = "" := by
  simp only [standing, resourceTypeHost, resourceTypeHostAccount, resourceTypeDatabaseInstance,
    resourceTypeDatabaseAccount, resourceTypeApplication, resourceTypeContainerEndpoint,
    resourceTypePlatformAccount, String.reduceEq, if_false, if_true,
    Option.map_eq_some_iff] at active
  obtain ⟨_, -, rfl⟩ := active
  rfl

/-- Grants match a requested resource in the batch as they do in a single check. -/
theorem grantMatches_eq (named : GroupsNamed db) (typed : GroupsTyped db)
    (identified : GroupsIdentified db) (requested : Requested requests request)
    {grants : List ResourceGrant} {grant : ResourceGrant} (member : grant ∈ grants) :
    batchGrantMatches grant request (loadBatchFacts db requests (groupIDsFromGrants grants)) =
      ((standing db request.resourceType request.resourceId).isSome &&
        matchesGrant db grant request.resourceType request.resourceId) := by
  rw [batchGrantMatches, resourceIsActive_eq requested]
  cases active : standing db request.resourceType request.resourceId with
  | none => rfl
  | some stands =>
    obtain ⟨-, resourceOf, accountOf⟩ := @groupsOf_eq db requests request
      (groupIDsFromGrants grants) requested stands active
    simp only [Option.isSome_some, Bool.not_true, Bool.false_eq_true, if_false, Bool.true_and,
      matchesGrant]
    split
    · rfl
    by_cases host : grant.resourceType = resourceTypeHost
    · rw [if_pos host, if_pos host]
      by_cases account : request.resourceType = resourceTypeHostAccount
      · have parent := @hostOf_loadBatchFacts db requests (groupIDsFromGrants grants) request
          requested.member requested.named account stands active
        rw [account] at active
        rw [parent, hostContainsAccount_eq active]
      · rw [beq_false_of_ne account, Bool.false_and, Bool.false_and]
    rw [if_neg host, if_neg host]
    by_cases database : grant.resourceType = resourceTypeDatabaseInstance
    · rw [if_pos database, if_pos database]
      by_cases account : request.resourceType = resourceTypeDatabaseAccount
      · have parent := @instanceOf_loadBatchFacts db requests (groupIDsFromGrants grants) request
          requested.member requested.named account stands active
        rw [account] at active
        rw [parent, databaseContainsAccount_eq active]
      · rw [beq_false_of_ne account, Bool.false_and, Bool.false_and]
    rw [if_neg database, if_neg database]
    by_cases resource : grant.resourceType = resourceTypeGroup
    · have names := (@groupNames_loadBatchFacts db requests _ _ (identified.asked
        (mem_groupIDsFromGrants member (.inl resource)))).2.1
      rw [if_pos resource, grant_group_eq named, active]
      simp only [groupMatches, names, resourceOf, Option.any_some]
      rw [@typed_name_matches db named (fun group => group.groupType == resourceGroupTypeResource) _
        grant.resourceId (fun _ => typed.resource) stands.resourceGroup]
      split
      · rename_i platform
        rw [platform] at active
        symm
        rw [platformAccount_ungrouped active, Option.any_eq_false]
        intro group present
        have unnamed := beq_false_of_ne (Ne.symm (named.of_active present))
        simp [unnamed, resourceGroupTypeResource, resourceGroupTypeAccount]
      · rfl
    rw [if_neg resource, if_neg resource]
    by_cases account : grant.resourceType = resourceTypeAccountGroup
    · have names := (@groupNames_loadBatchFacts db requests _ _ (identified.asked
        (mem_groupIDsFromGrants member (.inr account)))).2.2
      rw [if_pos account, if_pos account, grant_group_eq named, active]
      simp only [groupMatches, names, accountOf]
      exact typed_name_matches named grant.resourceId (fun _ _ => rfl) stands.accountGroup
    · rw [if_neg account, if_neg account]

end Request

/-! ## Decisions -/

/-- What one action adds to the decision. -/
theorem decideAction_eq (active : Bool) (decision : BatchActionDecision) (found : ActionFacts) :
    (decideAction active decision found).actionAllowed =
        (decision.actionAllowed || !found.globalDenied && found.globalAllowed) ∧
      (decideAction active decision found).allowed = (decision.allowed ||
          active && (!found.globalDenied && found.globalAllowed && !found.resourceDenied)) := by
  obtain ⟨allowed, denied, refused⟩ := found
  cases allowed with
  | false => simp [decideAction]
  | true =>
    cases denied with
    | true => simp [decideAction]
    | false =>
      cases active with
      | false => simp [decideAction]
      | true =>
        cases refused with
        | false | true => simp [decideAction]

/-- What the pass over the actions of a request comes to. -/
theorem decideActions_eq (facts : BatchFacts) (permissions : List Permission)
    (request : BatchAuthorizationRequest) :
    let actions := normalizedBatchActions request.actions
    let decision := decideActions facts permissions request
    decision.actionAllowed = actions.any (generallyAllowed permissions) ∧
      decision.allowed = (facts.resourceIsActive request.resourceType request.resourceId &&
        actions.any fun action => generallyAllowed permissions action &&
          !(weighPermissions facts request action permissions).resourceDenied) := by
  have general : ∀ action, (!(weighPermissions facts request action permissions).globalDenied &&
      (weighPermissions facts request action permissions).globalAllowed) =
      generallyAllowed permissions action := by
    intro action
    rw [weighPermissions_eq, generallyAllowed]
  have decided : ∀ (active : Bool) (actions : List String) (start : BatchActionDecision),
      let decision := actions.foldl (fun decision action =>
        decideAction active decision (weighPermissions facts request action permissions)) start
      decision.actionAllowed = (start.actionAllowed || actions.any (generallyAllowed permissions)) ∧
        decision.allowed = (start.allowed || active && actions.any fun action =>
          generallyAllowed permissions action &&
            !(weighPermissions facts request action permissions).resourceDenied) := by
    intro active actions
    induction actions with
    | nil => simp
    | cons action _ ih =>
      intro start
      obtain ⟨here, allowed_here⟩ := decideAction_eq active start
        (weighPermissions facts request action permissions)
      obtain ⟨there, allowed_there⟩ := ih (decideAction active start
        (weighPermissions facts request action permissions))
      rw [general] at here allowed_here
      refine ⟨there.trans ?_, allowed_there.trans ?_⟩
      · rw [here, any_cons, Bool.or_assoc]
      · rw [allowed_here, any_cons, Bool.or_assoc, ← Bool.and_or_distrib_left]
  obtain ⟨allowed, special⟩ := decided
    (facts.resourceIsActive request.resourceType request.resourceId)
    (normalizedBatchActions request.actions) {}
  unfold decideActions
  dsimp only
  split
  · exact ⟨allowed, special⟩
  · exact ⟨allowed, special⟩

/-- What the pass over the grants comes to. -/
theorem weighGrants_eq (facts : BatchFacts) (request : BatchAuthorizationRequest)
    (grants : List ResourceGrant) (allowed : Bool) :
    weighGrants facts request grants allowed = (!(grants.any fun grant =>
          batchGrantMatches grant request facts && grant.effect == permissionEffectDeny) &&
        (allowed || grants.any fun grant =>
          batchGrantMatches grant request facts && grant.effect == permissionEffectAllow)) := by
  induction grants generalizing allowed with
  | nil => simp [weighGrants]
  | cons grant _ ih =>
    cases matched : batchGrantMatches grant request facts with
    | false => simp [weighGrants, matched, ih]
    | true =>
      cases denied : grant.effect == permissionEffectDeny with
      | true => simp [weighGrants, matched, denied]
      | false => simp [weighGrants, matched, denied, ih, Bool.or_assoc]

/-- What the pass over the actions comes to in a single request. -/
theorem authorizeActions_eq (general denied : String → Bool)
    {subjectId resourceType resourceId : String} (typed : resourceType ≠ "") (actions : List String)
    (generally : ∀ action ∈ actions,
      Checker.hasPermission db now subjectId action "" "" = general action)
    (specially : ∀ action ∈ actions, general action →
      Checker.hasDeny db now subjectId action resourceType resourceId = denied action)
    (start : Bool) :
    (authorizeActions db now subjectId resourceType resourceId actions start).1 =
        (actions.any fun action => general action && !denied action) ∧
      ((actions.any fun action => general action && !denied action) = false →
        (authorizeActions db now subjectId resourceType resourceId actions start).2 =
          (start || actions.any general)) := by
  induction actions generalizing start with
  | nil => simp [authorizeActions]
  | cons action _ ih =>
    have there := ih (fun other member => generally other (.tail _ member))
      (fun other member => specially other (.tail _ member))
    have known := generally action (.head _)
    cases permitted : general action with
    | false => simpa [authorizeActions, known, permitted] using there start
    | true =>
      have deny := specially action (.head _) permitted
      have some_type : (resourceType != "") := bne_iff_ne.mpr typed
      cases refused : denied action with
      | true =>
        simpa [authorizeActions, known, permitted, deny, refused, some_type] using there true
      | false => simp [authorizeActions, known, permitted, deny, refused]

/-- Conditions that agree on a list. -/
theorem any_same {α : Type} {rows : List α} {first second : α → Bool}
    (same : ∀ row ∈ rows, first row = second row) : rows.any first = rows.any second := by
  rw [any_eq, any_eq]
  congr 1
  refine propext (exists_congr fun row => and_congr_right fun member => ?_)
  rw [same row member]

/-- A resource given without blanks around its type and its identifier. -/
structure Given (resourceType resourceId : String) : Prop where
  typed : trimSpace resourceType = resourceType ∧ resourceType ≠ ""
  named : trimSpace resourceId = resourceId ∧ resourceId ≠ ""

section Single

variable {userId resourceType resourceId : String}

/-- What denies an action that is allowed in general. -/
theorem hasDeny_eq (user : trimSpace userId = userId ∧ userId ≠ "") {action : String}
    (trimmed : trimSpace action = action ∧ action ≠ "") (given : Given resourceType resourceId)
    (general : generallyAllowed (permissionsForUser db now userId) action) :
    Checker.hasDeny db now userId action resourceType resourceId =
      (permissionsForUser db now userId).any fun permission =>
        actionMatches permission.action action && !permission.isActionOnly && permission.isDeny &&
          ((standing db resourceType resourceId).isSome &&
            Checker.resourceMatches db permission resourceType resourceId) := by
  have some_type : (resourceType != "") := bne_iff_ne.mpr given.typed.2
  have some_id : (resourceId != "") := bne_iff_ne.mpr given.named.2
  simp only [Checker.hasDeny, user.1, trimmed.1, given.typed.1, given.named.1,
    beq_false_of_ne user.2, beq_false_of_ne trimmed.2, some_type, some_id, activeResourceExists_eq]
  cases (standing db resourceType resourceId).isSome with
  | false => simp
  | true =>
    refine any_same fun permission member => ?_
    rw [generallyAllowed, Bool.and_eq_true, Bool.not_eq_true', any_eq_false] at general
    have free := general.1 permission member
    rw [Checker.permissionMatches, beq_false_of_ne given.typed.2]
    cases matched : actionMatches permission.action action with
    | false => simp
    | true =>
      cases denied : permission.isDeny with
      | false => simp
      | true =>
        have special : permission.isActionOnly = false := by simpa [matched, denied] using free
        simp [special]

theorem hasGrant_eq (user : trimSpace userId = userId ∧ userId ≠ "")
    (given : Given resourceType resourceId) :
    hasGrant db now userId resourceType resourceId =
      (!((grantsForUser db now userId).any fun grant =>
          (standing db resourceType resourceId).isSome &&
            matchesGrant db grant resourceType resourceId &&
              grant.effect == permissionEffectDeny) &&
        (grantsForUser db now userId).any fun grant =>
          (standing db resourceType resourceId).isSome &&
            matchesGrant db grant resourceType resourceId &&
              grant.effect == permissionEffectAllow) := by
  simp only [hasGrant, user.1, given.typed.1, given.named.1,
    beq_false_of_ne user.2, beq_false_of_ne given.typed.2, beq_false_of_ne given.named.2,
    Bool.or_self, activeResourceExists_eq]
  cases (standing db resourceType resourceId).isSome with
  | false => simp
  | true =>
    simp only [Bool.not_true, Bool.false_eq_true, if_false]
    split
    · next found => simp [found]
    · rename_i none_found
      simp [none_found]

end Single

section Batch

variable {userId : String} {requests : List BatchAuthorizationRequest}
  {request : BatchAuthorizationRequest}

/-- The grants of the batch say what a single check says. -/
theorem batchGrant_eq (named : GroupsNamed db) (typed : GroupsTyped db)
    (identified : GroupsIdentified db) (requested : Requested requests request)
    (user : trimSpace userId = userId ∧ userId ≠ "")
    (given : Given request.resourceType request.resourceId) :
    weighGrants (loadBatchFacts db requests
        (groupIDsFromGrants (grantsForUser db now userId))) request
        (grantsForUser db now userId) false =
      hasGrant db now userId request.resourceType request.resourceId := by
  have matched : ∀ effect : String, (grantsForUser db now userId).any (fun grant =>
      batchGrantMatches grant request (loadBatchFacts db requests
        (groupIDsFromGrants (grantsForUser db now userId))) && grant.effect == effect) =
      (grantsForUser db now userId).any fun grant =>
        (standing db request.resourceType request.resourceId).isSome &&
          matchesGrant db grant request.resourceType request.resourceId &&
            grant.effect == effect := by
    intro effect
    refine any_same fun grant member => ?_
    rw [grantMatches_eq named typed identified requested member]
  rw [weighGrants_eq, hasGrant_eq user given, matched, matched, Bool.false_or]

/-- The denials of the batch are those of single checks. -/
theorem batchDenied_eq (named : GroupsNamed db) (identified : GroupsIdentified db)
    (requested : Requested requests request) (user : trimSpace userId = userId ∧ userId ≠ "")
    (given : Given request.resourceType request.resourceId) {action : String}
    (trimmed : trimSpace action = action ∧ action ≠ "")
    (general : generallyAllowed (permissionsForUser db now userId) action) :
    Checker.hasDeny db now userId action request.resourceType request.resourceId =
      (weighPermissions (loadBatchFacts db requests
        (groupIDsFromPermissions (permissionsForUser db now userId))) request action
          (permissionsForUser db now userId)).resourceDenied := by
  rw [hasDeny_eq user trimmed given general, weighPermissions_eq]
  refine any_same fun permission member => ?_
  rw [permissionResourceMatches_eq named identified requested member]

/-- Without an active resource nothing is granted. -/
theorem hasGrant_inactive (user : trimSpace userId = userId ∧ userId ≠ "")
    (given : Given request.resourceType request.resourceId)
    (inactive : (standing db request.resourceType request.resourceId).isSome = false) :
    hasGrant db now userId request.resourceType request.resourceId = false := by
  rw [hasGrant_eq user given, inactive]
  simp

/-- A request of the batch is decided as a single one. -/
theorem combineDecisions_eq (named : GroupsNamed db) (identified : GroupsIdentified db)
    (requested : Requested requests request) (user : trimSpace userId = userId ∧ userId ≠ "")
    (given : Given request.resourceType request.resourceId)
    (normalized : distinctActions request.actions = request.actions) :
    let single := authorizeActions db now userId request.resourceType request.resourceId
      request.actions false
    let granted := hasGrant db now userId request.resourceType request.resourceId
    combineDecisions (decideActions (loadBatchFacts db requests
        (groupIDsFromPermissions (permissionsForUser db now userId)))
        (permissionsForUser db now userId) request) granted =
      if !single.1 then
        if single.2 then { reason := .resourceDenied } else { reason := .actionDenied }
      else if !granted then { reason := .resourceDenied }
      else { allowed := true, reason := .allowed } := by
  obtain ⟨actionAllowed, allowed⟩ := decideActions_eq (loadBatchFacts db requests
    (groupIDsFromPermissions (permissionsForUser db now userId)))
    (permissionsForUser db now userId) request
  have sound := (distinctActions_spec request.actions).2
  rw [normalizedBatchActions, normalized] at actionAllowed allowed
  rw [resourceIsActive_eq requested] at allowed
  rw [normalized] at sound
  obtain ⟨first, second⟩ := @authorizeActions_eq db now
    (generallyAllowed (permissionsForUser db now userId)) _ userId request.resourceType
    request.resourceId given.typed.2 request.actions
    (fun action member => hasPermission_eq user (sound action member))
    (fun action member general => batchDenied_eq named identified requested user given
      (sound action member) general) false
  dsimp only
  rw [combineDecisions, actionAllowed, allowed, first]
  cases special : request.actions.any fun action =>
      generallyAllowed (permissionsForUser db now userId) action &&
        !(weighPermissions (loadBatchFacts db requests
          (groupIDsFromPermissions (permissionsForUser db now userId))) request action
            (permissionsForUser db now userId)).resourceDenied with
  | false =>
    rw [second special]
    cases request.actions.any (generallyAllowed (permissionsForUser db now userId)) with
    | false | true => simp
  | true =>
    obtain ⟨action, member, met⟩ := any_eq_true.mp special
    have general : request.actions.any (generallyAllowed (permissionsForUser db now userId)) =
        true :=
      any_eq_true.mpr ⟨action, member, (Bool.and_eq_true_iff.mp met).1⟩
    rw [general]
    cases active : (standing db request.resourceType request.resourceId).isSome with
    | false => simp [hasGrant_inactive user given active]
    | true => simp

end Batch

/-! ## Agreement -/

/-- A request that names a resource and an action. -/
def AuthorizationRequest.Valid (request : AuthorizationRequest) : Prop :=
  trimSpace request.resourceType ≠ "" ∧ trimSpace request.resourceId ≠ "" ∧
    normalizedActions request.actions ≠ []

instance (request : AuthorizationRequest) : Decidable request.Valid :=
  inferInstanceAs (Decidable (_ ∧ _ ∧ _))

/-- What a valid request is in the batch. -/
def AuthorizationRequest.prepared (request : AuthorizationRequest) : BatchAuthorizationRequest :=
  { resourceType := trimSpace request.resourceType
    resourceId := trimSpace request.resourceId
    actions := normalizedActions request.actions }

theorem prepareRequest_eq {request : AuthorizationRequest} (valid : request.Valid) :
    prepareRequest request = .inr request.prepared := by
  obtain ⟨typed, named, actions⟩ := valid
  simp [prepareRequest, AuthorizationRequest.prepared, typed, named, actions]

theorem AuthorizationRequest.given {request : AuthorizationRequest} (valid : request.Valid) :
    Given request.prepared.resourceType request.prepared.resourceId :=
  ⟨⟨trimSpace_idem _, valid.1⟩, ⟨trimSpace_idem _, valid.2.1⟩⟩

/-- A subject is found under the trimmed identifier. -/
theorem findIdentitySubject_id {userId : String} {subject : User}
    (found : findIdentitySubject db now userId = some subject) :
    subject.id = trimSpace userId := by
  unfold findIdentitySubject at found
  dsimp only at found
  split at found
  · cases found
  · exact Table.get?_key (Option.filter_eq_some_iff.mp (Option.filter_eq_some_iff.mp found).1).1

/-- A valid request of a known subject. -/
theorem authorize_subject {userId : String} {subject : User} (user : trimSpace userId ≠ "")
    (found : findIdentitySubject db now (trimSpace userId) = some subject)
    {request : AuthorizationRequest} (valid : request.Valid) :
    authorize db now { request with userId := userId } =
      if subject.isSuperAdmin then { allowed := true, reason := .superAdmin }
      else
        let single := authorizeActions db now subject.id request.prepared.resourceType
          request.prepared.resourceId request.prepared.actions false
        if !single.1 then
          if single.2 then { reason := .resourceDenied } else { reason := .actionDenied }
        else if !hasGrant db now subject.id request.prepared.resourceType
            request.prepared.resourceId then { reason := .resourceDenied }
        else { allowed := true, reason := .allowed } := by
  have some_type : (trimSpace request.resourceType != "") := bne_iff_ne.mpr valid.1
  simp only [authorize, beq_false_of_ne user, found, beq_false_of_ne valid.1,
    beq_false_of_ne valid.2.1, some_type, Bool.true_and]
  rfl

/-- Where the zero byte that separates the parts of a key is in no resource type and every active
group has an identifier, the batch decides every request as `Authorize` does. -/
theorem authorizeBatch_agrees (db : Database) (now : Time) (userId : String)
    (requests : List AuthorizationRequest) (valid : ∀ request ∈ requests, request.Valid)
    (named : GroupsNamed db) (typed : GroupsTyped db) (identified : GroupsIdentified db)
    (free : ∀ request ∈ requests, ZeroFree (trimSpace request.resourceType)) :
    authorizeBatch db now userId requests =
      .ok (requests.map fun request => authorize db now { request with userId := userId }) := by
  have prepared : requests.map prepareRequest = requests.map fun request => .inr request.prepared :=
    List.map_congr_left fun request member => prepareRequest_eq (valid request member)
  unfold authorizeBatch
  split
  · next empty => rw [List.isEmpty_iff.mp empty, List.map_nil]
  next some_request =>
  by_cases missing : trimSpace userId = ""
  · simp [missing, authorize]
  simp only [beq_false_of_ne missing, Bool.false_eq_true, if_false]
  cases found : findIdentitySubject db now (trimSpace userId) with
  | none => simp [missing, authorize, found]
  | some subject =>
    have decided := fun request member =>
      @authorize_subject db now userId subject missing found request (valid request member)
    rw [List.map_congr_left decided, prepared]
    dsimp only
    split
    · simp [Function.comp_def]
    have user : trimSpace subject.id = subject.id ∧ subject.id ≠ "" := by
      rw [findIdentitySubject_id found, trimSpace_idem, trimSpace_idem]
      exact ⟨rfl, missing⟩
    have batch : (requests.map fun request => (Sum.inr request.prepared :
        AuthorizationDecision ⊕ BatchAuthorizationRequest)).map (fun request =>
          request.elim (fun _ => { resourceType := "", resourceId := "", actions := [] }) id) =
        requests.map AuthorizationRequest.prepared := by
      simp [Function.comp_def]
    have filled : (requests.map AuthorizationRequest.prepared).isEmpty = false := by
      rw [List.isEmpty_map]
      exact Bool.eq_false_iff.mpr some_request
    rw [batch, batchActionDecisions, batchGrants]
    simp only [filled, user.1, beq_false_of_ne user.2, Bool.or_self, Bool.false_eq_true, if_false,
      List.length_map, bne_self_eq_false, List.map_map, List.zip_map']
    refine congrArg Except.ok (List.map_congr_left fun request member => ?_)
    have requested : Requested (requests.map AuthorizationRequest.prepared) request.prepared := by
      refine ⟨List.mem_map_of_mem member, ?_, free request member⟩
      rw [(request.given (valid request member)).named.1]
      exact (valid request member).2.1
    have given := request.given (valid request member)
    refine Eq.trans ?_ (combineDecisions_eq named identified requested user given
      (distinctActions_idem request.actions))
    rw [← batchGrant_eq named typed identified requested user given]
    rfl

/-- A user who may connect, with a grant on a group. -/
def sampleDatabase (grant : ResourceGrant) (group : ResourceGroup) : Database where
  users := ⟨[{ id := "u" }], by decide⟩
  roles := ⟨[{ id := "r" }], by decide⟩
  permissions := ⟨[{ id := "p", action := "connect" }], by decide⟩
  rolePermissions := [{ roleId := "r", permissionId := "p" }]
  userRoles := [{ userId := "u", roleId := "r" }]
  resourceGrants := [grant]
  resourceGroups := ⟨[group], List.nodup_singleton _⟩
  hosts := ⟨[{ id := "h", groupName := "web" }, { id := "x\x00y", groupName := "web" }], by decide⟩
  hostAccounts := ⟨[{ id := "a", parentId := "h", groupName := "ops" }], by decide⟩

/-- A grant to the user. -/
def sampleGrant (resourceType resourceId : String) : ResourceGrant :=
  { principalType := "user", principalId := "u", resourceType := resourceType,
    resourceId := resourceId }

def sampleRequest (resourceType resourceId : String) : AuthorizationRequest :=
  { actions := ["connect"], resourceType := resourceType, resourceId := resourceId }

/-- A host in the group and its account are allowed, an unknown host is not. -/
theorem authorizeBatch_agrees_group :
    let db := sampleDatabase (sampleGrant "resource_group" "g")
      { id := "g", name := "web", groupType := "resource" }
    let requests := [sampleRequest "host" "h", sampleRequest "host_account" "a",
      sampleRequest "host" "unknown"]
    authorizeBatch db 0 "u" requests = .ok [{ allowed := true, reason := .allowed },
        { allowed := true, reason := .allowed }, { reason := .resourceDenied }] ∧
      authorizeBatch db 0 "u" requests =
        .ok (requests.map fun request => authorize db 0 { request with userId := "u" }) := by
  refine ⟨by decide +kernel, authorizeBatch_agrees _ _ _ _ (by decide +kernel) ?_ ?_ ?_
    (by decide +kernel)⟩
  · intro group member _
    rw [List.mem_singleton.mp member]
    decide
  · intro group member _
    rw [List.mem_singleton.mp member]
    exact .inl rfl
  · intro group member _
    rw [List.mem_singleton.mp member]
    decide

/-- The batch misses a grant on the group whose identifier is empty, and it takes two resources that
share a key for one. -/
theorem authorizeBatch_disagrees :
    (let db := sampleDatabase (sampleGrant "resource_group" "")
      { id := "", name := "web", groupType := "resource" }
     authorize db 0 { sampleRequest "host" "h" with userId := "u" } =
        { allowed := true, reason := .allowed } ∧
      authorizeBatch db 0 "u" [sampleRequest "host" "h"] = .ok [{ reason := .resourceDenied }]) ∧
    let db := sampleDatabase (sampleGrant "resource_group" "g")
      { id := "g", name := "web", groupType := "resource" }
    authorize db 0 { sampleRequest "host\x00x" "y" with userId := "u" } =
        { reason := .resourceDenied } ∧
      authorizeBatch db 0 "u" [sampleRequest "host" "x\x00y", sampleRequest "host\x00x" "y"] =
        .ok [{ allowed := true, reason := .allowed }, { allowed := true, reason := .allowed }] := by
  decide +kernel

end Jianmen.Authorization
