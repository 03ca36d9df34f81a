import Jianmen.Library.Cells
import Jianmen.Authorization.Batch

/-!
# What the facts say

What the database says about a resource is its *standing*.  The single checks read it from the
tables; the facts of a batch hold it under the key of the resource, as long as no two resources
share a key.
-/

namespace Jianmen.Authorization

/-! ## Standing -/

/-- What the database says about an active resource; a group that does not count is empty. -/
structure Standing where
  /-- The group permissions look at. -/
  permissionGroup : String := ""
  /-- The group grants on resource groups look at. -/
  resourceGroup : String := ""
  /-- The group grants on account groups look at. -/
  accountGroup : String := ""
  /-- The host or the instance of an account. -/
  parent : String := ""
  deriving DecidableEq

/-- The active row under a key. -/
def activeRow (table : Table Resource.id) (id : String) : Option Resource :=
  (table.get? id).filter Resource.active

def activeGroup (db : Database) (id : String) : Option ResourceGroup :=
  (db.resourceGroups.get? id).filter ResourceGroup.active

/-- An active account with what it belongs to. -/
def activeAccount (accounts : Table Account.id) (parents : Table Resource.id) (id : String) :
    Option (Account × Resource) :=
  ((accounts.get? id).filter Account.active).bind fun account =>
    (activeRow parents account.parentId).map (account, ·)

/-- A host, an instance or an application stands in its group. -/
def Resource.standing (row : Resource) : Standing :=
  { permissionGroup := row.groupName, resourceGroup := row.groupName }

/-- An account stands in the group of what it belongs to and in its own. -/
def accountStanding (row : Account × Resource) : Standing :=
  { permissionGroup := row.2.groupName
    resourceGroup := row.2.groupName
    accountGroup := row.1.groupName
    parent := row.1.parentId }

/-- The standing of an active resource. -/
def standing (db : Database) (resourceType resourceId : String) : Option Standing :=
  if resourceType = resourceTypeHost then (activeRow db.hosts resourceId).map Resource.standing
  else if resourceType = resourceTypeHostAccount then
    (activeAccount db.hostAccounts db.hosts resourceId).map accountStanding
  else if resourceType = resourceTypeDatabaseInstance then
    (activeRow db.databaseInstances resourceId).map Resource.standing
  else if resourceType = resourceTypeDatabaseAccount then
    (activeAccount db.databaseAccounts db.databaseInstances resourceId).map accountStanding
  else if resourceType = resourceTypeApplication then
    (activeRow db.applications resourceId).map Resource.standing
  else if resourceType = resourceTypeContainerEndpoint then
    (activeRow db.containerEndpoints resourceId).map fun row => { resourceGroup := row.groupName }
  else if resourceType = resourceTypePlatformAccount then
    (activeRow db.platformAccounts resourceId).map fun row =>
      { permissionGroup := row.groupName, accountGroup := row.groupName }
  else if resourceType = resourceTypeGroup ∨ resourceType = resourceTypeAccountGroup then
    (activeGroup db resourceId).map fun _ => {}
  else some {}

/-! ## Standing in the tables -/

/-- Rows found by their key are the row under the key. -/
theorem count_by_id (table : Table Resource.id) (id : String) {condition : Resource → Bool}
    (keyed : ∀ row, condition row → row.id = id) :
    decide (0 < table.count condition) = (table.get? id).any condition := by
  rw [table.count_of_key keyed]
  cases (table.get? id).any condition with
  | false | true => rfl

theorem activeRow_any (table : Table Resource.id) (id : String) (condition : Resource → Bool) :
    (activeRow table id).any condition =
      (table.get? id).any fun row => row.active && condition row := by
  unfold activeRow
  cases table.get? id with
  | none => rfl
  | some row =>
    cases active : row.active with
    | false | true => simp [active]

theorem present_eq (table : Table Resource.id) (id : String) :
    decide (0 < table.count fun row => row.id == id && row.active) = (activeRow table id).isSome := by
  rw [count_by_id table id (by simp +contextual), ← Option.any_true, activeRow_any]
  cases found : table.get? id with
  | none => rfl
  | some row => simp [Table.get?_key found]

theorem inGroup_eq (table : Table Resource.id) (groupName id : String) :
    inGroup table groupName id = (activeRow table id).any fun row => row.groupName == groupName := by
  rw [inGroup, count_by_id table id (by simp +contextual), activeRow_any]
  cases found : table.get? id with
  | none => rfl
  | some row => simp [Table.get?_key found, Bool.and_comm]

variable {id resourceType : String} {ids : List String}

theorem activeRow_eq_some {table : Table Resource.id} {row : Resource} :
    activeRow table id = some row ↔ row ∈ table.rows ∧ row.id = id ∧ row.active := by
  rw [activeRow, Option.filter_eq_some_iff]
  constructor
  · rintro ⟨found, active⟩
    exact ⟨Table.get?_mem found, Table.get?_key found, active⟩
  · rintro ⟨member, rfl, active⟩
    exact ⟨Table.get?_of_mem member, active⟩

section Accounts

variable {accounts : Table Account.id} {parents : Table Resource.id} {row : Account × Resource}

theorem activeAccount_eq_some {id : String} :
    activeAccount accounts parents id = some row ↔ row.1 ∈ accounts.rows ∧ row.1.id = id ∧
      row.1.active ∧ activeRow parents row.1.parentId = some row.2 := by
  obtain ⟨account, parent⟩ := row
  simp only [activeAccount, Option.bind_eq_some_iff, Option.filter_eq_some_iff,
    Option.map_eq_some_iff]
  constructor
  · rintro ⟨_, ⟨known, active⟩, other, stands, same⟩
    cases same
    exact ⟨Table.get?_mem known, Table.get?_key known, active, stands⟩
  · rintro ⟨member, rfl, active, stands⟩
    exact ⟨account, ⟨Table.get?_of_mem member, active⟩, parent, stands, rfl⟩

theorem mem_joined :
    row ∈ joined accounts parents ↔ activeAccount accounts parents row.1.id = some row := by
  obtain ⟨account, parent⟩ := row
  rw [activeAccount_eq_some, activeRow_eq_some]
  simp only [joined, List.mem_flatMap, List.mem_map, List.mem_filter, Bool.and_eq_true, beq_iff_eq,
    Prod.mk.injEq]
  constructor
  · rintro ⟨_, member, _, ⟨stands, ⟨belongs, active⟩, parent_active⟩, rfl, rfl⟩
    exact ⟨member, trivial, active, stands, belongs, parent_active⟩
  · rintro ⟨member, -, active, stands, belongs, parent_active⟩
    exact ⟨account, member, parent, ⟨stands, ⟨belongs, active⟩, parent_active⟩, rfl, rfl⟩

/-- Joined rows found by the key of the account are the active account under the key. -/
theorem joined_by_id (id : String) {condition : Account × Resource → Bool}
    (keyed : ∀ row, condition row → row.1.id = id) :
    decide (0 < (joined accounts parents).countP condition) =
      (activeAccount accounts parents id).any condition := by
  rw [Bool.eq_iff_iff, decide_eq_true_eq, List.countP_pos_iff, Option.any_eq_true]
  constructor
  · rintro ⟨row, member, met⟩
    refine ⟨row, ?_, met⟩
    rw [← keyed row met]
    exact mem_joined.mp member
  · rintro ⟨row, found, met⟩
    refine ⟨row, mem_joined.mpr ?_, met⟩
    rw [keyed row met]
    exact found

theorem account_id {id : String} (found : activeAccount accounts parents id = some row) :
    row.1.id = id :=
  (activeAccount_eq_some.mp found).2.1

theorem joined_eq (id : String) :
    decide (0 < (joined accounts parents).countP fun row => row.1.id == id) =
      (activeAccount accounts parents id).isSome := by
  rw [joined_by_id id (by simp)]
  cases found : activeAccount accounts parents id with
  | none => rfl
  | some row => simp [account_id found]

theorem parentInGroup_eq (groupName id : String) : parentInGroup accounts parents groupName id =
      (activeAccount accounts parents id).any fun row => row.2.groupName == groupName := by
  rw [parentInGroup, joined_by_id id (by simp +contextual)]
  cases found : activeAccount accounts parents id with
  | none => rfl
  | some row => simp [account_id found]

theorem accountInGroup_eq (groupName id : String) : accountInGroup accounts parents groupName id =
      (activeAccount accounts parents id).any fun row => row.1.groupName == groupName := by
  rw [accountInGroup, joined_by_id id (by simp +contextual)]
  cases found : activeAccount accounts parents id with
  | none => rfl
  | some row => simp [account_id found]

theorem containsAccount_eq (parentId id : String) :
    ResourceGrantChecker.containsAccount accounts parents parentId id =
      (activeAccount accounts parents id).any fun row => row.1.parentId == parentId := by
  rw [ResourceGrantChecker.containsAccount, joined_by_id id (by simp +contextual)]
  cases found : activeAccount accounts parents id with
  | none => rfl
  | some row => simp [account_id found]

end Accounts

theorem group_count_eq (db : Database) (id : String) :
    decide (0 < db.resourceGroups.count fun row => row.id == id && row.active) =
      (activeGroup db id).isSome := by
  rw [db.resourceGroups.count_of_key (k := id) (by simp +contextual), activeGroup]
  cases found : db.resourceGroups.get? id with
  | none => rfl
  | some row =>
    cases active : row.active with
    | false | true => simp [Table.get?_key found, active]

/-! ## Single checks -/

variable {db : Database}

theorem activeResourceExists_eq (resourceType resourceId : String) :
    activeResourceExists db resourceType resourceId = (standing db resourceType resourceId).isSome := by
  simp only [activeResourceExists, standing, present_eq, joined_eq, group_count_eq]
  repeat' split
  all_goals simp

/-- The types by which resources are looked up, and every other type. -/
theorem resourceType_cases (resourceType : String) :
    resourceType = resourceTypeHost ∨ resourceType = resourceTypeHostAccount ∨
      resourceType = resourceTypeDatabaseInstance ∨ resourceType = resourceTypeDatabaseAccount ∨
      resourceType = resourceTypeApplication ∨ resourceType = resourceTypeContainerEndpoint ∨
      resourceType = resourceTypePlatformAccount ∨ resourceType = resourceTypeGroup ∨
      resourceType = resourceTypeAccountGroup ∨ auditedResourceType resourceType = false := by
  by_cases known : auditedResourceType resourceType
  · simp only [auditedResourceType, List.contains_eq_mem, List.mem_cons, decide_eq_true_eq] at known
    tauto
  · simp only [Bool.not_eq_true] at known
    tauto

/-- A type that is not looked up differs from those that are. -/
theorem unaudited (unknown : auditedResourceType resourceType = false) :
    resourceType ≠ resourceTypeHost ∧ resourceType ≠ resourceTypeHostAccount ∧
      resourceType ≠ resourceTypeDatabaseInstance ∧ resourceType ≠ resourceTypeDatabaseAccount ∧
      resourceType ≠ resourceTypeApplication ∧ resourceType ≠ resourceTypeContainerEndpoint ∧
      resourceType ≠ resourceTypePlatformAccount ∧ resourceType ≠ resourceTypeGroup ∧
      resourceType ≠ resourceTypeAccountGroup := by
  simpa [auditedResourceType] using unknown

/-- Every active group has a name. -/
def GroupsNamed (db : Database) : Prop :=
  ∀ group ∈ db.resourceGroups.rows, group.active = true → group.name ≠ ""

theorem GroupsNamed.of_active (named : GroupsNamed db) {group : ResourceGroup}
    (found : activeGroup db id = some group) : group.name ≠ "" := by
  obtain ⟨present, active⟩ := Option.filter_eq_some_iff.mp found
  exact named group (Table.get?_mem present) active

theorem checker_group_eq (named : GroupsNamed db) (groupId resourceType resourceId : String) :
    Checker.groupContainsResource db groupId resourceType resourceId =
      (activeGroup db groupId).any fun group =>
        (standing db resourceType resourceId).any fun stands =>
          stands.permissionGroup == group.name := by
  rw [Checker.groupContainsResource]
  have lookup : (db.resourceGroups.get? groupId).filter (·.active) = activeGroup db groupId := rfl
  rw [lookup]
  cases found : activeGroup db groupId with
  | none => rfl
  | some group =>
    have unnamed : ("" == group.name) = false := beq_false_of_ne (Ne.symm (named.of_active found))
    simp only [parentInGroup_eq, inGroup_eq]
    obtain rfl | rfl | rfl | rfl | rfl | rfl | rfl | rfl | rfl | unknown :=
      resourceType_cases resourceType
    case inr.inr.inr.inr.inr.inr.inr.inr.inr =>
      simp [standing, unaudited unknown, unnamed]
    all_goals
      simp [standing, resourceTypeHost, resourceTypeHostAccount, resourceTypeDatabaseInstance,
        resourceTypeDatabaseAccount, resourceTypeApplication, resourceTypeContainerEndpoint,
        resourceTypePlatformAccount, resourceTypeGroup, resourceTypeAccountGroup, Option.any_map,
        Resource.standing, accountStanding, unnamed]

/-- A group of a type is looked up by its identifier. -/
theorem find_group (groupId groupType : String) : (db.resourceGroups.rows.find? fun group =>
      group.id == groupId && group.groupType == groupType && group.active) =
      (activeGroup db groupId).filter fun group => group.groupType == groupType := by
  cases found : db.resourceGroups.rows.find? fun group =>
      group.id == groupId && group.groupType == groupType && group.active with
  | none =>
    symm
    rw [Option.filter_eq_none_iff]
    intro group present typed
    obtain ⟨stored, active⟩ := Option.filter_eq_some_iff.mp present
    have unmet := List.find?_eq_none.mp found group (Table.get?_mem stored)
    simp [Table.get?_key stored, active, typed] at unmet
  | some group =>
    have met := List.find?_some found
    simp only [Bool.and_eq_true, beq_iff_eq] at met
    obtain ⟨⟨rfl, typed⟩, active⟩ := met
    symm
    rw [Option.filter_eq_some_iff, beq_iff_eq]
    exact ⟨Option.filter_eq_some_iff.mpr
      ⟨Table.get?_of_mem (List.mem_of_find?_eq_some found), active⟩, typed⟩

theorem grant_group_eq (named : GroupsNamed db) (groupId resourceType resourceId groupType : String)
    : ResourceGrantChecker.groupContainsResource db groupId resourceType resourceId groupType =
      (activeGroup db groupId).any fun group => group.groupType == groupType &&
        (standing db resourceType resourceId).any fun stands =>
          (if groupType = resourceGroupTypeAccount then stands.accountGroup
            else stands.resourceGroup) == group.name := by
  rw [ResourceGrantChecker.groupContainsResource, find_group]
  cases found : activeGroup db groupId with
  | none => rfl
  | some group =>
    have unnamed : ("" == group.name) = false := beq_false_of_ne (Ne.symm (named.of_active found))
    cases typed : group.groupType == groupType with
    | false => simp [Option.filter, typed]
    | true =>
      simp only [Option.filter, typed, Option.any_some, accountInGroup_eq, parentInGroup_eq,
        inGroup_eq]
      obtain rfl | rfl | rfl | rfl | rfl | rfl | rfl | rfl | rfl | unknown :=
        resourceType_cases resourceType
      case inr.inr.inr.inr.inr.inr.inr.inr.inr =>
        simp [standing, unaudited unknown, unnamed]
      all_goals
        by_cases account : groupType = resourceGroupTypeAccount
      all_goals
        simp [account, standing, resourceTypeHost, resourceTypeHostAccount,
          resourceTypeDatabaseInstance, resourceTypeDatabaseAccount, resourceTypeApplication,
          resourceTypeContainerEndpoint, resourceTypePlatformAccount, resourceTypeGroup,
          resourceTypeAccountGroup, Option.any_map, Resource.standing, accountStanding, unnamed]

/-! ## Keys -/

/-- The text has no zero byte. -/
def ZeroFree (text : String) : Prop :=
  '\x00' ∉ text.toList

instance (text : String) : Decidable (ZeroFree text) :=
  inferInstanceAs (Decidable ('\x00' ∉ text.toList))

/-- Keys of types without a zero byte tell resources apart. -/
theorem batchResourceKey_inj {first second firstId secondId : String} (first_free : ZeroFree first)
    (second_free : ZeroFree second) :
    batchResourceKey first firstId = batchResourceKey second secondId ↔
      first = second ∧ firstId = secondId := by
  refine ⟨fun same => ?_, fun ⟨type, id⟩ => by rw [type, id]⟩
  have letters := congrArg String.toList same
  simp only [batchResourceKey, String.toList_append, List.append_assoc] at letters
  have upTo : ∀ {type id : String}, ZeroFree type →
      (type.toList ++ ("\x00".toList ++ id.toList)).takeWhile (· != '\x00') = type.toList := by
    intro type id free
    have zero : "\x00".toList = ['\x00'] := rfl
    have kept : ∀ letter ∈ type.toList, (letter != '\x00') := by
      intro letter member
      rw [bne_iff_ne]
      rintro rfl
      exact free member
    rw [List.takeWhile_append_of_pos kept]
    simp
  have types : first.toList = second.toList := by
    rw [← @upTo first firstId first_free, letters, upTo second_free]
  rw [types] at letters
  exact ⟨String.toList_inj.mp types,
    String.toList_inj.mp (List.append_cancel_left (List.append_cancel_left letters))⟩

/-! ## Facts under a key -/

/-- What the facts say under a key. -/
structure Said where
  active : Bool := false
  permissionOf : String := ""
  resourceOf : String := ""
  accountOf : String := ""
  deriving DecidableEq

def BatchFacts.said (facts : BatchFacts) (key : String) : Said :=
  { active := facts.activeResources key
    permissionOf := facts.permissionOf key
    resourceOf := facts.resourceOf key
    accountOf := facts.accountOf key }

/-- A step of the loading that notes a row under the keys of some types. -/
structure Notes {α : Type} (add : BatchFacts → α → BatchFacts) (types : List String)
    (name : α → String) (write : α → Said → Said) : Prop where
  typed : ∀ type ∈ types, ZeroFree type
  said : ∀ facts row key, (add facts row).said key =
    if key ∈ types.map (batchResourceKey · (name row)) then write row (facts.said key)
    else facts.said key
  again : ∀ row said, write row (write row said) = write row said

section Load

variable {α : Type} {add : BatchFacts → α → BatchFacts} {types : List String} {name : α → String}
  {write : α → Said → Said} {resourceType resourceId : String}

/-- The cell of a resource in the facts. -/
def Notes.cell (notes : Notes add types name write) (key : String) : Cell (β := Said) add where
  read := (·.said key)
  hit row := key ∈ types.map (batchResourceKey · (name row))
  write := write
  missed := by
    intro facts row missed
    rw [notes.said, if_neg missed]
  written := by
    intro facts row hit
    rw [notes.said, if_pos hit]

theorem Notes.hit_iff (notes : Notes add types name write) (free : ZeroFree resourceType)
    (row : α) :
    batchResourceKey resourceType resourceId ∈ types.map (batchResourceKey · (name row)) ↔
      resourceType ∈ types ∧ name row = resourceId := by
  rw [List.mem_map]
  constructor
  · rintro ⟨type, member, same⟩
    obtain ⟨rfl, rfl⟩ := (batchResourceKey_inj (notes.typed type member) free).mp same
    exact ⟨member, rfl⟩
  · rintro ⟨member, rfl⟩
    exact ⟨resourceType, member, rfl⟩

/-- What is said about a resource once the rows of its type are noted. -/
theorem Notes.foldl (notes : Notes add types name write) (free : ZeroFree resourceType)
    {rows : List α} {found : Option α} (looked_up : resourceType ∈ types →
      ∀ row, row ∈ rows ∧ name row = resourceId ↔ found = some row) (facts : BatchFacts) :
    (rows.foldl add facts).said (batchResourceKey resourceType resourceId) =
      if resourceType ∈ types then
        found.elim (facts.said (batchResourceKey resourceType resourceId)) fun row =>
          write row (facts.said (batchResourceKey resourceType resourceId))
      else facts.said (batchResourceKey resourceType resourceId) := by
  let cell := notes.cell (batchResourceKey resourceType resourceId)
  split
  · rename_i known
    cases present : found with
    | none =>
      refine cell.foldl_missed (fun row member hit => ?_) facts
      have named := (notes.hit_iff free row).mp hit
      have same := (looked_up known row).mp ⟨member, named.2⟩
      rw [present] at same
      cases same
    | some row =>
      obtain ⟨member, named⟩ := (looked_up known row).mpr present
      refine cell.foldl_written member ((notes.hit_iff free row).mpr ⟨known, named⟩) ?_
        (notes.again row) facts
      intro other other_member hit
      have other_named := (notes.hit_iff free other).mp hit
      have same := (looked_up known other).mp ⟨other_member, other_named.2⟩
      rw [present] at same
      rw [Option.some.inj same]
  · rename_i unknown
    exact cell.foldl_missed (fun row _ hit => unknown ((notes.hit_iff free row).mp hit).1) facts

end Load

/-- What a host, an instance or an application says. -/
def noteResource (row : Resource) (said : Said) : Said :=
  { said with active := true, permissionOf := row.groupName, resourceOf := row.groupName }

def notePlatformAccount (row : Resource) (said : Said) : Said :=
  { said with active := true, permissionOf := row.groupName, accountOf := row.groupName }

def noteContainerEndpoint (row : Resource) (said : Said) : Said :=
  { said with active := true, resourceOf := row.groupName }

def noteAccount (row : Account × Resource) (_ : Said) : Said :=
  { active := true
    permissionOf := row.2.groupName
    resourceOf := row.2.groupName
    accountOf := row.1.groupName }

def noteGroup (_ : ResourceGroup) (said : Said) : Said :=
  { said with active := true }

/-- A step that notes a row under the key of one type. -/
theorem Notes.single {α : Type} {add : BatchFacts → α → BatchFacts} {name : α → String}
    {write : α → Said → Said} (free : ZeroFree resourceType)
    (hit : ∀ facts row, (add facts row).said (batchResourceKey resourceType (name row)) =
      write row (facts.said (batchResourceKey resourceType (name row))))
    (missed : ∀ facts row key, key ≠ batchResourceKey resourceType (name row) →
      (add facts row).said key = facts.said key)
    (again : ∀ row said, write row (write row said) = write row said) :
    Notes add [resourceType] name write where
  typed type member := by rwa [List.mem_singleton.mp member]
  said facts row key := by
    simp only [List.map_cons, List.map_nil, List.mem_singleton]
    split
    · next same => rw [same, hit]
    · next other => exact missed facts row key other
  again := again

section Steps

open BatchFacts

theorem notes_resource {resourceType : String} (free : ZeroFree resourceType) :
    Notes (addResource resourceType) [resourceType] Resource.id noteResource := by
  refine .single free (fun facts row => ?_) (fun facts row key other => ?_) fun _ _ => rfl
  · simp [said, addResource, markActive, Texts.put, noteResource]
  · simp [said, addResource, markActive, Texts.put, other]

theorem notes_platformAccount :
    Notes addPlatformAccount [resourceTypePlatformAccount] Resource.id notePlatformAccount := by
  refine .single (by decide) (fun facts row => ?_) (fun facts row key other => ?_) fun _ _ => rfl
  · simp [said, addPlatformAccount, markActive, Texts.put, notePlatformAccount]
  · simp [said, addPlatformAccount, markActive, Texts.put, other]

theorem notes_containerEndpoint :
    Notes addContainerEndpoint [resourceTypeContainerEndpoint] Resource.id
      noteContainerEndpoint := by
  refine .single (by decide) (fun facts row => ?_) (fun facts row key other => ?_) fun _ _ => rfl
  · simp [said, addContainerEndpoint, markActive, Texts.put, noteContainerEndpoint]
  · simp [said, addContainerEndpoint, markActive, Texts.put, other]

theorem notes_hostAccount :
    Notes addHostAccount [resourceTypeHostAccount] (·.1.id) noteAccount := by
  refine .single (by decide) (fun facts row => ?_) (fun facts row key other => ?_) fun _ _ => rfl
  · simp [said, addHostAccount, addAccount, markActive, Texts.put, noteAccount]
  · simp [said, addHostAccount, addAccount, markActive, Texts.put, other]

theorem notes_databaseAccount :
    Notes addDatabaseAccount [resourceTypeDatabaseAccount] (·.1.id) noteAccount := by
  refine .single (by decide) (fun facts row => ?_) (fun facts row key other => ?_) fun _ _ => rfl
  · simp [said, addDatabaseAccount, addAccount, markActive, Texts.put, noteAccount]
  · simp [said, addDatabaseAccount, addAccount, markActive, Texts.put, other]

theorem notes_group :
    Notes addGroup [resourceTypeGroup, resourceTypeAccountGroup] ResourceGroup.id noteGroup where
  typed type member := by
    simp only [List.mem_cons, List.not_mem_nil, or_false] at member
    obtain rfl | rfl := member
    · decide
    · decide
  said facts row key := by
    have kept : (addGroup facts row).said key =
        ((facts.markActive (batchResourceKey resourceTypeGroup row.id)).markActive
          (batchResourceKey resourceTypeAccountGroup row.id)).said key := by
      unfold addGroup
      split
      · rfl
      · rfl
    rw [kept]
    by_cases group : key = batchResourceKey resourceTypeGroup row.id
    · simp [said, markActive, noteGroup, group]
    · by_cases account : key = batchResourceKey resourceTypeAccountGroup row.id
      · simp [said, markActive, noteGroup, account]
      · simp [said, markActive, group, account]
  again _ _ := rfl

end Steps

/-! ## Loaded facts -/

/-- Loops that append what is not listed list everything. -/
theorem mem_foldl_appendUnique {α : Type} (chosen : α → Bool) (name : α → String) (rows : List α)
    (ids : List String) (id : String) :
    id ∈ rows.foldl (fun ids row => if chosen row then appendUnique ids (name row) else ids) ids ↔
      id ∈ ids ∨ ∃ row ∈ rows, chosen row ∧ name row = id := by
  have mem_appendUnique : ∀ (ids : List String) (other : String),
      id ∈ appendUnique ids other ↔ id ∈ ids ∨ other = id := by
    intro ids other
    unfold appendUnique
    split
    · rename_i listed
      rw [List.contains_eq_mem, decide_eq_true_eq] at listed
      exact ⟨.inl, fun either => either.elim (fun member => member) fun same => same ▸ listed⟩
    · rw [List.mem_append, List.mem_singleton, eq_comm]
  induction rows generalizing ids with
  | nil => simp
  | cons row _ ih =>
    apply (ih _).trans
    by_cases taken : chosen row
    · simp [taken, mem_appendUnique, or_assoc]
    · simp [taken]

theorem mem_batchIDs {requests : List BatchAuthorizationRequest} :
    id ∈ batchIDs requests resourceType ↔ ∃ request ∈ requests,
      request.resourceType = resourceType ∧ trimSpace request.resourceId ≠ "" ∧
        request.resourceId = id := by
  rw [batchIDs, mem_foldl_appendUnique]
  simp [and_assoc]

theorem mem_appendUniqueBatchIDs {ids additional : List String} :
    id ∈ appendUniqueBatchIDs ids additional ↔ id ∈ ids ∨ id ∈ additional := by
  have listed := mem_foldl_appendUnique (fun _ => true) (fun id => id) additional ids id
  simpa [appendUniqueBatchIDs] using listed

theorem mem_activeRows {table : Table Resource.id} (requested : id ∈ ids) (row : Resource) :
    row ∈ activeRows table ids ∧ row.id = id ↔ activeRow table id = some row := by
  rw [activeRow_eq_some, activeRows, List.mem_filter, Bool.and_eq_true, List.contains_eq_mem,
    decide_eq_true_eq]
  constructor
  · rintro ⟨⟨member, -, active⟩, rfl⟩
    exact ⟨member, rfl, active⟩
  · rintro ⟨member, rfl, active⟩
    exact ⟨⟨member, requested, active⟩, rfl⟩

theorem mem_requestedAccounts {accounts : Table Account.id} {parents : Table Resource.id}
    (requested : id ∈ ids) (row : Account × Resource) :
    row ∈ (joined accounts parents).filter (fun row => ids.contains row.1.id) ∧ row.1.id = id ↔
      activeAccount accounts parents id = some row := by
  rw [List.mem_filter, List.contains_eq_mem, decide_eq_true_eq, mem_joined]
  constructor
  · rintro ⟨⟨found, -⟩, rfl⟩
    exact found
  · intro found
    obtain rfl := account_id found
    exact ⟨⟨found, requested⟩, rfl⟩

theorem mem_requestedGroups (requested : id ∈ ids) (group : ResourceGroup) :
    group ∈ db.resourceGroups.rows.filter (fun group => ids.contains group.id && group.active) ∧
      group.id = id ↔ activeGroup db id = some group := by
  rw [activeGroup, Option.filter_eq_some_iff, List.mem_filter, Bool.and_eq_true,
    List.contains_eq_mem, decide_eq_true_eq]
  constructor
  · rintro ⟨⟨member, -, active⟩, rfl⟩
    exact ⟨Table.get?_of_mem member, active⟩
  · rintro ⟨found, active⟩
    obtain rfl := Table.get?_key found
    exact ⟨⟨Table.get?_mem found, requested, active⟩, rfl⟩

/-- What is said about a standing. -/
def Standing.said (stands : Standing) : Said :=
  { active := true
    permissionOf := stands.permissionGroup
    resourceOf := stands.resourceGroup
    accountOf := stands.accountGroup }

/-- The facts say of every requested resource what the database does; nothing is looked up for types
without tables. -/
theorem said_loadBatchFacts {requests : List BatchAuthorizationRequest} {groupIds : List String}
    {request : BatchAuthorizationRequest} (member : request ∈ requests)
    (named : trimSpace request.resourceId ≠ "") (free : ZeroFree request.resourceType) :
    (loadBatchFacts db requests groupIds).said
        (batchResourceKey request.resourceType request.resourceId) =
      if auditedResourceType request.resourceType then
        ((standing db request.resourceType request.resourceId).map Standing.said).getD {}
      else {} := by
  have requested : ∀ type, request.resourceType = type →
      request.resourceId ∈ batchIDs requests type := by
    rintro type rfl
    exact mem_batchIDs.mpr ⟨request, member, rfl, named, rfl⟩
  have resource : ∀ {type : String} (table : Table Resource.id),
      request.resourceType ∈ [type] → ∀ row, row ∈ activeRows table (batchIDs requests type) ∧
        row.id = request.resourceId ↔ activeRow table request.resourceId = some row := by
    intro type table known row
    exact mem_activeRows (requested type (List.mem_singleton.mp known)) row
  have account : ∀ {type : String} (accounts : Table Account.id) (parents : Table Resource.id),
      request.resourceType ∈ [type] → ∀ row, row ∈ (joined accounts parents).filter (fun row =>
          (batchIDs requests type).contains row.1.id) ∧ row.1.id = request.resourceId ↔
          activeAccount accounts parents request.resourceId = some row := by
    intro type accounts parents known row
    exact mem_requestedAccounts (requested type (List.mem_singleton.mp known)) row
  have group : request.resourceType ∈ [resourceTypeGroup, resourceTypeAccountGroup] → ∀ group,
      group ∈ db.resourceGroups.rows.filter (fun group =>
        (appendUniqueBatchIDs (appendUniqueBatchIDs groupIds (batchIDs requests resourceTypeGroup))
          (batchIDs requests resourceTypeAccountGroup)).contains group.id && group.active) ∧
        group.id = request.resourceId ↔ activeGroup db request.resourceId = some group := by
    intro known group
    refine mem_requestedGroups ?_ group
    rw [mem_appendUniqueBatchIDs, mem_appendUniqueBatchIDs]
    simp only [List.mem_cons, List.not_mem_nil, or_false] at known
    obtain known | known := known
    · exact .inl (.inr (requested _ known))
    · exact .inr (requested _ known)
  unfold loadBatchFacts
  rw [notes_databaseAccount.foldl free (account _ _), notes_hostAccount.foldl free (account _ _),
    notes_containerEndpoint.foldl free (resource _), notes_platformAccount.foldl free (resource _),
    (notes_resource (by decide)).foldl free (resource _),
    (notes_resource (by decide)).foldl free (resource _),
    (notes_resource (by decide)).foldl free (resource _), notes_group.foldl free group]
  have nothing : ∀ key, ({} : BatchFacts).said key = {} := fun _ => rfl
  have noted : ∀ {α : Type} (found : Option α) (write : α → Said),
      found.elim {} write = (found.map write).getD {} := by
    intro α found write
    cases found with
    | none | some => rfl
  rw [nothing]
  generalize request.resourceType = resourceType
  obtain rfl | rfl | rfl | rfl | rfl | rfl | rfl | rfl | rfl | unknown :=
    resourceType_cases resourceType
  case inr.inr.inr.inr.inr.inr.inr.inr.inr => simp [unaudited unknown, unknown]
  all_goals
    simp [standing, resourceTypeHost, resourceTypeHostAccount, resourceTypeDatabaseInstance,
      resourceTypeDatabaseAccount, resourceTypeApplication, resourceTypeContainerEndpoint,
      resourceTypePlatformAccount, resourceTypeGroup, resourceTypeAccountGroup]
  all_goals exact noted _ _

/-! ## Parents and groups -/

section Put

variable {α : Type} {add : BatchFacts → α → BatchFacts} {texts : BatchFacts → Texts}
  {chosen : α → Bool} {name value : α → String}

/-- The cell of a map that a step puts texts into, for some of the rows. -/
def Texts.cell (puts : ∀ facts row, texts (add facts row) =
      if chosen row then (texts facts).put (name row) (value row) else texts facts)
    (key : String) : Cell (β := String) add where
  read facts := texts facts key
  hit row := chosen row = true ∧ name row = key
  write row _ := value row
  missed := by
    intro facts row missed
    rw [puts]
    split
    · next taken => rw [Texts.put, if_neg fun same => missed ⟨taken, same.symm⟩]
    · rfl
  written := by
    rintro facts row ⟨taken, same⟩
    rw [puts, if_pos taken, Texts.put, if_pos same.symm]

/-- A map into which rows with distinct names were put. -/
theorem Texts.foldl (puts : ∀ facts row, texts (add facts row) =
      if chosen row then (texts facts).put (name row) (value row) else texts facts)
    {rows : List α} {key : String} {found : Option α}
    (looked_up : ∀ row, row ∈ rows ∧ name row = key ↔ found = some row) (facts : BatchFacts) :
    texts (rows.foldl add facts) key = ((found.filter chosen).map value).getD (texts facts key) := by
  have taken : ∀ row, row ∈ rows ∧ (Texts.cell puts key).hit row ↔ found.filter chosen = some row := by
    intro row
    rw [Option.filter_eq_some_iff, ← looked_up]
    exact ⟨fun ⟨member, taken, named⟩ => ⟨⟨member, named⟩, taken⟩,
      fun ⟨⟨member, named⟩, taken⟩ => ⟨member, taken, named⟩⟩
  cases present : found.filter chosen with
  | none =>
    refine (Texts.cell puts key).foldl_missed (fun row member hit => ?_) facts
    have same := (taken row).mp ⟨member, hit⟩
    rw [present] at same
    cases same
  | some row =>
    obtain ⟨member, hit⟩ := (taken row).mpr present
    refine (Texts.cell puts key).foldl_written member hit ?_ (fun _ => rfl) facts
    intro other other_member other_hit
    have same := (taken other).mp ⟨other_member, other_hit⟩
    rw [present] at same
    rw [Option.some.inj same]

end Put

section Parents

variable {requests : List BatchAuthorizationRequest} {groupIds : List String}
  {request : BatchAuthorizationRequest}

/-- An active account is found under its host. -/
theorem hostOf_loadBatchFacts (member : request ∈ requests)
    (named : trimSpace request.resourceId ≠ "")
    (typed : request.resourceType = resourceTypeHostAccount) {stands : Standing}
    (active : standing db request.resourceType request.resourceId = some stands) :
    (loadBatchFacts db requests groupIds).hostOf request.resourceId = stands.parent := by
  have requested : request.resourceId ∈ batchIDs requests resourceTypeHostAccount :=
    mem_batchIDs.mpr ⟨request, member, typed, named, rfl⟩
  rw [typed] at active
  simp only [standing, resourceTypeHost, resourceTypeHostAccount, String.reduceEq, if_false, if_true,
    Option.map_eq_some_iff] at active
  obtain ⟨_, found, rfl⟩ := active
  unfold loadBatchFacts
  have databases := @read_foldl _ _ _ BatchFacts.addDatabaseAccount BatchFacts.hostOf fun _ _ => rfl
  rw [databases, @Texts.foldl _ _ BatchFacts.hostOf (fun _ => true) (·.1.id) (·.1.parentId)
    (fun _ _ => rfl) _ _ _
    (mem_requestedAccounts requested), found]
  rfl

/-- An active account is found under its instance. -/
theorem instanceOf_loadBatchFacts (member : request ∈ requests)
    (named : trimSpace request.resourceId ≠ "")
    (typed : request.resourceType = resourceTypeDatabaseAccount) {stands : Standing}
    (active : standing db request.resourceType request.resourceId = some stands) :
    (loadBatchFacts db requests groupIds).instanceOf request.resourceId = stands.parent := by
  have requested : request.resourceId ∈ batchIDs requests resourceTypeDatabaseAccount :=
    mem_batchIDs.mpr ⟨request, member, typed, named, rfl⟩
  rw [typed] at active
  simp only [standing, resourceTypeHost, resourceTypeHostAccount, resourceTypeDatabaseInstance,
    resourceTypeDatabaseAccount, String.reduceEq, if_false, if_true,
    Option.map_eq_some_iff] at active
  obtain ⟨_, found, rfl⟩ := active
  unfold loadBatchFacts
  rw [@Texts.foldl _ _ BatchFacts.instanceOf (fun _ => true) (·.1.id) (·.1.parentId)
    (fun _ _ => rfl) _ _ _
    (mem_requestedAccounts requested), found]
  rfl

/-- The maps of groups. -/
def BatchFacts.groups (facts : BatchFacts) : Texts × Texts × Texts :=
  (facts.permissionGroups, facts.resourceGroups, facts.accountGroups)

/-- Only the groups that were looked up are in the maps of groups. -/
theorem groups_loadBatchFacts : ∃ ids : List String, (∀ id ∈ groupIds, id ∈ ids) ∧
    (loadBatchFacts db requests groupIds).groups =
      ((db.resourceGroups.rows.filter fun group => ids.contains group.id && group.active).foldl
        BatchFacts.addGroup {}).groups := by
  refine ⟨appendUniqueBatchIDs (appendUniqueBatchIDs groupIds (batchIDs requests resourceTypeGroup))
    (batchIDs requests resourceTypeAccountGroup), fun id member => ?_, ?_⟩
  · rw [mem_appendUniqueBatchIDs, mem_appendUniqueBatchIDs]
    exact .inl (.inl member)
  · unfold loadBatchFacts
    rw [@read_foldl _ _ _ BatchFacts.addDatabaseAccount BatchFacts.groups fun _ _ => rfl,
      @read_foldl _ _ _ BatchFacts.addHostAccount BatchFacts.groups fun _ _ => rfl,
      @read_foldl _ _ _ BatchFacts.addContainerEndpoint BatchFacts.groups fun _ _ => rfl,
      @read_foldl _ _ _ BatchFacts.addPlatformAccount BatchFacts.groups fun _ _ => rfl,
      @read_foldl _ _ _ (BatchFacts.addResource resourceTypeApplication) BatchFacts.groups
        fun _ _ => rfl,
      @read_foldl _ _ _ (BatchFacts.addResource resourceTypeDatabaseInstance) BatchFacts.groups
        fun _ _ => rfl,
      @read_foldl _ _ _ (BatchFacts.addResource resourceTypeHost) BatchFacts.groups fun _ _ => rfl]

/-- The names of the groups that were asked for or are not there. -/
theorem groupNames_loadBatchFacts {id : String} (asked : activeGroup db id ≠ none → id ∈ groupIds) :
    (loadBatchFacts db requests groupIds).permissionGroups id =
        ((activeGroup db id).map ResourceGroup.name).getD "" ∧
      (loadBatchFacts db requests groupIds).resourceGroups id =
        (((activeGroup db id).filter fun group =>
          group.groupType != resourceGroupTypeAccount).map ResourceGroup.name).getD "" ∧
      (loadBatchFacts db requests groupIds).accountGroups id =
        (((activeGroup db id).filter fun group =>
          group.groupType == resourceGroupTypeAccount).map ResourceGroup.name).getD "" := by
  obtain ⟨ids, all, same⟩ := @groups_loadBatchFacts db requests groupIds
  have looked_up : ∀ group, group ∈ db.resourceGroups.rows.filter (fun group =>
      ids.contains group.id && group.active) ∧ group.id = id ↔ activeGroup db id = some group := by
    intro group
    by_cases unknown : activeGroup db id = none
    · have missing : ¬(group ∈ db.resourceGroups.rows.filter (fun group =>
          ids.contains group.id && group.active) ∧ group.id = id) := by
        rintro ⟨member, rfl⟩
        rw [List.mem_filter, Bool.and_eq_true] at member
        rw [activeGroup, Table.get?_of_mem member.1, Option.filter_some_pos member.2.2] at unknown
        cases unknown
      rw [unknown]
      exact ⟨fun found => absurd found missing, fun same => by cases same⟩
    · exact mem_requestedGroups (all id (asked unknown)) group
  obtain ⟨permission, resource, account⟩ : _ ∧ _ ∧ _ := by
    simpa only [BatchFacts.groups, Prod.mk.injEq] using same
  refine ⟨?_, ?_, ?_⟩
  · rw [permission, @Texts.foldl _ _ BatchFacts.permissionGroups (fun _ => true) ResourceGroup.id
      ResourceGroup.name ?_ _ _ _ looked_up]
    · cases activeGroup db id with
      | none | some => rfl
    · intro facts group
      unfold BatchFacts.addGroup
      split
      · rfl
      · rfl
  · rw [resource, @Texts.foldl _ _ BatchFacts.resourceGroups
      (fun group => group.groupType != resourceGroupTypeAccount) ResourceGroup.id ResourceGroup.name
      ?_ _ _ _ looked_up]
    intro facts group
    by_cases typed : group.groupType = resourceGroupTypeAccount
    · simp [BatchFacts.addGroup, BatchFacts.markActive, typed]
    · simp [BatchFacts.addGroup, BatchFacts.markActive, typed]
  · rw [account, @Texts.foldl _ _ BatchFacts.accountGroups
      (fun group => group.groupType == resourceGroupTypeAccount) ResourceGroup.id ResourceGroup.name
      ?_ _ _ _ looked_up]
    intro facts group
    by_cases typed : group.groupType = resourceGroupTypeAccount
    · simp [BatchFacts.addGroup, BatchFacts.markActive, typed]
    · simp [BatchFacts.addGroup, BatchFacts.markActive, typed]

end Parents

end Jianmen.Authorization
