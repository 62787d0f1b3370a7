import RedshiftProvider.Catalog.Basic
import RedshiftProvider.Impl.ResourceData

/-!
The handlers of the `redshift_group_membership` resource. The resource has the attributes
`name`, the group, and `users`, the set of user names to keep in it; its id is built from both.
-/

def groupNameAttr : String := "name"
def groupUsersAttr : String := "users"

/-- The attributes of a `redshift_group_membership`, `users` as its `List()` enumerates it. -/
structure GroupMembershipAttrs where
  name : String
  users : List String
  deriving DecidableEq, Repr

variable [unicode.CaseRanges]

/-- `buildUserStringArray`: the user names, lower-cased and quoted, separated by `, `. -/
def buildUserStringArray (userNames : List String) (encodeAsLiteral : Bool) : String :=
  strings.join (userNames.map fun userName =>
    let encodedUserName := strings.toLower userName
    if encodeAsLiteral then pq.quoteLiteral encodedUserName
    else pq.quoteIdentifier encodedUserName) ", "

def generateGroupMembershipId (groupName : String) (userNames : List String) : String :=
  userNames.foldl (fun id userName => id ++ "_" ++ strings.toLower userName) groupName

/--
The body `addUsersToGroup` and `dropUsersFromGroup` share: nothing without users, otherwise the
`ALTER GROUP` statement `stmt` of the users lower-cased, its error wrapped by `message` of the
quoted list of users.
-/
def alterGroupUsers (c : Catalog) (stmt : List String → Stmt) (message : String → String)
    (userNames : List String) : Except GoError Catalog :=
  if userNames.length = 0 then
    .ok c
  else
    let userNamesParam := buildUserStringArray userNames false
    ((stmt (userNames.map strings.toLower)).exec c).mapError (.wrapf (message userNamesParam))

def addUsersToGroup (c : Catalog) (group : String) (userNames : List String) :
    Except GoError Catalog :=
  alterGroupUsers c (.alterGroupAddUser group)
    (fun userNamesParam => "could not add users " ++ userNamesParam ++ " to group " ++
      fmt.quote group ++ ": ") userNames

def dropUsersFromGroup (c : Catalog) (groupName : String) (userNames : List String) :
    Except GoError Catalog :=
  alterGroupUsers c (.alterGroupDropUser groupName)
    (fun userNamesParam => "could not remove users " ++ userNamesParam ++ " from group " ++
      fmt.quote groupName ++ ": ") userNames

/--
The query of `resourceRedshiftGroupMembershipRead`: whether a row joins the group named
`groupName` with a user whose name is among `userNames`. With no names the text ends in `IN ()`,
which does not parse.
-/
def groupMembershipQuery (c : Catalog) (groupName : String) (userNames : List String) :
    Except GoError Bool :=
  if userNames = [] then
    .error (Stmt.syntaxError ")")
  else
    .ok (c.groups.any fun r =>
      r.groname = groupName && userNames.any fun u => u ∈ r.grolist && u ∈ c.users)

def resourceRedshiftGroupMembershipRead (c : Catalog) (d : ResourceData GroupMembershipAttrs) :
    Except GoError (ResourceData GroupMembershipAttrs) := do
  let groupName := d.new.name
  let userNames := d.new.users
  let found ← groupMembershipQuery c groupName (userNames.map strings.toLower)
  if found then
    pure (d.setId (generateGroupMembershipId groupName userNames))
  else
    pure (d.setId "")

/-- The `Importer` of `redshiftGroupMembership`, `schema.ImportStatePassthroughContext`. -/
def redshiftGroupMembershipImporter (id : String) : ResourceData GroupMembershipAttrs :=
  ResourceData.importStatePassthroughContext ⟨"", []⟩ id

def resourceRedshiftGroupMembershipCreate (c : Catalog) (d : ResourceData GroupMembershipAttrs) :
    Except GoError (Catalog × ResourceData GroupMembershipAttrs) := do
  let groupName := d.new.name
  let userNames := d.new.users
  if userNames.length = 0 then
    throw (.errorf ("at least one user must be specified in " ++ fmt.quote groupUsersAttr))
  let c ← addUsersToGroup c groupName userNames
  let d ← resourceRedshiftGroupMembershipRead c d
  pure (c, d)

def resourceRedshiftGroupMembershipDelete (c : Catalog) (d : ResourceData GroupMembershipAttrs) :
    Except GoError Catalog :=
  dropUsersFromGroup c d.new.name d.new.users

/-- The inner loop of `calculateUserNamesDiff`: whether `name` is in `names`, stopping at the
first match. -/
def containsUserName : List String → String → Bool
  | [], _ => false
  | n :: names, name => if name = n then true else containsUserName names name

/-- `calculateUserNamesDiff`: the names to delete, then the names to add. -/
def calculateUserNamesDiff (oldUserNames newUserNames : List String) :
    List String × List String :=
  let deletedUserNames := oldUserNames.foldl (fun deleted oldUserName =>
    if containsUserName newUserNames oldUserName then deleted else deleted ++ [oldUserName]) []
  let addedUserNames := newUserNames.foldl (fun added newUserName =>
    if containsUserName oldUserNames newUserName then added else added ++ [newUserName]) []
  (deletedUserNames, addedUserNames)

def resourceRedshiftGroupMembershipUpdate (c : Catalog) (d : ResourceData GroupMembershipAttrs) :
    Except GoError (Catalog × ResourceData GroupMembershipAttrs) := do
  let oldUserNames := d.old.users
  let newUserNames := d.new.users
  if newUserNames.length = 0 then
    throw (.errorf ("at least one user must be specified in " ++ fmt.quote groupUsersAttr))
  if d.old.name ≠ d.new.name then
    let c ← (resourceRedshiftGroupMembershipDelete c d).mapError
      (.wrapf "error deleting group membership while updating the resource: ")
    let (c, d) ← (resourceRedshiftGroupMembershipCreate c d).mapError
      (.wrapf "error creating group membership while updating the resource: ")
    return (c, d)
  let (deletedUserNames, addedUserNames) := calculateUserNamesDiff oldUserNames newUserNames
  let c ← (dropUsersFromGroup c d.new.name deletedUserNames).mapError
    (.wrapf "error removing users from group while updating the resource: ")
  let c ← (addUsersToGroup c d.new.name addedUserNames).mapError
    (.wrapf "error adding users to group while updating the resource: ")
  let d ← resourceRedshiftGroupMembershipRead c d
  pure (c, d)
