import RedshiftProvider.Catalog.Basic
import RedshiftProvider.Impl.ResourceData

/-!
The handlers of the `redshift_group` resource and the read of the `redshift_group` data source.
The id of both is the `grosysid` of the group, their attributes the group `name`, stored
lower-cased by its `StateFunc`, and the set of member names `users`.
-/

/-- The attributes of a `redshift_group`, `users` as its `List()` enumerates it. -/
structure GroupAttrs where
  name : String
  users : List String
  deriving DecidableEq, Repr

/-- The row `WHERE grosysid = $1` selects, the id text read as an integer. -/
def groupRowById (c : Catalog) (id : String) : Except GoError (Option GroupRow) := do
  let grosysid ← Sql.int4in id
  pure (c.groups.find? fun r => (r.grosysid : Int) = grosysid)

/--
The rows of `SELECT groname, u.usename FROM pg_user_info u, pg_group g WHERE g.grosysid = $1 AND
u.usesysid = ANY(g.grolist)`, in the order of `grolist`.
-/
def groupMemberRows (c : Catalog) (id : String) : Except GoError (List (String × String)) := do
  match ← groupRowById c id with
  | some r => pure ((r.grolist.filter (· ∈ c.users)).map (r.groname, ·))
  | none => pure []

def resourceRedshiftGroupReadImpl (c : Catalog) (d : ResourceData GroupAttrs) :
    Except GoError (ResourceData GroupAttrs) := do
  let rows ← groupMemberRows c d.id
  let groupUsers := rows.map (·.2)
  let groupName ← match rows.getLast? with
    | some (groupName, _) => pure groupName
    | none =>
      -- `SELECT groname FROM pg_group WHERE grosysid = $1`
      match ← groupRowById c d.id with
      | some r => pure r.groname
      | none => throw sql.errNoRows
  pure { d with new := { d.new with name := groupName, users := groupUsers } }

variable [unicode.CaseRanges]

def resourceRedshiftGroupCreate (c : Catalog) (d : ResourceData GroupAttrs) :
    Except GoError (Catalog × ResourceData GroupAttrs) := do
  let groupName := d.new.name
  let c ← ((Stmt.createGroup groupName d.new.users).exec c).mapError
    (.wrapf "could not create redshift group: ")
  let groSysID ← match c.groupIdByName (strings.toLower groupName) with
    | some id => pure id
    | none => throw (.wrapf ("could not get redshift group id for " ++ fmt.quote groupName ++ ": ")
        sql.errNoRows)
  let d := d.setId (toString groSysID)
  let d ← resourceRedshiftGroupReadImpl c d
  pure (c, d)

/-- The schemas of `SELECT nspname FROM pg_namespace WHERE nspowner != 1 OR nspname = 'public'`. -/
def groupDeleteSchemas (c : Catalog) : List String :=
  (c.namespaces.filter fun ns => ns.nspowner ≠ 1 ∨ ns.nspname = "public").map (·.nspname)

/-- The two statements `resourceRedshiftGroupDelete` executes for each schema of its query. -/
def groupDeleteRevokes (c : Catalog) (groupName : String) : List Stmt :=
  (groupDeleteSchemas c).flatMap fun schemaName =>
    [.revokeAllOnAllTablesInSchema schemaName groupName,
      .alterDefaultPrivileges none (some schemaName) .revokeAll "TABLES" (.group groupName)]

/--
The statements `resourceRedshiftGroupDelete` executes, after its schema query. The rows of the
query are all read before the first `REVOKE`, as with the Data API driver; with `lib/pq` the
first `tx.Exec` inside the open result set consumes the rows still to come, which is not
modelled.
-/
def groupDeleteStatements (c : Catalog) (groupName : String) : List Stmt :=
  groupDeleteRevokes c groupName ++ [.dropGroup groupName]

def resourceRedshiftGroupDelete (c : Catalog) (d : ResourceData GroupAttrs) :
    Except GoError Catalog :=
  execAll (groupDeleteStatements c d.new.name) c

def setGroupName (c : Catalog) (d : ResourceData GroupAttrs) : Except GoError Catalog :=
  if d.old.name = d.new.name then
    .ok c
  else if d.new.name = "" then
    .error (.errorf "error setting group name to an empty string")
  else
    ((Stmt.alterGroupRename d.old.name d.new.name).exec c).mapError
      (.wrapf "error updating Group NAME: ")

/-- `checkIfUserExists`: `SELECT 1 FROM pg_user_info WHERE usename=$1`. -/
def checkIfUserExists (c : Catalog) (name : String) : Bool :=
  name ∈ c.users

def setUsersNames (c : Catalog) (d : ResourceData GroupAttrs) : Except GoError Catalog := do
  if d.old.users.toFinset = d.new.users.toFinset then
    return c
  let groupName := d.new.name
  let removedUsers := d.old.users.filter (· ∉ d.new.users)
  let addedUsers := d.new.users.filter (· ∉ d.old.users)
  let c ← if removedUsers.length > 0 then
      let removedUsersNames := removedUsers.filter (checkIfUserExists c)
      if removedUsersNames.length > 0 then (Stmt.alterGroupDropUser groupName removedUsersNames).exec c
      else pure c
    else pure c
  if addedUsers.length > 0 then (Stmt.alterGroupAddUser groupName addedUsers).exec c
  else pure c

def resourceRedshiftGroupUpdate (c : Catalog) (d : ResourceData GroupAttrs) :
    Except GoError (Catalog × ResourceData GroupAttrs) := do
  let c ← setGroupName c d
  let c ← setUsersNames c d
  let d ← resourceRedshiftGroupReadImpl c d
  pure (c, d)

/--
The rows of `SELECT u.usename, g.grosysid FROM pg_user_info u, pg_group g WHERE g.groname = $1 AND
u.usesysid = ANY(g.grolist)`, in the order of `grolist`.
-/
def groupMemberRowsByName (c : Catalog) (groupName : String) : List (String × Nat) :=
  match c.groups.find? (·.groname = groupName) with
  | some r => (r.grolist.filter (· ∈ c.users)).map (·, r.grosysid)
  | none => []

def dataSourceRedshiftGroupRead (c : Catalog) (d : ResourceData GroupAttrs) :
    Except GoError (ResourceData GroupAttrs) := do
  let groupName := d.new.name
  let rows := groupMemberRowsByName c groupName
  let groupUsers := rows.map (·.1)
  let groupId ← match rows.getLast? with
    | some (_, groupId) => pure (toString groupId)
    | none =>
      -- `SELECT grosysid FROM pg_group WHERE groname = $1`
      match c.groupIdByName groupName with
      | some id => pure (toString id)
      | none => throw sql.errNoRows
  pure { d.setId groupId with new := { d.new with users := groupUsers } }
