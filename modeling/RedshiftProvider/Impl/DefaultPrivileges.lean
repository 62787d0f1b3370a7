import RedshiftProvider.Catalog.Basic
import RedshiftProvider.Impl.Helpers
import RedshiftProvider.Impl.ResourceData

/-!
The handlers of the `redshift_default_privileges` resource. Exactly one of `group`, `user` and
`role` names the grantee; `schema` is optional. An optional attribute is the empty string when
it is not set, which is also what `GetOk` reports as not set.
-/

/-- The attributes of a `redshift_default_privileges`, `privileges` as its `List()` enumerates it. -/
structure DefaultPrivilegesAttrs where
  schema : String
  group : String
  user : String
  role : String
  owner : String
  objectType : String
  privileges : List String
  deriving DecidableEq, Repr

namespace DefaultPrivilegesAttrs

variable (a : DefaultPrivilegesAttrs)

def schemaName? : Option String :=
  if a.schema = "" then none else some a.schema

/--
The grantee, as the query builders pick it from the first of `group`, `user` and `role` that is
set: `GROUP "name"`, `"name"` and `ROLE "name"`.
-/
def grantee : Grantee :=
  if a.group ≠ "" then .group a.group
  else if a.user ≠ "" then .user a.user
  else if a.role ≠ "" then .role a.role
  else .user ""

end DefaultPrivilegesAttrs

variable [unicode.CaseRanges]

def createAlterDefaultsGrantQuery (a : DefaultPrivilegesAttrs) (privileges : List String) : Stmt :=
  .alterDefaultPrivileges (some a.owner) a.schemaName? (.grant privileges)
    (strings.toUpper a.objectType ++ "S") a.grantee

def createAlterDefaultsRevokeQuery (a : DefaultPrivilegesAttrs) : Stmt :=
  .alterDefaultPrivileges (some a.owner) a.schemaName? .revokeAll
    (strings.toUpper a.objectType ++ "S") a.grantee

/-- The statements `resourceRedshiftDefaultPrivilegesCreate` executes once the privileges are valid. -/
def defaultPrivilegesCreateStatements (a : DefaultPrivilegesAttrs) (privileges : List String) :
    List Stmt :=
  createAlterDefaultsRevokeQuery a ::
    if privileges.length > 0 then [createAlterDefaultsGrantQuery a privileges] else []

def generateDefaultPrivilegesID (a : DefaultPrivilegesAttrs) : String :=
  let entityName :=
    if a.group ≠ "" then "gn:" ++ a.group
    else if a.user ≠ "" then "un:" ++ a.user
    else if a.role ≠ "" then "rn:" ++ a.role
    else ""
  let schemaName := if a.schema ≠ "" then "sn:" ++ a.schema else "noschema"
  strings.join [entityName, schemaName, "on:" ++ a.owner, "ot:" ++ a.objectType] "_"

/-- The privilege keywords the columns of `readGroupTableDefaultPrivileges` report, in order. -/
def tablePrivilegeColumns : List String :=
  ["SELECT", "UPDATE", "INSERT", "DELETE", "DROP", "REFERENCES", "RULE", "TRIGGER"]

/--
The query of `readGroupTableDefaultPrivileges` on `svv_default_privileges`: for each column,
whether a row grants its privilege on relations to the grantee of that name and type, for the
owner and for the schema, or for no schema when none is set.
-/
def tableDefaultPrivilegesQuery (c : Catalog) (entityName entityType ownerID : String)
    (schemaName : Option String) : List Bool :=
  tablePrivilegeColumns.map fun privilege =>
    decide (∃ acl ∈ c.defaultAcl, acl.objectType = "RELATION" ∧ acl.grantee.name = entityName ∧
      acl.grantee.kind = entityType ∧ acl.owner = ownerID ∧ acl.schema = schemaName ∧
      acl.privilege = privilege)

def readGroupTableDefaultPrivileges (c : Catalog) (d : ResourceData DefaultPrivilegesAttrs)
    (ownerID : String) : ResourceData DefaultPrivilegesAttrs :=
  let (entityName, entityType) :=
    if d.new.group ≠ "" then (d.new.group, "group")
    else if d.new.user ≠ "" then (d.new.user, "user")
    else if d.new.role ≠ "" then (d.new.role, "role")
    else ("", "")
  let columns := tableDefaultPrivilegesQuery c entityName entityType ownerID d.new.schemaName?
  let privileges := (columns.zip ["select", "update", "insert", "delete", "drop", "references",
    "rule", "trigger"]).foldl (fun privileges (isSet, name) => appendIfTrue isSet name privileges) []
  { d with new := { d.new with privileges := privileges } }

/-- `getUserIDFromName`: the user's id, here its name, when `SELECT usesysid ... = $1` has a row. -/
def getUserIDFromName (c : Catalog) (user : String) : Except GoError String :=
  if user ∈ c.users then .ok user else .error sql.errNoRows

def resourceRedshiftDefaultPrivilegesReadImpl (c : Catalog) (d : ResourceData DefaultPrivilegesAttrs) :
    Except GoError (ResourceData DefaultPrivilegesAttrs) := do
  let ownerName := d.new.owner
  let ownerID ← (getUserIDFromName c ownerName).mapError (.wrapf "failed to get user ID: ")
  if strings.toUpper d.new.objectType = "TABLE" then
    pure (readGroupTableDefaultPrivileges c d ownerID)
  else
    pure d

/-- `resourceRedshiftDefaultPrivilegesCreate`, which also serves as the update. -/
def resourceRedshiftDefaultPrivilegesCreate (c : Catalog) (d : ResourceData DefaultPrivilegesAttrs) :
    Except GoError (Catalog × ResourceData DefaultPrivilegesAttrs) := do
  let objectType := d.new.objectType
  let privileges := d.new.privileges.map strings.toUpper
  if !validatePrivileges privileges objectType then
    throw (.errorf ("invalid privileges list " ++ fmt.list privileges ++ " for object type " ++
      fmt.quote objectType))
  let c ← execAll (defaultPrivilegesCreateStatements d.new privileges) c
  let d := d.setId (generateDefaultPrivilegesID d.new)
  let d ← resourceRedshiftDefaultPrivilegesReadImpl c d
  pure (c, d)

def resourceRedshiftDefaultPrivilegesDelete (c : Catalog) (d : ResourceData DefaultPrivilegesAttrs) :
    Except GoError Catalog :=
  execAll [createAlterDefaultsRevokeQuery d.new] c
