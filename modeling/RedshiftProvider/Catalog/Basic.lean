import Mathlib.Data.Finset.Basic
import RedshiftProvider.Go.Errors
import RedshiftProvider.Sql.Quote

/-!
A model of the Redshift catalog the resources read and write: users, roles, groups with their
members, schemas, the privileges granted on objects and the default privileges.

Redshift folds every identifier to lower case, quoted ones included. A statement the provider
builds names an object by the text it passes to `pq.QuoteIdentifier`; the object it acts on is
`Catalog.fold` of that text. A query compares a string constant or a `$n` parameter with the
stored names as it is, without folding; a parameter compared with a group id is read as an
integer first.

Users and groups are kept by name. User ids only ever stand for user names here (`usesysid` and
`usename` determine each other), while group ids are kept, because a group keeps its id when it
is renamed.
-/

/-- The grantee of a privilege, by kind and name. -/
inductive Grantee where
  | user (name : String)
  | group (name : String)
  | role (name : String)
  deriving DecidableEq, Repr

/-- The name of a grantee. -/
def Grantee.name : Grantee → String
  | .user name => name
  | .group name => name
  | .role name => name

/-- The grantee type `svv_default_privileges` shows. -/
def Grantee.kind : Grantee → String
  | .user _ => "user"
  | .group _ => "group"
  | .role _ => "role"

/-- An object privileges are granted on. -/
inductive DbObject where
  | database (name : String)
  | schema (name : String)
  | table (schema name : String)
  | function (schema name : String)
  deriving DecidableEq, Repr

/-- A privilege granted on an existing object. -/
structure Grant where
  grantee : Grantee
  object : DbObject
  privilege : String
  deriving DecidableEq, Repr

/--
A default privilege, one row per privilege as `svv_default_privileges` lists them: objects of
type `objectType` that `owner` creates in `schema` (in any schema for `none`) are granted
`privilege` for `grantee`.
-/
structure DefaultAcl where
  owner : String
  schema : Option String
  objectType : String
  grantee : Grantee
  privilege : String
  deriving DecidableEq, Repr

/-- A row of `pg_group`: `grolist` holds the names of the members, each once. -/
structure GroupRow where
  grosysid : Nat
  groname : String
  grolist : List String
  deriving DecidableEq, Repr

/-- The member list after adding users: each one not in it yet is appended. -/
def addMembers (grolist users : List String) : List String :=
  users.foldl (fun grolist user => if user ∈ grolist then grolist else grolist ++ [user]) grolist

/-- A row of `pg_namespace`. -/
structure Namespace where
  nspname : String
  nspowner : Nat
  deriving DecidableEq, Repr

/-- The state of the database. -/
structure Catalog where
  users : Finset String
  roles : Finset String
  groups : List GroupRow
  /--
  The id `CREATE GROUP` gives the next group. Which id Redshift gives a new group is not fixed
  by anything the provider relies on; the model hands ids out from this counter, and no result
  here depends on an id of a dropped group not being given out again.
  -/
  nextGroupId : Nat
  namespaces : List Namespace
  grants : Finset Grant
  defaultAcl : Finset DefaultAcl
  /-- The user the provider is connected as. -/
  sessionUser : String
  deriving DecidableEq

/-- What `ALTER DEFAULT PRIVILEGES` does. -/
inductive AclAction where
  | grant (privileges : List String)
  | revokeAll
  deriving DecidableEq, Repr

/-- The statements the resources execute, each name as the text given to `pq.QuoteIdentifier`. -/
inductive Stmt where
  /-- `CREATE GROUP "name"`, followed by `WITH USER "u", ...` when `users` is not empty. -/
  | createGroup (name : String) (users : List String)
  /-- `ALTER GROUP "group" ADD USER "u", ...`. -/
  | alterGroupAddUser (group : String) (users : List String)
  /-- `ALTER GROUP "group" DROP USER "u", ...`. -/
  | alterGroupDropUser (group : String) (users : List String)
  /-- `ALTER GROUP "group" RENAME TO "newName"`. -/
  | alterGroupRename (group newName : String)
  /-- `DROP GROUP "name"`. -/
  | dropGroup (name : String)
  /-- `REVOKE ALL ON ALL TABLES IN SCHEMA "schema" FROM GROUP "group"`. -/
  | revokeAllOnAllTablesInSchema (schema group : String)
  /--
  `ALTER DEFAULT PRIVILEGES [FOR USER "owner"] [IN SCHEMA "schema"]` followed by
  `GRANT p, ... ON objectTypes TO grantee` or `REVOKE ALL PRIVILEGES ON objectTypes FROM grantee`.
  -/
  | alterDefaultPrivileges (owner schema : Option String) (action : AclAction)
      (objectTypes : String) (grantee : Grantee)
  deriving DecidableEq, Repr

namespace Catalog

/--
The name of the object that `pq.QuoteIdentifier raw` names: Redshift folds the ASCII letters of
an identifier to lower case and keeps every other character, as `downcase_identifier` does in a
multibyte encoding.
-/
def fold (raw : String) : String :=
  ⟨(Sql.identText raw).map Char.toLower⟩

/-- The grantee a statement names, with its name folded. -/
def foldGrantee : Grantee → Grantee
  | .user name => .user (fold name)
  | .group name => .group (fold name)
  | .role name => .role (fold name)

/-- The object type `svv_default_privileges` shows for the object types of a statement. -/
def aclObjectType : String → Option String
  | "TABLES" => some "RELATION"
  | "FUNCTIONS" => some "FUNCTION"
  | "PROCEDURES" => some "PROCEDURE"
  | _ => none

@[simp] theorem aclObjectType_tables : aclObjectType "TABLES" = some "RELATION" := rfl

variable (c : Catalog)

def hasGroup (name : String) : Bool :=
  c.groups.any (·.groname = name)

def hasSchema (name : String) : Bool :=
  c.namespaces.any (·.nspname = name)

def hasGrantee : Grantee → Bool
  | .user name => name ∈ c.users
  | .group name => c.hasGroup name
  | .role name => name ∈ c.roles

/-- Whether the group `name` holds a privilege or a default privilege. -/
def groupHoldsPrivilege (name : String) : Bool :=
  decide (∃ gr ∈ c.grants, gr.grantee = .group name) ||
    decide (∃ d ∈ c.defaultAcl, d.grantee = .group name)

/-- The id of the group of that name, as `SELECT grosysid FROM pg_group WHERE groname = $1`. -/
def groupIdByName (name : String) : Option Nat :=
  (c.groups.find? (·.groname = name)).map (·.grosysid)

/-- Whether `user` is a member of the group `group`. -/
def isMember (group user : String) : Bool :=
  c.groups.any fun r => r.groname = group && user ∈ r.grolist

end Catalog

/-- Whether an object is a table in the schema. -/
def DbObject.isTableIn (schema : String) : DbObject → Bool
  | .table s _ => s = schema
  | _ => false

namespace Stmt

/-- The texts a statement passes to `pq.QuoteIdentifier`. -/
def names : Stmt → List String
  | .createGroup name users => name :: users
  | .alterGroupAddUser group users => group :: users
  | .alterGroupDropUser group users => group :: users
  | .alterGroupRename group newName => [group, newName]
  | .dropGroup name => [name]
  | .revokeAllOnAllTablesInSchema schema group => [schema, group]
  | .alterDefaultPrivileges owner schema _ _ grantee =>
    owner.toList ++ schema.toList ++ [grantee.name]

def undefinedObject (kind name : String) : GoError :=
  .pq "42704" (kind ++ " \"" ++ name ++ "\" does not exist")

def duplicateObject (kind name : String) : GoError :=
  .pq "42710" (kind ++ " \"" ++ name ++ "\" already exists")

def undefinedSchema (name : String) : GoError :=
  .pq "3F000" ("schema \"" ++ name ++ "\" does not exist")

def zeroLengthIdentifier : GoError :=
  .pq "42601" "zero-length delimited identifier"

def syntaxError (near : String) : GoError :=
  .pq "42601" ("syntax error at or near \"" ++ near ++ "\"")

def invalidInteger (text : String) : GoError :=
  .pq "22P02" ("invalid input syntax for integer: \"" ++ text ++ "\"")

def dependentPrivileges (name : String) : GoError :=
  .pq "2BP01" ("group \"" ++ name ++ "\" cannot be dropped because the group has a privilege on some object")

variable (c : Catalog)

/-- The first of the users that does not exist. -/
def missingUser (users : List String) : Option GoError :=
  (users.find? (Catalog.fold · ∉ c.users)).map (undefinedObject "user" <| Catalog.fold ·)

/-- The error the statement fails with on `c`, `none` when it succeeds. -/
def check (s : Stmt) : Option GoError :=
  if s.names.any (Sql.identText · = []) then
    some zeroLengthIdentifier
  else
    match s with
    | .createGroup name users =>
      if c.hasGroup (Catalog.fold name) then some (duplicateObject "group" (Catalog.fold name))
      else missingUser c users
    | .alterGroupAddUser group users | .alterGroupDropUser group users =>
      if c.hasGroup (Catalog.fold group) then missingUser c users
      else some (undefinedObject "group" (Catalog.fold group))
    | .alterGroupRename group newName =>
      if !c.hasGroup (Catalog.fold group) then some (undefinedObject "group" (Catalog.fold group))
      else if c.hasGroup (Catalog.fold newName) then
        some (duplicateObject "group" (Catalog.fold newName))
      else none
    | .dropGroup name =>
      if !c.hasGroup (Catalog.fold name) then some (undefinedObject "group" (Catalog.fold name))
      else if c.groupHoldsPrivilege (Catalog.fold name) then
        some (dependentPrivileges (Catalog.fold name))
      else none
    | .revokeAllOnAllTablesInSchema schema group =>
      if !c.hasSchema (Catalog.fold schema) then some (undefinedSchema (Catalog.fold schema))
      else if !c.hasGroup (Catalog.fold group) then
        some (undefinedObject "group" (Catalog.fold group))
      else none
    | .alterDefaultPrivileges owner schema _ objectTypes grantee =>
      if (Catalog.aclObjectType objectTypes).isNone then some (syntaxError objectTypes)
      else if owner.any (Catalog.fold · ∉ c.users) then
        some (undefinedObject "user" ((owner.map Catalog.fold).getD ""))
      else if schema.any fun s => !c.hasSchema (Catalog.fold s) then
        some (undefinedSchema ((schema.map Catalog.fold).getD ""))
      else if !c.hasGrantee (Catalog.foldGrantee grantee) then
        some (undefinedObject "role" (Catalog.foldGrantee grantee).name)
      else none

/-- Whether a default privilege has the owner, schema, object type and grantee of `key`. -/
def sameAclKey (key d : DefaultAcl) : Prop :=
  d.owner = key.owner ∧ d.schema = key.schema ∧ d.objectType = key.objectType ∧
    d.grantee = key.grantee

instance (key d : DefaultAcl) : Decidable (sameAclKey key d) :=
  inferInstanceAs (Decidable (_ ∧ _))

/-- The default privileges `ALTER DEFAULT PRIVILEGES` acts on, with `privilege` left empty. -/
def aclKey (owner schema : Option String) (objectType : String) (grantee : Grantee) : DefaultAcl :=
  ⟨(owner.map Catalog.fold).getD c.sessionUser, schema.map Catalog.fold, objectType,
    Catalog.foldGrantee grantee, ""⟩

/-- What the statement does to `c` when it succeeds. -/
def apply : Stmt → Catalog
  | .createGroup name users =>
    { c with
      groups := c.groups ++ [⟨c.nextGroupId, Catalog.fold name, addMembers [] (users.map Catalog.fold)⟩]
      nextGroupId := c.nextGroupId + 1 }
  | .alterGroupAddUser group users =>
    { c with
      groups := c.groups.map fun r =>
        if r.groname = Catalog.fold group then
          { r with grolist := addMembers r.grolist (users.map Catalog.fold) }
        else r }
  | .alterGroupDropUser group users =>
    { c with
      groups := c.groups.map fun r =>
        if r.groname = Catalog.fold group then
          { r with grolist := r.grolist.filter (· ∉ users.map Catalog.fold) }
        else r }
  | .alterGroupRename group newName =>
    { c with
      groups := c.groups.map fun r =>
        if r.groname = Catalog.fold group then { r with groname := Catalog.fold newName } else r }
  | .dropGroup name =>
    { c with groups := c.groups.filter (·.groname ≠ Catalog.fold name) }
  | .revokeAllOnAllTablesInSchema schema group =>
    { c with
      grants := c.grants.filter fun gr =>
        ¬(gr.grantee = .group (Catalog.fold group) ∧ gr.object.isTableIn (Catalog.fold schema)) }
  | .alterDefaultPrivileges owner schema action objectTypes grantee =>
    match Catalog.aclObjectType objectTypes, action with
    | none, _ => c
    | some objectType, .grant privileges =>
      { c with
        defaultAcl := c.defaultAcl ∪
          (privileges.map fun p => { aclKey c owner schema objectType grantee with privilege := p }).toFinset }
    | some objectType, .revokeAll =>
      { c with
        defaultAcl := c.defaultAcl.filter fun d => ¬sameAclKey (aclKey c owner schema objectType grantee) d }

/-- `tx.Exec` of the statement. -/
def exec (s : Stmt) : Except GoError Catalog :=
  match check c s with
  | some err => .error err
  | none => .ok (apply c s)

end Stmt

namespace Sql

/-- A blank, as `isspace` of C tells it. -/
def isSpace (c : Char) : Bool :=
  c = ' ' || c = '\t' || c = '\n' || c = '\x0b' || c = '\x0c' || c = '\r'

/-- The value of a run of decimal digits. -/
def digitsValue (ds : List Char) : Nat :=
  ds.foldl (fun n d => 10 * n + (d.toNat - '0'.toNat)) 0

/--
`int4in`, as Redshift reads the text of a parameter compared with an integer column: blanks, an
optional sign, at least one decimal digit, and blanks again. A value beyond 32 bits, which
Redshift rejects as out of range, is read as it is: no group id reaches one.
-/
def int4in (s : String) : Except GoError Int :=
  let t := s.data.dropWhile isSpace
  let signed := t.head? = some '-' ∨ t.head? = some '+'
  let ds := (if signed then t.tail else t).takeWhile Char.isDigit
  if ds ≠ [] ∧ ((if signed then t.tail else t).drop ds.length).all isSpace then
    .ok (if t.head? = some '-' then -(digitsValue ds : Int) else digitsValue ds)
  else
    .error (Stmt.invalidInteger s)

end Sql

/-- Runs statements one after the other, as a transaction commits them or as the Data API runs them. -/
def execAll : List Stmt → Catalog → Except GoError Catalog
  | [], c => .ok c
  | s :: rest, c => do execAll rest (← Stmt.exec c s)

/-- What a list of statements does when each of them runs. -/
def applyAll (stmts : List Stmt) (c : Catalog) : Catalog :=
  stmts.foldl Stmt.apply c
