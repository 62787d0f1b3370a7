import RedshiftProvider.Catalog.WellFormed
import RedshiftProvider.Lemmas.Group
import RedshiftProvider.Lemmas.GroupMembership
import RedshiftProvider.Lemmas.DefaultPrivileges

/-!
The catalog as the provider's operations change it. Each operation runs a list of statements,
`Operation.stmts`, and a handler that succeeds leaves what all of them make of the catalog. A
handler that fails leaves what a first part of them makes of it: nothing when its transaction
rolls back, the statements before the one that failed when each of them commits on its own, as
with the Data API, and all of them when it fails after its commit. `Operation.Run` is a sequence
of operations, each ending either way, and a property that every statement keeps holds after
it: so any sequence keeps the invariant of the group tables.
-/

open Catalog

theorem execAll_append (stmts stmts' : List Stmt) (c : Catalog) :
    execAll (stmts ++ stmts') c = execAll stmts c >>= fun c₁ => execAll stmts' c₁ := by
  induction stmts generalizing c with
  | nil => rfl
  | cons s rest ih =>
    simp only [List.cons_append, execAll]
    cases s.exec c <;> simp [ih]

@[simp] theorem execAll_singleton (s : Stmt) (c : Catalog) : execAll [s] c = s.exec c :=
  bind_pure _

theorem execAll_ite_nil {p : Prop} [Decidable p] (stmts : List Stmt) (c : Catalog) :
    execAll (if p then stmts else []) c = if p then execAll stmts c else pure c := by
  split <;> rfl

theorem execAll_inv (P : Catalog → Prop) {stmts : List Stmt}
    (hP : ∀ s ∈ stmts, ∀ c₁ c₂, P c₁ → s.exec c₁ = .ok c₂ → P c₂) {c c' : Catalog}
    (h : execAll stmts c = .ok c') (hc : P c) : P c' := by
  induction stmts generalizing c with
  | nil => exact Except.ok.inj h ▸ hc
  | cons s rest ih =>
    obtain ⟨c₁, h₁, h₂⟩ := Except.bind_eq_ok.mp h
    exact ih (fun s' hs' => hP s' (.tail _ hs')) h₂ (hP s (.head _) c c₁ hc h₁)

/-- The statement `setGroupName` runs: none when the name stays. -/
def setGroupNameStatements (d : ResourceData GroupAttrs) : List Stmt :=
  if d.old.name = d.new.name then [] else [.alterGroupRename d.old.name d.new.name]

/--
The statements `setUsersNames` runs: `DROP USER` of the users the plan no longer lists that
exist, then `ADD USER` of the users it adds, each only when it has users.
-/
def setUsersNamesStatements (c : Catalog) (d : ResourceData GroupAttrs) : List Stmt :=
  if d.old.users.toFinset = d.new.users.toFinset then [] else
    let removedUsers := d.old.users.filter (· ∉ d.new.users)
    let addedUsers := d.new.users.filter (· ∉ d.old.users)
    (if removedUsers.length > 0 then
      let removedUsersNames := removedUsers.filter (checkIfUserExists c)
      if removedUsersNames.length > 0 then [.alterGroupDropUser d.new.name removedUsersNames]
      else []
    else []) ++
    if addedUsers.length > 0 then [.alterGroupAddUser d.new.name addedUsers] else []

/-- The statement `alterGroupUsers` runs: none without users. -/
def alterGroupUsersStatements [unicode.CaseRanges] (stmt : List String → Stmt)
    (userNames : List String) : List Stmt :=
  if userNames.length = 0 then [] else [stmt (userNames.map strings.toLower)]

section handlers

variable {c c' : Catalog}

theorem execAll_setGroupNameStatements {d : ResourceData GroupAttrs}
    (h : setGroupName c d = .ok c') : execAll (setGroupNameStatements d) c = .ok c' := by
  unfold setGroupName at h
  rcases ite_eq_iff.mp h with ⟨hname, h⟩ | ⟨hname, h⟩
  · rwa [setGroupNameStatements, if_pos hname]
  rcases ite_eq_iff.mp h with ⟨-, ⟨⟩⟩ | ⟨-, h⟩
  rw [setGroupNameStatements, if_neg hname, execAll_singleton]
  exact Except.mapError_eq_ok.mp h

theorem execAll_setUsersNamesStatements {d : ResourceData GroupAttrs}
    (h : setUsersNames c d = .ok c') : execAll (setUsersNamesStatements c d) c = .ok c' := by
  unfold setUsersNames at h
  unfold setUsersNamesStatements
  dsimp only at h ⊢
  rcases ite_eq_iff.mp h with ⟨hset, h⟩ | ⟨hset, h⟩
  · rwa [if_pos hset]
  rw [if_neg hset, execAll_append]
  simp only [execAll_ite_nil, execAll_singleton]
  split_ifs at h ⊢ <;> simpa using h

theorem setUsersNamesStatements_congr {c₁ : Catalog} (hu : c₁.users = c.users)
    (d : ResourceData GroupAttrs) : setUsersNamesStatements c₁ d = setUsersNamesStatements c d := by
  have hexists : checkIfUserExists c₁ = checkIfUserExists c :=
    funext fun u => by simp only [checkIfUserExists, hu]
  rw [setUsersNamesStatements, hexists, setUsersNamesStatements]

theorem execAll_alterGroupUsersStatements [unicode.CaseRanges] {stmt : List String → Stmt}
    {message : String → String} {userNames : List String}
    (h : alterGroupUsers c stmt message userNames = .ok c') :
    execAll (alterGroupUsersStatements stmt userNames) c = .ok c' := by
  unfold alterGroupUsers at h
  rcases ite_eq_iff.mp h with ⟨hl, h⟩ | ⟨hl, h⟩
  · rwa [alterGroupUsersStatements, if_pos hl]
  · rw [alterGroupUsersStatements, if_neg hl, execAll_singleton]
    exact Except.mapError_eq_ok.mp h

theorem execAll_addUsersToGroup [unicode.CaseRanges] {group : String} {userNames : List String}
    (h : addUsersToGroup c group userNames = .ok c') :
    execAll (alterGroupUsersStatements (.alterGroupAddUser group) userNames) c = .ok c' :=
  execAll_alterGroupUsersStatements h

theorem execAll_dropUsersFromGroup [unicode.CaseRanges] {group : String} {userNames : List String}
    (h : dropUsersFromGroup c group userNames = .ok c') :
    execAll (alterGroupUsersStatements (.alterGroupDropUser group) userNames) c = .ok c' :=
  execAll_alterGroupUsersStatements h

theorem resourceRedshiftGroupUpdate_inv {d d' : ResourceData GroupAttrs}
    (h : resourceRedshiftGroupUpdate c d = .ok (c', d')) :
    ∃ c₁, setGroupName c d = .ok c₁ ∧ setUsersNames c₁ d = .ok c' := by
  simp only [resourceRedshiftGroupUpdate, Except.bind_eq_ok, Except.pure_eq_ok, Except.ok.injEq,
    Prod.mk.injEq] at h
  obtain ⟨c₁, h₁, c₂, h₂, _, -, rfl, -⟩ := h
  exact ⟨c₁, h₁, h₂⟩

theorem resourceRedshiftGroupUpdate_execAll {d d' : ResourceData GroupAttrs}
    (h : resourceRedshiftGroupUpdate c d = .ok (c', d')) :
    execAll (setGroupNameStatements d ++ setUsersNamesStatements c d) c = .ok c' := by
  obtain ⟨c₁, h₁, h₂⟩ := resourceRedshiftGroupUpdate_inv h
  have hname := execAll_setGroupNameStatements h₁
  have hu : c₁.users = c.users := by rw [execAll_eq_ok hname, applyAll_users]
  rw [execAll_append, hname, Except.ok_bind, ← setUsersNamesStatements_congr hu]
  exact execAll_setUsersNamesStatements h₂

variable [unicode.CaseRanges]

theorem resourceRedshiftGroupCreate_inv {d d' : ResourceData GroupAttrs}
    (h : resourceRedshiftGroupCreate c d = .ok (c', d')) :
    (Stmt.createGroup d.new.name d.new.users).exec c = .ok c' := by
  simp only [resourceRedshiftGroupCreate, Except.bind_eq_ok, Except.mapError_eq_ok] at h
  obtain ⟨c₁, h₁, h⟩ := h
  split at h <;> simp only [Except.bind_eq_ok, Except.pure_eq_ok, Except.ok.injEq,
    Prod.mk.injEq, exists_eq_left, reduceCtorEq, false_and, exists_false] at h
  obtain ⟨_, -, _, -, rfl, -⟩ := h
  exact h₁

theorem resourceRedshiftGroupMembershipCreate_inv {d d' : ResourceData GroupMembershipAttrs}
    (h : resourceRedshiftGroupMembershipCreate c d = .ok (c', d')) :
    d.new.users ≠ [] ∧ addUsersToGroup c d.new.name d.new.users = .ok c' := by
  unfold resourceRedshiftGroupMembershipCreate at h
  dsimp only at h
  rcases ite_eq_iff.mp h with ⟨-, ⟨⟩⟩ | ⟨hlen, h⟩
  simp only [Except.pure_eq_ok, Except.ok_bind, Except.bind_eq_ok, Except.ok.injEq,
    Prod.mk.injEq] at h
  obtain ⟨c₁, h₁, _, -, rfl, -⟩ := h
  exact ⟨fun h0 => hlen (h0 ▸ rfl), h₁⟩

theorem resourceRedshiftGroupMembershipUpdate_inv {d d' : ResourceData GroupMembershipAttrs}
    (h : resourceRedshiftGroupMembershipUpdate c d = .ok (c', d')) :
    if d.old.name ≠ d.new.name then
      ∃ c₁ d₂, resourceRedshiftGroupMembershipDelete c d = .ok c₁ ∧
        resourceRedshiftGroupMembershipCreate c₁ d = .ok (c', d₂)
    else
      ∃ c₁, dropUsersFromGroup c d.new.name (calculateUserNamesDiff d.old.users d.new.users).1 =
          .ok c₁ ∧
        addUsersToGroup c₁ d.new.name (calculateUserNamesDiff d.old.users d.new.users).2 = .ok c' := by
  unfold resourceRedshiftGroupMembershipUpdate at h
  dsimp only at h
  rcases ite_eq_iff.mp h with ⟨-, ⟨⟩⟩ | ⟨-, h⟩
  simp only [Except.pure_eq_ok, Except.ok_bind] at h
  rcases ite_eq_iff.mp h with ⟨hne, h⟩ | ⟨hne, h⟩ <;> simp only [Except.pure_eq_ok, Except.ok_bind,
    Except.bind_eq_ok, Except.mapError_eq_ok, Except.ok.injEq, Prod.mk.injEq] at h
  · obtain ⟨c₁, h₁, ⟨c₂, d₂⟩, h₂, rfl, -⟩ := h
    rw [if_pos hne]
    exact ⟨c₁, d₂, h₁, h₂⟩
  · obtain ⟨c₁, h₁, c₂, h₂, _, -, rfl, -⟩ := h
    rw [if_neg hne]
    exact ⟨c₁, h₁, h₂⟩

end handlers

/-- A call of Terraform to a handler that writes to the database. The update of
`redshift_default_privileges` is its create. -/
inductive Operation where
  | groupCreate (d : ResourceData GroupAttrs)
  | groupUpdate (d : ResourceData GroupAttrs)
  | groupDelete (d : ResourceData GroupAttrs)
  | groupMembershipCreate (d : ResourceData GroupMembershipAttrs)
  | groupMembershipUpdate (d : ResourceData GroupMembershipAttrs)
  | groupMembershipDelete (d : ResourceData GroupMembershipAttrs)
  | defaultPrivilegesCreate (d : ResourceData DefaultPrivilegesAttrs)
  | defaultPrivilegesDelete (d : ResourceData DefaultPrivilegesAttrs)

namespace Operation

section

variable [unicode.CaseRanges]

/-- The catalog the handler leaves when it succeeds. -/
def result (c : Catalog) : Operation → Except GoError Catalog
  | groupCreate d => (resourceRedshiftGroupCreate c d).map (·.1)
  | groupUpdate d => (resourceRedshiftGroupUpdate c d).map (·.1)
  | groupDelete d => resourceRedshiftGroupDelete c d
  | groupMembershipCreate d => (resourceRedshiftGroupMembershipCreate c d).map (·.1)
  | groupMembershipUpdate d => (resourceRedshiftGroupMembershipUpdate c d).map (·.1)
  | groupMembershipDelete d => resourceRedshiftGroupMembershipDelete c d
  | defaultPrivilegesCreate d => (resourceRedshiftDefaultPrivilegesCreate c d).map (·.1)
  | defaultPrivilegesDelete d => resourceRedshiftDefaultPrivilegesDelete c d

/-- The statements the handler runs on `c`, in order, as long as each of them succeeds. -/
def stmts (c : Catalog) : Operation → List Stmt
  | groupCreate d => [.createGroup d.new.name d.new.users]
  | groupUpdate d => setGroupNameStatements d ++ setUsersNamesStatements c d
  | groupDelete d => groupDeleteStatements c d.new.name
  | groupMembershipCreate d => alterGroupUsersStatements (.alterGroupAddUser d.new.name) d.new.users
  | groupMembershipUpdate d =>
    if d.old.name ≠ d.new.name then
      alterGroupUsersStatements (.alterGroupDropUser d.new.name) d.new.users ++
        alterGroupUsersStatements (.alterGroupAddUser d.new.name) d.new.users
    else
      alterGroupUsersStatements (.alterGroupDropUser d.new.name)
          (calculateUserNamesDiff d.old.users d.new.users).1 ++
        alterGroupUsersStatements (.alterGroupAddUser d.new.name)
          (calculateUserNamesDiff d.old.users d.new.users).2
  | groupMembershipDelete d => alterGroupUsersStatements (.alterGroupDropUser d.new.name) d.new.users
  | defaultPrivilegesCreate d =>
    defaultPrivilegesCreateStatements d.new (d.new.privileges.map strings.toUpper)
  | defaultPrivilegesDelete d => [createAlterDefaultsRevokeQuery d.new]

/-- A handler that succeeds has run all of its statements, and they left what it returns. -/
theorem execAll_stmts {c c' : Catalog} {op : Operation} (h : op.result c = .ok c') :
    execAll (op.stmts c) c = .ok c' := by
  cases op with
  | groupCreate d =>
    obtain ⟨⟨c₁, d'⟩, hr, rfl⟩ := Except.map_eq_ok.mp h
    exact (execAll_singleton _ _).trans (resourceRedshiftGroupCreate_inv hr)
  | groupUpdate d =>
    obtain ⟨⟨c₁, d'⟩, hr, rfl⟩ := Except.map_eq_ok.mp h
    exact resourceRedshiftGroupUpdate_execAll hr
  | groupDelete d => exact h
  | groupMembershipCreate d =>
    obtain ⟨⟨c₁, d'⟩, hr, rfl⟩ := Except.map_eq_ok.mp h
    exact execAll_addUsersToGroup (resourceRedshiftGroupMembershipCreate_inv hr).2
  | groupMembershipUpdate d =>
    obtain ⟨⟨c₁, d'⟩, hr, rfl⟩ := Except.map_eq_ok.mp h
    have hinv := resourceRedshiftGroupMembershipUpdate_inv hr
    split at hinv
    · next hne =>
      obtain ⟨c₁, d₂, h₁, h₂⟩ := hinv
      rw [stmts, if_pos hne, execAll_append, execAll_dropUsersFromGroup h₁, Except.ok_bind]
      exact execAll_addUsersToGroup (resourceRedshiftGroupMembershipCreate_inv h₂).2
    · next hne =>
      obtain ⟨c₁, h₁, h₂⟩ := hinv
      rw [stmts, if_neg hne, execAll_append, execAll_dropUsersFromGroup h₁, Except.ok_bind]
      exact execAll_addUsersToGroup h₂
  | groupMembershipDelete d => exact execAll_dropUsersFromGroup h
  | defaultPrivilegesCreate d =>
    obtain ⟨⟨c₁, d'⟩, hr, rfl⟩ := Except.map_eq_ok.mp h
    exact (resourceRedshiftDefaultPrivilegesCreate_inv hr).1
  | defaultPrivilegesDelete d => exact h

/--
What an operation may leave of the catalog `c`. A handler that succeeds leaves what it returns.
One that fails leaves what the first `k` of its statements make of `c`, for a `k` such that all
of them ran: `k = 0` when its transaction rolls back, the statements before the one that failed
when each commits on its own, as with the Data API, and all of them when it fails after its
commit, as `Create` of default privileges can in its closing `Read`.
-/
inductive Leaves (c : Catalog) (op : Operation) : Catalog → Prop
  | ok {c' : Catalog} : op.result c = .ok c' → Leaves c op c'
  | error {c' : Catalog} (k : Nat) :
      (op.result c).isOk = false → execAll ((op.stmts c).take k) c = .ok c' → Leaves c op c'

/-- Whatever an operation leaves, a first part of its statements ran and left it. -/
theorem Leaves.exists_take {c c' : Catalog} {op : Operation} (h : op.Leaves c c') :
    ∃ k, execAll ((op.stmts c).take k) c = .ok c' := by
  cases h with
  | ok h => exact ⟨_, by rw [List.take_length]; exact execAll_stmts h⟩
  | error k _ hk => exact ⟨k, hk⟩

/-- What a sequence of operations may leave of the catalog, each of them succeeding or failing. -/
inductive Run : Catalog → List Operation → Catalog → Prop
  | nil (c : Catalog) : Run c [] c
  | cons {c c₁ c' : Catalog} {op : Operation} {ops : List Operation} :
      op.Leaves c c₁ → Run c₁ ops c' → Run c (op :: ops) c'

/-- A property that every statement of the operations keeps when it succeeds holds after any
run of them. -/
theorem Run.inv (P : Catalog → Prop) {ops : List Operation}
    (hP : ∀ op ∈ ops, ∀ c₀, ∀ s ∈ op.stmts c₀, ∀ c₁ c₂, P c₁ → s.exec c₁ = .ok c₂ → P c₂)
    {c c' : Catalog} (h : Run c ops c') (hc : P c) : P c' := by
  induction h with
  | nil => exact hc
  | @cons c c₁ c' op ops hop _ ih =>
    obtain ⟨k, hk⟩ := hop.exists_take
    refine ih (fun op' hop' => hP op' (.tail _ hop')) ?_
    exact execAll_inv P (fun s hs => hP op (.head _) c s (List.mem_of_mem_take hs)) hk hc

end

end Operation

section foldMismatch

variable [unicode.CaseRanges] {c : Catalog} {d : ResourceData GroupAttrs}

theorem groupIdByName_createGroup_of_ne (hfree : c.hasGroup (strings.toLower d.new.name) = false)
    (hne : strings.toLower d.new.name ≠ fold d.new.name) :
    ((Stmt.createGroup d.new.name d.new.users).apply c).groupIdByName
      (strings.toLower d.new.name) = none := by
  have hnone : c.groups.find? (·.groname = strings.toLower d.new.name) = none :=
    List.find?_eq_none.mpr fun r hr => by simpa using hasGroup_eq_false.mp hfree r hr
  simp [Stmt.apply, groupIdByName, List.find?_append, hnone, Ne.symm hne]

end foldMismatch
