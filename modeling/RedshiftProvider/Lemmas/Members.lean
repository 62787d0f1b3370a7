import RedshiftProvider.Catalog.Members
import RedshiftProvider.Lemmas.GroupMembership
import RedshiftProvider.Lemmas.Operations

/-!
What each handler does to the members of the groups when it succeeds: what the statements it
runs do, one after the other, where a statement it skips for want of users counts as one that
changes nothing. Whatever an operation leaves, the catalog's members are what the effects of the
statements that ran make of them: all of them, the effect of the operation, when the handler
succeeds. `Update` of a group drops and adds the difference between the prior and the planned
users, so members the prior state did not list stay.
-/

open Catalog

section effects

variable {c c' : Catalog}

theorem foldl_effect_of_forall {stmts : List Stmt} (h : ∀ s ∈ stmts, ∀ m, s.effect m = m)
    (m : Members) : stmts.foldl (fun m s => s.effect m) m = m := by
  induction stmts generalizing m with
  | nil => rfl
  | cons s rest ih => rw [List.foldl_cons, h s (.head _), ih fun s hs => h s (.tail _ hs)]

theorem members_of_ite_exec {l : List String} {s : List String → Stmt}
    (hs : ∀ m, (s []).effect m = m) (h : (if l.length > 0 then (s l).exec c else .ok c) = .ok c') :
    c'.members = (s l).effect c.members := by
  rcases ite_eq_iff.mp h with ⟨-, h⟩ | ⟨hl, h⟩
  · exact members_exec h
  · obtain rfl : l = [] := List.length_eq_zero.mp (by omega)
    rw [hs, Except.ok.inj h]

theorem setGroupName_members {d : ResourceData GroupAttrs} (h : setGroupName c d = .ok c') :
    c'.members = (Stmt.alterGroupRename d.old.name d.new.name).effect c.members ∧
      c'.users = c.users := by
  unfold setGroupName at h
  rcases ite_eq_iff.mp h with ⟨hname, h⟩ | ⟨-, h⟩
  · rw [← Except.ok.inj h, hname, Stmt.effect_alterGroupRename_self]
    exact ⟨rfl, rfl⟩
  rcases ite_eq_iff.mp h with ⟨-, ⟨⟩⟩ | ⟨-, h⟩
  have hexec := Except.mapError_eq_ok.mp h
  obtain ⟨-, rfl⟩ := Stmt.exec_eq_ok.mp hexec
  exact ⟨members_exec hexec, Stmt.apply_users _ _⟩

theorem setUsersNames_members {d : ResourceData GroupAttrs} (h : setUsersNames c d = .ok c') :
    c'.members = (Stmt.alterGroupAddUser d.new.name (d.new.users.filter (· ∉ d.old.users))).effect
      ((Stmt.alterGroupDropUser d.new.name ((d.old.users.filter (· ∉ d.new.users)).filter
        (checkIfUserExists c))).effect c.members) := by
  unfold setUsersNames at h
  dsimp only at h
  rcases ite_eq_iff.mp h with ⟨hset, h⟩ | ⟨-, h⟩
  · -- the same set of users: nothing to drop or to add
    have hsub : ∀ {l l' : List String}, l.toFinset = l'.toFinset → l.filter (· ∉ l') = [] :=
      fun hl => List.filter_eq_nil_iff.mpr fun u hu => by
        simpa using List.mem_toFinset.mp (hl ▸ List.mem_toFinset.mpr hu)
    rw [hsub hset, hsub hset.symm, List.filter_nil, Stmt.effect_alterGroupDropUser_nil,
      Stmt.effect_alterGroupAddUser_nil, Except.ok.inj h]
  simp only [Except.pure_eq_ok, Except.ok_bind] at h
  rcases ite_eq_iff.mp h with ⟨-, h⟩ | ⟨hrem, h⟩
  · rcases ite_eq_iff.mp h with ⟨-, h⟩ | ⟨hexist, h⟩
    · obtain ⟨c₁, h₁, h₂⟩ := Except.bind_eq_ok.mp h
      rw [members_of_ite_exec (fun _ => Stmt.effect_alterGroupAddUser_nil) h₂, members_exec h₁]
    · rw [List.length_eq_zero.mp (Nat.eq_zero_of_not_pos hexist),
        Stmt.effect_alterGroupDropUser_nil]
      exact members_of_ite_exec (fun _ => Stmt.effect_alterGroupAddUser_nil) h
  · rw [List.length_eq_zero.mp (Nat.eq_zero_of_not_pos hrem), List.filter_nil,
      Stmt.effect_alterGroupDropUser_nil]
    exact members_of_ite_exec (fun _ => Stmt.effect_alterGroupAddUser_nil) h

theorem resourceRedshiftGroupUpdate_members {d d' : ResourceData GroupAttrs}
    (h : resourceRedshiftGroupUpdate c d = .ok (c', d')) :
    c'.members = (Stmt.alterGroupAddUser d.new.name (d.new.users.filter (· ∉ d.old.users))).effect
      ((Stmt.alterGroupDropUser d.new.name ((d.old.users.filter (· ∉ d.new.users)).filter
        (checkIfUserExists c))).effect
        ((Stmt.alterGroupRename d.old.name d.new.name).effect c.members)) := by
  obtain ⟨c₁, h₁, h₂⟩ := resourceRedshiftGroupUpdate_inv h
  obtain ⟨hm, hu⟩ := setGroupName_members h₁
  have hexists : checkIfUserExists c₁ = checkIfUserExists c :=
    funext fun u => by simp only [checkIfUserExists, hu]
  rw [setUsersNames_members h₂, hm, hexists]

theorem resourceRedshiftGroupDelete_members {d : ResourceData GroupAttrs}
    (h : resourceRedshiftGroupDelete c d = .ok c') :
    c'.members = (Stmt.dropGroup d.new.name).effect c.members := by
  have hrevokes : (groupDeleteRevokes c d.new.name).foldl (fun m s => s.effect m) c.members =
      c.members := by
    refine foldl_effect_of_forall ?_ _
    simp only [groupDeleteRevokes, List.mem_flatMap, List.mem_cons, List.not_mem_nil, or_false]
    rintro s ⟨schemaName, -, rfl | rfl⟩ m <;> rfl
  rw [members_execAll h, groupDeleteStatements, List.foldl_append, hrevokes]
  rfl

variable [unicode.CaseRanges]

theorem resourceRedshiftGroupCreate_members {d d' : ResourceData GroupAttrs}
    (h : resourceRedshiftGroupCreate c d = .ok (c', d')) :
    c'.members = (Stmt.createGroup d.new.name d.new.users).effect c.members :=
  members_exec (resourceRedshiftGroupCreate_inv h)

theorem alterGroupUsers_members {stmt : List String → Stmt} {message : String → String}
    {userNames : List String} (hs : ∀ m, (stmt []).effect m = m)
    (h : alterGroupUsers c stmt message userNames = .ok c') :
    c'.members = (stmt (userNames.map strings.toLower)).effect c.members := by
  rw [members_execAll (execAll_alterGroupUsersStatements h), alterGroupUsersStatements]
  split_ifs with hl
  · rw [List.length_eq_zero.mp hl, List.map_nil, hs]
    rfl
  · rfl

theorem addUsersToGroup_members {group : String} {userNames : List String}
    (h : addUsersToGroup c group userNames = .ok c') :
    c'.members = (Stmt.alterGroupAddUser group (userNames.map strings.toLower)).effect c.members :=
  alterGroupUsers_members (fun _ => Stmt.effect_alterGroupAddUser_nil) h

theorem dropUsersFromGroup_members {group : String} {userNames : List String}
    (h : dropUsersFromGroup c group userNames = .ok c') :
    c'.members = (Stmt.alterGroupDropUser group (userNames.map strings.toLower)).effect c.members :=
  alterGroupUsers_members (fun _ => Stmt.effect_alterGroupDropUser_nil) h

theorem resourceRedshiftGroupMembershipDelete_members {d : ResourceData GroupMembershipAttrs}
    (h : resourceRedshiftGroupMembershipDelete c d = .ok c') :
    c'.members = (Stmt.alterGroupDropUser d.new.name (d.new.users.map strings.toLower)).effect
      c.members :=
  dropUsersFromGroup_members h

theorem resourceRedshiftGroupMembershipCreate_members {d d' : ResourceData GroupMembershipAttrs}
    (h : resourceRedshiftGroupMembershipCreate c d = .ok (c', d')) :
    c'.members =
      (Stmt.alterGroupAddUser d.new.name (d.new.users.map strings.toLower)).effect c.members :=
  addUsersToGroup_members (resourceRedshiftGroupMembershipCreate_inv h).2

theorem resourceRedshiftGroupMembershipUpdate_members {d d' : ResourceData GroupMembershipAttrs}
    (h : resourceRedshiftGroupMembershipUpdate c d = .ok (c', d')) :
    c'.members = if d.old.name ≠ d.new.name then
        (Stmt.alterGroupAddUser d.new.name (d.new.users.map strings.toLower)).effect
          ((Stmt.alterGroupDropUser d.new.name (d.new.users.map strings.toLower)).effect c.members)
      else
        (Stmt.alterGroupAddUser d.new.name
          ((calculateUserNamesDiff d.old.users d.new.users).2.map strings.toLower)).effect
          ((Stmt.alterGroupDropUser d.new.name
            ((calculateUserNamesDiff d.old.users d.new.users).1.map strings.toLower)).effect
            c.members) := by
  have hinv := resourceRedshiftGroupMembershipUpdate_inv h
  split at hinv
  · next hne =>
    obtain ⟨c₁, d₂, h₁, h₂⟩ := hinv
    rw [if_pos hne, resourceRedshiftGroupMembershipCreate_members h₂,
      resourceRedshiftGroupMembershipDelete_members h₁]
  · next hne =>
    obtain ⟨c₁, h₁, h₂⟩ := hinv
    rw [if_neg hne, addUsersToGroup_members h₂, dropUsersFromGroup_members h₁]

theorem resourceRedshiftDefaultPrivilegesCreate_members
    {d d' : ResourceData DefaultPrivilegesAttrs}
    (h : resourceRedshiftDefaultPrivilegesCreate c d = .ok (c', d')) : c'.members = c.members := by
  rw [members_execAll (resourceRedshiftDefaultPrivilegesCreate_inv h).1, foldl_effect_of_forall]
  simp only [defaultPrivilegesCreateStatements, createAlterDefaultsRevokeQuery,
    createAlterDefaultsGrantQuery]
  intro s hs m
  split_ifs at hs <;> simp only [List.mem_cons, List.mem_singleton, List.not_mem_nil,
    or_false] at hs <;> rcases hs with rfl | rfl <;> rfl

theorem resourceRedshiftDefaultPrivilegesDelete_members
    {d : ResourceData DefaultPrivilegesAttrs}
    (h : resourceRedshiftDefaultPrivilegesDelete c d = .ok c') : c'.members = c.members :=
  members_execAll h

end effects

namespace Operation

variable [unicode.CaseRanges]

/--
What an operation that succeeds does to the members of the groups, on a database whose users are
`users`: the effects of the statements its handler runs, one after the other.
-/
def effect (users : Finset String) : Operation → Members → Members
  | groupCreate d => (Stmt.createGroup d.new.name d.new.users).effect
  | groupUpdate d => fun m =>
    (Stmt.alterGroupAddUser d.new.name (d.new.users.filter (· ∉ d.old.users))).effect
      ((Stmt.alterGroupDropUser d.new.name
        ((d.old.users.filter (· ∉ d.new.users)).filter (· ∈ users))).effect
        ((Stmt.alterGroupRename d.old.name d.new.name).effect m))
  | groupDelete d => (Stmt.dropGroup d.new.name).effect
  | groupMembershipCreate d =>
    (Stmt.alterGroupAddUser d.new.name (d.new.users.map strings.toLower)).effect
  | groupMembershipUpdate d => fun m =>
    if d.old.name ≠ d.new.name then
      (Stmt.alterGroupAddUser d.new.name (d.new.users.map strings.toLower)).effect
        ((Stmt.alterGroupDropUser d.new.name (d.new.users.map strings.toLower)).effect m)
    else
      (Stmt.alterGroupAddUser d.new.name
        ((calculateUserNamesDiff d.old.users d.new.users).2.map strings.toLower)).effect
        ((Stmt.alterGroupDropUser d.new.name
          ((calculateUserNamesDiff d.old.users d.new.users).1.map strings.toLower)).effect m)
  | groupMembershipDelete d =>
    (Stmt.alterGroupDropUser d.new.name (d.new.users.map strings.toLower)).effect
  | defaultPrivilegesCreate _ => id
  | defaultPrivilegesDelete _ => id

/-- Every operation that succeeds changes the members of the groups as its effect says. -/
theorem members_result {c c' : Catalog} {op : Operation} (h : op.result c = .ok c') :
    c'.members = op.effect c.users c.members := by
  cases op with
  | groupCreate d =>
    obtain ⟨⟨c₁, d'⟩, hr, rfl⟩ := Except.map_eq_ok.mp h
    exact resourceRedshiftGroupCreate_members hr
  | groupUpdate d =>
    obtain ⟨⟨c₁, d'⟩, hr, rfl⟩ := Except.map_eq_ok.mp h
    exact resourceRedshiftGroupUpdate_members hr
  | groupDelete d => exact resourceRedshiftGroupDelete_members h
  | groupMembershipCreate d =>
    obtain ⟨⟨c₁, d'⟩, hr, rfl⟩ := Except.map_eq_ok.mp h
    exact resourceRedshiftGroupMembershipCreate_members hr
  | groupMembershipUpdate d =>
    obtain ⟨⟨c₁, d'⟩, hr, rfl⟩ := Except.map_eq_ok.mp h
    exact resourceRedshiftGroupMembershipUpdate_members hr
  | groupMembershipDelete d => exact resourceRedshiftGroupMembershipDelete_members h
  | defaultPrivilegesCreate d =>
    obtain ⟨⟨c₁, d'⟩, hr, rfl⟩ := Except.map_eq_ok.mp h
    exact resourceRedshiftDefaultPrivilegesCreate_members hr
  | defaultPrivilegesDelete d => exact resourceRedshiftDefaultPrivilegesDelete_members h

end Operation

section update

variable {c c' : Catalog}

/--
`Update` of a group applies the change of its configuration to the members the group has: the
renamed group keeps them, less the prior users no longer planned that still exist, plus the
planned users the prior state did not list. A member the prior state did not list stays.
-/
theorem resourceRedshiftGroupUpdate_members_planned {d d' : ResourceData GroupAttrs}
    (h : resourceRedshiftGroupUpdate c d = .ok (c', d')) :
    c'.members (fold d.new.name) = (c.members (fold d.old.name)).map fun s =>
      s \ (((d.old.users.filter (· ∉ d.new.users)).filter (· ∈ c.users)).map fold).toFinset ∪
        ((d.new.users.filter (· ∉ d.old.users)).map fold).toFinset := by
  rw [resourceRedshiftGroupUpdate_members h]
  simp only [Stmt.effect, Function.update_same, Option.map_map]
  rfl

/-- A member added outside Terraform stays through `Update`. -/
theorem resourceRedshiftGroupUpdate_members_planned_drift :
    resourceRedshiftGroupUpdate ⟨{"u", "v", "w"}, ∅, [⟨1, "a", ["u", "w"]⟩], 2, [], ∅, ∅, "root"⟩
        ⟨"1", ⟨"a", ["u"]⟩, ⟨"a", ["v"]⟩⟩ =
      .ok (⟨{"u", "v", "w"}, ∅, [⟨1, "a", ["w", "v"]⟩], 2, [], ∅, ∅, "root"⟩,
        ⟨"1", ⟨"a", ["u"]⟩, ⟨"a", ["w", "v"]⟩⟩) ∧
    Catalog.members ⟨{"u", "v", "w"}, ∅, [⟨1, "a", ["w", "v"]⟩], 2, [], ∅, ∅, "root"⟩ "a" =
      some {"v", "w"} := by
  have h : resourceRedshiftGroupUpdate ⟨{"u", "v", "w"}, ∅, [⟨1, "a", ["u", "w"]⟩], 2, [], ∅, ∅,
      "root"⟩ ⟨"1", ⟨"a", ["u"]⟩, ⟨"a", ["v"]⟩⟩ =
      .ok (⟨{"u", "v", "w"}, ∅, [⟨1, "a", ["w", "v"]⟩], 2, [], ∅, ∅, "root"⟩,
        ⟨"1", ⟨"a", ["u"]⟩, ⟨"a", ["w", "v"]⟩⟩) := by decide
  exact ⟨h, (resourceRedshiftGroupUpdate_members_planned h).trans (congrArg some (by decide))⟩

/--
`Update` of a membership on the same group drops the prior users no longer listed and adds the
listed users not listed before, comparing the names as written and acting on them lower-cased.
-/
theorem resourceRedshiftGroupMembershipUpdate_members_planned [unicode.CaseRanges]
    {d d' : ResourceData GroupMembershipAttrs} (hname : d.old.name = d.new.name)
    (h : resourceRedshiftGroupMembershipUpdate c d = .ok (c', d')) :
    c'.members (fold d.new.name) = (c.members (fold d.new.name)).map fun s =>
      s \ ((d.old.users.filter (· ∉ d.new.users)).map (fold ∘ strings.toLower)).toFinset ∪
        ((d.new.users.filter (· ∉ d.old.users)).map (fold ∘ strings.toLower)).toFinset := by
  rw [resourceRedshiftGroupMembershipUpdate_members h, if_neg (not_not.mpr hname)]
  simp only [calculateUserNamesDiff, foldl_appendUnmatched, List.nil_append, Stmt.effect,
    Function.update_same, Option.map_map, List.map_map]
  rfl

theorem resourceRedshiftGroupMembershipUpdate_members_planned_drift :
    resourceRedshiftGroupMembershipUpdate
        ⟨{"u", "v", "w"}, ∅, [⟨1, "a", ["u", "w"]⟩], 2, [], ∅, ∅, "root"⟩
        ⟨"a_u", ⟨"a", ["u"]⟩, ⟨"a", ["v"]⟩⟩ =
      .ok (⟨{"u", "v", "w"}, ∅, [⟨1, "a", ["w", "v"]⟩], 2, [], ∅, ∅, "root"⟩,
        ⟨"a_v", ⟨"a", ["u"]⟩, ⟨"a", ["v"]⟩⟩) ∧
    Catalog.members ⟨{"u", "v", "w"}, ∅, [⟨1, "a", ["w", "v"]⟩], 2, [], ∅, ∅, "root"⟩ "a" =
      some {"v", "w"} := by
  have h : resourceRedshiftGroupMembershipUpdate
      ⟨{"u", "v", "w"}, ∅, [⟨1, "a", ["u", "w"]⟩], 2, [], ∅, ∅, "root"⟩
      ⟨"a_u", ⟨"a", ["u"]⟩, ⟨"a", ["v"]⟩⟩ =
      .ok (⟨{"u", "v", "w"}, ∅, [⟨1, "a", ["w", "v"]⟩], 2, [], ∅, ∅, "root"⟩,
        ⟨"a_v", ⟨"a", ["u"]⟩, ⟨"a", ["v"]⟩⟩) := by decide
  exact ⟨h, (resourceRedshiftGroupMembershipUpdate_members_planned rfl h).trans
    (congrArg some (by decide))⟩

end update

section resources

variable {c c' : Catalog}

theorem alterGroupUsersStatements_of_ne_nil [unicode.CaseRanges] {stmt : List String → Stmt}
    {userNames : List String} (hne : userNames ≠ []) :
    alterGroupUsersStatements stmt userNames = [stmt (userNames.map strings.toLower)] :=
  if_neg fun h0 => hne (List.length_eq_zero.mp h0)

theorem resourceRedshiftGroupMembershipCreate_exec [unicode.CaseRanges]
    {d d' : ResourceData GroupMembershipAttrs}
    (h : resourceRedshiftGroupMembershipCreate c d = .ok (c', d')) :
    (Stmt.alterGroupAddUser d.new.name (d.new.users.map strings.toLower)).exec c = .ok c' :=
  have ⟨hne, hadd⟩ := resourceRedshiftGroupMembershipCreate_inv h
  by simpa only [alterGroupUsersStatements_of_ne_nil hne, execAll_singleton] using
    execAll_addUsersToGroup hadd

/--
The users a `redshift_group_membership` adds to a group show up in the `Read` of the
`redshift_group` that manages the group, beside the members it had: the group's state then
differs from its configuration unless that lists them too.
-/
theorem resourceRedshiftGroupReadImpl_membershipCreate [unicode.CaseRanges] (hwf : c.WF) {r : GroupRow}
    (hr : r ∈ c.groups) {dg : ResourceData GroupAttrs} (hid : dg.id = toString r.grosysid)
    {dm dm' : ResourceData GroupMembershipAttrs} (hname : r.groname = fold dm.new.name)
    (h : resourceRedshiftGroupMembershipCreate c dm = .ok (c', dm')) :
    ∃ dg', resourceRedshiftGroupReadImpl c' dg = .ok dg' ∧ dg'.new.name = r.groname ∧
      dg'.new.users.toFinset =
        r.grolist.toFinset ∪ (dm.new.users.map (fold ∘ strings.toLower)).toFinset := by
  have hexec := resourceRedshiftGroupMembershipCreate_exec h
  have hrow : _ ∈ ((Stmt.alterGroupAddUser dm.new.name
      (dm.new.users.map strings.toLower)).apply c).groups := mem_apply_alterGroupAddUser hr hname
  have hwf' := hwf.of_exec hexec
  obtain ⟨-, rfl⟩ := Stmt.exec_eq_ok.mp hexec
  refine ⟨_, resourceRedshiftGroupReadImpl_of_mem hwf' hrow hid, rfl, ?_⟩
  simp only [toFinset_addMembers, List.map_map]

theorem resourceRedshiftGroupReadImpl_membershipCreate_drift :
    ∃ dg', resourceRedshiftGroupReadImpl
        ⟨{"u", "v", "w"}, ∅, [⟨1, "a", ["u", "w", "v"]⟩], 2, [], ∅, ∅, "root"⟩
        ⟨"1", ⟨"a", ["u", "w"]⟩, ⟨"a", ["u", "w"]⟩⟩ = .ok dg' ∧ dg'.new.name = "a" ∧
      dg'.new.users.toFinset = ["u", "w"].toFinset ∪ (["v"].map (fold ∘ strings.toLower)).toFinset := by
  have h : resourceRedshiftGroupMembershipCreate
      ⟨{"u", "v", "w"}, ∅, [⟨1, "a", ["u", "w"]⟩], 2, [], ∅, ∅, "root"⟩
      ⟨"", ⟨"a", ["v"]⟩, ⟨"a", ["v"]⟩⟩ =
      .ok (⟨{"u", "v", "w"}, ∅, [⟨1, "a", ["u", "w", "v"]⟩], 2, [], ∅, ∅, "root"⟩,
        ⟨"a_v", ⟨"a", ["v"]⟩, ⟨"a", ["v"]⟩⟩) := by decide
  refine resourceRedshiftGroupReadImpl_membershipCreate
    ⟨by decide, by decide, by decide, by decide, by decide⟩ (List.mem_singleton_self _) ?_ ?_ h <;> rfl

theorem users_mem_of_check_alterGroupDropUser {group : String} {users : List String}
    (h : (Stmt.alterGroupDropUser group users).check c = none) : ∀ u ∈ users, fold u ∈ c.users := by
  simp only [Stmt.check] at h
  split_ifs at h
  exact missingUser_eq_none.mp h

end resources
