import RedshiftProvider.Impl.GroupMembership
import RedshiftProvider.Lemmas.Group

/-!
What `Read` of a `redshift_group_membership` reports, and what `Create`, `Delete` and `Update` do
to the groups. `Read` asks whether any of the users is a member of the group. With names as the
database stores them, `Create` makes every user a member, and `Delete` after it gives back the
catalog when none of them was a member before. `Update` on a new group name runs `Delete` and
`Create` on the planned attributes; otherwise it drops and adds the users `calculateUserNamesDiff`
finds, which are the names the other list lacks. An imported id reaches `Read` without the
attributes it was built from, and `Read` fails on it.
-/

open Catalog

theorem groupMembershipQuery_eq (c : Catalog) (groupName : String) {userNames : List String}
    (h : userNames ≠ []) :
    groupMembershipQuery c groupName userNames =
      .ok (decide (∃ u ∈ userNames, u ∈ c.users ∧ c.isMember groupName u)) := by
  simp only [groupMembershipQuery, h, if_false, isMember]
  rw [Except.ok.injEq, Bool.eq_iff_iff, decide_eq_true_eq]
  simp only [List.any_eq_true, Bool.and_eq_true, decide_eq_true_eq]
  constructor
  · rintro ⟨r, hr, hname, u, hu, hmem, huser⟩
    exact ⟨u, hu, huser, r, hr, hname, hmem⟩
  · rintro ⟨u, hu, huser, r, hr, hname, hmem⟩
    exact ⟨r, hr, hname, u, hu, hmem, huser⟩

section read

variable [unicode.CaseRanges]

theorem generateGroupMembershipId_data (groupName : String) (userNames : List String) :
    (generateGroupMembershipId groupName userNames).data =
      groupName.data ++ userNames.flatMap fun u => '_' :: (strings.toLower u).data := by
  induction userNames generalizing groupName with
  | nil => simp [generateGroupMembershipId]
  | cons u us ih =>
    simp only [generateGroupMembershipId, List.foldl_cons] at ih ⊢
    simp [ih]

theorem resourceRedshiftGroupMembershipRead_of_isMember {c : Catalog}
    {d : ResourceData GroupMembershipAttrs} {u : String} (hu : u ∈ d.new.users)
    (h : strings.toLower u ∈ c.users ∧ c.isMember d.new.name (strings.toLower u) = true) :
    resourceRedshiftGroupMembershipRead c d =
      .ok (d.setId (generateGroupMembershipId d.new.name d.new.users)) := by
  have hq : groupMembershipQuery c d.new.name (d.new.users.map strings.toLower) = .ok true := by
    rw [groupMembershipQuery_eq c d.new.name (List.map_eq_nil_iff.not.mpr (List.ne_nil_of_mem hu))]
    exact congrArg _ (decide_eq_true ⟨_, List.mem_map_of_mem _ hu, h⟩)
  simp [resourceRedshiftGroupMembershipRead, hq]

/--
With `b` dropped from the group outside Terraform, `Read` still finds `a` in it and keeps the
id and the attributes, so the plan shows no change.
-/
theorem resourceRedshiftGroupMembershipRead_partialRemoval :
    resourceRedshiftGroupMembershipRead ⟨{"a", "b"}, ∅, [⟨1, "g", ["a"]⟩], 2, [], ∅, ∅, "root"⟩
        (.ofAttrs "g_a_b" ⟨"g", ["a", "b"]⟩) = .ok (.ofAttrs "g_a_b" ⟨"g", ["a", "b"]⟩) ∧
      Catalog.isMember ⟨{"a", "b"}, ∅, [⟨1, "g", ["a"]⟩], 2, [], ∅, ∅, "root"⟩ "g" "b" = false :=
  of_decide_eq_true rfl

theorem resourceRedshiftGroupMembershipRead_of_users_nil (c : Catalog)
    {d : ResourceData GroupMembershipAttrs} (h : d.new.users = []) :
    resourceRedshiftGroupMembershipRead c d = .error (Stmt.syntaxError ")") := by
  simp [resourceRedshiftGroupMembershipRead, groupMembershipQuery, h]

theorem generateGroupMembershipId_cons (groupName userName : String) (userNames : List String) :
    generateGroupMembershipId groupName (userName :: userNames) =
      generateGroupMembershipId (groupName ++ "_" ++ strings.toLower userName) userNames :=
  rfl

/--
An imported id reaches `Read` with no group name and no users, so `Read` fails whatever id
`Create` stored. Nor does the id tell a `_` in the group name from the one before a user.
-/
theorem resourceRedshiftGroupMembershipRead_importer (c : Catalog) (groupName userName : String)
    (userNames : List String) :
    resourceRedshiftGroupMembershipRead c
        (redshiftGroupMembershipImporter (generateGroupMembershipId groupName userNames)) =
      .error (Stmt.syntaxError ")") ∧
    (groupName ++ "_" ++ strings.toLower userName, userNames) ≠
      (groupName, userName :: userNames) ∧
    generateGroupMembershipId (groupName ++ "_" ++ strings.toLower userName) userNames =
      generateGroupMembershipId groupName (userName :: userNames) :=
  ⟨resourceRedshiftGroupMembershipRead_of_users_nil c rfl,
    fun h => List.cons_ne_self _ _ (Prod.ext_iff.mp h).2.symm,
    (generateGroupMembershipId_cons groupName userName userNames).symm⟩

end read

theorem apply_alterGroupDropUser_alterGroupAddUser {c : Catalog} {group : String}
    {users : List String} (hfresh : ∀ u ∈ users.map fold, c.isMember (fold group) u = false) :
    (Stmt.alterGroupDropUser group users).apply ((Stmt.alterGroupAddUser group users).apply c) =
      c := by
  simp only [Stmt.apply, List.map_map]
  rw [List.map_congr_left fun r hr => ?_, List.map_id]
  simp only [Function.comp_apply]
  split_ifs with h
  · have hkeep : ∀ x ∈ r.grolist, x ∉ users.map fold := fun x hx hmem => by
      have := isMember_of_mem hr hx
      rw [h, hfresh x hmem] at this
      exact Bool.false_ne_true this
    rw [filter_addMembers fun u hu => decide_eq_false (not_not.mpr hu),
      List.filter_eq_self.mpr fun x hx => decide_eq_true (hkeep x hx)]
    rfl
  · rfl

theorem map_toLower_of_forall [unicode.CaseRanges] {users : List String}
    (h : ∀ u ∈ users, strings.toLower u = u) : users.map strings.toLower = users :=
  (List.map_congr_left h).trans (List.map_id' _)

/--
Planned attributes of a membership that name an existing group and existing users as the
database stores their names, with at least one user.
-/
structure GroupMembershipAttrs.Stored (c : Catalog) (a : GroupMembershipAttrs) : Prop where
  name_fold : fold a.name = a.name
  name_ne : a.name ≠ ""
  hasGroup : c.hasGroup a.name = true
  users_fold : ∀ u ∈ a.users, fold u = u
  users_ne : ∀ u ∈ a.users, u ≠ ""
  users_mem : ∀ u ∈ a.users, u ∈ c.users
  users_ne_nil : a.users ≠ []

namespace GroupMembershipAttrs.Stored

variable {c : Catalog} {a : GroupMembershipAttrs} (ha : a.Stored c)
include ha

theorem identText_users : ∀ u ∈ a.users, Sql.identText u ≠ [] ∧ fold u ∈ c.users :=
  fun u hu => ⟨identText_ne_nil_of_fold (ha.users_fold u hu) (ha.users_ne u hu),
    (ha.users_fold u hu).symm ▸ ha.users_mem u hu⟩

theorem exec_alterGroupAddUser :
    (Stmt.alterGroupAddUser a.name a.users).exec c =
      .ok ((Stmt.alterGroupAddUser a.name a.users).apply c) :=
  Stmt.exec_alterGroupAddUser (identText_ne_nil_of_fold ha.name_fold ha.name_ne)
    (ha.name_fold.symm ▸ ha.hasGroup) ha.identText_users

theorem addUsersToGroup_eq [unicode.CaseRanges] (hlow : ∀ u ∈ a.users, strings.toLower u = u) :
    addUsersToGroup c a.name a.users = .ok ((Stmt.alterGroupAddUser a.name a.users).apply c) := by
  have hlen : a.users.length ≠ 0 := fun h0 => ha.users_ne_nil (List.length_eq_zero.mp h0)
  rw [addUsersToGroup, alterGroupUsers, if_neg hlen]
  dsimp only
  rw [map_toLower_of_forall hlow, ha.exec_alterGroupAddUser, Except.mapError_ok]

theorem isMember_apply {u : String} (hu : u ∈ a.users) :
    ((Stmt.alterGroupAddUser a.name a.users).apply c).isMember a.name u = true := by
  obtain ⟨r, hr, hname⟩ := List.any_eq_true.mp ha.hasGroup
  have hname : r.groname = fold a.name := ha.name_fold.symm ▸ of_decide_eq_true hname
  have hrow : _ ∈ ((Stmt.alterGroupAddUser a.name a.users).apply c).groups :=
    mem_apply_alterGroupAddUser hr hname
  rw [map_fold_eq_self ha.users_fold] at hrow
  have := isMember_of_mem hrow (mem_addMembers.mpr (.inr hu))
  rwa [show r.groname = a.name from hname.trans ha.name_fold] at this

end GroupMembershipAttrs.Stored

section roundTrip

variable [unicode.CaseRanges] {c : Catalog} {d : ResourceData GroupMembershipAttrs}
  (ha : d.new.Stored c) (hlow : ∀ u ∈ d.new.users, strings.toLower u = u)
include ha hlow

theorem resourceRedshiftGroupMembershipCreate_eq :
    resourceRedshiftGroupMembershipCreate c d =
      .ok ((Stmt.alterGroupAddUser d.new.name d.new.users).apply c,
        d.setId (generateGroupMembershipId d.new.name d.new.users)) := by
  obtain ⟨u, hu⟩ := List.exists_mem_of_ne_nil _ ha.users_ne_nil
  have hlen : d.new.users.length ≠ 0 := fun h0 => ha.users_ne_nil (List.length_eq_zero.mp h0)
  have hread := resourceRedshiftGroupMembershipRead_of_isMember
    (c := (Stmt.alterGroupAddUser d.new.name d.new.users).apply c) (d := d) hu
    ⟨(hlow u hu).symm ▸ (Stmt.apply_users c _).symm ▸ ha.users_mem u hu,
      (hlow u hu).symm ▸ ha.isMember_apply hu⟩
  simp only [resourceRedshiftGroupMembershipCreate, hlen, if_false, ha.addUsersToGroup_eq hlow,
    Except.ok_bind, hread, Except.pure_eq_ok]

/--
With user names that Go's lower-casing and Redshift's folding both leave as they are, `Create`
makes every user a member of the group and sets the id, and a following `Read` changes nothing.
-/
theorem resourceRedshiftGroupMembershipCreate_read (hwf : c.WF) :
    ∃ c', resourceRedshiftGroupMembershipCreate c d =
        .ok (c', d.setId (generateGroupMembershipId d.new.name d.new.users)) ∧ c'.WF ∧
      (∀ u ∈ d.new.users, c'.isMember d.new.name u = true) ∧
      resourceRedshiftGroupMembershipRead c' (d.setId (generateGroupMembershipId d.new.name d.new.users)) =
        .ok (d.setId (generateGroupMembershipId d.new.name d.new.users)) := by
  obtain ⟨u, hu⟩ := List.exists_mem_of_ne_nil _ ha.users_ne_nil
  refine ⟨_, resourceRedshiftGroupMembershipCreate_eq ha hlow, hwf.of_exec ha.exec_alterGroupAddUser,
    fun v hv => ha.isMember_apply hv, resourceRedshiftGroupMembershipRead_of_isMember hu ?_⟩
  rw [hlow u hu, Stmt.apply_users]
  exact ⟨ha.users_mem u hu, ha.isMember_apply hu⟩

/--
`Delete` after `Create` gives the catalog back when none of the users was a member of the
group before.
-/
theorem resourceRedshiftGroupMembershipDelete_create
    (hfresh : ∀ u ∈ d.new.users, c.isMember d.new.name u = false) :
    ∃ c' d', resourceRedshiftGroupMembershipCreate c d = .ok (c', d') ∧
      resourceRedshiftGroupMembershipDelete c' d' = .ok c := by
  obtain ⟨u, hu⟩ := List.exists_mem_of_ne_nil _ ha.users_ne_nil
  have hlen : d.new.users.length ≠ 0 := fun h0 => ha.users_ne_nil (List.length_eq_zero.mp h0)
  have hgroup : ((Stmt.alterGroupAddUser d.new.name d.new.users).apply c).hasGroup
      (fold d.new.name) = true := by
    rw [ha.name_fold]
    exact hasGroup_of_isMember (ha.isMember_apply hu)
  have hexec := Stmt.exec_alterGroupDropUser (identText_ne_nil_of_fold ha.name_fold ha.name_ne) hgroup
    fun v hv => by rw [Stmt.apply_users]; exact ha.identText_users v hv
  refine ⟨_, _, resourceRedshiftGroupMembershipCreate_eq ha hlow, ?_⟩
  rw [resourceRedshiftGroupMembershipDelete, ResourceData.setId_new, dropUsersFromGroup,
    alterGroupUsers, if_neg hlen]
  dsimp only
  rw [map_toLower_of_forall hlow, hexec, Except.mapError_ok,
    apply_alterGroupDropUser_alterGroupAddUser]
  rw [map_fold_eq_self ha.users_fold, ha.name_fold]
  exact hfresh

end roundTrip

theorem resourceRedshiftGroupMembershipCreate_read_newMember :
    ∃ c', resourceRedshiftGroupMembershipCreate ⟨{"u", "v"}, ∅, [⟨1, "a", ["u"]⟩], 2, [], ∅, ∅, "root"⟩
        ⟨"", ⟨"a", ["v"]⟩, ⟨"a", ["v"]⟩⟩ = .ok (c', ResourceData.setId ⟨"", ⟨"a", ["v"]⟩, ⟨"a", ["v"]⟩⟩
          (generateGroupMembershipId "a" ["v"])) ∧ c'.WF ∧ (∀ u ∈ ["v"], c'.isMember "a" u = true) ∧
      resourceRedshiftGroupMembershipRead c' (ResourceData.setId ⟨"", ⟨"a", ["v"]⟩, ⟨"a", ["v"]⟩⟩
          (generateGroupMembershipId "a" ["v"])) =
        .ok (ResourceData.setId ⟨"", ⟨"a", ["v"]⟩, ⟨"a", ["v"]⟩⟩ (generateGroupMembershipId "a" ["v"])) :=
  resourceRedshiftGroupMembershipCreate_read
    ⟨by decide, by decide, by decide, by decide, by decide, by decide, by decide⟩ (by decide)
    ⟨by decide, by decide, by decide, by decide, by decide⟩

theorem resourceRedshiftGroupMembershipDelete_create_newMember :
    ∃ c' d', resourceRedshiftGroupMembershipCreate
        ⟨{"u", "v"}, ∅, [⟨1, "a", ["u"]⟩], 2, [], ∅, ∅, "root"⟩ ⟨"", ⟨"a", ["v"]⟩, ⟨"a", ["v"]⟩⟩ =
        .ok (c', d') ∧
      resourceRedshiftGroupMembershipDelete c' d' = .ok ⟨{"u", "v"}, ∅, [⟨1, "a", ["u"]⟩], 2, [], ∅, ∅, "root"⟩ :=
  resourceRedshiftGroupMembershipDelete_create
    ⟨by decide, by decide, by decide, by decide, by decide, by decide, by decide⟩ (by decide)
    (by decide)

section userNamesDiff

@[simp] theorem containsUserName_eq (names : List String) (name : String) :
    containsUserName names name = decide (name ∈ names) := by
  induction names with
  | nil => rfl
  | cons n names ih => by_cases h : name = n <;> simp [containsUserName, h, ih]

theorem foldl_appendUnmatched (names acc l : List String) :
    l.foldl (fun acc name => if containsUserName names name then acc else acc ++ [name]) acc =
      acc ++ l.filter (· ∉ names) := by
  induction l generalizing acc with
  | nil => simp
  | cons x l ih =>
    rw [List.foldl_cons, ih]
    by_cases h : x ∈ names <;> simp [h]

theorem calculateUserNamesDiff_eq (oldUserNames newUserNames : List String) :
    calculateUserNamesDiff oldUserNames newUserNames =
      (oldUserNames.filter (· ∉ newUserNames), newUserNames.filter (· ∉ oldUserNames)) := by
  simp only [calculateUserNamesDiff, foldl_appendUnmatched, List.nil_append]

end userNamesDiff

section update

variable [unicode.CaseRanges]

/--
On a new group name `Update` runs `Delete` on the planned attributes, which leaves the prior
members in the prior group, where `Delete` of the prior attributes takes them out.
-/
theorem resourceRedshiftGroupMembershipUpdate_rename :
    (resourceRedshiftGroupMembershipUpdate
        ⟨{"u"}, ∅, [⟨1, "a", ["u"]⟩, ⟨2, "b", []⟩], 3, [], ∅, ∅, "root"⟩
        ⟨"a_u", ⟨"a", ["u"]⟩, ⟨"b", ["u"]⟩⟩).map (·.1.groups) =
      .ok [⟨1, "a", ["u"]⟩, ⟨2, "b", ["u"]⟩] ∧
    (do
      let c ← resourceRedshiftGroupMembershipDelete
        ⟨{"u"}, ∅, [⟨1, "a", ["u"]⟩, ⟨2, "b", []⟩], 3, [], ∅, ∅, "root"⟩ (.ofAttrs "a_u" ⟨"a", ["u"]⟩)
      resourceRedshiftGroupMembershipCreate c (.ofAttrs "a_u" ⟨"b", ["u"]⟩)).map
        (fun r : Catalog × ResourceData GroupMembershipAttrs => r.1.groups) =
      .ok [⟨1, "a", []⟩, ⟨2, "b", ["u"]⟩] :=
  of_decide_eq_true rfl

end update
