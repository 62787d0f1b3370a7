import RedshiftProvider.Catalog.Lemmas
import RedshiftProvider.Catalog.WellFormed
import RedshiftProvider.Impl.Group
import RedshiftProvider.Lemmas.Decimal
import RedshiftProvider.Lemmas.Quoting

/-!
What the handlers of `redshift_group` do to the catalog: the statements `Delete` runs before
`DROP GROUP`, and the group and member names `Create`, `Read` and `Update` report. On a
well-formed catalog the id of a group names one row, so that `Read` reports that row. `Create`
and `Update` leave a row with the lower-cased name and the planned members when the members
are named as the database stores them; with a member named otherwise `Create` reports it
under another name. `Delete` after `Create` of a group that no privilege names gives the catalog
back, but for the id it used up.
-/

open Catalog

theorem keep_all_revokes (u g : String) (ss : List String) :
    Keep.all ((ss.flatMap fun s => [Stmt.revokeAllOnAllTablesInSchema s g,
        .alterDefaultPrivileges none (some s) .revokeAll "TABLES" (.group g)]).map (Stmt.keep u)) =
      ⟨fun gr => decide ¬(gr.grantee = .group (fold g) ∧ ∃ s ∈ ss, gr.object.isTableIn (fold s)),
        fun d => decide ¬(d.grantee = .group (fold g) ∧ d.owner = u ∧ d.objectType = "RELATION" ∧
          ∃ s ∈ ss, d.schema = some (fold s)),
        fun _ => true⟩ := by
  simp only [Keep.all, Keep.mk.injEq, List.all_eq, List.forall_mem_map, List.forall_mem_flatMap,
    List.mem_cons, List.not_mem_nil, or_false, forall_eq_or_imp, forall_eq, true_and, Stmt.keep,
    aclObjectType_tables, Option.map_none', Option.getD_none, Option.map_some', foldGrantee,
    Stmt.sameAclKey, decide_eq_true_eq, and_true, implies_true, decide_True]
  exact ⟨funext fun gr => decide_eq_decide.mpr
      ⟨fun h ⟨hg, s, hs, ht⟩ => h s hs ⟨hg, ht⟩, fun h s hs ⟨hg, ht⟩ => h ⟨hg, s, hs, ht⟩⟩,
    funext fun d => decide_eq_decide.mpr
      ⟨fun h ⟨hg, ho, ht, s, hs, hsch⟩ => h s hs ⟨ho, hsch, ht, hg⟩,
        fun h s hs ⟨ho, hsch, ht, hg⟩ => h ⟨hg, ho, ht, s, hs, hsch⟩⟩⟩

theorem groupDeleteRevokes_isEraser (c : Catalog) (groupName : String) :
    ∀ s ∈ groupDeleteRevokes c groupName, s.IsEraser := by
  simp only [groupDeleteRevokes, List.mem_flatMap, List.mem_cons, List.not_mem_nil, or_false]
  rintro s ⟨schemaName, -, rfl | rfl⟩ <;> trivial

/--
The revocations of `resourceRedshiftGroupDelete` take from the group exactly its privileges on
tables of the schemas of its query, and the default privileges on tables that the connected
user defined for it in those schemas. Every other privilege of the group stays.
-/
theorem applyAll_groupDeleteRevokes (c : Catalog) (groupName : String) :
    applyAll (groupDeleteRevokes c groupName) c =
      { c with
        grants := c.grants.filter fun gr => ¬(gr.grantee = .group (fold groupName) ∧
          ∃ s ∈ groupDeleteSchemas c, gr.object.isTableIn (fold s))
        defaultAcl := c.defaultAcl.filter fun d => ¬(d.grantee = .group (fold groupName) ∧
          d.owner = c.sessionUser ∧ d.objectType = "RELATION" ∧
          ∃ s ∈ groupDeleteSchemas c, d.schema = some (fold s)) } := by
  rw [applyAll_of_isEraser (groupDeleteRevokes_isEraser c groupName), groupDeleteRevokes,
    keep_all_revokes]
  simp only [restrict, List.filter_true, decide_eq_true_eq]

/--
The revocations leave a group its privileges on anything but tables, here `USAGE` on the schema
`public`, and `DROP GROUP` then fails.
-/
theorem resourceRedshiftGroupDelete_schemaUsage :
    (applyAll (groupDeleteRevokes ⟨{"root"}, ∅, [⟨1, "g", []⟩], 2, [⟨"public", 1⟩],
        {⟨.group "g", .schema "public", "USAGE"⟩}, ∅, "root"⟩ "g")
      ⟨{"root"}, ∅, [⟨1, "g", []⟩], 2, [⟨"public", 1⟩],
        {⟨.group "g", .schema "public", "USAGE"⟩}, ∅, "root"⟩).groupHoldsPrivilege "g" = true ∧
    resourceRedshiftGroupDelete ⟨{"root"}, ∅, [⟨1, "g", []⟩], 2, [⟨"public", 1⟩],
        {⟨.group "g", .schema "public", "USAGE"⟩}, ∅, "root"⟩ (.ofAttrs "1" ⟨"g", []⟩) =
      .error (Stmt.dependentPrivileges "g") := by
  decide

theorem execAll_revokes_of_not_holds {g : String} (hg : Sql.identText g ≠ [])
    {ss : List String} {c : Catalog} (hss : ∀ s ∈ ss, Sql.identText s ≠ [] ∧ c.hasSchema (fold s))
    (hgroup : c.hasGroup (fold g) = true) (hpriv : c.groupHoldsPrivilege (fold g) = false)
    (rest : List Stmt) :
    execAll ((ss.flatMap fun s => [Stmt.revokeAllOnAllTablesInSchema s g,
      .alterDefaultPrivileges none (some s) .revokeAll "TABLES" (.group g)]) ++ rest) c =
        execAll rest c := by
  obtain ⟨hgrants, hacl⟩ := groupHoldsPrivilege_eq_false.mp hpriv
  induction ss with
  | nil => rfl
  | cons s ss ih =>
    obtain ⟨hs, hschema⟩ := hss s (List.mem_cons_self _ _)
    have h₁ : (Stmt.revokeAllOnAllTablesInSchema s g).exec c = .ok c := by
      refine Stmt.exec_eq_ok.mpr ⟨by simp [Stmt.check, Stmt.names, hs, hg, hschema, hgroup], ?_⟩
      simp only [Stmt.apply]
      rw [Finset.filter_true_of_mem fun gr hgr ⟨h, _⟩ => hgrants gr hgr h]
    have h₂ : (Stmt.alterDefaultPrivileges none (some s) .revokeAll "TABLES" (.group g)).exec c =
        .ok c := by
      refine Stmt.exec_eq_ok.mpr ⟨by simp [Stmt.check, Stmt.names, hs, hg, hschema, hgroup,
        hasGrantee, foldGrantee, Grantee.name], ?_⟩
      simp only [Stmt.apply, aclObjectType_tables]
      rw [Finset.filter_true_of_mem fun d hd ⟨_, _, _, h⟩ => hacl d hd h]
    simp only [List.flatMap_cons, List.cons_append, List.nil_append, List.append_assoc, execAll, h₁,
      h₂, Except.ok_bind]
    exact ih fun s' hs' => hss s' (List.mem_cons_of_mem _ hs')

theorem find?_eq_some_of_unique {α : Type} {p : α → Bool} {l : List α} {r : α} (hr : r ∈ l)
    (hp : p r) (huniq : ∀ x ∈ l, p x → x = r) : l.find? p = some r := by
  obtain ⟨x, hx⟩ := Option.isSome_iff_exists.mp (List.find?_isSome.mpr ⟨r, hr, hp⟩)
  rw [hx, huniq x (List.mem_of_find?_eq_some hx) (List.find?_some hx)]

namespace Catalog.WF

variable {c : Catalog} (h : c.WF)
include h

theorem find?_grosysid {r : GroupRow} (hr : r ∈ c.groups) :
    c.groups.find? (fun x => (x.grosysid : Int) = r.grosysid) = some r :=
  find?_eq_some_of_unique hr (by simp) fun x hx hid =>
    List.inj_on_of_nodup_map h.grosysid_nodup hx hr (Int.ofNat_inj.mp (of_decide_eq_true hid))

theorem find?_groname {r : GroupRow} (hr : r ∈ c.groups) :
    c.groups.find? (·.groname = r.groname) = some r :=
  find?_eq_some_of_unique hr (by simp) fun x hx hname =>
    List.inj_on_of_nodup_map h.groname_nodup hx hr (of_decide_eq_true hname)

end Catalog.WF

theorem groupRowById_of_mem {c : Catalog} (hwf : c.WF) {r : GroupRow} (hr : r ∈ c.groups) :
    groupRowById c (toString r.grosysid) = .ok (some r) := by
  simp only [groupRowById, Sql.int4in_toString, Except.ok_bind, hwf.find?_grosysid hr]
  rfl

theorem groupMemberRows_of_mem {c : Catalog} (hwf : c.WF) {r : GroupRow} (hr : r ∈ c.groups) :
    groupMemberRows c (toString r.grosysid) = .ok (r.grolist.map (r.groname, ·)) := by
  rw [groupMemberRows, groupRowById_of_mem hwf hr, Except.ok_bind]
  dsimp only
  rw [List.filter_eq_self.mpr fun u hu => decide_eq_true (hwf.grolist_subset r hr u hu)]
  rfl

theorem resourceRedshiftGroupReadImpl_of_mem {c : Catalog} (hwf : c.WF) {r : GroupRow}
    (hr : r ∈ c.groups) {d : ResourceData GroupAttrs} (hid : d.id = toString r.grosysid) :
    resourceRedshiftGroupReadImpl c d = .ok { d with new := ⟨r.groname, r.grolist⟩ } := by
  simp only [resourceRedshiftGroupReadImpl, hid, groupMemberRows_of_mem hwf hr, List.map_map,
    List.getLast?_map, groupRowById_of_mem hwf hr, Except.ok_bind]
  cases r.grolist.getLast? <;> simp [Function.comp_def]

theorem dataSourceRedshiftGroupRead_of_mem {c : Catalog} (hwf : c.WF) {r : GroupRow}
    (hr : r ∈ c.groups) {d : ResourceData GroupAttrs} (hname : d.new.name = r.groname) :
    dataSourceRedshiftGroupRead c d =
      .ok { d.setId (toString r.grosysid) with new := { d.new with users := r.grolist } } := by
  have hrows : groupMemberRowsByName c r.groname = r.grolist.map (·, r.grosysid) := by
    rw [groupMemberRowsByName, hwf.find?_groname hr]
    dsimp only
    rw [List.filter_eq_self.mpr fun u hu => decide_eq_true (hwf.grolist_subset r hr u hu)]
  simp only [dataSourceRedshiftGroupRead, hname, hrows, List.map_map, List.getLast?_map]
  cases r.grolist.getLast? <;>
    simp [Function.comp_def, groupIdByName, hwf.find?_groname hr]

theorem dataSourceRedshiftGroupRead_agrees {c : Catalog} (hwf : c.WF) {r : GroupRow}
    (hr : r ∈ c.groups) {d : ResourceData GroupAttrs} (hname : d.new.name = r.groname) :
    ∃ d', dataSourceRedshiftGroupRead c d = .ok d' ∧ d'.id = toString r.grosysid ∧
      d'.new = ⟨r.groname, r.grolist⟩ ∧ resourceRedshiftGroupReadImpl c d' = .ok d' := by
  refine ⟨_, dataSourceRedshiftGroupRead_of_mem hwf hr hname, rfl, by rw [← hname], ?_⟩
  rw [resourceRedshiftGroupReadImpl_of_mem hwf hr rfl, ← hname]

theorem dataSourceRedshiftGroupRead_agrees_byName :
    ∃ d', dataSourceRedshiftGroupRead ⟨{"u", "v"}, ∅, [⟨1, "a", ["u"]⟩], 2, [], ∅, ∅, "root"⟩
        ⟨"", ⟨"a", []⟩, ⟨"a", []⟩⟩ = .ok d' ∧ d'.id = toString 1 ∧ d'.new = ⟨"a", ["u"]⟩ ∧
      resourceRedshiftGroupReadImpl ⟨{"u", "v"}, ∅, [⟨1, "a", ["u"]⟩], 2, [], ∅, ∅, "root"⟩ d' =
        .ok d' := by
  refine dataSourceRedshiftGroupRead_agrees (c := ⟨{"u", "v"}, ∅, [⟨1, "a", ["u"]⟩], 2, [], ∅, ∅, "root"⟩)
    ⟨by decide, by decide, by decide, by decide, by decide⟩ (List.mem_singleton_self _) ?_
  rfl

section statements

variable {c : Catalog} {group newName : String} {users : List String} {r : GroupRow}

theorem any_identText_eq_nil {x : String} {users : List String} (hx : Sql.identText x ≠ [])
    (husers : ∀ u ∈ users, Sql.identText u ≠ []) :
    (x :: users).any (Sql.identText · = []) = false := by
  simpa [hx] using husers

theorem Stmt.exec_createGroup {name : String} (hname : Sql.identText name ≠ [])
    (hnew : c.hasGroup (fold name) = false)
    (husers : ∀ u ∈ users, Sql.identText u ≠ [] ∧ fold u ∈ c.users) :
    (Stmt.createGroup name users).exec c = .ok ((Stmt.createGroup name users).apply c) := by
  refine Stmt.exec_eq_ok.mpr ⟨?_, rfl⟩
  simp only [Stmt.check, Stmt.names, any_identText_eq_nil hname fun u hu => (husers u hu).1, hnew]
  exact missingUser_eq_none.mpr fun u hu => (husers u hu).2

theorem Stmt.check_alterGroupUser (hgroup : Sql.identText group ≠ [])
    (h : c.hasGroup (fold group) = true) (husers : ∀ u ∈ users, Sql.identText u ≠ [] ∧ fold u ∈ c.users) :
    (Stmt.alterGroupAddUser group users).check c = none ∧
      (Stmt.alterGroupDropUser group users).check c = none := by
  simp only [Stmt.check, Stmt.names, any_identText_eq_nil hgroup fun u hu => (husers u hu).1, h,
    if_true, and_self]
  exact missingUser_eq_none.mpr fun u hu => (husers u hu).2

theorem Stmt.exec_alterGroupAddUser (hgroup : Sql.identText group ≠ [])
    (h : c.hasGroup (fold group) = true) (husers : ∀ u ∈ users, Sql.identText u ≠ [] ∧ fold u ∈ c.users) :
    (Stmt.alterGroupAddUser group users).exec c =
      .ok ((Stmt.alterGroupAddUser group users).apply c) :=
  Stmt.exec_eq_ok.mpr ⟨(Stmt.check_alterGroupUser hgroup h husers).1, rfl⟩

theorem Stmt.exec_alterGroupDropUser (hgroup : Sql.identText group ≠ [])
    (h : c.hasGroup (fold group) = true) (husers : ∀ u ∈ users, Sql.identText u ≠ [] ∧ fold u ∈ c.users) :
    (Stmt.alterGroupDropUser group users).exec c =
      .ok ((Stmt.alterGroupDropUser group users).apply c) :=
  Stmt.exec_eq_ok.mpr ⟨(Stmt.check_alterGroupUser hgroup h husers).2, rfl⟩

theorem Stmt.exec_alterGroupRename (hgroup : Sql.identText group ≠ [])
    (hnewName : Sql.identText newName ≠ []) (h : c.hasGroup (fold group) = true)
    (hnew : c.hasGroup (fold newName) = false) :
    (Stmt.alterGroupRename group newName).exec c =
      .ok ((Stmt.alterGroupRename group newName).apply c) := by
  refine Stmt.exec_eq_ok.mpr ⟨?_, rfl⟩
  simp [Stmt.check, Stmt.names, hgroup, hnewName, h, hnew]

theorem mem_apply_alterGroupAddUser (hr : r ∈ c.groups) (h : r.groname = fold group) :
    { r with grolist := addMembers r.grolist (users.map fold) } ∈
      ((Stmt.alterGroupAddUser group users).apply c).groups :=
  List.mem_map.mpr ⟨r, hr, if_pos h⟩

theorem mem_apply_alterGroupDropUser (hr : r ∈ c.groups) (h : r.groname = fold group) :
    { r with grolist := r.grolist.filter (· ∉ users.map fold) } ∈
      ((Stmt.alterGroupDropUser group users).apply c).groups :=
  List.mem_map.mpr ⟨r, hr, if_pos h⟩

theorem mem_apply_alterGroupRename (hr : r ∈ c.groups) (h : r.groname = fold group) :
    { r with groname := fold newName } ∈ ((Stmt.alterGroupRename group newName).apply c).groups :=
  List.mem_map.mpr ⟨r, hr, if_pos h⟩

end statements

theorem groupIdByName_createGroup {c : Catalog} {name : String} (users : List String)
    (hnew : c.hasGroup (fold name) = false) :
    ((Stmt.createGroup name users).apply c).groupIdByName (fold name) = some c.nextGroupId := by
  have hnone : c.groups.find? (·.groname = fold name) = none :=
    List.find?_eq_none.mpr fun r hr => by simpa using hasGroup_eq_false.mp hnew r hr
  simp [groupIdByName, Stmt.apply, List.find?_append, hnone]

section create

variable [unicode.CaseRanges]

/--
`Create` of a group that does not exist yet, with members that exist, creates the group under
its folded name with the next id, and reads back that name and the members as the database
folded them. It looks the id up under the name as Go lower-cases it, which must be the folded
name.
-/
theorem resourceRedshiftGroupCreate_eq {c : Catalog} {d : ResourceData GroupAttrs} (hwf : c.WF)
    (hident : Sql.identText d.new.name ≠ []) (hlow : strings.toLower d.new.name = fold d.new.name)
    (hnew : c.hasGroup (fold d.new.name) = false)
    (husers : ∀ u ∈ d.new.users, Sql.identText u ≠ [] ∧ fold u ∈ c.users) :
    resourceRedshiftGroupCreate c d =
      .ok ((Stmt.createGroup d.new.name d.new.users).apply c,
        { d.setId (toString c.nextGroupId) with
          new := ⟨fold d.new.name, addMembers [] (d.new.users.map fold)⟩ }) := by
  have hwf' := hwf.createGroup hnew fun u hu => (husers u hu).2
  have hread := resourceRedshiftGroupReadImpl_of_mem hwf'
    (List.mem_append_right _ (List.mem_singleton_self _)) (d := d.setId (toString c.nextGroupId)) rfl
  simp only [resourceRedshiftGroupCreate, Stmt.exec_createGroup hident hnew husers,
    Except.mapError_ok, Except.ok_bind, hlow, groupIdByName_createGroup _ hnew, Except.pure_eq_ok,
    hread]

end create

theorem map_fold_eq_self {users : List String} (h : ∀ u ∈ users, fold u = u) :
    users.map fold = users :=
  (List.map_congr_left h).trans (List.map_id _)

/--
Attributes written as the database stores names: a group name without NUL, so that quoting
keeps all of it, and member names that are not empty and that folding leaves as they are.
-/
structure GroupAttrs.Folded (a : GroupAttrs) : Prop where
  name_nul : '\x00' ∉ a.name.data
  name_ne : a.name ≠ ""
  users_fold : ∀ u ∈ a.users, fold u = u
  users_ne : ∀ u ∈ a.users, u ≠ ""

namespace GroupAttrs.Folded

variable {a : GroupAttrs} (hf : a.Folded)
include hf

theorem identText_name : Sql.identText a.name ≠ [] := by
  rw [Sql.identText_of_nul_not_mem hf.name_nul]
  exact fun h0 => hf.name_ne (String.ext h0)

theorem identText_user {u : String} (hu : u ∈ a.users) : Sql.identText u ≠ [] :=
  identText_ne_nil_of_fold (hf.users_fold u hu) (hf.users_ne u hu)

theorem map_fold_users : a.users.map fold = a.users :=
  map_fold_eq_self hf.users_fold

theorem identText_fold_name : Sql.identText (fold a.name) ≠ [] := by
  rw [identText_fold, fold, Sql.identText_of_nul_not_mem hf.name_nul, Ne, List.map_eq_nil_iff]
  exact fun h0 => hf.name_ne (String.ext h0)

end GroupAttrs.Folded

section create

variable [unicode.CaseRanges]

end create

section create

variable [unicode.CaseRanges]

/--
`Create` stores the members under the names the database folded them to, while the
configuration keeps the names as written: `Alice` comes back as `alice`.
-/
theorem resourceRedshiftGroupCreate_mixedCaseUser :
    resourceRedshiftGroupCreate ⟨{"alice"}, ∅, [], 100, [], ∅, ∅, "root"⟩
        (.ofAttrs "" ⟨"G", ["Alice"]⟩) =
      .ok (⟨{"alice"}, ∅, [⟨100, "g", ["alice"]⟩], 101, [], ∅, ∅, "root"⟩,
        ⟨"100", ⟨"G", ["Alice"]⟩, ⟨"g", ["alice"]⟩⟩) :=
  of_decide_eq_true rfl

end create

section update

variable {c : Catalog} {r : GroupRow}

theorem setGroupName_eq {d : ResourceData GroupAttrs} (hwf : c.WF) (hr : r ∈ c.groups)
    (hold : r.groname = fold d.old.name) (hident : Sql.identText d.old.name ≠ [])
    (hf : d.new.Folded) (hfresh : d.old.name = d.new.name ∨ c.hasGroup (fold d.new.name) = false) :
    ∃ c', setGroupName c d = .ok c' ∧ c'.WF ∧ { r with groname := fold d.new.name } ∈ c'.groups ∧
      c'.users = c.users := by
  unfold setGroupName
  by_cases heq : d.old.name = d.new.name
  · rw [if_pos heq]
    refine ⟨c, rfl, hwf, ?_, rfl⟩
    rw [← heq, ← hold]
    exact hr
  · have hnew := hfresh.resolve_left heq
    rw [if_neg heq, if_neg hf.name_ne, Stmt.exec_alterGroupRename hident hf.identText_name
      (hold ▸ hasGroup_of_mem hr) hnew, Except.mapError_ok]
    exact ⟨_, rfl, hwf.alterGroupRename hnew, mem_apply_alterGroupRename hr hold, Stmt.apply_users _ _⟩

variable {name : String} (hwf : c.WF) (hr : r ∈ c.groups) (hname : r.groname = fold name)
  (hident : Sql.identText name ≠ [])
include hwf hr hname hident

theorem setUsersNames_drop {α : Type} {removed : List String}
    (hrem : ∀ u ∈ removed, fold u = u ∧ u ≠ "" ∧ u ∈ c.users) :
    ∃ c', (∀ k : Catalog → Except GoError α,
        (if removed.length > 0 then
          if (removed.filter (checkIfUserExists c)).length > 0 then
            (Stmt.alterGroupDropUser name (removed.filter (checkIfUserExists c))).exec c >>= k
          else pure c >>= k
        else pure c >>= k) = k c') ∧ c'.WF ∧
      { r with grolist := r.grolist.filter (· ∉ removed) } ∈ c'.groups ∧ c'.users = c.users := by
  rw [(List.filter_eq_self (p := checkIfUserExists c)).mpr fun u hu => decide_eq_true (hrem u hu).2.2]
  cases removed with
  | nil => exact ⟨c, fun k => rfl, hwf, by simpa using hr, rfl⟩
  | cons u us =>
    have hexec := Stmt.exec_alterGroupDropUser hident (hname ▸ hasGroup_of_mem hr) fun v hv =>
      ⟨identText_ne_nil_of_fold (hrem v hv).1 (hrem v hv).2.1, (hrem v hv).1.symm ▸ (hrem v hv).2.2⟩
    have hrow : _ ∈ ((Stmt.alterGroupDropUser name (u :: us)).apply c).groups :=
      mem_apply_alterGroupDropUser hr hname
    rw [map_fold_eq_self fun v hv => (hrem v hv).1] at hrow
    refine ⟨_, fun k => ?_, hwf.of_exec hexec, hrow, Stmt.apply_users _ _⟩
    simp only [List.length_cons, Nat.zero_lt_succ, if_true, hexec, Except.ok_bind]

theorem setUsersNames_add {added : List String}
    (hadd : ∀ u ∈ added, fold u = u ∧ u ≠ "" ∧ u ∈ c.users) :
    ∃ c', (if added.length > 0 then (Stmt.alterGroupAddUser name added).exec c else pure c) =
        .ok c' ∧ c'.WF ∧ { r with grolist := addMembers r.grolist added } ∈ c'.groups := by
  cases added with
  | nil => exact ⟨c, rfl, hwf, hr⟩
  | cons u us =>
    have hexec := Stmt.exec_alterGroupAddUser hident (hname ▸ hasGroup_of_mem hr) fun v hv =>
      ⟨identText_ne_nil_of_fold (hadd v hv).1 (hadd v hv).2.1, (hadd v hv).1.symm ▸ (hadd v hv).2.2⟩
    have hrow : _ ∈ ((Stmt.alterGroupAddUser name (u :: us)).apply c).groups :=
      mem_apply_alterGroupAddUser hr hname
    rw [map_fold_eq_self fun v hv => (hadd v hv).1] at hrow
    simp only [List.length_cons, Nat.zero_lt_succ, if_true, hexec]
    exact ⟨_, rfl, hwf.of_exec hexec, hrow⟩

theorem setUsersNames_eq {d : ResourceData GroupAttrs} (hnew : d.new.name = name)
    (hold : ∀ u ∈ d.old.users, fold u = u ∧ u ≠ "")
    (husers : ∀ u ∈ d.new.users, fold u = u ∧ u ≠ "" ∧ u ∈ c.users)
    (hmembers : ∀ u, u ∈ r.grolist ↔ u ∈ d.old.users) :
    ∃ c' g, setUsersNames c d = .ok c' ∧ c'.WF ∧ { r with grolist := g } ∈ c'.groups ∧
      ∀ u, u ∈ g ↔ u ∈ d.new.users := by
  unfold setUsersNames
  by_cases hset : d.old.users.toFinset = d.new.users.toFinset
  · rw [if_pos hset]
    refine ⟨c, r.grolist, rfl, hwf, hr, fun u => ?_⟩
    rw [hmembers, ← List.mem_toFinset, hset, List.mem_toFinset]
  · rw [if_neg hset]
    subst hnew
    obtain ⟨c₁, h₁, hwf₁, hr₁, hu₁⟩ := setUsersNames_drop hwf hr hname hident
      fun u (hu : u ∈ d.old.users.filter (· ∉ d.new.users)) => by
        have hu := (List.mem_filter.mp hu).1
        exact ⟨(hold u hu).1, (hold u hu).2, hwf.grolist_subset r hr u ((hmembers u).mpr hu)⟩
    obtain ⟨c₂, h₂, hwf₂, hr₂⟩ := setUsersNames_add hwf₁ hr₁ hname hident
      fun u (hu : u ∈ d.new.users.filter (· ∉ d.old.users)) => by
        have hu := (List.mem_filter.mp hu).1
        exact ⟨(husers u hu).1, (husers u hu).2.1, hu₁ ▸ (husers u hu).2.2⟩
    refine ⟨c₂, _, by rw [pure_bind, h₁]; exact h₂, hwf₂, hr₂, fun u => ?_⟩
    simp only [mem_addMembers, List.mem_filter, hmembers, decide_eq_true_eq]
    by_cases ho : u ∈ d.old.users <;> by_cases hn : u ∈ d.new.users <;> simp [ho, hn]

end update

theorem groupDeleteSchemas_stored {c : Catalog}
    (hns : ∀ ns ∈ c.namespaces, fold ns.nspname = ns.nspname ∧ ns.nspname ≠ "") :
    ∀ s ∈ groupDeleteSchemas c, Sql.identText s ≠ [] ∧ c.hasSchema (fold s) = true := by
  simp only [groupDeleteSchemas, List.mem_map, List.mem_filter]
  rintro _ ⟨ns, ⟨hns', -⟩, rfl⟩
  refine ⟨identText_ne_nil_of_fold (hns ns hns').1 (hns ns hns').2, ?_⟩
  rw [(hns ns hns').1]
  exact List.any_eq_true.mpr ⟨ns, hns', decide_eq_true rfl⟩

theorem apply_dropGroup_createGroup {c : Catalog} {name name' : String} {users : List String}
    (hname : fold name' = fold name) (hnew : c.hasGroup (fold name) = false) :
    (Stmt.dropGroup name').apply ((Stmt.createGroup name users).apply c) =
      { c with nextGroupId := c.nextGroupId + 1 } := by
  simp only [Stmt.apply, hname, List.filter_append]
  rw [List.filter_eq_self.mpr fun r hr => decide_eq_true (hasGroup_eq_false.mp hnew r hr),
    List.filter_singleton]
  simp

section create

variable [unicode.CaseRanges]

end create
