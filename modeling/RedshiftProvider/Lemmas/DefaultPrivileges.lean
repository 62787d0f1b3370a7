import RedshiftProvider.Impl.DefaultPrivileges
import RedshiftProvider.Catalog.Lemmas
import RedshiftProvider.Catalog.WellFormed

/-!
What `Create` of a `redshift_default_privileges` grants and what its closing `Read` reports.
For default privileges on tables whose owner, schema and grantee are written as Redshift stores
them, `Create` succeeds, the key holds exactly the privileges upper-cased and `Read` reports them
upper-cased and lower-cased again: the privilege keywords `validatePrivileges` accepts, the
`GRANT` query and the eight columns of `readGroupTableDefaultPrivileges` agree. A name written
otherwise is folded by the `GRANT` but not by `Read`. Whatever `Create` succeeds with, `Delete`
then leaves what it would have left before.

Go's case mapping of runes above ASCII is the table `unicode.CaseRanges`, and every result holds
for each table.
-/

open Catalog

theorem foldl_appendIfTrue (cols : List (Bool × String)) (acc : List String) :
    cols.foldl (fun privileges (isSet, name) => appendIfTrue isSet name privileges) acc =
      acc ++ (cols.filter (·.1)).map (·.2) := by
  induction cols generalizing acc with
  | nil => simp
  | cons col cols ih =>
    obtain ⟨isSet, name⟩ := col
    rw [List.foldl_cons, ih]
    cases isSet <;> simp [appendIfTrue]

section cases

variable [unicode.CaseRanges]

theorem appendIfTrue_columns (f : String → Bool) :
    ((tablePrivilegeColumns.map f).zip ["select", "update", "insert", "delete", "drop",
      "references", "rule", "trigger"]).foldl
        (fun privileges (isSet, name) => appendIfTrue isSet name privileges) [] =
      (tablePrivilegeColumns.filter f).map strings.toLower := by
  rw [foldl_appendIfTrue, show ["select", "update", "insert", "delete", "drop", "references", "rule",
    "trigger"] = tablePrivilegeColumns.map strings.toLower from rfl, List.zip_map', List.nil_append,
    List.filter_map, List.map_map]
  rfl

theorem toUpper_of_mem_tablePrivilegeColumns {x : String} (h : x ∈ tablePrivilegeColumns) :
    strings.toUpper x = x := by
  simp only [tablePrivilegeColumns, List.mem_cons, List.not_mem_nil, or_false] at h
  rcases h with rfl | rfl | rfl | rfl | rfl | rfl | rfl | rfl <;> rfl

theorem validatePrivileges_table {privileges : List String}
    (h : ∀ p ∈ privileges, strings.toUpper p ∈ tablePrivilegeColumns) :
    validatePrivileges (privileges.map strings.toUpper) "table" := by
  have hty : allowedPrivileges (strings.toUpper "table") = tablePrivilegeColumns := rfl
  unfold validatePrivileges
  rw [if_neg fun h => absurd h.1 (by decide), hty]
  simp only [List.all_map, List.all_eq_true, Function.comp_apply, decide_eq_true_eq]
  exact fun p hp => (toUpper_of_mem_tablePrivilegeColumns (h p hp)).symm ▸ h p hp

theorem mem_readPrivileges {privileges : List String}
    (h : ∀ p ∈ privileges, strings.toUpper p ∈ tablePrivilegeColumns) (x : String) :
    x ∈ (tablePrivilegeColumns.filter (· ∈ privileges.map strings.toUpper)).map strings.toLower ↔
      x ∈ privileges.map fun q => strings.toLower (strings.toUpper q) := by
  simp only [List.mem_map, List.mem_filter, decide_eq_true_eq]
  constructor
  · rintro ⟨_, ⟨_, p, hp, rfl⟩, rfl⟩
    exact ⟨p, hp, rfl⟩
  · rintro ⟨p, hp, rfl⟩
    exact ⟨strings.toUpper p, ⟨h p hp, p, hp, rfl⟩, rfl⟩

end cases

theorem tableDefaultPrivilegesQuery_eq (c : Catalog) (key : DefaultAcl) (privileges : List String)
    (hkey : key.objectType = "RELATION") :
    tableDefaultPrivilegesQuery { c with defaultAcl := c.defaultAcl.filter (fun d =>
        ¬Stmt.sameAclKey key d) ∪ (privileges.map fun p => { key with privilege := p }).toFinset }
      key.grantee.name key.grantee.kind key.owner key.schema =
      tablePrivilegeColumns.map fun p => decide (p ∈ privileges) := by
  refine List.map_congr_left fun p _ => decide_eq_decide.mpr ⟨?_, fun hp => ?_⟩
  · rintro ⟨acl, hacl, hty, hname, hkind, howner, hschema, rfl⟩
    rcases Finset.mem_union.mp hacl with hacl | hacl
    · exact absurd ⟨howner, hschema, hty.trans hkey.symm, Grantee.eq_of_name_kind hname hkind⟩
        (Finset.mem_filter.mp hacl).2
    · obtain ⟨q, hq, rfl⟩ := List.mem_map.mp (List.mem_toFinset.mp hacl)
      exact hq
  · exact ⟨{ key with privilege := p }, Finset.mem_union_right _ (List.mem_toFinset.mpr
      (List.mem_map_of_mem _ hp)), hkey, rfl, rfl, rfl, rfl, rfl⟩

namespace DefaultPrivilegesAttrs

variable (a : DefaultPrivilegesAttrs)

/-- The owner, schema, object type and grantee of the default privileges of `a` on tables, as
`svv_default_privileges` lists them. -/
def tableAclKey : DefaultAcl :=
  ⟨a.owner, a.schemaName?, "RELATION", a.grantee, ""⟩

theorem entity_eq (h : a.grantee.name ≠ "") :
    (if a.group ≠ "" then (a.group, "group") else if a.user ≠ "" then (a.user, "user")
      else if a.role ≠ "" then (a.role, "role") else ("", "")) = (a.grantee.name, a.grantee.kind) := by
  unfold grantee at h ⊢
  by_cases hg : a.group ≠ ""
  · simp only [if_pos hg]; rfl
  by_cases hu : a.user ≠ ""
  · simp only [if_neg hg, if_pos hu]; rfl
  by_cases hr : a.role ≠ ""
  · simp only [if_neg hg, if_neg hu, if_pos hr]; rfl
  · simp only [if_neg hg, if_neg hu, if_neg hr] at h; exact absurd rfl h

/-- The attributes of a default privilege on tables whose names are written as Redshift stores
them, for an owner, a grantee and a schema that exist. -/
structure Folded (c : Catalog) : Prop where
  objectType : a.objectType = "table"
  owner_mem : a.owner ∈ c.users
  owner_fold : fold a.owner = a.owner
  owner_ne : a.owner ≠ ""
  grantee_mem : c.hasGrantee a.grantee
  grantee_fold : foldGrantee a.grantee = a.grantee
  grantee_ne : a.grantee.name ≠ ""
  schema : a.schema ≠ "" → c.hasSchema a.schema ∧ fold a.schema = a.schema

end DefaultPrivilegesAttrs

namespace DefaultPrivilegesAttrs.Folded

section attrs

variable {c : Catalog} {a : DefaultPrivilegesAttrs} (hf : a.Folded c)
include hf

theorem schemaName?_map_fold : a.schemaName?.map fold = a.schemaName? := by
  unfold schemaName?
  split_ifs with h0
  · rfl
  · simp [(hf.schema h0).2]

theorem check_eq_none (action : AclAction) :
    (Stmt.alterDefaultPrivileges (some a.owner) a.schemaName? action "TABLES" a.grantee).check c =
      none := by
  have hg := Grantee.fold_name hf.grantee_fold
  unfold schemaName?
  split_ifs with h0
  · simp [Stmt.check, Stmt.names, aclObjectType, hf.owner_fold, hf.owner_mem, hf.grantee_fold,
      hf.grantee_mem, identText_ne_nil_of_fold hf.owner_fold hf.owner_ne,
      identText_ne_nil_of_fold hg hf.grantee_ne]
  · obtain ⟨hs, hsf⟩ := hf.schema h0
    simp [Stmt.check, Stmt.names, aclObjectType, hf.owner_fold, hf.owner_mem, hf.grantee_fold,
      hf.grantee_mem, identText_ne_nil_of_fold hf.owner_fold hf.owner_ne,
      identText_ne_nil_of_fold hg hf.grantee_ne, identText_ne_nil_of_fold hsf h0, hsf, hs]

theorem of_acl (c' : Catalog) (hu : c'.users = c.users) (hr : c'.roles = c.roles)
    (hg : c'.groups = c.groups) (hn : c'.namespaces = c.namespaces) : a.Folded c' := by
  obtain ⟨h1, h2, h3, h4, h5, h6, h7, h8⟩ := hf
  refine ⟨h1, hu ▸ h2, h3, h4, ?_, h6, h7, ?_⟩
  · cases h : a.grantee <;> rw [h] at h5 <;> simpa [hasGrantee, hasGroup, hu, hr, hg] using h5
  · simpa [hasSchema, hn] using h8

section cases

variable [unicode.CaseRanges]

theorem objectTypes : strings.toUpper a.objectType ++ "S" = "TABLES" := by
  rw [hf.objectType]; rfl

theorem execAll_create (privileges : List String) :
    execAll (defaultPrivilegesCreateStatements a privileges) c =
      .ok { c with defaultAcl := c.defaultAcl.filter (fun d => ¬Stmt.sameAclKey a.tableAclKey d) ∪
        (privileges.map fun p => { a.tableAclKey with privilege := p }).toFinset } := by
  have hkey : ∀ c' : Catalog, c'.sessionUser = c.sessionUser →
      Stmt.aclKey c' (some a.owner) a.schemaName? "RELATION" a.grantee = a.tableAclKey :=
    fun c' _ => by
      simp [Stmt.aclKey, tableAclKey, hf.owner_fold, hf.schemaName?_map_fold, hf.grantee_fold]
  simp only [defaultPrivilegesCreateStatements, createAlterDefaultsRevokeQuery,
    createAlterDefaultsGrantQuery, hf.objectTypes]
  have hf1 := hf.of_acl { c with defaultAcl := c.defaultAcl.filter (fun d =>
      ¬Stmt.sameAclKey a.tableAclKey d) } rfl rfl rfl rfl
  split_ifs with hp
  · simp [execAll, Stmt.exec, hf.check_eq_none, hf1.check_eq_none, Stmt.apply, hkey]
  · simp_all [execAll, Stmt.exec, hf.check_eq_none, Stmt.apply, hkey]

end cases

end attrs

variable [unicode.CaseRanges] {c : Catalog} {d : ResourceData DefaultPrivilegesAttrs}

theorem readGroupTableDefaultPrivileges_create (hf : d.new.Folded c) (privileges : List String) :
    readGroupTableDefaultPrivileges { c with defaultAcl := c.defaultAcl.filter (fun acl =>
        ¬Stmt.sameAclKey d.new.tableAclKey acl) ∪
          (privileges.map fun p => { d.new.tableAclKey with privilege := p }).toFinset } d d.new.owner =
      { d with new := { d.new with privileges :=
        (tablePrivilegeColumns.filter (· ∈ privileges)).map strings.toLower } } := by
  unfold readGroupTableDefaultPrivileges
  rw [d.new.entity_eq hf.grantee_ne]
  dsimp only
  erw [tableDefaultPrivilegesQuery_eq _ d.new.tableAclKey privileges rfl, appendIfTrue_columns]

/--
For attributes written as Redshift stores the names, `Create` revokes what the key held, grants
the privileges upper-cased, and its closing `Read` reports the granted table privileges
lower-cased.
-/
theorem resourceRedshiftDefaultPrivilegesCreate_eq (hf : d.new.Folded c)
    (hvalid : validatePrivileges (d.new.privileges.map strings.toUpper) d.new.objectType) :
    resourceRedshiftDefaultPrivilegesCreate c d = .ok
      ({ c with defaultAcl := c.defaultAcl.filter (fun acl => ¬Stmt.sameAclKey d.new.tableAclKey acl) ∪
          ((d.new.privileges.map strings.toUpper).map fun p =>
            { d.new.tableAclKey with privilege := p }).toFinset },
        { d.setId (generateDefaultPrivilegesID d.new) with
          new := { d.new with privileges := (tablePrivilegeColumns.filter
            (· ∈ d.new.privileges.map strings.toUpper)).map strings.toLower } }) := by
  have hr := readGroupTableDefaultPrivileges_create (d := d.setId (generateDefaultPrivilegesID d.new))
    hf (d.new.privileges.map strings.toUpper)
  simp only [ResourceData.setId_new] at hr
  have hty : strings.toUpper d.new.objectType = "TABLE" := by rw [hf.objectType]; rfl
  simp only [resourceRedshiftDefaultPrivilegesCreate, resourceRedshiftDefaultPrivilegesReadImpl,
    hvalid, Bool.not_true, Bool.false_eq_true, if_false, hf.execAll_create,
    ResourceData.setId_new, getUserIDFromName, hf.owner_mem, if_true, Except.mapError_ok,
    Except.ok_bind, Except.pure_eq_ok, hty, hr]

/--
For privileges that upper-case to table privilege keywords, `Create` succeeds, leaves the key
holding exactly the privileges upper-cased and every other key as it was, and its closing `Read`
reports exactly the privileges upper-cased and lower-cased again.
-/
theorem resourceRedshiftDefaultPrivilegesCreate_agrees (hf : d.new.Folded c)
    (hcols : ∀ p ∈ d.new.privileges, strings.toUpper p ∈ tablePrivilegeColumns) :
    ∃ c' d', resourceRedshiftDefaultPrivilegesCreate c d = .ok (c', d') ∧
      (∀ acl, Stmt.sameAclKey d.new.tableAclKey acl →
        (acl ∈ c'.defaultAcl ↔ acl.privilege ∈ d.new.privileges.map strings.toUpper)) ∧
      (∀ acl, ¬Stmt.sameAclKey d.new.tableAclKey acl → (acl ∈ c'.defaultAcl ↔ acl ∈ c.defaultAcl)) ∧
      ∀ p, p ∈ d'.new.privileges ↔
        p ∈ d.new.privileges.map fun q => strings.toLower (strings.toUpper q) := by
  have hvalid : validatePrivileges (d.new.privileges.map strings.toUpper) d.new.objectType := by
    rw [hf.objectType]; exact validatePrivileges_table hcols
  refine ⟨_, _, resourceRedshiftDefaultPrivilegesCreate_eq hf hvalid, fun acl h => ?_,
    fun acl h => ?_, mem_readPrivileges hcols⟩
  · rw [Stmt.mem_revokeGrant, if_pos h]
  · rw [Stmt.mem_revokeGrant, if_neg h]

end DefaultPrivilegesAttrs.Folded

theorem resourceRedshiftDefaultPrivilegesCreate_agrees_group :
    ∃ c' d', resourceRedshiftDefaultPrivilegesCreate ⟨{"root"}, ∅, [⟨1, "g", []⟩], 2, [], ∅, ∅, "root"⟩
        ⟨"", ⟨"", "g", "", "", "root", "table", ["select", "insert"]⟩,
          ⟨"", "g", "", "", "root", "table", ["select", "insert"]⟩⟩ = .ok (c', d') ∧
      (∀ acl, Stmt.sameAclKey
          (DefaultPrivilegesAttrs.tableAclKey ⟨"", "g", "", "", "root", "table", ["select", "insert"]⟩) acl →
        (acl ∈ c'.defaultAcl ↔ acl.privilege ∈ ["select", "insert"].map strings.toUpper)) ∧
      (∀ acl, ¬Stmt.sameAclKey
          (DefaultPrivilegesAttrs.tableAclKey ⟨"", "g", "", "", "root", "table", ["select", "insert"]⟩) acl →
        (acl ∈ c'.defaultAcl ↔ acl ∈ (∅ : Finset DefaultAcl))) ∧
      ∀ p, p ∈ d'.new.privileges ↔
        p ∈ ["select", "insert"].map fun q => strings.toLower (strings.toUpper q) :=
  DefaultPrivilegesAttrs.Folded.resourceRedshiftDefaultPrivilegesCreate_agrees
    ⟨rfl, by decide, by decide, by decide, by decide, by decide, by decide, by decide⟩ (by decide)

section deleteCreate

variable [unicode.CaseRanges] {c c' : Catalog} {d d' : ResourceData DefaultPrivilegesAttrs}

theorem resourceRedshiftDefaultPrivilegesCreate_inv
    (h : resourceRedshiftDefaultPrivilegesCreate c d = .ok (c', d')) :
    execAll (defaultPrivilegesCreateStatements d.new (d.new.privileges.map strings.toUpper)) c =
        .ok c' ∧
      resourceRedshiftDefaultPrivilegesReadImpl c' (d.setId (generateDefaultPrivilegesID d.new)) =
        .ok d' := by
  unfold resourceRedshiftDefaultPrivilegesCreate at h
  dsimp only at h
  rcases ite_eq_iff.mp h with ⟨-, ⟨⟩⟩ | ⟨-, h⟩
  simp only [Except.pure_eq_ok, Except.ok_bind, Except.bind_eq_ok, Except.ok.injEq,
    Prod.mk.injEq] at h
  obtain ⟨c₁, h₁, d₁, h₂, rfl, rfl⟩ := h
  exact ⟨h₁, h₂⟩

theorem createAlterDefaultsRevokeQuery_readImpl
    (h : resourceRedshiftDefaultPrivilegesReadImpl c d = .ok d') :
    createAlterDefaultsRevokeQuery d'.new = createAlterDefaultsRevokeQuery d.new := by
  obtain ⟨_, -, h⟩ := Except.bind_eq_ok.mp h
  split at h <;> cases h <;> rfl

theorem exec_revoke_createStatements (a : DefaultPrivilegesAttrs) (privileges : List String)
    (c : Catalog) :
    (createAlterDefaultsRevokeQuery a).exec (applyAll (defaultPrivilegesCreateStatements a privileges) c) =
      (createAlterDefaultsRevokeQuery a).exec c := by
  unfold defaultPrivilegesCreateStatements createAlterDefaultsRevokeQuery createAlterDefaultsGrantQuery
  split_ifs <;> simp only [Stmt.exec, applyAll_cons, applyAll_nil, Stmt.check_alterDefaultPrivileges_apply,
    Stmt.apply_revokeAll_grant, Stmt.apply_revokeAll_revokeAll]

/--
`Delete` after a `Create` that succeeded leaves what `Delete` alone leaves: the revocation takes
away what the grant added and is the same whatever `Read` reported, and a revocation run twice
does what it does once.
-/
theorem resourceRedshiftDefaultPrivilegesDelete_create
    (h : resourceRedshiftDefaultPrivilegesCreate c d = .ok (c', d')) :
    resourceRedshiftDefaultPrivilegesDelete c' d' = resourceRedshiftDefaultPrivilegesDelete c d := by
  obtain ⟨hexec, hread⟩ := resourceRedshiftDefaultPrivilegesCreate_inv h
  simp only [resourceRedshiftDefaultPrivilegesDelete, createAlterDefaultsRevokeQuery_readImpl hread,
    ResourceData.setId_new, execAll, execAll_eq_ok hexec, exec_revoke_createStatements]

end deleteCreate

theorem resourceRedshiftDefaultPrivilegesDelete_create_mixedCaseGroup :
    resourceRedshiftDefaultPrivilegesCreate ⟨{"root"}, ∅, [⟨1, "g", []⟩], 2, [], ∅, ∅, "root"⟩
        (.ofAttrs "" ⟨"", "G", "", "", "root", "table", ["select", "Insert"]⟩) =
      .ok (⟨{"root"}, ∅, [⟨1, "g", []⟩], 2, [], ∅, {⟨"root", none, "RELATION", .group "g", "SELECT"⟩,
          ⟨"root", none, "RELATION", .group "g", "INSERT"⟩}, "root"⟩,
        ⟨"gn:G_noschema_on:root_ot:table", ⟨"", "G", "", "", "root", "table", ["select", "Insert"]⟩,
          ⟨"", "G", "", "", "root", "table", []⟩⟩) ∧
    resourceRedshiftDefaultPrivilegesDelete ⟨{"root"}, ∅, [⟨1, "g", []⟩], 2, [], ∅,
        {⟨"root", none, "RELATION", .group "g", "SELECT"⟩,
          ⟨"root", none, "RELATION", .group "g", "INSERT"⟩}, "root"⟩
        ⟨"gn:G_noschema_on:root_ot:table", ⟨"", "G", "", "", "root", "table", ["select", "Insert"]⟩,
          ⟨"", "G", "", "", "root", "table", []⟩⟩ =
      resourceRedshiftDefaultPrivilegesDelete ⟨{"root"}, ∅, [⟨1, "g", []⟩], 2, [], ∅, ∅, "root"⟩
        (.ofAttrs "" ⟨"", "G", "", "", "root", "table", ["select", "Insert"]⟩) := by
  have h : resourceRedshiftDefaultPrivilegesCreate ⟨{"root"}, ∅, [⟨1, "g", []⟩], 2, [], ∅, ∅, "root"⟩
      (.ofAttrs "" ⟨"", "G", "", "", "root", "table", ["select", "Insert"]⟩) =
    .ok (⟨{"root"}, ∅, [⟨1, "g", []⟩], 2, [], ∅, {⟨"root", none, "RELATION", .group "g", "SELECT"⟩,
        ⟨"root", none, "RELATION", .group "g", "INSERT"⟩}, "root"⟩,
      ⟨"gn:G_noschema_on:root_ot:table", ⟨"", "G", "", "", "root", "table", ["select", "Insert"]⟩,
        ⟨"", "G", "", "", "root", "table", []⟩⟩) := by
    decide
  exact ⟨h, resourceRedshiftDefaultPrivilegesDelete_create h⟩

/--
`GRANT` folds the group name `G` to `g`, while `Read` looks for the grantee under the name as
written: the privileges are granted, and `Read` reports none of them.
-/
theorem resourceRedshiftDefaultPrivilegesCreate_mixedCaseGroup [unicode.CaseRanges] :
    (resourceRedshiftDefaultPrivilegesCreate ⟨{"root"}, ∅, [⟨1, "g", []⟩], 2, [], ∅, ∅, "root"⟩
        (.ofAttrs "" ⟨"", "G", "", "", "root", "table", ["select", "Insert"]⟩)).map
      (fun r : Catalog × ResourceData DefaultPrivilegesAttrs => (r.1.defaultAcl, r.2.new.privileges)) =
      .ok ({⟨"root", none, "RELATION", .group "g", "SELECT"⟩,
        ⟨"root", none, "RELATION", .group "g", "INSERT"⟩}, []) :=
  by rfl
