import RedshiftProvider.Catalog.Basic

/-!
The statements that only take rows away (`REVOKE`, `ALTER DEFAULT PRIVILEGES ... REVOKE` and
`DROP GROUP`) act on the catalog as filters on its three tables of grants, default privileges
and groups. Filters compose by conjunction, so running such statements again after any of them
already ran changes nothing. A default privilege is keyed by its owner, schema, object type
and grantee, and `REVOKE ALL` followed by `GRANT` on a key replaces what the key holds.
-/

namespace Catalog

/-- Which rows a filter keeps in each of the tables statements delete from. -/
structure Keep where
  grant : Grant → Bool
  acl : DefaultAcl → Bool
  group : GroupRow → Bool

/-- The filter that keeps the rows every filter of the list keeps. -/
def Keep.all (ks : List Keep) : Keep :=
  ⟨fun g => ks.all (·.grant g), fun d => ks.all (·.acl d), fun r => ks.all (·.group r)⟩

/-- The catalog with only the rows the filter keeps. -/
def restrict (c : Catalog) (k : Keep) : Catalog :=
  { c with
    grants := c.grants.filter (k.grant ·)
    defaultAcl := c.defaultAcl.filter (k.acl ·)
    groups := c.groups.filter k.group }

variable {c : Catalog} {k k' : Keep}

@[simp] theorem restrict_sessionUser : (c.restrict k).sessionUser = c.sessionUser := rfl

@[simp] theorem restrict_namespaces : (c.restrict k).namespaces = c.namespaces := rfl

@[simp] theorem restrict_users : (c.restrict k).users = c.users := rfl

theorem restrict_restrict :
    (c.restrict k).restrict k' =
      c.restrict ⟨fun g => k.grant g && k'.grant g, fun d => k.acl d && k'.acl d,
        fun r => k.group r && k'.group r⟩ := by
  simp only [restrict, Finset.filter_filter, List.filter_filter, Bool.and_eq_true, Bool.and_comm]

theorem restrict_all_of_subset {ks ks' : List Keep} (h : ∀ k ∈ ks, k ∈ ks') :
    (c.restrict (Keep.all ks)).restrict (Keep.all ks') = c.restrict (Keep.all ks') := by
  have hall : ∀ (α : Type) (f : Keep → α → Bool) (x : α),
      (ks.all (f · x) && ks'.all (f · x)) = ks'.all (f · x) := by
    intro α f x
    cases h' : ks'.all (f · x)
    · simp
    · simp only [List.all_eq_true] at h' ⊢
      simp only [Bool.and_true, List.all_eq_true]
      exact fun k hk => h' k (h k hk)
  rw [restrict_restrict]
  simp only [Keep.all, hall]

end Catalog

namespace Stmt

/-- The statements that only take rows away. -/
def IsEraser : Stmt → Prop
  | .dropGroup _ => True
  | .revokeAllOnAllTablesInSchema _ _ => True
  | .alterDefaultPrivileges _ _ .revokeAll _ _ => True
  | _ => False

/-- The rows a statement keeps, when the provider is connected as `sessionUser`. -/
def keep (sessionUser : String) : Stmt → Catalog.Keep
  | .dropGroup name => ⟨fun _ => true, fun _ => true, fun r => r.groname ≠ Catalog.fold name⟩
  | .revokeAllOnAllTablesInSchema schema group =>
    ⟨fun gr => decide ¬(gr.grantee = .group (Catalog.fold group) ∧
        gr.object.isTableIn (Catalog.fold schema)), fun _ => true, fun _ => true⟩
  | .alterDefaultPrivileges owner schema .revokeAll objectTypes grantee =>
    ⟨fun _ => true,
      fun d => match Catalog.aclObjectType objectTypes with
        | some objectType =>
          decide ¬sameAclKey ⟨(owner.map Catalog.fold).getD sessionUser, schema.map Catalog.fold,
            objectType, Catalog.foldGrantee grantee, ""⟩ d
        | none => true,
      fun _ => true⟩
  | _ => ⟨fun _ => true, fun _ => true, fun _ => true⟩

theorem apply_of_isEraser {c : Catalog} {s : Stmt} (h : s.IsEraser) :
    s.apply c = c.restrict (s.keep c.sessionUser) := by
  match s, h with
  | .dropGroup name, _ => simp [apply, keep, Catalog.restrict]
  | .revokeAllOnAllTablesInSchema schema group, _ =>
    simp only [apply, keep, Catalog.restrict, decide_eq_true_eq]
    simp
  | .alterDefaultPrivileges owner schema .revokeAll objectTypes grantee, _ =>
    cases hot : Catalog.aclObjectType objectTypes <;> simp [apply, keep, Catalog.restrict, hot, aclKey]

theorem apply_revokeAll_grant (c : Catalog) (owner schema : Option String) (privileges : List String)
    (objectTypes : String) (grantee : Grantee) :
    (alterDefaultPrivileges owner schema .revokeAll objectTypes grantee).apply
        ((alterDefaultPrivileges owner schema (.grant privileges) objectTypes grantee).apply c) =
      (alterDefaultPrivileges owner schema .revokeAll objectTypes grantee).apply c := by
  cases h : Catalog.aclObjectType objectTypes with
  | none => simp only [apply, h]
  | some objectType =>
    simp only [apply, h, Catalog.mk.injEq, true_and, and_true]
    ext d
    simp only [aclKey, sameAclKey, Finset.mem_filter, Finset.mem_union, List.mem_toFinset,
      List.mem_map]
    constructor
    · rintro ⟨hd | ⟨p, -, rfl⟩, hk⟩
      · exact ⟨hd, hk⟩
      · exact absurd ⟨rfl, rfl, rfl, rfl⟩ hk
    · exact fun ⟨hd, hk⟩ => ⟨.inl hd, hk⟩

theorem check_alterDefaultPrivileges_apply (c : Catalog) {owner schema owner' schema' : Option String}
    {action action' : AclAction} {objectTypes objectTypes' : String} {grantee grantee' : Grantee} :
    (alterDefaultPrivileges owner schema action objectTypes grantee).check
        ((alterDefaultPrivileges owner' schema' action' objectTypes' grantee').apply c) =
      (alterDefaultPrivileges owner schema action objectTypes grantee).check c := by
  simp only [apply]
  split <;> rfl

theorem eq_of_sameAclKey {key acl : DefaultAcl} (h : sameAclKey key acl) :
    { key with privilege := acl.privilege } = acl := by
  obtain ⟨h1, h2, h3, h4⟩ := h
  cases acl
  simp_all

theorem mem_revokeGrant {acls : Finset DefaultAcl} {key acl : DefaultAcl} {privileges : List String} :
    acl ∈ acls.filter (fun d => ¬sameAclKey key d) ∪
        (privileges.map fun p => { key with privilege := p }).toFinset ↔
      if sameAclKey key acl then acl.privilege ∈ privileges else acl ∈ acls := by
  split_ifs with h
  · simp only [Finset.mem_union, Finset.mem_filter, h, not_true_eq_false, and_false, false_or,
      List.mem_toFinset, List.mem_map]
    constructor
    · rintro ⟨p, hp, rfl⟩
      exact hp
    · exact fun hp => ⟨acl.privilege, hp, eq_of_sameAclKey h⟩
  · simp only [Finset.mem_union, Finset.mem_filter, h, not_false_eq_true, and_true,
      List.mem_toFinset, List.mem_map, or_iff_left_iff_imp, forall_exists_index, and_imp]
    rintro p _ rfl
    exact absurd ⟨rfl, rfl, rfl, rfl⟩ h

@[simp] theorem apply_sessionUser (c : Catalog) (s : Stmt) : (s.apply c).sessionUser = c.sessionUser := by
  cases s with
  | alterDefaultPrivileges owner schema action objectTypes grantee =>
    simp only [apply]
    split <;> rfl
  | _ => rfl

@[simp] theorem apply_namespaces (c : Catalog) (s : Stmt) : (s.apply c).namespaces = c.namespaces := by
  cases s with
  | alterDefaultPrivileges owner schema action objectTypes grantee =>
    simp only [apply]
    split <;> rfl
  | _ => rfl

@[simp] theorem apply_users (c : Catalog) (s : Stmt) : (s.apply c).users = c.users := by
  cases s with
  | alterDefaultPrivileges owner schema action objectTypes grantee =>
    simp only [apply]
    split <;> rfl
  | _ => rfl

end Stmt

@[simp] theorem applyAll_nil (c : Catalog) : applyAll [] c = c := rfl

@[simp] theorem applyAll_cons (s : Stmt) (stmts : List Stmt) (c : Catalog) :
    applyAll (s :: stmts) c = applyAll stmts (s.apply c) := rfl

@[simp] theorem applyAll_sessionUser (stmts : List Stmt) (c : Catalog) :
    (applyAll stmts c).sessionUser = c.sessionUser := by
  induction stmts generalizing c <;> simp [*]

@[simp] theorem applyAll_namespaces (stmts : List Stmt) (c : Catalog) :
    (applyAll stmts c).namespaces = c.namespaces := by
  induction stmts generalizing c <;> simp [*]

@[simp] theorem applyAll_users (stmts : List Stmt) (c : Catalog) :
    (applyAll stmts c).users = c.users := by
  induction stmts generalizing c <;> simp [*]

theorem applyAll_of_isEraser {stmts : List Stmt} (h : ∀ s ∈ stmts, s.IsEraser) (c : Catalog) :
    applyAll stmts c = c.restrict (Catalog.Keep.all (stmts.map (Stmt.keep c.sessionUser))) := by
  induction stmts generalizing c with
  | nil => simp [Catalog.restrict, Catalog.Keep.all]
  | cons s stmts ih =>
    rw [applyAll_cons, Stmt.apply_of_isEraser (h s (.head _)), ih (fun s hs => h s (.tail _ hs)),
      Catalog.restrict_sessionUser, Catalog.restrict_restrict]
    rfl

/-- Running statements that only take rows away after some of them ran already changes nothing. -/
theorem applyAll_absorb {stmts ran : List Stmt} (h : ∀ s ∈ stmts, s.IsEraser)
    (hran : ∀ s ∈ ran, s ∈ stmts) (c : Catalog) :
    applyAll stmts (applyAll ran c) = applyAll stmts c := by
  rw [applyAll_of_isEraser h, applyAll_of_isEraser (fun s hs => h s (hran s hs)),
    applyAll_of_isEraser h, Catalog.restrict_sessionUser, Catalog.restrict_all_of_subset]
  simp only [List.mem_map]
  rintro _ ⟨s, hs, rfl⟩
  exact ⟨s, hran s hs, rfl⟩

theorem Stmt.apply_revokeAll_revokeAll (c : Catalog) (owner schema : Option String)
    (objectTypes : String) (grantee : Grantee) :
    (alterDefaultPrivileges owner schema .revokeAll objectTypes grantee).apply
        ((alterDefaultPrivileges owner schema .revokeAll objectTypes grantee).apply c) =
      (alterDefaultPrivileges owner schema .revokeAll objectTypes grantee).apply c := by
  cases h : Catalog.aclObjectType objectTypes with
  | none => simp only [apply, h]
  | some objectType => simp [apply, h, Finset.filter_filter, aclKey]

theorem Grantee.eq_of_name_kind {g g' : Grantee} (hn : g.name = g'.name) (hk : g.kind = g'.kind) :
    g = g' := by
  cases g <;> cases g' <;> simp_all [Grantee.name, Grantee.kind]

theorem Grantee.fold_name {g : Grantee} (h : Catalog.foldGrantee g = g) :
    Catalog.fold g.name = g.name := by
  cases g <;> simp_all [Catalog.foldGrantee, Grantee.name]

namespace Catalog

theorem identText_fold (x : String) : Sql.identText (fold x) = (fold x).data :=
  List.takeWhile_eq_self_iff.mpr fun c hc => by
    obtain ⟨c', hc', rfl⟩ := List.mem_map.mp hc
    have hnul := List.mem_takeWhile_imp (show c' ∈ x.data.takeWhile (· ≠ '\x00') from hc')
    exact decide_eq_true (Char.toLower_ne_nul (of_decide_eq_true hnul))

theorem fold_fold (x : String) : fold (fold x) = fold x := by
  rw [fold, identText_fold]
  simp [fold, Function.comp_def, Char.toLower_toLower]

theorem identText_ne_nil_of_fold {x : String} (h : fold x = x) (hne : x ≠ "") :
    Sql.identText x ≠ [] := by
  intro h0
  rw [fold, h0] at h
  exact hne h.symm

end Catalog
