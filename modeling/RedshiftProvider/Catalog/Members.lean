import RedshiftProvider.Catalog.WellFormed

/-!
The groups as the resources `redshift_group` and `redshift_group_membership` manage them: the
set of members of each group, by the group's name. `Catalog.members` reads them off the
catalog, `Stmt.effect` says what each statement does to them, and `members_apply` shows that a
statement that passes its checks does exactly that. A statement keeps the row of every group it
does not name, so only the groups it names need a look. A run of statements then does to the
members what their effects do one after the other.
-/

open Catalog

/-- The members of each group by its name, `none` for a name no group has. -/
abbrev Members := String → Option (Finset String)

namespace Catalog

/-- The members of the group named `g`, as the row of that name lists them. -/
def members (c : Catalog) : Members := fun g =>
  (c.groups.find? (·.groname = g)).map (·.grolist.toFinset)

end Catalog

namespace Stmt

/-- What a statement that succeeds does to the members of the groups. -/
def effect : Stmt → Members → Members
  | .createGroup name users, m =>
    Function.update m (fold name) (some (users.map fold).toFinset)
  | .alterGroupAddUser group users, m =>
    Function.update m (fold group) ((m (fold group)).map (· ∪ (users.map fold).toFinset))
  | .alterGroupDropUser group users, m =>
    Function.update m (fold group) ((m (fold group)).map (· \ (users.map fold).toFinset))
  | .alterGroupRename group newName, m =>
    Function.update (Function.update m (fold group) none) (fold newName) (m (fold group))
  | .dropGroup name, m => Function.update m (fold name) none
  | .revokeAllOnAllTablesInSchema _ _, m => m
  | .alterDefaultPrivileges _ _ _ _ _, m => m

/-- The names of the groups whose rows a statement may change. -/
def groups : Stmt → List String
  | .createGroup name _ => [fold name]
  | .alterGroupAddUser group _ => [fold group]
  | .alterGroupDropUser group _ => [fold group]
  | .alterGroupRename group newName => [fold group, fold newName]
  | .dropGroup name => [fold name]
  | .revokeAllOnAllTablesInSchema _ _ => []
  | .alterDefaultPrivileges _ _ _ _ _ => []

variable {m : Members} {group : String}

@[simp] theorem effect_alterGroupAddUser_nil : (alterGroupAddUser group []).effect m = m := by
  simp [effect]

@[simp] theorem effect_alterGroupDropUser_nil : (alterGroupDropUser group []).effect m = m := by
  simp [effect]

@[simp] theorem effect_alterGroupRename_self : (alterGroupRename group group).effect m = m := by
  simp [effect]

theorem effect_of_not_mem {s : Stmt} {g : String} (hg : g ∉ s.groups) : s.effect m g = m g := by
  cases s <;> simp only [groups, List.mem_cons, List.mem_singleton, List.not_mem_nil, or_false,
    not_or] at hg <;> simp [effect, Function.update_apply, hg]

end Stmt

section frame

variable {k g : String}

theorem find?_map_ite {l : List GroupRow} {f : GroupRow → GroupRow}
    (hf : ∀ r, r.groname = k → (f r).groname ≠ g) (hg : g ≠ k) :
    (l.map fun r => if r.groname = k then f r else r).find? (·.groname = g) =
      l.find? (·.groname = g) := by
  induction l with
  | nil => rfl
  | cons r l ih =>
    by_cases hr : r.groname = k
    · simp [List.find?_cons, hr, hf r hr, Ne.symm hg, ih]
    · simp [List.find?_cons, hr, ih]

theorem find?_filter_ne {l : List GroupRow} (hg : g ≠ k) :
    (l.filter (·.groname ≠ k)).find? (·.groname = g) = l.find? (·.groname = g) := by
  induction l with
  | nil => rfl
  | cons r l ih =>
    by_cases hr : r.groname = k
    · rw [List.filter_cons_of_neg (by simpa using hr), ih,
        List.find?_cons_of_neg _ (by simpa [hr] using Ne.symm hg)]
    · rw [List.filter_cons_of_pos (by simpa using hr), List.find?_cons, List.find?_cons, ih]

/-- A statement keeps the row of every group it does not name. -/
theorem Stmt.find?_apply (c : Catalog) {s : Stmt} (hg : g ∉ s.groups) :
    (s.apply c).groups.find? (·.groname = g) = c.groups.find? (·.groname = g) := by
  cases s with
  | createGroup name users =>
    simp only [groups, List.mem_singleton] at hg
    simp [apply, List.find?_append, Ne.symm hg]
  | alterGroupAddUser group users =>
    simp only [groups, List.mem_singleton] at hg
    exact find?_map_ite (fun _ h h' => hg (h'.symm.trans h)) hg
  | alterGroupDropUser group users =>
    simp only [groups, List.mem_singleton] at hg
    exact find?_map_ite (fun _ h h' => hg (h'.symm.trans h)) hg
  | alterGroupRename group newName =>
    simp only [groups, List.mem_cons, List.mem_singleton, List.not_mem_nil, or_false,
      not_or] at hg
    exact find?_map_ite (fun _ _ h' => hg.2 h'.symm) hg.1
  | dropGroup name =>
    simp only [groups, List.mem_singleton] at hg
    exact find?_filter_ne hg
  | revokeAllOnAllTablesInSchema schema group => rfl
  | alterDefaultPrivileges owner schema action objectTypes grantee =>
    simp only [apply]
    split <;> rfl

theorem Stmt.members_apply_of_not_mem (c : Catalog) {s : Stmt} (hg : g ∉ s.groups) :
    (s.apply c).members g = c.members g :=
  congrArg (Option.map _) (Stmt.find?_apply c hg)

end frame

section refinement

variable {c : Catalog}

theorem toFinset_addMembers (grolist users : List String) :
    (addMembers grolist users).toFinset = grolist.toFinset ∪ users.toFinset := by
  ext u
  simp only [List.mem_toFinset, Finset.mem_union, mem_addMembers]

theorem find?_congr_of_mem {α : Type} {p q : α → Bool} {l : List α} (h : ∀ x ∈ l, p x = q x) :
    l.find? p = l.find? q := by
  induction l with
  | nil => rfl
  | cons x l ih =>
    rw [List.find?_cons, List.find?_cons, h x (.head _), ih fun y hy => h y (.tail _ hy)]

theorem members_mapGroups (f : GroupRow → GroupRow) (hname : ∀ r, (f r).groname = r.groname)
    (g : String) : ({ c with groups := c.groups.map f }).members g =
      (c.groups.find? (·.groname = g)).map fun r => (f r).grolist.toFinset := by
  have hp : (fun r : GroupRow => decide (r.groname = g)) ∘ f = fun r => decide (r.groname = g) :=
    funext fun r => by simp only [Function.comp, hname]
  simp only [members, List.find?_map, hp, Option.map_map]
  rfl

theorem groname_of_find? {g : String} {r : GroupRow}
    (h : c.groups.find? (·.groname = g) = some r) : r.groname = g := by
  simpa using List.find?_some h

theorem members_mapGroups_self (f : GroupRow → GroupRow) (hname : ∀ r, (f r).groname = r.groname)
    (name : String) :
    ({ c with groups := c.groups.map fun r : GroupRow => if r.groname = name then f r else r }).members
      name = (c.groups.find? (·.groname = name)).map fun r => (f r).grolist.toFinset := by
  rw [members_mapGroups (fun r : GroupRow => if r.groname = name then f r else r)
    fun r => by dsimp only; split <;> simp only [hname]]
  cases hr : c.groups.find? (·.groname = name) with
  | none => rfl
  | some r => simp only [Option.map_some', groname_of_find? hr, if_true]

theorem hasGroup_eq_false_iff {name : String} :
    c.hasGroup name = false ↔ c.groups.find? (·.groname = name) = none := by
  simp only [hasGroup, List.any_eq_false, List.find?_eq_none]

theorem check_createGroup {name : String} {users : List String}
    (h : (Stmt.createGroup name users).check c = none) : c.hasGroup (fold name) = false := by
  simp only [Stmt.check] at h
  split_ifs at h with h₁ h₂
  exact Bool.eq_false_iff.mpr h₂

theorem check_alterGroupRename {group newName : String}
    (h : (Stmt.alterGroupRename group newName).check c = none) :
    c.hasGroup (fold group) = true ∧ c.hasGroup (fold newName) = false := by
  simp only [Stmt.check] at h
  split_ifs at h with h₁ h₂ h₃
  exact ⟨by simpa using h₂, Bool.eq_false_iff.mpr h₃⟩

/-- Each statement that passes its checks does to the members what its effect says. -/
theorem members_apply {s : Stmt} (hc : s.check c = none) : (s.apply c).members = s.effect c.members := by
  funext g
  by_cases hg : g ∉ s.groups
  · rw [Stmt.members_apply_of_not_mem c hg, Stmt.effect_of_not_mem hg]
  rw [not_not] at hg
  cases s with
  | createGroup name users =>
    obtain rfl := List.mem_singleton.mp hg
    have hnone := hasGroup_eq_false_iff.mp (check_createGroup hc)
    simp [Stmt.apply, Stmt.effect, members, List.find?_append, hnone, toFinset_addMembers]
  | alterGroupAddUser group users =>
    obtain rfl := List.mem_singleton.mp hg
    rw [Stmt.apply, members_mapGroups_self
      (fun r => { r with grolist := addMembers r.grolist (users.map fold) }) fun _ => rfl]
    simp only [Stmt.effect, Function.update_same, members, Option.map_map, toFinset_addMembers]
    rfl
  | alterGroupDropUser group users =>
    obtain rfl := List.mem_singleton.mp hg
    rw [Stmt.apply, members_mapGroups_self
      (fun r => { r with grolist := r.grolist.filter (· ∉ users.map fold) }) fun _ => rfl]
    simp only [Stmt.effect, Function.update_same, members, Option.map_map]
    congr 1
    funext r
    ext u
    simp
  | alterGroupRename group newName =>
    obtain ⟨hold, hnew⟩ := check_alterGroupRename hc
    have hne : fold newName ≠ fold group := fun h => by rw [h, hold] at hnew; cases hnew
    have hfree : ∀ r ∈ c.groups, ¬r.groname = fold newName := by
      simpa [hasGroup] using hnew
    -- a renamed row keeps its members
    have hlist : ∀ r : GroupRow, (if r.groname = fold group then { r with groname := fold newName }
        else r).grolist = r.grolist := fun r => by split <;> rfl
    simp only [Stmt.apply, Stmt.effect, members, List.find?_map, Option.map_map, Function.comp_def,
      hlist]
    simp only [Stmt.groups, List.mem_cons, List.mem_singleton, List.not_mem_nil, or_false] at hg
    rcases hg with rfl | rfl
    · -- no row keeps the old name
      rw [Function.update_noteq hne.symm, Function.update_same,
        List.find?_eq_none.mpr fun r _ => ?_]
      · rfl
      · split <;> simp_all
    · -- the renamed row is the only one of the new name
      rw [Function.update_same]
      congr 1
      refine find?_congr_of_mem fun r hr => ?_
      by_cases h : r.groname = fold group
      · simp [h]
      · simp [h, hfree r hr]
  | dropGroup name =>
    obtain rfl := List.mem_singleton.mp hg
    simp only [Stmt.apply, Stmt.effect, members, List.find?_filter]
    rw [Function.update_same, List.find?_eq_none.mpr fun r _ h => by simp_all]
    rfl
  | revokeAllOnAllTablesInSchema _ _ | alterDefaultPrivileges _ _ _ _ _ => cases hg

theorem members_exec {s : Stmt} {c' : Catalog} (h : s.exec c = .ok c') :
    c'.members = s.effect c.members := by
  obtain ⟨hc, rfl⟩ := Stmt.exec_eq_ok.mp h
  exact members_apply hc

/-- A run of statements does to the members what their effects do one after the other. -/
theorem members_execAll {stmts : List Stmt} {c' : Catalog} (h : execAll stmts c = .ok c') :
    c'.members = stmts.foldl (fun m s => s.effect m) c.members := by
  induction stmts generalizing c with
  | nil => rw [Except.ok.inj h.symm]; rfl
  | cons s rest ih =>
    obtain ⟨c₁, h₁, h₂⟩ := Except.bind_eq_ok.mp h
    rw [ih h₂, members_exec h₁]
    rfl

end refinement
