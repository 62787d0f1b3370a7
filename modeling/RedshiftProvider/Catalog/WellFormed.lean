import Mathlib.Data.List.Nodup
import RedshiftProvider.Catalog.Basic

/-!
The invariant of the catalog that every statement keeps: group names and group ids are unique,
every id is below the one `CREATE GROUP` hands out next, and every group lists each member
once, each of them an existing user. A statement that fails changes nothing, so the invariant
holds after any run of statements from a catalog where it holds.
-/

open Catalog

/-- The invariant of the group tables. -/
structure Catalog.WF (c : Catalog) : Prop where
  groname_nodup : (c.groups.map (·.groname)).Nodup
  grosysid_nodup : (c.groups.map (·.grosysid)).Nodup
  grosysid_lt : ∀ r ∈ c.groups, r.grosysid < c.nextGroupId
  grolist_nodup : ∀ r ∈ c.groups, r.grolist.Nodup
  grolist_subset : ∀ r ∈ c.groups, ∀ u ∈ r.grolist, u ∈ c.users

section addMembers

variable {grolist users : List String} {x : String}

theorem mem_addMembers : x ∈ addMembers grolist users ↔ x ∈ grolist ∨ x ∈ users := by
  induction users generalizing grolist with
  | nil => simp [addMembers]
  | cons u us ih =>
    simp only [addMembers, List.foldl_cons] at ih ⊢
    split_ifs with hu
    · rw [ih]
      by_cases hx : x = u
      · subst hx; simp [hu]
      · simp [hx]
    · simp [ih, or_assoc]

theorem addMembers_of_nodup (h : users.Nodup) (hdisj : ∀ u ∈ users, u ∉ grolist) :
    addMembers grolist users = grolist ++ users := by
  induction users generalizing grolist with
  | nil => simp [addMembers]
  | cons u us ih =>
    obtain ⟨hu, hus⟩ := List.nodup_cons.mp h
    simp only [addMembers, List.foldl_cons] at ih ⊢
    rw [if_neg (hdisj u (List.mem_cons_self _ _)), ih hus, List.append_assoc, List.singleton_append]
    intro v hv hmem
    rcases List.mem_append.mp hmem with hmem | hmem
    · exact hdisj v (List.mem_cons_of_mem _ hv) hmem
    · exact hu (List.mem_singleton.mp hmem ▸ hv)

theorem filter_addMembers {p : String → Bool} (h : ∀ u ∈ users, p u = false) :
    (addMembers grolist users).filter p = grolist.filter p := by
  induction users generalizing grolist with
  | nil => rfl
  | cons u us ih =>
    simp only [addMembers, List.foldl_cons] at ih ⊢
    rw [ih fun v hv => h v (List.mem_cons_of_mem _ hv)]
    split_ifs
    · rfl
    · rw [List.filter_append, List.filter_singleton, h u (List.mem_cons_self _ _), cond_false,
        List.append_nil]

theorem nodup_addMembers (h : grolist.Nodup) : (addMembers grolist users).Nodup := by
  induction users generalizing grolist with
  | nil => exact h
  | cons u us ih =>
    simp only [addMembers, List.foldl_cons] at ih ⊢
    split_ifs with hu
    · exact ih h
    · exact ih (h.append (List.nodup_singleton u) (by simpa using hu))

end addMembers

theorem missingUser_eq_none {c : Catalog} {users : List String} :
    Stmt.missingUser c users = none ↔ ∀ u ∈ users, fold u ∈ c.users := by
  simp [Stmt.missingUser, List.find?_eq_none]

theorem hasGroup_eq_false {c : Catalog} {name : String} :
    c.hasGroup name = false ↔ ∀ r ∈ c.groups, r.groname ≠ name := by
  simp [hasGroup]

theorem groupHoldsPrivilege_eq_false {c : Catalog} {name : String} :
    c.groupHoldsPrivilege name = false ↔
      (∀ gr ∈ c.grants, gr.grantee ≠ .group name) ∧ ∀ d ∈ c.defaultAcl, d.grantee ≠ .group name := by
  simp [groupHoldsPrivilege]

theorem hasGroup_of_mem {c : Catalog} {r : GroupRow} (hr : r ∈ c.groups) :
    c.hasGroup r.groname = true :=
  List.any_eq_true.mpr ⟨r, hr, decide_eq_true rfl⟩

theorem isMember_of_mem {c : Catalog} {r : GroupRow} (hr : r ∈ c.groups) {u : String}
    (hu : u ∈ r.grolist) : c.isMember r.groname u = true :=
  List.any_eq_true.mpr ⟨r, hr, by simp [hu]⟩

theorem hasGroup_of_isMember {c : Catalog} {group u : String} (h : c.isMember group u = true) :
    c.hasGroup group = true := by
  obtain ⟨r, hr, h⟩ := List.any_eq_true.mp h
  exact List.any_eq_true.mpr ⟨r, hr, (Bool.and_eq_true _ _ ▸ h).1⟩

theorem Stmt.exec_eq_ok {c c' : Catalog} {s : Stmt} :
    s.exec c = .ok c' ↔ s.check c = none ∧ c' = s.apply c := by
  unfold Stmt.exec
  cases s.check c <;> simp [eq_comm]

/-- A run of statements that succeeds leaves what their effects make of the catalog. -/
theorem execAll_eq_ok {stmts : List Stmt} {c c' : Catalog} (h : execAll stmts c = .ok c') :
    c' = applyAll stmts c := by
  induction stmts generalizing c with
  | nil => exact (Except.ok.inj h).symm
  | cons s rest ih =>
    obtain ⟨c₁, h₁, h₂⟩ := Except.bind_eq_ok.mp h
    obtain ⟨-, rfl⟩ := Stmt.exec_eq_ok.mp h₁
    exact ih h₂

namespace Catalog.WF

variable {c : Catalog}

theorem of_eq (h : c.WF) {c' : Catalog} (hg : c'.groups = c.groups) (hu : c'.users = c.users)
    (hn : c'.nextGroupId = c.nextGroupId) : c'.WF := by
  obtain ⟨h1, h2, h3, h4, h5⟩ := h
  exact ⟨hg ▸ h1, hg ▸ h2, hg ▸ hn ▸ h3, hg ▸ h4, hg ▸ hu ▸ h5⟩

theorem mapGroups (h : c.WF) (f : GroupRow → GroupRow) (hname : ∀ r, (f r).groname = r.groname)
    (hid : ∀ r, (f r).grosysid = r.grosysid) (hnodup : ∀ r ∈ c.groups, (f r).grolist.Nodup)
    (hsub : ∀ r ∈ c.groups, ∀ u ∈ (f r).grolist, u ∈ c.users) :
    Catalog.WF { c with groups := c.groups.map f } where
  groname_nodup := by
    rw [List.map_map, show (·.groname) ∘ f = (·.groname) from funext hname]
    exact h.groname_nodup
  grosysid_nodup := by
    rw [List.map_map, show (·.grosysid) ∘ f = (·.grosysid) from funext hid]
    exact h.grosysid_nodup
  grosysid_lt := List.forall_mem_map.mpr fun r hr => (hid r).symm ▸ h.grosysid_lt r hr
  grolist_nodup := List.forall_mem_map.mpr hnodup
  grolist_subset := List.forall_mem_map.mpr hsub

theorem filterGroups (h : c.WF) (p : GroupRow → Bool) :
    Catalog.WF { c with groups := c.groups.filter p } where
  groname_nodup := h.groname_nodup.sublist ((List.filter_sublist _).map _)
  grosysid_nodup := h.grosysid_nodup.sublist ((List.filter_sublist _).map _)
  grosysid_lt r hr := h.grosysid_lt r (List.mem_of_mem_filter hr)
  grolist_nodup r hr := h.grolist_nodup r (List.mem_of_mem_filter hr)
  grolist_subset r hr := h.grolist_subset r (List.mem_of_mem_filter hr)

theorem createGroup (h : c.WF) {name : String} {users : List String}
    (hname : c.hasGroup (fold name) = false) (husers : ∀ u ∈ users, fold u ∈ c.users) :
    ((Stmt.createGroup name users).apply c).WF where
  groname_nodup := by
    rw [Stmt.apply, List.map_append, List.nodup_append]
    refine ⟨h.groname_nodup, List.nodup_singleton _, fun n hn hn' => ?_⟩
    obtain ⟨r, hr, rfl⟩ := List.mem_map.mp hn
    exact hasGroup_eq_false.mp hname r hr (List.mem_singleton.mp hn')
  grosysid_nodup := by
    rw [Stmt.apply, List.map_append, List.nodup_append]
    refine ⟨h.grosysid_nodup, List.nodup_singleton _, fun n hn hn' => ?_⟩
    obtain ⟨r, hr, rfl⟩ := List.mem_map.mp hn
    exact (h.grosysid_lt r hr).ne (List.mem_singleton.mp hn')
  grosysid_lt r hr := by
    simp only [Stmt.apply, List.mem_append, List.mem_singleton] at hr ⊢
    rcases hr with hr | rfl
    · exact Nat.lt_succ_of_lt (h.grosysid_lt r hr)
    · exact Nat.lt_succ_self _
  grolist_nodup r hr := by
    simp only [Stmt.apply, List.mem_append, List.mem_singleton] at hr
    rcases hr with hr | rfl
    · exact h.grolist_nodup r hr
    · exact nodup_addMembers List.nodup_nil
  grolist_subset r hr u hu := by
    simp only [Stmt.apply, List.mem_append, List.mem_singleton] at hr
    rcases hr with hr | rfl
    · exact h.grolist_subset r hr u hu
    · obtain ⟨v, hv, rfl⟩ := List.mem_map.mp ((mem_addMembers.mp hu).resolve_left (by simp))
      exact husers v hv

theorem alterGroupRename (h : c.WF) {group newName : String}
    (hnew : c.hasGroup (fold newName) = false) :
    ((Stmt.alterGroupRename group newName).apply c).WF where
  groname_nodup := by
    have hnot : ∀ n ∈ c.groups.map (·.groname), n ≠ fold newName := by
      simpa using hasGroup_eq_false.mp hnew
    have hcomp : (fun r : GroupRow => r.groname) ∘ (fun r => if r.groname = fold group then
          { r with groname := fold newName } else r) =
        (fun n => if n = fold group then fold newName else n) ∘ fun r : GroupRow => r.groname :=
      funext fun r => by simp only [Function.comp_apply]; split_ifs <;> rfl
    simp only [Stmt.apply, List.map_map]
    rw [hcomp, ← List.map_map]
    refine h.groname_nodup.map_on fun n hn n' hn' heq => ?_
    split_ifs at heq with h1 h2 h2
    · rw [h1, h2]
    · exact absurd heq.symm (hnot n' hn')
    · exact absurd heq (hnot n hn)
    · exact heq
  grosysid_nodup := by
    simpa [Stmt.apply, Function.comp_def, apply_ite] using h.grosysid_nodup
  grosysid_lt r hr := by
    simp only [Stmt.apply, List.mem_map] at hr
    obtain ⟨r₀, hr₀, rfl⟩ := hr
    split_ifs <;> exact h.grosysid_lt r₀ hr₀
  grolist_nodup r hr := by
    simp only [Stmt.apply, List.mem_map] at hr
    obtain ⟨r₀, hr₀, rfl⟩ := hr
    split_ifs <;> exact h.grolist_nodup r₀ hr₀
  grolist_subset r hr := by
    simp only [Stmt.apply, List.mem_map] at hr
    obtain ⟨r₀, hr₀, rfl⟩ := hr
    split_ifs <;> exact h.grolist_subset r₀ hr₀

/-- Every statement that succeeds keeps the invariant. -/
theorem apply (h : c.WF) {s : Stmt} (hc : s.check c = none) : (s.apply c).WF := by
  cases s with
  | createGroup name users =>
    simp only [Stmt.check] at hc
    split_ifs at hc with h0 h1
    exact h.createGroup (by simpa using h1) (missingUser_eq_none.mp hc)
  | alterGroupAddUser group users =>
    simp only [Stmt.check] at hc
    split_ifs at hc
    have husers := missingUser_eq_none.mp hc
    refine h.mapGroups _ (fun r => by split_ifs <;> rfl) (fun r => by split_ifs <;> rfl)
      (fun r hr => ?_) (fun r hr u hu => ?_)
    · split_ifs
      · exact nodup_addMembers (h.grolist_nodup r hr)
      · exact h.grolist_nodup r hr
    · split_ifs at hu
      · rcases mem_addMembers.mp hu with hu | hu
        · exact h.grolist_subset r hr u hu
        · obtain ⟨v, hv, rfl⟩ := List.mem_map.mp hu
          exact husers v hv
      · exact h.grolist_subset r hr u hu
  | alterGroupDropUser group users =>
    refine h.mapGroups _ (fun r => by split_ifs <;> rfl) (fun r => by split_ifs <;> rfl)
      (fun r hr => ?_) (fun r hr u hu => ?_)
    · split_ifs
      · exact (h.grolist_nodup r hr).filter _
      · exact h.grolist_nodup r hr
    · split_ifs at hu
      · exact h.grolist_subset r hr u (List.mem_of_mem_filter hu)
      · exact h.grolist_subset r hr u hu
  | alterGroupRename group newName =>
    simp only [Stmt.check] at hc
    split_ifs at hc with h0 h1 h2
    exact h.alterGroupRename (by simpa using h2)
  | dropGroup name => exact h.filterGroups _
  | revokeAllOnAllTablesInSchema schema group => exact h.of_eq rfl rfl rfl
  | alterDefaultPrivileges owner schema action objectTypes grantee =>
    simp only [Stmt.apply]
    split <;> exact h.of_eq rfl rfl rfl

theorem of_exec (h : c.WF) {s : Stmt} {c' : Catalog} (hs : s.exec c = .ok c') : c'.WF := by
  obtain ⟨hc, rfl⟩ := Stmt.exec_eq_ok.mp hs
  exact h.apply hc

end Catalog.WF
