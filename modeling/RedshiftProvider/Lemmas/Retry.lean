import RedshiftProvider.Catalog.Lemmas
import RedshiftProvider.Impl.DefaultPrivileges
import RedshiftProvider.Impl.Group

/-!
The operations `ResourceRetryOnPQErrors` wraps, retried on a connection that does not roll a
failed attempt back, as the Data API runs a transaction: each failed attempt leaves the
statements it ran before failing. Whatever those attempts left, the final full run ends in the
state one full run from the start ends in.
-/

/-- A failed attempt of an operation: the first `k` of the statements it computes run and stay. -/
def attempt (stmts : Catalog → List Stmt) (c : Catalog) (k : Nat) : Catalog :=
  applyAll ((stmts c).take k) c

/-- A full run after failed attempts, one for each `k` of `ks`, ends where one full run ends. -/
def RetrySafe (stmts : Catalog → List Stmt) : Prop :=
  ∀ (c : Catalog) (ks : List Nat),
    applyAll (stmts (ks.foldl (attempt stmts) c)) (ks.foldl (attempt stmts) c) =
      applyAll (stmts c) c

section

variable {stmts : Catalog → List Stmt}

theorem retrySafe_of_attempt
    (h : ∀ c k, applyAll (stmts (attempt stmts c k)) (attempt stmts c k) = applyAll (stmts c) c) :
    RetrySafe stmts := by
  intro c ks
  induction ks generalizing c with
  | nil => rfl
  | cons k ks ih => rw [List.foldl_cons, ih, h]

theorem retrySafe_of_isEraser (hstmts : ∀ c, ∀ s ∈ stmts c, s.IsEraser)
    (hns : ∀ c c', c.namespaces = c'.namespaces → stmts c = stmts c') :
    RetrySafe stmts := by
  refine retrySafe_of_attempt fun c k => ?_
  rw [hns (attempt stmts c k) c (applyAll_namespaces _ _), attempt,
    applyAll_absorb (hstmts c) fun s hs => List.mem_of_mem_take hs]

end

theorem retrySafe_resourceRedshiftGroupDelete (groupName : String) :
    RetrySafe (groupDeleteStatements · groupName) := by
  refine retrySafe_of_isEraser (fun c s hs => ?_) fun c c' h => by
    simp only [groupDeleteStatements, groupDeleteRevokes, groupDeleteSchemas, h]
  simp only [groupDeleteStatements, groupDeleteRevokes, List.mem_append, List.mem_flatMap,
    List.mem_cons, List.not_mem_nil, or_false] at hs
  rcases hs with ⟨schemaName, -, rfl | rfl⟩ | rfl <;> trivial

section defaultPrivileges

variable [unicode.CaseRanges]

theorem retrySafe_resourceRedshiftDefaultPrivilegesDelete (a : DefaultPrivilegesAttrs) :
    RetrySafe fun _ => [createAlterDefaultsRevokeQuery a] :=
  retrySafe_of_isEraser (fun _ s hs => by simp only [List.mem_singleton] at hs; subst hs; trivial)
    fun _ _ _ => rfl

theorem retrySafe_resourceRedshiftDefaultPrivilegesCreate (a : DefaultPrivilegesAttrs)
    (privileges : List String) :
    RetrySafe fun _ => defaultPrivilegesCreateStatements a privileges := by
  have hidem : ∀ c, (createAlterDefaultsRevokeQuery a).apply
      ((createAlterDefaultsRevokeQuery a).apply c) = (createAlterDefaultsRevokeQuery a).apply c :=
    fun c => Stmt.apply_revokeAll_revokeAll c _ _ _ _
  have hgrant : ∀ c, (createAlterDefaultsRevokeQuery a).apply
      ((createAlterDefaultsGrantQuery a privileges).apply c) =
        (createAlterDefaultsRevokeQuery a).apply c :=
    fun c => Stmt.apply_revokeAll_grant c _ _ _ _ _
  refine retrySafe_of_attempt fun c k => ?_
  simp only [attempt, defaultPrivilegesCreateStatements]
  cases k with
  | zero => rfl
  | succ k =>
    split_ifs
    · cases k with
      | zero => simp [hidem]
      | succ k =>
        simp [hgrant, hidem]
    · simp [hidem]

/--
Each operation `ResourceRetryOnPQErrors` wraps ends, after any failed attempts that kept a prefix
of its statements, in the state a single full run ends in.
-/
theorem retried_operations_retrySafe (a : DefaultPrivilegesAttrs) (groupName : String) :
    RetrySafe (fun _ => defaultPrivilegesCreateStatements a (a.privileges.map strings.toUpper)) ∧
      RetrySafe (fun _ => [createAlterDefaultsRevokeQuery a]) ∧
      RetrySafe (groupDeleteStatements · groupName) :=
  ⟨retrySafe_resourceRedshiftDefaultPrivilegesCreate a _,
    retrySafe_resourceRedshiftDefaultPrivilegesDelete a,
    retrySafe_resourceRedshiftGroupDelete groupName⟩

end defaultPrivileges
