import RedshiftProvider.Impl.Helpers
import RedshiftProvider.Sql.Quote

/-!
What the shared helpers do on every input: the retry wrapper on every sequence of results of
the wrapped function, `pqQuoteLiteral` under the lexer, and where
`stripArgumentsFromCallablesDefinitions` puts the names it strips.
-/

section retry

variable (results : Nat → Option GoError)

/--
The loop either runs out of iterations after retryable errors only, and then returns `nil`, or
it returns the result of its last call, which is `nil` or an error it does not retry. It only
calls the function again after a retryable error.
-/
theorem retryLoop_spec (n i : Nat) :
    (retryLoop results n i).2 ≤ i + n ∧
    (∀ j, i ≤ j → j + 1 < (retryLoop results n i).2 → (results j).any GoError.isRetryable) ∧
    (((retryLoop results n i).1 = none ∧ (retryLoop results n i).2 = i + n ∧
        ∀ j, i ≤ j → j < i + n → (results j).any GoError.isRetryable) ∨
      (i < (retryLoop results n i).2 ∧
        (retryLoop results n i).1 = results ((retryLoop results n i).2 - 1) ∧
        (retryLoop results n i).1.any GoError.isRetryable = false)) := by
  induction n generalizing i with
  | zero =>
    refine ⟨by simp [retryLoop], fun j h1 h2 => ?_, .inl ⟨rfl, rfl, fun j h1 h2 => by omega⟩⟩
    simp only [retryLoop] at h2
    omega
  | succ n ih =>
    rw [retryLoop]
    match hi : results i with
    | none =>
      simp only [hi]
      exact ⟨by omega, fun j h1 h2 => by omega, .inr ⟨by omega, hi.symm, rfl⟩⟩
    | some err =>
      by_cases hr : err.isRetryable
      · obtain ⟨hle, hretry, hend⟩ := ih (i + 1)
        simp only [hr, if_true]
        refine ⟨by omega, fun j hj hlt => ?_, ?_⟩
        · rcases Nat.eq_or_lt_of_le hj with rfl | hj
          · simp [hi, hr]
          · exact hretry j hj hlt
        · rcases hend with ⟨h1, h2, h3⟩ | ⟨h1, h2, h3⟩
          · refine .inl ⟨h1, by omega, fun j hj hlt => ?_⟩
            rcases Nat.eq_or_lt_of_le hj with rfl | hj
            · simp [hi, hr]
            · exact h3 j hj (by omega)
          · exact .inr ⟨by omega, h2, h3⟩
      · simp only [hr, Bool.false_eq_true, if_false]
        exact ⟨by omega, fun j h1 h2 => by omega, .inr ⟨by omega, hi.symm, by simpa using hr⟩⟩

end retry

/-- `ResourceRetryOnPQErrors` reports success after ten retryable errors in a row. -/
theorem resourceRetryOnPQErrors_deadlocks :
    resourceRetryOnPQErrors (fun _ => some (.pq pqErrorCodeDeadlock "deadlock detected")) =
      (none, 10) := by
  decide

theorem pqQuoteLiteral_data (s : String) :
    (pqQuoteLiteral s).data = s.data.flatMap Sql.escapeStringChar := by
  simp only [pqQuoteLiteral, strings.data_replaceAll, List.flatMap_assoc]
  congr
  funext c
  by_cases hq : c = '\'' <;> by_cases hb : c = '\\' <;> simp_all [Sql.escapeStringChar]

/--
A string constant written with `pqQuoteLiteral` is read back as the string, and the text after
its closing quote is left to the lexer, unless that text starts with a quote.
-/
theorem lexStringLiteral_pqQuoteLiteral (s t : String) (ht : t.data.head? ≠ some '\'') :
    Sql.lexStringLiteral ("'" ++ pqQuoteLiteral s ++ "'" ++ t).data = some (s, t.data) := by
  simp only [String.data_append, pqQuoteLiteral_data, List.append_assoc]
  simp [Sql.lexStringLiteral, Sql.lexStringBody_escape _ ht]

theorem lexStringLiteral_pqQuoteLiteral_example :
    " x".data.head? ≠ some '\'' ∧
      Sql.lexStringLiteral ("'" ++ pqQuoteLiteral "it's a \\ slash" ++ "'" ++ " x").data =
        some ("it's a \\ slash", " x".data) :=
  ⟨by decide, lexStringLiteral_pqQuoteLiteral "it's a \\ slash" " x" (by decide)⟩

/-- A quote right after the closing quote makes the lexer read the two as one quote. -/
theorem lexStringLiteral_pqQuoteLiteral_quote_after :
    Sql.lexStringLiteral ("'" ++ pqQuoteLiteral "" ++ "'" ++ "'").data ≠ some ("", "'".data) := by
  decide

section callables

theorem length_stripArgumentsFromCallablesDefinitions (defs : List String) :
    (stripArgumentsFromCallablesDefinitions defs).length = 2 * defs.length := by
  simp [stripArgumentsFromCallablesDefinitions]
  omega

theorem getElem?_stripArgumentsFromCallablesDefinitions_of_lt {defs : List String} {i : Nat}
    (h : i < defs.length) : (stripArgumentsFromCallablesDefinitions defs)[i]? = some "" := by
  rw [stripArgumentsFromCallablesDefinitions, List.getElem?_append_left (by simpa using h),
    List.getElem?_replicate_of_lt h]

theorem getElem?_stripArgumentsFromCallablesDefinitions_add (defs : List String) (i : Nat) :
    (stripArgumentsFromCallablesDefinitions defs)[defs.length + i]? =
      defs[i]?.map fun def_ => ⟨def_.data.takeWhile (· ≠ '(')⟩ := by
  rw [stripArgumentsFromCallablesDefinitions, List.getElem?_append_right (by simp),
    List.length_replicate, Nat.add_sub_cancel_left, List.getElem?_map]

/-- A single function `f(int)` is stripped to an empty name and `f`. -/
theorem stripArgumentsFromCallablesDefinitions_single :
    stripArgumentsFromCallablesDefinitions ["f(int)"] = ["", "f"] := by
  decide

end callables
