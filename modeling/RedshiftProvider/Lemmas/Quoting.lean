import RedshiftProvider.Impl.GroupMembership
import RedshiftProvider.Impl.Helpers

/-!
The lexer reads the lists that `buildUserStringArray` and `setToPgIdentList` write as one quoted
token for each name, separated by commas, so that no name can end the list early. A name that
is empty up to its first NUL quotes to `""`, which the lexer rejects.
-/

section cases

variable [unicode.CaseRanges]

theorem unicode.toLower_ne_nul {r : Char} (h : r ≠ '\x00') : unicode.toLower r ≠ '\x00' := by
  unfold unicode.toLower
  split_ifs with hr
  · exact Char.toLower_ne_nul h
  · exact unicode.CaseRanges.toLower_ne_nul r (Nat.le_of_not_lt hr)

theorem Sql.nul_not_mem_toLower {name : String} (h : '\x00' ∉ name.data) :
    '\x00' ∉ (strings.toLower name).data := by
  simp only [strings.data_toLower, List.mem_map, not_exists, not_and]
  exact fun c hc => unicode.toLower_ne_nul (ne_of_mem_of_not_mem hc h)

end cases

namespace Sql

theorem identText_of_nul_not_mem {name : String} (h : '\x00' ∉ name.data) :
    identText name = name.data :=
  List.takeWhile_eq_self_iff.mpr fun c hc => by simpa using ne_of_mem_of_not_mem hc h

theorem tokenize_comma (post : List Char) :
    tokenize (',' :: post) = (tokenize post).map (.punct ',' :: ·) :=
  tokenize_token (by decide) rfl

theorem tokenize_dot (post : List Char) :
    tokenize ('.' :: post) = (tokenize post).map (.punct '.' :: ·) :=
  tokenize_token (by decide) rfl

theorem tokenize_join {α : Type} (f : α → String) (toks : α → List Token) (sep : String)
    (hsep : ∀ post, tokenize (sep.data ++ post) = (tokenize post).map (.punct ',' :: ·))
    (hsepHead : sep.data.head? = some ',') (xs : List α)
    (hf : ∀ x ∈ xs, ∀ post : List Char, post.head? ≠ some '"' → post.head? ≠ some '\'' →
      tokenize ((f x).data ++ post) = (tokenize post).map (toks x ++ ·)) :
    tokenize (strings.join (xs.map f) sep).data = some ([Token.punct ','].intercalate (xs.map toks)) := by
  induction xs with
  | nil => simp [List.intercalate]
  | cons x xs ih =>
    cases xs with
    | nil => simpa [List.intercalate] using hf x (.head _) [] (by simp) (by simp)
    | cons y rest =>
      have hhead : (sep.data ++ (strings.join ((y :: rest).map f) sep).data).head? = some ',' := by
        cases h : sep.data <;> simp_all
      rw [List.map_cons, List.map_cons, strings.join_cons_cons, ← List.map_cons,
        String.data_append, String.data_append, List.append_assoc,
        hf x (.head _) _ (by rw [hhead]; decide) (by rw [hhead]; decide), hsep,
        ih fun z hz => hf z (.tail _ hz)]
      simp [List.intercalate]

theorem tokenize_quoteIdentifier_of_nul_not_mem {name : String} {post : List Char}
    (hnul : '\x00' ∉ name.data) (hne : name ≠ "") (hpost : post.head? ≠ some '"') :
    tokenize ((pq.quoteIdentifier name).data ++ post) = (tokenize post).map (.ident name :: ·) := by
  have htext := identText_of_nul_not_mem hnul
  rw [tokenize_quoteIdentifier (by rw [htext]; exact fun h => hne (String.ext h)) hpost, htext]

theorem tokenize_comma_space (post : List Char) :
    tokenize ((", " : String).data ++ post) = (tokenize post).map (.punct ',' :: ·) := by
  rw [show (", " : String).data ++ post = ',' :: ' ' :: post from rfl, tokenize_comma,
    tokenize_blank (by decide)]

end Sql

open Sql

section cases

/-- An empty name is quoted as `""`, which the lexer rejects. -/
theorem tokenize_buildUserStringArray_emptyName :
    tokenize (buildUserStringArray [""] false).data = none := by
  simpa [buildUserStringArray] using
    @tokenize_quoteIdentifier_empty (strings.toLower "") [] rfl (by simp)

variable [unicode.CaseRanges]

/--
The lexer reads the list `buildUserStringArray` writes as one token for each name, lower-cased,
separated by commas: string constants for `encodeAsLiteral`, quoted identifiers otherwise, for
which no name may be empty. `setToPgIdentList` is read as one identifier for each name,
qualified by `prefix_` when it is not empty.
-/
theorem tokenize_quotedNameLists (userNames : List String) (encodeAsLiteral : Bool)
    (identifiers : List String) (prefix_ : String)
    (hnul : ∀ n ∈ userNames, '\x00' ∉ n.data)
    (hne : encodeAsLiteral = false → ∀ n ∈ userNames, n ≠ "")
    (hident : ∀ i ∈ identifiers, '\x00' ∉ i.data ∧ i ≠ "") (hpre : '\x00' ∉ prefix_.data) :
    tokenize (buildUserStringArray userNames encodeAsLiteral).data =
        some ([Token.punct ','].intercalate (userNames.map fun n =>
          [if encodeAsLiteral then .literal (strings.toLower n) else .ident (strings.toLower n)])) ∧
      tokenize (setToPgIdentList identifiers prefix_).data =
        some ([Token.punct ','].intercalate (identifiers.map fun i =>
          if prefix_ = "" then [.ident i] else [.ident prefix_, .punct '.', .ident i])) := by
  constructor
  · refine tokenize_join _ _ _ tokenize_comma_space rfl _ fun n hn post hq hq' => ?_
    cases encodeAsLiteral with
    | true => simpa using tokenize_quoteLiteral (strings.toLower n) hq'
    | false =>
      have hlow : strings.toLower n ≠ "" := fun h =>
        hne rfl n hn (String.ext (List.map_eq_nil_iff.mp (congrArg String.data h)))
      simpa using tokenize_quoteIdentifier_of_nul_not_mem (nul_not_mem_toLower (hnul n hn)) hlow hq
  · refine tokenize_join _ _ "," tokenize_comma rfl _ fun i hi post hq _ => ?_
    obtain ⟨hinul, hine⟩ := hident i hi
    split_ifs with hp
    · simpa using tokenize_quoteIdentifier_of_nul_not_mem hinul hine hq
    · simp only [String.data_append, List.append_assoc]
      rw [tokenize_quoteIdentifier_of_nul_not_mem hpre hp (by simp)]
      simp [tokenize_dot, tokenize_quoteIdentifier_of_nul_not_mem hinul hine hq, Function.comp_def]

end cases

theorem tokenize_quotedNameLists_example :
    tokenize (buildUserStringArray ["Alice", "bob"] true).data =
        some [.literal "alice", .punct ',', .literal "bob"] ∧
      tokenize (setToPgIdentList ["t"] "s").data = some [.ident "s", .punct '.', .ident "t"] :=
  tokenize_quotedNameLists ["Alice", "bob"] true ["t"] "s" (by decide) (by decide) (by decide)
    (by decide)
