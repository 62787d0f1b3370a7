import RedshiftProvider.Go.Strings
import RedshiftProvider.Sql.Lexer

/-!
The lexer reads back what the quoting functions of `lib/pq` write. A quoted identifier is
read as the name cut at its first NUL, a quoted literal as the literal itself; in both cases
the text after the closing quote is left to the lexer untouched, as long as it does not start
with the same quote character.
-/

namespace Sql

/-- How a character of an identifier is written between double quotes. -/
def escapeIdentChar (c : Char) : List Char :=
  if c = '"' then ['"', '"'] else [c]

/-- How a character of a string constant is written between single quotes. -/
def escapeStringChar (c : Char) : List Char :=
  if c = '\'' then ['\'', '\''] else if c = '\\' then ['\\', '\\'] else [c]

/-- The text `pq.QuoteIdentifier` keeps of a name: everything before the first NUL. -/
def identText (name : String) : List Char :=
  name.data.takeWhile (· ≠ '\x00')

theorem lexIdentBody_escape (t : List Char) {post : List Char} (hpost : post.head? ≠ some '"') :
    lexIdentBody (t.flatMap escapeIdentChar ++ '"' :: post) = some (t, post) := by
  induction t with
  | nil => exact lexIdentBody_quote hpost
  | cons c t ih =>
    by_cases hc : c = '"'
    · subst hc
      simp [escapeIdentChar, ih]
    · simp [escapeIdentChar, hc, lexIdentBody_cons hc, ih]

theorem lexStringBody_escape (t : List Char) {post : List Char} (hpost : post.head? ≠ some '\'') :
    lexStringBody (t.flatMap escapeStringChar ++ '\'' :: post) = some (t, post) := by
  induction t with
  | nil => exact lexStringBody_quote hpost
  | cons c t ih =>
    by_cases hq : c = '\''
    · subst hq
      simp [escapeStringChar, ih]
    · by_cases hb : c = '\\'
      · subst hb
        simp [escapeStringChar, ih]
      · simp [escapeStringChar, hq, hb, lexStringBody_cons hq hb, ih]

theorem quoteIdentifier_toList (name : String) :
    (pq.quoteIdentifier name).data = '"' :: (identText name).flatMap escapeIdentChar ++ ['"'] := by
  simp [pq.quoteIdentifier, identText, escapeIdentChar]
  rfl

theorem escapeStringChar_eq_flatMap (c : Char) :
    ((if c = '\'' then ['\'', '\''] else [c]).flatMap fun c => if c = '\\' then ['\\', '\\'] else [c]) =
      escapeStringChar c := by
  by_cases h : c = '\'' <;> simp [escapeStringChar, h]

theorem quoteLiteral_toList (literal : String) :
    (pq.quoteLiteral literal).data = '\'' :: literal.data.flatMap escapeStringChar ++ ['\''] ∨
      (pq.quoteLiteral literal).data =
        ' ' :: 'E' :: '\'' :: literal.data.flatMap escapeStringChar ++ ['\''] := by
  unfold pq.quoteLiteral
  dsimp only
  split_ifs with h
  · right
    simp only [String.data_append, strings.data_replaceAll, List.flatMap_assoc,
      escapeStringChar_eq_flatMap]
    rfl
  · left
    have hb : ∀ c ∈ literal.data, c ≠ '\\' := by
      rintro c hc rfl
      exact h (List.mem_flatMap.mpr ⟨_, hc, by simp⟩)
    simp only [String.data_append, strings.data_replaceAll]
    rw [List.flatMap_congr (g := escapeStringChar) fun c hc => by simp [escapeStringChar, hb c hc]]
    rfl

theorem tokenize_quoteIdentifier {name : String} {post : List Char} (hname : identText name ≠ [])
    (hpost : post.head? ≠ some '"') :
    tokenize ((pq.quoteIdentifier name).data ++ post) =
      (tokenize post).map (.ident ⟨identText name⟩ :: ·) := by
  obtain ⟨c, t, ht⟩ := List.exists_cons_of_ne_nil hname
  have hlex := lexIdentBody_escape (identText name) hpost
  rw [ht] at hlex ⊢
  simp only [quoteIdentifier_toList, ht, List.cons_append, List.append_assoc, List.singleton_append, List.nil_append]
  rw [tokenize_token (t := .ident ⟨c :: t⟩) (r := post) (by decide) (by simp only [lexToken, if_true, hlex])]

theorem tokenize_quoteIdentifier_empty {name : String} {post : List Char}
    (hname : identText name = []) (hpost : post.head? ≠ some '"') :
    tokenize ((pq.quoteIdentifier name).data ++ post) = none := by
  have hlex := lexIdentBody_escape [] hpost
  simp only [quoteIdentifier_toList, hname, List.flatMap_nil, List.nil_append, List.cons_append,
    List.singleton_append] at hlex ⊢
  rw [tokenize_error (by decide) (by simp [lexToken, hlex])]

theorem tokenize_quoteLiteral (literal : String) {post : List Char}
    (hpost : post.head? ≠ some '\'') :
    tokenize ((pq.quoteLiteral literal).data ++ post) = (tokenize post).map (.literal literal :: ·) := by
  have hlex := lexStringBody_escape literal.data hpost
  rcases quoteLiteral_toList literal with h | h
  · simp only [h, List.cons_append, List.append_assoc, List.singleton_append, List.nil_append]
    rw [tokenize_token (t := .literal literal) (r := post) (by decide) (by simp [lexToken, hlex])]
  · simp only [h, List.cons_append, List.append_assoc, List.singleton_append, List.nil_append]
    rw [tokenize_blank (by decide),
      tokenize_token (t := .literal literal) (r := post) (by decide) (by simp [lexToken, hlex])]

end Sql
