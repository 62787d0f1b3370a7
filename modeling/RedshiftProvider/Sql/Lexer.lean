import Mathlib.Data.List.Basic

/-!
A model of the part of the Redshift SQL lexer that reads the statements the provider builds:
blanks, words, single punctuation characters, quoted identifiers and string constants.

A quoted identifier `"..."` stands for its text, a doubled `"` inside it for one `"`; it must
not be empty. A string constant `'...'` or `E'...'` stands for its value, a doubled `'` inside
it for one `'`, and a backslash for the character after it. Each reader takes the input after
the opening quote and returns the decoded text together with the input after the closing quote.
-/

namespace Sql

/-- A token of the SQL text. -/
inductive Token where
  /-- A quoted identifier, by its decoded text. -/
  | ident (name : String)
  /-- A string constant, by its decoded value. -/
  | literal (value : String)
  /-- A keyword, a number or a name without quotes. -/
  | word (text : String)
  /-- Any other single character: `,` `.` `(` `)` `;` and the operators. -/
  | punct (c : Char)
  deriving DecidableEq, Repr

/-- Reads the text of a quoted identifier, after its opening `"`. -/
def lexIdentBody : List Char → Option (List Char × List Char)
  | [] => none
  | c :: rest =>
    if c = '"' then
      match rest with
      | '"' :: rest' => (lexIdentBody rest').map (Prod.map ('"' :: ·) id)
      | _ => some ([], rest)
    else
      (lexIdentBody rest).map (Prod.map (c :: ·) id)

/-- Reads the value of a string constant, after its opening `'`. -/
def lexStringBody : List Char → Option (List Char × List Char)
  | [] => none
  | c :: rest =>
    if c = '\'' then
      match rest with
      | '\'' :: rest' => (lexStringBody rest').map (Prod.map ('\'' :: ·) id)
      | _ => some ([], rest)
    else if c = '\\' then
      match rest with
      | d :: rest' => (lexStringBody rest').map (Prod.map (d :: ·) id)
      | [] => none
    else
      (lexStringBody rest).map (Prod.map (c :: ·) id)

/-- Reads a string constant `'...'` from its opening quote on. -/
def lexStringLiteral : List Char → Option (String × List Char)
  | '\'' :: rest => (lexStringBody rest).map (Prod.map String.mk id)
  | _ => none

/-- The characters of a keyword, a number or a name without quotes. -/
def isWordChar (c : Char) : Bool :=
  c.isAlphanum || c = '_' || c = '$' || 128 ≤ c.toNat

/-- Reads one token that starts at the first character of the input. -/
def lexToken : List Char → Option (Token × List Char)
  | [] => none
  | c :: rest =>
    if c = '"' then
      match lexIdentBody rest with
      | some (v@(_ :: _), r) => some (.ident ⟨v⟩, r)
      | _ => none
    else if c = '\'' then
      (lexStringBody rest).map (Prod.map (.literal ⟨·⟩) id)
    else if (c = 'E' ∨ c = 'e') ∧ rest.head? = some '\'' then
      (lexStringBody rest.tail).map (Prod.map (.literal ⟨·⟩) id)
    else if isWordChar c then
      some (.word ⟨c :: rest.takeWhile isWordChar⟩, rest.dropWhile isWordChar)
    else
      some (.punct c, rest)

section lemmas

variable {c : Char} {rest : List Char}

@[simp] theorem lexIdentBody_nil : lexIdentBody [] = none := rfl

@[simp] theorem lexIdentBody_quote_quote :
    lexIdentBody ('"' :: '"' :: rest) = (lexIdentBody rest).map (Prod.map ('"' :: ·) id) := by
  simp [lexIdentBody]

theorem lexIdentBody_quote (h : rest.head? ≠ some '"') :
    lexIdentBody ('"' :: rest) = some ([], rest) := by
  match rest, h with
  | [], _ => rfl
  | d :: rest, h => simp_all [lexIdentBody]

theorem lexIdentBody_cons (h : c ≠ '"') :
    lexIdentBody (c :: rest) = (lexIdentBody rest).map (Prod.map (c :: ·) id) := by
  rw [lexIdentBody.eq_def]
  simp [h]

@[simp] theorem lexStringBody_nil : lexStringBody [] = none := rfl

@[simp] theorem lexStringBody_quote_quote :
    lexStringBody ('\'' :: '\'' :: rest) = (lexStringBody rest).map (Prod.map ('\'' :: ·) id) := by
  simp [lexStringBody]

theorem lexStringBody_quote (h : rest.head? ≠ some '\'') :
    lexStringBody ('\'' :: rest) = some ([], rest) := by
  match rest, h with
  | [], _ => rfl
  | d :: rest, h => simp_all [lexStringBody]

@[simp] theorem lexStringBody_backslash :
    lexStringBody ('\\' :: c :: rest) = (lexStringBody rest).map (Prod.map (c :: ·) id) := by
  rw [lexStringBody.eq_def]
  simp

theorem lexStringBody_cons (h : c ≠ '\'') (h' : c ≠ '\\') :
    lexStringBody (c :: rest) = (lexStringBody rest).map (Prod.map (c :: ·) id) := by
  rw [lexStringBody.eq_def]
  simp [h, h']

theorem exists_of_map_eq_some {α β γ : Type} {f : α → β} {x : Option (α × γ)} {v : β} {r : γ}
    (h : x.map (Prod.map f id) = some (v, r)) : ∃ v', x = some (v', r) := by
  obtain ⟨⟨v', r'⟩, hx, he⟩ := Option.map_eq_some'.mp h
  simp only [Prod.map, id, Prod.mk.injEq] at he
  exact ⟨v', by rw [hx, he.2]⟩

theorem lexIdentBody_length {cs v r : List Char} (h : lexIdentBody cs = some (v, r)) :
    r.length < cs.length := by
  induction cs using lexIdentBody.induct generalizing v r with
  | case1 => simp at h
  | case2 rest ih =>
    obtain ⟨v', h'⟩ := exists_of_map_eq_some (lexIdentBody_quote_quote ▸ h)
    have := ih h'
    simp only [List.length_cons]
    omega
  | case3 rest hrest =>
    rw [lexIdentBody_quote (by cases rest <;> simp_all)] at h
    cases h
    simp
  | case4 c rest hc ih =>
    obtain ⟨v', h'⟩ := exists_of_map_eq_some (lexIdentBody_cons hc ▸ h)
    have := ih h'
    simp only [List.length_cons]
    omega

theorem lexStringBody_length {cs v r : List Char} (h : lexStringBody cs = some (v, r)) :
    r.length < cs.length := by
  induction cs using lexStringBody.induct generalizing v r with
  | case1 => simp at h
  | case2 rest ih =>
    obtain ⟨v', h'⟩ := exists_of_map_eq_some (lexStringBody_quote_quote ▸ h)
    have := ih h'
    simp only [List.length_cons]
    omega
  | case3 rest hrest =>
    rw [lexStringBody_quote (by cases rest <;> simp_all)] at h
    cases h
    simp
  | case4 d rest _ ih =>
    obtain ⟨v', h'⟩ := exists_of_map_eq_some (lexStringBody_backslash ▸ h)
    have := ih h'
    simp only [List.length_cons]
    omega
  | case5 => simp [lexStringBody] at h
  | case6 c rest hc hc' ih =>
    obtain ⟨v', h'⟩ := exists_of_map_eq_some (lexStringBody_cons hc hc' ▸ h)
    have := ih h'
    simp only [List.length_cons]
    omega

theorem lexToken_length {cs r : List Char} {t : Token} (h : lexToken cs = some (t, r)) :
    r.length < cs.length := by
  match cs with
  | [] => simp [lexToken] at h
  | c :: rest =>
    simp only [lexToken] at h
    split_ifs at h
    · split at h
      · cases h
        have := lexIdentBody_length ‹_›
        simp only [List.length_cons]
        omega
      · cases h
    · obtain ⟨v', h'⟩ := exists_of_map_eq_some h
      have := lexStringBody_length h'
      simp only [List.length_cons]
      omega
    · obtain ⟨v', h'⟩ := exists_of_map_eq_some h
      have := lexStringBody_length h'
      have : rest.tail.length ≤ rest.length := by simp
      simp only [List.length_cons]
      omega
    · cases h
      have := (rest.dropWhile_suffix isWordChar).length_le
      simp only [List.length_cons]
      omega
    · cases h
      simp

end lemmas

/-- Splits SQL text into its tokens, skipping blanks; `none` when a token is malformed. -/
def tokenize (cs : List Char) : Option (List Token) :=
  match cs with
  | [] => some []
  | c :: rest =>
    if c.isWhitespace then
      tokenize rest
    else
      match h : lexToken (c :: rest) with
      | some (t, r) => (tokenize r).map (t :: ·)
      | none => none
termination_by cs.length
decreasing_by
  · simp_wf
  · simp_wf
    exact lexToken_length h

section tokenize

variable {c : Char} {rest : List Char}

@[simp] theorem tokenize_nil : tokenize [] = some [] := by
  simp [tokenize]

theorem tokenize_blank (h : c.isWhitespace) : tokenize (c :: rest) = tokenize rest := by
  rw [tokenize]
  simp [h]

theorem tokenize_token {t : Token} {r : List Char} (hc : ¬c.isWhitespace)
    (h : lexToken (c :: rest) = some (t, r)) :
    tokenize (c :: rest) = (tokenize r).map (t :: ·) := by
  rw [tokenize, if_neg hc]
  split <;> simp_all

theorem tokenize_error (hc : ¬c.isWhitespace) (h : lexToken (c :: rest) = none) :
    tokenize (c :: rest) = none := by
  rw [tokenize, if_neg hc]
  split <;> simp_all

end tokenize

end Sql
