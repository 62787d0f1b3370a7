import RedshiftProvider.Go.Strings

/-!
Go `error` values as the provider builds and inspects them: the `*pq.Error` the database
driver returns, carrying a SQLSTATE code, and the errors `fmt.Errorf` builds around them.
`errors.As` looks for a `*pq.Error` along the chain of errors wrapped with `%w`.
-/

/-- A Go `error`. -/
inductive GoError where
  /-- A `*pq.Error` from the driver, with its SQLSTATE code and message. -/
  | pq (code : String) (message : String)
  /-- An error of `fmt.Errorf` with no `%w` verb. -/
  | errorf (text : String)
  /-- An error of `fmt.Errorf` whose format ends in `%w`: its text before the verb, and the
  error the verb wraps. -/
  | wrapf (text : String) (wrapped : GoError)
  deriving DecidableEq, Repr

/-- Results of the handlers can be compared, so that they can be evaluated in a proof. -/
instance decEqExcept {ε α : Type} [DecidableEq ε] [DecidableEq α] : DecidableEq (Except ε α)
  | .error a, .error b => if h : a = b then isTrue (h ▸ rfl) else isFalse fun e => h (Except.error.inj e)
  | .ok a, .ok b => if h : a = b then isTrue (h ▸ rfl) else isFalse fun e => h (Except.ok.inj e)
  | .error _, .ok _ => isFalse Except.noConfusion
  | .ok _, .error _ => isFalse Except.noConfusion

namespace Except

variable {ε α β : Type}

@[simp] theorem throw_eq_error (e : ε) : (throw e : Except ε α) = .error e := rfl

@[simp] theorem pure_eq_ok (a : α) : (pure a : Except ε α) = .ok a := rfl

@[simp] theorem ok_bind (a : α) (f : α → Except ε β) : (Except.ok a >>= f) = f a := rfl

@[simp] theorem error_bind (e : ε) (f : α → Except ε β) : (Except.error e >>= f) = .error e := rfl

theorem bind_eq_ok {x : Except ε α} {f : α → Except ε β} {b : β} :
    x >>= f = .ok b ↔ ∃ a, x = .ok a ∧ f a = .ok b := by
  cases x <;> simp

theorem map_eq_ok {x : Except ε α} {f : α → β} {b : β} :
    x.map f = .ok b ↔ ∃ a, x = .ok a ∧ f a = b := by
  cases x <;> simp [Except.map]

theorem mapError_eq_ok {x : Except ε α} {f : ε → ε} {a : α} : x.mapError f = .ok a ↔ x = .ok a := by
  cases x <;> simp [Except.mapError]

@[simp] theorem mapError_ok (f : ε → ε) (a : α) : (Except.ok a).mapError f = .ok a := rfl

@[simp] theorem mapError_error (f : ε → ε) (e : ε) :
    (Except.error e : Except ε α).mapError f = .error (f e) := rfl

end Except

namespace GoError

/-- `errors.As(err, &pqErr)`: the code of the first `*pq.Error` in the chain of wrapped errors. -/
def asPq : GoError → Option String
  | .pq code _ => some code
  | .errorf _ => none
  | .wrapf _ err => err.asPq

def error : GoError → String
  | .pq _ message => "pq: " ++ message
  | .errorf text => text
  | .wrapf text err => text ++ err.error

@[simp] theorem asPq_wrapf (text : String) (err : GoError) : (wrapf text err).asPq = err.asPq :=
  rfl

@[simp] theorem asPq_errorf (text : String) : (errorf text).asPq = none := rfl

end GoError

namespace fmt

/--
The `%q` verb on a string: the text between double quotes, a backslash before every `"` and
every backslash.
-/
def quote (s : String) : String :=
  "\"" ++ ⟨s.data.flatMap fun c => if c = '"' ∨ c = '\\' then ['\\', c] else [c]⟩ ++ "\""

/-- The `%v` and `%+v` verbs on a `[]string`. -/
def list (elems : List String) : String :=
  "[" ++ strings.join elems " " ++ "]"

end fmt

namespace sql

/-- `sql.ErrNoRows`, which `Scan` returns for a query without rows. -/
def errNoRows : GoError :=
  .errorf "sql: no rows in result set"

end sql
