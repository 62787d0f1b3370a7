import RedshiftProvider.Go.Errors

/-!
The helpers shared by the resources: the retry wrapper `ResourceRetryOnPQErrors` and its table
of retryable SQLSTATE codes, the validation table of privilege keywords, and the functions that
write lists of names into SQL text.

The wrapper is modelled on the results its successive calls of the wrapped function return:
`results i` is the error of the `i`-th call, `none` for `nil`. The pause between two calls does
not change what the wrapper returns and is left out.
-/

def pqErrorCodeConcurrent : String := "XX000"
def pqErrorCodeInvalidSchemaName : String := "3F000"
def pqErrorCodeDeadlock : String := "40P01"
def pqErrorCodeFailedTransaction : String := "25P02"

/-- `pqQuoteLiteral`: the text of a string constant, still to be wrapped in single quotes. -/
def pqQuoteLiteral (in_ : String) : String :=
  let in_ := strings.replaceAll in_ '\\' "\\\\"
  strings.replaceAll in_ '\'' "''"

def isRetryablePQError (code : String) : Bool :=
  code ∈ [pqErrorCodeConcurrent, pqErrorCodeInvalidSchemaName, pqErrorCodeDeadlock,
    pqErrorCodeFailedTransaction]

/-- Whether `ResourceRetryOnPQErrors` calls the function again after it returned `err`. -/
def GoError.isRetryable (err : GoError) : Bool :=
  match err.asPq with
  | some code => isRetryablePQError code
  | none => false

/--
The loop of `ResourceRetryOnPQErrors` from its `i`-th iteration on, with `n` iterations left:
the error it returns and the number of calls made.
-/
def retryLoop (results : Nat → Option GoError) : Nat → Nat → Option GoError × Nat
  | 0, i => (none, i)
  | n + 1, i =>
    match results i with
    | none => (none, i + 1)
    | some err => if err.isRetryable then retryLoop results n (i + 1) else (some err, i + 1)

/-- `ResourceRetryOnPQErrors(fn)`, on the results of the successive calls of `fn`. -/
def resourceRetryOnPQErrors (results : Nat → Option GoError) : Option GoError × Nat :=
  retryLoop results 10 0

/-- The privilege keywords `validatePrivileges` accepts for an object type, by its upper case. -/
def allowedPrivileges : String → List String
  | "SCHEMA" => ["CREATE", "USAGE"]
  | "TABLE" => ["SELECT", "UPDATE", "INSERT", "DELETE", "DROP", "REFERENCES", "RULE", "TRIGGER"]
  | "DATABASE" => ["CREATE", "TEMPORARY", "USAGE"]
  | "PROCEDURE" => ["EXECUTE"]
  | "FUNCTION" => ["EXECUTE"]
  | "LANGUAGE" => ["USAGE"]
  | _ => []

def validatePrivileges [unicode.CaseRanges] (privileges : List String) (objectType : String) :
    Bool :=
  if objectType = "language" ∧ privileges.length = 0 then
    false
  else
    privileges.all fun p => strings.toUpper p ∈ allowedPrivileges (strings.toUpper objectType)

def appendIfTrue (condition : Bool) (item : String) (list : List String) : List String :=
  if condition then list ++ [item] else list

/-- `setToPgIdentList`, on the elements `identifiers.List()` enumerates. -/
def setToPgIdentList (identifiers : List String) (prefix_ : String) : String :=
  strings.join (identifiers.map fun identifier =>
    if prefix_ = "" then pq.quoteIdentifier identifier
    else pq.quoteIdentifier prefix_ ++ "." ++ pq.quoteIdentifier identifier) ","

/--
`stripArgumentsFromCallablesDefinitions`, on the elements `defs.List()` enumerates: the slice is
made with `len(defs)` empty names and every name is appended after them.
-/
def stripArgumentsFromCallablesDefinitions (defs : List String) : List String :=
  List.replicate defs.length "" ++ defs.map fun def_ => ⟨def_.data.takeWhile (· ≠ '(')⟩
