import Mathlib.Data.List.Basic

/-!
Models of the Go library functions on strings that the provider uses to assemble SQL text:
`strings.ToLower`, `strings.ToUpper`, `strings.ReplaceAll`, `strings.Join` and the quoting
functions `pq.QuoteIdentifier` and `pq.QuoteLiteral` of `lib/pq`.

Go strings are Lean strings here. `strings.ToLower` and `strings.ToUpper` map every rune by
`unicode.ToLower` and `unicode.ToUpper`, which change the ASCII letters as `Char.toLower` and
`Char.toUpper` do and take the case of every rune above ASCII from the `CaseRanges` table of
Go's `unicode` package. That table is left open: the handlers and their theorems take it as an
instance, so that what they say holds for any table.
-/

namespace unicode

/--
The case mapping of the runes above ASCII, as the `CaseRanges` table of Go's `unicode` package
gives it, with the one property of it the proofs use.
-/
class CaseRanges where
  toLower : Char → Char
  toUpper : Char → Char
  toLower_ne_nul : ∀ r : Char, 128 ≤ r.toNat → toLower r ≠ '\x00'

variable [CaseRanges]

def toLower (r : Char) : Char :=
  if r.toNat < 128 then Char.toLower r else CaseRanges.toLower r

def toUpper (r : Char) : Char :=
  if r.toNat < 128 then Char.toUpper r else CaseRanges.toUpper r

end unicode

theorem Char.toNat_ofNat_of_lt {n : Nat} (h : n < 0xD800) : (Char.ofNat n).toNat = n := by
  rw [Char.ofNat, dif_pos (by simp [Nat.isValidChar]; omega)]
  simp [Char.ofNatAux, Char.toNat, UInt32.toNat, BitVec.toNat_ofNatLt]

theorem Char.toLower_ne_nul {c : Char} (h : c ≠ '\x00') : c.toLower ≠ '\x00' := by
  unfold Char.toLower
  dsimp only
  split_ifs with hc
  · intro h0
    have h1 := congrArg Char.toNat h0
    rw [Char.toNat_ofNat_of_lt (by omega)] at h1
    simp at h1
  · exact h

theorem Char.toLower_toLower (c : Char) : c.toLower.toLower = c.toLower := by
  unfold Char.toLower
  dsimp only
  split_ifs with h1 h2 <;> try omega
  · rw [Char.toNat_ofNat_of_lt (by omega)] at h2
    omega
  · rfl
  · rfl

/--
The table of the concrete runs below: Go's case mapping of the Latin-1 letters `À`-`Þ` and
`à`-`þ` but `×` and `÷`, every other rune above ASCII left as it is.
-/
instance unicode.CaseRanges.latin1 : unicode.CaseRanges where
  toLower r :=
    if 0xC0 ≤ r.toNat ∧ r.toNat ≤ 0xDE ∧ r.toNat ≠ 0xD7 then Char.ofNat (r.toNat + 32) else r
  toUpper r :=
    if 0xE0 ≤ r.toNat ∧ r.toNat ≤ 0xFE ∧ r.toNat ≠ 0xF7 then Char.ofNat (r.toNat - 32) else r
  toLower_ne_nul r h h0 := by
    replace h0 := congrArg Char.toNat h0
    dsimp only at h0
    split_ifs at h0 with hr
    · rw [Char.toNat_ofNat_of_lt (by omega)] at h0
      exact absurd h0 (by simp)
    · exact absurd h (by simp [h0])

namespace strings

section cases

variable [unicode.CaseRanges]

def toLower (s : String) : String :=
  ⟨s.data.map unicode.toLower⟩

def toUpper (s : String) : String :=
  ⟨s.data.map unicode.toUpper⟩

@[simp] theorem data_toLower (s : String) : (toLower s).data = s.data.map unicode.toLower := rfl

@[simp] theorem data_toUpper (s : String) : (toUpper s).data = s.data.map unicode.toUpper := rfl

end cases

/--
`strings.ReplaceAll(s, old, new)` for a one-character `old`, the only kind the provider and
`lib/pq` pass.
-/
def replaceAll (s : String) (old : Char) (new : String) : String :=
  ⟨s.data.flatMap fun c => if c = old then new.data else [c]⟩

def join : List String → String → String
  | [], _ => ""
  | [s], _ => s
  | s :: t :: rest, sep => s ++ sep ++ join (t :: rest) sep

@[simp] theorem data_replaceAll (s : String) (old : Char) (new : String) :
    (replaceAll s old new).data = s.data.flatMap fun c => if c = old then new.data else [c] :=
  rfl

@[simp] theorem join_nil (sep : String) : join [] sep = "" := rfl

@[simp] theorem join_singleton (s sep : String) : join [s] sep = s := rfl

theorem join_cons_cons (s t : String) (rest : List String) (sep : String) :
    join (s :: t :: rest) sep = s ++ sep ++ join (t :: rest) sep := rfl

end strings

namespace pq

/--
`pq.QuoteIdentifier`: cut the name at its first NUL, double every double quote and wrap the
result in double quotes.
-/
def quoteIdentifier (name : String) : String :=
  let name : String := ⟨name.data.takeWhile (· ≠ '\x00')⟩
  "\"" ++ strings.replaceAll name '"' "\"\"" ++ "\""

/--
`pq.QuoteLiteral`: double every single quote; when the text holds a backslash, also double
every backslash and write an escape string ` E'...'`, otherwise a plain `'...'`.
-/
def quoteLiteral (literal : String) : String :=
  let literal := strings.replaceAll literal '\'' "''"
  if '\\' ∈ literal.data then
    " E'" ++ strings.replaceAll literal '\\' "\\\\" ++ "'"
  else
    "'" ++ literal ++ "'"

end pq
