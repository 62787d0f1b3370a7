import Mathlib.Data.Nat.Digits
import RedshiftProvider.Go.Url
import RedshiftProvider.Catalog.Basic

/-!
Decimal text of numbers, as the `%d` verb writes a port and as the provider writes a group id
with `strconv.Itoa`: the digits are ASCII bytes, there is at least one, and Redshift reads the
text of a group id back as the id.
-/

section decimal

theorem goBytes_ne_nil {s : String} (h : s ≠ "") : goBytes s ≠ [] := by
  obtain ⟨c, cs, hcs⟩ := List.exists_cons_of_ne_nil fun h' => h (String.ext h')
  rw [goBytes, hcs, List.flatMap_cons]
  intro h0
  have := congrArg List.length (List.append_eq_nil.mp h0).1
  rw [String.length_utf8EncodeChar] at this
  exact (Char.utf8Size_pos c).ne' this

theorem toDigitsCore_succ (fuel n : Nat) (ds : List Char) :
    Nat.toDigitsCore 10 (fuel + 1) n ds =
      if n / 10 = 0 then Nat.digitChar (n % 10) :: ds
      else Nat.toDigitsCore 10 fuel (n / 10) (Nat.digitChar (n % 10) :: ds) :=
  rfl

theorem mem_toDigitsCore {fuel n : Nat} {ds : List Char} {c : Char}
    (h : c ∈ Nat.toDigitsCore 10 fuel n ds) : c ∈ ds ∨ ∃ d : Fin 10, c = Nat.digitChar d := by
  induction fuel generalizing n ds with
  | zero => exact .inl h
  | succ fuel ih =>
    have hd : ∃ d : Fin 10, Nat.digitChar (n % 10) = Nat.digitChar d :=
      ⟨⟨n % 10, Nat.mod_lt _ (by decide)⟩, rfl⟩
    rw [toDigitsCore_succ] at h
    split_ifs at h
    · rcases List.mem_cons.mp h with rfl | h
      exacts [.inr hd, .inl h]
    · rcases ih h with h | h
      · rcases List.mem_cons.mp h with rfl | h
        exacts [.inr hd, .inl h]
      · exact .inr h

theorem toDigitsCore_succ_ne_nil (fuel n : Nat) (ds : List Char) :
    Nat.toDigitsCore 10 (fuel + 1) n ds ≠ [] := by
  induction fuel generalizing n ds with
  | zero => rw [toDigitsCore_succ]; split_ifs <;> exact List.cons_ne_nil _ _
  | succ fuel ih =>
    rw [toDigitsCore_succ]
    split_ifs
    · exact List.cons_ne_nil _ _
    · exact ih _ _

theorem toDigitsCore_append (fuel n : Nat) (ds : List Char) :
    Nat.toDigitsCore 10 fuel n ds = Nat.toDigitsCore 10 fuel n [] ++ ds := by
  induction fuel generalizing n ds with
  | zero => rfl
  | succ fuel ih =>
    rw [toDigitsCore_succ, toDigitsCore_succ fuel n []]
    split_ifs
    · rfl
    · rw [ih, ih _ [_], List.append_assoc, List.singleton_append]

theorem digitChar_isDigit : ∀ d : Fin 10, (Nat.digitChar d).isDigit = true := by
  decide

theorem digitChar_value : ∀ d : Fin 10, (Nat.digitChar d).toNat - '0'.toNat = d := by
  decide

theorem digitChar_not_sign : ∀ d : Fin 10, Sql.isSpace (Nat.digitChar d) = false ∧
    Nat.digitChar d ≠ '-' ∧ Nat.digitChar d ≠ '+' := by
  decide

theorem digitsValue_append (ds : List Char) (c : Char) :
    Sql.digitsValue (ds ++ [c]) = 10 * Sql.digitsValue ds + (c.toNat - '0'.toNat) := by
  simp only [Sql.digitsValue, List.foldl_append, List.foldl_cons, List.foldl_nil]

theorem digitsValue_toDigitsCore {fuel n : Nat} (h : n < fuel) :
    Sql.digitsValue (Nat.toDigitsCore 10 fuel n []) = n := by
  induction fuel generalizing n with
  | zero => omega
  | succ fuel ih =>
    have hd : (Nat.digitChar (n % 10)).toNat - '0'.toNat = n % 10 :=
      digitChar_value ⟨n % 10, Nat.mod_lt _ (by decide)⟩
    rw [toDigitsCore_succ]
    split_ifs with h0
    · rw [← List.nil_append [_], digitsValue_append, hd]
      simp only [Sql.digitsValue, List.foldl_nil]
      omega
    · rw [toDigitsCore_append, digitsValue_append, ih (by omega), hd]
      omega

theorem Sql.int4in_toString (n : Nat) : Sql.int4in (toString n) = .ok n := by
  have hdata : (toString n).data = Nat.toDigitsCore 10 (n + 1) n [] := rfl
  have hdigit : ∀ c ∈ (toString n).data, ∃ d : Fin 10, c = Nat.digitChar d := fun c hc =>
    (mem_toDigitsCore (hdata ▸ hc)).resolve_left (List.not_mem_nil _)
  obtain ⟨c, cs, hcs⟩ := List.exists_cons_of_ne_nil (hdata ▸ toDigitsCore_succ_ne_nil n n [])
  obtain ⟨d, rfl⟩ := hdigit c (hcs ▸ List.mem_cons_self _ _)
  obtain ⟨hsp, hminus, hplus⟩ := digitChar_not_sign d
  have hall : (Nat.digitChar d :: cs).takeWhile Char.isDigit = Nat.digitChar d :: cs :=
    List.takeWhile_eq_self_iff.mpr fun c hc => by
      obtain ⟨d', rfl⟩ := hdigit c (hcs ▸ hc)
      exact digitChar_isDigit d'
  have hval : Sql.digitsValue (Nat.digitChar d :: cs) = n := by
    rw [← hcs, hdata, digitsValue_toDigitsCore (Nat.lt_succ_self n)]
  simp [Sql.int4in, hcs, hsp, hminus, hplus, hall, hval]

theorem digitChar_bytes : ∀ d : Fin 10, ∀ b ∈ String.utf8EncodeChar (Nat.digitChar d),
    bytes.isDigit b = true := by
  decide

theorem goBytes_toString_of_nonneg {port : Int} (h : 0 ≤ port) :
    (∀ b ∈ goBytes (toString port), bytes.isDigit b = true) ∧ goBytes (toString port) ≠ [] := by
  obtain ⟨n, rfl⟩ := Int.eq_ofNat_of_zero_le h
  have hdata : (toString (n : Int)).data = Nat.toDigitsCore 10 (n + 1) n [] := rfl
  refine ⟨fun b hb => ?_, ?_⟩
  · obtain ⟨c, hc, hb⟩ := List.mem_flatMap.mp hb
    rw [hdata] at hc
    rcases mem_toDigitsCore hc with hc | ⟨d, rfl⟩
    · exact absurd hc (List.not_mem_nil _)
    · exact digitChar_bytes d b hb
  · exact goBytes_ne_nil fun h0 => toDigitsCore_succ_ne_nil n n [] (hdata ▸ congrArg String.data h0)

end decimal
