import RedshiftProvider.Lemmas.Decimal

/-!
Round trips through the `net/url` parser and `ParseURL` of `lib/pq`. `QueryEscape` followed by
the unescaping of a query component gives every byte back; the unescaping of a userinfo gives
every byte back but a blank, which `QueryEscape` writes as `+` and the userinfo keeps as `+`.
A `postgres://` URL with escaped credentials, a host name with a decimal port, a database and
parameters written as `key=QueryEscape(value)` is read back into exactly those options.
-/

namespace bytes

variable {sep : UInt8} {xs ys : List UInt8}

theorem cut_of_not_mem (h : sep ∉ xs) : cut sep xs = (xs, none) := by
  induction xs with
  | nil => rfl
  | cons x xs ih =>
    simp only [List.mem_cons, not_or] at h
    simp [cut, Ne.symm h.1, ih h.2]

theorem cut_append (h : sep ∉ xs) : cut sep (xs ++ sep :: ys) = (xs, some ys) := by
  induction xs with
  | nil => simp [cut]
  | cons x xs ih =>
    simp only [List.mem_cons, not_or] at h
    simp [cut, Ne.symm h.1, ih h.2]

theorem cutLast_append (h : sep ∉ ys) : cutLast sep (xs ++ sep :: ys) = some (xs, ys) := by
  rw [cutLast, List.reverse_append, List.reverse_cons, List.append_assoc, List.singleton_append,
    cut_append (by simpa using h)]
  simp

theorem splitOn_of_not_mem (h : sep ∉ xs) : splitOn sep xs = [xs] := by
  induction xs with
  | nil => rfl
  | cons x xs ih =>
    simp only [List.mem_cons, not_or] at h
    simp [splitOn, Ne.symm h.1, ih h.2]

theorem splitOn_append (h : sep ∉ xs) : splitOn sep (xs ++ sep :: ys) = xs :: splitOn sep ys := by
  induction xs with
  | nil => simp [splitOn]
  | cons x xs ih =>
    simp only [List.mem_cons, not_or] at h
    simp [splitOn, Ne.symm h.1, ih h.2]

end bytes

namespace url

open bytes

/-! ### Classes of bytes -/

/-- The unreserved bytes of a URL: letters, digits and `-_.~`. -/
def isUnreserved (c : UInt8) : Bool :=
  isLetter c || isDigit c || isOneOf c ['-', '_', '.', '~']

/-- The bytes `queryEscape` writes: letters, digits, `-_.~`, `+` for a blank and `%` followed by
two upper-case hex digits. -/
def isQueryEscapedByte (c : UInt8) : Bool :=
  isLetter c || isDigit c || isOneOf c ['-', '_', '.', '~', '%', '+']

theorem ne_of_isUnreserved {c sep : UInt8} (hc : isUnreserved c) (hs : isUnreserved sep = false) :
    c ≠ sep := by
  rintro rfl
  rw [hc] at hs
  contradiction

theorem isUnreserved_of_isDigit {c : UInt8} (h : isDigit c) : isUnreserved c := by
  simp [isUnreserved, h]

theorem isOneOf_of_subset {c : UInt8} {cs cs' : List Char} (hsub : cs ⊆ cs') (h : isOneOf c cs) :
    isOneOf c cs' := by
  obtain ⟨x, hx, hc⟩ := List.any_eq_true.mp h
  exact List.any_eq_true.mpr ⟨x, hsub hx, hc⟩

theorem isQueryEscapedByte_of_isUnreserved {c : UInt8} (h : isUnreserved c) :
    isQueryEscapedByte c := by
  unfold isUnreserved at h
  unfold isQueryEscapedByte
  rcases Bool.or_eq_true_iff.mp h with h | h
  · rw [h, Bool.true_or]
  · rw [isOneOf_of_subset (by decide) h, Bool.or_true]

theorem shouldEscape_of_isUnreserved {c : UInt8} (h : isUnreserved c) (mode : Encoding) :
    shouldEscape c mode = false := by
  unfold shouldEscape
  unfold isUnreserved at h
  rcases Bool.or_eq_true_iff.mp h with h | h
  · rw [if_pos h]
  · split_ifs <;> rfl

theorem isQueryEscapedByte_of_not_shouldEscape {c : UInt8}
    (h : shouldEscape c .queryComponent = false) : isQueryEscapedByte c := by
  unfold isQueryEscapedByte
  by_cases h1 : (isLetter c || isDigit c) = true
  · rw [h1, Bool.true_or]
  by_cases h3 : isOneOf c ['-', '_', '.', '~'] = true
  · rw [isOneOf_of_subset (by decide) h3, Bool.or_true]
  unfold shouldEscape at h
  rw [if_neg h1, if_neg (by rintro ⟨h | h, -⟩ <;> cases h), if_neg h3] at h
  split_ifs at h with h4 h5
  exact h5.1.elim

theorem isQueryEscapedByte_not_control {c : UInt8} (h : isQueryEscapedByte c) :
    0x20 ≤ c ∧ c ≠ 0x7f := by
  simp only [isQueryEscapedByte, isLetter, isDigit, isOneOf, Bool.or_eq_true, decide_eq_true_eq,
    List.any_cons, List.any_nil, Bool.or_false] at h
  rcases h with ((⟨h1, h2⟩ | ⟨h1, h2⟩) | ⟨h1, h2⟩) | h
  all_goals first
    | exact ⟨UInt8.le_trans (by decide) h1, by rintro rfl; exact absurd h2 (by decide)⟩
    | rcases h with rfl | rfl | rfl | rfl | rfl | rfl <;> decide

theorem urlByte_spec {c : UInt8}
    (h : isQueryEscapedByte c ∨ c ∈ [byte ':', byte '@', byte '=', byte '&']) :
    0x20 ≤ c ∧ c ≠ 0x7f ∧ c ≠ byte '/' ∧ c ≠ byte '?' ∧ c ≠ byte '#' := by
  rcases h with h | h
  · obtain ⟨h1, h2⟩ := isQueryEscapedByte_not_control h
    refine ⟨h1, h2, ?_, ?_, ?_⟩ <;> rintro rfl <;> exact absurd h (by decide)
  · simp only [List.mem_cons, List.not_mem_nil, or_false] at h
    rcases h with rfl | rfl | rfl | rfl <;> decide

/-! ### Escaping and unescaping -/

theorem upperhex_spec : ∀ n : Fin 16, ishex (upperhex (UInt8.ofNat n)) = true ∧
    unhex (upperhex (UInt8.ofNat n)) = UInt8.ofNat n ∧
    isQueryEscapedByte (upperhex (UInt8.ofNat n)) = true := by
  decide

theorem div_sixteen (c : UInt8) : c / 16 = UInt8.ofNat (c.toNat / 16) :=
  UInt8.toNat.inj (by
    rw [UInt8.toNat_div, UInt8.toNat_ofNat_of_lt
      (by show _ < 256; have : c.toNat < 256 := c.toNat_lt_size; omega)]
    rfl)

theorem mod_sixteen (c : UInt8) : c % 16 = UInt8.ofNat (c.toNat % 16) :=
  UInt8.toNat.inj (by
    rw [UInt8.toNat_mod, UInt8.toNat_ofNat_of_lt (by show _ < 256; omega)]
    rfl)

theorem unhex_upperhex (c : UInt8) :
    unhex (upperhex (c / 16)) * 16 + unhex (upperhex (c % 16)) = c := by
  have hc : c.toNat < 256 := c.toNat_lt_size
  have hc' : c.toBitVec.toNat < 256 := hc
  rw [div_sixteen, mod_sixteen, (upperhex_spec ⟨c.toNat / 16, by omega⟩).2.1,
    (upperhex_spec ⟨c.toNat % 16, by omega⟩).2.1]
  apply UInt8.toNat.inj
  simp only [UInt8.toNat, UInt8.add_def, UInt8.mul_def, BitVec.toNat_add, BitVec.toNat_mul,
    UInt8.ofNat, BitVec.toNat_ofNat, UInt8.toBitVec_ofNat]
  omega

theorem upperhex_div (c : UInt8) :
    ishex (upperhex (c / 16)) = true ∧ isQueryEscapedByte (upperhex (c / 16)) = true := by
  have hc : c.toNat < 256 := c.toNat_lt_size
  rw [div_sixteen]
  exact ⟨(upperhex_spec ⟨_, by omega⟩).1, (upperhex_spec ⟨_, by omega⟩).2.2⟩

theorem upperhex_mod (c : UInt8) :
    ishex (upperhex (c % 16)) = true ∧ isQueryEscapedByte (upperhex (c % 16)) = true := by
  rw [mod_sixteen]
  exact ⟨(upperhex_spec ⟨_, by omega⟩).1, (upperhex_spec ⟨_, by omega⟩).2.2⟩

theorem unescape_cons_of_ne {mode : Encoding} {c : UInt8} (h : c ≠ byte '%') (rest : List UInt8) :
    unescape mode (c :: rest) =
      if c = byte '+' then
        (unescape mode rest).map ((if mode = .queryComponent then byte ' ' else byte '+') :: ·)
      else if (mode = .host ∨ mode = .zone) ∧ c < 0x80 ∧ shouldEscape c mode then
        .error (.invalidHost [c])
      else (unescape mode rest).map (c :: ·) := by
  rw [unescape.eq_def]
  simp only [if_neg h]

theorem unescape_append_of_forall {mode : Encoding} {xs : List UInt8}
    (h : ∀ c ∈ xs, c ≠ byte '%' ∧ (c = byte '+' → mode ≠ .queryComponent) ∧
      ¬((mode = .host ∨ mode = .zone) ∧ c < 0x80 ∧ shouldEscape c mode)) (rest : List UInt8) :
    unescape mode (xs ++ rest) = (unescape mode rest).map (xs ++ ·) := by
  induction xs with
  | nil =>
    show unescape mode rest = _
    cases unescape mode rest <;> rfl
  | cons c xs ih =>
    obtain ⟨hpct, hplus, hhost⟩ := h c (.head _)
    rw [List.cons_append, unescape_cons_of_ne hpct, ih fun c hc => h c (.tail _ hc)]
    by_cases hc : c = byte '+'
    · rw [if_pos hc, if_neg (hplus hc), ← hc]
      cases unescape mode rest <;> rfl
    · rw [if_neg hc, if_neg hhost]
      cases unescape mode rest <;> rfl

theorem unescape_of_isUnreserved {mode : Encoding} {xs : List UInt8} (h : ∀ c ∈ xs, isUnreserved c) :
    unescape mode xs = .ok xs := by
  rw [← List.append_nil xs, unescape_append_of_forall]
  · rfl
  · intro c hc
    have hc := h c hc
    exact ⟨ne_of_isUnreserved hc (by decide), fun h' => absurd (h' ▸ hc) (by decide),
      by simp [shouldEscape_of_isUnreserved hc]⟩

/-- The byte `unescape` reads back from what `QueryEscape` wrote for `c`: outside a query
component a blank comes back as `+`. -/
def unescapeOfQueryEscape (mode : Encoding) (c : UInt8) : UInt8 :=
  if c = byte ' ' ∧ mode ≠ .queryComponent then byte '+' else c

@[simp] theorem unescapeOfQueryEscape_queryComponent :
    unescapeOfQueryEscape .queryComponent = id :=
  funext fun c => by simp [unescapeOfQueryEscape]

theorem unescape_escapeByte {mode : Encoding} (hmode : mode ≠ .host ∧ mode ≠ .zone) (c : UInt8)
    (rest : List UInt8) :
    unescape mode (escapeByte .queryComponent c ++ rest) =
      (unescape mode rest).map (unescapeOfQueryEscape mode c :: ·) := by
  have hplus : byte '+' ≠ byte '%' := by decide
  by_cases hsp : c = byte ' '
  · subst hsp
    have hmap : unescapeOfQueryEscape mode (byte ' ') =
        if mode = .queryComponent then byte ' ' else byte '+' := by
      unfold unescapeOfQueryEscape; split_ifs <;> simp_all
    rw [hmap, show escapeByte .queryComponent (byte ' ') = [byte '+'] by decide]
    rw [List.singleton_append, unescape_cons_of_ne hplus, if_pos rfl]
  · rw [show unescapeOfQueryEscape mode c = c by simp [unescapeOfQueryEscape, hsp]]
    by_cases hesc : shouldEscape c .queryComponent
    · rw [escapeByte, if_neg (by simp [hsp]), if_pos hesc, List.cons_append, List.cons_append,
        List.singleton_append, unescape.eq_2, if_pos rfl, (upperhex_div c).1, (upperhex_mod c).1]
      simp [hmode.1, hmode.2, unhex_upperhex]
    · have hpct : c ≠ byte '%' := by rintro rfl; exact hesc (by decide)
      have hpl : c ≠ byte '+' := by rintro rfl; exact hesc (by decide)
      rw [escapeByte, if_neg (by simp [hsp]), if_neg hesc, List.singleton_append,
        unescape_cons_of_ne hpct, if_neg hpl, if_neg (by simp [hmode.1, hmode.2])]

theorem unescape_queryEscape {mode : Encoding} (hmode : mode ≠ .host ∧ mode ≠ .zone)
    (s rest : List UInt8) :
    unescape mode (queryEscape s ++ rest) =
      (unescape mode rest).map (s.map (unescapeOfQueryEscape mode) ++ ·) := by
  induction s with
  | nil =>
    show unescape mode rest = _
    cases unescape mode rest <;> rfl
  | cons c s ih =>
    rw [queryEscape, List.flatMap_cons, List.append_assoc, unescape_escapeByte hmode, ← queryEscape,
      ih]
    cases unescape mode rest <;> rfl

theorem unescape_queryEscape_eq {mode : Encoding} (hmode : mode ≠ .host ∧ mode ≠ .zone)
    (s : List UInt8) : unescape mode (queryEscape s) = .ok (s.map (unescapeOfQueryEscape mode)) := by
  simpa [unescape, Except.map] using unescape_queryEscape hmode s []

/-- `QueryEscape` and the unescaping of a query component are inverse. -/
theorem unescape_queryComponent_queryEscape (s : List UInt8) :
    unescape .queryComponent (queryEscape s) = .ok s := by
  simpa using @unescape_queryEscape_eq .queryComponent (by decide) s

theorem isQueryEscapedByte_of_mem {b : UInt8} {s : List UInt8} (h : b ∈ queryEscape s) :
    isQueryEscapedByte b = true := by
  obtain ⟨c, -, hb⟩ := List.mem_flatMap.mp h
  unfold escapeByte at hb
  split_ifs at hb with hsp hesc
  · rw [List.mem_singleton.mp hb]; decide
  · simp only [List.mem_cons, List.mem_singleton, List.not_mem_nil, or_false] at hb
    rcases hb with rfl | rfl | rfl
    · decide
    · exact (upperhex_div c).2
    · exact (upperhex_mod c).2
  · rw [List.mem_singleton.mp hb]
    exact isQueryEscapedByte_of_not_shouldEscape (Bool.of_not_eq_true hesc)

theorem not_mem_queryEscape {sep : UInt8} (h : isQueryEscapedByte sep = false) (s : List UInt8) :
    sep ∉ queryEscape s := fun hm => by
  rw [isQueryEscapedByte_of_mem hm] at h
  contradiction

/-! ### Host, authority and URL -/

section hostPort

variable {host port : List UInt8} (hhost : ∀ c ∈ host, isUnreserved c)
  (hport : ∀ c ∈ port, isDigit c)
include hhost hport

theorem hostPort_bytes : ∀ c ∈ host ++ byte ':' :: port, isUnreserved c ∨ c = byte ':' := by
  simp only [List.mem_append, List.mem_cons]
  rintro c (hc | rfl | hc)
  exacts [.inl (hhost c hc), .inr rfl, .inl (isUnreserved_of_isDigit (hport c hc))]

theorem not_mem_hostPort {sep : UInt8} (hs : isUnreserved sep = false) (hs' : sep ≠ byte ':') :
    sep ∉ host ++ byte ':' :: port := fun h => by
  rcases hostPort_bytes hhost hport sep h with h | h
  exacts [ne_of_isUnreserved h hs rfl, hs' h]

theorem parseHost_hostPort :
    parseHost (host ++ byte ':' :: port) = .ok (host ++ byte ':' :: port) := by
  have hbytes := hostPort_bytes hhost hport
  have hhead : (host ++ byte ':' :: port).head? ≠ some (byte '[') := fun h =>
    not_mem_hostPort hhost hport (by decide) (by decide) (List.mem_of_mem_head? h)
  have hcolon : byte ':' ∉ port := fun h => absurd (hport _ h) (by decide)
  unfold parseHost
  rw [if_neg hhead, cutLast_append hcolon]
  dsimp only
  rw [if_neg (by simpa [validOptionalPort] using hport), ← List.append_nil (host ++ _),
    unescape_append_of_forall]
  · rfl
  · intro c hc
    rcases hbytes c hc with hc | rfl
    · exact ⟨ne_of_isUnreserved hc (by decide), by simp, by simp [shouldEscape_of_isUnreserved hc]⟩
    · decide

theorem splitHostPort_hostPort : net.splitHostPort (host ++ byte ':' :: port) = some (host, port) := by
  have hcolon : byte ':' ∉ port := fun h => absurd (hport _ h) (by decide)
  have hhost' : byte ':' ∉ host := fun h => absurd (hhost _ h) (by decide)
  have hhead : host.head? ≠ some (byte '[') := fun h =>
    absurd (hhost _ (List.mem_of_mem_head? h)) (by decide)
  simp [net.splitHostPort, cutLast_append hcolon, hhead, hhost', show byte ':' ≠ byte '[' by decide,
    @not_mem_hostPort _ _ hhost hport (byte '[') (by decide) (by decide),
    @not_mem_hostPort _ _ hhost hport (byte ']') (by decide) (by decide)]

end hostPort

theorem validUserinfo_of_forall {s : List UInt8}
    (h : ∀ c ∈ s, isQueryEscapedByte c ∨ c = byte ':') : validUserinfo s := by
  refine List.all_eq_true.mpr fun c hc => ?_
  rcases h c hc with h | rfl
  · unfold isQueryEscapedByte at h
    rcases Bool.or_eq_true_iff.mp h with h | h
    · rw [h, Bool.true_or]
    · rw [isOneOf_of_subset (by decide) h, Bool.or_true]
  · decide

theorem parseAuthority_userinfo {eu ep hp : List UInt8} (heu : ∀ c ∈ eu, isQueryEscapedByte c)
    (hep : ∀ c ∈ ep, isQueryEscapedByte c) (hat : byte '@' ∉ hp) (hhp : parseHost hp = .ok hp) :
    parseAuthority ((eu ++ byte ':' :: ep) ++ byte '@' :: hp) = (do
      let username ← unescape .userPassword eu
      let password ← unescape .userPassword ep
      pure (some ⟨username, some password⟩, hp)) := by
  have hvalid : validUserinfo (eu ++ byte ':' :: ep) := by
    refine validUserinfo_of_forall fun c hc => ?_
    simp only [List.mem_append, List.mem_cons] at hc
    rcases hc with hc | rfl | hc
    exacts [.inl (heu c hc), .inr rfl, .inl (hep c hc)]
  have hcolon : byte ':' ∉ eu := fun h => absurd (heu _ h) (by decide)
  simp only [parseAuthority, cutLast_append hat, hhp, hvalid, cut_append hcolon, Except.ok_bind,
    Bool.not_true, Bool.false_eq_true, if_false]
  rfl

theorem getScheme_postgres (rawURL rest : List UInt8) :
    getScheme rawURL [] (goBytes "postgres://" ++ rest) = .ok (goBytes "postgres", goBytes "//" ++ rest) :=
  rfl

theorem parseNoFragment_postgres {auth db query : List UInt8}
    (hctl : ∀ c ∈ auth ++ db ++ query, 0x20 ≤ c ∧ c ≠ 0x7f)
    (hauth : byte '/' ∉ auth ∧ byte '?' ∉ auth) (hdb : byte '?' ∉ db ∧ byte '%' ∉ db)
    (hq : byte '?' ∉ query) (hq' : query ≠ []) :
    parseNoFragment (goBytes "postgres://" ++ auth ++ byte '/' :: db ++ byte '?' :: query) =
      (parseAuthority auth).map fun (user, host) =>
        ⟨goBytes "postgres", user, host, byte '/' :: db, query⟩ := by
  have hgb : goBytes "//" = [byte '/', byte '/'] := rfl
  have hany : ((goBytes "postgres://" ++ auth ++ byte '/' :: db ++ byte '?' :: query).any
      fun c => decide (c < 32) || decide (c = 127)) = false := by
    have hfix : ∀ c ∈ goBytes "postgres://" ++ [byte '/', byte '?'], 32 ≤ c ∧ c ≠ 127 := by decide
    refine List.any_eq_false.mpr fun c hc => ?_
    have key : 32 ≤ c ∧ c ≠ 127 := by
      simp only [List.mem_append, List.mem_cons] at hc
      rcases hc with ((hc | hc) | rfl | hc) | rfl | hc
      · exact hfix c (List.mem_append_left _ hc)
      · exact hctl c (by simp [hc])
      · decide
      · exact hctl c (by simp [hc])
      · decide
      · exact hctl c (by simp [hc])
    simpa [not_lt] using key
  have hstar : goBytes "postgres://" ++ auth ++ byte '/' :: db ++ byte '?' :: query ≠ goBytes "*" :=
    fun h => by
      have hlen := congrArg List.length h
      simp only [List.length_append, List.length_cons] at hlen
      have : (goBytes "postgres://").length = 11 := rfl
      have : (goBytes "*").length = 1 := rfl
      omega
  have hcut : cut (byte '?') (goBytes "//" ++ (auth ++ byte '/' :: (db ++ byte '?' :: query))) =
      (goBytes "//" ++ auth ++ byte '/' :: db, some query) := by
    have hne : byte '?' ∉ goBytes "//" ++ auth ++ byte '/' :: db := by
      simp only [hgb, List.mem_append, List.mem_cons, List.not_mem_nil, hauth.2, hdb.1, or_false,
        false_or, or_self, show byte '?' ≠ byte '/' by decide, not_false_eq_true]
    simpa using @cut_append (byte '?') _ query hne
  have hlast : (goBytes "//" ++ (auth ++ byte '/' :: (db ++ byte '?' :: query))).getLast? ≠
      some (byte '?') := by
    obtain ⟨x, hx⟩ := Option.isSome_iff_exists.mp (List.getLast?_isSome.mpr hq')
    rw [show goBytes "//" ++ (auth ++ byte '/' :: (db ++ byte '?' :: query)) =
      (goBytes "//" ++ auth ++ byte '/' :: db ++ [byte '?']) ++ query by simp,
      List.getLast?_append, hx]
    rintro ⟨⟩
    exact hq (List.mem_of_getLast?_eq_some hx)
  have hpath : unescape .path (byte '/' :: db) = .ok (byte '/' :: db) := by
    rw [← List.append_nil (byte '/' :: db), unescape_append_of_forall]
    · rfl
    · intro c hc
      refine ⟨?_, by simp, by simp⟩
      rcases List.mem_cons.mp hc with rfl | hc
      · decide
      · exact fun h => hdb.2 (h ▸ hc)
  unfold parseNoFragment
  rw [if_neg (by rw [hany]; decide), if_neg hstar]
  dsimp only [Except.pure_eq_ok, Except.ok_bind]
  have htl : toLower (goBytes "postgres") = goBytes "postgres" := rfl
  simp only [List.append_assoc, List.cons_append, getScheme_postgres, Except.ok_bind, hcut, hlast,
    false_and, if_false]
  have hpre : (goBytes "//").isPrefixOf (goBytes "//" ++ (auth ++ byte '/' :: db)) = true :=
    List.isPrefixOf_iff_prefix.mpr (List.prefix_append _ _)
  have hne : goBytes "postgres" ≠ [] := by decide
  simp only [htl, hpre, hne, ne_eq, not_false_eq_true, true_or, and_self, if_true]
  simp only [hgb, List.cons_append, List.nil_append, List.head?_cons, not_true_eq_false, if_false,
    List.drop_succ_cons, List.drop_zero, cut_append hauth.1, hpath, Except.ok_bind]
  cases parseAuthority auth <;> rfl

theorem parse_of_not_mem {rawURL : List UInt8} (h : byte '#' ∉ rawURL) :
    parse rawURL = parseNoFragment rawURL := by
  simp only [parse, cut_of_not_mem h]
  cases parseNoFragment rawURL <;> rfl

theorem parse_postgres {auth db query : List UInt8}
    (hauth : ∀ c ∈ auth, isQueryEscapedByte c ∨ c ∈ [byte ':', byte '@', byte '=', byte '&'])
    (hdb : ∀ c ∈ db, 0x20 ≤ c ∧ c ≠ 0x7f ∧ c ≠ byte '%' ∧ c ≠ byte '?' ∧ c ≠ byte '#')
    (hquery : ∀ c ∈ query, isQueryEscapedByte c ∨ c ∈ [byte ':', byte '@', byte '=', byte '&'])
    (hq' : query ≠ []) :
    parse (goBytes "postgres://" ++ auth ++ byte '/' :: db ++ byte '?' :: query) =
      (parseAuthority auth).map fun (user, host) =>
        ⟨goBytes "postgres", user, host, byte '/' :: db, query⟩ := by
  have hhash : byte '#' ∉ goBytes "postgres://" ++ auth ++ byte '/' :: db ++ byte '?' :: query := by
    simp only [List.mem_append, List.mem_cons, not_or]
    exact ⟨⟨⟨by decide, fun h => (urlByte_spec (hauth _ h)).2.2.2.2 rfl⟩, by decide,
      fun h => (hdb _ h).2.2.2.2 rfl⟩, by decide, fun h => (urlByte_spec (hquery _ h)).2.2.2.2 rfl⟩
  have hctl : ∀ c ∈ auth ++ db ++ query, 0x20 ≤ c ∧ c ≠ 0x7f := by
    simp only [List.mem_append]
    rintro c ((hc | hc) | hc)
    · exact ⟨(urlByte_spec (hauth c hc)).1, (urlByte_spec (hauth c hc)).2.1⟩
    · exact ⟨(hdb c hc).1, (hdb c hc).2.1⟩
    · exact ⟨(urlByte_spec (hquery c hc)).1, (urlByte_spec (hquery c hc)).2.1⟩
  rw [parse_of_not_mem hhash, parseNoFragment_postgres hctl
    ⟨fun h => (urlByte_spec (hauth _ h)).2.2.1 rfl, fun h => (urlByte_spec (hauth _ h)).2.2.2.1 rfl⟩
    ⟨fun h => (hdb _ h).2.2.2.1 rfl, fun h => (hdb _ h).2.2.1 rfl⟩
    (fun h => (urlByte_spec (hquery _ h)).2.2.2.1 rfl) hq']

/-! ### Query -/

theorem parseQuery_append {x more : List UInt8} (h : byte '&' ∉ x) :
    parseQuery (x ++ byte '&' :: more) = parseQuery x ++ parseQuery more := by
  simp only [parseQuery, splitOn_append h, splitOn_of_not_mem h, List.filterMap_cons,
    List.filterMap_nil]
  split <;> rfl

theorem param_eq (key value : List UInt8) :
    key ++ goBytes "=" ++ queryEscape value = key ++ byte '=' :: queryEscape value := by
  simp [show goBytes "=" = [byte '='] from rfl]

theorem not_mem_param {key : List UInt8} (hkey : ∀ c ∈ key, isUnreserved c) (value : List UInt8)
    {sep : UInt8} (hs : isUnreserved sep = false) (hs' : isQueryEscapedByte sep = false)
    (hs'' : sep ≠ byte '=') : sep ∉ key ++ goBytes "=" ++ queryEscape value := fun h => by
  simp only [param_eq, List.mem_append, List.mem_cons] at h
  rcases h with h | h | h
  exacts [ne_of_isUnreserved (hkey _ h) hs rfl, hs'' h, not_mem_queryEscape hs' _ h]

theorem parseQuery_param {key : List UInt8} (hkey : ∀ c ∈ key, isUnreserved c) (value : List UInt8) :
    parseQuery (key ++ goBytes "=" ++ queryEscape value) = [(key, value)] := by
  have hsemi := @not_mem_param _ hkey value (byte ';') (by decide) (by decide) (by decide)
  have heq : byte '=' ∉ key := fun h => absurd (hkey _ h) (by decide)
  rw [parseQuery, splitOn_of_not_mem (not_mem_param hkey value (by decide) (by decide) (by decide))]
  simp only [param_eq] at hsemi
  simp only [List.filterMap_cons, List.filterMap_nil, param_eq, hsemi, List.append_eq_nil,
    List.cons_ne_nil, and_false, or_self, if_false, cut_append heq, unescape_of_isUnreserved hkey,
    unescape_queryComponent_queryEscape]

theorem parseQuery_intercalate (params : List (List UInt8 × List UInt8))
    (hkeys : ∀ p ∈ params, ∀ c ∈ p.1, isUnreserved c) :
    parseQuery ((goBytes "&").intercalate
      (params.map fun p => p.1 ++ goBytes "=" ++ queryEscape p.2)) = params := by
  induction params with
  | nil => rfl
  | cons p rest ih =>
    have hp := parseQuery_param (hkeys p (.head _)) p.2
    cases rest with
    | nil => simpa [List.intercalate] using hp
    | cons q rest =>
      have hcc : (goBytes "&").intercalate ((p.1 ++ goBytes "=" ++ queryEscape p.2) ::
          (q :: rest).map fun p => p.1 ++ goBytes "=" ++ queryEscape p.2) =
          (p.1 ++ goBytes "=" ++ queryEscape p.2) ++ byte '&' :: (goBytes "&").intercalate
            ((q :: rest).map fun p => p.1 ++ goBytes "=" ++ queryEscape p.2) := by
        simp [List.intercalate, List.intersperse_cons_cons, show goBytes "&" = [byte '&'] from rfl]
      rw [List.map_cons, hcc, parseQuery_append (not_mem_param (hkeys p (.head _)) p.2
        (by decide) (by decide) (by decide)), hp, ih fun p hp => hkeys p (.tail _ hp)]
      rfl

end url

namespace pq

open url bytes

theorem accrue_of_ne_nil {k v : List UInt8} (h : v ≠ []) (kvs : List (List UInt8 × List UInt8)) :
    accrue k v kvs = kvs ++ [(k, v)] :=
  if_neg h

theorem authority_bytes {user password host port : List UInt8} (hhost : ∀ c ∈ host, isUnreserved c)
    (hport : ∀ c ∈ port, isDigit c) :
    ∀ c ∈ (queryEscape user ++ byte ':' :: queryEscape password) ++ byte '@' :: (host ++ byte ':' :: port),
      isQueryEscapedByte c ∨ c ∈ [byte ':', byte '@', byte '=', byte '&'] := by
  intro c hc
  simp only [List.mem_append, List.mem_cons] at hc
  rcases hc with (hc | rfl | hc) | rfl | hc | rfl | hc
  · exact .inl (isQueryEscapedByte_of_mem hc)
  · decide
  · exact .inl (isQueryEscapedByte_of_mem hc)
  · decide
  · exact .inl (isQueryEscapedByte_of_isUnreserved (hhost c hc))
  · decide
  · exact .inl (isQueryEscapedByte_of_isUnreserved (isUnreserved_of_isDigit (hport c hc)))

theorem connParams_eq (value : List UInt8) :
    (goBytes "&").intercalate ([(goBytes "connect_timeout", goBytes "180"),
      (goBytes "sslmode", value)].map fun p => p.1 ++ goBytes "=" ++ queryEscape p.2) =
    (goBytes "connect_timeout" ++ goBytes "=" ++ queryEscape (goBytes "180")) ++
      byte '&' :: (goBytes "sslmode" ++ goBytes "=" ++ queryEscape value) := by
  simp [List.intercalate, show goBytes "&" = [byte '&'] from rfl]

theorem connParams_bytes (value : List UInt8) :
    ∀ c ∈ (goBytes "&").intercalate ([(goBytes "connect_timeout", goBytes "180"),
      (goBytes "sslmode", value)].map fun p => p.1 ++ goBytes "=" ++ queryEscape p.2),
      isQueryEscapedByte c ∨ c ∈ [byte ':', byte '@', byte '=', byte '&'] := by
  have hfix : ∀ c ∈ goBytes "connect_timeout" ++ goBytes "sslmode" ++ goBytes "=",
      isQueryEscapedByte c ∨ c ∈ [byte ':', byte '@', byte '=', byte '&'] := by decide
  rw [connParams_eq]
  intro c hc
  simp only [List.mem_append, List.mem_cons] at hc
  rcases hc with ((hc | hc) | hc) | rfl | ((hc | hc) | hc)
  · exact hfix c (by simp [hc])
  · exact hfix c (by simp [hc])
  · exact .inl (isQueryEscapedByte_of_mem hc)
  · decide
  · exact hfix c (by simp [hc])
  · exact hfix c (by simp [hc])
  · exact .inl (isQueryEscapedByte_of_mem hc)

/-- The options `ParseURL` reads from a `postgres://` URL with escaped credentials, a host with a
decimal port, a database and the two parameters of `buildConnStrFromPqConfig`. -/
theorem parseURL_postgres {user password host port db value : List UInt8}
    (hhost : ∀ c ∈ host, isUnreserved c) (hhost' : host ≠ [])
    (hport : ∀ c ∈ port, isDigit c) (hport' : port ≠ [])
    (hdb : ∀ c ∈ db, 0x20 ≤ c ∧ c ≠ 0x7f ∧ c ≠ byte '%' ∧ c ≠ byte '?' ∧ c ≠ byte '#')
    (hdb' : db ≠ []) (huser : user ≠ []) (hpw : password ≠ []) (hvalue : value ≠ []) :
    parseURL (goBytes "postgres://" ++ ((queryEscape user ++ byte ':' :: queryEscape password) ++
        byte '@' :: (host ++ byte ':' :: port)) ++ byte '/' :: db ++ byte '?' ::
        (goBytes "&").intercalate ([(goBytes "connect_timeout", goBytes "180"),
          (goBytes "sslmode", value)].map fun p => p.1 ++ goBytes "=" ++ queryEscape p.2)) =
      .ok [(goBytes "user", user.map (unescapeOfQueryEscape .userPassword)),
        (goBytes "password", password.map (unescapeOfQueryEscape .userPassword)),
        (goBytes "host", host), (goBytes "port", port), (goBytes "dbname", db),
        (goBytes "connect_timeout", goBytes "180"), (goBytes "sslmode", value)] := by
  have hpa : parseAuthority ((queryEscape user ++ byte ':' :: queryEscape password) ++
      byte '@' :: (host ++ byte ':' :: port)) = .ok (some ⟨user.map (unescapeOfQueryEscape .userPassword),
      some (password.map (unescapeOfQueryEscape .userPassword))⟩, host ++ byte ':' :: port) := by
    rw [parseAuthority_userinfo (fun c hc => isQueryEscapedByte_of_mem hc)
      (fun c hc => isQueryEscapedByte_of_mem hc)
      (not_mem_hostPort hhost hport (by decide) (by decide)) (parseHost_hostPort hhost hport)]
    simp only [@unescape_queryEscape_eq .userPassword (by decide), Except.ok_bind]
    rfl
  have hkeys : ∀ p ∈ [(goBytes "connect_timeout", goBytes "180"), (goBytes "sslmode", value)],
      ∀ c ∈ p.1, isUnreserved c := by
    simp only [List.mem_cons, List.not_mem_nil, or_false, forall_eq_or_imp, forall_eq]
    decide
  unfold parseURL
  rw [parse_postgres (authority_bytes hhost hport) hdb (connParams_bytes value)
    (by rw [connParams_eq]; simp), hpa]
  simp only [Except.map, Except.ok_bind, ne_eq, not_true_eq_false, false_and, if_false,
    splitHostPort_hostPort hhost hport, parseQuery_intercalate _ hkeys]
  have hdups : ([(goBytes "connect_timeout", goBytes "180"), (goBytes "sslmode", value)].map
      (·.1)).eraseDups = [goBytes "connect_timeout", goBytes "sslmode"] := rfl
  have hget : ∀ v, Values.get [(goBytes "connect_timeout", goBytes "180"), (goBytes "sslmode", v)]
      (goBytes "connect_timeout") = goBytes "180" ∧
      Values.get [(goBytes "connect_timeout", goBytes "180"), (goBytes "sslmode", v)]
      (goBytes "sslmode") = v := fun v => ⟨rfl, rfl⟩
  simp only [Except.pure_eq_ok, Except.ok_bind, List.cons_ne_nil, if_false, Option.getD_some,
    List.drop_succ_cons, List.drop_zero, hdups, List.foldl_cons, List.foldl_nil, (hget value).1,
    (hget value).2, accrue_of_ne_nil, ne_eq, List.map_eq_nil_iff, huser, hpw, hhost', hport', hdb',
    hvalue, not_false_eq_true, List.nil_append, List.cons_append, List.singleton_append,
    show goBytes "180" ≠ [] by decide]

end pq
