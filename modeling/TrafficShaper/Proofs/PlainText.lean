import TrafficShaper.Proofs.Shortest
import TrafficShaper.DecimalText.Layout

/-! # The plain text of a 32-bit value reads back

The plain text of a finite value is its shortest digits written positionally, with a minus sign
on negatives: `d` followed by zeros, `d` with a point inside, or `0.`, zeros and `d`. Read as a
numeral, each of these forms gives back a decimal of the same value, and that value lies in the
rounding interval of the value it was printed from, far inside the range where reading gives up
early (below `10^-47` or from `10^39`). So reading the text rounds back to the same bits.

* `ofString?_digits`: text starting with a digit, signed or not, is read by the digit grammar;
* `ofString?_plain_render`: the plain layout of a decimal reads as a numeral of the same value;
* `Binary32.ofNumeral_of_rounds`: a numeral in the rounding interval of a value reads as it;
* `Binary32.ofString?_plainText`: every finite value reads back from its plain text.
-/

namespace TrafficShaper.DecimalText

open TrafficShaper.Binary

/-! ## The digit grammar -/

theorem toLower_of_isDigit {c : Char} (hc : c.isDigit = true) : c.toLower = c := by
  simp only [Char.isDigit, Bool.and_eq_true, decide_eq_true_eq] at hc
  unfold Char.toLower
  split
  · next h => exact absurd (UInt32.le_trans h.1 hc.2) (by decide)
  · rfl

/-- **Text starting with a digit**, after an optional minus sign, is neither signed again nor a
word for infinity or NaN: it is read by the digit grammar. -/
theorem ofString?_digits {cs : List Char} {c : Char} (hhead : cs.head? = some c)
    (hc : c.isDigit = true) (neg : Bool) :
    Numeral.ofString? ((if neg then "-" else "") ++ String.ofList cs) = unsignedFinite? neg cs := by
  obtain ⟨r, rfl⟩ := List.head?_eq_some_iff.1 hhead
  have hword : ∀ (w : String) (d : Char), w.toList.head? = some d → d.isDigit = false →
      String.ofList ((c :: r).map Char.toLower) ≠ w := by
    rintro w d hw hd rfl
    simp only [String.toList_ofList, List.map_cons, List.head?_cons, Option.some.injEq,
      toLower_of_isDigit hc] at hw
    rw [hw] at hc
    exact absurd hc (by simp [hd])
  have hinf := hword "inf" 'i' rfl rfl
  have hinfinity := hword "infinity" 'i' rfl rfl
  have hnan := hword "nan" 'n' rfl rfl
  have hplus : c ≠ '+' := by rintro rfl; simp at hc
  have hminus : c ≠ '-' := by rintro rfl; simp at hc
  unfold Numeral.ofString?
  cases neg
  · simp only [Bool.false_eq_true, ↓reduceIte, String.toList_append, String.toList_ofList]
    split
    · next heq => simp [hplus] at heq
    · next heq => simp [hminus] at heq
    · simp only [String.toList_empty, List.nil_append, hinf, hinfinity, hnan, decide_false,
        Bool.or_self, Bool.false_eq_true, ↓reduceIte]
  · simp only [↓reduceIte, String.toList_append, String.toList_ofList, String.reduceToList,
      List.cons_append, List.nil_append, hinf, hinfinity, hnan, decide_false, Bool.or_self,
      Bool.false_eq_true]

section Grammar

variable {neg : Bool} {ds fs : List Char}

theorem unsignedFinite?_whole (hd : ∀ c ∈ ds, c.isDigit = true) (hne : ds ≠ []) :
    unsignedFinite? neg ds = some (.finite neg (digitsValue ds) 0) := by
  have htake : ds.takeWhile Char.isDigit = ds := List.takeWhile_eq_self_iff.2 hd
  have hdrop : ds.dropWhile Char.isDigit = [] := List.dropWhile_eq_nil_iff.2 hd
  simp [unsignedFinite?, htake, hdrop, hne]

theorem unsignedFinite?_point (hd : ∀ c ∈ ds, c.isDigit = true) (hf : ∀ c ∈ fs, c.isDigit = true)
    (hne : ds ≠ []) :
    unsignedFinite? neg (ds ++ '.' :: fs) =
      some (.finite neg (digitsValue (ds ++ fs)) (-(fs.length : ℤ))) := by
  have hpoint : Char.isDigit '.' = false := by decide
  have htake : (ds ++ '.' :: fs).takeWhile Char.isDigit = ds := by
    rw [List.takeWhile_append_of_pos hd, List.takeWhile_cons_of_neg (by simp [hpoint]),
      List.append_nil]
  have hdrop : (ds ++ '.' :: fs).dropWhile Char.isDigit = '.' :: fs := by
    rw [List.dropWhile_append_of_pos hd, List.dropWhile_cons_of_neg (by simp [hpoint])]
  have hftake : fs.takeWhile Char.isDigit = fs := List.takeWhile_eq_self_iff.2 hf
  have hfdrop : fs.dropWhile Char.isDigit = [] := List.dropWhile_eq_nil_iff.2 hf
  simp [unsignedFinite?, htake, hdrop, hftake, hfdrop, hne]

end Grammar

/-! ## Values of digit strings -/

theorem digitsValue_append_zeros (ds : List Char) (k : ℕ) :
    digitsValue (ds ++ zeros k) = 10 ^ k * digitsValue ds := by
  simp only [digitsValue, zeros]
  exact (Nat.ofDigitChars_append 0).trans Nat.ofDigitChars_replicate_zero

theorem digitsValue_zeros_append (k : ℕ) (ds : List Char) :
    digitsValue (zeros k ++ ds) = digitsValue ds := by
  simp only [digitsValue, zeros]
  rw [← Nat.ofDigitChars.eq_1, Nat.ofDigitChars_append, Nat.ofDigitChars_replicate_zero,
    Nat.mul_zero]
  rfl

/-! ## The plain layout -/

theorem Layout.plain_render (x : Decimal) : Layout.plain.render x =
    if 0 ≤ x.exponent then String.ofList (Nat.toDigits 10 x.digits ++ zeros x.exponent.toNat)
    else if 0 < ((Nat.toDigits 10 x.digits).length : ℤ) + x.exponent then
      String.ofList
        ((Nat.toDigits 10 x.digits).take (((Nat.toDigits 10 x.digits).length : ℤ) + x.exponent).toNat ++
          '.' :: (Nat.toDigits 10 x.digits).drop
            (((Nat.toDigits 10 x.digits).length : ℤ) + x.exponent).toNat)
    else String.ofList (['0', '.'] ++
      zeros (-(((Nat.toDigits 10 x.digits).length : ℤ) + x.exponent)).toNat ++
        Nat.toDigits 10 x.digits) := by
  simp [Layout.render, Layout.plain, Layout.positional]

theorem Layout.plain_render_chars (x : Decimal) :
    ∀ c ∈ (Layout.plain.render x).toList, c.isDigit = true ∨ c = '.' := by
  have hdig : ∀ c ∈ Nat.toDigits 10 x.digits, c.isDigit = true := fun c hc =>
    Nat.isDigit_of_mem_toDigits (by norm_num) (by norm_num) hc
  have hzeros : ∀ k, ∀ c ∈ zeros k, c = '0' := fun k c hc => (List.mem_replicate.1 hc).2
  intro c hc
  rw [Layout.plain_render] at hc
  split_ifs at hc <;>
    simp only [String.toList_ofList, List.mem_append, List.mem_cons, List.cons_append,
      List.nil_append] at hc
  · rcases hc with h | h
    · exact .inl (hdig c h)
    · exact .inl (by rw [hzeros _ c h]; rfl)
  · rcases hc with h | h | h
    · exact .inl (hdig c (List.mem_of_mem_take h))
    · exact .inr h
    · exact .inl (hdig c (List.mem_of_mem_drop h))
  · rcases hc with h | h | h | h
    · exact .inl (by rw [h]; rfl)
    · exact .inr h
    · exact .inl (by rw [hzeros _ c h]; rfl)
    · exact .inl (hdig c h)

section PlainForms

variable {ds : List Char} (hdig : ∀ c ∈ ds, c.isDigit = true) (hne : ds ≠ []) (neg : Bool)
include hdig hne

theorem head?_of_ne_nil : ∃ c, ds.head? = some c ∧ c.isDigit = true := by
  obtain ⟨c, hhead⟩ := Option.ne_none_iff_exists'.1 (mt List.head?_eq_none_iff.1 hne)
  exact ⟨c, hhead, hdig c (List.mem_of_head? hhead)⟩

theorem ofString?_digits_zeros (k : ℕ) :
    Numeral.ofString? ((if neg then "-" else "") ++ String.ofList (ds ++ zeros k)) =
      some (.finite neg (digitsValue (ds ++ zeros k)) 0) := by
  obtain ⟨c, hhead, hc⟩ := head?_of_ne_nil hdig hne
  rw [ofString?_digits (by rw [List.head?_append_of_ne_nil _ hne, hhead]) hc,
    unsignedFinite?_whole (fun c hc => ?_) (by simp [hne])]
  rcases List.mem_append.1 hc with h | h
  · exact hdig c h
  · rw [(List.mem_replicate.1 h).2]
    rfl

theorem ofString?_digits_point {i : ℕ} (hi : 0 < i) :
    Numeral.ofString? ((if neg then "-" else "") ++ String.ofList (ds.take i ++ '.' :: ds.drop i)) =
      some (.finite neg (digitsValue ds) (-((ds.drop i).length : ℤ))) := by
  obtain ⟨c, hhead, hc⟩ := head?_of_ne_nil hdig hne
  have htake : ds.take i ≠ [] := by
    simp only [ne_eq, List.take_eq_nil_iff, hne, or_false]
    omega
  rw [ofString?_digits (?_ : _ = some c) hc,
    unsignedFinite?_point (fun c h => hdig c (List.mem_of_mem_take h))
      (fun c h => hdig c (List.mem_of_mem_drop h)) htake, List.take_append_drop]
  rw [List.head?_append_of_ne_nil _ htake, List.head?_take, if_neg (by omega), hhead]

omit hne in
theorem ofString?_zero_point (k : ℕ) :
    Numeral.ofString? ((if neg then "-" else "") ++ String.ofList (['0', '.'] ++ zeros k ++ ds)) =
      some (.finite neg (digitsValue ds) (-((zeros k ++ ds).length : ℤ))) := by
  have hform : ['0', '.'] ++ zeros k ++ ds = ['0'] ++ '.' :: (zeros k ++ ds) := by simp
  rw [hform, ofString?_digits rfl (by decide), unsignedFinite?_point (by simp) (fun c h => ?_)
      (by simp)]
  · rw [show digitsValue (['0'] ++ (zeros k ++ ds)) = digitsValue (zeros 1 ++ (zeros k ++ ds)) from
      rfl, digitsValue_zeros_append, digitsValue_zeros_append]
  · rcases List.mem_append.1 h with h | h
    · rw [(List.mem_replicate.1 h).2]
      rfl
    · exact hdig c h

end PlainForms

/-- **The plain layout of a decimal reads as a numeral of the same value.** -/
theorem ofString?_plain_render (neg : Bool) (x : Decimal) :
    ∃ n k, Numeral.ofString? ((if neg then "-" else "") ++ Layout.plain.render x) =
      some (.finite neg n k) ∧ (n : ℚ) * 10 ^ k = x.value := by
  set ds := Nat.toDigits 10 x.digits with hds
  have hdig : ∀ c ∈ ds, c.isDigit = true := fun c hc =>
    Nat.isDigit_of_mem_toDigits (by norm_num) (by norm_num) hc
  have hval : digitsValue ds = x.digits := Nat.ofDigitChars_ten_toDigits
  have hne : ds ≠ [] := Nat.toDigits_ne_nil
  rw [Layout.plain_render, ← hds]
  by_cases hexp : 0 ≤ x.exponent
  · -- a non-negative exponent: the digits and that many zeros
    rw [if_pos hexp]
    refine ⟨_, 0, ofString?_digits_zeros hdig hne neg _, ?_⟩
    rw [digitsValue_append_zeros, hval, Decimal.value, zpow_zero, mul_one]
    push_cast
    rw [← zpow_natCast, Int.toNat_of_nonneg hexp]
    ring
  rw [if_neg hexp]
  by_cases hkk : 0 < (ds.length : ℤ) + x.exponent
  · -- the point falls inside the digits
    rw [if_pos hkk, ofString?_digits_point hdig hne neg (by omega), hval]
    refine ⟨x.digits, x.exponent, ?_, rfl⟩
    rw [List.length_drop]
    congr
    omega
  · -- the digits start after the point: `0.`, zeros, then the digits
    rw [if_neg hkk, ofString?_zero_point hdig neg, hval]
    refine ⟨x.digits, x.exponent, ?_, rfl⟩
    simp only [zeros, List.length_append, List.length_replicate]
    congr
    omega

end TrafficShaper.DecimalText

namespace TrafficShaper.Binary

open TrafficShaper.DecimalText

/-! ## Reading a numeral back -/

theorem digitCount_bounds {n : ℕ} (hn : 0 < n) :
    10 ^ (digitCount n - 1) ≤ n ∧ n < 10 ^ digitCount n := by
  have hpos : 0 < digitCount n := Nat.length_toDigits_pos
  refine ⟨?_, (Nat.length_toDigits_le_iff (by norm_num) hpos).1 le_rfl⟩
  rcases Nat.lt_or_ge 1 (digitCount n) with h | h
  · by_contra hlt
    have hle : digitCount n ≤ digitCount n - 1 :=
      (Nat.length_toDigits_le_iff (by norm_num) (by omega)).2 (not_le.1 hlt)
    omega
  · rw [show digitCount n - 1 = 0 by omega, pow_zero]
    exact hn

theorem numeral_size_bounds {n : ℕ} (hn : 0 < n) (k : ℤ) :
    (10 : ℚ) ^ ((digitCount n : ℤ) + k - 1) ≤ n * 10 ^ k ∧
      (n : ℚ) * 10 ^ k < 10 ^ ((digitCount n : ℤ) + k) := by
  obtain ⟨hlo, hhi⟩ := digitCount_bounds hn
  have hpos : 0 < digitCount n := Nat.length_toDigits_pos
  have hk : (0 : ℚ) < 10 ^ k := by positivity
  constructor
  · rw [show (digitCount n : ℤ) + k - 1 = ((digitCount n - 1 : ℕ) : ℤ) + k by omega,
      zpow_add₀ (by norm_num), zpow_natCast]
    gcongr
    exact_mod_cast hlo
  · rw [zpow_add₀ (by norm_num), zpow_natCast]
    gcongr
    exact_mod_cast hhi

theorem single_rounds_range {x : Binary32} {s : Bool} {m : ℕ} {e : ℤ}
    (hx : x.decode = .finite s m e) (hm : 0 < m) {v : ℚ} (hr : single.Rounds m e v) :
    (2 : ℚ) ^ (-150 : ℤ) ≤ v ∧ v < 2 ^ (128 : ℤ) := by
  obtain ⟨hm2, hmin, hmax, -, -⟩ := Binary32.decode_finite hx
  obtain ⟨hlo, hhi, -⟩ := hr.bounds hm
  simp only [single_hidden, single_minExp, single_maxExp] at hm2 hmin hmax
  have hm1 : (1 : ℚ) ≤ m := by exact_mod_cast hm
  have hm24 : (m : ℚ) + 1 / 2 ≤ 2 ^ 24 - 1 / 2 := by
    have : (m : ℚ) + 1 ≤ 2 * 8388608 := by exact_mod_cast hm2
    linarith
  constructor
  · calc (2 : ℚ) ^ (-150 : ℤ) = 1 / 2 * 2 ^ (-149 : ℤ) := by norm_num
      _ ≤ ((m : ℚ) - 1 / 2) * 2 ^ e :=
        mul_le_mul (by linarith) (zpow_le_zpow_right₀ (by norm_num) hmin) (by positivity)
          (by linarith)
      _ ≤ v := hlo
  · calc v ≤ ((m : ℚ) + 1 / 2) * 2 ^ e := hhi
      _ ≤ (2 ^ 24 - 1 / 2) * 2 ^ (104 : ℤ) :=
        mul_le_mul hm24 (zpow_le_zpow_right₀ (by norm_num) hmax) (by positivity) (by norm_num)
      _ < 2 ^ (128 : ℤ) := by norm_num

/-- **A numeral in the rounding interval of a finite nonzero value reads as that value.** The
interval lies between `2^-150` and `2^128`, so the numeral has between `-46` and `39` digits
before its point, and reading takes the exact path. -/
theorem Binary32.ofNumeral_of_rounds {x : Binary32} {s : Bool} {m : ℕ} {e : ℤ}
    (hx : x.decode = .finite s m e) (hm : 0 < m) {n : ℕ} {k : ℤ}
    (hr : single.Rounds m e (n * 10 ^ k)) : Binary32.ofNumeral (.finite s n k) = x := by
  obtain ⟨hvlo, hvhi⟩ := single_rounds_range hx hm hr
  have hn : 0 < n := by
    rcases Nat.eq_zero_or_pos n with h0 | h0
    · have : (0 : ℚ) < 2 ^ (-150 : ℤ) := by positivity
      simp only [h0, Nat.cast_zero, zero_mul] at hvlo
      linarith
    · exact h0
  obtain ⟨hsize_lo, hsize_hi⟩ := numeral_size_bounds hn k
  have hsmall : ¬ (digitCount n : ℤ) + k < -47 := by
    intro h
    have : (10 : ℚ) ^ ((digitCount n : ℤ) + k) ≤ 10 ^ (-48 : ℤ) :=
      zpow_le_zpow_right₀ (by norm_num) (by omega)
    have h48 : (10 : ℚ) ^ (-48 : ℤ) < 2 ^ (-150 : ℤ) := by norm_num
    linarith
  have hlarge : ¬ 40 < (digitCount n : ℤ) + k := by
    intro h
    have : (10 : ℚ) ^ (40 : ℤ) ≤ 10 ^ ((digitCount n : ℤ) + k - 1) :=
      zpow_le_zpow_right₀ (by norm_num) (by omega)
    have h40 : (2 : ℚ) ^ (128 : ℤ) < 10 ^ (40 : ℤ) := by norm_num
    linarith
  have hn0 : n ≠ 0 := by omega
  simp only [Binary32.ofNumeral]
  rw [if_neg (by simp [hn0, hsmall]), if_neg (by simpa using hlarge)]
  split
  · next hk =>
    apply Binary32.ofRatio_eq_of_rounds hx hm (by simp only [natPow_eq]; positivity) one_pos
    rw [Nat.cast_one, div_one, natPow_eq]
    push_cast
    rwa [← zpow_natCast, Int.toNat_of_nonneg hk]
  · next hk =>
    apply Binary32.ofRatio_eq_of_rounds hx hm hn (by simp only [natPow_eq]; positivity)
    rw [natPow_eq]
    push_cast
    rwa [← zpow_natCast, Int.toNat_of_nonneg (by omega), zpow_neg, div_eq_mul_inv, inv_inv]

theorem Binary32.ofRatio_zero {x : Binary32} {s : Bool} {e : ℤ} (hx : x.decode = .finite s 0 e) :
    Binary32.ofRatio s 0 1 = x := by
  obtain ⟨-, -, hmax, -, henc⟩ := Binary32.decode_finite hx
  have hround : single.round s 0 1 = if s then single.signWeight else 0 := by
    simp [Format.round]
  have hencode : single.encode s 0 e = if s then single.signWeight else 0 := by
    unfold Format.encode
    rw [if_neg (not_lt.2 hmax), if_pos (by simp)]
    simp
  have hbits : (single.round s 0 1).toUInt32 = x.bits := by
    rw [hround, ← hencode, henc, Nat.toUInt32_eq, UInt32.ofNat_toNat]
  simp only [Binary32.ofRatio, hbits]

/-- **Every finite 32-bit value reads back from its plain text**: zeros with their sign, and
every other value through its shortest digits. -/
theorem Binary32.ofString?_plainText {x : Binary32} {s : Bool} {m : ℕ} {e : ℤ}
    (hx : x.decode = .finite s m e) : Binary32.ofString? x.plainText = some x := by
  simp only [Binary32.plainText, hx, Layout.text, Binary32.ofString?]
  by_cases hm : m = 0
  · subst hm
    have hzero : (if Layout.plain.pointZero = true then "0.0" else "0") = String.ofList ['0'] := rfl
    rw [if_pos rfl, hzero, ofString?_digits rfl (by decide),
      unsignedFinite?_whole (fun c hc => by rw [List.mem_singleton.1 hc]; rfl) (by simp),
      Option.map_some]
    exact congrArg some (Binary32.ofRatio_zero hx)
  obtain ⟨hm2, hmin, hmax, -, -⟩ := Binary32.decode_finite hx
  simp only [single_hidden, single_minExp, single_maxExp] at hm2 hmin hmax
  obtain ⟨hr, -⟩ :=
    single_shortest_rounds Layout.plain.tie (Nat.pos_of_ne_zero hm) (hm2.trans_eq (by norm_num))
      hmin hmax
  obtain ⟨n, k, hread, hval⟩ := ofString?_plain_render s (single.shortest Layout.plain.tie m e)
  rw [if_neg hm, hread, Option.map_some]
  rw [← hval] at hr
  exact congrArg some (Binary32.ofNumeral_of_rounds hx (Nat.pos_of_ne_zero hm) hr)

/-- The least positive value is written with 44 zeros after the point. -/
example : (⟨1⟩ : Binary32).plainText = "0.000000000000000000000000000000000000000000001" := by
  decide +kernel

end TrafficShaper.Binary
