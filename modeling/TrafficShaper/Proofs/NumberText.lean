import TrafficShaper.Proofs.ReadThroughDouble
import TrafficShaper.Proofs.PlainText
import TrafficShaper.Proofs.PropertyText
import Mathlib

/-! # Reading numbers from their JSON text

The scanner reads a number in stages: integer digits, then a fraction after a point, then an
exponent after its mark, each stage handing what follows to the next. This module says what each
stage does with a run of digits that fits, and from that what the scanner makes of the texts
the writer produces: a natural number's digits are an unsigned integer, a negative integer's
digits after the minus sign a signed one, and the JSON layout of a decimal the double quotient
of its significand by the power of ten of its fraction digits.

* `integerDigits_append`, `fractionDigits_append`, `exponentDigits_append`: the stages;
* `scanNumber_point`, `scanNumber_exponent_form`: digits with a point, and one digit or a point
  after the first with a negative exponent;
* `scanNumber_json32_render`: the JSON layout of a decimal reads as its double quotient;
* `scanNumber_natText`, `scanNumber_negText`: the digits of integers.
-/

namespace TrafficShaper.Json

open TrafficShaper.Binary TrafficShaper.DecimalText

/-! ## Runs of digits -/

/-- What may follow the digits of a number: the end of the input, or a character that is no
digit. -/
def DigitsEnd (rest : List Char) : Prop := ∀ c ∈ rest.head?, c.isDigit = false

/-- What may follow a whole number: the end of the input, or a character that is no digit, point
or exponent mark. -/
def NumberEnd (rest : List Char) : Prop :=
  ∀ c ∈ rest.head?, c.isDigit = false ∧ c ≠ '.' ∧ c ≠ 'e' ∧ c ≠ 'E'

theorem NumberEnd.digitsEnd {rest : List Char} (h : NumberEnd rest) : DigitsEnd rest :=
  fun c hc => (h c hc).1

/-- A run of digits. -/
def Digits (ds : List Char) : Prop := ∀ c ∈ ds, c.isDigit = true

theorem Digits.cons {c : Char} {ds : List Char} (h : Digits (c :: ds)) : c.isDigit = true ∧ Digits ds :=
  ⟨h c List.mem_cons_self, fun d hd => h d (List.mem_cons_of_mem c hd)⟩

theorem digitOf_le {c : Char} (hc : c.isDigit = true) : digitOf c ≤ 9 := by
  simp only [Char.isDigit, Bool.and_eq_true, decide_eq_true_eq] at hc
  have h9 := hc.2
  simp only [UInt32.le_iff_toNat_le] at h9
  have h57 : ('9' : Char).val.toNat = 57 := rfl
  have h48 : ('0' : Char).toNat = 48 := rfl
  unfold digitOf
  simp only [Char.toNat] at h48 ⊢
  omega

theorem overflows_false {a d bound : ℕ} (h : 10 * a + d ≤ bound) : overflows a d bound = false := by
  simp only [overflows, Bool.and_eq_false_iff, Bool.or_eq_false_iff, decide_eq_false_iff_not,
    not_le, not_lt]
  omega

/-- **Integer digits that fit in a word** are read whole, and what follows them is handed on. -/
theorem integerDigits_append (positive : Bool) {ds : List Char} (hd : Digits ds) (sig : ℕ)
    (hfit : Nat.ofDigitChars 10 ds sig ≤ maxWord) {rest : List Char} (hend : DigitsEnd rest) :
    integerDigits positive sig (ds ++ rest) =
      afterInteger positive (Nat.ofDigitChars 10 ds sig) rest := by
  induction ds generalizing sig with
  | nil =>
    rcases rest with _ | ⟨c, r⟩
    · rfl
    · rw [List.nil_append, integerDigits, if_neg (by simp [hend c rfl])]
      rfl
  | cons c ds ih =>
    obtain ⟨hc, hds⟩ := hd.cons
    have hnext : 10 * sig + digitOf c ≤ maxWord := (le_ofDigitChars ds _).trans hfit
    rw [List.cons_append, integerDigits, if_pos hc, if_neg (by simp [overflows_false hnext])]
    exact ih hds _ hfit

/-- **Fraction digits that fit in a word** are read whole, each lowering the exponent, and what
follows them is handed on; at least one digit must have been read. -/
theorem fractionDigits_append (positive : Bool) (exponent : ℤ) {fs : List Char} (hf : Digits fs)
    (sig count : ℕ) (hcount : 0 < count + fs.length) (hfit : Nat.ofDigitChars 10 fs sig ≤ maxWord)
    {rest : List Char} (hend : DigitsEnd rest) :
    fractionDigits positive exponent sig count (fs ++ rest) =
      finishDecimal positive (Nat.ofDigitChars 10 fs sig)
        (exponent - ((count + fs.length : ℕ) : ℤ)) rest := by
  induction fs generalizing sig count with
  | nil =>
    have hc : count ≠ 0 := by simp at hcount; omega
    rcases rest with _ | ⟨c, r⟩
    · simp [fractionDigits, hc]
    · rw [List.nil_append, fractionDigits, if_neg (by simp [hend c rfl]), if_neg hc]
      rfl
  | cons c fs ih =>
    obtain ⟨hc, hfs⟩ := hf.cons
    have hfit' : Nat.ofDigitChars 10 fs (10 * sig + digitOf c) ≤ maxWord := hfit
    have hnext : 10 * sig + digitOf c ≤ maxWord := (le_ofDigitChars fs _).trans hfit'
    rw [List.cons_append, fractionDigits, if_pos hc, if_neg (by simp [overflows_false hnext]),
      ih hfs _ _ (by simp) hfit']
    show _ = finishDecimal positive (Nat.ofDigitChars 10 fs (10 * sig + digitOf c)) _ rest
    rw [List.length_cons, show count + 1 + fs.length = count + (fs.length + 1) by omega]

theorem finishDecimal_of_end {positive : Bool} {sig : ℕ} {exponent : ℤ} {rest : List Char}
    (hend : NumberEnd rest) :
    finishDecimal positive sig exponent rest =
      (fromParts positive sig exponent rest).map fun x => (x, rest) := by
  rcases rest with _ | ⟨c, r⟩
  · rfl
  · obtain ⟨-, -, he, hE⟩ := hend c rfl
    simp [finishDecimal, he, hE]

/-- **Exponent digits that fit in 32 bits** are read whole, and the number is made of the
significand and the exponent they give. -/
theorem exponentDigits_append (positive : Bool) (sig : ℕ) (startExp : ℤ) (positiveExp : Bool)
    {ds : List Char} (hd : Digits ds) (exp : ℕ) (hfit : Nat.ofDigitChars 10 ds exp ≤ maxInt32)
    {rest : List Char} (hend : DigitsEnd rest) :
    exponentDigits positive sig startExp positiveExp exp (ds ++ rest) =
      (fromParts positive sig (saturate32 (if positiveExp then startExp + Nat.ofDigitChars 10 ds exp
        else startExp - Nat.ofDigitChars 10 ds exp)) rest).map fun x => (x, rest) := by
  induction ds generalizing exp with
  | nil =>
    rcases rest with _ | ⟨c, r⟩
    · rfl
    · rw [List.nil_append, exponentDigits, if_neg (by simp [hend c rfl])]
      rfl
  | cons c ds ih =>
    obtain ⟨hc, hds⟩ := hd.cons
    have hnext : 10 * exp + digitOf c ≤ maxInt32 := (le_ofDigitChars ds _).trans hfit
    rw [List.cons_append, exponentDigits, if_pos hc, if_neg (by simp [overflows_false hnext])]
    exact ih hds _ hfit

theorem fromParts_fraction (positive : Bool) (sig : ℕ) {n : ℕ} (hn : 0 < n) (hn' : n ≤ 308)
    (rest : List Char) :
    fromParts positive sig (-(n : ℤ)) rest =
      .ok (if positive then scaledDouble sig n else (scaledDouble sig n).neg) := by
  simp only [fromParts, scalePow10, Int.natAbs_neg, Int.natAbs_natCast, if_pos hn',
    show ¬ (0 ≤ -(n : ℤ)) by omega, if_false]
  rfl

/-! ## The first digit -/

theorem scanNumber_leading {positive : Bool} {c : Char} {r : List Char} (hc0 : c ≠ '0')
    (hc : c.isDigit = true) : scanNumber positive (c :: r) = integerDigits positive (digitOf c) r := by
  unfold scanNumber
  split
  · next h => cases h
  · next h => exact absurd (List.cons.inj h).1 hc0
  · next h =>
    obtain ⟨rfl, rfl⟩ := List.cons.inj h
    rw [if_pos hc]

theorem scanNumber_zero {positive : Bool} {r : List Char} (hr : DigitsEnd r) :
    scanNumber positive ('0' :: r) = afterInteger positive 0 r := by
  rcases r with _ | ⟨d, tail⟩
  · rfl
  · unfold scanNumber
    simp only
    rw [if_neg (by simp [hr d rfl])]

/-- **The integer digits of a number**: one zero, or digits that do not start with one. -/
def LeadingDigits (ds : List Char) : Prop := ds = ['0'] ∨ ∃ c r, ds = c :: r ∧ c ≠ '0'

theorem scanNumber_integer {positive : Bool} {ds : List Char} (hd : Digits ds)
    (hlead : LeadingDigits ds) (hfit : Nat.ofDigitChars 10 ds 0 ≤ maxWord) {rest : List Char}
    (hend : DigitsEnd rest) :
    scanNumber positive (ds ++ rest) = afterInteger positive (Nat.ofDigitChars 10 ds 0) rest := by
  rcases hlead with rfl | ⟨c, r, rfl, hc0⟩
  · exact scanNumber_zero hend
  · obtain ⟨hc, hr⟩ := hd.cons
    have hfit' : Nat.ofDigitChars 10 r (digitOf c) ≤ maxWord := by
      rwa [Nat.ofDigitChars_cons, Nat.mul_zero, Nat.zero_add] at hfit
    rw [List.cons_append, scanNumber_leading hc0 hc, integerDigits_append positive hr _ hfit' hend,
      Nat.ofDigitChars_cons, Nat.mul_zero, Nat.zero_add]
    rfl

/-! ## Points and exponents -/

theorem afterInteger_point (positive : Bool) (sig : ℕ) (r : List Char) :
    afterInteger positive sig ('.' :: r) =
      (fractionDigits positive 0 sig 0 r).map fun (x, rest) => (Number.float x, rest) := rfl

theorem afterInteger_exponent (positive : Bool) (sig : ℕ) (r : List Char) :
    afterInteger positive sig ('e' :: r) =
      (scanExponent positive sig 0 r).map fun (x, rest) => (Number.float x, rest) := rfl

theorem finishDecimal_exponent (positive : Bool) (sig : ℕ) (exponent : ℤ) (r : List Char) :
    finishDecimal positive sig exponent ('e' :: r) = scanExponent positive sig exponent r := by
  simp [finishDecimal]

theorem saturate32_of_small {v : ℤ} (h : v.natAbs ≤ 308) : saturate32 v = v := by
  have h31 : Int.pow 2 31 = 2147483648 := rfl
  unfold saturate32
  rw [h31]
  omega

theorem maxInt32_eq : maxInt32 = 2147483647 := rfl

theorem maxWord_eq : maxWord = 18446744073709551615 := rfl

theorem scanExponent_minus (positive : Bool) (sig : ℕ) (startExp : ℤ) {es : List Char}
    (he : Digits es) (hne : es ≠ []) (hfit : Nat.ofDigitChars 10 es 0 ≤ maxInt32) {rest : List Char}
    (hend : DigitsEnd rest) :
    scanExponent positive sig startExp ('-' :: es ++ rest) =
      (fromParts positive sig (saturate32 (startExp - Nat.ofDigitChars 10 es 0)) rest).map
        fun x => (x, rest) := by
  obtain ⟨e0, es', rfl⟩ := List.exists_cons_of_ne_nil hne
  obtain ⟨he0, hes⟩ := he.cons
  have hfit' : Nat.ofDigitChars 10 es' (digitOf e0) ≤ maxInt32 := by
    rwa [Nat.ofDigitChars_cons, Nat.mul_zero, Nat.zero_add] at hfit
  simp only [scanExponent, List.cons_append, he0, if_true]
  rw [exponentDigits_append positive sig startExp false hes _ hfit' hend, Nat.ofDigitChars_cons,
    Nat.mul_zero, Nat.zero_add]
  rfl

/-- **Digits, a point and digits** read as the double quotient of all the digits by the power of
ten of those after the point. -/
theorem scanNumber_point {ds fs : List Char} (hd : Digits ds) (hlead : LeadingDigits ds)
    (hf : Digits fs) (hne : fs ≠ []) (hfit : Nat.ofDigitChars 10 (ds ++ fs) 0 ≤ maxWord)
    (hlen : fs.length ≤ 308) {rest : List Char} (hend : NumberEnd rest) :
    scanNumber true (ds ++ '.' :: (fs ++ rest)) =
      .ok (.float (scaledDouble (Nat.ofDigitChars 10 (ds ++ fs) 0) fs.length), rest) := by
  rw [Nat.ofDigitChars_append] at hfit ⊢
  have hint : Nat.ofDigitChars 10 ds 0 ≤ maxWord := (le_ofDigitChars fs _).trans hfit
  have hpoint : DigitsEnd ('.' :: (fs ++ rest)) := fun c hc => by
    simp only [List.head?_cons, Option.mem_def, Option.some.injEq] at hc
    rw [← hc]
    decide
  have hpos : 0 < fs.length := List.length_pos_iff.2 hne
  rw [scanNumber_integer hd hlead hint hpoint, afterInteger_point,
    fractionDigits_append true 0 hf _ 0 (by omega) hfit hend.digitsEnd, finishDecimal_of_end hend,
    show (0 : ℤ) - ((0 + fs.length : ℕ) : ℤ) = -(fs.length : ℤ) by omega,
    fromParts_fraction true _ hpos hlen]
  rfl

theorem scanNumber_digit_exponent {c : Char} (hc0 : c ≠ '0') (hc : c.isDigit = true)
    {es : List Char} (he : Digits es) (hne : es ≠ []) (hpos : 0 < Nat.ofDigitChars 10 es 0)
    (hexp : Nat.ofDigitChars 10 es 0 ≤ 308) {rest : List Char} (hend : NumberEnd rest) :
    scanNumber true (c :: 'e' :: '-' :: (es ++ rest)) =
      .ok (.float (scaledDouble (digitOf c) (Nat.ofDigitChars 10 es 0)), rest) := by
  have hmark : DigitsEnd ('e' :: '-' :: (es ++ rest)) := fun d hd => by
    simp only [List.head?_cons, Option.mem_def, Option.some.injEq] at hd
    rw [← hd]
    decide
  have hsig : Nat.ofDigitChars 10 [] (digitOf c) ≤ maxWord := by
    have := digitOf_le hc
    rw [Nat.ofDigitChars_nil, maxWord_eq]
    omega
  rw [scanNumber_leading hc0 hc, ← List.nil_append ('e' :: _),
    integerDigits_append true (fun _ h => absurd h List.not_mem_nil) _ hsig hmark,
    Nat.ofDigitChars_nil, afterInteger_exponent,
    ← List.cons_append, scanExponent_minus true _ 0 he hne (by rw [maxInt32_eq]; omega)
      hend.digitsEnd,
    saturate32_of_small (by omega), zero_sub, fromParts_fraction true _ hpos hexp]
  rfl

theorem scanNumber_mantissa_exponent {c : Char} (hc0 : c ≠ '0') {r : List Char}
    (hd : Digits (c :: r)) (hr : r ≠ []) (hfit : Nat.ofDigitChars 10 (c :: r) 0 ≤ maxWord)
    {es : List Char} (he : Digits es) (hne : es ≠ [])
    (hexp : r.length + Nat.ofDigitChars 10 es 0 ≤ 308) {rest : List Char} (hend : NumberEnd rest) :
    scanNumber true (c :: '.' :: (r ++ 'e' :: '-' :: (es ++ rest))) =
      .ok (.float (scaledDouble (Nat.ofDigitChars 10 (c :: r) 0)
        (r.length + Nat.ofDigitChars 10 es 0)), rest) := by
  have hmark : DigitsEnd ('e' :: '-' :: (es ++ rest)) := fun d hd => by
    simp only [List.head?_cons, Option.mem_def, Option.some.injEq] at hd
    rw [← hd]
    decide
  have hpoint : DigitsEnd ('.' :: (r ++ 'e' :: '-' :: (es ++ rest))) := fun d hd => by
    simp only [List.head?_cons, Option.mem_def, Option.some.injEq] at hd
    rw [← hd]
    decide
  obtain ⟨hc, hrd⟩ := hd.cons
  have hfit' : Nat.ofDigitChars 10 r (digitOf c) ≤ maxWord := by
    rwa [Nat.ofDigitChars_cons, Nat.mul_zero, Nat.zero_add] at hfit
  have hsig : Nat.ofDigitChars 10 [] (digitOf c) ≤ maxWord :=
    (le_ofDigitChars r _).trans hfit'
  have hrpos : 0 < r.length := List.length_pos_iff.2 hr
  rw [scanNumber_leading hc0 hc, ← List.nil_append ('.' :: _),
    integerDigits_append true (fun _ h => absurd h List.not_mem_nil) _ hsig hpoint,
    Nat.ofDigitChars_nil, afterInteger_point,
    fractionDigits_append true 0 hrd _ 0 (by omega) hfit' hmark,
    finishDecimal_exponent, ← List.cons_append,
    scanExponent_minus true _ _ he hne (by rw [maxInt32_eq]; omega) hend.digitsEnd,
    saturate32_of_small (by omega),
    show (0 : ℤ) - ((0 + r.length : ℕ) : ℤ) - (Nat.ofDigitChars 10 es 0 : ℕ) =
      -((r.length + Nat.ofDigitChars 10 es 0 : ℕ) : ℤ) by push_cast; ring,
    fromParts_fraction true _ (by omega) hexp, Nat.ofDigitChars_cons, Nat.mul_zero, Nat.zero_add]
  rfl

/-! ## The JSON layout of a decimal -/

theorem digits_toDigits (k : ℕ) : Digits (Nat.toDigits 10 k) :=
  fun _ hc => Nat.isDigit_of_mem_toDigits (by norm_num) (by norm_num) hc

theorem digits_zeros (k : ℕ) : Digits (zeros k) := fun c hc => by
  rw [(List.mem_replicate.1 hc).2]
  rfl

theorem length_zeros (k : ℕ) : (zeros k).length = k := List.length_replicate

theorem Digits.append {ds fs : List Char} (hd : Digits ds) (hf : Digits fs) : Digits (ds ++ fs) :=
  fun c hc => (List.mem_append.1 hc).elim (hd c) (hf c)

theorem toDigits_head {k : ℕ} (hk : 0 < k) : ∃ c r, Nat.toDigits 10 k = c :: r ∧ c ≠ '0' := by
  induction k using Nat.strong_induction_on with
  | _ k ih =>
    by_cases h10 : k < 10
    · rw [Nat.toDigits_of_lt_base h10]
      refine ⟨_, [], rfl, ?_⟩
      interval_cases k <;> decide
    · -- the leading digit is that of `k / 10`
      rw [Nat.toDigits_of_base_le (by norm_num) (by omega)]
      obtain ⟨c, r, hcr, hc⟩ := ih (k / 10) (by omega) (by omega)
      exact ⟨c, r ++ _, by rw [hcr]; rfl, hc⟩

theorem scanNumber_exponent_form {c : Char} {r : List Char} (hc0 : c ≠ '0') (hd : Digits (c :: r))
    (hfit : Nat.ofDigitChars 10 (c :: r) 0 ≤ maxWord) {j : ℕ} (hj : 0 < j)
    (hexp : r.length + j ≤ 308) {rest : List Char} (hend : NumberEnd rest) :
    scanNumber true ((match c :: r with
          | [] => []
          | [d] => [d]
          | d :: rest => d :: '.' :: rest) ++ ['e', '-'] ++ Nat.toDigits 10 j ++ rest) =
      .ok (.float (scaledDouble (Nat.ofDigitChars 10 (c :: r) 0) (r.length + j)), rest) := by
  have hjval : Nat.ofDigitChars 10 (Nat.toDigits 10 j) 0 = j := Nat.ofDigitChars_ten_toDigits
  obtain ⟨hc, -⟩ := hd.cons
  rcases r with _ | ⟨c1, r1⟩
  · -- one digit
    have h := scanNumber_digit_exponent hc0 hc (digits_toDigits j) Nat.toDigits_ne_nil
      (by rw [hjval]; omega) (by rw [hjval]; simpa using hexp) hend
    have hdc : Nat.ofDigitChars 10 [c] 0 = digitOf c := by
      rw [Nat.ofDigitChars_cons, Nat.ofDigitChars_nil, Nat.mul_zero, Nat.zero_add]
      rfl
    rw [hjval] at h
    simpa [List.append_assoc, hdc] using h
  · -- a point after the first digit
    have h := scanNumber_mantissa_exponent hc0 hd (List.cons_ne_nil c1 r1) hfit (digits_toDigits j)
      Nat.toDigits_ne_nil (by rwa [hjval]) hend
    rw [hjval] at h
    simpa [List.append_assoc] using h

theorem scanNumber_integer_point {ds : List Char} (hd : Digits ds)
    (hlead : ∃ c r, ds = c :: r ∧ c ≠ '0') (k : ℕ)
    (hfit : Nat.ofDigitChars 10 ds 0 * 10 ^ (k + 1) ≤ maxWord) {rest : List Char}
    (hend : NumberEnd rest) :
    scanNumber true (ds ++ zeros k ++ ['.', '0'] ++ rest) =
      .ok (.float (scaledDouble (Nat.ofDigitChars 10 ds 0 * 10 ^ (k + 1)) 1), rest) := by
  obtain ⟨c, r, rfl, hc0⟩ := hlead
  have hval : Nat.ofDigitChars 10 (c :: r ++ zeros k ++ ['0']) 0 =
      Nat.ofDigitChars 10 (c :: r) 0 * 10 ^ (k + 1) := by
    rw [Nat.ofDigitChars_append, Nat.ofDigitChars_append, zeros, Nat.ofDigitChars_replicate_zero]
    simp only [Nat.ofDigitChars_cons, Nat.ofDigitChars_nil]
    rw [show ('0' : Char).toNat - '0'.toNat = 0 from rfl, pow_succ]
    ring
  have h := scanNumber_point (hd.append (digits_zeros k)) (Or.inr ⟨c, r ++ zeros k, rfl, hc0⟩)
    (show Digits ['0'] from fun d hd => by rw [List.mem_singleton.1 hd]; rfl)
    (List.cons_ne_nil _ _) (by rw [hval]; exact hfit) (by simp) hend
  rw [hval] at h
  simpa [List.append_assoc] using h

theorem scanNumber_split {ds : List Char} (hd : Digits ds) (hlead : ∃ c r, ds = c :: r ∧ c ≠ '0')
    {K : ℕ} (hK : 0 < K) (hK' : K < ds.length) (hfit : Nat.ofDigitChars 10 ds 0 ≤ maxWord)
    (hlen : ds.length - K ≤ 308) {rest : List Char} (hend : NumberEnd rest) :
    scanNumber true (ds.take K ++ '.' :: (ds.drop K ++ rest)) =
      .ok (.float (scaledDouble (Nat.ofDigitChars 10 ds 0) (ds.length - K)), rest) := by
  obtain ⟨c, r, rfl, hc0⟩ := hlead
  obtain ⟨K', rfl⟩ : ∃ K', K = K' + 1 := ⟨K - 1, by omega⟩
  have hdt : Digits ((c :: r).take (K' + 1)) := fun d hd' => hd d (List.mem_of_mem_take hd')
  have hdd : Digits ((c :: r).drop (K' + 1)) := fun d hd' => hd d (List.mem_of_mem_drop hd')
  have hne : (c :: r).drop (K' + 1) ≠ [] := by
    rw [← List.length_pos_iff, List.length_drop]
    omega
  have h := scanNumber_point hdt (Or.inr ⟨c, r.take K', rfl, hc0⟩) hdd hne
    (by rwa [List.take_append_drop]) (by rw [List.length_drop]; omega) hend
  rwa [List.take_append_drop, List.length_drop] at h

theorem scanNumber_small {ds : List Char} (hd : Digits ds) (hne : ds ≠ []) (k : ℕ)
    (hfit : Nat.ofDigitChars 10 ds 0 ≤ maxWord) (hlen : k + ds.length ≤ 308) {rest : List Char}
    (hend : NumberEnd rest) :
    scanNumber true ('0' :: '.' :: (zeros k ++ ds ++ rest)) =
      .ok (.float (scaledDouble (Nat.ofDigitChars 10 ds 0) (k + ds.length)), rest) := by
  have hval : Nat.ofDigitChars 10 (['0'] ++ (zeros k ++ ds)) 0 = Nat.ofDigitChars 10 ds 0 := by
    rw [Nat.ofDigitChars_append, Nat.ofDigitChars_append, zeros, Nat.ofDigitChars_replicate_zero]
    rfl
  have h := scanNumber_point (show Digits ['0'] from fun d hd => by rw [List.mem_singleton.1 hd]; rfl)
    (Or.inl rfl) ((digits_zeros k).append hd) (by simp [hne]) (by rwa [hval])
    (by rw [List.length_append, length_zeros]; omega) hend
  rw [hval, List.length_append, length_zeros] at h
  simpa [List.append_assoc] using h

theorem scanNumber_zero_point (positive : Bool) {rest : List Char} (hend : NumberEnd rest) :
    scanNumber positive ('0' :: '.' :: '0' :: rest) =
      .ok (.float (if positive then scaledDouble 0 1 else (scaledDouble 0 1).neg), rest) := by
  have hpoint : DigitsEnd ('.' :: '0' :: rest) := fun c hc => by
    simp only [List.head?_cons, Option.mem_def, Option.some.injEq] at hc
    rw [← hc]
    decide
  have h := fractionDigits_append positive 0 (show Digits ['0'] from fun d hd => by
    rw [List.mem_singleton.1 hd]; rfl) 0 0 (by simp) (by decide) hend.digitsEnd
  rw [List.singleton_append] at h
  rw [scanNumber_zero hpoint, afterInteger_point, h, finishDecimal_of_end hend,
    show (0 : ℤ) - ((0 + ['0'].length : ℕ) : ℤ) = -((1 : ℕ) : ℤ) from rfl,
    fromParts_fraction positive _ (by decide) (by decide)]
  rfl

theorem Decimal.textParts_of_neg {x : Decimal} (h : x.exponent < 0) :
    x.textParts = (x.digits, (-x.exponent).toNat) := if_pos h

theorem Decimal.textParts_of_nonneg {x : Decimal} (h : 0 ≤ x.exponent) :
    x.textParts = (x.digits * 10 ^ (x.exponent.toNat + 1), 1) := if_neg (not_lt.2 h)

theorem json32_window {D : Decimal} (hpos : 0 < D.digits) (hsmall : D.value < 10 ^ 13) :
    ((Nat.toDigits 10 D.digits).length : ℤ) + D.exponent ≤ 13 := by
  obtain ⟨hlo, -⟩ := numeral_size_bounds hpos D.exponent
  by_contra h
  have h13 : (10 : ℚ) ^ ((13 : ℕ) : ℤ) ≤ 10 ^ ((digitCount D.digits : ℤ) + D.exponent - 1) :=
    zpow_le_zpow_right₀ (by norm_num) (by unfold digitCount; omega)
  rw [zpow_natCast] at h13
  rw [Decimal.value] at hsmall
  linarith

/-- **The JSON layout of a positive decimal below `10^13` reads as its double quotient**: the
significand and the count of fraction digits are those of `Decimal.textParts`, whether the
digits are written positionally or with a negative exponent. -/
theorem scanNumber_json32_render {D : Decimal} (hpos : 0 < D.digits)
    (hfit : D.textParts.1 ≤ maxWord) (hsmall : D.value < 10 ^ 13) (hexp : D.textParts.2 ≤ 308)
    {rest : List Char} (hend : NumberEnd rest) :
    scanNumber true ((Layout.json32.render D).toList ++ rest) =
      .ok (.float (scaledDouble D.textParts.1 D.textParts.2), rest) := by
  have hkk := json32_window hpos hsmall
  have hval : Nat.ofDigitChars 10 (Nat.toDigits 10 D.digits) 0 = D.digits :=
    Nat.ofDigitChars_ten_toDigits
  have hdig := digits_toDigits D.digits
  have hlead := toDigits_head hpos
  unfold Layout.render
  simp only [Layout.json32, Layout.positional, Bool.and_eq_true, decide_eq_true_eq]
  split_ifs with hwin hexp0 hkk0 hsign <;> rw [String.toList_ofList]
  · -- an integer: digits, zeros and `.0`
    rw [Decimal.textParts_of_nonneg hexp0] at hfit ⊢
    have h := scanNumber_integer_point hdig hlead _ (by rwa [hval]) hend
    rwa [hval] at h
  · -- a point inside the digits
    rw [Decimal.textParts_of_neg (by omega)] at hfit hexp ⊢
    simp only at hfit hexp ⊢
    rw [List.append_assoc, List.cons_append, scanNumber_split hdig hlead (by omega) (by omega)
      (by rwa [hval]) (by omega) hend, hval, show (Nat.toDigits 10 D.digits).length -
        (((Nat.toDigits 10 D.digits).length : ℤ) + D.exponent).toNat = (-D.exponent).toNat by omega]
  · -- `0.`, zeros and the digits
    rw [Decimal.textParts_of_neg (by omega)] at hfit hexp ⊢
    simp only at hfit hexp ⊢
    have h := scanNumber_small hdig Nat.toDigits_ne_nil
      (-(((Nat.toDigits 10 D.digits).length : ℤ) + D.exponent)).toNat (by rwa [hval]) (by omega) hend
    rw [hval, show (-(((Nat.toDigits 10 D.digits).length : ℤ) + D.exponent)).toNat +
      (Nat.toDigits 10 D.digits).length = (-D.exponent).toNat by omega] at h
    simpa [List.append_assoc] using h
  · -- a negative exponent
    rw [Decimal.textParts_of_neg (by omega)] at hfit hexp ⊢
    simp only at hfit hexp ⊢
    obtain ⟨c0, r0, hds, hc0⟩ := hlead
    rw [hds] at hval hdig hwin hsign ⊢
    simp only [List.length_cons] at hwin hsign ⊢
    have hj : (((((r0.length + 1 : ℕ) : ℤ) + D.exponent - 1).natAbs : ℕ) : ℤ) =
        -(((r0.length + 1 : ℕ) : ℤ) + D.exponent - 1) :=
      Int.ofNat_natAbs_of_nonpos (by omega)
    generalize ((((r0.length + 1 : ℕ) : ℤ) + D.exponent - 1).natAbs) = j at hj ⊢
    rw [show (-D.exponent).toNat = r0.length + j by omega, ← hval]
    exact scanNumber_exponent_form hc0 hdig (by rwa [hval]) (by omega) (by omega) hend
  · -- a positive exponent would need more than thirteen digits before the point
    omega

/-! ## Integers -/

theorem afterInteger_unsigned {sig : ℕ} {rest : List Char} (hend : NumberEnd rest) :
    afterInteger true sig rest = .ok (.unsigned sig, rest) := by
  rcases rest with _ | ⟨c, r⟩
  · rfl
  · obtain ⟨-, hp, he, hE⟩ := hend c rfl
    unfold afterInteger
    split <;> simp_all

theorem negateWord_of_lt {sig : ℕ} (h : sig < 2 ^ 63) : negateWord sig = -(sig : ℤ) := by
  have h63 : Nat.pow 2 63 = 9223372036854775808 := rfl
  have hi63 : Int.pow 2 63 = 9223372036854775808 := rfl
  unfold negateWord
  simp only [h63, hi63]
  split_ifs <;> omega

theorem afterInteger_signed {sig : ℕ} (hpos : 0 < sig) (hsig : sig < 2 ^ 63) {rest : List Char}
    (hend : NumberEnd rest) : afterInteger false sig rest = .ok (.signed (-(sig : ℤ)), rest) := by
  have hne : sig ≠ 0 := by omega
  rcases rest with _ | ⟨c, r⟩
  · simp [afterInteger, negateWord_of_lt hsig, hne]
  · obtain ⟨-, hp, he, hE⟩ := hend c rfl
    unfold afterInteger
    split <;> simp_all [negateWord_of_lt hsig]

theorem leadingDigits_toDigits (k : ℕ) : LeadingDigits (Nat.toDigits 10 k) := by
  rcases Nat.eq_zero_or_pos k with rfl | hk
  · exact Or.inl (Nat.toDigits_zero 10)
  · exact Or.inr (toDigits_head hk)

/-- **The digits of a natural number** that fits in a word read as that unsigned integer. -/
theorem scanNumber_natText {k : ℕ} (hk : k ≤ maxWord) {rest : List Char} (hend : NumberEnd rest) :
    scanNumber true (Nat.toDigits 10 k ++ rest) = .ok (.unsigned k, rest) := by
  rw [scanNumber_integer (digits_toDigits k) (leadingDigits_toDigits k)
    (by rwa [Nat.ofDigitChars_ten_toDigits]) hend.digitsEnd, Nat.ofDigitChars_ten_toDigits,
    afterInteger_unsigned hend]

/-- **The digits of a magnitude below `2^63`**, after a minus sign, read as the negative integer. -/
theorem scanNumber_negText {k : ℕ} (hk : 0 < k) (hk' : k < 2 ^ 63) {rest : List Char}
    (hend : NumberEnd rest) :
    scanNumber false (Nat.toDigits 10 k ++ rest) = .ok (.signed (-(k : ℤ)), rest) := by
  rw [scanNumber_integer (digits_toDigits k) (leadingDigits_toDigits k)
    (by rw [Nat.ofDigitChars_ten_toDigits, maxWord_eq]; omega) hend.digitsEnd,
    Nat.ofDigitChars_ten_toDigits, afterInteger_signed hk hk' hend]

end TrafficShaper.Json
