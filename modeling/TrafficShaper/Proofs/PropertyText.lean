import TrafficShaper.Proofs.PlainText
import TrafficShaper.Config.Property

/-! # Properties written and read back

Every field of a configuration is written as text by its property and set from text. The two
agree: setting a field to the text it is written as gives back the same configuration, bit for
bit, as long as the field holds a value that setting accepts at all. A validated configuration
holds only such values, and so does every configuration that setting has produced. The texts
involved carry no blank character, so trimming leaves them alone; the integers read back
through their digits, at the extremes of their ranges too; and the chances, negative zero and
subnormals included, read back through their shortest digits.

* `trimBlank_of_numeric`: digits, points and minus signs are never trimmed;
* `accumulate_digits`, `readInteger_toString`: integers read back from their decimal text;
* `Config.Settable`: the values setting accepts, and `Config.set_get`;
* `property_text_roundtrip`: validated configurations and set results are fixed points.
-/

namespace TrafficShaper

open TrafficShaper.Binary TrafficShaper.DecimalText TrafficShaper.Text

/-! ## Trimming -/

theorem isBlank_of_graphic {c : Char} (h1 : 32 < c.toNat) (h2 : c.toNat < 127) :
    isBlank c = false := by
  simp only [isBlank, blankRanges, List.any_cons, List.any_nil, Bool.or_false,
    Bool.or_eq_false_iff, Bool.and_eq_false_imp, decide_eq_true_eq, decide_eq_false_iff_not,
    not_le]
  omega

/-- A character of a number's text: a digit, the point or the minus sign. -/
def NumericChar (c : Char) : Prop := c.isDigit = true ∨ c = '.' ∨ c = '-'

theorem isBlank_of_numeric {c : Char} (h : NumericChar c) : isBlank c = false := by
  rcases h with h | rfl | rfl
  · have hc := Char.isDigit_iff_toNat.1 h
    simp only [Char.reduceToNat] at hc
    exact isBlank_of_graphic (by omega) (by omega)
  · exact isBlank_of_graphic (by decide) (by decide)
  · exact isBlank_of_graphic (by decide) (by decide)

/-- **The text of a number is its own trim**: none of its characters is blank. -/
theorem trimBlank_of_numeric {s : String} (h : ∀ c ∈ s.toList, NumericChar c) :
    trimBlank s = s := by
  have hkeep : ∀ l : List Char, (∀ c ∈ l, NumericChar c) → l.dropWhile isBlank = l :=
    fun l hl => List.dropWhile_eq_self_iff.2 fun hl0 => by
      simp [isBlank_of_numeric (hl _ (List.getElem_mem hl0))]
  unfold trimBlank
  rw [hkeep _ h, hkeep _ (by simpa using h), List.reverse_reverse, String.ofList_toList]

theorem numericChar_of_signed {neg : Bool} {t : String} (ht : ∀ c ∈ t.toList, NumericChar c) :
    ∀ c ∈ ((if neg then "-" else "") ++ t).toList, NumericChar c := by
  intro c hc
  rw [String.toList_append, List.mem_append] at hc
  rcases hc with hc | hc
  · cases neg
    · simp at hc
    · simp only [↓reduceIte, String.reduceToList, List.mem_singleton] at hc
      exact .inr (.inr hc)
  · exact ht c hc

theorem numericChar_toDigits (n : ℕ) : ∀ c ∈ (toString n).toList, NumericChar c :=
  fun c hc => .inl (Nat.isDigit_of_mem_toDigits (by norm_num) (by norm_num)
    (show c ∈ Nat.toDigits 10 n by rwa [Nat.toString_eq_repr, Nat.toList_repr] at hc))

theorem int_toString (i : ℤ) :
    toString i = if 0 ≤ i then toString i.toNat else "-" ++ toString i.natAbs := by
  cases i <;> rfl

theorem numericChar_intText (i : ℤ) : ∀ c ∈ (toString i).toList, NumericChar c := by
  rw [int_toString]
  split
  · exact numericChar_toDigits _
  · exact @numericChar_of_signed true _ (numericChar_toDigits _)

theorem numericChar_plainText {x : Binary32} {s : Bool} {m : ℕ} {e : ℤ}
    (hx : x.decode = .finite s m e) : ∀ c ∈ x.plainText.toList, NumericChar c := by
  simp only [Binary32.plainText, hx, Layout.text]
  split <;> apply numericChar_of_signed
  · intro c hc
    simp only [Layout.plain, Bool.false_eq_true, ↓reduceIte, String.reduceToList,
      List.mem_singleton] at hc
    exact .inl (by rw [hc]; rfl)
  · intro c hc
    rcases Layout.plain_render_chars _ c hc with h | h
    · exact .inl h
    · exact .inr (.inl h)

/-! ## Integers -/

namespace DecimalText

theorem le_ofDigitChars (ds : List Char) (a : ℕ) : a ≤ Nat.ofDigitChars 10 ds a := by
  induction ds generalizing a with
  | nil => exact le_rfl
  | cons c r ih =>
    calc a ≤ 10 * a + (c.toNat - '0'.toNat) := by omega
      _ ≤ Nat.ofDigitChars 10 r (10 * a + (c.toNat - '0'.toNat)) := ih _

/-- **Digits read into a range**: when the value of all the digits lies in the range, so does
every value read on the way, and reading ends with that value. -/
theorem accumulate_digits (neg : Bool) (lo hi : ℤ) (ds : List Char)
    (hd : ∀ c ∈ ds, c.isDigit = true) (a : ℕ)
    (hlo : neg = true → lo ≤ -(Nat.ofDigitChars 10 ds a : ℤ))
    (hhi : neg = false → (Nat.ofDigitChars 10 ds a : ℤ) ≤ hi) :
    accumulate neg lo hi a ds =
      .ok (if neg then -(Nat.ofDigitChars 10 ds a : ℤ) else Nat.ofDigitChars 10 ds a) := by
  induction ds generalizing a with
  | nil => rfl
  | cons c r ih =>
    have hnext : 10 * a + (c.toNat - '0'.toNat) ≤ Nat.ofDigitChars 10 (c :: r) a :=
      le_ofDigitChars r _
    have hc : c.isDigit = true := hd c (by simp)
    rw [accumulate, if_neg (by simp [hc])]
    simp only
    rw [if_neg, if_neg]
    · exact ih (fun c h => hd c (by simp [h])) _ hlo hhi
    · cases neg
      · simp only [Bool.not_false, Bool.true_and, decide_eq_true_eq, not_lt]
        have := hhi rfl
        omega
      · simp
    · cases neg
      · simp
      · simp only [Bool.true_and, decide_eq_true_eq, not_lt]
        have := hlo rfl
        omega

theorem accumulate_toDigits (neg : Bool) {lo hi : ℤ} (n : ℕ)
    (hlo : neg = true → lo ≤ -(n : ℤ)) (hhi : neg = false → (n : ℤ) ≤ hi) :
    accumulate neg lo hi 0 (Nat.toDigits 10 n) = .ok (if neg then -(n : ℤ) else n) := by
  have hval : Nat.ofDigitChars 10 (Nat.toDigits 10 n) 0 = n := Nat.ofDigitChars_ten_toDigits
  have h := accumulate_digits neg lo hi (Nat.toDigits 10 n)
    (fun c hc => Nat.isDigit_of_mem_toDigits (by norm_num) (by norm_num) hc) 0
    (by rw [hval]; exact hlo) (by rw [hval]; exact hhi)
  rwa [hval] at h

/-- **An integer reads back from its decimal text**, whatever range holds it. -/
theorem readInteger_toString {lo hi : ℤ} (i : ℤ) (hlo : lo ≤ i) (hhi : i ≤ hi) :
    readInteger true lo hi (toString i) = .ok i := by
  obtain ⟨c, r, hcr⟩ := List.exists_cons_of_ne_nil (@Nat.toDigits_ne_nil i.natAbs 10)
  have hc : c.isDigit = true :=
    Nat.isDigit_of_mem_toDigits (by norm_num) (by norm_num) (show c ∈ Nat.toDigits 10 _ by rw [hcr]; simp)
  have hplus : c ≠ '+' := by rintro rfl; simp at hc
  have hminus : c ≠ '-' := by rintro rfl; simp at hc
  rw [int_toString]
  split
  · -- the digits alone
    next hi0 =>
    have hnat : i.toNat = i.natAbs := by omega
    have hread := @accumulate_toDigits false lo hi i.toNat (by simp) (fun _ => by omega)
    rw [hnat, hcr] at hread
    unfold readInteger
    rw [Nat.toString_eq_repr, Nat.toList_repr, hnat, hcr]
    split
    all_goals first
      | (next heq => simp [hplus, hminus] at heq)
      | (simp only [Bool.false_eq_true, ↓reduceIte] at hread; rw [hread]; congr 1; omega)
  · -- a minus sign and the digits of the magnitude
    next hi0 =>
    have hread := @accumulate_toDigits true lo hi i.natAbs (fun _ => by omega) (by simp)
    rw [hcr, if_pos rfl] at hread
    unfold readInteger
    rw [String.toList_append, Nat.toString_eq_repr, Nat.toList_repr, hcr]
    simp only [String.reduceToList, List.cons_append, List.nil_append, ↓reduceIte]
    rw [hread]
    congr 1
    omega

theorem readInteger_natText (signed : Bool) {lo hi : ℤ} (n : ℕ) (hhi : (n : ℤ) ≤ hi) :
    readInteger signed lo hi (toString n) = .ok n := by
  obtain ⟨c, r, hcr⟩ := List.exists_cons_of_ne_nil (@Nat.toDigits_ne_nil n 10)
  have hc : c.isDigit = true :=
    Nat.isDigit_of_mem_toDigits (by norm_num) (by norm_num) (show c ∈ Nat.toDigits 10 _ by rw [hcr]; simp)
  have hplus : c ≠ '+' := by rintro rfl; simp at hc
  have hminus : c ≠ '-' := by rintro rfl; simp at hc
  have hread := @accumulate_toDigits false lo hi n (by simp) (fun _ => hhi)
  rw [hcr] at hread
  unfold readInteger
  rw [Nat.toString_eq_repr, Nat.toList_repr, hcr]
  split
  all_goals first
    | (next heq => simp [hplus, hminus] at heq)
    | (simpa using hread)

end DecimalText

theorem readInt32?_toString (n : Int32) : readInt32? (toString n.toInt) = some n := by
  have hlo := Int32.le_toInt n
  have hhi : n.toInt ≤ 2 ^ 31 - 1 := (Int32.toInt_le n).trans (by decide)
  rw [readInt32?, readInteger_toString n.toInt (by simpa using hlo) (by simpa using hhi)]
  exact congrArg some (Int32.ofInt_toInt n)

theorem readUInt32?_toString (n : UInt32) : readUInt32? (toString n.toNat) = some n := by
  have hhi : (n.toNat : ℤ) ≤ 2 ^ 32 - 1 := by
    have := UInt32.toNat_lt n
    omega
  rw [readUInt32?, readInteger_natText false n.toNat (by simpa using hhi)]
  exact congrArg some (by rw [Int.toNat_natCast, Nat.toUInt32_eq, UInt32.ofNat_toNat])

/-! ## The fields -/

theorem Binary32.finite_of_inUnit {x : Binary32} (h : x.inUnit = true) :
    ∃ s m e, x.decode = .finite s m e := by
  unfold Binary32.inUnit at h
  split at h
  · next s m e hx => exact ⟨s, m, e, hx⟩
  · cases h
  · cases h

theorem Binary32.ofString?_trim_plainText {x : Binary32} (h : x.inUnit = true) :
    Binary32.ofString? (trimBlank x.plainText) = some x := by
  obtain ⟨s, m, e, hx⟩ := Binary32.finite_of_inUnit h
  rw [trimBlank_of_numeric (numericChar_plainText hx), Binary32.ofString?_plainText hx]

/-- **The values setting accepts**: a chance in `[0, 1]` and a limit of at least `-1`; the delay
bounds, the distribution and the drop countdown take every value of their type. -/
def Config.Settable (c : Config) : Property → Prop
  | .delayProbability => c.delayProbability.inUnit = true
  | .dropProbability => c.dropProbability.inUnit = true
  | .duplicateProbability => c.duplicateProbability.inUnit = true
  | .maxKbps => -1 ≤ c.maxKbps.toInt
  | .maxBucketSize => -1 ≤ c.maxBucketSize.toInt
  | _ => True

/-- **Setting a field to its own text changes nothing**, when the field holds a value that setting
accepts. -/
theorem Config.set_get (c : Config) (p : Property) (h : c.Settable p) :
    c.set p (c.get p) = .ok c := by
  have hint : ∀ n : Int32, trimBlank (toString n.toInt) = toString n.toInt :=
    fun n => trimBlank_of_numeric (numericChar_intText _)
  cases p with
  | minDelay | maxDelay =>
    unfold Config.set Config.get
    simp only [hint, readInt32?_toString]
  | delayDistribution =>
    have hname : Distribution.ofName? (trimBlank c.distribution.name) = some c.distribution := by
      cases c.distribution <;> decide
    unfold Config.set Config.get
    simp only [hname]
  | delayProbability | dropProbability | duplicateProbability =>
    simp only [Config.Settable] at h
    unfold Config.set Config.get
    simp only [Binary32.ofString?_trim_plainText h, h, ↓reduceIte]
    rfl
  | dropPackets =>
    unfold Config.set Config.get
    simp only [trimBlank_of_numeric (numericChar_toDigits _), readUInt32?_toString]
  | maxKbps | maxBucketSize =>
    unfold Config.set Config.get
    simp only [hint, readInt32?_toString]
    rw [if_neg (not_lt.2 h)]

theorem Config.settable_of_validate {c : Config} (h : c.validate = .ok ()) (p : Property) :
    c.Settable p := by
  unfold Config.validate at h
  split at h
  · cases h
  next hchances =>
  split at h
  · cases h
  next hlimits =>
  simp only [List.find?_eq_none, Config.chances, Config.limits, List.mem_cons,
    List.not_mem_nil, or_false, forall_eq_or_imp, forall_eq, Bool.not_eq_true, Bool.not_eq_false',
    decide_eq_false_iff_not, not_lt] at hchances hlimits
  obtain ⟨hdelay, hdrop, hduplicate⟩ := hchances
  obtain ⟨hrate, hbucket⟩ := hlimits
  cases p with
  | delayProbability => exact hdelay
  | dropProbability => exact hdrop
  | duplicateProbability => exact hduplicate
  | maxKbps => exact hrate
  | maxBucketSize => exact hbucket
  | _ => trivial

theorem Config.settable_of_set {c c' : Config} {p : Property} {v : String}
    (h : c.set p v = .ok c') : c'.Settable p := by
  cases p with
  | delayProbability | dropProbability | duplicateProbability =>
    unfold Config.set at h
    simp only at h
    split at h
    · split at h
      · next hx => cases h; exact hx
      · cases h
    · cases h
  | maxKbps | maxBucketSize =>
    unfold Config.set at h
    simp only at h
    split at h
    · split at h
      · cases h
      · next hn => cases h; exact not_lt.1 hn
    · cases h
  | _ => trivial

/-- **The property texts round-trip.** Setting any field of a validated configuration to the
text the field is written as succeeds and leaves the configuration as it was, bit for bit; and
after any successful setting, setting the same field again to its written text changes
nothing. -/
theorem property_text_roundtrip :
    (∀ c : Config, c.validate = .ok () → ∀ p, c.set p (c.get p) = .ok c) ∧
      ∀ (c c' : Config) (p : Property) (v : String), c.set p v = .ok c' →
        c'.set p (c'.get p) = .ok c' :=
  ⟨fun c hc p => c.set_get p (Config.settable_of_validate hc p),
    fun _ c' p _ h => c'.set_get p (Config.settable_of_set h)⟩

end TrafficShaper
