import TrafficShaper.Proofs.NumberText
import TrafficShaper.Config.Json
import Mathlib

/-! # Configurations read back from their JSON text

The compact JSON text of a configuration reads back as the same configuration, bit for bit,
whenever validation accepts it: every chance in `[0, 1]` through its shortest 32-bit digits read
as a double and narrowed, zeros of either sign and subnormals included; every integer field
through its decimal digits; the distribution through its name.

The reader takes the text token by token, each reader handing the rest of the input on:

* `scanString_plain`, `escapeString_plain`: the keys and the distribution names are written
  between quotes as they are, and read back so;
* `readNumber_int32`, `readNumber_uint32`, `readNumber_chance`: the numbers of the fields;
* `readField_fieldValue`: each field's value, followed by a comma or the closing brace, reads
  back into its field;
* `readMembers_membersText`: the members, one after the other, fill the default configuration
  field by field, and the object closes;
* `Config.ofJsonText_toJsonText`: the round trip, validation included.
-/

namespace TrafficShaper.Binary

theorem Binary32.isFinite_of_decode {x : Binary32} {s : Bool} {m : ℕ} {e : ℤ}
    (hx : x.decode = .finite s m e) : x.isFinite = true := by
  unfold Binary32.isFinite
  rw [bne_iff_ne, ne_eq]
  intro h
  have hfield : x.bits.toNat / 2 ^ 23 % 2 ^ 8 = 2 ^ 8 - 1 := by
    have h' := congrArg (fun b : UInt32 => b.toNat / 2 ^ 23) h
    simp only [UInt32.toNat_and, Nat.and_div_two_pow] at h'
    rw [← Nat.and_two_pow_sub_one_eq_mod]
    exact h'
  have hhid : single.hidden = 2 ^ 23 := rfl
  have htop : single.topField = 2 ^ 8 - 1 := rfl
  unfold Binary32.decode Format.decode at hx
  simp only [hhid, htop, show Nat.pow 2 single.exponentBits = 2 ^ 8 from rfl, hfield] at hx
  rw [if_neg (by decide), if_pos trivial] at hx
  split at hx <;> cases hx

theorem Binary32.inUnit_pos {x : Binary32} {s : Bool} {m : ℕ} {e : ℤ} (h : x.inUnit = true)
    (hx : x.decode = .finite s m e) (hm : 0 < m) : s = false ∧ (m : ℚ) * 2 ^ e ≤ 1 := by
  unfold Binary32.inUnit at h
  rw [hx] at h
  simp only [Bool.or_eq_true, decide_eq_true_eq, Bool.and_eq_true, Bool.not_eq_true'] at h
  obtain h | ⟨hs, hle⟩ := h
  · omega
  refine ⟨hs, ?_⟩
  split at hle
  · next he =>
    have hle' : m * 2 ^ e.toNat ≤ 1 := of_decide_eq_true hle
    rw [← Int.toNat_of_nonneg he, zpow_natCast]
    exact_mod_cast hle'
  · next he =>
    have hle' : m ≤ 2 ^ (-e).toNat := of_decide_eq_true hle
    have hle'' : (m : ℚ) ≤ 2 ^ (-e).toNat := by exact_mod_cast hle'
    have h2 : (2 : ℚ) ^ e * 2 ^ (-e).toNat = 1 := by
      rw [← zpow_natCast, Int.toNat_of_nonneg (by omega), ← zpow_add₀ two_ne_zero, add_neg_cancel,
        zpow_zero]
    nlinarith [zpow_pos (two_pos : (0 : ℚ) < 2) e]

end TrafficShaper.Binary

namespace TrafficShaper.Json

open TrafficShaper.Binary TrafficShaper.DecimalText

/-! ## Blanks -/

theorem skipBlank_cons {c : Char} (hc : isJsonBlank c = false) (r : List Char) :
    skipBlank (c :: r) = c :: r := by
  simp [skipBlank, hc]

theorem isJsonBlank_of_isDigit {c : Char} (hc : c.isDigit = true) : isJsonBlank c = false := by
  unfold isJsonBlank
  by_contra h
  simp only [Bool.not_eq_false, Bool.or_eq_true, decide_eq_true_eq] at h
  rcases h with ((rfl | rfl) | rfl) | rfl <;> exact absurd hc (by decide)

/-! ## Plain strings -/

/-- A character that a string holds as itself: no quote, backslash or control character. -/
def PlainChar (c : Char) : Prop := c ≠ '"' ∧ c ≠ '\\' ∧ 0x20 ≤ c.toNat

theorem scanChars_plain_cons {c : Char} (hc : PlainChar c) (acc r : List Char) :
    scanChars acc (c :: r) = scanChars (c :: acc) r := by
  obtain ⟨hq, hb, hctl⟩ := hc
  rw [scanChars]
  · rw [if_neg (by omega)]
  all_goals intros; simp_all

theorem scanChars_plain (acc : List Char) {cs : List Char} (hcs : ∀ c ∈ cs, PlainChar c)
    (rest : List Char) : scanChars acc (cs ++ '"' :: rest) = .ok (acc.reverse ++ cs, rest) := by
  induction cs generalizing acc with
  | nil => simp [scanChars]
  | cons c cs ih =>
    rw [List.cons_append, scanChars_plain_cons (hcs c List.mem_cons_self),
      ih _ fun d hd => hcs d (List.mem_cons_of_mem c hd)]
    simp

/-- **A plain string reads back** up to its closing quote. -/
theorem scanString_plain {s : String} (hs : ∀ c ∈ s.toList, PlainChar c) (rest : List Char) :
    scanString (s.toList ++ '"' :: rest) = .ok (s, rest) := by
  rw [scanString, scanChars_plain [] hs]
  simp

theorem escapeJsonChar_plain {c : Char} (hc : PlainChar c) : escapeJsonChar c = [c] := by
  obtain ⟨hq, hb, hctl⟩ := hc
  have hne : ∀ d : Char, d.toNat < 0x20 → c ≠ d := fun d hd h => by rw [h] at hctl; omega
  unfold escapeJsonChar
  rw [if_neg hq, if_neg hb, if_neg (hne _ (by decide)), if_neg (hne _ (by decide)),
    if_neg (hne _ (by decide)), if_neg (hne _ (by decide)), if_neg (hne _ (by decide)),
    if_neg (by omega)]

/-- **A plain string is written as itself** between two quotes. -/
theorem escapeString_plain {s : String} (hs : ∀ c ∈ s.toList, PlainChar c) :
    (escapeString s).toList = '"' :: (s.toList ++ ['"']) := by
  have h : s.toList.flatMap escapeJsonChar = s.toList := by
    rw [List.flatMap_congr fun c hc => escapeJsonChar_plain (hs c hc)]
    exact List.flatMap_singleton' s.toList
  rw [escapeString, String.toList_ofList, h]

/-! ## Numbers -/

theorem scanNumber_head {positive : Bool} {text rest : List Char} {n : Number}
    (h : scanNumber positive text = .ok (n, rest)) : ∃ c r, text = c :: r ∧ c.isDigit = true := by
  unfold scanNumber at h
  split at h
  · cases h
  · exact ⟨'0', _, rfl, rfl⟩
  · next c r _ =>
    split at h
    · exact ⟨c, r, rfl, ‹_›⟩
    · cases h

section ReadNumber

variable {α : Type} {expected : String} {visit : Number → Except Code α} {n : Number} {v : α}
  {rest : List Char}

theorem readNumber_of_scan {text : List Char} (hscan : scanNumber true text = .ok (n, rest))
    (hv : visit n = .ok v) : readNumber expected visit text = .ok (v, rest) := by
  obtain ⟨c, r, rfl, hc⟩ := scanNumber_head hscan
  unfold readNumber
  rw [skipBlank_cons (isJsonBlank_of_isDigit hc)]
  split
  · next h => cases h
  · next h =>
    obtain ⟨rfl, -⟩ := List.cons.inj h
    exact absurd hc (by decide)
  · next h =>
    obtain ⟨rfl, rfl⟩ := List.cons.inj h
    simp only [if_pos hc, hscan, hv]

theorem readNumber_minus {r : List Char} (hscan : scanNumber false r = .ok (n, rest))
    (hv : visit n = .ok v) : readNumber expected visit ('-' :: r) = .ok (v, rest) := by
  simp only [readNumber, skipBlank_cons (show isJsonBlank '-' = false by decide), hscan, hv]

theorem readNumber_natText {k : ℕ} (hk : k ≤ maxWord) (hv : visit (.unsigned k) = .ok v)
    (hend : NumberEnd rest) :
    readNumber expected visit ((toString k).toList ++ rest) = .ok (v, rest) := by
  rw [Nat.toString_eq_repr, Nat.toList_repr]
  exact readNumber_of_scan (scanNumber_natText hk hend) hv

theorem readNumber_negText {k : ℕ} (hk : 0 < k) (hk' : k < 2 ^ 63)
    (hv : visit (.signed (-(k : ℤ))) = .ok v) (hend : NumberEnd rest) :
    readNumber expected visit (('-' :: (toString k).toList) ++ rest) = .ok (v, rest) := by
  rw [List.cons_append, Nat.toString_eq_repr, Nat.toList_repr]
  exact readNumber_minus (scanNumber_negText hk hk' hend) hv

end ReadNumber

variable {rest : List Char}

/-- **A 32-bit integer reads back from its decimal text**, at both ends of its range too. -/
theorem readNumber_int32 (i : Int32) (hend : NumberEnd rest) :
    readNumber "i32" visitInt32 ((toString i.toInt).toList ++ rest) = .ok (i, rest) := by
  have hlo : -2 ^ 31 ≤ i.toInt := by simpa using Int32.le_toInt i
  have hhi : i.toInt ≤ 2 ^ 31 - 1 := (Int32.toInt_le i).trans (by decide)
  have h31 : Nat.pow 2 31 = 2147483648 := rfl
  have hi31 : Int.pow 2 31 = 2147483648 := rfl
  rw [int_toString]
  split_ifs with h
  · refine readNumber_natText (by rw [maxWord_eq]; omega) ?_ hend
    rw [visitInt32, h31, if_pos (by omega), ← Int32.ofInt_eq_ofNat, Int.toNat_of_nonneg h,
      Int32.ofInt_toInt]
  · have habs : ((i.toInt.natAbs : ℕ) : ℤ) = -i.toInt := Int.ofNat_natAbs_of_nonpos (by omega)
    rw [String.toList_append]
    refine readNumber_negText (by omega) (by omega) ?_ hend
    rw [visitInt32, hi31, if_pos (by omega), habs, neg_neg, Int32.ofInt_toInt]

/-- **A 32-bit count reads back from its decimal text.** -/
theorem readNumber_uint32 (k : UInt32) (hend : NumberEnd rest) :
    readNumber "u32" visitUInt32 ((toString (k.toNat : ℤ)).toList ++ rest) = .ok (k, rest) := by
  have hk := UInt32.toNat_lt k
  have h32 : Nat.pow 2 32 = 4294967296 := rfl
  rw [int_toString, if_pos (by omega), Int.toNat_natCast]
  refine readNumber_natText (by rw [maxWord_eq]; omega) ?_ hend
  rw [visitUInt32, h32, if_pos (by omega), Nat.toUInt32_eq, UInt32.ofNat_toNat]

theorem scanNumber_chance {x : Binary32} {m : ℕ} {e : ℤ} (hx : x.decode = .finite false m e)
    (hm : 0 < m) (hle : (m : ℚ) * 2 ^ e ≤ 1) (hend : NumberEnd rest) :
    scanNumber true ((Layout.json32.render (single.shortest .toEven m e)).toList ++ rest) =
      .ok (.float (scaledDouble (single.shortest .toEven m e).textParts.1
        (single.shortest .toEven m e).textParts.2), rest) := by
  obtain ⟨d, n, hD, hg⟩ := shortest_chance_grid hx hm hle
  obtain ⟨hpos, hvalue, hsig, hsnd⟩ := hg.normalize_parts
  obtain ⟨-, hhi, -⟩ := hg.rounds.bounds hm
  have hd := hg.digits
  have hn := hg.exp
  rw [← hD] at hpos hvalue hsig hsnd
  have hu : (2 : ℚ) ^ e ≤ m * 2 ^ e := le_mul_of_one_le_left (by positivity) (by exact_mod_cast hm)
  have hsmall : (single.shortest .toEven m e).value < 10 ^ 13 := by
    rw [hvalue]
    calc (d : ℚ) / 10 ^ n ≤ ((m : ℚ) + 1 / 2) * 2 ^ e := hhi
      _ ≤ 2 := by linarith
      _ < 10 ^ 13 := by norm_num
  refine scanNumber_json32_render hpos ?_ hsmall (by omega) hend
  rw [maxWord_eq]
  omega

/-- **A chance in `[0, 1]` reads back from its JSON text**, zeros of either sign and subnormals
included: a zero is `0.0` after its sign, and anything else its shortest digits, which read back
through a double. -/
theorem readNumber_chance {x : Binary32} (hx : x.inUnit = true) (hend : NumberEnd rest) :
    readNumber "f32" visitChance ((JsonValue.single x).render.toList ++ rest) = .ok (x, rest) := by
  obtain ⟨s, m, e, hdec⟩ := Binary32.finite_of_inUnit hx
  rw [JsonValue.render, if_pos (Binary32.isFinite_of_decode hdec), Binary32.jsonText, hdec,
    Layout.text]
  rcases Nat.eq_zero_or_pos m with rfl | hm
  · have hzero := Binary32.ofRatio_zero hdec
    rw [if_pos rfl, if_pos (show Layout.json32.pointZero = true from rfl)]
    cases s
    · refine readNumber_of_scan (scanNumber_zero_point true hend) ?_
      rw [visitChance, ← hzero]
      decide +kernel
    · refine readNumber_minus (scanNumber_zero_point false hend) ?_
      rw [visitChance, ← hzero]
      decide +kernel
  · obtain ⟨rfl, hle⟩ := Binary32.inUnit_pos hx hdec hm
    rw [if_neg (by omega), if_neg Bool.false_ne_true, String.empty_append,
      show Layout.json32.tie = .toEven from rfl]
    refine readNumber_of_scan (scanNumber_chance hdec hm hle hend) ?_
    rw [visitChance]
    exact congrArg Except.ok (Binary32.throughDouble_shortest hdec hm hle)

end TrafficShaper.Json

namespace TrafficShaper

open TrafficShaper.Binary TrafficShaper.Json

/-! ## Names -/

theorem Property.name_plain (p : Property) : ∀ c ∈ p.name.toList, PlainChar c := by
  cases p <;> simp [Property.name, PlainChar]

theorem Distribution.name_plain (d : Distribution) : ∀ c ∈ d.name.toList, PlainChar c := by
  cases d <;> simp [Distribution.name, PlainChar]

theorem Property.ofName?_name (p : Property) : Property.ofName? p.name = some p := by
  cases p <;> decide

theorem Distribution.ofName?_name (d : Distribution) : Distribution.ofName? d.name = some d := by
  cases d <;> decide

theorem readDistribution_name (d : Distribution) (rest : List Char) :
    readDistribution ((escapeString d.name).toList ++ rest) = .ok (d, rest) := by
  rw [escapeString_plain d.name_plain, List.cons_append, List.append_assoc, List.singleton_append]
  simp only [readDistribution, readVariantName,
    skipBlank_cons (show isJsonBlank '"' = false by decide), scanString_plain d.name_plain,
    Distribution.ofName?_name]

/-! ## Fields -/

/-- The JSON value of a field, as the object of a configuration holds it. -/
def Config.fieldValue (c : Config) : Property → JsonValue
  | .minDelay => .int c.minDelay.toInt
  | .maxDelay => .int c.maxDelay.toInt
  | .delayDistribution => .str c.distribution.name
  | .delayProbability => .single c.delayProbability
  | .dropProbability => .single c.dropProbability
  | .duplicateProbability => .single c.duplicateProbability
  | .dropPackets => .int c.dropPackets.toNat
  | .maxKbps => .int c.maxKbps.toInt
  | .maxBucketSize => .int c.maxBucketSize.toInt

theorem Config.toJsonValue_eq (c : Config) :
    c.toJsonValue = .obj (Property.all.map fun p => (p.name, c.fieldValue p)) := rfl

/-- The configuration `acc` with the field of `p` taken from `c`. -/
def Config.copyField (acc c : Config) : Property → Config
  | .minDelay => { acc with minDelay := c.minDelay }
  | .maxDelay => { acc with maxDelay := c.maxDelay }
  | .delayDistribution => { acc with distribution := c.distribution }
  | .delayProbability => { acc with delayProbability := c.delayProbability }
  | .dropProbability => { acc with dropProbability := c.dropProbability }
  | .duplicateProbability => { acc with duplicateProbability := c.duplicateProbability }
  | .dropPackets => { acc with dropPackets := c.dropPackets }
  | .maxKbps => { acc with maxKbps := c.maxKbps }
  | .maxBucketSize => { acc with maxBucketSize := c.maxBucketSize }

theorem Config.copyField_all (acc c : Config) :
    Property.all.foldl (fun a p => a.copyField c p) acc = c := by
  cases c
  rfl

/-- **Each field reads back from the text of its value** into the configuration being read,
when setting accepts the value and a comma or a close follows. -/
theorem readField_fieldValue (acc c : Config) (p : Property) (hp : c.Settable p)
    {rest : List Char} (hend : NumberEnd rest) :
    readField acc p ((c.fieldValue p).render.toList ++ rest) = .ok (acc.copyField c p, rest) := by
  cases p
  case delayDistribution =>
    simp only [readField, Config.fieldValue, JsonValue.render, readDistribution_name]
    rfl
  case dropPackets =>
    simp only [readField, Config.fieldValue, JsonValue.render, readNumber_uint32 _ hend]
    rfl
  case delayProbability | dropProbability | duplicateProbability =>
    simp only [readField, Config.fieldValue, readNumber_chance hp hend]
    rfl
  all_goals
    simp only [readField, Config.fieldValue, JsonValue.render, readNumber_int32 _ hend]
    rfl

/-! ## Members -/

/-- The text of one member: the quoted name, a colon and the value. -/
def Config.memberText (c : Config) (p : Property) : List Char :=
  (escapeString p.name).toList ++ ':' :: (c.fieldValue p).render.toList

/-- The text of the members of `ps`, each after a comma but the first of the object. -/
def Config.membersText (c : Config) : Bool → List Property → List Char
  | _, [] => []
  | first, p :: ps => (if first then [] else [',']) ++ c.memberText p ++ c.membersText false ps

theorem Config.renderMembers_eq (c : Config) (ps : List Property) :
    (renderMembers (ps.map fun p => (p.name, c.fieldValue p))).toList = c.membersText true ps := by
  induction ps with
  | nil => rfl
  | cons p ps ih =>
    cases ps with
    | nil => simp [renderMembers, Config.membersText, Config.memberText]
    | cons q qs =>
      rw [List.map_cons] at ih
      rw [List.map_cons, List.map_cons, renderMembers, String.toList_append, ih]
      · simp [Config.membersText, Config.memberText]
      · simp

theorem Config.length_le_membersText (c : Config) (first : Bool) (ps : List Property) :
    ps.length ≤ (c.membersText first ps).length := by
  induction ps generalizing first with
  | nil => exact le_refl _
  | cons p ps ih =>
    have h := ih false
    simp only [Config.membersText, Config.memberText, List.length_append, List.length_cons] at h ⊢
    omega

theorem readMembers_member {c : Config} {p : Property} (hp : c.Settable p) (fuel : ℕ)
    (acc : Config) {seen : List Property} (hseen : p ∉ seen) (first : Bool) {rest : List Char}
    (hend : NumberEnd rest) :
    readMembers (fuel + 1) acc seen first ((if first then [] else [',']) ++ c.memberText p ++ rest) =
      readMembers fuel (acc.copyField c p) (p :: seen) false rest := by
  have hvalue : (readColon (':' :: ((c.fieldValue p).render.toList ++ rest)) >>= readField acc p) =
      .ok (acc.copyField c p, rest) := by
    simp only [readColon, skipBlank_cons (show isJsonBlank ':' = false by decide)]
    exact readField_fieldValue acc c p hp hend
  rw [Config.memberText, escapeString_plain p.name_plain]
  cases first <;>
  simp [readMembers, skipBlank_cons (show isJsonBlank ',' = false by decide),
    skipBlank_cons (show isJsonBlank '"' = false by decide), scanString_plain p.name_plain,
    Property.ofName?_name, hseen, hvalue]

/-- **The members of `ps` fill their fields**, one after the other, and the reader stops at the
closing brace. -/
theorem readMembers_membersText {c : Config} (hc : ∀ p, c.Settable p) (rest : List Char)
    (ps : List Property) :
    ∀ (fuel : ℕ) (acc : Config) (seen : List Property) (first : Bool),
      ps.length < fuel → ps.Nodup → (∀ p ∈ ps, p ∉ seen) →
      readMembers fuel acc seen first (c.membersText first ps ++ '}' :: rest) =
        .ok (ps.foldl (fun a p => a.copyField c p) acc, '}' :: rest) := by
  induction ps with
  | nil =>
    rintro (_ | fuel) acc seen first hlen - -
    · simp at hlen
    · simp [Config.membersText, readMembers, skipBlank_cons (show isJsonBlank '}' = false by decide)]
  | cons p ps ih =>
    rintro (_ | fuel) acc seen first hlen hnd hseen
    · simp at hlen
    obtain ⟨hp, hnd⟩ := List.nodup_cons.1 hnd
    have hend : NumberEnd (c.membersText false ps ++ '}' :: rest) := by
      intro ch hch
      cases ps <;> simp [Config.membersText] at hch <;> subst hch <;> decide
    rw [Config.membersText, List.append_assoc,
      readMembers_member (hc p) fuel acc (hseen p List.mem_cons_self) first hend]
    refine ih fuel _ _ false (by simp at hlen; omega) hnd fun q hq => ?_
    simp only [List.mem_cons, not_or]
    exact ⟨fun h => hp (h ▸ hq), hseen q (List.mem_cons_of_mem p hq)⟩

/-! ## The document -/

theorem Config.readJson_toJsonText {c : Config} (hc : ∀ p, c.Settable p) :
    Config.readJson c.toJsonText = .ok c := by
  have htext : c.toJsonText.toList = '{' :: (c.membersText true Property.all ++ ['}']) := by
    rw [Config.toJsonText, Config.toJsonValue_eq, JsonValue.render, String.toList_append,
      String.toList_append, Config.renderMembers_eq]
    simp
  have hlen := c.length_le_membersText true Property.all
  have hmembers := readMembers_membersText hc [] Property.all
    ((c.membersText true Property.all).length + 1 + 1) Config.default [] true
    (by simp only [Property.all, List.length_cons, List.length_nil] at hlen ⊢; omega) (by decide)
    (by simp)
  rw [Config.copyField_all] at hmembers
  simp [Config.readJson, readConfig, htext, skipBlank_cons (show isJsonBlank '{' = false by decide),
    hmembers, finishBracket, closeObject, skipBlank_cons (show isJsonBlank '}' = false by decide)]
  rfl

/-- **Every valid configuration reads back from its JSON text**, bit for bit: what is read is
the configuration itself, which validation accepts. -/
theorem Config.ofJsonText_toJsonText {c : Config} (hc : c.validate = .ok ()) :
    Config.ofJsonText c.toJsonText = .ok c := by
  rw [Config.ofJsonText, Config.readJson_toJsonText (Config.settable_of_validate hc)]
  show (fun _ => c) <$> c.validate = .ok c
  rw [hc]
  rfl

/-- The least subnormal as the delay chance and a negative zero as the drop chance read back. -/
theorem Config.ofJsonText_toJsonText_subnormal :
    (⟨200, 400, .uniform, ⟨1⟩, ⟨0x80000000⟩, .zero, 0, -1, -1⟩ : Config).validate = .ok () ∧
      Config.ofJsonText (⟨200, 400, .uniform, ⟨1⟩, ⟨0x80000000⟩, .zero, 0, -1, -1⟩ : Config).toJsonText =
        .ok ⟨200, 400, .uniform, ⟨1⟩, ⟨0x80000000⟩, .zero, 0, -1, -1⟩ :=
  ⟨by decide +kernel, Config.ofJsonText_toJsonText (by decide +kernel)⟩

end TrafficShaper
