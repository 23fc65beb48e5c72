import TrafficShaper.Proofs.PropertyText

/-! # Setting one field

Setting a property reads the trimmed text as the value of the property's field and stores it
there, or refuses the text. Nothing else moves: every other field keeps its value, and a refused
text hands back no configuration at all, only an error that names the property and the text as
it was given. Since setting checks the same ranges that validation checks, a valid configuration
stays valid.

The fields are seen through one view, `Config.field`, which gives each property's field as a
`FieldValue` of the field's kind; a configuration is determined by its fields
(`Config.ext_field`).

* `Property.read`: the value the field's type reads from a text;
* `Config.field_set_ne`, `Config.read_set`: setting touches its own field only, and stores the
  value read;
* `Config.set_own_field`: the whole contract of setting one field.
-/

namespace TrafficShaper

open TrafficShaper.Binary TrafficShaper.DecimalText TrafficShaper.Text

/-- **The value of a field**, of one of the four kinds of field. -/
inductive FieldValue where
  | int32 (n : Int32)
  | count (n : UInt32)
  | distribution (d : Distribution)
  | chance (x : Binary32)
  deriving DecidableEq

/-- **The field of a property.** -/
def Config.field (c : Config) : Property → FieldValue
  | .minDelay => .int32 c.minDelay
  | .maxDelay => .int32 c.maxDelay
  | .delayDistribution => .distribution c.distribution
  | .delayProbability => .chance c.delayProbability
  | .dropProbability => .chance c.dropProbability
  | .duplicateProbability => .chance c.duplicateProbability
  | .dropPackets => .count c.dropPackets
  | .maxKbps => .int32 c.maxKbps
  | .maxBucketSize => .int32 c.maxBucketSize

/-- **A configuration is its fields.** -/
theorem Config.ext_field {c c' : Config} (h : ∀ p, c.field p = c'.field p) : c = c' := by
  have h1 := h .minDelay
  have h2 := h .maxDelay
  have h3 := h .delayDistribution
  have h4 := h .delayProbability
  have h5 := h .dropProbability
  have h6 := h .duplicateProbability
  have h7 := h .dropPackets
  have h8 := h .maxKbps
  have h9 := h .maxBucketSize
  cases c
  cases c'
  simp_all [Config.field]

/-- **The value a field's type reads from a text**: a 32-bit integer for the delay bounds and the
two limits, a distribution name, a 32-bit count for the drop countdown, a numeral rounded to 32
bits for a chance. No range is checked. -/
def Property.read : Property → String → Option FieldValue
  | .minDelay, s => (readInt32? s).map .int32
  | .maxDelay, s => (readInt32? s).map .int32
  | .delayDistribution, s => (Distribution.ofName? s).map .distribution
  | .dropPackets, s => (readUInt32? s).map .count
  | .maxKbps, s => (readInt32? s).map .int32
  | .maxBucketSize, s => (readInt32? s).map .int32
  | _, s => (Binary32.ofString? s).map .chance

variable {c c' : Config} {p q : Property} {v : String}

theorem Config.set_error {e : Error} (h : c.set p v = .error e) :
    ∃ r, e = .invalidProperty p v r := by
  unfold Config.set at h
  split at h <;> simp only at h <;> split at h <;> (try split at h) <;> cases h <;> exact ⟨_, rfl⟩

/-- **Setting touches its own field only.** -/
theorem Config.field_set_ne (h : c.set p v = .ok c') (hq : q ≠ p) : c'.field q = c.field q := by
  unfold Config.set at h
  cases p <;> simp only at h <;> split at h <;> (try split at h) <;> cases h <;>
    cases q <;> first | rfl | exact absurd rfl hq

/-- **Setting stores the value read** from the trimmed text. -/
theorem Config.read_set (h : c.set p v = .ok c') : p.read (trimBlank v) = some (c'.field p) := by
  unfold Config.set at h
  cases p <;> simp only at h <;> split at h <;> (try split at h) <;> cases h <;>
    simp_all [Property.read, Config.field, Config.putChance]

theorem Config.settable_congr (h : c'.field q = c.field q) : c'.Settable q ↔ c.Settable q := by
  cases q <;> simp only [Config.field, FieldValue.int32.injEq, FieldValue.count.injEq,
    FieldValue.distribution.injEq, FieldValue.chance.injEq] at h <;> simp [Config.Settable, h]

theorem Config.validate_of_settable (h : ∀ p, c.Settable p) : c.validate = .ok () := by
  have hdelay : c.delayProbability.inUnit = true := h .delayProbability
  have hdrop : c.dropProbability.inUnit = true := h .dropProbability
  have hdup : c.duplicateProbability.inUnit = true := h .duplicateProbability
  have hrate : -1 ≤ c.maxKbps.toInt := h .maxKbps
  have hbucket : -1 ≤ c.maxBucketSize.toInt := h .maxBucketSize
  unfold Config.validate
  rw [List.find?_eq_none.2 (by simp [Config.chances, hdelay, hdrop, hdup]),
    List.find?_eq_none.2 (by simp [Config.limits]; omega)]

/-- **Setting one field.** For every configuration `c`, property `p` and text `v`: a refused text
hands back no configuration, only an error naming `p` and `v` as given, so `c` stays as it was.
An accepted one leaves every other field as it was, stores in `p`'s field the value that the
field's type reads from the trimmed text, and keeps a valid configuration valid. -/
theorem Config.set_own_field (c : Config) (p : Property) (v : String) :
    (∀ e, c.set p v = .error e → ∃ r, e = .invalidProperty p v r) ∧
      ∀ c', c.set p v = .ok c' →
        (∀ q, q ≠ p → c'.field q = c.field q) ∧ p.read (trimBlank v) = some (c'.field p) ∧
          (c.validate = .ok () → c'.validate = .ok ()) := by
  refine ⟨fun e h => Config.set_error h, fun c' h => ⟨fun q hq => Config.field_set_ne h hq,
    Config.read_set h, fun hvalid => Config.validate_of_settable fun q => ?_⟩⟩
  by_cases hq : q = p
  · subst hq
    exact Config.settable_of_set h
  · exact (Config.settable_congr (Config.field_set_ne h hq)).2 (Config.settable_of_validate hvalid q)

/-- Setting the rate of the default configuration to ` 800 ` stores 800 and keeps it valid. -/
theorem Config.set_own_field_rate :
    let c' : Config := { Config.default with maxKbps := 800 }
    Config.default.set .maxKbps " 800 " = .ok c' ∧ Config.default.validate = .ok () ∧
      c'.validate = .ok () := by
  intro c'
  have hset : Config.default.set .maxKbps " 800 " = .ok c' := by decide
  have hvalid : Config.default.validate = .ok () := by decide
  exact ⟨hset, hvalid, ((Config.set_own_field _ _ _).2 c' hset).2.2 hvalid⟩

end TrafficShaper
