import TrafficShaper.Delay

/-! # The filter configuration

A configuration says how the filter treats the buffers that pass it: the delay bounds in
milliseconds and the shape of the delay, the chances (32-bit values, meant to lie in `[0, 1]`)
that a buffer is delayed, dropped or duplicated, a countdown of buffers to drop unconditionally,
and the rate limit in kilobits per second with the bucket size in kilobits (`-1`: unlimited).

Each field is a *property* with a name, the same name the JSON form uses as its key.

* `Config`, with `Config.default` and the named presets of `Config.preset?`;
* `Property`, `Property.name`, `Property.ofName?`: the nine properties and their names.
-/

namespace TrafficShaper

open TrafficShaper.Binary

/-- **A filter configuration.** -/
structure Config where
  minDelay : Int32
  maxDelay : Int32
  distribution : Distribution
  delayProbability : Binary32
  dropProbability : Binary32
  duplicateProbability : Binary32
  dropPackets : UInt32
  maxKbps : Int32
  maxBucketSize : Int32
  deriving DecidableEq, Repr

/-- **The default configuration**: delays of 200 to 400 ms, uniform, nothing delayed, dropped or
duplicated, no rate limit. -/
def Config.default : Config :=
  ⟨200, 400, .uniform, .zero, .zero, .zero, 0, -1, -1⟩

/-- A typical local network: 0 to 2 ms for every buffer, one in a thousand lost. -/
def Config.lan : Config :=
  { Config.default with
    minDelay := 0
    maxDelay := 2
    delayProbability := .one
    dropProbability := ⟨0x3A83126F⟩ }

/-- A typical wireless link: 5 to 25 ms, normal, two in a hundred lost. -/
def Config.wifi : Config :=
  { Config.default with
    minDelay := 5
    maxDelay := 25
    distribution := .normal
    delayProbability := .one
    dropProbability := ⟨0x3CA3D70A⟩ }

/-- A degraded mobile link: 50 to 110 ms, normal, 5% lost, 1% doubled, 10 Mbps, 1000 kb bucket. -/
def Config.mobile4g : Config :=
  { Config.default with
    minDelay := 50
    maxDelay := 110
    distribution := .normal
    delayProbability := .one
    dropProbability := ⟨0x3D4CCCCD⟩
    duplicateProbability := ⟨0x3C23D70A⟩
    maxKbps := 10000
    maxBucketSize := 1000 }

/-- Heavy trouble: 200 to 400 ms, 20% lost, 2% doubled, 1 Mbps, 200 kb bucket. -/
def Config.disaster : Config :=
  { Config.default with
    delayProbability := .one
    dropProbability := ⟨0x3E4CCCCD⟩
    duplicateProbability := ⟨0x3CA3D70A⟩
    maxKbps := 1000
    maxBucketSize := 200 }

/-- **The presets by name**; `perfect` is the default. -/
def Config.preset? (name : String) : Option Config :=
  if name = "default" || name = "perfect" then some Config.default
  else if name = "lan" then some Config.lan
  else if name = "wifi" then some Config.wifi
  else if name = "mobile_4g" then some Config.mobile4g
  else if name = "disaster_scenario" then some Config.disaster
  else none

/-- **The nine properties**, one per field. -/
inductive Property where
  | minDelay
  | maxDelay
  | delayDistribution
  | delayProbability
  | dropProbability
  | duplicateProbability
  | dropPackets
  | maxKbps
  | maxBucketSize
  deriving DecidableEq, Repr

/-- All properties, in field order. -/
def Property.all : List Property :=
  [.minDelay, .maxDelay, .delayDistribution, .delayProbability, .dropProbability,
    .duplicateProbability, .dropPackets, .maxKbps, .maxBucketSize]

/-- The name of a property. -/
def Property.name : Property → String
  | .minDelay => "min-delay"
  | .maxDelay => "max-delay"
  | .delayDistribution => "delay-distribution"
  | .delayProbability => "delay-probability"
  | .dropProbability => "drop-probability"
  | .duplicateProbability => "duplicate-probability"
  | .dropPackets => "drop-packets"
  | .maxKbps => "max-kbps"
  | .maxBucketSize => "max-bucket-size"

/-- The property of a name, matched exactly. -/
def Property.ofName? (s : String) : Option Property :=
  Property.all.find? fun p => p.name = s

end TrafficShaper
