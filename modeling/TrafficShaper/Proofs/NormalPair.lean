import TrafficShaper.Delay
import Mathlib

/-! # The Box-Muller pair cache against drawing straight from the generator

One Box-Muller transform gives two normal values, so the pair cache serves two samples from it:
the first sample of a pair transforms and returns `z₀`, the second returns the cached `z₁` with
its own bounds and draws nothing. Between the two, the generator may be used in any other way:
uniform delays, chances, other draws, a new seed.

Drawing straight from the generator does without the cache (`Draw.direct`): an odd-numbered
normal sample transforms the generator as it stands, and an even-numbered one takes the second
value of the transform that the sample before it made, computed again from where that transform
started. The cache gives the same samples and leaves the generator in the same place, whatever
comes between them (`Draw.run_direct`): the invariant is that the cache is waiting for the second
half exactly when the direct drawing is, holding that transform's `z₁` (`NormalPair.Holds`).

* `Random.Generator.transform`: one transform drawn straight from the generator;
* `Draw.run`, `Draw.direct`: a sequence of uses of the generator, through the cache and without;
* `cached_normals_refine_direct`: the two agree, and `n` normal samples in a row take `⌈n/2⌉`
  transforms.
-/

namespace TrafficShaper

open TrafficShaper.Random TrafficShaper.Binary

/-- **One transform drawn straight from the generator**: a pair of unit draws, drawn again while
the first is at most the double epsilon, turned into two normals; and the generator after it. -/
def Random.Generator.transform (g : Generator) : (Binary64 × Binary64) × Generator :=
  let (u, g) := g.acceptedPair redrawLimit
  (boxMuller u.1 u.2, g)

/-- **A use of the generator**: a normal sample through the pair cache, a uniform delay, or any
other use of the generator (a draw, a chance decided, a new seed). -/
inductive Draw where
  | normal (lo hi : Int32)
  | uniform (lo hi : Int32)
  | other (f : Generator → Generator)

/-- **Uses of the generator through the pair cache**: the normal samples in order, and the cache
and the generator after them. -/
def Draw.run : List Draw → NormalPair → Generator → List Int × NormalPair × Generator
  | [], c, g => ([], c, g)
  | .normal lo hi :: ds, c, g =>
    let (v, c, g) := c.sample g lo hi
    let r := Draw.run ds c g
    (v :: r.1, r.2)
  | .uniform lo hi :: ds, c, g =>
    let (_, c, g) := Distribution.uniform.sample g lo hi c
    Draw.run ds c g
  | .other f :: ds, c, g => Draw.run ds c (f g)

/-- **Drawing straight from the generator**, with `pending` the generator as it stood at an
odd-numbered sample whose pair is not used up: an odd-numbered sample transforms the generator
as it stands; an even-numbered one takes the second value of the transform from `pending`, with
its own bounds, and draws nothing. The samples, what is pending after them, and the generator. -/
def Draw.direct : List Draw → Option Generator → Generator → List Int × Option Generator × Generator
  | [], p, g => ([], p, g)
  | .normal lo hi :: ds, none, g =>
    let r := Draw.direct ds (some g) g.transform.2
    (scaleNormal g.transform.1.1 lo hi :: r.1, r.2)
  | .normal lo hi :: ds, some g₀, g =>
    let r := Draw.direct ds none g
    (scaleNormal g₀.transform.1.2 lo hi :: r.1, r.2)
  | .uniform lo hi :: ds, p, g => Draw.direct ds p (g.uniformInt lo hi).2
  | .other f :: ds, p, g => Draw.direct ds p (f g)

/-! ## One sample -/

variable {c : NormalPair} {g : Generator} {lo hi : Int32}

theorem NormalPair.sample_fresh (h : c.generate = false) :
    c.sample g lo hi =
      (scaleNormal g.transform.1.1 lo hi, ⟨true, g.transform.1.1, g.transform.1.2⟩,
        g.transform.2) := by
  simp [NormalPair.sample, h, Random.Generator.transform]

theorem NormalPair.sample_cached (h : c.generate = true) :
    c.sample g lo hi = (scaleNormal c.z1 lo hi, { c with generate := false }, g) := by
  simp [NormalPair.sample, h]

/-! ## Runs -/

/-- **The cache holds the pending half**: it waits for the second sample of a pair exactly when
a transform is pending, and then holds that transform's second value. -/
def NormalPair.Holds (c : NormalPair) : Option Generator → Prop
  | none => c.generate = false
  | some g₀ => c.generate = true ∧ c.z1 = g₀.transform.1.2

/-- **The cache refines drawing straight from the generator**: from a cache that holds what is
pending, every sequence of uses gives the same samples, leaves the generator in the same place,
and leaves a cache that holds what is then pending. -/
theorem Draw.run_direct :
    ∀ (ds : List Draw) (c : NormalPair) (p : Option Generator) (g : Generator), c.Holds p →
      (Draw.run ds c g).1 = (Draw.direct ds p g).1 ∧
        (Draw.run ds c g).2.2 = (Draw.direct ds p g).2.2 ∧
        (Draw.run ds c g).2.1.Holds (Draw.direct ds p g).2.1
  | [], _, _, _, h => ⟨rfl, rfl, h⟩
  | .normal lo hi :: ds, c, none, g, h => by
    have ih := Draw.run_direct ds ⟨true, g.transform.1.1, g.transform.1.2⟩ (some g) g.transform.2
      ⟨rfl, rfl⟩
    simp only [Draw.run, Draw.direct, NormalPair.sample_fresh (show c.generate = false from h)]
    exact ⟨by rw [ih.1], ih.2.1, ih.2.2⟩
  | .normal lo hi :: ds, c, some g₀, g, ⟨hgen, hz1⟩ => by
    have ih := Draw.run_direct ds { c with generate := false } none g rfl
    simp only [Draw.run, Draw.direct, NormalPair.sample_cached hgen]
    exact ⟨by rw [ih.1, hz1], ih.2.1, ih.2.2⟩
  | .uniform lo hi :: ds, c, p, g, h => Draw.run_direct ds c p (g.uniformInt lo hi).2 h
  | .other f :: ds, c, p, g, h => Draw.run_direct ds c p (f g) h

/-- Normal samples in a row, with nothing between them. -/
def Draw.normals (bounds : List (Int32 × Int32)) : List Draw :=
  bounds.map fun b => .normal b.1 b.2

theorem Draw.direct_normals :
    ∀ (bounds : List (Int32 × Int32)) (g : Generator),
      (Draw.direct (Draw.normals bounds) none g).2.2 =
          (fun g => g.transform.2)^[(bounds.length + 1) / 2] g ∧
        ∀ g₀, (Draw.direct (Draw.normals bounds) (some g₀) g).2.2 =
          (fun g => g.transform.2)^[bounds.length / 2] g
  | [], _ => ⟨rfl, fun _ => rfl⟩
  | b :: bounds, g => by
    have hnext := (Draw.direct_normals bounds g.transform.2).2 g
    have hsame := (Draw.direct_normals bounds g).1
    refine ⟨?_, fun g₀ => ?_⟩
    · -- the first sample transforms; the rest start with that transform pending
      simp only [Draw.normals, List.map_cons, Draw.direct] at hnext ⊢
      rw [hnext, List.length_cons,
        show (bounds.length + 1 + 1) / 2 = bounds.length / 2 + 1 by omega,
        Function.iterate_succ_apply]
    · simp only [Draw.normals, List.map_cons, Draw.direct] at hsame ⊢
      rw [hsame, List.length_cons]

/-- **The Box-Muller pair cache refines drawing straight from the generator.** From any
generator and a cache whose next sample transforms, any sequence of normal samples with any
uniform delays and other uses of the generator between them gives the samples of drawing
straight from the generator, where an odd-numbered sample transforms the generator as it stands
and returns `z₀ σ + μ` rounded, and an even-numbered one draws nothing and returns the `z₁` of
the transform before it, `z₁ σ + μ` rounded with its own bounds. The generator ends in the same
place, and the cache holds what is then pending. With no other use between them, `n` normal
samples end where `⌈n/2⌉` transforms leave the generator. -/
theorem cached_normals_refine_direct (c : NormalPair) (g : Generator) (hc : c.generate = false) :
    (∀ ds : List Draw,
      (Draw.run ds c g).1 = (Draw.direct ds none g).1 ∧
        (Draw.run ds c g).2.2 = (Draw.direct ds none g).2.2 ∧
        (Draw.run ds c g).2.1.Holds (Draw.direct ds none g).2.1) ∧
      ∀ bounds : List (Int32 × Int32),
        (Draw.run (Draw.normals bounds) c g).2.2 =
          (fun g => g.transform.2)^[(bounds.length + 1) / 2] g := by
  refine ⟨fun ds => Draw.run_direct ds c none g hc, fun bounds => ?_⟩
  rw [(Draw.run_direct (Draw.normals bounds) c none g hc).2.1]
  exact (Draw.direct_normals bounds g).1

/-- The pair of samples of the tests: from seed 99 and a fresh cache, two samples between 200
and 400 ms, with a reseed between them, draw as the direct drawing does. -/
theorem cached_normals_refine_direct_seed :
    NormalPair.fresh.generate = false ∧
      (Draw.run [.normal 200 400, .other fun _ => Generator.ofSeed 7, .normal 200 400]
          NormalPair.fresh (Generator.ofSeed 99)).1 =
        (Draw.direct [.normal 200 400, .other fun _ => Generator.ofSeed 7, .normal 200 400] none
          (Generator.ofSeed 99)).1 :=
  ⟨rfl, ((cached_normals_refine_direct NormalPair.fresh (Generator.ofSeed 99) rfl).1 _).1⟩

end TrafficShaper
