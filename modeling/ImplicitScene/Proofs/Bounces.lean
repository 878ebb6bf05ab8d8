import ImplicitScene.Proofs.Probing

/-!
# Numbers and counts of bounces

A pixel is traced by samples, and a sample by bounces.  Every bounce has a *seed*, a
number of 32 bits that is computed from the numbers of the sample and of the bounce.

The options bound neither the samples nor the bounces from above.  So seeds may be too
large for 32 bits, and so may the number of samples.  `numbers_exact_iff` says when
they are not.  The bounces of all samples have the numbers from one to their count
(`HasBounce.number_le`, `exists_bounce`), and the seed of a bounce is its number.

What is gathered has four components, of which the last counts the bounces where light
was gathered.  A bounce either counts one or ends the path with what it had
(`gathered_of_bounce`).  So a frame counts no more than there are bounces, and what it
adds to a pixel does not depend on what was there before (`tracePixel_counts`).
-/

namespace ImplicitScene

/-! ## Numbers of bounces -/

namespace Options

variable {o : Options}

/-- There is a bounce of this number in a sample of this number.  Samples are counted from zero,
and bounces from one. -/
structure HasBounce (o : Options) (iteration bounce : UInt32) : Prop where
  /-- The sample is one of those taken. -/
  iteration_le : iteration ≤ o.iterations
  /-- Bounces are counted from one. -/
  pos : 1 ≤ bounce
  /-- The sample has that many bounces. -/
  bounce_le : bounce ≤ o.bounces

/-- How many bounces the samples of a pixel have together. -/
def bounceCount (o : Options) : Nat := (o.iterations.toNat + 1) * o.bounces.toNat

/-- The number of a bounce among those of all samples. -/
def bounceNumber (o : Options) (iteration bounce : UInt32) : Nat :=
  iteration.toNat * o.bounces.toNat + bounce.toNat

theorem bounceCount_pos (h : o.validate = .ok ()) : 0 < o.bounceCount := by
  refine Nat.mul_pos (Nat.succ_pos _) (Nat.pos_of_ne_zero fun hzero => ?_)
  have hbounces : o.bounces = 0 := UInt32.toNat_inj.mp hzero
  unfold validate at h
  grind

theorem HasBounce.toNat_pos {i b : UInt32} (h : o.HasBounce i b) : 0 < b.toNat :=
  UInt32.le_iff_toNat_le.mp h.pos

theorem HasBounce.number_le {i b : UInt32} (h : o.HasBounce i b) :
    o.bounceNumber i b ≤ o.bounceCount := by
  have hi := UInt32.le_iff_toNat_le.mp h.iteration_le
  have hb := UInt32.le_iff_toNat_le.mp h.bounce_le
  calc
    o.bounceNumber i b ≤ o.iterations.toNat * o.bounces.toNat + o.bounces.toNat :=
      Nat.add_le_add (Nat.mul_le_mul_right _ hi) hb
    _ = o.bounceCount := (Nat.succ_mul _ _).symm

theorem HasBounce.number_pos {i b : UInt32} (h : o.HasBounce i b) : 0 < o.bounceNumber i b :=
  Nat.add_pos_right _ h.toNat_pos

/-- Every number up to the count is that of a bounce. -/
theorem exists_bounce {n : Nat} (hpos : 0 < n) (hle : n ≤ o.bounceCount) :
    ∃ i b, o.HasBounce i b ∧ o.bounceNumber i b = n := by
  have hbounces : 0 < o.bounces.toNat := Nat.pos_of_mul_pos_left (Nat.lt_of_lt_of_le hpos hle)
  have hsample : (n - 1) / o.bounces.toNat ≤ o.iterations.toNat := by
    refine Nat.le_of_lt_succ (Nat.div_lt_of_lt_mul ?_)
    rw [Nat.mul_comm]
    exact Nat.lt_of_lt_of_le (Nat.sub_one_lt_of_lt hpos) hle
  have hplace : (n - 1) % o.bounces.toNat + 1 ≤ o.bounces.toNat := Nat.mod_lt _ hbounces
  -- both are at most numbers of 32 bits
  have hi : (UInt32.ofNat ((n - 1) / o.bounces.toNat)).toNat = (n - 1) / o.bounces.toNat :=
    UInt32.toNat_ofNat_of_lt' (Nat.lt_of_le_of_lt hsample o.iterations.toNat_lt)
  have hb : (UInt32.ofNat ((n - 1) % o.bounces.toNat + 1)).toNat =
      (n - 1) % o.bounces.toNat + 1 :=
    UInt32.toNat_ofNat_of_lt' (Nat.lt_of_le_of_lt hplace o.bounces.toNat_lt)
  refine ⟨UInt32.ofNat ((n - 1) / o.bounces.toNat),
    UInt32.ofNat ((n - 1) % o.bounces.toNat + 1), ⟨?_, ?_, ?_⟩, ?_⟩
  · rw [UInt32.le_iff_toNat_le, hi]
    exact hsample
  · rw [UInt32.le_iff_toNat_le, hb]
    exact Nat.le_add_left _ _
  · rw [UInt32.le_iff_toNat_le, hb]
    exact hplace
  · rw [bounceNumber, hi, hb, ← Nat.add_assoc, Nat.mul_comm, Nat.div_add_mod,
      Nat.sub_add_cancel hpos]

/-- A bounce is known by its number. -/
theorem HasBounce.number_inj {i b j c : UInt32} (h : o.HasBounce i b) (h' : o.HasBounce j c)
    (heq : o.bounceNumber i b = o.bounceNumber j c) : i = j ∧ b = c := by
  have hread : ∀ {i b : UInt32}, o.HasBounce i b →
      (o.bounceNumber i b - 1) / o.bounces.toNat = i.toNat ∧
        (o.bounceNumber i b - 1) % o.bounces.toNat = b.toNat - 1 := by
    intro i b hbounce
    have hlt : b.toNat - 1 < o.bounces.toNat :=
      Nat.lt_of_lt_of_le (Nat.sub_one_lt_of_lt hbounce.toNat_pos)
        (UInt32.le_iff_toNat_le.mp hbounce.bounce_le)
    rw [bounceNumber, Nat.add_sub_assoc hbounce.toNat_pos, Nat.mul_comm,
      Nat.mul_add_div (Nat.zero_lt_of_lt hlt), Nat.div_eq_of_lt hlt, Nat.add_zero,
      Nat.mul_add_mod, Nat.mod_eq_of_lt hlt]
    exact ⟨rfl, rfl⟩
  obtain ⟨hi, hb⟩ := hread h
  obtain ⟨hj, hc⟩ := hread h'
  rw [heq] at hi hb
  have hsample : i.toNat = j.toNat := hi.symm.trans hj
  have hplace : b.toNat = c.toNat :=
    Nat.sub_one_cancel h.toNat_pos h'.toNat_pos (hb.symm.trans hc)
  exact ⟨UInt32.toNat_inj.mp hsample, UInt32.toNat_inj.mp hplace⟩

end Options

/-! ## Seeds -/

section Seeds

variable {o : Options}

open Tracer (seedIndex)

/-- A seed is the number of its bounce, as far as 32 bits hold it. -/
theorem seedIndex_toNat (o : Options) (i b : UInt32) :
    (seedIndex o i b).toNat = o.bounceNumber i b % 2 ^ 32 := by
  rw [seedIndex, UInt32.toNat_add, UInt32.toNat_mul, Nat.mod_add_mod, Options.bounceNumber]

theorem samples_exact_iff :
    o.samples.toNat = o.iterations.toNat + 1 ↔ o.iterations.toNat + 1 < 2 ^ 32 := by
  rw [Options.samples, UInt32.toNat_add]
  constructor
  · intro h
    rw [← h]
    exact Nat.mod_lt _ (by decide)
  · exact Nat.mod_eq_of_lt

theorem seeds_exact_iff (h : o.validate = .ok ()) :
    (∀ i b, o.HasBounce i b → (seedIndex o i b).toNat = o.bounceNumber i b) ↔
      o.bounceCount < 2 ^ 32 := by
  constructor
  · intro hexact
    -- the last bounce has the greatest number
    obtain ⟨i, b, hlast, hnumber⟩ :=
      Options.exists_bounce (Options.bounceCount_pos h) (Nat.le_refl o.bounceCount)
    rw [← hnumber, ← hexact i b hlast]
    exact UInt32.toNat_lt _
  · intro hcount i b hbounce
    rw [seedIndex_toNat, Nat.mod_eq_of_lt (Nat.lt_of_le_of_lt hbounce.number_le hcount)]

theorem seeds_distinct_iff :
    (∀ i b j c, o.HasBounce i b → o.HasBounce j c → seedIndex o i b = seedIndex o j c →
      i = j ∧ b = c) ↔ o.bounceCount ≤ 2 ^ 32 := by
  constructor
  · intro hdistinct
    by_contra hcount
    rw [Nat.not_le] at hcount
    -- the first bounce and the one that is 2 ^ 32 bounces later have one seed
    obtain ⟨i, b, hfirst, hone⟩ := Options.exists_bounce Nat.one_pos (Nat.one_le_of_lt hcount)
    obtain ⟨j, c, hlater, hnumber⟩ := Options.exists_bounce (Nat.succ_pos (2 ^ 32)) hcount
    have hsame : seedIndex o i b = seedIndex o j c := by
      rw [← UInt32.toNat_inj, seedIndex_toNat, seedIndex_toNat, hone, hnumber,
        Nat.succ_eq_add_one, Nat.add_mod_left]
    obtain ⟨rfl, rfl⟩ := hdistinct i b j c hfirst hlater hsame
    omega
  · intro hcount i b j c hb hc hsame
    refine hb.number_inj hc ?_
    rw [← UInt32.toNat_inj, seedIndex_toNat, seedIndex_toNat] at hsame
    have hbpos := hb.number_pos
    have hble := hb.number_le
    have hcpos := hc.number_pos
    have hcle := hc.number_le
    -- numbers from one to 2 ^ 32 are known by their remainders
    omega

/-- When the numbers of valid options are exact.  The number of samples is if it has 32 bits.  All
seeds are if there are fewer than 2 ^ 32 bounces.  And no two bounces have one seed if there are
2 ^ 32 bounces or fewer. -/
theorem numbers_exact_iff (h : o.validate = .ok ()) :
    (o.samples.toNat = o.iterations.toNat + 1 ↔ o.iterations.toNat + 1 < 2 ^ 32) ∧
    ((∀ i b, o.HasBounce i b →
        (seedIndex o i b).toNat = i.toNat * o.bounces.toNat + b.toNat) ↔
      (o.iterations.toNat + 1) * o.bounces.toNat < 2 ^ 32) ∧
    ((∀ i b j c, o.HasBounce i b → o.HasBounce j c → seedIndex o i b = seedIndex o j c →
        i = j ∧ b = c) ↔
      (o.iterations.toNat + 1) * o.bounces.toNat ≤ 2 ^ 32) :=
  ⟨samples_exact_iff, seeds_exact_iff h, seeds_distinct_iff⟩

/-- With as many samples as there can be, of one bounce each, the number of samples is lost and the
last seed is not exact, and still all seeds are distinct. -/
theorem numbers_exact_iff_greatest :
    let o : Options := { iterations := 0xFFFFFFFF, bounces := 1 }
    o.validate = .ok () ∧ o.samples.toNat ≠ o.iterations.toNat + 1 ∧
      (¬∀ i b, o.HasBounce i b → (seedIndex o i b).toNat = i.toNat * o.bounces.toNat + b.toNat) ∧
      ∀ i b j c, o.HasBounce i b → o.HasBounce j c → seedIndex o i b = seedIndex o j c →
        i = j ∧ b = c := by
  intro o
  have hvalid : o.validate = .ok () := by decide
  obtain ⟨hsamples, hexact, hdistinct⟩ := numbers_exact_iff hvalid
  exact ⟨hvalid, mt hsamples.mp (by decide), mt hexact.mp (by decide), hdistinct.mpr (by decide)⟩

/-- Options are valid where the number of samples comes out as zero, where a seed does, and where
two bounces have one seed. -/
theorem numbers_wrap :
    let most : Options := { iterations := 0xFFFFFFFF }
    let long : Options := { iterations := 1, bounces := 0xFFFFFFFF }
    let many : Options := { iterations := 0x80000000, bounces := 2 }
    (most.validate = .ok () ∧ most.samples = 0) ∧
    (long.validate = .ok () ∧ long.HasBounce 1 1 ∧ seedIndex long 1 1 = 0) ∧
    (many.validate = .ok () ∧ many.HasBounce 0 1 ∧ many.HasBounce 0x80000000 1 ∧
      seedIndex many 0x80000000 1 = seedIndex many 0 1) := by
  intro most long many
  refine ⟨⟨by decide, by decide⟩, ⟨by decide, ⟨by decide, by decide, by decide⟩, by decide⟩,
    by decide, ⟨by decide, by decide, by decide⟩, ⟨by decide, by decide, by decide⟩, by decide⟩

end Seeds

/-! ## Events -/

/-- The sum of a number of ones, each added to those before it. -/
def ones : Nat → Float32
  | 0 => 0.0
  | n + 1 => ones n + 1.0

namespace Tracer

/-- What was gathered counts at most so many events. -/
def Counts (most : Nat) (gathered : Float4) : Prop := ∃ n ≤ most, gathered.w = ones n

theorem counts_zero : Counts 0 .zero := ⟨0, Nat.le_refl 0, rfl⟩

theorem Counts.mono {k l : Nat} {gathered : Float4} (h : Counts k gathered) (hle : k ≤ l) :
    Counts l gathered := by
  obtain ⟨n, hn, hw⟩ := h
  exact ⟨n, Nat.le_trans hn hle, hw⟩

/-- Light that is gathered counts one more. -/
theorem Counts.gather {k : Nat} {path : Path} (h : Counts k path.gathered) (emissivity : Float3) :
    Counts (k + 1) (path.gather emissivity) := by
  obtain ⟨n, hn, hw⟩ := h
  refine ⟨n + 1, Nat.succ_le_succ hn, ?_⟩
  show path.gathered.w + 1.0 = ones n + 1.0
  rw [hw]

/-- What the path has gathered after a bounce, whether it goes on or not. -/
def Next.gathered : Next → Float4
  | stop gathered => gathered
  | go path => path.gathered

/-- A surface gives off its light in the same way when it absorbs, refracts and reflects. -/
theorem leaveSurface_gathered (epsilon : Float32) (air : MaterialSample) (path : Path)
    (position normal : Float3) (material : MaterialSample) (noise : Float2) :
    (leaveSurface epsilon air path position normal material noise).gathered =
      path.gather material.emissivity := by
  unfold leaveSurface
  dsimp only
  split
  next => rfl
  next => split <;> rfl

/-- A bounce either ends the path with what it had or gathers light once. -/
theorem gathered_of_bounce {v : Probe} {steps : Nat} {air : MaterialSample} {noise : Float2}
    {path : Path} {next : Next} (h : bounce v steps air noise path = .ok next) :
    next = .stop path.gathered ∨ ∃ emissivity, next.gathered = path.gather emissivity := by
  obtain ⟨m, -, hm⟩ := ok_of_bind_eq_ok h
  split at hm
  next => exact Or.inl (Except.ok.inj hm).symm
  next =>
    refine Or.inr ?_
    split at hm
    next =>
      obtain rfl := Except.ok.inj hm
      exact ⟨path.medium.emissivity, rfl⟩
    next =>
      obtain ⟨normal, -, hnormal⟩ := ok_of_bind_eq_ok hm
      obtain ⟨material, -, hnext⟩ := ok_of_bind_eq_ok hnormal
      obtain rfl := Except.ok.inj hnext
      exact ⟨material.emissivity, leaveSurface_gathered _ _ _ _ _ _ _⟩

theorem Counts.bounce {v : Probe} {steps k : Nat} {air : MaterialSample} {noise : Float2}
    {path : Path} {next : Next} (hk : Counts k path.gathered)
    (h : bounce v steps air noise path = .ok next) : Counts (k + 1) next.gathered := by
  rcases gathered_of_bounce h with rfl | ⟨emissivity, hgathered⟩
  · exact hk.mono (Nat.le_succ k)
  · rw [hgathered]
    exact hk.gather emissivity

/-- A path counts at most one event for each bounce that is left. -/
theorem Counts.follow {t : Tracer} {v : Probe} {air : MaterialSample} {iteration : UInt32}
    {left number k : Nat} {path : Path} {out : Float4} (hk : Counts k path.gathered)
    (h : t.follow v air iteration left number path = .ok out) : Counts (k + left) out := by
  induction left generalizing number k path with
  | zero =>
      obtain rfl := Except.ok.inj h
      exact hk
  | succ left ih =>
      obtain ⟨next, hnext, hrest⟩ := ok_of_bind_eq_ok h
      have hstep := hk.bounce hnext
      cases next with
      | stop gathered =>
          obtain rfl := Except.ok.inj hrest
          exact hstep.mono (by omega)
      | go path => exact (ih hstep hrest).mono (by omega)

/-- Samples count at most one event for each of their bounces. -/
theorem Counts.samples {t : Tracer} {v : Probe} {c : View} {left number k : Nat}
    {gathered out : Float4} (hk : Counts k gathered)
    (h : t.samples v c left number gathered = .ok out) :
    Counts (k + left * t.options.bounces.toNat) out := by
  induction left generalizing number k gathered with
  | zero =>
      obtain rfl := Except.ok.inj h
      exact hk.mono (Nat.le_add_right _ _)
  | succ left ih =>
      obtain ⟨first, hfirst, hrest⟩ := ok_of_bind_eq_ok h
      obtain ⟨air, -, hfollow⟩ := ok_of_bind_eq_ok hfirst
      have hsample : Counts (k + t.options.bounces.toNat) first := Counts.follow hk hfollow
      refine (ih hsample hrest).mono (Nat.le_of_eq ?_)
      rw [Nat.succ_mul, Nat.add_assoc, Nat.add_comm t.options.bounces.toNat]

theorem radiance_counts {t : Tracer} {uv : Float2} {frame : Frame} {added : Float4}
    (h : t.radiance uv frame = .ok added) : Counts t.options.bounceCount added := by
  obtain ⟨c, -, hsamples⟩ := ok_of_bind_eq_ok h
  have hcounts := counts_zero.samples hsamples
  rwa [Nat.zero_add] at hcounts

/-- What a frame adds to: what was gathered before, or half of it when the mouse button is down. -/
def base (clicked : Bool) (previous : Float4) : Float4 :=
  if clicked then previous * (0.5 : Float32) else previous

/-- A frame that succeeds adds to a pixel the same four numbers, whatever was gathered before and
whether or not the mouse button is down.  The last of them counts events, at most one for each
bounce of each sample. -/
theorem tracePixel_counts (t : Tracer) {uv : Float2} {frame : Frame} {previous out : Float4}
    (h : t.tracePixel uv frame previous = .ok out) :
    ∃ (added : Float4) (n : Nat),
      n ≤ (t.options.iterations.toNat + 1) * t.options.bounces.toNat ∧ added.w = ones n ∧
      out.w = (base frame.clicked previous).w + ones n ∧
      out = base frame.clicked previous + added ∧
      ∀ clicked before, t.tracePixel uv { frame with clicked } before =
        .ok (base clicked before + added) := by
  obtain ⟨added, hadded, hout⟩ := ok_of_bind_eq_ok h
  obtain ⟨n, hn, hw⟩ := radiance_counts hadded
  obtain rfl := Except.ok.inj hout
  refine ⟨added, n, hn, hw, ?_, rfl, fun clicked before => ?_⟩
  · rw [← hw]
    rfl
  · -- neither what was before nor the button takes part in tracing
    have hsame : t.radiance uv { frame with clicked } = .ok added := hadded
    rw [tracePixel, hsame]
    rfl

/-- A picture of a scene without snippets while the mouse button is down, with three samples of four
bounces. -/
theorem tracePixel_counts_clicked :
    let t : Tracer := ⟨Builder.diamond.scene, { iterations := 2 }, by decide⟩
    let frame : Frame := { time := 0.5, clicked := true }
    let previous : Float4 := ⟨1.0, 2.0, 3.0, 4.0⟩
    ∃ out, t.tracePixel (.splat 0.25) frame previous = .ok out ∧
      ∃ n ≤ 12, out.w = 4.0 * 0.5 + ones n := by
  intro t frame previous
  have hfails := tracePixel_failsOnlyIf (t := t) Builder.diamond_reachable.wellFormed rfl
    (.splat 0.25) frame previous
  cases htrace : t.tracePixel (.splat 0.25) frame previous with
  | error e =>
      rw [htrace] at hfails
      exact absurd hfails.1 Builder.diamond_not_hasSnippet
  | ok out =>
      obtain ⟨added, n, hn, -, hw, -⟩ := t.tracePixel_counts htrace
      exact ⟨out, rfl, n, hn, hw⟩

end Tracer

end ImplicitScene
