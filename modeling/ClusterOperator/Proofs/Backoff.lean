import Mathlib.Algebra.Order.Field.Rat
import Mathlib.Tactic.Linarith
import Mathlib.Tactic.Positivity
import Mathlib.Tactic.Ring
import ClusterOperator.Backoff

/-!
# Delays that never shrink

In exact arithmetic the schedule is a geometric one. Each delay strays by a part of itself, but
if the next one is so much longer that even the shortest one it can come to is no shorter than
the longest one before it, then the delays never shrink, whatever is drawn.
-/

namespace ClusterOperator

instance : Scale ℚ where
  zero := 0
  one := 1
  add a b := a + b
  sub a b := a - b
  mul a b := a * b
  less a b := a < b
  isFinite _ := true

@[simp] theorem Scale.zero_rat : (zero : ℚ) = 0 := rfl

@[simp] theorem Scale.less_rat (a b : ℚ) : less a b = decide (a < b) := rfl

@[simp] theorem Scale.isFinite_rat (a : ℚ) : isFinite a = true := rfl

theorem Scale.powerFrom_eq (acc base : ℚ) (n : Nat) : powerFrom acc base n = acc * base ^ n := by
  induction n using Nat.strongRecOn generalizing acc base with
  | ind n ih =>
    have hodd : (if n % 2 = 1 then acc * base else acc) = acc * base ^ (n % 2) := by
      rcases Nat.mod_two_eq_zero_or_one n with h | h <;> simp [h]
    rw [powerFrom]
    change (if _ : n / 2 = 0 then if n % 2 = 1 then acc * base else acc
      else powerFrom (if n % 2 = 1 then acc * base else acc) (base * base) (n / 2)) = _
    rw [hodd]
    split
    · next h =>
      have hn : n % 2 = n := by omega
      rw [hn]
    · calc powerFrom (acc * base ^ (n % 2)) (base * base) (n / 2)
          = acc * base ^ (n % 2) * (base * base) ^ (n / 2) := ih _ (by omega) _ _
        _ = acc * base ^ (n % 2 + 2 * (n / 2)) := by rw [pow_add, pow_mul, sq, mul_assoc]
        _ = acc * base ^ n := by rw [Nat.mod_add_div]

theorem Scale.power_eq (base : ℚ) (n : Nat) : power base n = base ^ n :=
  (powerFrom_eq 1 base n).trans (one_mul _)

/-- How long a delay is, in seconds. -/
def Delay.length (cap : ℚ) : Delay ℚ → ℚ
  | .capped => cap
  | .seconds s => s

namespace Growth

/-- A delay that strays up is no longer than the next one when it strays down. -/
structure Steady (g : Growth ℚ) : Prop where
  initial_nonneg : 0 ≤ g.initial
  cap_nonneg : 0 ≤ g.cap
  jitter_nonneg : 0 ≤ g.jitter
  jitter_lt_one : g.jitter < 1
  widens : 1 + g.jitter ≤ g.multiplier * (1 - g.jitter)

variable {g : Growth ℚ} {m n : Nat} {draw draw' delay : ℚ}

theorem base_eq (h : n ≤ maxExponent) : g.base n = g.initial * g.multiplier ^ n := by
  have hmin : min n maxExponent = n := Nat.min_eq_left h
  unfold base
  rw [hmin, Scale.power_eq]
  rfl

theorem stray_eq (g : Growth ℚ) (delay draw : ℚ) :
    g.stray delay draw = delay * (1 + g.jitter * (2 * draw - 1)) := by
  change delay + (draw * (delay * g.jitter) * (1 + 1) - delay * g.jitter) = _
  ring

theorem length_delay (g : Growth ℚ) (n : Nat) (draw : ℚ) :
    (g.delay n draw).length g.cap =
      if g.base n < g.cap then min (max 0 (g.stray (g.base n) draw)) g.cap else g.cap := by
  simp only [Growth.delay, Scale.isFinite_rat, Scale.less_rat, Scale.zero_rat, decide_eq_true_eq]
  by_cases hb : g.base n < g.cap
  · simp [hb, Delay.length, min_def_lt, max_def_lt]
  · simp [hb, Delay.length]

namespace Steady

theorem one_le_multiplier (h : g.Steady) : 1 ≤ g.multiplier := by
  by_contra hlt
  have hj := h.jitter_nonneg
  have hpos : 0 < 1 - g.jitter := by linarith [h.jitter_lt_one]
  have : g.multiplier * (1 - g.jitter) < 1 * (1 - g.jitter) :=
    mul_lt_mul_of_pos_right (not_le.mp hlt) hpos
  linarith [h.widens]

theorem base_nonneg (h : g.Steady) (n : Nat) : 0 ≤ g.initial * g.multiplier ^ n :=
  mul_nonneg h.initial_nonneg (pow_nonneg (by linarith [h.one_le_multiplier]) n)

theorem base_mono (h : g.Steady) (hmn : m ≤ n) :
    g.initial * g.multiplier ^ m ≤ g.initial * g.multiplier ^ n :=
  mul_le_mul_of_nonneg_left (pow_le_pow_right₀ h.one_le_multiplier hmn) h.initial_nonneg

theorem base_widens (h : g.Steady) (hmn : m < n) :
    (1 + g.jitter) * (g.initial * g.multiplier ^ m) ≤
      (1 - g.jitter) * (g.initial * g.multiplier ^ n) := by
  have hpos : 0 ≤ 1 - g.jitter := by linarith [h.jitter_lt_one]
  calc (1 + g.jitter) * (g.initial * g.multiplier ^ m)
      ≤ g.multiplier * (1 - g.jitter) * (g.initial * g.multiplier ^ m) :=
        mul_le_mul_of_nonneg_right h.widens (h.base_nonneg m)
    _ = (1 - g.jitter) * (g.initial * g.multiplier ^ (m + 1)) := by ring
    _ ≤ (1 - g.jitter) * (g.initial * g.multiplier ^ n) :=
        mul_le_mul_of_nonneg_left (h.base_mono hmn) hpos

theorem le_stray (h : g.Steady) (hd : 0 ≤ delay) (hdraw : 0 ≤ draw) :
    (1 - g.jitter) * delay ≤ g.stray delay draw := by
  have hn : 0 ≤ delay * (g.jitter * (2 * draw)) := by
    have := h.jitter_nonneg
    positivity
  rw [stray_eq]
  linarith

theorem stray_le (h : g.Steady) (hd : 0 ≤ delay) (hdraw : draw < 1) :
    g.stray delay draw ≤ (1 + g.jitter) * delay := by
  have hn : 0 ≤ delay * (g.jitter * (2 * (1 - draw))) := by
    have := h.jitter_nonneg
    have : 0 ≤ 1 - draw := by linarith
    positivity
  rw [stray_eq]
  linarith

/-- Once the schedule has come to the maximum, that is what is waited. -/
theorem length_capped (hn : n ≤ maxExponent) (hb : g.cap ≤ g.initial * g.multiplier ^ n) (draw : ℚ) :
    (g.delay n draw).length g.cap = g.cap := by
  rw [length_delay, base_eq hn, if_neg (not_lt.mpr hb)]

/-- Before that it is waited for about as long as the schedule says. -/
theorem length_strayed (h : g.Steady) (hn : n ≤ maxExponent)
    (hb : g.initial * g.multiplier ^ n < g.cap) (hdraw : 0 ≤ draw ∧ draw < 1) :
    min ((1 - g.jitter) * (g.initial * g.multiplier ^ n)) g.cap ≤ (g.delay n draw).length g.cap ∧
      (g.delay n draw).length g.cap ≤ min ((1 + g.jitter) * (g.initial * g.multiplier ^ n)) g.cap := by
  have hbase := h.base_nonneg n
  have hlow := h.le_stray hbase hdraw.1
  have hhigh := h.stray_le hbase hdraw.2
  have hpos : 0 ≤ g.stray (g.initial * g.multiplier ^ n) draw :=
    (mul_nonneg (by linarith [h.jitter_lt_one]) hbase).trans hlow
  rw [length_delay, base_eq hn, if_pos hb, max_eq_right hpos]
  exact ⟨min_le_min_right _ hlow, min_le_min_right _ hhigh⟩

theorem length_le_cap (h : g.Steady) (hn : n ≤ maxExponent) (hdraw : 0 ≤ draw ∧ draw < 1) :
    (g.delay n draw).length g.cap ≤ g.cap := by
  by_cases hb : g.initial * g.multiplier ^ n < g.cap
  · exact (h.length_strayed hn hb hdraw).2.trans (min_le_right _ _)
  · exact (length_capped hn (not_lt.mp hb) draw).le

/-- A later delay is no shorter, whatever is drawn for both. -/
theorem length_mono (h : g.Steady) (hmn : m < n) (hn : n ≤ maxExponent)
    (hdraw : 0 ≤ draw ∧ draw < 1) (hdraw' : 0 ≤ draw' ∧ draw' < 1) :
    (g.delay m draw).length g.cap ≤ (g.delay n draw').length g.cap := by
  have hm : m ≤ maxExponent := by omega
  by_cases hb : g.initial * g.multiplier ^ n < g.cap
  · have hb' : g.initial * g.multiplier ^ m < g.cap := (h.base_mono hmn.le).trans_lt hb
    calc (g.delay m draw).length g.cap
        ≤ min ((1 + g.jitter) * (g.initial * g.multiplier ^ m)) g.cap :=
          (h.length_strayed hm hb' hdraw).2
      _ ≤ min ((1 - g.jitter) * (g.initial * g.multiplier ^ n)) g.cap :=
          min_le_min_right _ (h.base_widens hmn)
      _ ≤ (g.delay n draw').length g.cap := (h.length_strayed hn hb hdraw').1
  · rw [length_capped hn (not_lt.mp hb)]
    exact h.length_le_cap hm hdraw

end Steady

end Growth

/-! ## One failure after another -/

namespace Cursor

/-- What befalls a cursor: a failure, with what is drawn for its delay, or a success. -/
inductive Event where
  | failed (draw : ℚ)
  | succeeded

def meet (c : Cursor ℚ) : Event → Cursor ℚ
  | .failed draw => (c.next draw).2
  | .succeeded => c.reset

/-- How long is waited after each of some failures in a row. -/
def waits (c : Cursor ℚ) : List ℚ → List ℚ
  | [] => []
  | draw :: draws => (c.next draw).1.length c.growth.cap :: (c.next draw).2.waits draws

theorem growth_foldl (c : Cursor ℚ) (past : List Event) : (past.foldl meet c).growth = c.growth := by
  induction past generalizing c with
  | nil => rfl
  | cons e past ih =>
    rw [List.foldl_cons, ih]
    cases e <;> rfl

/-- After a success the schedule is at its start again. -/
theorem reset_foldl (g : Growth ℚ) (past : List Event) :
    (past.foldl meet (start g)).reset = start g := by
  have h := growth_foldl (start g) past
  simp only [reset, start] at *
  rw [h]

theorem length_waits (c : Cursor ℚ) (draws : List ℚ) : (c.waits draws).length = draws.length := by
  induction draws generalizing c with
  | nil => rfl
  | cons draw draws ih => rw [waits, List.length_cons, ih, List.length_cons]

theorem getElem?_waits {g : Growth ℚ} {n : Nat} {draws : List ℚ} (hn : n + draws.length ≤ 2 ^ 31)
    (i : Nat) :
    (waits ⟨g, n⟩ draws)[i]? = draws[i]?.map fun draw => (g.delay (n + i) draw).length g.cap := by
  induction draws generalizing n i with
  | nil => rfl
  | cons draw draws ih =>
    have hone : oneMore n = n + 1 := by
      simp only [List.length_cons] at hn
      simp only [oneMore, maxFailures]
      omega
    have hlen : n + 1 + draws.length ≤ 2 ^ 31 := by
      simp only [List.length_cons] at hn
      omega
    cases i with
    | zero => rfl
    | succ i =>
      change (waits ⟨g, oneMore n⟩ draws)[i]? = draws[i]?.map _
      rw [hone, ih hlen, Nat.add_right_comm, Nat.add_assoc]

/-- Between two successes the delays grow to the maximum and never shrink on the way. -/
theorem waits_grow {g : Growth ℚ} (hg : g.Steady) (past : List Event) {draws : List ℚ}
    (hdraws : ∀ draw ∈ draws, 0 ≤ draw ∧ draw < 1) (hlen : draws.length ≤ 2 ^ 31) :
    let c := (past.foldl meet (start g)).reset
    c.attempt = 0 ∧ (c.waits draws).length = draws.length ∧ (c.waits draws).Pairwise (· ≤ ·) ∧
      ∀ i wait, (c.waits draws)[i]? = some wait → wait ≤ g.cap ∧
        (∀ j ≤ i, g.cap ≤ g.initial * g.multiplier ^ j → wait = g.cap) ∧
        ((∀ j ≤ i, g.initial * g.multiplier ^ j < g.cap) →
          min ((1 - g.jitter) * (g.initial * g.multiplier ^ i)) g.cap ≤ wait ∧
            wait ≤ min ((1 + g.jitter) * (g.initial * g.multiplier ^ i)) g.cap) := by
  intro c
  have hc : c = ⟨g, 0⟩ := reset_foldl g past
  have hget (i : Nat) : (c.waits draws)[i]? =
      draws[i]?.map fun draw => (g.delay i draw).length g.cap := by
    have h : (waits ⟨g, 0⟩ draws)[i]? = _ := getElem?_waits (by omega) i
    rwa [Nat.zero_add, ← hc] at h
  have hfit {i : Nat} (hi : i < draws.length) : i ≤ Growth.maxExponent := by
    simp only [Growth.maxExponent]
    omega
  have hwait {i : Nat} {wait : ℚ} (h : (c.waits draws)[i]? = some wait) :
      ∃ draw, (0 ≤ draw ∧ draw < 1) ∧ i ≤ Growth.maxExponent ∧
        wait = (g.delay i draw).length g.cap := by
    rw [hget] at h
    obtain ⟨draw, hd, rfl⟩ := Option.map_eq_some_iff.mp h
    exact ⟨draw, hdraws draw (List.mem_of_getElem? hd),
      hfit (List.getElem?_eq_some_iff.mp hd).1, rfl⟩
  refine ⟨by rw [hc], length_waits c draws, ?_, ?_⟩
  · rw [List.pairwise_iff_getElem]
    intro i j hi hj hij
    obtain ⟨draw, hd, -, hw⟩ := hwait (List.getElem?_eq_getElem hi)
    obtain ⟨draw', hd', hj', hw'⟩ := hwait (List.getElem?_eq_getElem hj)
    rw [hw, hw']
    exact hg.length_mono hij hj' hd hd'
  · intro i wait h
    obtain ⟨draw, hd, hi, rfl⟩ := hwait h
    refine ⟨hg.length_le_cap hi hd, fun j hj hcap => ?_, fun hless => ?_⟩
    · exact Growth.Steady.length_capped hi (hcap.trans (hg.base_mono hj)) draw
    · exact hg.length_strayed hi (hless i (Nat.le_refl i)) hd

/-- From one second to three. The third delay is the maximum. -/
def briefGrowth : Growth ℚ := ⟨1, 3, 2, 1 / 10⟩

theorem briefGrowth_steady : briefGrowth.Steady := by
  constructor <;> norm_num [briefGrowth]

theorem waits_grow_brief :
    let c := ([.failed 0, .succeeded, .failed (1 / 2)].foldl meet (start briefGrowth)).reset
    (∀ draw ∈ ([9 / 10, 0, 1 / 2] : List ℚ), 0 ≤ draw ∧ draw < 1) ∧
      c.attempt = 0 ∧ c.waits [9 / 10, 0, 1 / 2] = [27 / 25, 9 / 5, 3] ∧
      (c.waits [9 / 10, 0, 1 / 2]).Pairwise (· ≤ ·) := by
  intro c
  have hdraws : ∀ draw ∈ ([9 / 10, 0, 1 / 2] : List ℚ), 0 ≤ draw ∧ draw < 1 := by
    intro draw hd
    simp only [List.mem_cons, List.not_mem_nil, or_false] at hd
    rcases hd with rfl | rfl | rfl <;> norm_num
  obtain ⟨hzero, -, hgrow, -⟩ :=
    waits_grow briefGrowth_steady [.failed 0, .succeeded, .failed (1 / 2)] hdraws (by norm_num)
  refine ⟨hdraws, hzero, ?_, hgrow⟩
  have hc : c = ⟨briefGrowth, 0⟩ := reset_foldl briefGrowth _
  refine List.ext_getElem? fun i => ?_
  rw [hc, getElem?_waits (by norm_num)]
  have hlength {n : Nat} (hn : n ≤ Growth.maxExponent) (draw : ℚ) :
      (briefGrowth.delay n draw).length briefGrowth.cap =
        if (2 : ℚ) ^ n < 3 then min (max 0 (2 ^ n * (1 + 1 / 10 * (2 * draw - 1)))) 3 else 3 := by
    rw [Growth.length_delay, Growth.stray_eq, Growth.base_eq hn]
    simp [briefGrowth]
  match i with
  | 0 | 1 | 2 =>
    simp only [List.getElem?_cons_zero, List.getElem?_cons_succ, Option.map_some, Option.some.injEq]
    rw [hlength (by decide)]
    norm_num
  | i + 3 => rfl

end Cursor

end ClusterOperator
