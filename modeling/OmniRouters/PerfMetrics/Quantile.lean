import Mathlib.Algebra.BigOperators.Fin
import Mathlib.Data.Fin.Tuple.Basic
import Mathlib.Data.Rat.Defs
import Mathlib.Tactic.FieldSimp
import Mathlib.Tactic.Ring

/-!
# The quantile reservoir

Model of `quantileReservoir.add` (`pkg/perf_metrics/quantile.go`). The counter `seen` does not
overflow. Observations are of any type with their values, so that two of the same value can be told
apart; `map_observe` says that the values are kept as in the source. The acceptance of an
observation and the slot it takes come from the same random value, so the two are counted together.

* `observation_kept`: after `n` observations each of them is in the reservoir for the share
  `quantileReservoirSize / n` of the random values.
-/

namespace OmniRouters.PerfMetrics

open Finset

/-- `quantileReservoirSize` (line 7). -/
def quantileReservoirSize : ℕ := 256

/-- `quantileReservoir` (lines 9-12). -/
structure QuantileReservoir (α : Type) where
  values : List α := []
  seen : ℕ := 0

variable {α β : Type} {R n m i : ℕ}

/-- `add` (lines 14-27). -/
def QuantileReservoir.add (r : QuantileReservoir α) (amount : α → ℤ) (value : α) (random : ℕ) :
    QuantileReservoir α :=
  if amount value ≤ 0 then r
  else
    let seen := r.seen + 1
    if r.values.length < quantileReservoirSize then ⟨r.values ++ [value], seen⟩
    else if random % seen < quantileReservoirSize then
      ⟨r.values.set (random % quantileReservoirSize) value, seen⟩
    else ⟨r.values, seen⟩

/-- The reservoir after the first `n` observations. -/
def observe (amount : α → ℤ) (obs : ℕ → α) : (n : ℕ) → (Fin n → Fin R) → QuantileReservoir α
  | 0, _ => {}
  | n + 1, random =>
    (observe amount obs n (Fin.init random)).add amount (obs n) (random (Fin.last n))

/-- The reservoir holds the values of the observations it holds. -/
theorem map_observe (amount : α → ℤ) (obs : ℕ → α) (random : Fin n → Fin R) :
    (observe amount obs n random).values.map amount =
        (observe id (amount ∘ obs) n random).values ∧
      (observe amount obs n random).seen = (observe id (amount ∘ obs) n random).seen := by
  induction n with
  | zero => exact ⟨rfl, rfl⟩
  | succ n ih =>
    obtain ⟨hvalues, hseen⟩ := ih (Fin.init random)
    have hlength := congrArg List.length hvalues
    rw [List.length_map] at hlength
    simp only [observe, QuantileReservoir.add, hlength, hseen, id, Function.comp_apply]
    split_ifs <;> simp [hvalues, hseen, List.map_set]

/-! ## Counting random values -/

theorem mod_of_complement {size b : ℕ} (hb : b < size) (x : ℕ) :
    (x + (b + (size - x % size))) % size = b := by
  have hlt := Nat.mod_lt x (Nat.zero_lt_of_lt hb)
  have hdiv := Nat.div_add_mod x size
  have heq : x + (b + (size - x % size)) = b + size * (x / size + 1) := by
    rw [mul_add]
    omega
  rw [heq, Nat.add_mul_mod_self_left, Nat.mod_eq_of_lt hb]

/-- A slot is taken by one in `m` random values: whatever the quotient by `m` is, one remainder
below the size leads to the slot. -/
theorem card_slot {size slot : ℕ} (hm : m ∣ R) (hsize : size ≤ m) (hslot : slot < size) :
    #{c ∈ range R | c % m < size ∧ c % size = slot} = R / m := by
  obtain ⟨k, rfl⟩ := hm
  have hpos : 0 < m := by omega
  have hrest (q : ℕ) : (slot + (size - m * q % size)) % size < size := Nat.mod_lt _ (by omega)
  rw [Nat.mul_div_cancel_left k hpos]
  refine (card_bij' (fun c _ => c / m)
    (fun q _ => m * q + (slot + (size - m * q % size)) % size) ?_ ?_ ?_ ?_).trans (card_range k)
  · intro c hc
    exact mem_range.2 (Nat.div_lt_of_lt_mul (mem_range.1 (mem_filter.1 hc).1))
  · intro q hq
    have hq : m * q + m ≤ m * k := Nat.mul_le_mul_left m (mem_range.1 hq)
    have hlt := hrest q
    refine mem_filter.2 ⟨mem_range.2 (by omega), ?_, ?_⟩
    · rwa [Nat.mul_add_mod, Nat.mod_eq_of_lt (hlt.trans_le hsize)]
    · rw [Nat.add_mod_mod, mod_of_complement hslot]
  · intro c hc
    obtain ⟨-, hlt, rfl⟩ := mem_filter.1 hc
    have hsame := mod_of_complement hlt (m * (c / m))
    rw [← add_assoc, Nat.div_add_mod] at hsame
    rw [Nat.mod_add_mod, hsame, Nat.div_add_mod]
  · intro q _
    rw [Nat.mul_add_div hpos, Nat.div_eq_of_lt ((hrest q).trans_le hsize), add_zero]

theorem card_accepted {size : ℕ} (hm : m ∣ R) (hsize : size ≤ m) (hpos : 0 < size) :
    #{c ∈ range R | c % m < size} = size * (R / m) := by
  rw [card_eq_sum_card_fiberwise (t := range size) fun c _ => by simpa using Nat.mod_lt c hpos]
  rw [sum_congr rfl fun slot hslot => ?_, sum_const, card_range, smul_eq_mul]
  rw [filter_filter]
  exact card_slot hm hsize (mem_range.1 hslot)

theorem card_fin_filter (p : ℕ → Prop) [DecidablePred p] :
    #{c : Fin R | p c} = #{c ∈ range R | p c} := by
  rw [card_filter, card_filter, Fin.sum_univ_eq_sum_range fun c => if p c then 1 else 0]

/-- The last random value is counted for each choice of the others. -/
theorem card_filter_snoc (p : (Fin (n + 1) → Fin R) → Prop) [DecidablePred p] :
    #{random | p random} = ∑ random, #{c | p (Fin.snoc random c)} := by
  simp_rw [card_filter]
  rw [← (Fin.snocEquiv fun _ => Fin R).sum_comp, Fintype.sum_prod_type_right]
  rfl

/-- The count of an observation that one in `n + 1` of the last values drops. -/
theorem count_step {size kept kept' q : ℕ} (hq : q * (n + 1) = R)
    (hsum : kept' + kept * q = kept * R) (hkept : kept * n = size * R ^ n) :
    kept' * (n + 1) = size * R ^ (n + 1) := by
  refine Nat.add_right_cancel (m := kept * R) ?_
  calc kept' * (n + 1) + kept * R = (kept' + kept * q) * (n + 1) := by
        rw [add_mul, mul_assoc kept, hq]
    _ = kept * n * R + kept * R := by
        rw [hsum]
        ring
    _ = size * R ^ (n + 1) + kept * R := by rw [hkept, pow_succ, mul_assoc]

/-! ## The full reservoir -/

/-- A full reservoir after `n` observations: it holds distinct ones of them. -/
structure Full (obs : ℕ → α) (n : ℕ) (r : QuantileReservoir α) : Prop where
  seen : r.seen = n
  length : r.values.length = quantileReservoirSize
  nodup : r.values.Nodup
  old : ∀ x ∈ r.values, ∃ k < n, obs k = x

section Run

variable {amount : α → ℤ} {obs : ℕ → α} {r : QuantileReservoir α}
  (hpos : ∀ k, 0 < amount (obs k)) (hinj : Function.Injective obs)

include hpos

theorem observe_filling (hn : n ≤ quantileReservoirSize) (random : Fin n → Fin R) :
    observe amount obs n random = ⟨(List.range n).map obs, n⟩ := by
  induction n with
  | zero => rfl
  | succ n ih =>
    have hlen : ((List.range n).map obs).length < quantileReservoirSize := by
      rw [List.length_map, List.length_range]
      exact hn
    rw [observe, ih (Nat.le_of_succ_le hn), QuantileReservoir.add, if_neg (not_le.2 (hpos n)),
      if_pos hlen, List.range_succ, List.map_append]
    rfl

theorem Full.add_eq (h : Full obs n r) (c : ℕ) : r.add amount (obs n) c =
    ⟨if c % (n + 1) < quantileReservoirSize then r.values.set (c % quantileReservoirSize) (obs n)
      else r.values, n + 1⟩ := by
  have hfull : ¬r.values.length < quantileReservoirSize := by rw [h.length]; exact lt_irrefl _
  rw [QuantileReservoir.add, if_neg (not_le.2 (hpos n)), if_neg hfull, h.seen]
  split <;> rfl

include hinj

omit hpos in
theorem Full.new (h : Full obs n r) : obs n ∉ r.values := by
  intro hmem
  obtain ⟨k, hk, heq⟩ := h.old _ hmem
  exact hk.ne (hinj heq)

theorem Full.add (h : Full obs n r) (c : ℕ) : Full obs (n + 1) (r.add amount (obs n) c) := by
  have hold : ∀ x ∈ r.values, ∃ k < n + 1, obs k = x := by
    intro x hx
    obtain ⟨k, hk, heq⟩ := h.old x hx
    exact ⟨k, Nat.lt_succ_of_lt hk, heq⟩
  rw [h.add_eq hpos]
  split_ifs
  · refine ⟨rfl, by simp [h.length], h.nodup.set (h.new hinj), fun x hx => ?_⟩
    rcases List.mem_or_eq_of_mem_set hx with hx | rfl
    · exact hold x hx
    · exact ⟨n, n.lt_succ_self, rfl⟩
  · exact ⟨rfl, h.length, h.nodup, hold⟩

theorem observe_full (hn : quantileReservoirSize ≤ n) (random : Fin n → Fin R) :
    Full obs n (observe amount obs n random) := by
  induction n, hn using Nat.le_induction with
  | base =>
    rw [observe_filling hpos le_rfl]
    exact ⟨rfl, by simp, List.nodup_range.map hinj, by simp⟩
  | succ n _ ih => exact (ih _).add hpos hinj _

variable [DecidableEq α]

/-- The next observation is accepted for `quantileReservoirSize` in `n + 1` random values. -/
theorem Full.card_new (h : Full obs n r) (hn : quantileReservoirSize ≤ n) (hdvd : n + 1 ∣ R) :
    #{c : Fin R | obs n ∈ (r.add amount (obs n) c).values} =
      quantileReservoirSize * (R / (n + 1)) := by
  have hmem (c : ℕ) : obs n ∈ (r.add amount (obs n) c).values ↔
      c % (n + 1) < quantileReservoirSize := by
    rw [h.add_eq hpos]
    split_ifs with hc
    · have hslot : c % quantileReservoirSize < r.values.length := by
        rw [h.length]
        exact Nat.mod_lt _ (by decide)
      exact iff_of_true (List.mem_set hslot _) hc
    · exact iff_of_false (fun hmem => h.new hinj hmem) hc
  simp only [hmem]
  rw [card_fin_filter fun c => c % (n + 1) < quantileReservoirSize,
    card_accepted hdvd (Nat.le_succ_of_le hn) (by decide)]

/-- An observation leaves the reservoir for one in `n + 1` random values. -/
theorem Full.card_old (h : Full obs n r) (hn : quantileReservoirSize ≤ n) (hdvd : n + 1 ∣ R)
    (hi : i < n) : #{c : Fin R | obs i ∈ (r.add amount (obs n) c).values} +
      (if obs i ∈ r.values then R / (n + 1) else 0) = if obs i ∈ r.values then R else 0 := by
  have hne : obs n ≠ obs i := fun heq => hi.ne (hinj heq.symm)
  simp only [h.add_eq hpos]
  split_ifs with hmem
  · obtain ⟨slot, hslot, hget⟩ := List.mem_iff_getElem.1 hmem
    have hkept (c : ℕ) : obs i ∈ (if c % (n + 1) < quantileReservoirSize then
        r.values.set (c % quantileReservoirSize) (obs n) else r.values) ↔
        ¬ (c % (n + 1) < quantileReservoirSize ∧ c % quantileReservoirSize = slot) := by
      split_ifs with hc
      · rw [not_and]
        constructor
        · rintro hset - rfl
          obtain ⟨k, hk, heq⟩ := List.mem_iff_getElem.1 hset
          rw [List.getElem_set] at heq
          split at heq
          · exact hne heq
          next hother =>
            rw [List.length_set] at hk
            exact hother ((h.nodup.getElem_inj_iff).1 (hget.trans heq.symm))
        · intro hother
          refine List.mem_iff_getElem.2 ⟨slot, by simpa using hslot, ?_⟩
          rw [List.getElem_set_ne (hother hc), hget]
      · exact iff_of_true hmem fun hboth => hc hboth.1
    simp only [hkept]
    rw [card_fin_filter fun c => ¬ (c % (n + 1) < quantileReservoirSize ∧
      c % quantileReservoirSize = slot), ← card_slot hdvd (Nat.le_succ_of_le hn) (h.length ▸ hslot),
      add_comm, card_filter_add_card_filter_not, card_range]
  · rw [add_zero, card_eq_zero, filter_eq_empty_iff]
    intro c _ hc
    split_ifs at hc
    · rcases List.mem_or_eq_of_mem_set hc with hc | heq
      · exact hmem hc
      · exact hne heq.symm
    · exact hmem hc

variable (amount) in
/-- The count for one observation after `n`, by induction over the observations after the reservoir
is full. -/
theorem card_kept (hn : quantileReservoirSize ≤ n) (hi : i < n)
    (hdvd : ∀ m, quantileReservoirSize < m → m ≤ n → m ∣ R) :
    #{random : Fin n → Fin R | obs i ∈ (observe amount obs n random).values} * n =
      quantileReservoirSize * R ^ n := by
  induction n, hn using Nat.le_induction with
  | base =>
    rw [filter_true_of_mem fun random _ => ?_, card_univ, Fintype.card_fun, Fintype.card_fin,
      Fintype.card_fin, mul_comm]
    rw [observe_filling hpos le_rfl]
    exact List.mem_map_of_mem (List.mem_range.2 hi)
  | succ n hn ih =>
    have hlast := hdvd (n + 1) (Nat.lt_succ_of_le hn) le_rfl
    have hcancel : R / (n + 1) * (n + 1) = R := Nat.div_mul_cancel hlast
    rw [card_filter_snoc]
    simp only [observe, Fin.init_snoc, Fin.snoc_last]
    rcases Nat.lt_succ_iff_lt_or_eq.1 hi with hi | rfl
    · have hih := ih hi fun m hm hle => hdvd m hm (Nat.le_succ_of_le hle)
      have hsum := sum_congr rfl fun (random : Fin n → Fin R) (_ : random ∈ univ) =>
        (observe_full hpos hinj hn random).card_old hpos hinj hn hlast hi
      rw [sum_add_distrib, ← sum_filter, ← sum_filter, sum_const, sum_const, smul_eq_mul,
        smul_eq_mul] at hsum
      exact count_step hcancel hsum hih
    · rw [sum_congr rfl fun random _ =>
        (observe_full hpos hinj hn random).card_new hpos hinj hn hlast, sum_const, card_univ,
        Fintype.card_fun, Fintype.card_fin, Fintype.card_fin, smul_eq_mul, mul_assoc, mul_assoc,
        hcancel, pow_succ]
      ring

end Run

/-- **The reservoir is a uniform sample.** Each of `n` positive observations is in the reservoir for
the same share of the random values, if they are drawn from a range that every modulus divides. -/
theorem observation_kept (v : ℕ → ℤ) (hv : ∀ k, 0 < v k) (hn : quantileReservoirSize < n)
    (hi : i < n) (hR : 0 < R) (hdvd : ∀ m, quantileReservoirSize < m → m ≤ n → m ∣ R) :
    (#{random : Fin n → Fin R | (i, v i) ∈
        (observe Prod.snd (fun k => (k, v k)) n random).values} : ℚ) / R ^ n =
      quantileReservoirSize / n := by
  have hinj : Function.Injective fun k => (k, v k) := fun a b hab => (Prod.mk.inj hab).1
  have hcount := card_kept Prod.snd hv hinj hn.le hi hdvd
  have hn0 : (n : ℚ) ≠ 0 := Nat.cast_ne_zero.2 (by omega)
  have hR0 : (R : ℚ) ^ n ≠ 0 := pow_ne_zero _ (Nat.cast_ne_zero.2 hR.ne')
  rw [div_eq_div_iff hR0 hn0]
  norm_cast
  convert hcount

theorem observation_kept_first :
    (#{random : Fin 257 → Fin 257 | (0, (1 : ℤ)) ∈
        (observe Prod.snd (fun k => (k, 1)) 257 random).values} : ℚ) / (257 : ℕ) ^ 257 =
      quantileReservoirSize / (257 : ℕ) := by
  refine observation_kept (fun _ => 1) (fun _ => one_pos) (by decide) (by decide) (by decide) ?_
  intro m hlt hle
  obtain rfl : m = 257 := hle.antisymm hlt
  exact dvd_rfl

end OmniRouters.PerfMetrics
