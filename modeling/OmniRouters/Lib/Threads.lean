import Mathlib.Algebra.BigOperators.Group.List.Basic
import OmniRouters.Lib.Runs

/-!
# Threads over a shared state

Any number of threads take atomic steps on a shared state, in any order. `advance` is one step
of one thread: it may be blocked, and it leaves the threads that go on, which are the thread
itself unless it has ended and those that it has started.

* `Pool.step_cases`: a step replaces one thread and leaves the others.
* `Pool.invariant`: what every step of a thread keeps holds in every state of a run.
* `Pool.local_invariant`: the same for a property of the shared state and one of each thread,
  which the steps of the other threads keep.
* `Pool.total_cons`, `Pool.total_append`: a quantity that is spread over the threads, before and
  after a step.
-/

namespace OmniRouters.Lib

open List

/-- A shared state and the threads that work on it. -/
structure Pool (S T : Type*) where
  shared : S
  threads : List T

namespace Pool

variable {S T C M : Type*}

/-- The step of a pool: the thread at the index `a.1` advances, and `a.2` decides what is left
    open about its step. -/
def step (advance : C → S → T → Option (S × List T)) (p : Pool S T) (a : ℕ × C) :
    Option (Pool S T) :=
  (p.threads[a.1]?).bind fun t => (advance a.2 p.shared t).map fun out =>
    ⟨out.1, p.threads.take a.1 ++ (out.2 ++ p.threads.drop (a.1 + 1))⟩

/-- A condition on the thread that takes a step. -/
def Meets (cond : Pool S T → C → T → Prop) (p : Pool S T) (a : ℕ × C) : Prop :=
  ∀ t, p.threads[a.1]? = some t → cond p a.2 t

instance {cond : Pool S T → C → T → Prop} [∀ p c t, Decidable (cond p c t)] (p : Pool S T)
    (a : ℕ × C) : Decidable (Meets cond p a) :=
  match h : p.threads[a.1]? with
  | none => isTrue fun t ht => by rw [h] at ht; cases ht
  | some t => decidable_of_iff (cond p a.2 t)
      ⟨fun hc u hu => by rw [h] at hu; obtain rfl := Option.some.inj hu; exact hc, fun hm => hm t h⟩

/-- **Inversion.** A step replaces one thread by those that go on from it. -/
theorem step_cases {advance : C → S → T → Option (S × List T)} {p q : Pool S T} {a : ℕ × C}
    (h : step advance p a = some q) :
    ∃ t ts others, p.threads[a.1]? = some t ∧ advance a.2 p.shared t = some (q.shared, ts) ∧
      p.threads.Perm (t :: others) ∧ q.threads.Perm (ts ++ others) := by
  obtain ⟨t, ht, hstep⟩ := Option.bind_eq_some_iff.1 h
  obtain ⟨⟨s, ts⟩, hadvance, rfl⟩ := Option.map_eq_some_iff.1 hstep
  obtain ⟨hlt, hget⟩ := List.getElem?_eq_some_iff.1 ht
  refine ⟨t, ts, p.threads.take a.1 ++ p.threads.drop (a.1 + 1), ht, hadvance, ?_, ?_⟩
  · have hsplit : p.threads = p.threads.take a.1 ++ t :: p.threads.drop (a.1 + 1) := by
      rw [← hget, getElem_cons_drop, take_append_drop]
    refine (List.Perm.of_eq hsplit).trans ?_
    exact perm_middle
  · exact perm_append_comm_assoc _ _ _

/-- **Invariants of a pool.** A property of the shared state and of the threads, in any order,
that every step of a thread keeps. -/
theorem invariant {advance : C → S → T → Option (S × List T)} {cond : Pool S T → C → T → Prop}
    {I : S → List T → Prop} (hperm : ∀ s l l', l.Perm l' → I s l → I s l')
    (hstep : ∀ p c t s ts others, cond p c t → p.threads.Perm (t :: others) →
      I p.shared (t :: others) → advance c p.shared t = some (s, ts) → I s (ts ++ others))
    {p q : Pool S T} (hp : I p.shared p.threads) (h : Exec (step advance) (Meets cond) p q) :
    I q.shared q.threads := by
  refine Exec.invariant (I := fun p => I p.shared p.threads) (fun p a q hp hok hs => ?_) hp h
  obtain ⟨t, ts, others, ht, hadvance, hbefore, hafter⟩ := step_cases hs
  have hnext := hstep p a.2 t q.shared ts others (hok t ht) hbefore
    (hperm _ _ _ hbefore hp) hadvance
  exact hperm _ _ _ hafter.symm hnext

/-- **Rely and guarantee.** Each step keeps a property `G` of the shared state, leaves its own
threads with the property `L`, and relates the shared states by `R`, under which the property
of any other thread is stable. -/
theorem local_invariant {advance : C → S → T → Option (S × List T)}
    {cond : Pool S T → C → T → Prop} {G : S → Prop} {L : S → T → Prop} {R : S → S → Prop}
    (hstable : ∀ s s' t, R s s' → L s t → L s' t)
    (hstep : ∀ p c t s ts, cond p c t → G p.shared → L p.shared t →
      advance c p.shared t = some (s, ts) → G s ∧ R p.shared s ∧ ∀ u ∈ ts, L s u)
    {p q : Pool S T} (hG : G p.shared) (hL : ∀ t ∈ p.threads, L p.shared t)
    (h : Exec (step advance) (Meets cond) p q) : G q.shared ∧ ∀ t ∈ q.threads, L q.shared t := by
  refine invariant (I := fun s ts => G s ∧ ∀ t ∈ ts, L s t) ?_ ?_ ⟨hG, hL⟩ h
  · rintro s l l' hperm ⟨hGs, hLs⟩
    exact ⟨hGs, fun t ht => hLs t (hperm.mem_iff.2 ht)⟩
  rintro p c t s ts others hcond - ⟨hGs, hLs⟩ hadvance
  obtain ⟨hGs', hR, hts⟩ :=
    hstep p c t s ts hcond hGs (hLs t mem_cons_self) hadvance
  refine ⟨hGs', fun u hu => ?_⟩
  rcases mem_append.1 hu with hu | hu
  · exact hts u hu
  · exact hstable _ _ u hR (hLs u (mem_cons_of_mem t hu))

section Total

variable [AddCommMonoid M]

/-- The sum of a weight over the threads. -/
def total (w : T → M) (p : Pool S T) : M := (p.threads.map w).sum

theorem total_cons {w : T → M} {p : Pool S T} {t : T} {others : List T}
    (h : p.threads.Perm (t :: others)) : p.total w = w t + (others.map w).sum := by
  rw [total, (h.map w).sum_eq, map_cons, sum_cons]

theorem total_append {w : T → M} {p : Pool S T} {ts others : List T}
    (h : p.threads.Perm (ts ++ others)) : p.total w = (ts.map w).sum + (others.map w).sum := by
  rw [total, (h.map w).sum_eq, map_append, sum_append]

theorem total_eq_zero {w : T → M} {p : Pool S T} (h : ∀ t ∈ p.threads, w t = 0) :
    p.total w = 0 := by
  refine sum_eq_zero fun x hx => ?_
  obtain ⟨t, ht, rfl⟩ := mem_map.1 hx
  exact h t ht

end Total

end Pool

/-- What a plain read of a transaction sees: the last commit, or, as at the default of MySQL, what
was committed at the first plain read of the transaction. -/
inductive Isolation
  | readCommitted
  | repeatableRead
deriving DecidableEq

end OmniRouters.Lib
