import Mathlib.Data.Int.Basic
import Mathlib.Data.List.Basic

/-!
# Frames in a stream of events

A stream interleaves frames: the events of one index are an opening event, events inside the frame
and a closing event. A producer of such a stream appends events one by one, and what it has to
know of each index is its phase.

* `Tracks`: the phase of every index after a trace.
* `Tracks.start`, `Tracks.inside`, `Tracks.stop`, `Tracks.other`: one event more.
* `Ordered`: the frames `0, 1, …, n - 1` have been opened in this order; `Ordered.start`,
  `Ordered.inside`, `Ordered.stop`, `Ordered.other`: one event more.
* `Tracks.closed`, `Ordered.events_eq_nil`: the events of a closed index and of no frame.
-/

namespace OmniRouters.Lib

open List Function

variable {ε ι γ : Type*}

/-- What a table holds after one entry was set. -/
theorem update_eq_some [DecidableEq ι] {table : ι → Option γ} {i j : ι} {x y : γ}
    (h : Function.update table i (some x) j = some y) :
    j = i ∧ y = x ∨ j ≠ i ∧ table j = some y := by
  by_cases hj : j = i
  · rw [hj, update_self] at h
    exact .inl ⟨hj, (Option.some.inj h).symm⟩
  · rw [update_of_ne hj] at h
    exact .inr ⟨hj, h⟩

/-- How events belong to frames: the index of an event, whether it opens or closes the frame,
whether an event inside fits the one that opened the frame, and the data it carries. -/
structure Framing (ε ι γ : Type*) where
  index : ε → Option ι
  opens : ε → Bool
  closes : ε → Bool
  fits : ε → ε → Bool
  data : ε → List γ

/-- The phase of an index: before its opening event, between the opening and the closing event
with the data so far, and after the closing event. -/
inductive Phase (ε γ : Type*)
  | fresh
  | opened (first : ε) (data : List γ)
  | closed (first : ε) (data : List γ) (last : ε)

namespace Framing

variable (F : Framing ε ι γ)

/-- The indexes in the order in which their frames are opened. -/
def started (trace : List ε) : List ι := (trace.filter F.opens).filterMap F.index

theorem started_append (a b : List ε) : F.started (a ++ b) = F.started a ++ F.started b := by
  simp [started]

variable [DecidableEq ι]

def eventsOf (i : ι) (trace : List ε) : List ε := trace.filter fun e => F.index e = some i

/-- The events inside a frame that `first` has opened. -/
def Inside (first : ε) (inner : List ε) : Prop :=
  ∀ e ∈ inner, F.opens e = false ∧ F.closes e = false ∧ F.fits first e = true

/-- The events of an index in a trace are those of its phase. -/
def At (i : ι) (trace : List ε) : Phase ε γ → Prop
  | .fresh => F.eventsOf i trace = []
  | .opened first data => F.opens first = true ∧ ∃ inner, F.eventsOf i trace = first :: inner ∧
      F.Inside first inner ∧ inner.flatMap F.data = data
  | .closed first data last => F.opens first = true ∧ F.closes last = true ∧ ∃ inner,
      F.eventsOf i trace = first :: (inner ++ [last]) ∧ F.Inside first inner ∧
      inner.flatMap F.data = data

/-- The phases of all indexes after a trace. -/
def Tracks (trace : List ε) (phase : ι → Phase ε γ) : Prop := ∀ i, F.At i trace (phase i)

variable {F} {trace events : List ε} {phase : ι → Phase ε γ} {i : ι} {e first : ε} {data : List γ}

theorem eventsOf_append (F : Framing ε ι γ) (i : ι) (a b : List ε) :
    F.eventsOf i (a ++ b) = F.eventsOf i a ++ F.eventsOf i b :=
  filter_append ..

theorem eventsOf_self (h : F.index e = some i) : F.eventsOf i [e] = [e] := by
  simp [eventsOf, h]

theorem eventsOf_other (h : ∀ e ∈ events, F.index e ≠ some i) : F.eventsOf i events = [] := by
  simpa [eventsOf] using h

theorem At.skip {p : Phase ε γ} (h : F.At i trace p) (hother : ∀ e ∈ events, F.index e ≠ some i) :
    F.At i (trace ++ events) p := by
  have hsame : F.eventsOf i (trace ++ events) = F.eventsOf i trace := by
    rw [eventsOf_append, eventsOf_other hother, append_nil]
  unfold At at h ⊢
  rw [hsame]
  exact h

theorem tracks_nil (F : Framing ε ι γ) : F.Tracks [] fun _ => .fresh := fun _ => rfl

section

variable (h : F.Tracks trace phase)

include h

theorem Tracks.other (hother : ∀ e ∈ events, F.index e = none) :
    F.Tracks (trace ++ events) phase := by
  intro i
  refine (h i).skip fun e he hi => ?_
  rw [hother e he] at hi
  cases hi

/-- One event of an index changes the phase of this index only. -/
theorem Tracks.update (hindex : F.index e = some i) {p : Phase ε γ}
    (hnew : F.At i (trace ++ [e]) p) : F.Tracks (trace ++ [e]) (Function.update phase i p) := by
  intro j
  by_cases hj : j = i
  · subst hj
    rw [update_self]
    exact hnew
  · rw [update_of_ne hj]
    refine (h j).skip fun e' he' hi => hj ?_
    rw [mem_singleton.1 he', hindex] at hi
    exact (Option.some.inj hi).symm

theorem Tracks.start (hfresh : phase i = .fresh) (hindex : F.index e = some i)
    (hopens : F.opens e = true) :
    F.Tracks (trace ++ [e]) (Function.update phase i (.opened e [])) := by
  refine h.update hindex ⟨hopens, [], ?_, fun _ he => absurd he not_mem_nil, rfl⟩
  have hnone : F.eventsOf i trace = [] := by
    have hi := h i
    rw [hfresh] at hi
    exact hi
  rw [eventsOf_append, hnone, eventsOf_self hindex]
  rfl

section

variable (hopened : phase i = .opened first data) (hindex : F.index e = some i)

include hopened hindex

/-- An event inside a frame. -/
theorem Tracks.inside (hopens : F.opens e = false) (hcloses : F.closes e = false)
    (hfits : F.fits first e = true) :
    F.Tracks (trace ++ [e]) (Function.update phase i (.opened first (data ++ F.data e))) := by
  have hi := h i
  rw [hopened] at hi
  obtain ⟨hfirst, inner, hevents, hinside, hdata⟩ := hi
  refine h.update hindex ⟨hfirst, inner ++ [e], ?_, ?_, ?_⟩
  · rw [eventsOf_append, hevents, eventsOf_self hindex]
    rfl
  · intro e' he'
    rcases mem_append.1 he' with he' | he'
    · exact hinside e' he'
    · rw [mem_singleton.1 he']
      exact ⟨hopens, hcloses, hfits⟩
  · rw [flatMap_append, hdata, flatMap_singleton]

theorem Tracks.stop (hcloses : F.closes e = true) :
    F.Tracks (trace ++ [e]) (Function.update phase i (.closed first data e)) := by
  have hi := h i
  rw [hopened] at hi
  obtain ⟨hfirst, inner, hevents, hinside, hdata⟩ := hi
  refine h.update hindex ⟨hfirst, hcloses, inner, ?_, hinside, hdata⟩
  rw [eventsOf_append, hevents, eventsOf_self hindex]
  rfl

end

end

/-! ## Numbered frames -/

/-- The frames `0, 1, …, n - 1` have been opened, in this order, and have these phases. -/
structure Ordered (F : Framing ε ℤ γ) (trace : List ε) (n : ℕ) (phase : ℤ → Phase ε γ) :
    Prop where
  started : F.started trace = (List.range n).map fun (k : ℕ) => (k : ℤ)
  tracks : F.Tracks trace phase
  fresh : ∀ i, phase i = .fresh ↔ ¬ (0 ≤ i ∧ i < n)

section Ordered

variable {F : Framing ε ℤ γ} {n : ℕ} {phase : ℤ → Phase ε γ} {i : ℤ}

theorem ordered_nil (F : Framing ε ℤ γ) : F.Ordered [] 0 fun _ => .fresh where
  started := rfl
  tracks := F.tracks_nil
  fresh i := by
    constructor
    · rintro - ⟨h0, h1⟩
      omega
    · intro _
      rfl

section

variable (h : F.Ordered trace n phase)

include h

theorem Ordered.other (hother : ∀ e ∈ events, F.index e = none) :
    F.Ordered (trace ++ events) n phase where
  started := by
    have hnone : F.started events = [] := by
      refine filterMap_eq_nil_iff.2 fun e he => hother e (mem_of_mem_filter he)
    rw [started_append, h.started, hnone, append_nil]
  tracks := h.tracks.other hother
  fresh := h.fresh

/-- The next frame is opened. -/
theorem Ordered.start (hindex : F.index e = some (n : ℤ)) (hopens : F.opens e = true) :
    F.Ordered (trace ++ [e]) (n + 1) (Function.update phase n (.opened e [])) where
  started := by
    rw [started_append, h.started, range_succ, map_append]
    simp [Framing.started, hopens, hindex]
  tracks := h.tracks.start ((h.fresh n).2 (by omega)) hindex hopens
  fresh j := by
    by_cases hj : j = n
    · subst hj
      simp only [update_self, reduceCtorEq, false_iff, not_not]
      omega
    · rw [update_of_ne hj, h.fresh]
      omega

/-- An event of an open frame that opens none. -/
theorem Ordered.update (hopened : phase i = .opened first data) (hopens : F.opens e = false)
    {p : Phase ε γ} (hp : p ≠ .fresh)
    (htracks : F.Tracks (trace ++ [e]) (Function.update phase i p)) :
    F.Ordered (trace ++ [e]) n (Function.update phase i p) where
  started := by
    rw [started_append, h.started]
    simp [Framing.started, hopens]
  tracks := htracks
  fresh j := by
    by_cases hj : j = i
    · subst hj
      rw [update_self, ← h.fresh, hopened]
      simp [hp]
    · rw [update_of_ne hj, h.fresh]

section

variable (hopened : phase i = .opened first data) (hindex : F.index e = some i)
  (hopens : F.opens e = false)

include hopened hindex hopens

/-- An event inside a frame. -/
theorem Ordered.inside (hcloses : F.closes e = false) (hfits : F.fits first e = true) :
    F.Ordered (trace ++ [e]) n (Function.update phase i (.opened first (data ++ F.data e))) :=
  h.update hopened hopens (by simp) (h.tracks.inside hopened hindex hopens hcloses hfits)

theorem Ordered.stop (hcloses : F.closes e = true) :
    F.Ordered (trace ++ [e]) n (Function.update phase i (.closed first data e)) :=
  h.update hopened hopens (by simp) (h.tracks.stop hopened hindex hcloses)

end

theorem Ordered.events_eq_nil (hi : ∀ k < n, i ≠ (k : ℤ)) : F.eventsOf i trace = [] := by
  have hfresh : phase i = .fresh := by
    rw [h.fresh]
    rintro ⟨h0, hn⟩
    exact hi i.toNat (by omega) (by omega)
  have hat := h.tracks i
  rw [hfresh] at hat
  exact hat

end

/-- A closed frame is its opening event, events inside it and its closing event. -/
theorem Tracks.closed (h : F.Tracks trace phase) {last : ε}
    (hclosed : phase i = .closed first data last) :
    F.opens first = true ∧ F.closes last = true ∧ ∃ inner,
      F.eventsOf i trace = first :: (inner ++ [last]) ∧ F.Inside first inner ∧
      inner.flatMap F.data = data := by
  have hat := h i
  rw [hclosed] at hat
  exact hat

end Ordered

end Framing

end OmniRouters.Lib
