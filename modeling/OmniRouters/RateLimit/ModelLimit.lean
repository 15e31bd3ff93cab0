import OmniRouters.Lib.Threads
import OmniRouters.RateLimit.Memory

/-!
# The model request limit in memory

`memoryRateLimitHandler` (middleware/model-rate-limit.go:285-315) counts the requests of a
subject under one key of the limiter that all middlewares share, and its successes under another.
The limits are read for every request. The limiter is initialised once, by the first middleware
that is used, so its expiration need not be the duration of this one.

* `model_limit_kept`: the limits are kept while they are not changed, if the duration is not longer
  than the expiration.
* `model_limit_exceeded`: a duration of an hour with an expiration of 20 minutes.
-/

namespace OmniRouters.RateLimit

open OmniRouters.Lib

inductive Mark
  | count
  | success
deriving DecidableEq

/-- The settings of a request; the duration is in seconds. -/
structure Limits where
  duration : ℤ
  totalMaxCount : ℤ
  successMaxCount : ℤ
deriving DecidableEq

/-- The limiter of all keys, which was initialised with the expiration. -/
def Limits.config (limits : Limits) (expirationDuration : ℤ) : Config (Mark × String) where
  maximum key := if key.1 = .count then limits.totalMaxCount else limits.successMaxCount
  duration _ := limits.duration
  expirationDuration

/-- A request before the check of the total, before the reservation, with the limits that it has
read, and while it is processed, and the eviction in the background. -/
inductive Stage
  | check (subject : String)
  | reserve (subject : String) (limits : Limits)
  | next (reservation : Option ℕ)
  | evict
deriving DecidableEq

/-- The time of a statement and what it depends on: the settings, which a request reads once,
whether the request has succeeded, and the time of the tick. -/
structure Env where
  now : ℤ
  limits : Limits
  success : Bool := true
  tick : ℤ := 0

/-- One statement of the handler. A request that is rejected ends. -/
def handle (expirationDuration : ℤ) (env : Env) (s : State (Mark × String)) (t : Stage) :
    Option (State (Mark × String) × List Stage) :=
  let cfg := env.limits.config expirationDuration
  match t with
  | .check subject =>
    if env.limits.totalMaxCount ≤ 0 then some (s, [.reserve subject env.limits])
    else (step cfg s (env.now, .request (.count, subject))).map fun s' => (s',
      if (request cfg env.now (.count, subject) s.limiter).1 then [.reserve subject env.limits]
      else [])
  | .reserve subject limits =>
    let cfg := limits.config expirationDuration
    if limits.successMaxCount ≤ 0 then some (s, [.next none])
    else (step cfg s (env.now, .reserve (.success, subject))).map fun s' => (s',
      if (reserve cfg env.now (.success, subject) s.limiter).1 then
        [.next (some s.limiter.handles.length)] else [])
  | .next none => some (s, [])
  | .next (some reservation) =>
    (step cfg s (env.now, .complete reservation env.success)).map (·, [])
  | .evict => (step cfg s (env.now, .deleteExpiredEntries env.tick)).map (·, [.evict])

/-! ## What the handler keeps -/

/-- The calls that the handler makes. -/
def Call.ofHandler : Call (Mark × String) → Prop
  | .request key => key.1 = .count
  | .reserve key => key.1 = .success
  | _ => True

variable {cfg : Config (Mark × String)} {s s' : State (Mark × String)}
  {a : ℤ × Call (Mark × String)}

/-- The queues are sound, only successes are reserved, and the limits are kept. -/
structure Steady (cfg : Config (Mark × String)) (s : State (Mark × String)) : Prop where
  sound : Sound cfg s
  reserved : ∀ handle ∈ s.limiter.handles, handle.1.1 = .success
  limited : ∀ k, 0 < cfg.maximum k → s.Limited cfg k

theorem handles_step (hcall : a.2.ofHandler) (hstep : step cfg s a = some s')
    (h : ∀ handle ∈ s.limiter.handles, handle.1.1 = .success) :
    ∀ handle ∈ s'.limiter.handles, handle.1.1 = .success := by
  obtain ⟨now, call⟩ := a
  unfold RateLimit.step at hstep
  split at hstep
  · cases hstep
  cases call with
  | request key =>
    cases hstep
    rcases request_cases cfg now key s.limiter with ⟨-, hout⟩ | ⟨-, hout⟩ | ⟨-, hout⟩ <;>
      rw [hout] <;> exact h
  | reserve key =>
    cases hstep
    rcases reserve_cases cfg now key s.limiter with ⟨-, hout⟩ | ⟨-, hout⟩ | ⟨-, hout⟩ <;> rw [hout]
    · exact h
    · exact h
    · exact List.forall_mem_append.2 ⟨h, List.forall_mem_singleton.2 hcall⟩
  | complete handle success =>
    cases hstep
    rcases complete_cases now handle success s.limiter with ⟨-, hout⟩ | ⟨key, hopen, hout⟩
    · rw [hout]
      exact h
    have hset : ∀ other ∈ s.limiter.handles.set handle (key, true), other.1.1 = .success := by
      intro other hother
      rcases List.mem_or_eq_of_mem_set hother with hold | rfl
      · exact h other hold
      · unfold Limiter.open? at hopen
        split at hopen
        · cases hopen
          exact h (_, false) (List.mem_of_getElem? ‹_›)
        · cases hopen
    rw [hout]
    split <;> exact hset
  | deleteExpiredEntries tick =>
    obtain ⟨-, hsome⟩ := Option.ite_none_left_eq_some.1 hstep
    cases hsome
    unfold deleteExpiredEntries
    split <;> exact h

theorem Steady.step (h : Steady cfg s) (hhorizon : 0 < cfg.expirationDuration →
      ∀ key, cfg.duration key * 1000000000 ≤ cfg.expirationDuration)
    (hcall : a.2.ofHandler) (hstep : step cfg s a = some s') : Steady cfg s' := by
  refine ⟨h.sound.step hhorizon hstep, handles_step hcall hstep h.reserved, fun k hk =>
    h.sound.limited_step (fun key hkey hmem => ?_) hstep hk (h.limited k hk)⟩
  obtain ⟨now, call⟩ := a
  cases call with
  | request other =>
    cases hkey
    cases hcall.symm.trans (h.reserved _ hmem)
  | _ => cases hkey

/-- The limits that a request has read are these. -/
def Stage.Reads (limits : Limits) : Stage → Prop
  | .reserve _ read => read = limits
  | _ => True

/-- **The limits are kept** while the settings stay the same: no window of the duration, in whole
seconds, has more requests or more successes of a subject than the settings say. -/
theorem model_limit_kept {expirationDuration : ℤ} {limits : Limits}
    (hhorizon : 0 < expirationDuration → limits.duration * 1000000000 ≤ expirationDuration)
    {p q : Pool (State (Mark × String)) Stage} (hstart : p.shared.Fresh)
    (hread : ∀ t ∈ p.threads, t.Reads limits)
    (hrun : Exec (Pool.step (handle expirationDuration))
      (Pool.Meets fun _ env _ => env.limits = limits) p q) (subject : String) (start : ℤ) :
    (0 < limits.totalMaxCount → (q.shared.seconds (.count, subject)).countP
        (fun x => start ≤ x ∧ x < start + limits.duration) ≤ limits.totalMaxCount) ∧
      (0 < limits.successMaxCount → (q.shared.seconds (.success, subject)).countP
        (fun x => start ≤ x ∧ x < start + limits.duration) ≤ limits.successMaxCount) := by
  have hinv : Steady (limits.config expirationDuration) q.shared := by
    refine (Pool.local_invariant (G := Steady (limits.config expirationDuration))
      (L := fun _ t => t.Reads limits) (R := fun _ _ => True) (fun _ _ _ _ h => h) ?_ ?_
      hread hrun).1
    · rintro r env t s ts rfl h hreads hstep
      have hcall : ∀ {call ts'}, (step (env.limits.config expirationDuration) r.shared
          (env.now, call)).map (·, ts') = some (s, ts) → call.ofHandler →
          (∀ u ∈ ts', u.Reads env.limits) →
          Steady (env.limits.config expirationDuration) s ∧ True ∧
            ∀ u ∈ ts, u.Reads env.limits := by
        intro call ts' hmap hcall hnext
        obtain ⟨s', hs', heq⟩ := Option.map_eq_some_iff.1 hmap
        cases heq
        exact ⟨h.step (fun hpos _ => hhorizon hpos) hcall hs', trivial, hnext⟩
      have hnone : ∀ u ∈ ([] : List Stage), u.Reads env.limits := List.forall_mem_nil _
      revert hstep
      fun_cases handle expirationDuration env r.shared t <;> intro hstep
      case case1 =>
        cases hstep
        exact ⟨h, trivial, List.forall_mem_singleton.2 rfl⟩
      case case2 =>
        refine hcall hstep rfl ?_
        split
        · exact List.forall_mem_singleton.2 rfl
        · exact hnone
      case case3 =>
        cases hstep
        exact ⟨h, trivial, List.forall_mem_singleton.2 trivial⟩
      case case4 =>
        cases hreads
        refine hcall hstep rfl ?_
        split
        · exact List.forall_mem_singleton.2 trivial
        · exact hnone
      case case5 =>
        cases hstep
        exact ⟨h, trivial, hnone⟩
      case case6 => exact hcall hstep trivial hnone
      case case7 => exact hcall hstep trivial (List.forall_mem_singleton.2 trivial)
    · exact ⟨hstart.sound, by simp [hstart.1], fun k hk => hstart.limited hk⟩
  have hwindow : ∀ k, 0 < (limits.config expirationDuration).maximum k →
      ((q.shared.seconds k).countP fun x => start ≤ x ∧ x < start + limits.duration) ≤
        (limits.config expirationDuration).maximum k := by
    intro k hk
    have hspaced := (hinv.limited k hk).spaced.window start
    have hcast := Int.toNat_of_nonneg hk.le
    exact (Int.ofNat_le.2 hspaced).trans_eq hcast
  exact ⟨hwindow (.count, subject), hwindow (.success, subject)⟩

/-- One request in an hour. -/
def hourly : Limits := ⟨3600, 1, 1⟩

def twoRequests : Pool (State (Mark × String)) Stage :=
  ⟨⟨⟨[], fun _ => 0, []⟩, 0, []⟩, [.evict, .check "1", .check "1"]⟩

theorem model_limit_kept_hourly :
    ∃ q, Exec (Pool.step (handle 3600000000000)) (Pool.Meets fun _ env _ => env.limits = hourly)
        twoRequests q ∧ q.shared.seconds (.count, "1") = [3600, 0] ∧
      (q.shared.seconds (.count, "1")).countP (fun x => 1 ≤ x ∧ x < 1 + 3600) ≤ (1 : ℤ) :=
  Exec.exists_and_of_actions [(1, ⟨0, hourly, true, 0⟩), (0, ⟨3600000000000, hourly, true,
    3600000000000⟩), (2, ⟨3600000000000, hourly, true, 0⟩)] (by decide +kernel) fun _ hrun _ =>
    (model_limit_kept (by decide) ⟨rfl, rfl⟩ (by simp [twoRequests, Stage.Reads]) hrun "1" 1).1
      (by decide)

/-- With an expiration of 20 minutes the first request is forgotten, and two are accepted in an
hour. -/
theorem model_limit_exceeded :
    ∃ q, Exec (Pool.step (handle 1200000000000)) (Pool.Meets fun _ env _ => env.limits = hourly)
        twoRequests q ∧ q.shared.seconds (.count, "1") = [1200, 0] :=
  Exec.exists_of_actions [(1, ⟨0, hourly, true, 0⟩), (0, ⟨1200000000000, hourly, true,
    1200000000000⟩), (2, ⟨1200000000000, hourly, true, 0⟩)] (by decide +kernel)

end OmniRouters.RateLimit
