import Mathlib.Data.Rat.Defs
import Mathlib.Data.Set.Function
import OmniRouters.Lib.Threads

/-!
# The cache of compiled billing expressions

Model of the cache of `pkg/billingexpr/compile.go`. The compiled expressions are kept in a map
from digests to entries under a read-write lock, which is emptied by `InvalidateCache` and by an
insertion into a full map. Most readers look the digest up, compile on a miss (which looks it up
again and inserts) and then look it up once more. Each critical section is a step, and any number
of calls run at the same time. What expr-lang does is given by the functions of `Cfg`.

* `Sound.step`: the entries are what their expressions compile to.
* `Alone.of_compile`: what a call returns with no other goroutine.
* `answers_alone`: the same in every run in which no reset falls between the insertion of another
  call and its last look-up.
* `reset_before_reread`: with such a reset a call on a valid expression fails.
-/

namespace OmniRouters.Billing.ExprCache

open Lib List

/-! ## The cache -/

/-- `cachedEntry` (lines 100-107); a set of names is a list. -/
structure Entry (P : Type) where
  prog : P
  usedVars : List String
  usedUsageKeys : List String
  requestRules : List (String × ℚ)
  version : ℕ
  fixedPricing : Bool
deriving DecidableEq

/-- `maxCacheSize`. -/
def maxCacheSize : ℕ := 256

section Model

variable {P H I R : Type} [DecidableEq H]

/-- What the cache calls: `compile` is the compilation and the extraction of the entry (lines
197-226), which touches no shared state; `hash` is `ExprHashString`, which the callers of the
functions by hash have applied to the same expression; `runProgram` runs an entry. -/
structure Cfg (P H I R : Type) where
  compile : String → Except String (Entry P)
  hash : String → H
  runProgram : P → List (String × ℚ) → List String → I → Except String R

/-- The map `cache`, one entry for a digest. -/
abbrev Cache (P H : Type) := List (H × Entry P)

/-- `cache[hash]`. -/
def Cache.get (cache : Cache P H) (k : H) : Option (Entry P) :=
  (cache.find? (·.1 = k)).map Prod.snd

/-- The write section of `compileFromCacheByHash` (lines 228-233). -/
def Cache.put (cache : Cache P H) (k : H) (entry : Entry P) : Cache P H :=
  let cache := if maxCacheSize ≤ cache.length then [] else cache
  (k, entry) :: cache.filter (·.1 ≠ k)

/-! ## Calls -/

/-- The calls on an expression: `CompileFromCacheByHash`, `RunExprByHashWithRequest`,
`UsedVarsByHash`, `UsedUsageKeys` and `UsesFixedPricingByHash`. -/
inductive Kind (I : Type)
  | compile
  | run (input : I)
  | usedVars
  | usedUsageKeys
  | usesFixedPricing
deriving DecidableEq

/-- The calls that return nil for the empty expression. -/
def Kind.skipsEmpty : Kind I → Bool
  | .usedVars | .usedUsageKeys => true
  | _ => false

/-- Where a call is: at its first look-up, at the look-up of `compileFromCacheByHash` after it,
with a compiled entry to insert, at its last look-up, or returned. -/
inductive Stage (P : Type)
  | start
  | lookup
  | insert (entry : Entry P)
  | reread
  | returned (outcome : Except String (Entry P))
deriving DecidableEq

/-- A goroutine: a call on an expression or `InvalidateCache`. -/
inductive Thread (P I : Type)
  | call (kind : Kind I) (expr : String) (stage : Stage P)
  | invalidate
deriving DecidableEq

/-- The expression of a call. -/
def Thread.expr? : Thread P I → Option String
  | .call _ expr _ => some expr
  | .invalidate => none

/-- The compilation after a miss. -/
def compileStage (cfg : Cfg P H I R) (expr : String) : Stage P :=
  match cfg.compile expr with
  | .error e => .returned (.error e)
  | .ok entry => .insert entry

/-- One critical section of a call, with what it computes after it. -/
def advanceCall (cfg : Cfg P H I R) (cache : Cache P H) (kind : Kind I) (expr : String) :
    Stage P → Option (Cache P H × Stage P)
  | .start =>
    if kind.skipsEmpty ∧ expr = "" then some (cache, .returned (.error "empty expression"))
    else
      match cache.get (cfg.hash expr) with
      | some entry => some (cache, .returned (.ok entry))
      | none =>
        match kind with
        | .compile => some (cache, compileStage cfg expr)
        | _ => some (cache, .lookup)
  | .lookup =>
    match cache.get (cfg.hash expr) with
    | some _ => some (cache, .reread)
    | none => some (cache, compileStage cfg expr)
  | .insert entry =>
    match kind with
    | .compile => some (cache.put (cfg.hash expr) entry, .returned (.ok entry))
    | _ => some (cache.put (cfg.hash expr) entry, .reread)
  | .reread =>
    match cache.get (cfg.hash expr) with
    | some entry => some (cache, .returned (.ok entry))
    | none => some (cache, .returned (.error "expr compile cache entry missing"))
  | .returned _ => none

/-- One step of a goroutine. -/
def advance (cfg : Cfg P H I R) (_ : Unit) (cache : Cache P H) :
    Thread P I → Option (Cache P H × List (Thread P I))
  | .call kind expr stage =>
    (advanceCall cfg cache kind expr stage).map fun out => (out.1, [.call kind expr out.2])
  | .invalidate => some ([], [])

/-- What a call gives to its caller: a program or an error, a result or an error, a set of names
or nil, a flag. -/
inductive Answer (P R : Type)
  | program (result : Except String P)
  | result (result : Except String R)
  | names (set : Option (List String))
  | flag (value : Bool)
deriving DecidableEq

/-- The answer of a call from the entry or the error it ended with. -/
def answer (cfg : Cfg P H I R) (kind : Kind I) (outcome : Except String (Entry P)) : Answer P R :=
  match kind with
  | .compile => .program (outcome.map Entry.prog)
  | .run input => .result (outcome.bind fun entry =>
      cfg.runProgram entry.prog entry.requestRules entry.usedVars input)
  | .usedVars => .names (outcome.toOption.map Entry.usedVars)
  | .usedUsageKeys => .names (outcome.toOption.map Entry.usedUsageKeys)
  | .usesFixedPricing => .flag (outcome.toOption.any Entry.fixedPricing)

/-- A call answers so in a run with no other goroutine, from an empty cache. -/
def Alone (cfg : Cfg P H I R) (kind : Kind I) (expr : String) (ans : Answer P R) : Prop :=
  ∃ q outcome, Exec (Pool.step (advance cfg)) (fun _ _ => True)
      ⟨[], [.call kind expr .start]⟩ q ∧
    q.threads = [.call kind expr (.returned outcome)] ∧ answer cfg kind outcome = ans

/-! ## Resets -/

/-- The next step of a goroutine empties the cache of what other calls have inserted. -/
def Thread.resets (cache : Cache P H) : Thread P I → Bool
  | .invalidate => true
  | .call _ _ (.insert _) => maxCacheSize ≤ cache.length
  | .call _ _ _ => false

/-- A call between its insertion, or its second look-up, and its last look-up. -/
def Thread.rereads : Thread P I → Bool
  | .call _ _ .reread => true
  | _ => false

/-- A reset happens only while no call is about to look its entry up again. -/
def NoResetBeforeReread (p : Pool (Cache P H) (Thread P I)) (_ : Unit) (t : Thread P I) : Prop :=
  t.resets p.shared = true → ∀ u ∈ p.threads, u.rereads = false

instance (p : Pool (Cache P H) (Thread P I)) (c : Unit) (t : Thread P I) :
    Decidable (NoResetBeforeReread p c t) :=
  inferInstanceAs (Decidable (t.resets p.shared = true → ∀ u ∈ p.threads, u.rereads = false))

/-! ## Invariant -/

variable {k : H} {entry : Entry P} {expr : String} {t : Thread P I} {kind : Kind I}
  {stage stage' : Stage P}

theorem Cache.get_some {cache : Cache P H} (h : cache.get k = some entry) : (k, entry) ∈ cache := by
  obtain ⟨⟨k', entry'⟩, hfind, rfl⟩ := Option.map_eq_some_iff.1 h
  have hk : k' = k := by simpa using find?_some hfind
  exact hk ▸ mem_of_find?_eq_some hfind

theorem Cache.get_put (cache : Cache P H) (k : H) (entry : Entry P) :
    (cache.put k entry).get k = some entry := by
  simp [Cache.put, Cache.get]

/-- An insertion that does not reset keeps the other entries. -/
theorem Cache.get_put_isSome {cache : Cache P H} {k' : H} (entry : Entry P)
    (hsize : ¬ maxCacheSize ≤ cache.length) (h : (cache.get k').isSome) :
    ((cache.put k entry).get k').isSome := by
  by_cases hk : k = k'
  · rw [hk, Cache.get_put]
    rfl
  have hsame : (cache.put k entry).get k' = cache.get k' := by
    have hfilter : (cache.filter (·.1 ≠ k)).find? (·.1 = k') = cache.find? (·.1 = k') := by
      rw [find?_filter]
      congr 1
      funext pair
      by_cases hpair : pair.1 = k'
      · simp [hpair, Ne.symm hk]
      · simp [hpair]
    simp only [Cache.put, Cache.get, if_neg hsize]
    rw [find?_cons_of_neg (by simpa using hk), hfilter]
  rw [hsame]
  exact h

variable (cfg : Cfg P H I R) (exprs : Set String)

/-- What a goroutine relies on: an entry to insert is what its expression compiles to, a call that
looks up again finds its digest, and an outcome is the one of the compilation. -/
def Knows (cache : Cache P H) : Thread P I → Prop
  | .invalidate => True
  | .call _ _ .start => True
  | .call _ _ .lookup => True
  | .call _ expr (.insert entry) => cfg.compile expr = .ok entry
  | .call _ expr .reread => (cache.get (cfg.hash expr)).isSome
  | .call _ expr (.returned outcome) => ∀ entry, cfg.compile expr = .ok entry → outcome = .ok entry

/-- The cache holds what expressions of the run compile to. -/
def Compiled (cache : Cache P H) : Prop :=
  ∀ pair ∈ cache, ∃ expr ∈ exprs, pair.1 = cfg.hash expr ∧ cfg.compile expr = .ok pair.2

/-- The invariant of the system. -/
structure Sound (cache : Cache P H) (threads : List (Thread P I)) : Prop where
  compiled : Compiled cfg exprs cache
  knows : ∀ t ∈ threads, Knows cfg cache t ∧ ∀ expr ∈ t.expr?, expr ∈ exprs

variable {cfg exprs} {cache : Cache P H}

theorem Sound.perm {threads threads' : List (Thread P I)} (h : Sound cfg exprs cache threads)
    (hperm : threads.Perm threads') : Sound cfg exprs cache threads' :=
  ⟨h.compiled, fun t ht => h.knows t (hperm.mem_iff.2 ht)⟩

/-- A hit is what the expression compiles to, where the digests of the run do not collide. -/
theorem Compiled.get (h : Compiled cfg exprs cache) (hinj : Set.InjOn cfg.hash exprs)
    (hexpr : expr ∈ exprs) (hget : cache.get (cfg.hash expr) = some entry) :
    cfg.compile expr = .ok entry := by
  obtain ⟨expr', hexpr', hhash, hcompile⟩ := h _ (Cache.get_some hget)
  rw [hinj hexpr hexpr' hhash]
  exact hcompile

theorem Compiled.put (h : Compiled cfg exprs cache) (hexpr : expr ∈ exprs)
    (hcompile : cfg.compile expr = .ok entry) :
    Compiled cfg exprs (cache.put (cfg.hash expr) entry) := by
  intro pair hpair
  rcases mem_cons.1 hpair with rfl | hpair
  · exact ⟨expr, hexpr, rfl, hcompile⟩
  have hmem := mem_of_mem_filter hpair
  split_ifs at hmem
  · exact absurd hmem not_mem_nil
  · exact h pair hmem

theorem knows_compileStage (kind : Kind I) (expr : String) :
    Knows cfg cache (.call kind expr (compileStage cfg expr)) := by
  unfold compileStage
  cases hcompile : cfg.compile expr with
  | error e =>
    intro entry hentry
    rw [hcompile] at hentry
    cases hentry
  | ok entry => exact hcompile

variable {cache' : Cache P H}

/-- What a goroutine relies on does not change with the cache, as long as digests stay. -/
theorem Knows.mono (h : Knows cfg cache t)
    (hkeep : t.rereads = true → ∀ k, (cache.get k).isSome → (cache'.get k).isSome) :
    Knows cfg cache' t := by
  cases t with
  | invalidate => trivial
  | call kind expr stage =>
    cases stage with
    | start => trivial
    | lookup => trivial
    | insert | returned => exact h
    | reread => exact hkeep rfl _ h

section

variable (hinj : Set.InjOn cfg.hash exprs) (hempty : ∀ entry, cfg.compile "" ≠ .ok entry)

include hinj hempty

/-- One critical section of a call: the cache stays or takes the entry of the expression, and the
call goes on with what it may rely on. -/
theorem advanceCall_spec (hcompiled : Compiled cfg exprs cache) (hexpr : expr ∈ exprs)
    (hknows : Knows cfg cache (.call kind expr stage))
    (h : advanceCall cfg cache kind expr stage = some (cache', stage')) :
    Knows cfg cache' (.call kind expr stage') ∧
      (cache' = cache ∨ ∃ entry, stage = .insert entry ∧ cfg.compile expr = .ok entry ∧
        cache' = cache.put (cfg.hash expr) entry) := by
  have hhit : ∀ entry, cache.get (cfg.hash expr) = some entry →
      Knows cfg cache (.call kind expr (.returned (.ok entry))) := by
    intro entry hget entry' hentry'
    exact (hcompiled.get hinj hexpr hget).symm.trans hentry'
  revert h
  fun_cases advanceCall cfg cache kind expr stage <;> rintro ⟨⟩
  case case1 hskip =>
    exact ⟨fun entry hentry => absurd (hskip.2 ▸ hentry) (hempty entry), .inl rfl⟩
  case case2 entry hget _ | case9 entry hget => exact ⟨hhit entry hget, .inl rfl⟩
  case case3 | case6 => exact ⟨knows_compileStage _ expr, .inl rfl⟩
  case case4 => exact ⟨trivial, .inl rfl⟩
  case case5 hget =>
    refine ⟨?_, .inl rfl⟩
    show (cache.get (cfg.hash expr)).isSome
    rw [hget]
    rfl
  case case7 entry =>
    exact ⟨fun entry' hentry' => hknows.symm.trans hentry', .inr ⟨entry, rfl, hknows, rfl⟩⟩
  case case8 entry _ =>
    refine ⟨?_, .inr ⟨entry, rfl, hknows, rfl⟩⟩
    show ((cache.put (cfg.hash expr) entry).get (cfg.hash expr)).isSome
    rw [Cache.get_put]
    rfl
  case case10 hget =>
    have hsome : (cache.get (cfg.hash expr)).isSome := hknows
    rw [hget] at hsome
    cases hsome

/-- One step keeps the invariant. -/
theorem Sound.step {others ts : List (Thread P I)}
    (h : Sound cfg exprs cache (t :: others))
    (hreset : t.resets cache = true → ∀ u ∈ others, u.rereads = false)
    (hstep : advance cfg () cache t = some (cache', ts)) :
    Sound cfg exprs cache' (ts ++ others) := by
  cases t with
  | invalidate =>
    cases hstep
    refine ⟨fun pair hpair => absurd hpair not_mem_nil, fun u hu => ?_⟩
    obtain ⟨hknows, hexprs⟩ := h.knows u (mem_cons_of_mem _ hu)
    refine ⟨hknows.mono fun hrereads => ?_, hexprs⟩
    rw [hreset rfl u hu] at hrereads
    cases hrereads
  | call kind expr stage =>
    obtain ⟨⟨cache'', stage'⟩, hcall, hout⟩ := Option.map_eq_some_iff.1 hstep
    cases hout
    obtain ⟨hcaller, hexpr⟩ := h.knows _ mem_cons_self
    obtain ⟨hknows, hcache⟩ :=
      advanceCall_spec hinj hempty h.compiled (hexpr expr rfl) hcaller hcall
    have hothers : ∀ u ∈ others, Knows cfg cache'' u := by
      intro u hu
      refine (h.knows u (mem_cons_of_mem _ hu)).1.mono fun hrereads k hk => ?_
      rcases hcache with rfl | ⟨entry, rfl, hcompile, rfl⟩
      · exact hk
      · refine Cache.get_put_isSome entry (fun hsize => ?_) hk
        rw [hreset (decide_eq_true hsize) u hu] at hrereads
        cases hrereads
    constructor
    · rcases hcache with rfl | ⟨entry, -, hcompile, rfl⟩
      · exact h.compiled
      · exact h.compiled.put (hexpr expr rfl) hcompile
    · intro u hu
      rcases mem_append.1 hu with hu | hu
      · rw [mem_singleton.1 hu]
        exact ⟨hknows, hexpr⟩
      · exact ⟨hothers u hu, (h.knows u (mem_cons_of_mem _ hu)).2⟩

end

/-! ## Runs -/

theorem single_step (h : advanceCall cfg cache kind expr stage = some (cache', stage'))
    {p : Pool (Cache P H) (Thread P I)}
    (hrun : Exec (Pool.step (advance cfg)) (fun _ _ => True) p ⟨cache, [.call kind expr stage]⟩) :
    Exec (Pool.step (advance cfg)) (fun _ _ => True) p ⟨cache', [.call kind expr stage']⟩ := by
  refine hrun.tail (a := (0, ())) trivial ?_
  simp [Pool.step, advance, h]

/-- Alone, a call on an expression that compiles ends with the compiled entry. -/
theorem Alone.of_compile (hempty : ∀ entry, cfg.compile "" ≠ .ok entry)
    (hcompile : cfg.compile expr = .ok entry) (kind : Kind I) :
    Alone cfg kind expr (answer cfg kind (.ok entry)) := by
  have hexpr : expr ≠ "" := by
    rintro rfl
    exact hempty entry hcompile
  have hstage : compileStage cfg expr = .insert entry := by rw [compileStage, hcompile]
  have hmiss : Cache.get ([] : Cache P H) (cfg.hash expr) = none := rfl
  have hlookup : advanceCall cfg [] kind expr .lookup = some ([], .insert entry) := by
    simp [advanceCall, hmiss, hstage]
  have hreread : advanceCall cfg (Cache.put [] (cfg.hash expr) entry) kind expr .reread =
      some (Cache.put [] (cfg.hash expr) entry, .returned (.ok entry)) := by
    simp [advanceCall, Cache.get_put]
  refine ⟨⟨Cache.put [] (cfg.hash expr) entry, [.call kind expr (.returned (.ok entry))]⟩,
    .ok entry, ?_, rfl, rfl⟩
  cases kind with
  | compile =>
    have hstart : advanceCall cfg [] .compile expr .start = some ([], .insert entry) := by
      simp [advanceCall, hexpr, hmiss, hstage]
    exact single_step rfl (single_step hstart .refl)
  | _ =>
    refine single_step hreread (single_step rfl (single_step hlookup (single_step ?_ .refl)))
    simp [advanceCall, hexpr, hmiss]

/-- Any number of goroutines call the cache on any expressions. In every run in which no reset falls
between the insertion of another call and its last look-up, and whose expressions have different
digests, every call on an expression that compiles ends with the answer that it has with no other
goroutine; it does not fail, and the set of used variables is not nil. -/
theorem answers_alone (cfg : Cfg P H I R) (hempty : ∀ entry, cfg.compile "" ≠ .ok entry)
    {p q : Pool (Cache P H) (Thread P I)}
    (hinj : Set.InjOn cfg.hash {expr | ∃ t ∈ p.threads, t.expr? = some expr})
    (hcache : p.shared = []) (hstart : ∀ t ∈ p.threads, t = .invalidate ∨
      ∃ kind expr, t = .call kind expr .start)
    (hrun : Exec (Pool.step (advance cfg)) (Pool.Meets NoResetBeforeReread) p q)
    {kind : Kind I} {expr : String} {outcome : Except String (Entry P)}
    (hreturned : .call kind expr (.returned outcome) ∈ q.threads) {entry : Entry P}
    (hcompile : cfg.compile expr = .ok entry) :
    outcome = .ok entry ∧ Alone cfg kind expr (answer cfg kind outcome) ∧
      (kind = .usedVars → answer cfg kind outcome ≠ .names none) := by
  have hsound : Sound cfg {expr | ∃ t ∈ p.threads, t.expr? = some expr} q.shared q.threads := by
    refine Pool.invariant (I := Sound cfg _) (fun _ _ _ hperm h => h.perm hperm) ?_ ?_ hrun
    · intro p c t s ts others hcond hperm h hstep
      refine h.step hinj hempty (fun hreset u hu => ?_) hstep
      exact hcond hreset u (hperm.mem_iff.2 (mem_cons_of_mem t hu))
    · refine ⟨?_, fun t ht => ?_⟩
      · rw [hcache]
        exact forall_mem_nil _
      · refine ⟨?_, fun expr hexpr => ⟨t, ht, hexpr⟩⟩
        rcases hstart t ht with rfl | ⟨kind, expr, rfl⟩
        · trivial
        · trivial
  have houtcome : outcome = .ok entry := (hsound.knows _ hreturned).1 entry hcompile
  subst houtcome
  refine ⟨rfl, Alone.of_compile hempty hcompile kind, ?_⟩
  rintro rfl hnil
  cases hnil

end Model

/-! ## A reset between insertion and look-up -/

/-- A compiler whose programs are the texts, and which refuses the empty one. -/
def textCfg : Cfg String String Unit String where
  compile expr := if expr = "" then .error "expr compile error"
    else .ok ⟨expr, [expr], [], [], 1, false⟩
  hash expr := expr
  runProgram prog _ _ _ := .ok prog

theorem textCfg_empty (entry : Entry String) : textCfg.compile "" ≠ .ok entry := by
  intro h
  cases h

/-- A run of the expression `a` and a request for its variables beside an invalidation. -/
def twoCalls : Pool (Cache String String) (Thread String Unit) where
  shared := []
  threads := [.call (.run ()) "a" .start, .call .usedVars "a" .start, .invalidate]

theorem twoCalls_start : ∀ t ∈ twoCalls.threads, t = .invalidate ∨
    ∃ kind expr, t = .call kind expr .start := by
  intro t ht
  rcases mem_cons.1 ht with rfl | ht
  · exact .inr ⟨_, _, rfl⟩
  · rcases mem_cons.1 ht with rfl | ht
    · exact .inr ⟨_, _, rfl⟩
    · exact .inl (mem_singleton.1 ht)

/-- The invalidation comes before the last look-ups are due. -/
theorem answers_alone_two :
    ∃ q, Exec (Pool.step (advance textCfg)) (Pool.Meets NoResetBeforeReread) twoCalls q ∧
      ∃ outcome, .call (.run ()) "a" (.returned outcome) ∈ q.threads ∧
        outcome = .ok ⟨"a", ["a"], [], [], 1, false⟩ ∧
        Alone textCfg (.run ()) "a" (answer textCfg (.run ()) outcome) ∧
        ((Kind.run () : Kind Unit) = .usedVars →
          answer textCfg (.run ()) outcome ≠ .names none) := by
  refine Exec.exists_imp_of_actions (P := fun q =>
      .call (.run ()) "a" (.returned (.ok ⟨"a", ["a"], [], [], 1, false⟩)) ∈ q.threads)
    [(0, ()), (1, ()), (2, ()), (0, ()), (0, ()), (1, ()), (0, ()), (1, ())] (by decide +kernel)
    fun q hrun hq => ?_
  exact ⟨_, hq, answers_alone textCfg textCfg_empty (fun _ _ _ _ h => h) rfl twoCalls_start hrun
    hq rfl⟩

/-- The invalidation comes between the insertions and the last look-ups: the run of a valid
expression fails, and the set of its variables is nil. -/
theorem reset_before_reread :
    ∃ q, Exec (Pool.step (advance textCfg)) (fun _ _ => True) twoCalls q ∧
      q.threads = [.call (.run ()) "a" (.returned (.error "expr compile cache entry missing")),
        .call .usedVars "a" (.returned (.error "expr compile cache entry missing"))] ∧
      answer textCfg (.run ()) (.error "expr compile cache entry missing") =
        .result (.error "expr compile cache entry missing") ∧
      answer textCfg .usedVars (.error "expr compile cache entry missing") = .names none ∧
      Alone textCfg (.run ()) "a" (.result (.ok "a")) ∧
      Alone textCfg .usedVars "a" (.names (some ["a"])) := by
  have halone : ∀ kind, Alone textCfg kind "a"
      (answer textCfg kind (.ok ⟨"a", ["a"], [], [], 1, false⟩)) :=
    Alone.of_compile textCfg_empty rfl
  exact Exec.exists_and_of_actions [(0, ()), (1, ()), (0, ()), (1, ()), (0, ()), (1, ()), (2, ()),
    (0, ()), (1, ())] (by decide +kernel) fun _ _ _ =>
    ⟨rfl, rfl, halone (.run ()), halone .usedVars⟩

end OmniRouters.Billing.ExprCache
