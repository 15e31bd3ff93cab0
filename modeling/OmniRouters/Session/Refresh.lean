import OmniRouters.Session.Model

/-!
# Rotation of the refresh hash

A client exchanges its refresh hash for the next one. The exchange is a compare-and-swap on the
hash, and a previous hash that is presented after its grace period revokes the session
(model/user_session.go:451-550).

The deny fence is published before the row is revoked. If it cannot be published, the replay is
answered with an error and the row stays active.

* `Recorded.step`, `Thread.Recorded`: what the record of a run says about its updates, and what a
  call knows about the row it has read.
* `refresh_exchanged_once`: each hash is exchanged at most once, only a hash that was current or
  previous in the row that the call has read changes the row, a replay leaves the row revoked, and
  a revoked row stays as it is.
* `replay_without_fence`: a replay whose fence fails leaves the row active.
-/

namespace OmniRouters.UserSession

open Billing Lib List

/-! ## Statements -/

/-- The rows so far, as a query has returned them. -/
def Shared.seen (s : Shared) : List Row := s.history.map Row.found

/-- The rotation whose exchange the call tries next. -/
def Thread.swap? : Thread → Option Rotation
  | .swap call _ _ _ => some call
  | _ => none

/-- The next hash of an exchange that takes effect has not been a hash of the session before. -/
def FreshNext (p : Pool Shared Thread) (_ : Choice) (t : Thread) : Prop :=
  ∀ call ∈ t.swap?, p.shared.row.refreshHash = call.presentedHash →
    ∀ row ∈ p.shared.history, row.refreshHash ≠ call.nextHash

instance (p : Pool Shared Thread) (c : Choice) (t : Thread) : Decidable (FreshNext p c t) :=
  inferInstanceAs (Decidable (∀ _ ∈ _, _ → ∀ _ ∈ _, _))

/-- The call has presented the previous hash of an active row after the grace period. -/
@[mk_iff]
structure Replayed (call : Rotation) (seen : Row) : Prop where
  usable : seen.usable call.now
  notCurrent : seen.refreshHash ≠ call.presentedHash
  exists_previous : seen.previousRefreshHash ≠ ""
  previous : seen.previousRefreshHash = call.presentedHash
  late : seen.previousValidUntil < call.now

instance (call : Rotation) (seen : Row) : Decidable (Replayed call seen) :=
  decidable_of_iff' _ (replayed_iff call seen)

/-- A new session (`CreateUserSession`, lines 140-170) with the hash `hash`. -/
structure Opened (hash : String) (s : Shared) : Prop where
  active : s.row.status = .active
  revokedAt : s.row.revokedAt = 0
  hash : s.row.refreshHash = hash
  commits : s.commits = []
  outcomes : s.outcomes = []

/-! ## Invariant -/

/-- What the record says about the row. -/
structure RowRecorded (hash : String) (s : Shared) : Prop where
  status : s.row.status = .active ∧ s.row.revokedAt = 0 ∨ s.row.status = .revoked
  expiresAt : ∀ row ∈ s.history, row.expiresAt = s.row.expiresAt
  once : (s.row.refreshHash :: s.exchanges.map Prod.fst).Nodup
  used : ∀ e ∈ s.exchanges, ∃ row ∈ s.history, row.refreshHash = e.1
  current : s.row.refreshHash = (s.exchanges.head?.map Prod.snd).getD hash
  swapped : ∀ commit ∈ s.commits, ∀ next, commit.exchangedFor = some next →
    ∃ row, commit.presented = some (commit.before.refreshHash, row)
  presented : ∀ commit ∈ s.commits, ∀ h row, commit.presented = some (h, row) →
    row ∈ s.seen ∧ (row.refreshHash = h ∨ row.previousRefreshHash = h)

/-- What the record says about a rotation that has ended. -/
structure Outcome.Sound (s : Shared) (o : Outcome) : Prop where
  success : o.result = .rotated → (o.call.presentedHash, o.call.nextHash) ∈ s.exchanges
  replay : Replayed o.call o.seen →
    o.result = .fenceError ∨ o.result = .databaseError ∨ s.row.status = .revoked

/-- What the record says about the row and the ended rotations. -/
structure Recorded (hash : String) (s : Shared) : Prop extends RowRecorded hash s where
  outcomes : ∀ o ∈ s.outcomes, o.Sound s

/-- What the caller of a write knows about the row it has read. -/
def Cont.Recorded (s : Shared) : Cont → Prop
  | .rotated call session => session.refreshHash = call.presentedHash ∧
      (call.presentedHash, call.nextHash) ∈ s.exchanges
  | .reuseFence call session => session ∈ s.seen ∧ Replayed call session
  | .reuseTombstone _ _ => s.row.status = .revoked
  | .hashFence presentedHash _ session => session ∈ s.seen ∧
      (session.refreshHash = presentedHash ∨ session.previousRefreshHash = presentedHash)
  | _ => True

/-- What a call knows about the row it has read. -/
def Thread.Recorded (s : Shared) : Thread → Prop
  | .swap call _ _ session => session ∈ s.seen ∧ session.refreshHash = call.presentedHash
  | .reuseUpdate call session => session ∈ s.seen ∧ Replayed call session
  | .hashUpdate presentedHash _ session => session ∈ s.seen ∧
      (session.refreshHash = presentedHash ∨ session.previousRefreshHash = presentedHash)
  | .write _ _ k | .eval _ _ _ k | .completed _ _ k | .confirm _ k | .count _ _ k => k.Recorded s
  | _ => True

/-- What a step of one call can change for the others. -/
structure Grown (s s' : Shared) : Prop where
  seen : s.seen ⊆ s'.seen
  exchanges : s.exchanges ⊆ s'.exchanges
  revoked : s.row.status = .revoked → s'.row.status = .revoked

theorem Cont.Recorded.grown {s s' : Shared} (h : Grown s s') {k : Cont} (hk : k.Recorded s) :
    k.Recorded s' := by
  cases k with
  | rotated => exact ⟨hk.1, h.exchanges hk.2⟩
  | reuseFence | hashFence => exact ⟨h.seen hk.1, hk.2⟩
  | reuseTombstone => exact h.revoked hk
  | _ => trivial

theorem Thread.Recorded.grown {s s' : Shared} (h : Grown s s') {t : Thread} (ht : t.Recorded s) :
    t.Recorded s' := by
  cases t with
  | swap | reuseUpdate | hashUpdate => exact ⟨h.seen ht.1, ht.2⟩
  | write | eval | completed | confirm | count => exact Cont.Recorded.grown h ht
  | _ => trivial

section Step

variable {hash : String} {s s' : Shared} {cfg : Config} {c : Choice} {t : Thread}
  {ts : List Thread}

/-- The exchanges after one more update. -/
theorem exchanges_cons {commit : Commit} (h : s'.commits = commit :: s.commits) :
    s'.exchanges = match commit.exchangedFor with
      | none => s.exchanges
      | some next => (commit.before.refreshHash, next) :: s.exchanges := by
  unfold Shared.exchanges
  rw [h, filterMap_cons]
  cases commit.exchangedFor <;> rfl

theorem exchanges_subset {commit : Commit} (h : s'.commits = commit :: s.commits) :
    s.exchanges ⊆ s'.exchanges := by
  rw [exchanges_cons h]
  split
  · exact List.Subset.refl _
  · exact subset_cons_self _ _

/-- A step keeps the rows that were seen, and a revocation is final. -/
theorem advance_grown (h : advance cfg c s t = some (s', ts)) : Grown s s' := by
  rcases advance_row h with ⟨hrow, hcommits⟩ | ⟨row, commits, hstep, hrow, hcommits⟩
  · refine ⟨?_, ?_, fun hrevoked => hrow ▸ hrevoked⟩
    · unfold Shared.seen Shared.history
      rw [hrow, hcommits]
      exact List.Subset.refl _
    · unfold Shared.exchanges
      rw [hcommits]
      exact List.Subset.refl _
  · have hhistory : s'.history = row :: s.history := by
      unfold Shared.history
      rw [hrow, hcommits]
      cases hstep <;> rfl
    refine ⟨?_, ?_, ?_⟩
    · unfold Shared.seen
      rw [hhistory]
      exact map_subset _ (subset_cons_self _ _)
    · cases hstep <;> exact exchanges_subset hcommits
    · rw [hrow]
      cases hstep with
      | exchange | advance => exact fun hrevoked => hrevoked
      | revoke now hactive => exact fun _ => rfl

/-- What a call leaves: rotations that have ended soundly, and threads that know what they do. -/
structure Goes (s : Shared) (out : Shared × List Thread) : Prop where
  outcomes : ∀ o ∈ out.1.outcomes, o ∈ s.outcomes ∨ o.Sound out.1
  threads : ∀ u ∈ out.2, u.Recorded out.1

section

variable (h : s'.outcomes = s.outcomes)

include h

theorem Goes.same (hts : ∀ u ∈ ts, u.Recorded s') : Goes s (s', ts) :=
  ⟨fun _ ho => .inl (h ▸ ho), hts⟩

theorem Goes.ends : Goes s (s', []) :=
  Goes.same h fun _ hu => absurd hu not_mem_nil

theorem Goes.one (ht : t.Recorded s') : Goes s (s', [t]) :=
  Goes.same h fun _ hu => mem_singleton.1 hu ▸ ht

end

theorem Goes.finish {call : Rotation} {seen : Row} {result : RotateResult}
    (hsuccess : result = .rotated → (call.presentedHash, call.nextHash) ∈ s.exchanges)
    (hreplay : Replayed call seen → result = .fenceError ∨ result = .databaseError ∨
      s.row.status = .revoked) : Goes s (s.finish call seen result, []) := by
  refine ⟨fun o ho => ?_, fun _ hu => absurd hu not_mem_nil⟩
  rcases mem_cons.1 ho with rfl | ho
  · exact .inr ⟨hsuccess, hreplay⟩
  · exact .inl ho

theorem goes_resume {r : WriteResult} {k : Cont} (hk : k.Recorded s) : Goes s (resume s r k) := by
  fun_cases resume s r k
  case case5 | case8 | case14 => exact Goes.one rfl hk
  case case6 | case7 =>
    exact Goes.finish (fun _ => hk.2) fun hreplay => absurd hk.1 hreplay.notCurrent
  case case9 => exact Goes.finish (fun h => by cases h) fun _ => .inl rfl
  case case10 => exact Goes.finish (fun h => by cases h) fun _ => .inr (.inr hk)
  all_goals first | exact Goes.one rfl trivial | exact Goes.ends rfl

theorem goes_confirmed {found : Bool} {k : Cont} (hk : k.Recorded s) :
    Goes s (confirmed s found k, []) := by
  cases k with
  | rotated call session =>
    exact Goes.finish (fun _ => hk.2) fun hreplay => absurd hk.1 hreplay.notCurrent
  | _ => exact Goes.ends rfl

variable (fails : Bool)

theorem goes_reader (s : Shared) (t : Thread) (ht : t.Recorded s) :
    Goes s (advanceReader cfg fails s t) := by
  fun_cases advanceReader cfg fails s t
  all_goals first | exact Goes.ends rfl | exact Goes.one rfl trivial | exact Goes.one rfl ht

theorem goes_afterRotateLoad (s : Shared) (call : Rotation) (tries : ℕ) (deadline : ℤ) :
    Goes s (afterRotateLoad s call tries deadline s.row.found) := by
  have hseen : s.row.found ∈ s.seen := mem_cons_self
  fun_cases afterRotateLoad s call tries deadline s.row.found
  case case1 husable =>
    exact Goes.finish (fun h => by cases h) fun hreplay => absurd hreplay.usable husable
  case case2 hcurrent => exact Goes.one rfl ⟨hseen, hcurrent⟩
  case case3 hprevious =>
    refine Goes.finish (fun h => by cases h) fun hreplay => ?_
    exact hprevious.elim (absurd · hreplay.exists_previous) (absurd hreplay.previous ·)
  case case4 hgrace =>
    exact Goes.finish (fun h => by cases h) fun hreplay => absurd hgrace (not_le.2 hreplay.late)
  case case5 husable hcurrent hprevious hgrace =>
    rw [not_or, not_not] at hprevious
    exact Goes.one rfl
      ⟨hseen, ⟨not_not.1 husable, hcurrent, hprevious.1, hprevious.2, not_le.1 hgrace⟩⟩

theorem goes_rotation (hs : Recorded hash s) (fails : Bool) (ht : t.Recorded s) :
    Goes s (advanceRotation cfg fails s t) := by
  fun_cases advanceRotation cfg fails s t
  case case1 | case3 | case5 => exact Goes.ends rfl
  case case2 | case4 | case9 => exact Goes.one rfl trivial
  case case6 call tries deadline _ => exact goes_afterRotateLoad s call tries deadline
  case case7 | case10 => exact Goes.finish (fun h => by cases h) fun _ => .inr (.inl rfl)
  case case8 hswap => exact Goes.one rfl ⟨ht.2, mem_cons.2 (.inl (hswap.2 ▸ rfl))⟩
  case case11 => exact Goes.one rfl rfl
  case case12 call _ _ hunusable =>
    -- the session was usable when it was read, so somebody else has revoked it
    refine Goes.finish (fun h => by cases h) fun hreplay => .inr (.inr ?_)
    obtain ⟨row, hrow, rfl⟩ := mem_map.1 ht.1
    have hexpires := hs.expiresAt row hrow
    rcases hs.status with ⟨hactive, hrevokedAt⟩ | hrevoked
    · have hlive : call.now < row.expiresAt := hreplay.usable.2.2
      exact absurd ⟨hactive, hrevokedAt, hexpires ▸ hlive⟩ hunusable
    · exact hrevoked
  case case13 => exact Goes.one rfl ht

theorem goes_revocation (s : Shared) (t : Thread) (ht : t.Recorded s) :
    Goes s (advanceRevocation fails s t) := by
  fun_cases advanceRevocation fails s t
  case case9 hchecked =>
    rw [not_or, not_or, not_not, not_not] at hchecked
    refine Goes.one rfl ⟨mem_cons_self, ?_⟩
    exact hchecked.2.2.imp_right fun hprevious => hprevious.2.2
  case case12 => exact Goes.one rfl ht
  all_goals first | exact Goes.ends rfl | exact Goes.one rfl trivial

theorem goes_version (s : Shared) (t : Thread) (ht : t.Recorded s) :
    Goes s (advanceVersion cfg fails s t) := by
  fun_cases advanceVersion cfg fails s t
  case case6 => exact Goes.one rfl ht
  all_goals first | exact Goes.ends rfl | exact Goes.one rfl trivial

theorem goes_cache (s : Shared) (t : Thread) (ht : t.Recorded s) :
    Goes s (advanceCache cfg fails s t) := by
  cases t with
  | write entry deadline k =>
    dsimp only [advanceCache]
    repeat' split
    · exact goes_resume ht
    · exact goes_resume ht
    · exact Goes.one rfl ht
  | eval entry deadline expiration k =>
    dsimp only [advanceCache]
    split
    · exact goes_resume ht
    split
    · exact goes_resume ht
    rename_i cache hscript
    -- the entry is no part of what the call knows
    have hk : k.Recorded { s with cache := cache } := by
      cases k <;> exact ht
    split
    · exact Goes.one rfl hk
    · exact ⟨(goes_resume hk).outcomes, (goes_resume hk).threads⟩
  | completed entry deadline k =>
    dsimp only [advanceCache]
    repeat' split
    all_goals exact goes_resume ht
  | confirm session k => exact Goes.one rfl ht
  | count now session k => exact goes_confirmed ht
  | _ => exact Goes.one rfl ht

/-- What a step leaves. -/
theorem advance_goes (hs : Recorded hash s) (ht : t.Recorded s)
    (h : advance cfg c s t = some (s', ts)) : Goes (s.tick c.elapsed) (s', ts) := by
  have htick : Recorded hash (s.tick c.elapsed) :=
    ⟨{ hs with }, fun o ho => ⟨(hs.outcomes o ho).success, (hs.outcomes o ho).replay⟩⟩
  have ht : t.Recorded (s.tick c.elapsed) := by
    cases t with
    | write _ _ k | eval _ _ _ k | completed _ _ k | confirm _ k | count _ _ k =>
      cases k <;> exact ht
    | _ => exact ht
  obtain h := Option.some.inj h
  rw [← h]
  cases t with
  | get | cached | miss | load | judge => exact goes_reader _ _ _ ht
  | rotate | attempt | rotateLoad | swap | reuseUpdate => exact goes_rotation htick _ ht
  | revoke | revokeLoad | revokeUpdate | revokeByHash | hashLoad | hashUpdate =>
    exact goes_revocation _ _ _ ht
  | advance | advanceNow | advanceUpdate => exact goes_version _ _ _ ht
  | write | eval | completed | confirm | count => exact goes_cache _ _ _ ht

/-- An update keeps the hash, or it is an exchange for a new one. -/
theorem RowRecorded.commit (hs : RowRecorded hash s) {commit : Commit}
    (hcommits : s'.commits = commit :: s.commits) (hbefore : commit.before = s.row)
    (hstatus : s'.row.status = .active ∧ s'.row.revokedAt = 0 ∨ s'.row.status = .revoked)
    (hexpires : s'.row.expiresAt = s.row.expiresAt)
    (hhash : commit.exchangedFor = none ∧ s'.row.refreshHash = s.row.refreshHash ∨
      commit.exchangedFor = some s'.row.refreshHash ∧
        ∀ row ∈ s.history, row.refreshHash ≠ s'.row.refreshHash)
    (hswapped : ∀ next, commit.exchangedFor = some next →
      ∃ row, commit.presented = some (s.row.refreshHash, row))
    (hpresented : ∀ h row, commit.presented = some (h, row) →
      row ∈ s.seen ∧ (row.refreshHash = h ∨ row.previousRefreshHash = h)) :
    RowRecorded hash s' := by
  have hhistory : s'.history = s'.row :: s.history := by
    unfold Shared.history
    rw [hcommits, map_cons, hbefore]
  have hseen : s.seen ⊆ s'.seen := by
    unfold Shared.seen
    rw [hhistory]
    exact map_subset _ (subset_cons_self _ _)
  have hexchanges := exchanges_cons hcommits
  refine ⟨hstatus, ?_, ?_, ?_, ?_, ?_, ?_⟩
  · intro row hrow
    rw [hhistory] at hrow
    rcases mem_cons.1 hrow with rfl | hrow
    · rfl
    · rw [hs.expiresAt row hrow, hexpires]
  · rcases hhash with ⟨hnone, hsame⟩ | ⟨hsome, hfresh⟩
    · rw [hnone] at hexchanges
      rw [hexchanges, hsame]
      exact hs.once
    · rw [hsome] at hexchanges
      rw [hexchanges, map_cons, hbefore, nodup_cons]
      refine ⟨fun hmem => ?_, hs.once⟩
      rcases mem_cons.1 hmem with heq | hmem
      · exact hfresh s.row mem_cons_self heq.symm
      · obtain ⟨e, he, heq⟩ := mem_map.1 hmem
        obtain ⟨row, hrow, hused⟩ := hs.used e he
        exact hfresh row hrow (hused.trans heq)
  · intro e he
    rw [hhistory]
    have hold : ∀ e ∈ s.exchanges, ∃ row ∈ s'.row :: s.history, row.refreshHash = e.1 := by
      intro e he
      obtain ⟨row, hrow, hused⟩ := hs.used e he
      exact ⟨row, mem_cons_of_mem _ hrow, hused⟩
    rcases hhash with ⟨hnone, -⟩ | ⟨hsome, -⟩
    · rw [hnone] at hexchanges
      rw [hexchanges] at he
      exact hold e he
    · rw [hsome] at hexchanges
      rw [hexchanges] at he
      rcases mem_cons.1 he with rfl | he
      · exact ⟨s.row, mem_cons_of_mem _ mem_cons_self, hbefore ▸ rfl⟩
      · exact hold e he
  · rcases hhash with ⟨hnone, hsame⟩ | ⟨hsome, -⟩
    · rw [hnone] at hexchanges
      rw [hexchanges, hsame]
      exact hs.current
    · rw [hsome] at hexchanges
      rw [hexchanges]
      rfl
  · intro c hc next hnext
    rw [hcommits] at hc
    rcases mem_cons.1 hc with rfl | hc
    · exact hbefore ▸ hswapped next hnext
    · exact hs.swapped c hc next hnext
  · intro c hc h row hrow
    rw [hcommits] at hc
    rcases mem_cons.1 hc with rfl | hc
    · exact ⟨hseen (hpresented h row hrow).1, (hpresented h row hrow).2⟩
    · obtain ⟨hmem, hor⟩ := hs.presented c hc h row hrow
      exact ⟨hseen hmem, hor⟩

theorem Thread.Recorded.revokesOn (ht : t.Recorded s) {h : String} {row : Row}
    (hon : t.revokesOn = some (h, row)) :
    row ∈ s.seen ∧ (row.refreshHash = h ∨ row.previousRefreshHash = h) := by
  cases t with
  | reuseUpdate call session =>
    cases hon
    exact ⟨ht.1, .inr ht.2.previous⟩
  | hashUpdate presentedHash now session =>
    cases hon
    exact ht
  | _ => cases hon

theorem RowRecorded.step (hs : RowRecorded hash s) {threads : List Thread}
    (hfresh : FreshNext ⟨s, threads⟩ c t) (ht : t.Recorded s)
    (h : advance cfg c s t = some (s', ts)) : RowRecorded hash s' := by
  rcases advance_row h with ⟨hrow, hcommits⟩ | ⟨row, commits, hstep, rfl, hcommits⟩
  · have hhistory : s'.history = s.history := by
      unfold Shared.history
      rw [hrow, hcommits]
    have hexchanges : s'.exchanges = s.exchanges := by
      unfold Shared.exchanges
      rw [hcommits]
    have hseen : s'.seen = s.seen := by
      unfold Shared.seen
      rw [hhistory]
    exact ⟨hrow ▸ hs.status, hhistory ▸ hrow ▸ hs.expiresAt, hrow ▸ hexchanges ▸ hs.once,
      hexchanges ▸ hhistory ▸ hs.used, hrow ▸ hexchanges ▸ hs.current, hcommits ▸ hs.swapped,
      hcommits ▸ hseen ▸ hs.presented⟩
  · generalize hrow : s'.row = row at hstep
    cases hstep with
    | @exchange call tries deadline session husable hhash =>
      refine hs.commit hcommits rfl ?_ ?_ (.inr ⟨?_, ?_⟩) ?_ ?_
      · rw [hrow]
        exact hs.status
      · rw [hrow]
        rfl
      · rw [hrow]
        rfl
      · rw [hrow]
        exact hfresh call rfl hhash
      · exact fun _ _ => ⟨session, hhash ▸ rfl⟩
      · intro h row hon
        cases hon
        exact ⟨ht.1, .inl ht.2⟩
    | revoke now hactive =>
      refine hs.commit hcommits rfl ?_ ?_ (.inl ⟨rfl, ?_⟩)
        (fun _ hnext => absurd hnext.symm (Option.some_ne_none _)) ?_
      · rw [hrow]
        exact .inr rfl
      · rw [hrow]
        rfl
      · rw [hrow]
        rfl
      · exact fun _ _ hon => ht.revokesOn hon
    | advance version userAuthVersion hactive =>
      refine hs.commit hcommits rfl ?_ ?_ (.inl ⟨rfl, ?_⟩)
        (fun _ hnext => absurd hnext.symm (Option.some_ne_none _)) ?_
      · rw [hrow]
        exact hs.status
      · rw [hrow]
        rfl
      · rw [hrow]
        rfl
      · exact fun _ _ hon => absurd hon.symm (Option.some_ne_none _)

theorem Recorded.step (hs : Recorded hash s) {threads : List Thread}
    (hfresh : FreshNext ⟨s, threads⟩ c t) (ht : t.Recorded s)
    (h : advance cfg c s t = some (s', ts)) :
    Recorded hash s' ∧ Grown s s' ∧ ∀ u ∈ ts, u.Recorded s' := by
  have hgrown := advance_grown h
  obtain ⟨houtcomes, hthreads⟩ := advance_goes hs ht h
  refine ⟨⟨hs.toRowRecorded.step hfresh ht h, fun o ho => ?_⟩, hgrown, hthreads⟩
  rcases houtcomes o ho with hold | hnew
  · obtain ⟨hsuccess, hreplay⟩ := hs.outcomes o hold
    exact ⟨fun hrotated => hgrown.exchanges (hsuccess hrotated),
      fun hr => (hreplay hr).imp_right fun hor => hor.imp_right hgrown.revoked⟩
  · exact hnew

end Step

/-! ## Runs -/

/-- A revoked row does not change any more. -/
theorem revoked_final {cfg : Config} {cond : Pool Shared Thread → Choice → Thread → Prop}
    {p q : Pool Shared Thread} (hrevoked : p.shared.row.status = .revoked)
    (hrun : Exec (Pool.step (advance cfg)) (Pool.Meets cond) p q) :
    q.shared.row = p.shared.row ∧ q.shared.commits = p.shared.commits := by
  refine Exec.invariant
    (I := fun r => r.shared.row = p.shared.row ∧ r.shared.commits = p.shared.commits) ?_
    ⟨rfl, rfl⟩ hrun
  rintro r a r' ⟨hrow, hcommits⟩ - hstep
  obtain ⟨t, ts, others, -, hadvance, -, -⟩ := Pool.step_cases hstep
  rcases advance_row hadvance with ⟨hrow', hcommits'⟩ | ⟨row, commits, hupdate, -, -⟩
  · exact ⟨hrow'.trans hrow, hcommits'.trans hcommits⟩
  -- every update asks for an active row
  have hinactive : r.shared.row.status ≠ .active := by
    rw [hrow, hrevoked]
    decide
  cases hupdate with
  | exchange husable hhash => exact absurd husable.1 hinactive
  | revoke now hactive => exact absurd hactive hinactive
  | advance version userAuthVersion hactive => exact absurd hactive hinactive

theorem Opened.recorded {hash : String} {s : Shared} (h : Opened hash s) : Recorded hash s := by
  have hexchanges : s.exchanges = [] := by
    unfold Shared.exchanges
    rw [h.commits]
    rfl
  have hhistory : s.history = [s.row] := by
    unfold Shared.history
    rw [h.commits]
    rfl
  refine ⟨⟨.inl ⟨h.active, h.revokedAt⟩, ?_, ?_, ?_, ?_, ?_, ?_⟩, ?_⟩
  · intro row hrow
    rw [hhistory, mem_singleton] at hrow
    rw [hrow]
  · rw [hexchanges]
    exact nodup_singleton _
  · rw [hexchanges]
    exact fun _ he => absurd he not_mem_nil
  · rw [hexchanges]
    exact h.hash
  · rw [h.commits]
    exact fun _ hc => absurd hc not_mem_nil
  · rw [h.commits]
    exact fun _ hc => absurd hc not_mem_nil
  · rw [h.outcomes]
    exact fun _ ho => absurd ho not_mem_nil

theorem Thread.Recorded.of_initial {t : Thread} (h : t.initial = true) (s : Shared) :
    t.Recorded s := by
  cases t with
  | get | rotate | revoke | revokeByHash | advance => trivial
  | _ => cases h

/-- **Single use and replay detection.** In every run of any number of calls on a new session, in
which each exchange is for a fresh hash:
each hash is exchanged at most once, by an exchange of the current hash, and every rotation
that succeeds is one of the exchanges;
an active row has the next hash of the last exchange;
a call acts only on a hash that was the current or the previous one in the row it has read;
the replay of a previous hash after its grace period leaves the row revoked, unless the fence
or the database fails; and
a revoked row does not change any more. -/
theorem refresh_exchanged_once {cfg : Config} {hash : String} {p q : Pool Shared Thread}
    (hopened : Opened hash p.shared) (hinitial : ∀ t ∈ p.threads, t.initial = true)
    (hrun : Exec (Pool.step (advance cfg)) (Pool.Meets FreshNext) p q) :
    (q.shared.exchanges.map Prod.fst).Nodup ∧
    (∀ commit ∈ q.shared.commits, ∀ next, commit.exchangedFor = some next →
      ∃ row, commit.presented = some (commit.before.refreshHash, row)) ∧
    (∀ o ∈ q.shared.outcomes, o.result = .rotated →
      (o.call.presentedHash, o.call.nextHash) ∈ q.shared.exchanges) ∧
    (q.shared.row.status = .active →
      q.shared.row.refreshHash = (q.shared.exchanges.head?.map Prod.snd).getD hash) ∧
    (∀ commit ∈ q.shared.commits, ∀ h row, commit.presented = some (h, row) →
      row ∈ q.shared.seen ∧ (row.refreshHash = h ∨ row.previousRefreshHash = h)) ∧
    (∀ o ∈ q.shared.outcomes, Replayed o.call o.seen →
      o.result = .fenceError ∨ o.result = .databaseError ∨ q.shared.row.status = .revoked) ∧
    (q.shared.row.status = .revoked →
      ∀ r, Exec (Pool.step (advance cfg)) (Pool.Meets FreshNext) q r →
        r.shared.row = q.shared.row ∧ r.shared.exchanges = q.shared.exchanges) := by
  obtain ⟨hrecorded, -⟩ : Recorded hash q.shared ∧ ∀ t ∈ q.threads, t.Recorded q.shared := by
    refine Pool.local_invariant (R := Grown) ?_ ?_ hopened.recorded ?_ hrun
    · exact fun _ _ _ hgrown ht => ht.grown hgrown
    · exact fun _ _ _ _ _ hfresh hs ht hadvance => hs.step hfresh ht hadvance
    · exact fun t ht => .of_initial (hinitial t ht) _
  refine ⟨(nodup_cons.1 hrecorded.once).2, hrecorded.swapped,
    fun o ho => (hrecorded.outcomes o ho).success, fun _ => hrecorded.current,
    hrecorded.presented, fun o ho => (hrecorded.outcomes o ho).replay, fun hrevoked r hrun' => ?_⟩
  obtain ⟨hrow, hcommits⟩ := revoked_final hrevoked hrun'
  refine ⟨hrow, ?_⟩
  unfold Shared.exchanges
  rw [hcommits]

/-- A session with the hash `h0`, and two clients that present it. The second one is too late. -/
def twoClients : Pool Shared Thread where
  shared := ⟨⟨1, 1, .active, "h0", "", 0, 1000, 0⟩, none, 0, 0, [], [], [], false⟩
  threads := [.rotate "h0" "h1" 100 10000000000, .rotate "h0" "h2" 200 10000000000]

/-- The second client is found out, and the session is revoked. -/
theorem refresh_exchanged_once_replay :
    ∃ q, Exec (Pool.step (advance ⟨true, 60⟩)) (Pool.Meets FreshNext) twoClients q ∧
      q.shared.outcomes.map Outcome.result = [.refreshReuse, .rotated] ∧
      q.shared.row.status = .revoked ∧ (q.shared.exchanges.map Prod.fst).Nodup := by
  refine Exec.exists_and_and_of_actions (replicate 15 (0, ⟨0, false⟩))
    (by decide +kernel) fun _ hrun _ _ => ?_
  have hopened : Opened "h0" twoClients.shared := ⟨rfl, rfl, rfl, rfl, rfl⟩
  have hsound := refresh_exchanged_once hopened (by decide) hrun
  exact hsound.1

/-- The fence of the second client fails in Redis. The replay is answered with an error, and the
session stays active. -/
theorem replay_without_fence :
    ∃ q, Exec (Pool.step (advance ⟨true, 60⟩)) (Pool.Meets FreshNext) twoClients q ∧
      q.threads = [] ∧ (∃ o ∈ q.shared.outcomes, o.call.presentedHash = "h0" ∧
        o.call.nextHash = "h2" ∧ Replayed o.call o.seen) ∧
      q.shared.row.status = .active := by
  exact Exec.exists_of_actions (replicate 11 (0, ⟨0, false⟩) ++ [(0, ⟨0, true⟩)])
    (by decide +kernel)

end OmniRouters.UserSession
