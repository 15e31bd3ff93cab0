import OmniRouters.Subscription.Usage

/-!
# Usage within a reset period

What requests hold of a subscription, or were finally charged, is kept in an account for each
request, next to the tables of `Subscription.Usage`. A reset leaves the accounts of the
subscription behind: only requests that are pre-consumed after it count against the new period.
`AmountUsed` has no period, so a refund or a negative settle also takes back what a reset has
already wiped.

* `Covers.charge`: a delta that the request's own account covers keeps the books covered.
* `current_usage_kept`: usage covers the requests of the current period.
* `usage_erased_by_old_refund`: the refund of an older request erases it.
-/

namespace OmniRouters.Subscription

open Billing Lib List Option Tables

/-! ## Accounts -/

/-- What a request holds of a subscription or was charged. `fresh` is set until the subscription
is reset. -/
structure Account where
  requestId : String
  subscriptionId : ℕ
  amount : ℕ
  fresh : Bool
deriving DecidableEq

/-- The amount that counts in the current period. -/
def Account.current (a : Account) : ℕ := if a.fresh then a.amount else 0

def Account.charge (a : Account) (delta : ℤ) : Account :=
  { a with amount := (a.amount + delta).toNat }

/-- The account after the subscriptions of `wasReset` are reset. -/
def Account.age (wasReset : ℕ → Bool) (a : Account) : Account :=
  { a with fresh := a.fresh && !wasReset a.subscriptionId }

def account? (accounts : List Account) (requestId : String) : Option Account :=
  accounts.find? (·.requestId = requestId)

/-- The accounts after a request is charged `delta` more. -/
def charge (requestId : String) (delta : ℤ) : List Account → List Account
  | [] => []
  | a :: rest =>
    if a.requestId = requestId then a.charge delta :: rest else a :: charge requestId delta rest

def held (accounts : List Account) (id : ℕ) : ℕ :=
  (accounts.map fun a => if a.subscriptionId = id then a.current else 0).sum

/-! ## Moves -/

structure Book where
  tables : Tables
  accounts : List Account
deriving DecidableEq

/-- What changes the usage of a subscription, with the request it is for. -/
inductive Move
  | preConsume (plans : Plans) (fuel : ℕ) (req : PreConsume)
  | settle (requestId : String) (delta : ℤ)
  | refund (requestId : String) (saved : Bool)
  | resetDue (plans : Plans) (fuel : ℕ) (now : ℤ) (id : ℕ)
  | adminReset (plans : Plans) (now : ℤ) (advanceResetTime : Bool) (planId : ℕ)
      (userId : Option ℕ)

def move (b : Book) : Move → Option Book
  | .preConsume plans fuel req =>
    (preConsumeUserSubscription plans fuel b.tables req).map fun (t, saves, row) =>
      ⟨t, ⟨req.requestId, row.id, req.amount.toNat, true⟩ :: b.accounts.map
        (Account.age fun id => saves.any fun save => save.2 && decide (save.1.id = id))⟩
  | .settle requestId delta =>
    -- the session keeps the subscription that the pre-consume has returned
    (account? b.accounts requestId).bind fun a =>
      (step b.tables (.postConsume a.subscriptionId delta)).map fun t =>
        ⟨t, charge requestId delta b.accounts⟩
  | .refund requestId saved =>
    (b.tables.record? requestId).bind fun record =>
      (step b.tables (.refund requestId saved)).map fun t =>
        ⟨t, charge requestId (-max 0 record.preConsumed) b.accounts⟩
  | .resetDue plans fuel now id =>
    (resetDueSubscription plans fuel b.tables now id).map fun (row, wasReset) =>
      ⟨b.tables.save row, b.accounts.map (Account.age fun i => wasReset && decide (i = id))⟩
  | .adminReset plans now advanceResetTime planId userId =>
    (step b.tables (.adminReset plans now advanceResetTime planId userId)).map fun t =>
      ⟨t, b.accounts.map (Account.age fun id =>
        b.tables.rows.any fun row => row.resettable now planId userId && decide (row.id = id))⟩

/-- A settle or refund takes back no more than the request holds in the current period. -/
def TakesBackCurrent (b : Book) : Move → Prop
  | .settle requestId delta => ∀ a ∈ account? b.accounts requestId, -delta ≤ a.current
  | .refund requestId _ => ∀ record ∈ b.tables.record? requestId,
      ∀ a ∈ account? b.accounts requestId, record.preConsumed ≤ a.current
  | _ => True

instance (b : Book) : (m : Move) → Decidable (TakesBackCurrent b m)
  | .preConsume .. => isTrue trivial
  | .settle requestId delta =>
    inferInstanceAs (Decidable (∀ a ∈ account? b.accounts requestId, -delta ≤ a.current))
  | .refund requestId _ =>
    inferInstanceAs (Decidable (∀ record ∈ b.tables.record? requestId,
      ∀ a ∈ account? b.accounts requestId, record.preConsumed ≤ a.current))
  | .resetDue .. => isTrue trivial
  | .adminReset .. => isTrue trivial

/-- The operation of a move that adds to the usage. -/
def Move.op? (b : Book) : Move → Option Op
  | .preConsume plans fuel req => some (.preConsume plans fuel req)
  | .settle requestId delta =>
    (account? b.accounts requestId).map fun a => .postConsume a.subscriptionId delta
  | .refund requestId saved => some (.refund requestId saved)
  | _ => none

/-- Nothing is taken back that is not held, and the sums fit an `int64`. -/
def Current (b : Book) (m : Move) : Prop :=
  TakesBackCurrent b m ∧ ∀ op ∈ m.op? b, sumsFit b.tables op = true

instance (b : Book) (m : Move) : Decidable (Current b m) := inferInstanceAs (Decidable (_ ∧ _))

/-! ## The sum of the accounts -/

section Held

variable {accounts : List Account} {requestId : String} {a : Account} {delta : ℤ}

theorem held_cons (a : Account) (accounts : List Account) (id : ℕ) :
    held (a :: accounts) id =
      (if a.subscriptionId = id then a.current else 0) + held accounts id := by
  unfold held
  rw [map_cons, sum_cons]

theorem current_age_le (wasReset : ℕ → Bool) (a : Account) :
    (a.age wasReset).current ≤ a.current := by
  unfold Account.current Account.age
  cases a.fresh <;> cases wasReset a.subscriptionId <;> simp

theorem held_age_le (wasReset : ℕ → Bool) (accounts : List Account) (id : ℕ) :
    held (accounts.map (Account.age wasReset)) id ≤ held accounts id := by
  induction accounts with
  | nil => exact le_rfl
  | cons a rest ih =>
    rw [map_cons, held_cons, held_cons]
    have hcurrent := current_age_le wasReset a
    have hsub : (a.age wasReset).subscriptionId = a.subscriptionId := rfl
    rw [hsub]
    split <;> omega

/-- Nothing of a subscription that is reset is current. -/
theorem held_age_eq_zero {wasReset : ℕ → Bool} {id : ℕ} (h : wasReset id = true)
    (accounts : List Account) : held (accounts.map (Account.age wasReset)) id = 0 := by
  induction accounts with
  | nil => rfl
  | cons a rest ih =>
    rw [map_cons, held_cons, ih]
    split
    next hid =>
      have hid : a.subscriptionId = id := hid
      simp [Account.current, Account.age, hid, h]
    · rfl

section

variable (h : account? accounts requestId = some a)

include h

/-- A charge that the account covers changes the sum of its subscription by `delta` at most. -/
theorem held_charge_le (hcurrent : -delta ≤ a.current) (id : ℕ) :
    (held (charge requestId delta accounts) id : ℤ) ≤
      held accounts id + if a.subscriptionId = id then delta else 0 := by
  induction accounts with
  | nil => cases h
  | cons b rest ih =>
    unfold account? at h
    rw [find?_cons] at h
    unfold charge
    by_cases hb : b.requestId = requestId
    · rw [if_pos hb, held_cons, held_cons]
      simp only [hb, decide_true, some.injEq] at h
      subst h
      have hsub : (b.charge delta).subscriptionId = b.subscriptionId := rfl
      unfold Account.charge Account.current at *
      split
      · cases hfresh : b.fresh <;>
          simp only [hfresh, if_true, Bool.false_eq_true, if_false] at * <;> omega
      · omega
    · rw [if_neg hb, held_cons, held_cons]
      simp only [hb, decide_false] at h
      have hrest := ih h
      omega

theorem account?_charge (r : String) (delta : ℤ) :
    ∃ a', account? (charge r delta accounts) requestId = some a' ∧
      a'.subscriptionId = a.subscriptionId := by
  induction accounts with
  | nil => cases h
  | cons b rest ih =>
    unfold account? at h ih ⊢
    rw [find?_cons] at h
    unfold charge
    by_cases hb : b.requestId = requestId
    · simp only [hb, decide_true, some.injEq] at h
      subst h
      split
      · exact ⟨b.charge delta, by simp [Account.charge, hb], rfl⟩
      · exact ⟨b, by simp [hb], rfl⟩
    · simp only [hb, decide_false] at h
      split
      · exact ⟨a, by simpa [Account.charge, hb] using h, rfl⟩
      · obtain ⟨a', ha', hsub⟩ := ih h
        exact ⟨a', by simpa [hb] using ha', hsub⟩

theorem account?_age (wasReset : ℕ → Bool) :
    account? (accounts.map (Account.age wasReset)) requestId = some (a.age wasReset) := by
  unfold account? at h ⊢
  rw [find?_map]
  have hkeys : (fun b : Account => decide (b.requestId = requestId)) ∘ Account.age wasReset =
      fun b => decide (b.requestId = requestId) := rfl
  rw [hkeys, h, map_some]

end

end Held

/-! ## Books -/

/-- The usage of every row covers the current amounts. -/
def Covers (rows : List Row) (accounts : List Account) : Prop :=
  ∀ row ∈ rows, (held accounts row.id : ℤ) ≤ row.amountUsed

/-- A record and the account of its request are about one subscription. -/
def Linked (t : Tables) (accounts : List Account) : Prop :=
  ∀ requestId record, t.record? requestId = some record →
    ∃ a, account? accounts requestId = some a ∧ a.subscriptionId = record.userSubscriptionId

section Books

variable {t t' : Tables} {accounts : List Account} {requestId : String} {a : Account}

section

variable (h : Covers t.rows accounts)

include h

theorem Covers.save {accounts' : List Account} {row : Row}
    (hrow : (held accounts' row.id : ℤ) ≤ row.amountUsed)
    (hothers : ∀ id ≠ row.id, held accounts' id ≤ held accounts id) :
    Covers (t.save row).rows accounts' := by
  intro r hr
  rcases mem_replace hr with rfl | ⟨hold, hne⟩
  · exact hrow
  · have hle := h r hold
    have hother := hothers r.id hne
    omega

/-- **A covered delta.** `PostConsumeUserSubscriptionDelta` on behalf of a request whose account
covers what is taken back. -/
theorem Covers.charge {delta : ℤ} (ha : account? accounts requestId = some a)
    (hcurrent : -delta ≤ a.current) (hpost : postConsumeDelta t a.subscriptionId delta = some t')
    (hfits : (t.find? a.subscriptionId).all (fun row => fits64 (row.amountUsed + delta)) = true) :
    Covers t'.rows (charge requestId delta accounts) := by
  obtain ⟨row, row', hfind, hrow', rfl⟩ := postConsumeDelta_cases hpost
  obtain ⟨hmem, hid⟩ := mem_of_find? hfind
  obtain ⟨hid', hused, -⟩ := postConsume_cases hrow'
  rw [hfind] at hfits
  rw [wrap64_of_fits64 hfits] at hused
  refine h.save ?_ fun id hne => ?_
  · have hle := held_charge_le ha hcurrent row'.id
    rw [if_pos (by rw [hid', hid]), hid'] at hle
    have hrow := h row hmem
    rw [hused, hid']
    exact le_trans (by omega) (le_max_right _ _)
  · have hle := held_charge_le ha hcurrent id
    omega

theorem Covers.preConsume {plans : Plans} {fuel : ℕ} {req : PreConsume} {saves : List (Row × Bool)}
    {row : Row} (hpre : preConsumeUserSubscription plans fuel t req = some (t', saves, row))
    (hfits : fits64 (row.amountUsed + req.amount) = true) :
    Covers t'.rows (⟨req.requestId, row.id, req.amount.toNat, true⟩ :: accounts.map
      (Account.age fun id => saves.any fun save => save.2 && decide (save.1.id = id))) := by
  obtain ⟨hc, hamount, -, hrows, -⟩ := preConsume_spec hpre
  generalize hwas : (fun id => saves.any fun save => save.2 && decide (save.1.id = id)) = wasReset
  have hage := held_age_le wasReset accounts
  have hsaved : ∀ r w, (r, w) ∈ saves →
      (held (accounts.map (Account.age wasReset)) r.id : ℤ) ≤ r.amountUsed := by
    intro r w hmem
    obtain ⟨r0, hr0, hfollows⟩ := hc.saved (r, w) hmem
    have hused := hfollows.amountUsed
    cases w with
    | true =>
      have hreset : wasReset r.id = true := by
        rw [← hwas]
        exact List.any_eq_true.2 ⟨(r, true), hmem, by simp⟩
      rw [held_age_eq_zero hreset]
      exact hused.ge
    | false =>
      have hold := h r0 hr0
      have hid : r.id = r0.id := hfollows.id
      have hle := hage r.id
      simp only [Bool.false_eq_true, if_false] at hused
      rw [hid] at hle ⊢
      omega
  have hall : Covers (t.saveAll saves).rows (accounts.map (Account.age wasReset)) := by
    intro r hr
    rcases mem_saveAll hr with ⟨w, hw⟩ | ⟨hmem, -⟩
    · exact hsaved r w hw
    · exact le_trans (Int.ofNat_le.2 (hage r.id)) (h r hmem)
  rw [hrows]
  refine hall.save ?_ fun id hne => ?_
  · obtain ⟨w, hw⟩ := hc.charged
    have hrow := hsaved row w hw
    have hnew : (⟨req.requestId, row.id, req.amount.toNat, true⟩ : Account).current =
      req.amount.toNat := rfl
    have hid : (row.charge req.amount).id = row.id := rfl
    rw [Row.charge_amountUsed hfits, hid, held_cons, if_pos rfl, hnew]
    push_cast
    have hnat : (req.amount.toNat : ℤ) = req.amount := Int.toNat_of_nonneg hamount.le
    omega
  · rw [held_cons, if_neg (by exact fun heq => hne heq.symm), Nat.zero_add]

theorem Covers.adminReset {plan : Plan} {now : ℤ} {advanceResetTime : Bool} {planId : ℕ}
    {userId : Option ℕ} : Covers (t.rows.map fun row =>
        if row.resettable now planId userId then
          resetUserSubscriptionTx plan now advanceResetTime row
        else row)
      (accounts.map (Account.age fun id =>
        t.rows.any fun row => row.resettable now planId userId && decide (row.id = id))) := by
  intro r hr
  obtain ⟨r0, hr0, rfl⟩ := List.mem_map.1 hr
  split
  next hreset =>
    have hid : (resetUserSubscriptionTx plan now advanceResetTime r0).id = r0.id := by
      unfold resetUserSubscriptionTx
      split <;> rfl
    have hused : (resetUserSubscriptionTx plan now advanceResetTime r0).amountUsed = 0 := by
      unfold resetUserSubscriptionTx
      split <;> rfl
    rw [hid, hused, held_age_eq_zero]
    · exact le_rfl
    · exact List.any_eq_true.2 ⟨r0, hr0, by simp [hreset]⟩
  · exact le_trans (Int.ofNat_le.2 (held_age_le _ _ _)) (h r0 hr0)

end

section

variable (h : Linked t accounts)

include h

/-- Saving the status of a record keeps its subscription. -/
theorem Linked.saveRecord {record : Record} (hrecord : t.record? requestId = some record) :
    Linked (t.saveRecord { record with refunded := true }) accounts := by
  intro r x hx
  rw [record?_saveRecord] at hx
  split at hx
  next heq =>
    obtain rfl : requestId = r := (requestId_of_record? hrecord).symm.trans heq
    rw [hrecord, map_some] at hx
    obtain ⟨a, ha, hsub⟩ := h requestId record hrecord
    exact ⟨a, ha, by rw [hsub, ← some.inj hx]⟩
  · exact h r x hx

theorem Linked.charge (r : String) (delta : ℤ) : Linked t (charge r delta accounts) := by
  intro requestId record hrecord
  obtain ⟨a, ha, hsub⟩ := h requestId record hrecord
  obtain ⟨a', ha', hsub'⟩ := account?_charge ha r delta
  exact ⟨a', ha', hsub'.trans hsub⟩

theorem Linked.age (wasReset : ℕ → Bool) : Linked t (accounts.map (Account.age wasReset)) := by
  intro requestId record hrecord
  obtain ⟨a, ha, hsub⟩ := h requestId record hrecord
  exact ⟨a.age wasReset, account?_age ha wasReset, hsub⟩

theorem Linked.cons (rows : List Row) (requestId : String) (id amount : ℕ) (preConsumed : ℤ) :
    Linked ⟨rows, ⟨requestId, id, preConsumed, false⟩ :: t.records⟩
      (⟨requestId, id, amount, true⟩ :: accounts) := by
  intro r record hrecord
  by_cases hr : requestId = r
  · refine ⟨⟨requestId, id, amount, true⟩, by simp [account?, hr], ?_⟩
    have heq : record = ⟨requestId, id, preConsumed, false⟩ := by
      simpa [record?, hr, eq_comm] using hrecord
    rw [heq]
  · obtain ⟨a, ha, hsub⟩ := h r record (by simpa [record?, hr] using hrecord)
    exact ⟨a, by simpa [account?, hr] using ha, hsub⟩

end

end Books

/-! ## Runs -/

/-- The invariant of the books. -/
structure Book.Sound (b : Book) : Prop where
  covers : Covers b.tables.rows b.accounts
  linked : Linked b.tables b.accounts

/-- **One move** keeps the books. -/
theorem move_sound {b b' : Book} {m : Move} (h : b.Sound) (hcond : Current b m)
    (hmove : move b m = some b') : b'.Sound := by
  obtain ⟨hok, hfits⟩ := hcond
  cases m with
  | preConsume plans fuel req =>
    obtain ⟨⟨t, saves, row⟩, hpre, rfl⟩ := map_eq_some_iff.1 hmove
    have hfits := hfits _ rfl
    rw [sumsFit, hpre] at hfits
    refine ⟨h.covers.preConsume hpre hfits, ?_⟩
    obtain ⟨-, -, -, -, hrecords⟩ := preConsume_spec hpre
    have hlinked := h.linked.age fun id => saves.any fun save => save.2 && decide (save.1.id = id)
    have hcons := hlinked.cons t.rows req.requestId row.id req.amount.toNat req.amount
    rw [← hrecords] at hcons
    exact hcons
  | settle requestId delta =>
    obtain ⟨a, ha, hstep⟩ := bind_eq_some_iff.1 hmove
    obtain ⟨t, hpost, rfl⟩ := map_eq_some_iff.1 hstep
    have hfits := hfits (.postConsume a.subscriptionId delta) (by simp [Move.op?, ha])
    refine ⟨h.covers.charge ha (hok a ha) hpost hfits, ?_⟩
    obtain ⟨-, row', -, -, rfl⟩ := postConsumeDelta_cases hpost
    exact h.linked.charge requestId delta
  | refund requestId saved =>
    obtain ⟨record, hrecord, hstep⟩ := bind_eq_some_iff.1 hmove
    obtain ⟨t, hrefund, rfl⟩ := map_eq_some_iff.1 hstep
    obtain ⟨a, ha, hsub⟩ := h.linked requestId record hrecord
    have hcurrent := hok record hrecord a ha
    obtain ⟨record', t1, hrecord', hused, hstatus⟩ := refund_cases hrefund
    obtain rfl : record = record' := some.inj (hrecord.symm.trans hrecord')
    have h1 : Covers t1.rows (charge requestId (-max 0 record.preConsumed) b.accounts) ∧
        Linked t1 (charge requestId (-max 0 record.preConsumed) b.accounts) ∧
        t1.record? requestId = some record := by
      rcases hused with ⟨hle, rfl⟩ | ⟨hpos, hpost⟩
      · refine ⟨fun row hrow => ?_, h.linked.charge _ _, hrecord⟩
        have hdelta : -max 0 record.preConsumed = 0 := by omega
        have hheld := held_charge_le ha (le_of_eq_of_le neg_zero (Int.natCast_nonneg _)) row.id
        have hcovers := h.covers row hrow
        rw [hdelta]
        split at hheld <;> omega
      · rw [max_eq_right hpos.le]
        rw [← hsub] at hpost
        have hfits := hfits _ rfl
        rw [sumsFit, hrecord] at hfits
        refine ⟨h.covers.charge ha (by omega) hpost (by rw [hsub]; exact hfits), ?_⟩
        obtain ⟨-, row', -, -, rfl⟩ := postConsumeDelta_cases hpost
        exact ⟨h.linked.charge _ _, hrecord⟩
    obtain ⟨hcovers, hlinked, hrecord1⟩ := h1
    rcases hstatus with rfl | rfl
    · exact ⟨hcovers, hlinked⟩
    · exact ⟨hcovers, hlinked.saveRecord hrecord1⟩
  | resetDue plans fuel now id =>
    obtain ⟨⟨row', wasReset⟩, hreset, rfl⟩ := map_eq_some_iff.1 hmove
    obtain ⟨row, hrow, hfollows⟩ := resetDue_follows hreset
    obtain ⟨hmem, hid⟩ := mem_of_find? hrow
    refine ⟨h.covers.save ?_ fun i _ => held_age_le _ _ i, h.linked.age _⟩
    have hused := hfollows.amountUsed
    have hid' : row'.id = id := hfollows.id.trans hid
    cases wasReset with
    | true =>
      rw [held_age_eq_zero (by simp [hid'])]
      exact hused.ge
    | false =>
      rw [hused, hid', ← hid]
      exact le_trans (Int.ofNat_le.2 (held_age_le _ _ _)) (h.covers row hmem)
  | adminReset plans now advance planId userId =>
    obtain ⟨t, hstep, rfl⟩ := map_eq_some_iff.1 hmove
    simp only [step] at hstep
    split at hstep
    · cases hstep
    · cases hstep
      exact ⟨h.covers.adminReset, h.linked.age _⟩

/-- **Usage covers the current period.** Any pre-consumes, settles, refunds and resets run on any
subscriptions. As long as nothing is taken back that the request does not hold in the current
period, and the sums fit, the usage of each subscription is at least what the requests since its
last reset hold or were charged. -/
theorem current_usage_kept {rows : List Row} (hrows : ∀ row ∈ rows, 0 ≤ row.amountUsed)
    {b : Book} (hrun : Exec move Current ⟨⟨rows, []⟩, []⟩ b) :
    ∀ row ∈ b.tables.rows, (held b.accounts row.id : ℤ) ≤ row.amountUsed := by
  have hsound : b.Sound := by
    refine Exec.invariant (I := Book.Sound) (fun b m b' hb hok hmove => ?_) ⟨?_, ?_⟩ hrun
    · exact move_sound hb hok hmove
    · exact hrows
    · intro requestId record hrecord
      cases hrecord
  exact hsound.covers

/-- A request is pre-consumed, settled and a second one is refunded in one period, and a third
starts the next one. -/
theorem current_usage_kept_over_reset :
    ∃ b, Exec move Current ⟨⟨[minuteRow 0 1 61], []⟩, []⟩ b ∧
      held b.accounts 1 = 30 ∧ b.tables.rows = [minuteRow 30 61 121] ∧
      ∀ row ∈ b.tables.rows, (held b.accounts row.id : ℤ) ≤ row.amountUsed := by
  exact Exec.exists_and_and_of_actions [.preConsume everyMinute 5 (minuteRequest "a" 50 10),
    .settle "a" (-20), .preConsume everyMinute 5 (minuteRequest "b" 40 20), .refund "b" true,
    .preConsume everyMinute 5 (minuteRequest "c" 30 70)]
    (by decide +kernel) fun _ hrun _ _ => current_usage_kept (by decide) hrun

/-- A request of 50 units is reserved before the reset and refunded after it: the 30 units that
another request holds since the reset are erased. -/
theorem usage_erased_by_old_refund :
    ∃ b, Exec move (fun _ _ => True) ⟨⟨[minuteRow 0 1 61], []⟩, []⟩ b ∧
      held b.accounts 1 = 30 ∧ b.tables.rows = [minuteRow 0 61 121] := by
  exact Exec.exists_of_actions [.preConsume everyMinute 5 (minuteRequest "a" 50 10),
    .preConsume everyMinute 5 (minuteRequest "b" 30 70), .refund "a" true] (by decide +kernel)

end OmniRouters.Subscription
