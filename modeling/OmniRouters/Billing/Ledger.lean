import OmniRouters.Billing.Store

/-!
# What a storage call takes from which ledger

The four ledgers of a request are the user's wallet, the organization's
wallet, a subscription and the token. `Rows.taken` reads them with one sign:
the more has been taken from a ledger, the larger the number.

`Moves l δ r r'` says that `δ` was taken from ledger `l` and that the other
ledgers stand as they were. Every storage call is described by it:

* `increaseUserQuota_takes`, `decreaseUserQuota_takes`,
  `tryReserveUserQuota_takes`: the wallet;
* `tryReserveOrganizationQuota_takes`, `adjustOrganizationQuota_takes`:
  the organization;
* `postConsumeUserSubscriptionDelta_applies`, `preConsumeUserSubscription_cases`,
  `refundSubscriptionPreConsume_cases`: a subscription;
* `increaseTokenQuota_takes`, `decreaseTokenQuota_takes`,
  `tryReserveTokenQuota_takes`: the token.
-/

namespace OmniRouters.Billing

open Option

inductive Ledger
  | wallet
  | organization
  | subscription (id : ℕ)
  | token
deriving DecidableEq

/-- How much has been taken from a ledger, up to a constant of the ledger. -/
def Rows.taken (r : Rows) : Ledger → ℤ
  | .wallet => -r.userQuota
  | .organization => -r.organization.quota
  | .subscription id => r.subscriptions.used id
  | .token => -r.tokenRemain

/-- `δ` is taken from ledger `l` and nothing else changes but the members'
usage counters. -/
structure Moves (l : Ledger) (δ : ℤ) (r r' : Rows) : Prop where
  taken : r'.taken l = r.taken l + δ
  other : ∀ l', l' ≠ l → r'.taken l' = r.taken l'
  record : r'.record = r.record
  present : ∀ id, (r'.subscriptions.get? id).isSome = (r.subscriptions.get? id).isSome

theorem Moves.refl (l : Ledger) (r : Rows) : Moves l 0 r r :=
  ⟨by simp, fun _ _ => rfl, rfl, fun _ => rfl⟩

/-- The outcome of a call that takes `δ` from `l`: done, or failed without
effect. -/
inductive Applies (l : Ledger) (δ : ℤ) (r : Rows) : Bool → Rows → Prop
  | done {r' : Rows} : Moves l δ r r' → Applies l δ r true r'
  | failed : Applies l δ r false r

variable {l L : Ledger} {δ : ℤ} {r r' : Rows} {s : Store}

/-- Whichever way a call ends, the other ledgers stand. -/
theorem Applies.other {ok : Bool} (h : Applies l δ r ok r') {l' : Ledger} (hl : l' ≠ l) :
    r'.taken l' = r.taken l' := by
  cases h with
  | done h => exact h.other l' hl
  | failed => rfl

theorem Applies.record {ok : Bool} (h : Applies l δ r ok r') : r'.record = r.record := by
  cases h with
  | done h => exact h.record
  | failed => rfl

theorem Applies.moves (h : Applies l δ r true r') : Moves l δ r r' := by
  cases h with
  | done h => exact h

theorem Applies.eq (h : Applies l δ r false r') : r' = r := by
  cases h with
  | failed => rfl

/-- Every ledger but `L` and the token stands as it was. -/
def Spares (L : Ledger) (r r' : Rows) : Prop :=
  ∀ l, l ≠ L → l ≠ .token → r'.taken l = r.taken l

theorem Spares.refl (L : Ledger) (r : Rows) : Spares L r r := fun _ _ _ => rfl

theorem Spares.trans {r'' : Rows} (h : Spares L r r') (h' : Spares L r' r'') :
    Spares L r r'' := fun l hl ht => (h' l hl ht).trans (h l hl ht)

theorem Moves.spares (h : Moves L δ r r') : Spares L r r' :=
  fun l hl _ => h.other l hl

theorem Applies.spares {ok : Bool} (h : Applies L δ r ok r') :
    Spares L r r' := fun _ hl _ => h.other hl

/-- `(true, nil)` among the outcomes of a reservation. -/
def Reservation.ok : Reservation → Bool
  | .reserved => true
  | _ => false

/-- The database answers every call to come. -/
def Store.Answers (s : Store) : Prop := s.faults = []

/-- The groups that a subscription is restricted to, `none` if there is no such subscription. -/
def Rows.allowedGroups (r : Rows) (id : ℕ) : Option (List String) :=
  (r.subscriptions.get? id).map (·.allowedGroups)

theorem Rows.allowedGroups_setUsed (r : Rows) (id used : ℕ) (record : Option PreConsumeRecord) :
    Rows.allowedGroups { r with
      subscriptions := r.subscriptions.setUsed id used
      record := record } = r.allowedGroups := by
  funext j
  unfold Rows.allowedGroups
  rw [SubscriptionTable.get?_setUsed]
  cases r.subscriptions.get? j with
  | none => rfl
  | some sub =>
    simp only [map_some, SubscriptionTable.withUsed]
    split <;> rfl

/-- What every storage call leaves: a database that answers, and the groups of the
subscriptions. -/
structure Store.Later (s s' : Store) : Prop where
  answers : s.Answers → s'.Answers
  groups : s'.rows.allowedGroups = s.rows.allowedGroups

theorem Store.Later.refl (s : Store) : s.Later s := ⟨id, rfl⟩

theorem Store.next_later (s : Store) : s.Later s.next := by
  refine ⟨fun h => ?_, rfl⟩
  unfold Store.Answers at h ⊢
  simp [Store.next, h]

/-- A storage call logs nothing. -/
structure Store.Leaves (s s' : Store) : Prop extends s.Later s' where
  log : s'.log = s.log

theorem Store.Leaves.refl (s : Store) : s.Leaves s := ⟨.refl s, rfl⟩

theorem Store.Later.trans {s' s'' : Store} (h : s.Later s') (h' : s'.Later s'') : s.Later s'' :=
  ⟨fun ha => h'.answers (h.answers ha), h'.groups.trans h.groups⟩

theorem Store.Leaves.trans {s' s'' : Store} (h : s.Leaves s') (h' : s'.Leaves s'') :
    s.Leaves s'' := ⟨h.toLater.trans h'.toLater, h'.log.trans h.log⟩

/-- A storage call that takes `δ` from `l`. -/
structure Takes (l : Ledger) (δ : ℤ) (s : Store) (ok : Bool) (s' : Store) : Prop where
  applies : Applies l δ s.rows ok s'.rows
  leaves : s.Leaves s'

theorem Takes.refused : Takes l δ s false s := ⟨.failed, .refl s⟩

theorem Takes.nothing : Takes l 0 s true s := ⟨.done (.refl _ _), .refl s⟩

theorem exec_eq (s : Store) (tx : Rows → Option Rows) :
    s.exec tx = ((s.tryExec tx).1.ok, (s.tryExec tx).2) := by
  unfold Store.exec Store.tryExec
  split
  · rfl
  · split <;> rfl

section Transaction

variable {tx : Rows → Option Rows}

section

variable (h : ∀ r, tx s.rows = some r → r.allowedGroups = s.rows.allowedGroups)

include h

theorem tryExec_leaves : s.Leaves (s.tryExec tx).2 := by
  unfold Store.tryExec
  split
  · exact ⟨s.next_later, rfl⟩
  split
  next rows hrows =>
    exact ⟨⟨s.next_later.answers, h rows hrows⟩, rfl⟩
  · exact ⟨s.next_later, rfl⟩

theorem exec_leaves : s.Leaves (s.exec tx).2 := by
  rw [exec_eq]
  exact tryExec_leaves h

end

section

variable (h : ∀ r, tx s.rows = some r → Moves l δ s.rows r ∧ r.allowedGroups = s.rows.allowedGroups)

include h

theorem tryExec_takes : Takes l δ s (s.tryExec tx).1.ok (s.tryExec tx).2 := by
  refine ⟨?_, tryExec_leaves fun r hr => (h r hr).2⟩
  rcases s.tryExec_cases tx with ⟨hok, hr⟩ | ⟨hok, hr⟩
  · rw [hok]
    exact .done (h _ hr).1
  have hno : (s.tryExec tx).1.ok = false := by
    revert hok
    cases (s.tryExec tx).1 <;> simp [Reservation.ok]
  rw [hno, hr]
  exact .failed

theorem exec_takes : Takes l δ s (s.exec tx).1 (s.exec tx).2 := by
  rw [exec_eq]
  exact tryExec_takes h

end

end Transaction

/-! ## Row updates -/

theorem moves_wallet (r : Rows) (q δ : ℤ) (h : q = r.userQuota - δ) :
    Moves .wallet δ r { r with userQuota := q } where
  taken := by simp only [Rows.taken]; omega
  other l hl := by cases l <;> first | rfl | exact absurd rfl hl
  record := rfl
  present _ := rfl

theorem moves_token (r : Rows) (q δ : ℤ) (h : q = r.tokenRemain - δ) :
    Moves .token δ r { r with tokenRemain := q } where
  taken := by simp only [Rows.taken]; omega
  other l hl := by cases l <;> first | rfl | exact absurd rfl hl
  record := rfl
  present _ := rfl

theorem moves_organization (r : Rows) (o : Organization) (δ : ℤ)
    (h : o.quota = r.organization.quota - δ) :
    Moves .organization δ r { r with organization := o } where
  taken := by simp only [Rows.taken]; omega
  other l hl := by cases l <;> first | rfl | exact absurd rfl hl
  record := rfl
  present _ := rfl

theorem moves_subscription (r : Rows) (id u : ℕ) (δ : ℤ)
    (hid : (r.subscriptions.get? id).isSome) (h : (u : ℤ) = r.subscriptions.used id + δ) :
    Moves (.subscription id) δ r { r with subscriptions := r.subscriptions.setUsed id u } where
  taken := by simp only [Rows.taken, SubscriptionTable.used_setUsed hid, h]
  other l hl := by
    cases l with
    | subscription j =>
      have hj : j ≠ id := fun he => hl (by rw [he])
      simp only [Rows.taken, SubscriptionTable.used_setUsed_of_ne hj]
    | _ => rfl
  record := rfl
  present j := r.subscriptions.isSome_get?_setUsed id u j

/-! ## Wallet -/

variable (s) (q : ℤ)

theorem increaseUserQuota_takes :
    Takes .wallet (-q) s (increaseUserQuota s q).1 (increaseUserQuota s q).2 := by
  unfold increaseUserQuota
  split_ifs
  · exact .refused
  refine exec_takes fun r hr => ?_
  split_ifs at hr with h
  cases hr
  exact ⟨moves_wallet _ _ _ (by omega), rfl⟩

theorem decreaseUserQuota_takes :
    Takes .wallet q s (decreaseUserQuota s q).1 (decreaseUserQuota s q).2 := by
  unfold decreaseUserQuota
  split_ifs
  · exact .refused
  · refine exec_takes fun r hr => ?_
    cases hr
    exact ⟨moves_wallet _ _ _ rfl, rfl⟩

theorem tryReserveUserQuota_takes :
    Takes .wallet q s (tryReserveUserQuota s q).1.ok (tryReserveUserQuota s q).2 := by
  unfold tryReserveUserQuota
  split_ifs with h h0
  · exact .refused
  · subst h0
    exact .nothing
  refine tryExec_takes fun r hr => ?_
  split_ifs at hr
  cases hr
  exact ⟨moves_wallet _ _ _ rfl, rfl⟩

/-! ## Token -/

theorem increaseTokenQuota_takes :
    Takes .token (-q) s (increaseTokenQuota s q).1 (increaseTokenQuota s q).2 := by
  unfold increaseTokenQuota
  split_ifs
  · exact .refused
  · refine exec_takes fun r hr => ?_
    cases hr
    exact ⟨moves_token _ _ _ (by omega), rfl⟩

theorem decreaseTokenQuota_takes :
    Takes .token q s (decreaseTokenQuota s q).1 (decreaseTokenQuota s q).2 := by
  unfold decreaseTokenQuota
  split_ifs
  · exact .refused
  · refine exec_takes fun r hr => ?_
    cases hr
    exact ⟨moves_token _ _ _ rfl, rfl⟩

theorem tryReserveTokenQuota_takes (unlimited : Bool) :
    Takes .token q s (tryReserveTokenQuota s q unlimited).1.ok
      (tryReserveTokenQuota s q unlimited).2 := by
  unfold tryReserveTokenQuota
  split_ifs with h h0 hu
  · exact .refused
  · subst h0
    exact .nothing
  · have hd := decreaseTokenQuota_takes s q
    split <;> rename_i s' hs' <;> rw [hs'] at hd <;> exact hd
  refine tryExec_takes fun r hr => ?_
  split_ifs at hr
  cases hr
  exact ⟨moves_token _ _ _ rfl, rfl⟩

/-! ## Organization -/

theorem tryReserveOrganizationQuota_takes :
    Takes .organization q s (tryReserveOrganizationQuota s q).1.ok
      (tryReserveOrganizationQuota s q).2 := by
  unfold tryReserveOrganizationQuota
  split
  · exact .refused
  refine tryExec_takes fun r hr => ?_
  simp only at hr
  split_ifs at hr with h0
  · cases hr
    subst h0
    exact ⟨Moves.refl _ _, rfl⟩
  · cases hr
    exact ⟨moves_organization _ _ _ rfl, rfl⟩

theorem adjustOrganizationQuota_takes (δ : ℤ) :
    Takes .organization δ s (adjustOrganizationQuota s δ).1 (adjustOrganizationQuota s δ).2 := by
  unfold adjustOrganizationQuota
  by_cases h0 : δ = 0
  · subst h0
    exact .nothing
  · rw [if_neg h0]
    split
    · exact .refused
    refine exec_takes fun r hr => ?_
    simp only at hr
    -- charged, returned, and returned past the member's counter
    split_ifs at hr <;>
    · cases hr
      exact ⟨moves_organization _ _ _ rfl, rfl⟩

@[simp] theorem increaseUserQuota_log :
    (increaseUserQuota s q).2.log = s.log := (increaseUserQuota_takes s q).leaves.log

@[simp] theorem decreaseUserQuota_log :
    (decreaseUserQuota s q).2.log = s.log := (decreaseUserQuota_takes s q).leaves.log

@[simp] theorem increaseTokenQuota_log :
    (increaseTokenQuota s q).2.log = s.log := (increaseTokenQuota_takes s q).leaves.log

@[simp] theorem adjustOrganizationQuota_log (δ : ℤ) :
    (adjustOrganizationQuota s δ).2.log = s.log := (adjustOrganizationQuota_takes s δ).leaves.log

/-! ## Subscriptions -/

variable (id : ℕ)

/-- A successful delta floors the used amount at zero. -/
theorem postConsumeUserSubscriptionDelta_cases (δ : ℤ) :
    ((postConsumeUserSubscriptionDelta s id δ).1 = true ∧
        ((δ = 0 ∧ (postConsumeUserSubscriptionDelta s id δ).2.rows = s.rows) ∨
          ((s.rows.subscriptions.get? id).isSome ∧
            (postConsumeUserSubscriptionDelta s id δ).2.rows =
              { s.rows with
                subscriptions := s.rows.subscriptions.setUsed id
                  (s.rows.subscriptions.used id + δ).toNat }))) ∨
      ((postConsumeUserSubscriptionDelta s id δ).1 = false ∧
        (postConsumeUserSubscriptionDelta s id δ).2.rows = s.rows) := by
  unfold postConsumeUserSubscriptionDelta
  by_cases hid : id = 0
  · rw [if_pos hid]
    exact .inr ⟨rfl, rfl⟩
  by_cases h0 : δ = 0
  · rw [if_neg hid, if_pos h0]
    exact .inl ⟨rfl, .inl ⟨h0, rfl⟩⟩
  rw [if_neg hid, if_neg h0]
  rcases s.exec_cases _ with ⟨hok, hr⟩ | ⟨hok, hr⟩
  · refine .inl ⟨hok, .inr ?_⟩
    cases hsub : s.rows.subscriptions.get? id with
    | none => simp [hsub] at hr
    | some sub =>
      simp only [hsub] at hr
      split_ifs at hr
      refine ⟨rfl, ?_⟩
      rw [SubscriptionTable.used_of_get? hsub]
      exact (some.inj hr).symm
  · exact .inr ⟨hok, hr⟩

/-- A delta that does not take the used amount below zero is applied exactly. -/
theorem postConsumeUserSubscriptionDelta_applies (δ : ℤ)
    (h : 0 ≤ s.rows.subscriptions.used id + δ) :
    Applies (.subscription id) δ s.rows (postConsumeUserSubscriptionDelta s id δ).1
      (postConsumeUserSubscriptionDelta s id δ).2.rows := by
  rcases postConsumeUserSubscriptionDelta_cases s id δ with
    ⟨hok, ⟨h0, hr⟩ | ⟨hsome, hr⟩⟩ | ⟨hok, hr⟩
  · rw [hok, hr]
    subst h0
    exact .done (Moves.refl _ _)
  · rw [hok, hr]
    exact .done (moves_subscription _ _ _ _ hsome (Int.toNat_of_nonneg h))
  · rw [hok, hr]
    exact .failed

theorem postConsumeUserSubscriptionDelta_other (δ : ℤ)
    (hl : l ≠ .subscription id) :
    (postConsumeUserSubscriptionDelta s id δ).2.rows.taken l = s.rows.taken l := by
  rcases postConsumeUserSubscriptionDelta_cases s id δ with
    ⟨-, ⟨-, hr⟩ | ⟨hsome, hr⟩⟩ | ⟨-, hr⟩
  · rw [hr]
  · rw [hr]
    exact (moves_subscription _ _ _ _ hsome (add_sub_cancel _ _).symm).other l hl
  · rw [hr]

theorem postConsumeUserSubscriptionDelta_leaves (δ : ℤ) :
    s.Leaves (postConsumeUserSubscriptionDelta s id δ).2 := by
  unfold postConsumeUserSubscriptionDelta
  split_ifs
  · exact .refl s
  · exact .refl s
  refine exec_leaves fun r hr => ?_
  dsimp only at hr
  split at hr
  · cases hr
  split at hr
  · cases hr
  · rw [← some.inj hr]
    exact s.rows.allowedGroups_setUsed _ _ _

theorem postConsumeUserSubscriptionDelta_takes (δ : ℤ)
    (h : 0 ≤ s.rows.subscriptions.used id + δ) :
    Takes (.subscription id) δ s (postConsumeUserSubscriptionDelta s id δ).1
      (postConsumeUserSubscriptionDelta s id δ).2 :=
  ⟨postConsumeUserSubscriptionDelta_applies s id δ h,
    postConsumeUserSubscriptionDelta_leaves s id δ⟩

@[simp] theorem postConsumeUserSubscriptionDelta_log (δ : ℤ) :
    (postConsumeUserSubscriptionDelta s id δ).2.log = s.log :=
  (postConsumeUserSubscriptionDelta_leaves s id δ).log

variable {s} {amount : ℤ} {mode : BillingMode} {group : String}

/-- The candidate loop returns a candidate of the required mode that allows the
group and has the amount left. -/
theorem pickSubscription_ok {matched : Bool}
    {subs : List UserSubscription} {sub : UserSubscription}
    (h : pickSubscription group amount mode matched subs = .ok sub) :
    sub ∈ subs ∧ sub.billingMode = mode ∧ allowsGroup sub.allowedGroups group = true := by
  induction subs generalizing matched with
  | nil => simp [pickSubscription] at h
  | cons head rest ih =>
    unfold pickSubscription at h
    split_ifs at h with hskip hfull
    · exact ⟨List.mem_cons_of_mem _ (ih h).1, (ih h).2⟩
    · exact ⟨List.mem_cons_of_mem _ (ih h).1, (ih h).2⟩
    · obtain rfl := Except.ok.inj h
      push Not at hskip
      exact ⟨List.mem_cons_self, hskip.1, hskip.2⟩

variable {res : PreConsumeResult}

/-- The pre-consume transaction of a request without a record takes the amount
from one subscription that allows the group, and records it. -/
theorem preConsumeTx_ok {hint : ℕ}
    (hrec : r.record = none) (ha : 0 < amount)
    (h : preConsumeTx r group amount mode hint = .ok (res, r')) :
    ∃ sub ∈ r.subscriptions.list, allowsGroup sub.allowedGroups group = true ∧
      res = ⟨sub.id, amount, normalizeSubscriptionGroups sub.allowedGroups⟩ ∧
      r'.record = some ⟨sub.id, amount, false⟩ ∧
      Moves (.subscription sub.id) amount r { r' with record := none } := by
  unfold preConsumeTx at h
  simp only [hrec] at h
  split at h
  · cases h
  split at h
  · cases h
  rename_i sub hpick
  obtain ⟨hmem, -, hallow⟩ := pickSubscription_ok hpick
  have hlist : sub ∈ r.subscriptions.list := List.mem_of_mem_filter hmem
  have hget := SubscriptionTable.get?_of_mem hlist
  have hsome : (r.subscriptions.get? sub.id).isSome := by rw [hget]; rfl
  cases h
  refine ⟨sub, hlist, hallow, rfl, rfl, ?_⟩
  have hm := moves_subscription r sub.id (sub.amountUsed + amount).toNat amount hsome
    (by rw [SubscriptionTable.used_of_get? hget]; omega)
  exact { hm with record := hrec.symm }

/-- `preConsumeUserSubscription` for a request without a record. -/
theorem preConsumeUserSubscription_cases (s : Store) (group : String) (amount : ℤ)
    (mode : BillingMode) (hint : ℕ) (hrec : s.rows.record = none) :
    (∃ e, (preConsumeUserSubscription s group amount mode hint).1 = .error e ∧
        (preConsumeUserSubscription s group amount mode hint).2.rows = s.rows) ∨
      (0 < amount ∧ ∃ sub ∈ s.rows.subscriptions.list,
        allowsGroup sub.allowedGroups (trimSpace group) = true ∧
        (preConsumeUserSubscription s group amount mode hint).1 =
          .ok ⟨sub.id, amount, normalizeSubscriptionGroups sub.allowedGroups⟩ ∧
        (preConsumeUserSubscription s group amount mode hint).2.rows.record =
          some ⟨sub.id, amount, false⟩ ∧
        Moves (.subscription sub.id) amount s.rows
          { (preConsumeUserSubscription s group amount mode hint).2.rows with
            record := none }) := by
  unfold preConsumeUserSubscription
  by_cases ha : amount ≤ 0
  · simp only [if_pos ha]
    exact .inl ⟨_, rfl, trivial⟩
  simp only [if_neg ha]
  split
  · exact .inl ⟨_, rfl, rfl⟩
  split
  · exact .inl ⟨_, rfl, rfl⟩
  split
  · exact .inl ⟨_, rfl, rfl⟩
  next res rows htx =>
    obtain ⟨sub, hmem, hallow, rfl, hrec', hm⟩ := preConsumeTx_ok hrec (by omega) htx
    exact .inr ⟨by omega, sub, hmem, hallow, rfl, hrec', hm⟩

theorem preConsumeTx_groups {hint : ℕ}
    (h : preConsumeTx r group amount mode hint = .ok (res, r')) :
    r'.allowedGroups = r.allowedGroups := by
  revert h
  fun_cases preConsumeTx r group amount mode hint <;> rintro ⟨⟩
  · rfl
  · exact r.allowedGroups_setUsed _ _ _

theorem preConsumeUserSubscription_leaves (s : Store) (group : String) (amount : ℤ)
    (mode : BillingMode) (hint : ℕ) :
    s.Leaves (preConsumeUserSubscription s group amount mode hint).2 := by
  unfold preConsumeUserSubscription
  dsimp only
  split_ifs
  · exact .refl s
  · exact .refl s
  · exact ⟨s.next_later, rfl⟩
  split
  · exact ⟨s.next_later, rfl⟩
  next res rows h =>
    exact ⟨⟨s.next_later.answers, preConsumeTx_groups h⟩, rfl⟩

/-- `RefundSubscriptionPreConsume` of a pre-consume that has not been refunded
gives the recorded amount back and marks the record. -/
theorem refundSubscriptionPreConsume_cases {id : ℕ}
    (hrec : s.rows.record = some ⟨id, amount, false⟩) (ha : 0 < amount)
    (hused : amount ≤ s.rows.subscriptions.used id) :
    ((refundSubscriptionPreConsume s).1 = true ∧ ∃ r, Moves (.subscription id) (-amount) s.rows r ∧
        (refundSubscriptionPreConsume s).2.rows = { r with record := some ⟨id, amount, true⟩ }) ∨
      ((refundSubscriptionPreConsume s).1 = false ∧
        (refundSubscriptionPreConsume s).2.rows = s.rows) := by
  unfold refundSubscriptionPreConsume
  split
  · exact .inr ⟨rfl, rfl⟩
  have hp := postConsumeUserSubscriptionDelta_applies s.next id (-amount)
    (by rw [Store.next_rows]; omega)
  simp only [hrec, Bool.false_eq_true, if_false, if_neg (not_le.2 ha)]
  split
  next s' hs' =>
    rw [hs'] at hp
    exact .inr ⟨rfl, hp.eq⟩
  next s' hs' =>
    rw [hs'] at hp
    exact .inl ⟨rfl, s'.rows, hp.moves, rfl⟩

@[simp] theorem refundSubscriptionPreConsume_log (s : Store) :
    (refundSubscriptionPreConsume s).2.log = s.log := by
  unfold refundSubscriptionPreConsume
  split
  · rfl
  cases s.rows.record with
  | none => rfl
  | some record =>
    have hl := postConsumeUserSubscriptionDelta_log s.next record.userSubscriptionId
      (-record.preConsumed)
    simp only
    split_ifs
    · rfl
    · rfl
    · split <;> rename_i s' hs' <;> rw [hs'] at hl <;> exact hl

end OmniRouters.Billing
