import OmniRouters.Billing.Quota
import OmniRouters.Lib.Mutex
import OmniRouters.Lib.Threads

/-!
# The owner of an organization

`TransferOrganizationOwnership` (`model/organization.go`) and `UpdateOrganizationMember`
(`model/organization_members.go`) change the roles of the members of an organization. Each is a
transaction whose first statement locks the row of the organization. Here every statement is a
step of its own, any number of calls run at the same time, and every statement may fail. The
writes of a transaction are seen by the others when it commits; a transaction that fails is
rolled back.

* `Org.Owned.transfer`, `Org.Owned.update`: the writes of either call, on the rows it has read,
  keep the owner unique.
* `Knows.congr`, `Sound.commit`: what a transaction has read stays as it was while it holds the
  lock.
* `owner_unique`: in every state of every run exactly one active member has the owner role, and
  it is the owner of the organization; only calls that succeed change anything.
-/

namespace OmniRouters.OrganizationOwnership

open Billing Lib List Function Option

/-! ## Tables -/

/-- The roles of members (organization.go:14-16). -/
def roleOwner : String := "owner"
@[inherit_doc roleOwner] def roleAdmin : String := "admin"
@[inherit_doc roleOwner] def roleMember : String := "member"

/-- A row of `organization_members`; `active` is the status `active`. -/
structure Member where
  id : ℕ
  userId : ℤ
  role : String
  active : Bool
  monthlyQuotaLimit : ℤ
deriving DecidableEq

/-- An organization with its members. -/
structure Org where
  ownerUserId : ℤ
  members : List Member
deriving DecidableEq

def Org.activeMember? (org : Org) (userId : ℤ) : Option Member :=
  org.members.find? fun member => member.userId = userId ∧ member.active

/-- The writes of the two calls. `updated_at` is read by neither. -/
inductive Write
  /-- `UPDATE organization_members SET role WHERE user_id`. -/
  | userRole (userId : ℤ) (role : String)
  /-- `tx.Model(&target).Updates`: by the primary key of the row. -/
  | row (id : ℕ) (role : Option String) (monthlyQuotaLimit : Option ℤ)
  /-- `tx.Model(organization).Updates`. -/
  | owner (userId : ℤ)
deriving DecidableEq

/-- The effect of one write. -/
def Org.write (org : Org) : Write → Org
  | .userRole userId role => { org with
      members := org.members.map fun member =>
        if member.userId = userId then { member with role := role } else member }
  | .row id role limit => { org with
      members := org.members.map fun member =>
        if member.id = id then { member with
          role := role.getD member.role
          monthlyQuotaLimit := limit.getD member.monthlyQuotaLimit }
        else member }
  | .owner userId => { org with ownerUserId := userId }

/-! ## Calls -/

/-- The two calls with their arguments. -/
inductive Call
  | transfer (actorUserId targetUserId : ℤ)
  | update (actorUserId targetUserId : ℤ) (role : String) (monthlyQuotaLimit : Option ℤ)
deriving DecidableEq

/-- The checks before the transaction: the error, if there is one. -/
def Call.invalid : Call → Option String
  | .transfer actor target =>
    if actor ≤ 0 ∨ target ≤ 0 ∨ actor = target then some "invalid new organization owner" else none
  | .update _ _ role limit =>
    if role ≠ "" ∧ role ≠ roleAdmin ∧ role ≠ roleMember then some "invalid organization role"
    else if limit.any fun limit => limit < 0 ∨ maxWalletQuota < limit then
      some "invalid monthly quota limit"
    else none

/-- `OrganizationCanManage` (organization.go:121-123). -/
def organizationCanManage (role : String) : Bool := role = roleOwner ∨ role = roleAdmin

/-- Where a call is: before its transaction, after the organization was locked and read, after
the actor of an update was read, among its writes, or returned. -/
inductive Stage
  | start
  | locked (ownerUserId : ℤ)
  | actorRead (actorRole : String)
  | writing (todo done : List Write)
  | returned (error : Option String)
deriving DecidableEq

/-- A call on an organization. -/
structure Thread where
  orgId : ℕ
  call : Call
  stage : Stage
deriving DecidableEq

/-- The committed rows and the locks of the rows of organizations. -/
structure Shared where
  orgs : ℕ → Option Org
  locked : List ℕ

/-- The rollback of the transaction of a thread, which returns the error. -/
def rollback (s : Shared) (t : Thread) (error : String) : Shared × List Thread :=
  ({ s with locked := s.locked.filter (· ≠ t.orgId) }, [{ t with stage := .returned (some error) }])

/-- The read of the active member of a user by a transaction, and what it does with the row. -/
def readMember (ok : Bool) (s : Shared) (t : Thread) (userId : ℤ)
    (next : Member → Shared × List Thread) : Shared × List Thread :=
  if ok = false then rollback s t "database error"
  else
    match (s.orgs t.orgId).bind (·.activeMember? userId) with
    | none => rollback s t "record not found"
    | some member => next member

/-- One statement of a call; `ok` says whether it succeeds. A call waits for the lock. -/
def advance (ok : Bool) (s : Shared) (t : Thread) : Option (Shared × List Thread) :=
  match t.stage, t.call with
  | .start, call =>
    match call.invalid with
    | some error => some (s, [{ t with stage := .returned (some error) }])
    | none =>
      if t.orgId ∈ s.locked then none
      else if ok = false then some (s, [{ t with stage := .returned (some "database error") }])
      else
        match s.orgs t.orgId with
        | none => some (s, [{ t with stage := .returned (some "record not found") }])
        | some org => some ({ s with locked := t.orgId :: s.locked },
            [{ t with stage := .locked org.ownerUserId }])
  | .locked ownerUserId, .transfer actor target =>
    if ownerUserId ≠ actor then some (rollback s t "organization owner permission required")
    else some (readMember ok s t target fun member =>
      (s, [{ t with stage := .writing [.userRole actor roleAdmin,
        .row member.id (some roleOwner) none, .owner target] [] }]))
  | .locked _, .update actor _ _ _ =>
    some (readMember ok s t actor fun member =>
      if organizationCanManage member.role then
        (s, [{ t with stage := .actorRead member.role }])
      else rollback s t "organization manager permission required")
  | .actorRead actorRole, .update _ target role limit =>
    some (readMember ok s t target fun member =>
      if member.role = roleOwner then rollback s t "organization owner cannot be changed"
      else if actorRole ≠ roleOwner ∧ (member.role = roleAdmin ∨ role = roleAdmin) then
        rollback s t "only owner can manage admins"
      else
        let newRole := if role = "" then none else some role
        (s, [{ t with stage := .writing [.row member.id newRole limit] [] }]))
  | .actorRead _, .transfer _ _ => none
  | .writing (write :: todo) done, _ =>
    if ok = false then some (rollback s t "database error")
    else some (s, [{ t with stage := .writing todo (done ++ [write]) }])
  | .writing [] done, _ =>
    if ok = false then some (rollback s t "database error")
    else some ({ orgs := Function.update s.orgs t.orgId
                  ((s.orgs t.orgId).map fun org => done.foldl Org.write org)
                 locked := s.locked.filter (· ≠ t.orgId) },
      [{ t with stage := .returned none }])
  | .returned _, _ => none

/-! ## The owner -/

def Member.IsOwner (member : Member) : Prop := member.active = true ∧ member.role = roleOwner

instance (member : Member) : Decidable member.IsOwner := inferInstanceAs (Decidable (_ ∧ _))

/-- The owner of the organization is an active member with the owner role, and the only one. The
primary key and the unique index of the members hold. -/
structure Org.Owned (org : Org) : Prop where
  ids : (org.members.map Member.id).Nodup
  userIds : (org.members.map Member.userId).Nodup
  owner : ∃ member ∈ org.members, member.IsOwner ∧ member.userId = org.ownerUserId
  only : ∀ member ∈ org.members, member.IsOwner → member.userId = org.ownerUserId

theorem Org.activeMember?_some {org : Org} {userId : ℤ} {member : Member}
    (h : org.activeMember? userId = some member) :
    member ∈ org.members ∧ member.userId = userId ∧ member.active = true := by
  have hsome := find?_some h
  exact ⟨mem_of_find?_eq_some h, by simpa using hsome⟩

section Writes

variable {org : Org}

theorem Org.write_ids (org : Org) (write : Write) :
    (org.write write).members.map Member.id = org.members.map Member.id ∧
      (org.write write).members.map Member.userId = org.members.map Member.userId := by
  cases write with
  | owner userId => exact ⟨rfl, rfl⟩
  | userRole | row =>
    simp only [Org.write, List.map_map]
    constructor <;>
    · refine map_congr_left fun member _ => ?_
      dsimp only [comp]
      split <;> rfl

theorem Org.Owned.update (h : org.Owned) {target : Member} (htarget : target ∈ org.members)
    (hrole : target.role ≠ roleOwner) {role : Option String} (limit : Option ℤ)
    (hnew : role ≠ some roleOwner) : (org.write (.row target.id role limit)).Owned := by
  obtain ⟨hids, huserIds⟩ := org.write_ids (.row target.id role limit)
  refine ⟨hids ▸ h.ids, huserIds ▸ h.userIds, ?_, ?_⟩
  · obtain ⟨owner, hmem, howner, huser⟩ := h.owner
    refine ⟨owner, List.mem_map.2 ⟨owner, hmem, if_neg ?_⟩, howner, huser⟩
    intro hid
    have hsame := inj_on_of_nodup_map h.ids hmem htarget hid
    exact hrole (hsame ▸ howner.2)
  · intro member hmem howner
    obtain ⟨before, hbefore, rfl⟩ := List.mem_map.1 hmem
    split at howner
    · next hid =>
      -- the updated row is the target, whose role was not owner and is not now
      have hsame := inj_on_of_nodup_map h.ids hbefore htarget hid
      subst hsame
      have hget : role.getD before.role = roleOwner := howner.2
      cases role with
      | none => exact absurd hget hrole
      | some role => exact absurd (congrArg some hget) hnew
    · next hid =>
      rw [if_neg hid]
      exact h.only before hbefore howner

theorem Org.Owned.transfer (h : org.Owned) {target : Member} (htarget : target ∈ org.members)
    (hactive : target.active = true) (hne : org.ownerUserId ≠ target.userId) :
    ([Write.userRole org.ownerUserId roleAdmin, .row target.id (some roleOwner) none,
      .owner target.userId].foldl Org.write org).Owned := by
  obtain ⟨hids₁, huserIds₁⟩ := org.write_ids (.userRole org.ownerUserId roleAdmin)
  obtain ⟨hids₂, huserIds₂⟩ := (org.write (.userRole org.ownerUserId roleAdmin)).write_ids
    (.row target.id (some roleOwner) none)
  refine ⟨?_, ?_, ?_, ?_⟩
  · exact (hids₂.trans hids₁) ▸ h.ids
  · exact (huserIds₂.trans huserIds₁) ▸ h.userIds
  · -- the target's row, which the first write has not changed
    refine ⟨{ target with role := roleOwner }, ?_, ⟨hactive, rfl⟩, rfl⟩
    refine List.mem_map.2 ⟨target, List.mem_map.2 ⟨target, htarget, if_neg hne.symm⟩, ?_⟩
    exact if_pos rfl
  · intro member hmem howner
    obtain ⟨middle, hmiddle, rfl⟩ := List.mem_map.1 hmem
    obtain ⟨before, hbefore, rfl⟩ := List.mem_map.1 hmiddle
    show _ = target.userId
    by_cases huser : before.userId = org.ownerUserId
    · -- the former owner is an admin now
      simp only [if_pos huser] at howner ⊢
      split at howner
      · next hid =>
        have hsame := inj_on_of_nodup_map h.ids hbefore htarget hid
        exact absurd (huser.symm.trans (congrArg Member.userId hsame)) hne
      · have hadmin : roleAdmin = roleOwner := howner.2
        exact absurd hadmin (by decide)
    · simp only [if_neg huser] at howner ⊢
      split at howner
      · next hid =>
        have hsame := inj_on_of_nodup_map h.ids hbefore htarget hid
        rw [if_pos hid, hsame]
      · exact absurd (h.only before hbefore howner) huser

end Writes

/-! ## What a transaction knows -/

/-- The organization that a thread has locked. -/
def Thread.holds (t : Thread) : Option ℕ :=
  match t.stage with
  | .start | .returned _ => none
  | .locked _ | .actorRead _ | .writing _ _ => some t.orgId

/-- What a transaction has read is what the organization is now: its owner, and after the last
read that its writes, made on the organization, keep the owner unique. -/
def Knows (s : Shared) (t : Thread) : Prop :=
  match t.stage with
  | .start => True
  | .returned _ => True
  | .locked ownerUserId =>
    t.call.invalid = none ∧ ∃ org, s.orgs t.orgId = some org ∧ org.ownerUserId = ownerUserId
  | .actorRead _ => t.call.invalid = none
  | .writing todo done => ∀ org, s.orgs t.orgId = some org →
      ((done ++ todo).foldl Org.write org).Owned

variable {t : Thread}

/-- A transaction knows the same where its organization is the same. -/
theorem Knows.congr {s s' : Shared} (h : Knows s t)
    (hsame : t.holds = none ∨ s'.orgs t.orgId = s.orgs t.orgId) : Knows s' t := by
  unfold Knows Thread.holds at *
  rcases t with ⟨orgId, call, stage⟩
  cases stage with
  | start | returned => trivial
  | actorRead role => exact h
  | locked | writing =>
    rcases hsame with hnone | hsame
    · cases hnone
    · rw [hsame]
      exact h

/-- The invariant of the system. -/
structure Sound (s : Shared) (threads : List Thread) : Prop where
  locks : Locks Thread.holds s.locked threads
  owned : ∀ id org, s.orgs id = some org → org.Owned
  knows : ∀ t ∈ threads, Knows s t

theorem Sound.perm {s : Shared} {threads threads' : List Thread} (h : Sound s threads)
    (hperm : threads.Perm threads') : Sound s threads' :=
  ⟨h.locks.perm hperm, h.owned, fun t ht => h.knows t (hperm.mem_iff.2 ht)⟩

section Step

variable {s : Shared} {t u : Thread} {others : List Thread}

section

variable (h : Sound s (t :: others))

include h

/-- A step that changes locks only. -/
theorem Sound.same {taken : List ℕ} (hlocks : Locks Thread.holds taken ([u] ++ others))
    (hu : Knows s u) : Sound { s with locked := taken } ([u] ++ others) := by
  refine ⟨hlocks, h.owned, fun v hv => ?_⟩
  rcases mem_append.1 hv with hv | hv
  · rw [mem_singleton.1 hv]
    exact hu.congr (.inr rfl)
  · exact (h.knows v (mem_cons_of_mem t hv)).congr (.inr rfl)

theorem Sound.rollback (ht : t.holds = some t.orgId) (error : String) :
    Sound (rollback s t error).1 ((OrganizationOwnership.rollback s t error).2 ++ others) :=
  h.same (h.locks.giveBack ht rfl) trivial

/-- A thread goes on with the lock that it has. -/
theorem Sound.goOn (hholds : u.holds = t.holds) (hu : Knows s u) : Sound s ([u] ++ others) :=
  h.same (h.locks.keep hholds) hu

/-- A read of a member: it fails, or the row is an active member of the organization. -/
theorem Sound.readMember (ht : t.holds = some t.orgId) {ok : Bool} {userId : ℤ}
    {next : Member → Shared × List Thread}
    (hnext : ∀ org member, s.orgs t.orgId = some org → org.activeMember? userId = some member →
      Sound (next member).1 ((next member).2 ++ others)) :
    Sound (readMember ok s t userId next).1
      ((OrganizationOwnership.readMember ok s t userId next).2 ++ others) := by
  unfold OrganizationOwnership.readMember
  split
  · exact h.rollback ht _
  split
  · exact h.rollback ht _
  · next member hmember =>
    obtain ⟨org, horg, hactive⟩ := bind_eq_some_iff.1 hmember
    exact hnext org member horg hactive

theorem Sound.commit (ht : t.holds = some t.orgId) {org? : Option Org}
    (howned : ∀ org, org? = some org → org.Owned) :
    Sound { orgs := Function.update s.orgs t.orgId org?
            locked := s.locked.filter (· ≠ t.orgId) }
      ([{ t with stage := .returned none }] ++ others) := by
  refine ⟨h.locks.giveBack ht rfl, ?_, ?_⟩
  · exact (forall_update_iff s.orgs fun _ org? => ∀ org, org? = some org → org.Owned).2
      ⟨howned, fun id _ => h.owned id⟩
  · intro v hv
    rcases mem_append.1 hv with hv | hv
    · rw [mem_singleton.1 hv]
      trivial
    refine (h.knows v (mem_cons_of_mem t hv)).congr ?_
    by_cases hother : v.orgId = t.orgId
    · left
      have hfree := (h.locks.alone ht).2 v hv
      rcases v with ⟨orgId, call, stage⟩
      cases stage <;> first | rfl | exact absurd (congrArg some hother) hfree
    · right
      exact update_of_ne hother _ _

end

variable {actor target : ℤ} {org : Org} {member : Member} {s' : Shared} {ts : List Thread}

section

variable (h : Sound s (t :: others))

include h

/-- A read of the target of a transfer gives writes that keep the owner unique. -/
theorem Sound.transfer (hcall : t.call = .transfer actor target) (hstage : t.stage = .locked actor)
    (horg : s.orgs t.orgId = some org) (hmember : org.activeMember? target = some member) :
    Knows s { t with stage := .writing [.userRole actor roleAdmin,
      .row member.id (some roleOwner) none, .owner target] [] } := by
  have hknows := h.knows t mem_cons_self
  obtain ⟨hmem, huser, hactive⟩ := Org.activeMember?_some hmember
  unfold Knows at hknows
  rw [hstage] at hknows
  obtain ⟨hvalid, org', horg', howner⟩ := hknows
  obtain rfl : org' = org := some.inj (horg'.symm.trans horg)
  have hne : org'.ownerUserId ≠ member.userId := by
    rw [howner, huser]
    rintro rfl
    simp [hcall, Call.invalid] at hvalid
  intro org'' horg''
  obtain rfl : org' = org'' := some.inj (horg.symm.trans horg'')
  have howned := (h.owned t.orgId org' horg).transfer hmem hactive hne
  rwa [howner, huser] at howned

theorem Sound.update {role actorRole : String} {limit : Option ℤ}
    (hcall : t.call = .update actor target role limit) (hstage : t.stage = .actorRead actorRole)
    (horg : s.orgs t.orgId = some org) (hmember : org.activeMember? target = some member)
    (hrole : member.role ≠ roleOwner) : Knows s { t with
      stage := .writing [.row member.id (if role = "" then none else some role) limit] [] } := by
  have hknows := h.knows t mem_cons_self
  obtain ⟨hmem, -, -⟩ := Org.activeMember?_some hmember
  unfold Knows at hknows
  rw [hstage] at hknows
  have hnew : (if role = "" then none else some role) ≠ some roleOwner := by
    intro hsome
    split_ifs at hsome with hempty
    cases hsome
    rw [hcall] at hknows
    exact absurd hknows (by simp [Call.invalid, roleOwner, roleAdmin, roleMember])
  intro org' horg'
  obtain rfl : org = org' := some.inj (horg.symm.trans horg')
  exact (h.owned t.orgId org horg).update hmem hrole limit hnew

/-- The first statement of a call: it is refused, or it locks the organization and reads it. -/
theorem Sound.start {ok : Bool} (hstage : t.stage = .start)
    (hstep : advance ok s t = some (s', ts)) : Sound s' (ts ++ others) := by
  have hholds : t.holds = none := by simp [Thread.holds, hstage]
  have hreturn : ∀ error, Sound s ([{ t with stage := .returned (some error) }] ++ others) :=
    fun error => h.goOn (hholds ▸ rfl) trivial
  simp only [advance, hstage] at hstep
  split at hstep
  · cases hstep
    exact hreturn _
  next hvalid =>
  split_ifs at hstep with hlocked hok
  · cases hstep
    exact hreturn _
  split at hstep
  · cases hstep
    exact hreturn _
  · next org horg =>
    cases hstep
    exact h.same (h.locks.acquire hholds rfl hlocked) ⟨hvalid, org, horg, rfl⟩

/-- One statement of a call keeps the invariant. -/
theorem Sound.step {ok : Bool} (hstep : advance ok s t = some (s', ts)) :
    Sound s' (ts ++ others) := by
  have hknows := h.knows t mem_cons_self
  cases hstage : t.stage with
  | start => exact h.start hstage hstep
  | returned error =>
    simp only [advance, hstage] at hstep
    cases hstep
  | locked ownerUserId =>
    have hholds : t.holds = some t.orgId := by simp [Thread.holds, hstage]
    cases hcall : t.call with
    | transfer actor target =>
      simp only [advance, hstage, hcall] at hstep
      split_ifs at hstep with howner
      · cases hstep
        exact h.rollback hholds _
      obtain rfl := not_not.1 howner
      obtain ⟨rfl, rfl⟩ := Prod.mk.inj (some.inj hstep)
      refine h.readMember hholds fun org member horg hmember => ?_
      exact h.goOn (by simp [Thread.holds, hstage]) (h.transfer hcall hstage horg hmember)
    | update actor target role limit =>
      simp only [advance, hstage, hcall] at hstep
      obtain ⟨rfl, rfl⟩ := Prod.mk.inj (some.inj hstep)
      refine h.readMember hholds fun org member horg hmember => ?_
      split
      · refine h.goOn (by simp [Thread.holds, hstage]) ?_
        unfold Knows at hknows
        rw [hstage, hcall] at hknows
        exact hknows.1
      · exact h.rollback hholds _
  | actorRead actorRole =>
    have hholds : t.holds = some t.orgId := by simp [Thread.holds, hstage]
    cases hcall : t.call with
    | transfer actor target =>
      simp only [advance, hstage, hcall] at hstep
      cases hstep
    | update actor target role limit =>
      simp only [advance, hstage, hcall] at hstep
      obtain ⟨rfl, rfl⟩ := Prod.mk.inj (some.inj hstep)
      refine h.readMember hholds fun org member horg hmember => ?_
      split
      · exact h.rollback hholds _
      next hrole =>
      split
      · exact h.rollback hholds _
      · exact h.goOn (by simp [Thread.holds, hstage]) (h.update hcall hstage horg hmember hrole)
  | writing todo done =>
    have hholds : t.holds = some t.orgId := by simp [Thread.holds, hstage]
    unfold Knows at hknows
    rw [hstage] at hknows
    cases todo with
    | cons write todo =>
      simp only [advance, hstage] at hstep
      split_ifs at hstep
      · cases hstep
        exact h.rollback hholds _
      cases hstep
      refine h.goOn (by simp [Thread.holds, hstage]) fun org horg => ?_
      rw [append_assoc]
      exact hknows org horg
    | nil =>
      simp only [advance, hstage] at hstep
      split_ifs at hstep
      · cases hstep
        exact h.rollback hholds _
      cases hstep
      refine h.commit hholds fun org' horg' => ?_
      obtain ⟨org, horg, rfl⟩ := map_eq_some_iff.1 horg'
      have howned := hknows org horg
      rwa [append_nil] at howned

end

end Step

/-! ## Runs -/

theorem readMember_orgs {ok : Bool} {s : Shared} {userId : ℤ}
    {next : Member → Shared × List Thread} (hnext : ∀ member, (next member).1.orgs = s.orgs) :
    (readMember ok s t userId next).1.orgs = s.orgs := by
  unfold readMember
  split
  · rfl
  · split
    · rfl
    · exact hnext _

/-- A statement changes the rows only where it is the commit of a call that succeeds. -/
theorem advance_orgs {ok : Bool} {s s' : Shared} {ts : List Thread}
    (h : advance ok s t = some (s', ts)) :
    s'.orgs = s.orgs ∨ ts = [{ t with stage := .returned none }] := by
  revert h
  fun_cases advance ok s t
  case case7 | case8 | case9 =>
    intro h
    obtain ⟨rfl, -⟩ := Prod.mk.inj (some.inj h)
    refine .inl (readMember_orgs fun _ => ?_)
    repeat' split
    all_goals rfl
  all_goals rintro ⟨⟩
  case case14 => exact .inr rfl
  all_goals exact .inl rfl

/-- Any number of calls on organizations each of which has exactly one active member with the
owner role, the owner of the organization. In every state of every run the same holds, and
a step changes rows only where it makes its call succeed: a call that fails has changed
nothing. -/
theorem owner_unique {p q : Pool Shared Thread}
    (howned : ∀ id org, p.shared.orgs id = some org → org.Owned)
    (hlocked : p.shared.locked = []) (hstart : ∀ t ∈ p.threads, t.stage = .start)
    (hrun : Exec (Pool.step advance) (fun _ _ => True) p q) :
    (∀ id org, q.shared.orgs id = some org →
      ∃ owner ∈ org.members, owner.IsOwner ∧ owner.userId = org.ownerUserId ∧
        ∀ member ∈ org.members, member.IsOwner → member = owner) ∧
    ∀ a r, Pool.step advance q a = some r → r.shared.orgs = q.shared.orgs ∨
      ∃ t, r.threads[a.1]? = some t ∧ t.stage = .returned none := by
  have hsound : Sound q.shared q.threads := by
    have hmeets : Exec (Pool.step advance) (Pool.Meets fun _ _ _ => True) p q :=
      hrun.mono fun _ _ _ _ _ => trivial
    refine Pool.invariant (fun _ _ _ hperm h => h.perm hperm)
      (fun _ _ _ _ _ _ _ _ h hstep => h.step hstep) ?_ hmeets
    refine ⟨?_, howned, fun t ht => ?_⟩
    · rw [hlocked]
      refine Locks.free fun t ht => ?_
      simp [Thread.holds, hstart t ht]
    · unfold Knows
      rw [hstart t ht]
      trivial
  constructor
  · intro id org horg
    have h := hsound.owned id org horg
    obtain ⟨owner, hmem, howner, huser⟩ := h.owner
    refine ⟨owner, hmem, howner, huser, fun member hmember hrole => ?_⟩
    have hsame := (h.only member hmember hrole).trans huser.symm
    exact inj_on_of_nodup_map h.userIds hmember hmem hsame
  · intro a r hstep
    obtain ⟨t, ht, hadvance⟩ := bind_eq_some_iff.1 hstep
    obtain ⟨⟨s', ts⟩, hout, rfl⟩ := map_eq_some_iff.1 hadvance
    rcases advance_orgs hout with hsame | rfl
    · exact .inl hsame
    obtain ⟨hlt, -⟩ := List.getElem?_eq_some_iff.1 ht
    refine .inr ⟨{ t with stage := .returned none }, ?_, rfl⟩
    have hlen : (q.threads.take a.1).length = a.1 := length_take_of_le hlt.le
    rw [getElem?_append_right hlen.le, hlen, Nat.sub_self]
    rfl

/-- An organization with an owner and a member. -/
def twoMembers : Org where
  ownerUserId := 1
  members := [⟨1, 1, roleOwner, true, 0⟩, ⟨2, 2, roleMember, true, 0⟩]

/-- Its owner transfers it while the member tries to become an admin. -/
def twoCalls : Pool Shared Thread where
  shared := { orgs := fun id => if id = 1 then some twoMembers else none, locked := [] }
  threads := [⟨1, .transfer 1 2, .start⟩, ⟨1, .update 1 2 roleAdmin none, .start⟩]

theorem twoMembers_owned : twoMembers.Owned := by
  refine ⟨by decide, by decide, ?_, ?_⟩ <;> decide

/-- The transfer and then the update, which finds that its target is the owner now. -/
theorem owner_unique_two :
    ∃ q, Exec (Pool.step advance) (fun _ _ => True) twoCalls q ∧
      (q.shared.orgs 1).map Org.ownerUserId = some 2 ∧
      (∀ id org, q.shared.orgs id = some org →
        ∃ owner ∈ org.members, owner.IsOwner ∧ owner.userId = org.ownerUserId ∧
          ∀ member ∈ org.members, member.IsOwner → member = owner) ∧
      ∀ a r, Pool.step advance q a = some r → r.shared.orgs = q.shared.orgs ∨
        ∃ t, r.threads[a.1]? = some t ∧ t.stage = .returned none := by
  refine Exec.exists_and_of_actions (replicate 6 (0, true) ++ replicate 3 (1, true))
    (by decide +kernel) fun _ hrun _ => ?_
  refine owner_unique ?_ rfl (by decide) hrun
  intro id org horg
  change (if id = 1 then some twoMembers else none) = some org at horg
  split_ifs at horg
  cases horg
  exact twoMembers_owned

end OmniRouters.OrganizationOwnership
