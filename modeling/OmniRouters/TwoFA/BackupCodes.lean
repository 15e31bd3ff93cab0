import OmniRouters.Lib.Threads

/-!
# Backup codes (`model/twofa.go`, lines 187-249)

The backup codes of one user. A verification reads the unused codes, compares their hashes outside
any transaction, and consumes the code that matches by one conditional update. The codes are
replaced in a transaction: its soft delete covers the rows that it finds, and all of its effects
appear when it commits.

* `backupCode_spent`: a row that has been accepted or replaced is not accepted again.
-/

namespace OmniRouters.TwoFactor

open Lib List Option

/-- `TwoFABackupCode`, whose id is its position; `deletedAt` is set if the row is
soft-deleted. -/
structure BackupCode where
  codeHash : String
  isUsed : Bool := false
  deletedAt : Bool := false
deriving DecidableEq

/-- An unused row that is not deleted: what the queries on the model see. -/
def BackupCode.unused (row : BackupCode) : Bool := !row.isUsed && !row.deletedAt

/-- The functions on codes and hashes (`common/totp.go` and `common/crypto.go`). -/
structure CodeConfig where
  validateBackupCode : String → Bool
  normalizeBackupCode : String → String
  validatePasswordAndHash : String → String → Bool

/-- The calls between their statements: a verification that has found the row `id`, a transaction
whose soft delete has found the first `count` rows. -/
inductive CodeThread
  | validateBackupCode (code : String)
  | consume (id : ℕ)
  | createBackupCodes (hashes : List String)
  | commit (count : ℕ) (hashes : List String)

/-- The first unused row whose hash the code matches (lines 228-233). -/
def matching (cfg : CodeConfig) (rows : List BackupCode) (code : String) : Option ℕ :=
  rows.findIdx? fun row =>
    row.unused && cfg.validatePasswordAndHash (cfg.normalizeBackupCode code) row.codeHash

/-- The guard of the update that consumes a row (lines 235-240). -/
def accepts (rows : List BackupCode) (id : ℕ) : Bool := rows[id]?.any BackupCode.unused

/-- The rows after a transaction (lines 189-214). -/
def replaceRows (rows : List BackupCode) (count : ℕ) (hashes : List String) : List BackupCode :=
  (rows.take count).map (fun row => { row with deletedAt := true }) ++ rows.drop count ++
    hashes.map fun codeHash => ({ codeHash } : BackupCode)

/-- One statement of a call; one that fails ends the call without effect. -/
def codeStep (cfg : CodeConfig) (fails : Bool) (rows : List BackupCode) :
    CodeThread → Option (List BackupCode × List CodeThread)
  | .validateBackupCode code =>
    some (rows, if fails || !cfg.validateBackupCode code then []
      else (matching cfg rows code).toList.map .consume)
  | .consume id => some (if fails || !accepts rows id then rows
      else rows.modify id fun row => { row with isUsed := true }, [])
  | .createBackupCodes hashes => some (rows, if fails then [] else [.commit rows.length hashes])
  | .commit count hashes => some (if fails then rows else replaceRows rows count hashes, [])

/-- The row is there, used or deleted. -/
def Spent (rows : List BackupCode) (id : ℕ) : Prop :=
  ∃ row, rows[id]? = some row ∧ row.unused = false

theorem Spent.not_accepts {rows : List BackupCode} {id : ℕ} (h : Spent rows id) :
    accepts rows id = false := by
  obtain ⟨row, hrow, hspent⟩ := h
  rw [accepts, hrow]
  exact hspent

/-- A row stays at its position, and a transaction can only delete it. -/
theorem getElem?_replaceRows {rows : List BackupCode} {id : ℕ} {row : BackupCode}
    (h : rows[id]? = some row) (count : ℕ) (hashes : List String) :
    (replaceRows rows count hashes)[id]? =
      some (if id < count then { row with deletedAt := true } else row) := by
  have hlt := (List.getElem?_eq_some_iff.1 h).1
  rw [replaceRows, append_assoc]
  by_cases hid : id < count
  · rw [getElem?_append_left (by simp; omega), if_pos hid]
    simp [hid, h]
  have hmin : min count rows.length = count := by omega
  rw [getElem?_append_right (by simp; omega), if_neg hid, length_map, length_take,
    hmin, getElem?_append_left (by simp; omega), getElem?_drop]
  rw [Nat.add_sub_cancel' (Nat.le_of_not_lt hid)]
  exact h

/-- The statement accepts the row, or commits a new set in its place. -/
def Spends (fails : Bool) (rows : List BackupCode) (id : ℕ) : CodeThread → Prop
  | .consume i => i = id ∧ fails = false ∧ accepts rows id = true
  | .commit count _ => fails = false ∧ id < count ∧ id < rows.length
  | _ => False

section Step

variable {cfg : CodeConfig} {fails : Bool} {rows rows' : List BackupCode} {id : ℕ} {t : CodeThread}
  {ts : List CodeThread}

/-- No statement brings a row back. -/
theorem Spent.step (h : Spent rows id) (hstep : codeStep cfg fails rows t = some (rows', ts)) :
    Spent rows' id := by
  obtain ⟨row, hrow, hspent⟩ := h
  cases t with
  | validateBackupCode | createBackupCodes =>
    exact (Prod.mk.inj (some.inj hstep)).1 ▸ ⟨row, hrow, hspent⟩
  | consume i =>
    obtain ⟨rfl, -⟩ := Prod.mk.inj (some.inj hstep)
    split
    · exact ⟨row, hrow, hspent⟩
    · by_cases hi : i = id
      · exact ⟨{ row with isUsed := true }, by simp [hi, hrow], rfl⟩
      · exact ⟨row, by simp [hi, hrow], hspent⟩
  | commit count hashes =>
    obtain ⟨rfl, -⟩ := Prod.mk.inj (some.inj hstep)
    split
    · exact ⟨row, hrow, hspent⟩
    refine ⟨_, getElem?_replaceRows hrow count hashes, ?_⟩
    split
    · simp [BackupCode.unused]
    · exact hspent

theorem Spends.spent (h : Spends fails rows id t)
    (hstep : codeStep cfg fails rows t = some (rows', ts)) : Spent rows' id := by
  cases t with
  | validateBackupCode | createBackupCodes => exact h.elim
  | consume i =>
    obtain ⟨rfl, rfl, haccepts⟩ := h
    obtain ⟨row, hrow, -⟩ := (Option.any_eq_true _ _).1 haccepts
    obtain ⟨rfl, -⟩ := Prod.mk.inj (some.inj hstep)
    refine ⟨{ row with isUsed := true }, ?_, rfl⟩
    rw [haccepts]
    simp [hrow]
  | commit count hashes =>
    obtain ⟨rfl, hcount, hlt⟩ := h
    obtain ⟨rfl, -⟩ := Prod.mk.inj (some.inj hstep)
    refine ⟨_, getElem?_replaceRows (getElem?_eq_getElem hlt) count hashes, ?_⟩
    rw [if_pos hcount]
    simp [BackupCode.unused]

end Step

/-- A run of any number of calls, their statements in any order. -/
abbrev CodeExec (cfg : CodeConfig) :
    Pool (List BackupCode) CodeThread → Pool (List BackupCode) CodeThread → Prop :=
  Exec (Pool.step (codeStep cfg)) (Pool.Meets fun _ _ _ => True)

/-- Once a verification of a row has been accepted, or a call has replaced the row and committed, no
later verification of the row is accepted, in every interleaving of the calls. -/
theorem backupCode_spent (cfg : CodeConfig) {p q r : Pool (List BackupCode) CodeThread}
    {i id : ℕ} {fails : Bool} {t : CodeThread} (ht : p.threads[i]? = some t)
    (hspends : Spends fails p.shared id t) (hstep : Pool.step (codeStep cfg) p (i, fails) = some q)
    (hr : CodeExec cfg q r) : accepts r.shared id = false := by
  obtain ⟨u, ts, -, hu, hadvance, -⟩ := Pool.step_cases hstep
  obtain rfl := some.inj (ht.symm.trans hu)
  have hspent : Spent q.shared id := hspends.spent hadvance
  refine Spent.not_accepts (Pool.invariant (I := fun rows _ => Spent rows id) ?_ ?_ hspent hr)
  · exact fun _ _ _ _ h => h
  · exact fun _ _ _ _ _ _ _ _ h hadvance => h.step hadvance

/-- Codes that are stored as they are. -/
def plainCodes : CodeConfig where
  validateBackupCode _ := true
  normalizeBackupCode code := code
  validatePasswordAndHash code hash := code == hash

/-- Two verifications have found the row `0`, and the first one is accepted. -/
theorem backupCode_spent_race :
    ∃ q, Pool.step (codeStep plainCodes) ⟨[{ codeHash := "A" }], [.consume 0, .consume 0]⟩
      (0, false) = some q ∧ q.threads = [.consume 0] ∧ accepts q.shared 0 = false := by
  refine ⟨⟨[{ codeHash := "A", isUsed := true }], [.consume 0]⟩, rfl, rfl, ?_⟩
  exact backupCode_spent plainCodes (p := ⟨[{ codeHash := "A" }], [.consume 0, .consume 0]⟩)
    (i := 0) (t := .consume 0) rfl ⟨rfl, rfl, rfl⟩ rfl .refl

end OmniRouters.TwoFactor
