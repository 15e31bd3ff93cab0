import Mathlib.Algebra.BigOperators.Group.List.Basic
import Mathlib.Tactic.Abel
import Mathlib.Data.List.Nodup

/-!
# Rows with a key

A table is a list of rows, a row is found by its key, and a save replaces the rows with the key
of the saved one.

* `find?_replace`: what is found after a save.
* `mem_replace`: the rows after a save.
* `sum_map_replace`: what a save does to a sum over the rows.
-/

namespace OmniRouters.Lib

open List

variable {α κ : Type*} [DecidableEq κ]

/-- The rows after the save of `x`. -/
def replace (key : α → κ) (x : α) (rows : List α) : List α :=
  rows.map fun r => if key r = key x then x else r

theorem key_of_find? {key : α → κ} {rows : List α} {k : κ} {x : α}
    (h : rows.find? (fun r => key r = k) = some x) : key x = k := by
  simpa using find?_some h

/-- A row after a save is the saved one or an old one with another key. -/
theorem mem_replace {key : α → κ} {x y : α} {rows : List α} (h : y ∈ replace key x rows) :
    y = x ∨ y ∈ rows ∧ key y ≠ key x := by
  obtain ⟨r, hr, heq⟩ := mem_map.1 h
  split at heq
  · exact Or.inl heq.symm
  next hne =>
    subst heq
    exact Or.inr ⟨hr, hne⟩

/-- A save replaces the row with its key and keeps the others. -/
theorem find?_replace (key : α → κ) (x : α) (rows : List α) (k : κ) :
    (replace key x rows).find? (fun r => key r = k) =
      if key x = k then (rows.find? fun r => key r = k).map fun _ => x
      else rows.find? fun r => key r = k := by
  have hkeys : (fun r => decide (key r = k)) ∘ (fun r => if key r = key x then x else r) =
      fun r => decide (key r = k) := by
    funext r
    dsimp only [Function.comp_apply]
    split
    next heq =>
      rw [heq]
    · rfl
  unfold replace
  rw [find?_map, hkeys]
  cases hfind : rows.find? fun r => key r = k with
  | none => split <;> rfl
  | some r =>
    rw [Option.map_some, Option.map_some, key_of_find? hfind]
    split
    next heq =>
      rw [if_pos heq.symm]
    next hne =>
      rw [if_neg fun heq => hne heq.symm]

theorem map_key_replace (key : α → κ) (x : α) (rows : List α) :
    (replace key x rows).map key = rows.map key := by
  unfold replace
  rw [map_map]
  refine map_congr_left fun r _ => ?_
  dsimp only [Function.comp_apply]
  split
  next heq =>
    exact heq.symm
  · rfl

/-- A save of a row that no key of the table has changes nothing. -/
theorem replace_of_forall_ne {key : α → κ} {x : α} {rows : List α}
    (h : ∀ r ∈ rows, key r ≠ key x) : replace key x rows = rows := by
  refine (map_congr_left fun r hr => ?_).trans (map_id rows)
  exact if_neg (h r hr)

/-- With unique keys, a save exchanges the value of one row in a sum over the rows. -/
theorem sum_map_replace {M : Type*} [AddCommGroup M] {key : α → κ} {rows : List α} (w : α → M)
    (hnodup : (rows.map key).Nodup) {r x : α} (hr : r ∈ rows) (hkey : key r = key x) :
    ((replace key x rows).map w).sum = (rows.map w).sum - w r + w x := by
  induction rows with
  | nil => exact absurd hr not_mem_nil
  | cons a rows ih =>
    rw [map_cons, nodup_cons] at hnodup
    have hne : ∀ b ∈ rows, key b ≠ key a := fun b hb heq =>
      hnodup.1 (heq ▸ mem_map_of_mem hb)
    rw [replace, map_cons, map_cons, sum_cons, map_cons, sum_cons]
    rcases mem_cons.1 hr with rfl | hr
    · -- the first row is the saved one, so the others stay
      rw [if_pos hkey]
      have hrest : replace key x rows = rows :=
        replace_of_forall_ne fun b hb => hkey ▸ hne b hb
      rw [replace] at hrest
      rw [hrest]
      abel
    · rw [if_neg fun heq => hne r hr (hkey.trans heq.symm)]
      have hrest := ih hnodup.2 hr
      rw [replace] at hrest
      rw [hrest]
      abel

end OmniRouters.Lib
