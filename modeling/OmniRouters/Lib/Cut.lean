import Mathlib.Data.List.Infix

/-!
# The first occurrence of a text

`cut sep text` is what stands before and after the first occurrence of `sep`. `cut_append` finds a
separator behind a text that does not contain it, `append_of_cut` puts the text together again.
-/

namespace OmniRouters.Lib

open List

variable {α : Type*} [DecidableEq α] {a : α} {s p r : List α}

/-- What stands before and after the first occurrence of a separator that is not empty. -/
def cut (sep : List α) : List α → Option (List α × List α)
  | [] => none
  | c :: rest =>
    if sep <+: c :: rest then some ([], (c :: rest).drop sep.length)
    else (cut sep rest).map fun found => (c :: found.1, found.2)

theorem append_of_cut {sep text before after : List α}
    (h : cut sep text = some (before, after)) : before ++ (sep ++ after) = text := by
  induction text generalizing before with
  | nil => cases h
  | cons c rest ih =>
    rw [cut] at h
    split at h
    next hprefix =>
      cases h
      exact (prefix_append_drop hprefix).symm
    · obtain ⟨⟨found, _⟩, hfound, heq⟩ := Option.map_eq_some_iff.1 h
      cases heq
      rw [cons_append, ih hfound]

omit [DecidableEq α] in
/-- A text without `a` does not reach over an `a`. -/
theorem prefix_of_prefix_append (ha : a ∉ s) (h : s <+: p ++ a :: r) : s <+: p := by
  have hp : p ++ [a] <+: p ++ a :: r := ⟨r, by simp⟩
  rcases prefix_or_prefix_of_prefix h hp with h | h
  · refine (prefix_concat_iff.1 h).resolve_left fun heq => ha ?_
    simp [heq]
  · exact absurd (h.subset (by simp)) ha

/-- A separator that starts with its only `a` is found behind a text that does not contain it. -/
theorem cut_append (ha : a ∉ s) (hp : ¬ a :: s <:+: p) :
    cut (a :: s) (p ++ (a :: s ++ r)) = some (p, r) := by
  induction p with
  | nil => simp [cut]
  | cons c p ih =>
    have hhere : ¬ a :: s <+: c :: (p ++ (a :: s ++ r)) := by
      intro hpre
      obtain ⟨rfl, hrest⟩ := cons_prefix_cons.1 hpre
      have hs := prefix_of_prefix_append ha hrest
      exact hp (cons_prefix_cons.2 ⟨rfl, hs⟩).isInfix
    rw [cons_append, cut, if_neg hhere, ih fun h => hp (h.trans (suffix_cons c p).isInfix)]
    rfl

end OmniRouters.Lib
