import OmniRouters.Lib.Cut

/-!
# Modifiers of model names

Model of `ParseModelModifiers` in `relaykit/relayconvert/reasoning/suffix.go`. Names are lists of
characters, and a key is lower-cased as the ASCII text that it is.

* `modifiers_round_trip`: modifiers behind a base are read back, and a base with the segments that
  were removed is the name.
-/

namespace OmniRouters.Reasoning

open Lib List

structure ModelModifier where
  key : List Char
  value : List Char
  deriving DecidableEq

structure ModelModifierSpec where
  raw : List Char
  base : List Char
  modifiers : List ModelModifier := []
  deriving DecidableEq

def letter (r : Char) : Bool := ('a' ≤ r && r ≤ 'z') || ('A' ≤ r && r ≤ 'Z')

def keyChar (r : Char) : Bool := letter r || ('0' ≤ r && r ≤ '9') || r = '_' || r = '-'

def validKey : List Char → Bool
  | [] => false
  | r :: key => letter r && key.all keyChar

def parseModelModifierSegment (segment : List Char) : Option ModelModifier := do
  let (key, value) ← cut [':'] segment
  if validKey key then some ⟨key.map Char.toLower, value⟩ else none

/-- The loop over the segments, which goes from the last one to the first that is no modifier: the
segments it leaves, and the modifiers. -/
def trailing : List (List Char) → List (List Char) × List ModelModifier
  | [] => ([], [])
  | segment :: rest =>
    match trailing rest, parseModelModifierSegment segment with
    | ([], modifiers), some modifier => ([], modifier :: modifiers)
    | (left, modifiers), _ => (segment :: left, modifiers)

def parseModelModifiers (modelName : List Char) : ModelModifierSpec :=
  match modelName.splitOn '@' with
  | [] => { raw := modelName, base := modelName }
  | first :: segments =>
    let found := trailing segments
    let base := ['@'].intercalate (first :: found.1)
    if found.2 = [] ∨ base = [] then { raw := modelName, base := modelName }
    else { raw := modelName, base := base, modifiers := found.2 }

/-- The segments of a name behind its base. -/
def chain (segments : List (List Char)) : List Char := segments.flatMap ('@' :: ·)

variable {segments left : List (List Char)} {modifiers : List ModelModifier}
  {base key first : List Char} {c : Char}

theorem intercalate_eq_chain : ['@'].intercalate (first :: segments) = first ++ chain segments := by
  induction segments generalizing first with
  | nil => simp [chain]
  | cons segment segments ih => simpa [chain] using @ih segment

theorem splitOn_eq_singleton (h : '@' ∉ base) : base.splitOn '@' = [base] :=
  splitOnP_eq_singleton fun x hx => by simpa using ne_of_mem_of_not_mem hx h

theorem splitOn_chain (h : ∀ segment ∈ segments, '@' ∉ segment) :
    (base ++ chain segments).splitOn '@' = base.splitOn '@' ++ segments := by
  induction segments generalizing base with
  | nil => simp [chain]
  | cons segment segments ih =>
    obtain ⟨hsegment, hrest⟩ := forall_mem_cons.1 h
    have hsplit := @ih segment hrest
    rw [splitOn_eq_singleton hsegment] at hsplit
    exact (splitOnP_append_cons base _ (by simp)).trans (congrArg _ hsplit)

theorem trailing_modifiers
    (h : segments.map parseModelModifierSegment = modifiers.map some) :
    trailing segments = ([], modifiers) := by
  induction segments generalizing modifiers with
  | nil =>
    cases modifiers with
    | nil => rfl
    | cons => simp at h
  | cons segment segments ih =>
    cases modifiers with
    | nil => simp at h
    | cons modifier modifiers =>
      rw [map_cons, map_cons, cons.injEq] at h
      rw [trailing, ih h.2, h.1]

theorem trailing_append (h : trailing segments = ([], modifiers))
    (hleft : ∀ segment ∈ left.getLast?, parseModelModifierSegment segment = none) :
    trailing (left ++ segments) = (left, modifiers) := by
  induction left with
  | nil => exact h
  | cons segment left ih =>
    cases left with
    | nil => rw [cons_append, nil_append, trailing, h, hleft segment rfl]
    | cons next left => rw [cons_append, trailing, ih hleft]

/-- What the loop removes are the segments of its modifiers. -/
theorem exists_removed (segments : List (List Char)) :
    ∃ removed, segments = (trailing segments).1 ++ removed ∧
      removed.map parseModelModifierSegment = (trailing segments).2.map some := by
  induction segments with
  | nil => exact ⟨[], rfl, rfl⟩
  | cons segment segments ih =>
    obtain ⟨removed, hsegments, hread⟩ := ih
    rw [trailing]
    split
    next heq hparse =>
      rw [heq] at hsegments hread
      exact ⟨segment :: removed, congrArg _ hsegments, by simp [hparse, hread]⟩
    next heq _ =>
      rw [heq] at hsegments hread
      exact ⟨removed, congrArg _ hsegments, hread⟩

theorem not_mem_of_validKey (hc : keyChar c = false) (h : validKey key = true) : c ∉ key := by
  cases key with
  | nil => simp
  | cons r key =>
    simp only [validKey, Bool.and_eq_true, all_eq_true] at h
    have hall : ∀ x ∈ r :: key, keyChar x = true := by
      rw [forall_mem_cons]
      exact ⟨by simp [keyChar, h.1], h.2⟩
    intro hmem
    simp [hall c hmem] at hc

theorem parse_segment (h : validKey key = true) (value : List Char) :
    parseModelModifierSegment (key ++ ':' :: value) = some ⟨key.map Char.toLower, value⟩ := by
  have hcolon : ':' ∉ key := not_mem_of_validKey (by decide) h
  have hcut : cut [':'] (key ++ ':' :: value) = some (key, value) :=
    cut_append not_mem_nil fun hin => hcolon (hin.subset mem_cons_self)
  simp [parseModelModifierSegment, hcut, h]

theorem modifiers_round_trip :
    (∀ (base : List Char) (modifiers : List ModelModifier), base ≠ [] →
      ('@' ∉ base ∨ ∀ segment ∈ (base.splitOn '@').getLast?,
        parseModelModifierSegment segment = none) →
      (∀ m ∈ modifiers, validKey m.key = true ∧ '@' ∉ m.value) →
      ∃ name, name = base ++ chain (modifiers.map fun m => m.key ++ ':' :: m.value) ∧
        parseModelModifiers name =
          ⟨name, base, modifiers.map fun m => ⟨m.key.map Char.toLower, m.value⟩⟩) ∧
    ∀ name, ∃ removed, (parseModelModifiers name).base ++ chain removed = name ∧
      removed.map parseModelModifierSegment = (parseModelModifiers name).modifiers.map some := by
  constructor
  · intro base modifiers hbase hlast hvalid
    obtain ⟨first, rest, hsplit⟩ := exists_cons_of_ne_nil (splitOn_ne_nil '@' base)
    have hjoin : ['@'].intercalate (first :: rest) = base := hsplit ▸ intercalate_splitOn '@'
    have hrest : ∀ segment ∈ rest.getLast?, parseModelModifierSegment segment = none := by
      intro segment hsegment
      rcases hlast with hnone | hlast
      · have hone : base.splitOn '@' = [base] := splitOn_eq_singleton hnone
        rw [hsplit, cons.injEq] at hone
        simp [hone.2] at hsegment
      · rw [hsplit, getLast?_cons, Option.mem_def.1 hsegment] at hlast
        exact hlast segment rfl
    have hfree : ∀ segment ∈ modifiers.map fun m => m.key ++ ':' :: m.value, '@' ∉ segment := by
      intro segment hsegment
      obtain ⟨m, hm, rfl⟩ := mem_map.1 hsegment
      have hkey : '@' ∉ m.key := not_mem_of_validKey (by decide) (hvalid m hm).1
      simp [hkey, (hvalid m hm).2]
    have hparse : (modifiers.map fun m => m.key ++ ':' :: m.value).map parseModelModifierSegment =
        (modifiers.map fun m => (⟨m.key.map Char.toLower, m.value⟩ : ModelModifier)).map some := by
      simp only [map_map, map_inj_left, Function.comp_apply]
      exact fun m hm => parse_segment (hvalid m hm).1 m.value
    refine ⟨_, rfl, ?_⟩
    unfold parseModelModifiers
    rw [splitOn_chain hfree, hsplit]
    dsimp only [cons_append]
    rw [trailing_append (trailing_modifiers hparse) hrest, hjoin]
    split
    next hnone =>
      have hnil := map_eq_nil_iff.1 (hnone.resolve_right hbase)
      simp [hnil, chain]
    · rfl
  · intro name
    obtain ⟨first, segments, hsplit⟩ := exists_cons_of_ne_nil (splitOn_ne_nil '@' name)
    have hjoin : ['@'].intercalate (first :: segments) = name := hsplit ▸ intercalate_splitOn '@'
    obtain ⟨removed, hsegments, hread⟩ := exists_removed segments
    unfold parseModelModifiers
    rw [hsplit]
    dsimp only
    split
    · exact ⟨[], append_nil name, rfl⟩
    · refine ⟨removed, ?_, hread⟩
      rw [hsegments, intercalate_eq_chain, chain, flatMap_append, ← append_assoc] at hjoin
      rw [intercalate_eq_chain]
      exact hjoin

/-- The segment `x:1` before an ordinary one belongs to the base. -/
theorem modifiers_round_trip_effort : parseModelModifiers "m@x:1@y@Effort:a:b".toList =
    ⟨"m@x:1@y@Effort:a:b".toList, "m@x:1@y".toList, [⟨"effort".toList, "a:b".toList⟩]⟩ := by
  obtain ⟨name, hname, hparse⟩ := modifiers_round_trip.1 "m@x:1@y".toList
    [⟨"Effort".toList, "a:b".toList⟩] (by decide) (.inr (by decide +kernel)) (by decide +kernel)
  obtain rfl : name = "m@x:1@y@Effort:a:b".toList := hname.trans (by decide +kernel)
  exact hparse

end OmniRouters.Reasoning
