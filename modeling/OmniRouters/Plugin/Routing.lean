import Mathlib.Data.List.Pairwise
import Mathlib.Data.List.Sort

/-!
# Routing generations

A reload of the task plugins builds a routing generation from the plugins that do not conflict
(`pkg/jsplugin/routing.go`). `buildRoutingGenerationAdmitting` tries the candidates one by one,
those that are running first, and then puts the running version of a rejected update back where it
still fits.

* `admitting_sound`: what a reload admits and rejects.
* `incumbent_retained`: a rejected update leaves the running version in service exactly where no
  plugin that the reload adds takes its place.
* `incumbent_displaced`: a reload that adds one.

Metadata is that of validated plugins, so a route path is a list of segments and has a shape. The
generation that a first load starts from, a nil pointer, is the empty one.
-/

namespace OmniRouters.Plugin

inductive Segment
  | static (text : String)
  | param (name : String)
  | catchAll (name : String)
deriving DecidableEq

structure Route where
  method : String
  path : List Segment
deriving DecidableEq

structure ProtocolClaim where
  name : String
  models : List String := []
deriving DecidableEq

/-- The metadata that routing reads. Plugins are compared by pointer: `address` tells two loads of
the same file apart. -/
structure LoadedPlugin where
  key : String
  address : ℕ := 0
  models : List String := []
  channelTypes : List ℤ := []
  routes : List Route := []
  protocols : List ProtocolClaim := []
deriving DecidableEq

/-- A map of plugins by their key. -/
structure Plugins where
  list : List LoadedPlugin
  keys : (list.map LoadedPlugin.key).Nodup

/-- The parts of `HostProtocolOperation` that routing reads. -/
structure HostProtocolOperation where
  methods : List String
  path : String
  modelField : String := ""

/-- `hostProtocols` (lines 83-97). -/
def hostProtocols : List (String × List HostProtocolOperation) :=
  [("openai_responses", [⟨["POST"], "/v1/responses", "model"⟩,
      ⟨["GET"], "/v1/responses/:response_id", ""⟩]),
    ("openai_video", [⟨["POST"], "/v1/videos", "model"⟩, ⟨["GET"], "/v1/videos/:task_id", ""⟩,
      ⟨["GET", "HEAD"], "/v1/videos/:task_id/content", ""⟩]),
    ("openai_image", [⟨["POST"], "/v1/images/generations", "model"⟩,
      ⟨["POST"], "/v1/images/edits", "model"⟩])]

/-! ## Building a generation -/

def Segment.shape : Segment → Segment
  | .static text => .static text
  | .param _ => .param ""
  | .catchAll _ => .catchAll ""

/-- `routePathShape` (lines 649-663). -/
def routePathShape (path : List Segment) : List Segment := path.map Segment.shape

/-- `asciiFold` (model_fold.go:5-20). -/
def asciiFold (model : String) : String := model.map Char.toLower

def channelTypeTaskPlugin : ℤ := 61

/-- The keys of `canonicalModelByFold`, `byChannelType`, `routeIndex` and `protocolIndex`. -/
inductive Slot
  | model (folded : String)
  | channelType (channelType : ℤ)
  | route (method : String) (shape : List Segment)
  | endpoint (method path model : String)
deriving DecidableEq

/-- An entry of these maps. Entries of one model name share it in one spelling, entries of one
endpoint in one protocol; channel types and routes are not shared. -/
structure Binding where
  plugin : String
  slot : Slot
  shared : Option String := none
deriving DecidableEq

/-- The entries of one plugin, in the order in which the loops over its metadata add them (lines
900-966). -/
def LoadedPlugin.bindings (p : LoadedPlugin) : List Binding :=
  (p.models.map fun model => ⟨p.key, .model (asciiFold model), some model⟩) ++
    ((p.channelTypes.filter fun t => t ≠ 0 ∧ t ≠ channelTypeTaskPlugin).map fun t =>
      { plugin := p.key, slot := .channelType t }) ++
    (p.routes.map fun route =>
      { plugin := p.key, slot := .route route.method (routePathShape route.path) }) ++
    p.protocols.flatMap fun claim =>
      (((hostProtocols.lookup claim.name).getD []).filter (·.modelField ≠ "")).flatMap fun op =>
        op.methods.flatMap fun method =>
          (if claim.models = [] then p.models else claim.models).map fun model =>
            ⟨p.key, .endpoint method op.path model, some claim.name⟩

def Binding.Clashes (x y : Binding) : Prop :=
  x.slot = y.slot ∧ (x.shared = none ∨ x.shared ≠ y.shared)

instance (x y : Binding) : Decidable (x.Clashes y) :=
  inferInstanceAs (Decidable (_ ∧ _))

/-- One pass of an inner loop; the error names both entries. -/
def addBinding (index : List Binding) (b : Binding) : Except (Binding × Binding) (List Binding) :=
  match index.find? (·.slot = b.slot) with
  | some other => if other.Clashes b then .error (b, other) else .ok (index ++ [b])
  | none => .ok (index ++ [b])

def byKey (plugins : List LoadedPlugin) : List LoadedPlugin :=
  plugins.insertionSort (·.key ≤ ·.key)

/-- `buildRoutingGenerationFromPlugins` (lines 877-970): the index of a generation, which has the
entries of all its plugins. -/
def buildRoutingGenerationFromPlugins (effective : List LoadedPlugin) :
    Except (Binding × Binding) (List Binding) :=
  ((byKey effective).flatMap LoadedPlugin.bindings).foldlM addBinding []

/-! ## Admitting plugins -/

/-- `effectivePlugins` (lines 870-875): an override takes the place of a factory plugin. -/
def effectivePlugins (factory override : Plugins) : Plugins where
  list := override.list ++ factory.list.filter (·.key ∉ override.list.map LoadedPlugin.key)
  keys := by
    rw [List.map_append, List.nodup_append']
    refine ⟨override.keys, factory.keys.sublist (List.filter_sublist.map _), ?_⟩
    intro key hoverride hfactory
    obtain ⟨p, hp, rfl⟩ := List.mem_map.1 hfactory
    simpa [hoverride] using (List.mem_filter.1 hp).2

/-- A generation that a build returned. -/
structure RoutingGeneration where
  plugins : Plugins
  index : List Binding
  built : buildRoutingGenerationFromPlugins plugins.list = .ok index

def RoutingGeneration.incumbent (current : RoutingGeneration) (key : String) :
    Option LoadedPlugin :=
  current.plugins.list.find? (·.key = key)

def unchangedKeys (current : RoutingGeneration) (candidates : Plugins) : List LoadedPlugin :=
  (byKey candidates.list).filter fun p => current.incumbent p.key = some p

def changedKeys (current : RoutingGeneration) (candidates : Plugins) : List LoadedPlugin :=
  (byKey candidates.list).filter fun p =>
    current.incumbent p.key ≠ some p ∧ current.incumbent p.key ≠ none

def newKeys (current : RoutingGeneration) (candidates : Plugins) : List LoadedPlugin :=
  (byKey candidates.list).filter fun p => current.incumbent p.key = none

/-- The order in which candidates are tried (lines 816-836). -/
def orderedKeys (current : RoutingGeneration) (candidates : Plugins) : List LoadedPlugin :=
  unchangedKeys current candidates ++ changedKeys current candidates ++ newKeys current candidates

/-- The plugins of the generation, and the rejected ones with their errors. -/
structure Admission where
  accepted : List LoadedPlugin := []
  routingErrors : List (LoadedPlugin × Binding × Binding) := []

/-- One pass of the first loop (lines 838-849). -/
def Admission.tryCandidate (s : Admission) (candidate : LoadedPlugin) : Admission :=
  match buildRoutingGenerationFromPlugins (candidate :: s.accepted) with
  | .ok _ => { s with accepted := candidate :: s.accepted }
  | .error e => { s with routingErrors := s.routingErrors ++ [(candidate, e)] }

/-- The plugins of the generation after one pass of the fallback loop (lines 851-865). -/
def fallback (current : RoutingGeneration) (retainCurrent : List String)
    (accepted : List LoadedPlugin) (candidate : LoadedPlugin) : List LoadedPlugin :=
  match current.incumbent candidate.key with
  | none => accepted
  | some incumbent =>
    if candidate.key ∉ retainCurrent ∨ incumbent = candidate then accepted
    else match buildRoutingGenerationFromPlugins (incumbent :: accepted) with
      | .ok _ => incumbent :: accepted
      | .error _ => accepted

/-- `buildRoutingGenerationAdmitting` (lines 797-868). -/
def buildRoutingGenerationAdmitting (factory override : Plugins) (current : RoutingGeneration)
    (retainCurrent : List String) : Admission :=
  let s := (orderedKeys current (effectivePlugins factory override)).foldl
    Admission.tryCandidate {}
  { s with
    accepted := (s.routingErrors.map Prod.fst).foldl (fallback current retainCurrent) s.accepted }

/-! ## Conflicts -/

def LoadedPlugin.Conflicts (p q : LoadedPlugin) : Prop :=
  ∃ x ∈ p.bindings, ∃ y ∈ q.bindings, x.Clashes y

instance (p q : LoadedPlugin) : Decidable (p.Conflicts q) :=
  inferInstanceAs (Decidable (∃ x ∈ _, ∃ y ∈ _, _))

def LoadedPlugin.SelfConflicts (p : LoadedPlugin) : Prop :=
  ¬p.bindings.Pairwise fun x y => ¬x.Clashes y

/-- No two entries of the plugins clash. -/
def Free (plugins : List LoadedPlugin) : Prop :=
  (plugins.flatMap LoadedPlugin.bindings).Pairwise fun x y => ¬x.Clashes y

instance (plugins : List LoadedPlugin) : Decidable (Free plugins) :=
  inferInstanceAs (Decidable (List.Pairwise _ _))

theorem Binding.Clashes.symm {x y : Binding} (h : x.Clashes y) : y.Clashes x := by
  unfold Binding.Clashes at h ⊢
  grind

instance : Std.Symm fun x y : Binding => ¬x.Clashes y := ⟨fun _ _ h hyx => h hyx.symm⟩

instance : Std.Symm fun p q : LoadedPlugin => ¬p.Conflicts q :=
  ⟨fun _ _ h ⟨x, hx, y, hy, hclash⟩ => h ⟨y, hy, x, hx, hclash.symm⟩⟩

theorem free_iff {plugins : List LoadedPlugin} :
    Free plugins ↔ (∀ p ∈ plugins, ¬p.SelfConflicts) ∧
      plugins.Pairwise fun p q => ¬p.Conflicts q := by
  simp only [Free, List.pairwise_flatMap, LoadedPlugin.SelfConflicts, LoadedPlugin.Conflicts,
    not_not, not_exists, not_and]

theorem free_perm {plugins plugins' : List LoadedPlugin} (h : plugins.Perm plugins') :
    Free plugins ↔ Free plugins' :=
  List.Perm.pairwise_iff (fun h hyx => h hyx.symm) (h.flatMap_right _)

theorem free_cons {p : LoadedPlugin} {plugins : List LoadedPlugin} :
    Free (p :: plugins) ↔ ¬p.SelfConflicts ∧ (∀ q ∈ plugins, ¬p.Conflicts q) ∧ Free plugins := by
  simp only [free_iff, List.forall_mem_cons, List.pairwise_cons]
  tauto

/-- Entries that do not clash are compatible with a new one when the first of its slot is. -/
theorem addBinding_ok {index : List Binding} (h : index.Pairwise fun x y => ¬x.Clashes y)
    (b : Binding) (r : List Binding) :
    addBinding index b = .ok r ↔ (∀ x ∈ index, ¬x.Clashes b) ∧ index ++ [b] = r := by
  unfold addBinding
  cases hfind : index.find? (·.slot = b.slot) with
  | none =>
    have hslot : ∀ x ∈ index, ¬x.Clashes b := fun x hx hclash =>
      List.find?_eq_none.1 hfind x hx (decide_eq_true hclash.1)
    simpa using fun _ => hslot
  | some other =>
    have hmem := List.mem_of_find?_eq_some hfind
    have hother : other.slot = b.slot := by simpa using List.find?_some hfind
    by_cases hclash : other.Clashes b
    · simp only [hclash, if_true, reduceCtorEq, false_iff]
      exact fun hall => hall.1 other hmem hclash
    have hall : ∀ x ∈ index, ¬x.Clashes b := by
      intro x hx
      by_cases heq : x = other
      · rwa [heq]
      have hfree := h.forall hx hmem heq
      grind [Binding.Clashes]
    simpa [hclash] using fun _ => hall

theorem foldlM_addBinding_ok (bindings : List Binding) :
    ∀ {index : List Binding}, (index.Pairwise fun x y => ¬x.Clashes y) →
      ((∃ r, bindings.foldlM addBinding index = .ok r) ↔
        (index ++ bindings).Pairwise fun x y => ¬x.Clashes y) := by
  induction bindings with
  | nil =>
    intro index h
    simpa [pure, Except.pure] using h
  | cons b bindings ih =>
    intro index h
    rw [List.foldlM_cons, List.append_cons]
    have hsnoc : (∀ x ∈ index, ¬x.Clashes b) ↔ (index ++ [b]).Pairwise fun x y => ¬x.Clashes y := by
      simp [List.pairwise_append, h]
    cases hadd : addBinding index b with
    | ok r =>
      obtain ⟨hb, rfl⟩ := (addBinding_ok h b r).1 hadd
      exact ih (hsnoc.1 hb)
    | error e =>
      refine iff_of_false (by simp [bind, Except.bind]) fun hall => ?_
      have hok := (addBinding_ok h b _).2 ⟨hsnoc.2 (List.pairwise_append.1 hall).1, rfl⟩
      simp [hadd] at hok

/-- A build succeeds exactly for plugins without conflicts, in whatever order they are tried. -/
theorem build_ok {plugins : List LoadedPlugin} :
    (∃ index, buildRoutingGenerationFromPlugins plugins = .ok index) ↔ Free plugins := by
  unfold buildRoutingGenerationFromPlugins
  rw [foldlM_addBinding_ok _ List.Pairwise.nil, List.nil_append]
  exact free_perm (List.perm_insertionSort _ plugins)

/-! ## Reloads -/

variable {s : Admission} {p : LoadedPlugin} {current : RoutingGeneration} {retain : List String}
  {accepted : List LoadedPlugin}

def Admission.rejected (s : Admission) : List LoadedPlugin := s.routingErrors.map Prod.fst

/-- A candidate is accepted exactly if it fits, and rejected otherwise. -/
theorem Admission.tryCandidate_spec (s : Admission) (p : LoadedPlugin) :
    Free (p :: s.accepted) ∧ (s.tryCandidate p).accepted = p :: s.accepted ∧
        (s.tryCandidate p).rejected = s.rejected ∨
      ¬Free (p :: s.accepted) ∧ (s.tryCandidate p).accepted = s.accepted ∧
        (s.tryCandidate p).rejected = s.rejected ++ [p] := by
  rw [← build_ok]
  fun_cases Admission.tryCandidate s p
  case case1 index hbuild => exact .inl ⟨⟨index, hbuild⟩, rfl, rfl⟩
  case case2 e hbuild => exact .inr ⟨by simp [hbuild], rfl, by simp [Admission.rejected]⟩

theorem fallback_spec (current : RoutingGeneration) (retain : List String)
    (accepted : List LoadedPlugin) (p : LoadedPlugin) :
    fallback current retain accepted p = accepted ∨
      ∃ i, Free (i :: accepted) ∧ fallback current retain accepted p = i :: accepted := by
  fun_cases fallback current retain accepted p
  case case3 i _ _ index hbuild => exact .inr ⟨i, build_ok.1 ⟨index, hbuild⟩, rfl⟩
  all_goals exact .inl rfl

/-- What holds after the candidates `tried`. -/
structure Admission.Sound (tried : List LoadedPlugin) (s : Admission) : Prop where
  free : Free s.accepted
  accepted : ∀ p ∈ s.accepted, p ∈ tried
  rejected : ∀ p ∈ s.rejected, p ∈ tried ∧ (p.SelfConflicts ∨ ∃ q ∈ s.accepted, p.Conflicts q)
  covered : ∀ p ∈ tried, p ∈ s.accepted ∨ p ∈ s.rejected

theorem Admission.Sound.tryCandidate {tried : List LoadedPlugin} (h : s.Sound tried)
    (p : LoadedPlugin) : (s.tryCandidate p).Sound (tried ++ [p]) := by
  obtain ⟨hfree, haccepted, hrejected, hcovered⟩ := h
  rcases s.tryCandidate_spec p with ⟨hp, ha, hr⟩ | ⟨hp, ha, hr⟩
  · constructor <;> grind
  · have hconflict : p.SelfConflicts ∨ ∃ q ∈ s.accepted, p.Conflicts q := by
      by_contra hno
      rw [not_or, not_exists] at hno
      exact hp (free_cons.2 ⟨hno.1, fun q hq hc => hno.2 q ⟨hq, hc⟩, hfree⟩)
    constructor <;> grind

theorem Admission.Sound.foldl (candidates : List LoadedPlugin) :
    ∀ {s : Admission} {tried : List LoadedPlugin}, s.Sound tried →
      (candidates.foldl Admission.tryCandidate s).Sound (tried ++ candidates) := by
  induction candidates with
  | nil =>
    intro s tried h
    simpa using h
  | cons p candidates ih =>
    intro s tried h
    rw [List.append_cons]
    exact ih (h.tryCandidate p)

/-- Candidates that fit together are all accepted. -/
theorem Admission.foldl_of_free (candidates : List LoadedPlugin) :
    ∀ {s : Admission}, Free (candidates.reverse ++ s.accepted) →
      (candidates.foldl tryCandidate s).accepted = candidates.reverse ++ s.accepted := by
  induction candidates with
  | nil => exact fun _ => rfl
  | cons p candidates ih =>
    intro s h
    rw [List.reverse_cons, List.append_assoc, List.singleton_append] at h ⊢
    have hp : Free (p :: s.accepted) := by
      unfold Free at h ⊢
      rw [List.flatMap_append] at h
      exact (List.pairwise_append.1 h).2.1
    rcases s.tryCandidate_spec p with ⟨-, ha, -⟩ | ⟨hno, -, -⟩
    · rw [← ha] at h ⊢
      exact ih h
    · exact absurd hp hno

/-- Accepted plugins stay accepted. -/
theorem Admission.mem_foldl (candidates : List LoadedPlugin) :
    ∀ {s : Admission}, p ∈ s.accepted → p ∈ (candidates.foldl tryCandidate s).accepted := by
  induction candidates with
  | nil => exact id
  | cons q candidates ih =>
    intro s hp
    refine ih ?_
    rcases s.tryCandidate_spec q with ⟨-, ha, -⟩ | ⟨-, ha, -⟩
    · exact ha ▸ List.mem_cons_of_mem _ hp
    · exact ha ▸ hp

/-- Where no candidate is accepted, the accepted plugins are those of before. -/
theorem Admission.foldl_rejected (candidates : List LoadedPlugin) :
    ∀ {s : Admission}, (∀ q ∈ candidates, q ∉ (candidates.foldl tryCandidate s).accepted) →
      (candidates.foldl tryCandidate s).accepted = s.accepted := by
  induction candidates with
  | nil => exact fun _ => rfl
  | cons q candidates ih =>
    intro s h
    rcases s.tryCandidate_spec q with ⟨-, ha, -⟩ | ⟨-, ha, -⟩
    · exact absurd (mem_foldl candidates (ha ▸ List.mem_cons_self)) (h q List.mem_cons_self)
    · exact (ih fun r hr => h r (List.mem_cons_of_mem _ hr)).trans ha

theorem free_fallbacks (current : RoutingGeneration) (retain : List String)
    (rejected : List LoadedPlugin) :
    ∀ {accepted : List LoadedPlugin}, Free accepted →
      Free (rejected.foldl (fallback current retain) accepted) ∧
        ∀ p ∈ accepted, p ∈ rejected.foldl (fallback current retain) accepted := by
  induction rejected with
  | nil => exact fun h => ⟨h, fun _ hp => hp⟩
  | cons q rejected ih =>
    intro accepted h
    rw [List.foldl_cons]
    rcases fallback_spec current retain accepted q with heq | ⟨i, hfree, heq⟩
    · rw [heq]
      exact ih h
    · rw [heq]
      exact ⟨(ih hfree).1, fun p hp => (ih hfree).2 p (List.mem_cons_of_mem _ hp)⟩

theorem Plugins.eq_of_key (plugins : Plugins) {p q : LoadedPlugin} (hp : p ∈ plugins.list)
    (hq : q ∈ plugins.list) (h : p.key = q.key) : p = q :=
  List.inj_on_of_nodup_map plugins.keys hp hq h

theorem RoutingGeneration.incumbent_of_mem (current : RoutingGeneration)
    (hp : p ∈ current.plugins.list) : current.incumbent p.key = some p := by
  unfold RoutingGeneration.incumbent
  cases hi : current.plugins.list.find? (·.key = p.key) with
  | none => simpa using List.find?_eq_none.1 hi p hp
  | some i =>
    rw [current.plugins.eq_of_key (List.mem_of_find?_eq_some hi) hp
      (by simpa using List.find?_some hi)]

theorem RoutingGeneration.free (current : RoutingGeneration) : Free current.plugins.list :=
  build_ok.1 ⟨_, current.built⟩

theorem mem_orderedKeys {candidates : Plugins} :
    p ∈ orderedKeys current candidates ↔ p ∈ candidates.list := by
  simp only [orderedKeys, unchangedKeys, changedKeys, newKeys, byKey, List.mem_append,
    List.mem_filter, List.mem_insertionSort]
  grind

theorem mem_unchangedKeys {candidates : Plugins} :
    p ∈ unchangedKeys current candidates ↔ p ∈ current.plugins.list ∧ p ∈ candidates.list := by
  simp only [unchangedKeys, byKey, List.mem_filter, List.mem_insertionSort, decide_eq_true_eq]
  exact ⟨fun h => ⟨List.mem_of_find?_eq_some h.2, h.1⟩,
    fun h => ⟨h.2, current.incumbent_of_mem h.1⟩⟩

theorem nodup_unchangedKeys (current : RoutingGeneration) (candidates : Plugins) :
    (unchangedKeys current candidates).Nodup :=
  (candidates.keys.of_map.perm (List.perm_insertionSort _ _).symm).filter _

/-- Unchanged candidates are tried first, and all accepted. -/
theorem unchanged_accepted (current : RoutingGeneration) (candidates : Plugins) :
    ((unchangedKeys current candidates).foldl Admission.tryCandidate {}).accepted =
      (unchangedKeys current candidates).reverse := by
  have hfree := free_iff.1 current.free
  have hcurrent : ∀ q ∈ unchangedKeys current candidates, q ∈ current.plugins.list :=
    fun q hq => (mem_unchangedKeys.1 hq).1
  rw [Admission.foldl_of_free, List.append_nil]
  rw [List.append_nil, free_perm (List.reverse_perm _), free_iff]
  exact ⟨fun q hq => hfree.1 q (hcurrent q hq),
    (nodup_unchangedKeys current candidates).pairwise_of_forall_ne fun a ha b hb =>
      hfree.2.forall (hcurrent a ha) (hcurrent b hb)⟩

/-- The first loop, which accepts every unchanged candidate. -/
theorem first_loop (current : RoutingGeneration) (candidates : Plugins) :
    let s := (orderedKeys current candidates).foldl Admission.tryCandidate {}
    s.Sound (orderedKeys current candidates) ∧
      ∀ p ∈ current.plugins.list, p ∈ candidates.list → p ∈ s.accepted := by
  have hinit : Admission.Sound [] {} :=
    ⟨List.Pairwise.nil, by simp, by simp [Admission.rejected], by simp⟩
  refine ⟨hinit.foldl _, fun p hp hmem => ?_⟩
  rw [orderedKeys, List.append_assoc, List.foldl_append]
  refine Admission.mem_foldl _ ?_
  rw [unchanged_accepted, List.mem_reverse]
  exact mem_unchangedKeys.2 ⟨hp, hmem⟩

/-- **What a reload admits**: running plugins that are candidates stay, no plugins conflict, and a
candidate is rejected only for a conflict with a plugin of the new generation. -/
theorem admitting_sound (factory override : Plugins) (current : RoutingGeneration)
    (retainCurrent : List String) :
    let candidates := (effectivePlugins factory override).list
    let s := buildRoutingGenerationAdmitting factory override current retainCurrent
    (∀ p ∈ current.plugins.list, p ∈ candidates → p ∈ s.accepted) ∧
    (∀ p ∈ s.accepted, ¬p.SelfConflicts) ∧
    (s.accepted.Pairwise fun p q => ¬p.Conflicts q) ∧
    (∀ p ∈ candidates, p.key ∉ s.rejected.map LoadedPlugin.key → p ∈ s.accepted) ∧
    ∀ p ∈ candidates, p.key ∈ s.rejected.map LoadedPlugin.key →
      p.SelfConflicts ∨ ∃ q ∈ s.accepted, p.Conflicts q := by
  obtain ⟨hs, hunchanged⟩ := first_loop current (effectivePlugins factory override)
  set s := (orderedKeys current (effectivePlugins factory override)).foldl
    Admission.tryCandidate {} with hdef
  obtain ⟨hfree, hkept⟩ :=
    free_fallbacks current retainCurrent s.rejected hs.free
  rw [free_iff] at hfree
  refine ⟨fun p hp hmem => hkept p (hunchanged p hp hmem), hfree.1, hfree.2, ?_, ?_⟩
  · intro p hp hkey
    refine (hs.covered p (mem_orderedKeys.2 hp)).elim (hkept p) fun hrejected => ?_
    exact absurd (List.mem_map_of_mem hrejected) hkey
  · intro p hp hkey
    obtain ⟨q, hq, hqp⟩ := List.mem_map.1 hkey
    obtain ⟨htried, hconflict⟩ := hs.rejected q hq
    obtain rfl := Plugins.eq_of_key _ (mem_orderedKeys.1 htried) hp hqp
    exact hconflict.imp_right fun ⟨r, hr, hc⟩ => ⟨r, hkept r hr, hc⟩

/-- The fallback loop restores an incumbent that fits when it restores no other. -/
theorem mem_fallbacks {i : LoadedPlugin} (hi : current.incumbent p.key = some i) (hne : i ≠ p)
    (hretain : p.key ∈ retain) (rejected : List LoadedPlugin) :
    ∀ {accepted : List LoadedPlugin}, Free (i :: accepted) → p ∈ rejected →
      (∀ q ∈ rejected, q ≠ p → ∀ x, current.incumbent q.key = some x → x = q) →
      i ∈ rejected.foldl (fallback current retain) accepted := by
  induction rejected with
  | nil => exact fun _ hp _ => absurd hp List.not_mem_nil
  | cons q rejected ih =>
    intro accepted hfree hp hothers
    rw [List.foldl_cons]
    by_cases hq : q = p
    · obtain ⟨index, hbuild⟩ := build_ok.2 hfree
      have hstep : fallback current retain accepted q = i :: accepted := by
        simp [fallback, hq, hi, hne, hretain, hbuild]
      rw [hstep]
      exact (free_fallbacks current retain rejected hfree).2 i List.mem_cons_self
    · have hstep : fallback current retain accepted q = accepted := by
        unfold fallback
        cases hx : current.incumbent q.key with
        | none => rfl
        | some x => exact if_pos (.inr (hothers q List.mem_cons_self hq x hx))
      rw [hstep]
      exact ih hfree ((List.mem_cons.1 hp).resolve_left (Ne.symm hq))
        fun r hr => hothers r (List.mem_cons_of_mem _ hr)

/-- A new plugin joins where it fits. -/
def join (others joined : List LoadedPlugin) (n : LoadedPlugin) : List LoadedPlugin :=
  if Free (n :: (joined ++ others)) then n :: joined else joined

/-- The new plugins that join the running ones apart from `i`: in the order of their keys, each
that fits these and the new ones that joined before it. -/
def joining (current : RoutingGeneration) (candidates : Plugins) (i : LoadedPlugin) :
    List LoadedPlugin :=
  (newKeys current candidates).foldl (join (current.plugins.list.filter (· ≠ i))) []

/-- The first loop tries new plugins as `join` does. -/
theorem Admission.foldl_join (others news : List LoadedPlugin) :
    ∀ {s : Admission} {joined : List LoadedPlugin}, s.accepted.Perm (joined ++ others) →
      (news.foldl tryCandidate s).accepted.Perm (news.foldl (join others) joined ++ others) := by
  induction news with
  | nil => exact fun h => h
  | cons n news ih =>
    intro s joined h
    refine ih ?_
    have hfree := free_perm (h.cons n)
    unfold join
    rcases s.tryCandidate_spec n with ⟨hn, ha, -⟩ | ⟨hn, ha, -⟩
    · rw [ha, if_pos (hfree.1 hn)]
      exact h.cons n
    · rw [ha, if_neg (mt hfree.2 hn)]
      exact h

theorem mem_foldl_join {others : List LoadedPlugin} (news : List LoadedPlugin) :
    ∀ {joined : List LoadedPlugin}, p ∈ news.foldl (join others) joined →
      p ∈ joined ∨ p ∈ news := by
  induction news with
  | nil => exact fun h => .inl h
  | cons n news ih =>
    intro joined h
    rcases ih h with hp | hp
    · unfold join at hp
      split at hp <;> grind
    · exact .inr (List.mem_cons_of_mem _ hp)

section Update

variable {candidates : Plugins} {i c : LoadedPlugin} (hc : c ∈ candidates.list)
  (hkey : i.key = c.key) (hne : i ≠ c)
  (hothers : ∀ p ∈ current.plugins.list, p ≠ i → p ∈ candidates.list)

include hc hkey hothers

/-- Every candidate but the update is unchanged or new. -/
theorem unchanged_or_new {q x : LoadedPlugin} (hq : q ∈ candidates.list) (hqc : q ≠ c)
    (hx : current.incumbent q.key = some x) : x = q := by
  have hxq : x.key = q.key := by simpa using List.find?_some hx
  refine candidates.eq_of_key (hothers x (List.mem_of_find?_eq_some hx) ?_) hq hxq
  rintro rfl
  exact hqc (candidates.eq_of_key hq hc (hxq.symm.trans hkey))

include hne

theorem unchangedKeys_perm :
    (unchangedKeys current candidates).Perm (current.plugins.list.filter (· ≠ i)) := by
  refine (List.perm_ext_iff_of_nodup (nodup_unchangedKeys current candidates)
    (current.plugins.keys.of_map.filter _)).2 fun p => ?_
  rw [mem_unchangedKeys, List.mem_filter, decide_eq_true_eq]
  refine and_congr_right fun hp => ⟨?_, hothers p hp⟩
  rintro hmem rfl
  exact hne (candidates.eq_of_key hmem hc hkey)

/-- Once the update is rejected, the accepted plugins are the others and those that join them. -/
theorem accepted_perm
    (hout : c ∉ ((orderedKeys current candidates).foldl Admission.tryCandidate {}).accepted) :
    ((orderedKeys current candidates).foldl Admission.tryCandidate {}).accepted.Perm
      (joining current candidates i ++ current.plugins.list.filter (· ≠ i)) := by
  rw [orderedKeys, List.foldl_append, List.foldl_append] at hout ⊢
  refine Admission.foldl_join _ _ ?_
  rw [Admission.foldl_rejected, unchanged_accepted, List.nil_append]
  · exact (List.reverse_perm _).trans (unchangedKeys_perm hc hkey hne hothers)
  -- the update is the only changed candidate
  intro q hq hmem
  simp only [changedKeys, byKey, List.mem_filter, List.mem_insertionSort, decide_eq_true_eq] at hq
  obtain ⟨x, hx⟩ := Option.ne_none_iff_exists'.1 hq.2.2
  have hqc : q = c := by
    by_contra hqc
    exact hq.2.1 (unchanged_or_new hc hkey hothers hq.1 hqc hx ▸ hx)
  exact hout (Admission.mem_foldl _ (hqc ▸ hmem))

end Update

/-- **A rejected update** `c` of a running plugin `i`. Where the other running plugins are
candidates too, it leaves `i` in service exactly if none of the new plugins that join them conflicts
with `i`. -/
theorem incumbent_retained {factory override : Plugins} {current : RoutingGeneration}
    {retainCurrent : List String} {i c : LoadedPlugin}
    (hi : i ∈ current.plugins.list) (hc : c ∈ (effectivePlugins factory override).list)
    (hkey : i.key = c.key) (hne : i ≠ c) (hretain : c.key ∈ retainCurrent)
    (hothers : ∀ p ∈ current.plugins.list, p ≠ i → p ∈ (effectivePlugins factory override).list)
    (hrejected : c ∉
      (buildRoutingGenerationAdmitting factory override current retainCurrent).accepted) :
    i ∈ (buildRoutingGenerationAdmitting factory override current retainCurrent).accepted ↔
      ∀ n ∈ joining current (effectivePlugins factory override) i, ¬i.Conflicts n := by
  obtain ⟨hs, -⟩ := first_loop current (effectivePlugins factory override)
  have hperm := accepted_perm hc hkey hne hothers
  set s := (orderedKeys current (effectivePlugins factory override)).foldl
    Admission.tryCandidate {} with hdef
  obtain ⟨hfree, hkept⟩ := free_fallbacks current retainCurrent s.rejected hs.free
  have hout : c ∉ s.accepted := fun h => hrejected (hkept c h)
  have hmem : ∀ n, n ∈ s.accepted ↔ _ := fun n => (hperm hout).mem_iff
  constructor
  · intro hretained n hn
    refine (free_iff.1 hfree).2.forall hretained
      (hkept n ((hmem n).2 (List.mem_append_left _ hn))) ?_
    rintro rfl
    have hnew := (mem_foldl_join _ hn).resolve_left List.not_mem_nil
    simp [newKeys, current.incumbent_of_mem hi] at hnew
  · intro hjoining
    have hcurrent := free_iff.1 current.free
    have hplace : Free (i :: s.accepted) := by
      refine free_cons.2 ⟨hcurrent.1 i hi, fun q hq => ?_, hs.free⟩
      rcases List.mem_append.1 ((hmem q).1 hq) with hq | hq
      · exact hjoining q hq
      · have hq := List.mem_filter.1 hq
        exact hcurrent.2.forall hi hq.1 (Ne.symm (of_decide_eq_true hq.2))
    exact mem_fallbacks (hkey ▸ current.incumbent_of_mem hi) hne hretain s.rejected hplace
      ((hs.covered c (mem_orderedKeys.2 hc)).resolve_left hout)
      fun q hq hqc x hx =>
        unchanged_or_new hc hkey hothers (mem_orderedKeys.1 (hs.rejected q hq).1) hqc hx

/-- Two plugins in service, of the channel types 1 and 2. -/
def running : RoutingGeneration where
  plugins := ⟨[{ key := "a", channelTypes := [1] }, { key := "b", channelTypes := [2] }],
    by decide⟩
  index := [{ plugin := "a", slot := .channelType 1 }, { plugin := "b", slot := .channelType 2 }]
  built := by decide +kernel

/-- An update of the first plugin, to the channel type of the second, and the second. -/
def updated : Plugins where
  list := [{ key := "a", address := 1, channelTypes := [2] }, { key := "b", channelTypes := [2] }]
  keys := by decide

/-- The reload also adds a plugin of the given channel type. -/
def added (channelType : ℤ) : Plugins where
  list := [{ key := "n", channelTypes := [channelType] }]
  keys := List.nodup_singleton _

theorem incumbent_retained_running : { key := "a", channelTypes := [1] } ∈
      (buildRoutingGenerationAdmitting (added 3) updated running ["a"]).accepted := by
  refine (incumbent_retained (i := { key := "a", channelTypes := [1] })
    (c := { key := "a", address := 1, channelTypes := [2] }) (by decide) (by decide) rfl (by decide)
    (by decide) (by decide) ?_).2 ?_ <;>
  decide +kernel

/-- A plugin of channel type 1 takes the place of the running one, whose update was rejected. -/
theorem incumbent_displaced :
    let s := buildRoutingGenerationAdmitting (added 1) updated running ["a"]
    s.accepted.map LoadedPlugin.key = ["n", "b"] ∧ s.rejected.map LoadedPlugin.key = ["a"] := by
  decide +kernel

end OmniRouters.Plugin
