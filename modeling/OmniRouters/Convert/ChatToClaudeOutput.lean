import OmniRouters.Convert.ChatToClaude

/-!
# The output that the Anthropic events carry

What the deltas of a converted stream carry, against what the chunks carry: the text, the
reasoning and the arguments of every tool call.

* `Delivered`: the deltas carry the output of the chunks.
* `Kept.laterOutput`, `Kept.toolLoop`, `Kept.laterChunk`: the parts of a call deliver what they
  are given.
* `output_delivered`: a stream delivers its output when every chunk carries one kind of output
  and none beside a finish reason whose usage is still to come.
* `deferred_output_lost`: the text of a last chunk with a finish reason is lost.
-/

namespace OmniRouters.Convert.ChatToClaude

open Convert.Claude List Function

variable {U : Type}

/-! ## Channels -/

/-- The deltas of the two texts, and those of the arguments by their block. -/
inductive Channel
  | output (output : Output)
  | json (index : ℤ)
deriving DecidableEq

/-- What an event carries in a channel. -/
def carry (channel : Channel) : Event U → Text
  | .contentBlockDelta i (.inputJson text) => if channel = .json i then text else []
  | .contentBlockDelta _ (.text text) => if channel = .output .text then text else []
  | .contentBlockDelta _ (.thinking text) => if channel = .output .thinking then text else []
  | _ => []

def carried (channel : Channel) (events : List (Event U)) : Text := events.flatMap (carry channel)

/-- The text of one kind in a delta. -/
def Output.of : Output → Delta → Text
  | .text, delta => delta.getContentString
  | .thinking, delta => delta.getReasoningContent

/-- The fragments of tool calls with their indexes, from the position `i`. -/
def fragmentsFrom : ℕ → List ToolCall → List (ℤ × Text)
  | _, [] => []
  | i, call :: rest => (call.offset i, call.arguments) :: fragmentsFrom (i + 1) rest

/-- The text of one kind in a stream. -/
def outputOf (output : Output) (inputs : List (Input U)) : Text :=
  inputs.flatMap fun input => input.chunk.choices.flatMap fun choice => output.of choice.delta

def fragmentsIn (inputs : List (Input U)) : List (ℤ × Text) :=
  inputs.flatMap fun input =>
    input.chunk.choices.flatMap fun choice => fragmentsFrom 0 choice.delta.toolCalls

/-- The indexes of fragments. -/
def keys (fragments : List (ℤ × Text)) : List ℤ := fragments.map Prod.fst

/-- The arguments of a tool call. -/
def argumentsOf (k : ℤ) (fragments : List (ℤ × Text)) : Text :=
  fragments.flatMap fun fragment => if fragment.1 = k then fragment.2 else []

/-- Every tool call has a block of its own that carries its arguments, and no other block carries
arguments. -/
structure Assignment (f : ℤ → ℤ) (fragments : List (ℤ × Text)) (trace : List (Event U)) :
    Prop where
  inj : ∀ k ∈ keys fragments, ∀ k' ∈ keys fragments, f k = f k' → k = k'
  json : ∀ k ∈ keys fragments, carried (.json (f k)) trace = argumentsOf k fragments
  other : ∀ i, (∀ k ∈ keys fragments, f k ≠ i) → carried (.json i) trace = []

/-- The deltas carry the given texts and tool calls. -/
def Delivered (texts : Output → Text) (fragments : List (ℤ × Text)) (trace : List (Event U)) :
    Prop :=
  (∀ output, carried (.output output) trace = texts output) ∧
    ∃ f, Assignment f fragments trace

/-! ## What the events of each part carry -/

variable (channel : Channel)

@[simp] theorem carried_append (a b : List (Event U)) :
    carried channel (a ++ b) = carried channel a ++ carried channel b :=
  flatMap_append

@[simp] theorem carried_stops (indexes : List ℤ) :
    carried channel (indexes.map (.contentBlockStop : ℤ → Event U)) = [] := by
  induction indexes with
  | nil => rfl
  | cons i rest ih => exact ih

@[simp] theorem carried_stopOpenBlocks (s : State) :
    carried channel (stopOpenBlocks s : List (Event U)) = [] :=
  carried_stops channel s.openIndexes

@[simp] theorem carried_stopOpenBlocksAndAdvance (s : State) :
    carried channel (stopOpenBlocksAndAdvance s (U := U)).2 = [] := by
  unfold stopOpenBlocksAndAdvance
  split
  · rfl
  · exact carried_stopOpenBlocks channel s
  · exact carried_stopOpenBlocks channel s

@[simp] theorem carried_endMessage (s : State) (reason : String)
    (usage : Option U) : carried channel (endMessage s reason usage).2 = [] := by
  rw [endMessage, carried_append, carried_stopOpenBlocks]
  rfl

@[simp] theorem carried_enterTools (s : State) :
    carried channel (enterTools s (U := U)).2 = [] := by
  unfold enterTools
  split_ifs
  · exact carried_stopOpenBlocksAndAdvance channel s
  · rfl

theorem carry_delta (i : ℤ) (output : Output) (text : Text) :
    carry channel (.contentBlockDelta i (output.delta text) : Event U) =
      if channel = .output output then text else [] := by
  cases output <;> rfl

@[simp] theorem carried_laterOutput (s : State) (output : Output)
    (text : Text) : carried channel (laterOutput s output text (U := U)).2 =
      if channel = .output output then text else [] := by
  have hone : ∀ i : ℤ, carried channel [(.contentBlockDelta i (output.delta text) : Event U)] =
      if channel = .output output then text else [] := by
    intro i
    rw [← carry_delta (U := U) channel i]
    exact append_nil _
  unfold laterOutput
  split_ifs with htype hchannel
  · rw [carried_append, carried_stopOpenBlocksAndAdvance]
    exact (hone _).trans (if_pos hchannel)
  · rw [carried_append, carried_stopOpenBlocksAndAdvance]
    exact (hone _).trans (if_neg hchannel)
  · exact (hone _).trans (if_pos ‹_›)
  · exact (hone _).trans (if_neg ‹_›)

@[simp] theorem carried_toolEvents (i : ℤ) (call : ToolCall) :
    carried channel (toolEvents i call : List (Event U)) =
      if channel = .json i then call.arguments else [] := by
  unfold toolEvents
  rw [carried_append]
  have hstart : carried channel (if call.name ≠ "" then
      [.contentBlockStart i (.toolUse call.id call.name)] else [] : List (Event U)) = [] := by
    split_ifs <;> rfl
  rw [hstart, nil_append]
  split_ifs with harguments hchannel
  · exact (append_nil _).trans (if_pos hchannel)
  · exact (append_nil _).trans (if_neg hchannel)
  · exact (not_not.1 harguments).symm
  · rfl

/-- Tool calls carry no text. -/
theorem carried_toolLoop (output : Output) (base maxOffset : ℤ) (i : ℕ) (calls : List ToolCall) :
    carried (.output output) (toolLoop base maxOffset i calls (U := U)).2 = [] := by
  induction calls generalizing maxOffset i with
  | nil => rfl
  | cons call rest ih =>
    rw [toolLoop, carried_append, carried_toolEvents, ih]
    rfl

/-! ## The blocks of the tool calls -/

section Assignment

variable {f : ℤ → ℤ} {fragments : List (ℤ × Text)} {trace : List (Event U)}

theorem argumentsOf_append (k : ℤ) (a b : List (ℤ × Text)) :
    argumentsOf k (a ++ b) = argumentsOf k a ++ argumentsOf k b :=
  flatMap_append

theorem argumentsOf_eq_nil {k : ℤ} (h : k ∉ keys fragments) : argumentsOf k fragments = [] := by
  refine flatMap_eq_nil_iff.2 fun fragment hmem => if_neg fun hk => h ?_
  exact hk ▸ mem_map_of_mem hmem

/-- Events that carry no arguments. -/
theorem Assignment.quiet (h : Assignment f fragments trace) (events : List (Event U))
    (hquiet : ∀ i, carried (.json i) events = []) : Assignment f fragments (trace ++ events) where
  inj := h.inj
  json k hk := by rw [carried_append, hquiet, append_nil, h.json k hk]
  other i hi := by rw [carried_append, hquiet, append_nil, h.other i hi]

/-- One fragment more, in the block of its tool call or in a new one. -/
theorem Assignment.fragment (h : Assignment f fragments trace) {k b : ℤ} {text : Text}
    {events : List (Event U)} (hold : k ∈ keys fragments → f k = b)
    (hnew : ∀ k' ∈ keys fragments, f k' = b → k' = k)
    (hevents : ∀ i, carried (.json i) events = if i = b then text else []) :
    Assignment (Function.update f k b) (fragments ++ [(k, text)]) (trace ++ events) := by
  have hmem : ∀ k', k' ∈ keys (fragments ++ [(k, text)]) ↔ k' ∈ keys fragments ∨ k' = k := by
    simp [keys]
  have hb : ∀ k' ∈ keys fragments, k' ≠ k → f k' ≠ b := fun k' hk' hne heq =>
    hne (hnew k' hk' heq)
  have htail : ∀ k', argumentsOf k' [(k, text)] = if k' = k then text else [] := by
    intro k'
    simp [argumentsOf, eq_comm]
  have hblock : carried (.json b) trace = argumentsOf k fragments := by
    by_cases hk : k ∈ keys fragments
    · rw [← hold hk, h.json k hk]
    · rw [argumentsOf_eq_nil hk]
      exact h.other b fun k' hk' heq => hk (hnew k' hk' heq ▸ hk')
  constructor
  · intro k1 h1 k2 h2 heq
    rw [hmem] at h1 h2
    by_cases e1 : k1 = k <;> by_cases e2 : k2 = k
    · rw [e1, e2]
    · rw [e1, update_self, update_of_ne e2] at heq
      exact absurd heq.symm (hb k2 (h2.resolve_right e2) e2)
    · rw [e2, update_self, update_of_ne e1] at heq
      exact absurd heq (hb k1 (h1.resolve_right e1) e1)
    · rw [update_of_ne e1, update_of_ne e2] at heq
      exact h.inj k1 (h1.resolve_right e1) k2 (h2.resolve_right e2) heq
  · intro k' hk'
    rw [carried_append, hevents, argumentsOf_append, htail]
    by_cases e : k' = k
    · rw [e, update_self, if_pos rfl, if_pos rfl, hblock]
    · have hk := (hmem k').1 hk' |>.resolve_right e
      rw [update_of_ne e, if_neg (hb k' hk e), if_neg e, h.json k' hk]
  · intro i hi
    have hib : i ≠ b := by
      rintro rfl
      exact hi k ((hmem k).2 (.inr rfl)) (update_self ..)
    rw [carried_append, hevents, if_neg hib, append_nil]
    refine h.other i fun k' hk' heq => ?_
    by_cases e : k' = k
    · rw [e] at hk' heq
      exact hib (heq.symm.trans (hold hk'))
    · refine hi k' ((hmem k').2 (.inl hk')) ?_
      rw [update_of_ne e, heq]

/-- The blocks of a run of tool calls with the indexes `run`, which begins at the block `base`; all
other tool calls have blocks before it. -/
structure Placed (base maxOffset : ℤ) (run : List ℤ) (f : ℤ → ℤ) (seen : List ℤ) : Prop where
  nonneg : 0 ≤ maxOffset
  inside : ∀ k ∈ seen, k ∈ run → f k = base + k ∧ k ≤ maxOffset
  before : ∀ k ∈ seen, k ∉ run → f k < base

theorem Placed.fragment {base maxOffset : ℤ} {run seen : List ℤ}
    (h : Placed base maxOffset run f seen) (k : ℤ) :
    Placed base (if k > maxOffset then k else maxOffset) (run ++ [k])
      (Function.update f k (base + k)) (seen ++ [k]) := by
  have hnonneg := h.nonneg
  refine ⟨by split_ifs <;> omega, fun k' hk' hrun => ?_, fun k' hk' hrun => ?_⟩
  · by_cases e : k' = k
    · rw [e, update_self]
      exact ⟨rfl, by split_ifs <;> omega⟩
    rw [update_of_ne e]
    have hseen : k' ∈ seen := by simpa [e] using hk'
    obtain ⟨hf, hle⟩ := h.inside k' hseen (by simpa [e] using hrun)
    exact ⟨hf, by split_ifs <;> omega⟩
  · have e : k' ≠ k := by
      rintro rfl
      exact hrun (mem_append_right run mem_cons_self)
    rw [update_of_ne e]
    exact h.before k' (by simpa [e] using hk') fun hmem => hrun (mem_append_left _ hmem)

/-- The loop over the fragments of a chunk. -/
theorem Placed.toolLoop {base maxOffset : ℤ} {run : List ℤ} {i : ℕ} {calls : List ToolCall}
    (h : Placed base maxOffset run f (keys fragments)) (hassign : Assignment f fragments trace)
    (hkeys : ∀ k ∈ keys (fragmentsFrom i calls), 0 ≤ k ∧ (k ∈ keys fragments → k ∈ run)) :
    ∃ f', Assignment f' (fragments ++ fragmentsFrom i calls)
        (trace ++ (toolLoop base maxOffset i calls).2) ∧
      Placed base (ChatToClaude.toolLoop base maxOffset i calls (U := U)).1
        (run ++ keys (fragmentsFrom i calls)) f' (keys (fragments ++ fragmentsFrom i calls)) := by
  induction calls generalizing f fragments trace maxOffset run i with
  | nil =>
    refine ⟨f, ?_, ?_⟩
    · simpa only [fragmentsFrom, ChatToClaude.toolLoop, append_nil] using hassign
    · simpa only [fragmentsFrom, ChatToClaude.toolLoop, keys, map_nil, append_nil] using h
  | cons call rest ih =>
    obtain ⟨hnonneg, hold⟩ := hkeys (call.offset i) mem_cons_self
    have hnew : ∀ k ∈ keys fragments, f k = base + call.offset i → k = call.offset i := by
      intro k hk heq
      by_cases hrun : k ∈ run
      · have := (h.inside k hk hrun).1
        omega
      · have := h.before k hk hrun
        omega
    have hevents : ∀ j, carried (.json j) (toolEvents (base + call.offset i) call (U := U)) =
        if j = base + call.offset i then call.arguments else [] := by
      intro j
      simp only [carried_toolEvents, Channel.json.injEq]
    have hone := hassign.fragment (fun hk => (h.inside _ hk (hold hk)).1) hnew hevents
    have hplaced := h.fragment (call.offset i)
    have hsnoc : keys fragments ++ [call.offset i] =
        keys (fragments ++ [(call.offset i, call.arguments)]) := by
      simp [keys]
    rw [hsnoc] at hplaced
    obtain ⟨f', hassign', hplaced'⟩ := ih hplaced hone fun k hk => by
      refine ⟨(hkeys k (mem_cons_of_mem _ hk)).1, fun hmem => ?_⟩
      rw [← hsnoc, mem_append] at hmem
      rw [mem_append]
      exact hmem.imp_left (hkeys k (mem_cons_of_mem _ hk)).2
    refine ⟨f', ?_, ?_⟩
    · simpa only [fragmentsFrom, ChatToClaude.toolLoop, append_assoc, singleton_append]
        using hassign'
    · simpa only [fragmentsFrom, ChatToClaude.toolLoop, append_assoc, singleton_append,
        keys, map_cons] using hplaced'

end Assignment

/-! ## The state -/

theorem stopOpenBlocksAndAdvance_spec (s : State) :
    (stopOpenBlocksAndAdvance s (U := U)).1.lastMessagesType = .none ∧
      (stopOpenBlocksAndAdvance s (U := U)).1.index = s.nextIndex ∧
      (stopOpenBlocksAndAdvance s (U := U)).1.done = s.done := by
  unfold stopOpenBlocksAndAdvance State.nextIndex
  cases htype : s.lastMessagesType <;> simp [htype]

theorem enterTools_done (s : State) : (enterTools s (U := U)).1.done = s.done := by
  unfold enterTools
  split_ifs
  · exact (stopOpenBlocksAndAdvance_spec s).2.2
  · rfl

theorem laterOutput_spec (s : State) (output : Output) (text : Text) :
    (laterOutput s output text (U := U)).1.lastMessagesType = output.messagesType ∧
      s.nextIndex ≤ (laterOutput s output text (U := U)).1.nextIndex ∧
      (laterOutput s output text (U := U)).1.done = s.done := by
  unfold laterOutput
  split_ifs with htype
  · obtain ⟨-, hindex, hdone⟩ := stopOpenBlocksAndAdvance_spec (U := U) s
    refine ⟨rfl, ?_, hdone⟩
    have hnext := Output.nextIndex (s := { (stopOpenBlocksAndAdvance s (U := U)).1 with
      lastMessagesType := output.messagesType }) rfl
    dsimp only at hnext ⊢
    omega
  · exact ⟨not_not.1 htype, Int.le_refl _, rfl⟩

/-- Where the blocks of the tool calls are, by the numbers of the state. -/
structure Located (s : State) (run : List ℤ) (f : ℤ → ℤ) (seen : List ℤ) : Prop where
  below : ∀ k ∈ seen, f k < s.nextIndex
  tools : s.lastMessagesType = .tools →
    Placed s.toolCallBaseIndex s.toolCallMaxIndexOffset run f seen
  empty : s.lastMessagesType ≠ .tools → run = []

/-- The message is open, and its events carry the given output. -/
def Kept (s : State) (run : List ℤ) (texts : Output → Text) (fragments : List (ℤ × Text))
    (trace : List (Event U)) : Prop :=
  s.done = false ∧ (∀ output, carried (.output output) trace = texts output) ∧
    ∃ f, Assignment f fragments trace ∧ Located s run f (keys fragments)

section Kept

variable {s : State} {run : List ℤ} {texts : Output → Text} {fragments : List (ℤ × Text)}
  {trace : List (Event U)}

theorem Kept.delivered (h : Kept s run texts fragments trace) : Delivered texts fragments trace :=
  ⟨h.2.1, h.2.2.imp fun _ hf => hf.1⟩

/-- Events that carry nothing. -/
theorem Delivered.quiet (h : Delivered texts fragments trace) {events : List (Event U)}
    (hquiet : ∀ channel, carried channel events = []) :
    Delivered texts fragments (trace ++ events) := by
  obtain ⟨htexts, f, hassign⟩ := h
  refine ⟨fun output => ?_, f, hassign.quiet _ fun i => hquiet _⟩
  rw [carried_append, hquiet, append_nil, htexts]

theorem Kept.laterOutput (h : Kept s run texts fragments trace) (output : Output) (text : Text) :
    Kept (laterOutput s output text (U := U)).1 []
      (fun o => texts o ++ if o = output then text else []) fragments
      (trace ++ (ChatToClaude.laterOutput s output text).2) := by
  obtain ⟨hdone, htexts, f, hassign, hlocated⟩ := h
  obtain ⟨hlast, hnext, hdone'⟩ := laterOutput_spec (U := U) s output text
  have hne : (ChatToClaude.laterOutput s output text (U := U)).1.lastMessagesType ≠ .tools := by
    rw [hlast]
    cases output <;> decide
  refine ⟨hdone'.trans hdone, fun o => ?_, f, hassign.quiet _ fun i => ?_, ?_⟩
  · simp only [carried_append, carried_laterOutput, htexts, Channel.output.injEq]
  · simp only [carried_laterOutput, reduceCtorEq, if_false]
  · refine ⟨fun k hk => ?_, fun heq => absurd heq hne, fun _ => rfl⟩
    have hbelow := hlocated.below k hk
    omega

theorem Located.enterTools {f : ℤ → ℤ} {seen : List ℤ} (h : Located s run f seen) :
    Placed (enterTools s (U := U)).1.toolCallBaseIndex
      (ChatToClaude.enterTools s (U := U)).1.toolCallMaxIndexOffset run f seen := by
  unfold ChatToClaude.enterTools
  split_ifs with htype
  · obtain ⟨-, hindex, -⟩ := stopOpenBlocksAndAdvance_spec (U := U) s
    rw [h.empty htype]
    refine ⟨Int.le_refl 0, fun k _ hrun => absurd hrun not_mem_nil, fun k hk _ => ?_⟩
    dsimp only
    rw [hindex]
    exact h.below k hk
  · exact h.tools (not_not.1 htype)

theorem Kept.laterTools (h : Kept s run texts fragments trace) {calls : List ToolCall}
    (hkeys : ∀ k ∈ keys (fragmentsFrom 0 calls), 0 ≤ k ∧ (k ∈ keys fragments → k ∈ run)) :
    Kept (laterTools s calls (U := U)).1 (run ++ keys (fragmentsFrom 0 calls)) texts
      (fragments ++ fragmentsFrom 0 calls) (trace ++ (ChatToClaude.laterTools s calls).2) := by
  obtain ⟨hdone, htexts, f, hassign, hlocated⟩ := h
  obtain ⟨f', hassign', hplaced⟩ := (hlocated.enterTools (U := U)).toolLoop
    (hassign.quiet (ChatToClaude.enterTools s).2 fun i => carried_enterTools _ s) hkeys
  unfold ChatToClaude.laterTools
  rw [append_assoc] at hassign'
  refine ⟨(enterTools_done s).trans hdone, fun output => ?_, f', hassign', ?_⟩
  · simp only [carried_append, carried_enterTools, carried_toolLoop, htexts, append_nil]
  refine ⟨fun k hk => ?_, fun _ => hplaced, fun hne => absurd rfl hne⟩
  have hnonneg := hplaced.nonneg
  rw [State.nextIndex]
  dsimp only
  by_cases hrun : k ∈ run ++ keys (fragmentsFrom 0 calls)
  · have := hplaced.inside k hk hrun
    omega
  · have := hplaced.before k hk hrun
    omega

/-! ## Whole streams -/

/-- The delta carries neither text nor reasoning. -/
def NoText (delta : Delta) : Prop :=
  delta.getContentString = [] ∧ delta.getReasoningContent = []

variable {delta : Delta}

theorem NoText.of (h : NoText delta) (output : Output) : output.of delta = [] := by
  cases output with
  | text => exact h.1
  | thinking => exact h.2

/-- The delta carries no output. -/
def Quiet (delta : Delta) : Prop := NoText delta ∧ delta.toolCalls = []

/-- The delta carries one kind of output at most. -/
def OneKind (delta : Delta) : Prop :=
  (delta.toolCalls ≠ [] → NoText delta) ∧
    (delta.getReasoningContent ≠ [] → delta.getContentString = [])

/-- The indexes of the run of tool calls that is open after the output of a chunk. -/
def runKeys (run : List ℤ) (delta : Delta) : List ℤ :=
  if delta.toolCalls ≠ [] then run ++ keys (fragmentsFrom 0 delta.toolCalls)
  else textsRun [] run delta

/-- The output of a later chunk can be carried: it is of one kind, none beside a finish reason
without usage, and a tool call that has been interrupted by a text is not continued. -/
def Carriable (seen run : List ℤ) (input : Input U) : Prop :=
  match input.chunk.choices with
  | [] => True
  | choice :: _ =>
    if doneChunk choice && input.chunk.usage.isNone then Quiet choice.delta
    else OneKind choice.delta ∧
      ∀ k ∈ keys (fragmentsFrom 0 choice.delta.toolCalls), 0 ≤ k ∧ (k ∈ seen → k ∈ run)

/-- The output of all later chunks can be carried, and none follows the end of the message. -/
def CarriableFrom : List ℤ → List ℤ → List (Input U) → Prop
  | _, _, [] => True
  | seen, run, input :: rest =>
    Carriable seen run input ∧
      if input.ends then ∀ later ∈ rest, ∀ choice ∈ later.chunk.choices, Quiet choice.delta
      else CarriableFrom (seen ++ keys (fragmentsFrom 0 input.delta.toolCalls))
        (runKeys run input.delta) rest

theorem Kept.laterTexts (h : Kept s run texts fragments trace)
    (hkind : delta.getReasoningContent ≠ [] → delta.getContentString = []) :
    Kept (laterTexts s delta (U := U)).1 (textsRun [] run delta)
      (fun output => texts output ++ output.of delta) fragments
      (trace ++ (ChatToClaude.laterTexts s delta).2) := by
  unfold ChatToClaude.laterTexts textsRun
  split_ifs with hreasoning hcontent
  · convert h.laterOutput .thinking delta.getReasoningContent using 3 with output
    cases output with
    | text => exact hkind hreasoning
    | thinking => rfl
  · convert h.laterOutput .text delta.getContentString using 3 with output
    cases output with
    | text => rfl
    | thinking => exact not_not.1 hreasoning
  · rw [append_nil]
    convert h using 1
    funext output
    cases output with
    | text => simp only [Output.of, not_not.1 hcontent, append_nil]
    | thinking => simp only [Output.of, not_not.1 hreasoning, append_nil]

/-- The output of a later chunk. -/
theorem Kept.laterContent (h : Kept s run texts fragments trace)
    (hkind : OneKind delta) (hkeys : ∀ k ∈ keys (fragmentsFrom 0 delta.toolCalls),
      0 ≤ k ∧ (k ∈ keys fragments → k ∈ run)) :
    Kept (laterContent s delta (U := U)).1 (runKeys run delta)
      (fun output => texts output ++ output.of delta)
      (fragments ++ fragmentsFrom 0 delta.toolCalls)
      (trace ++ (ChatToClaude.laterContent s delta).2) := by
  unfold ChatToClaude.laterContent runKeys
  split_ifs with hcalls
  · have htexts : (fun output : Output => texts output ++ output.of delta) = texts := by
      funext output
      rw [(hkind.1 hcalls).of output, append_nil]
    rw [htexts]
    exact h.laterTools hkeys
  · rw [not_not.1 hcalls, fragmentsFrom, append_nil]
    exact h.laterTexts hkind.2

theorem outputOf_cons (output : Output) (input : Input U) (rest : List (Input U)) :
    outputOf output (input :: rest) = outputOf output [input] ++ outputOf output rest := by
  simp [outputOf]

theorem fragmentsIn_cons (input : Input U) (rest : List (Input U)) :
    fragmentsIn (input :: rest) = fragmentsIn [input] ++ fragmentsIn rest := by
  simp [fragmentsIn]

variable {input : Input U}

theorem no_choice (h : input.chunk.choices = []) :
    (∀ output, outputOf output [input] = []) ∧ fragmentsIn [input] = [] := by
  simp [outputOf, fragmentsIn, h]

theorem one_choice {choice : Choice} {rest : List Choice}
    (h : input.chunk.choices = choice :: rest) (hone : input.chunk.choices.length ≤ 1) :
    (∀ output, outputOf output [input] = output.of choice.delta) ∧
      fragmentsIn [input] = fragmentsFrom 0 choice.delta.toolCalls := by
  have hrest : rest = [] := by
    rw [h, length_cons] at hone
    exact length_eq_zero_iff.1 (by omega)
  simp [outputOf, fragmentsIn, h, hrest]

theorem quiet_input (h : ∀ choice ∈ input.chunk.choices, Quiet choice.delta) :
    (∀ output, outputOf output [input] = []) ∧ fragmentsIn [input] = [] := by
  constructor
  · intro output
    simp only [outputOf, flatMap_cons, flatMap_nil, append_nil, flatMap_eq_nil_iff]
    exact fun choice hmem => (h choice hmem).1.of output
  · simp only [fragmentsIn, flatMap_cons, flatMap_nil, append_nil, flatMap_eq_nil_iff]
    intro choice hmem
    rw [(h choice hmem).2]
    rfl

theorem quiet_inputs {inputs : List (Input U)}
    (h : ∀ input ∈ inputs, ∀ choice ∈ input.chunk.choices, Quiet choice.delta) :
    (∀ output, outputOf output inputs = []) ∧ fragmentsIn inputs = [] := by
  induction inputs with
  | nil => exact ⟨fun _ => rfl, rfl⟩
  | cons input rest ih =>
    obtain ⟨htext, hfragments⟩ := quiet_input (h input mem_cons_self)
    obtain ⟨htexts, hrest⟩ := ih fun later hmem => h later (mem_cons_of_mem input hmem)
    refine ⟨fun output => ?_, ?_⟩
    · rw [outputOf_cons, htext, htexts]
      rfl
    · rw [fragmentsIn_cons, hfragments, hrest]
      rfl

section

variable (h : Kept s run texts fragments trace)

include h

/-- The finish reason of the state is no part of what is carried. -/
theorem Kept.setFinishReason (reason : String) :
    Kept { s with finishReason := reason } run texts fragments trace := by
  obtain ⟨hopen, houtput, f, hassign, hlocated⟩ := h
  exact ⟨hopen, houtput, f, hassign, hlocated.below, hlocated.tools, hlocated.empty⟩

theorem Kept.laterChunk (hone : input.chunk.choices.length ≤ 1)
    (hcar : Carriable (keys fragments) run input) :
    fragmentsIn [input] = fragmentsFrom 0 input.delta.toolCalls ∧
    ((input.ends = false ∧ Kept (laterChunk s input).1 (runKeys run input.delta)
        (fun output => texts output ++ outputOf output [input])
        (fragments ++ fragmentsIn [input]) (trace ++ (ChatToClaude.laterChunk s input).2)) ∨
      (input.ends = true ∧ (ChatToClaude.laterChunk s input).1.done = true ∧
        Delivered (fun output => texts output ++ outputOf output [input])
          (fragments ++ fragmentsIn [input]) (trace ++ (ChatToClaude.laterChunk s input).2))) := by
  unfold Carriable at hcar
  unfold ChatToClaude.laterChunk Input.ends Input.delta
  cases hchoices : input.chunk.choices with
  | nil =>
    obtain ⟨htext, hfragments⟩ := no_choice hchoices
    simp only [htext, hfragments, append_nil]
    refine ⟨rfl, ?_⟩
    cases husage : input.chunk.usage.or input.usage with
    | none =>
      rw [append_nil]
      exact .inl ⟨rfl, h⟩
    | some usage =>
      exact .inr ⟨rfl, rfl, h.delivered.quiet fun channel => carried_endMessage ..⟩
  | cons choice rest =>
    obtain ⟨htext, hfragments⟩ := one_choice hchoices hone
    simp only [hchoices] at hcar
    simp only [htext, hfragments]
    by_cases hdefer : (doneChunk choice && input.chunk.usage.isNone) = true
    · -- nothing of the chunk is looked at, and there is nothing to look at
      rw [if_pos hdefer] at hcar ⊢
      obtain ⟨hdone, hnone⟩ := Bool.and_eq_true_iff.1 hdefer
      have htexts : (fun output : Output => texts output ++ output.of choice.delta) = texts := by
        funext output
        rw [hcar.1.of, append_nil]
      simp only [hcar.2, htexts, hdone, Option.isNone_iff_eq_none.1 hnone, if_true,
        append_nil, fragmentsFrom]
      exact ⟨trivial, .inl ⟨rfl, h.setFinishReason _⟩⟩
    · rw [if_neg hdefer] at hcar ⊢
      refine ⟨rfl, ?_⟩
      cases hdone : doneChunk choice with
      | false =>
        exact .inl ⟨rfl, h.laterContent hcar.1 hcar.2⟩
      | true =>
        cases husage : input.chunk.usage with
        | none => simp [hdone, husage] at hdefer
        | some usage =>
          have hcontent := (h.setFinishReason (choice.finishReason.getD "")).laterContent
            hcar.1 hcar.2
          simp only [if_true]
          rw [← append_assoc]
          exact .inr ⟨rfl, rfl, hcontent.delivered.quiet fun channel => carried_endMessage ..⟩

/-- The later chunks. -/
theorem Kept.convertFrom {count : ℕ} (hcount : 1 < count) {inputs : List (Input U)}
    (hone : ∀ input ∈ inputs, input.chunk.choices.length ≤ 1)
    (hcar : CarriableFrom (keys fragments) run inputs) :
    Delivered (fun output => texts output ++ outputOf output inputs)
      (fragments ++ fragmentsIn inputs) (trace ++ (convertFrom count s inputs).2) := by
  induction inputs generalizing s run texts fragments trace count with
  | nil =>
    simpa only [ChatToClaude.convertFrom, outputOf, fragmentsIn, flatMap_nil,
      append_nil] using h.delivered
  | cons input rest ih =>
    obtain ⟨hinput, hrest⟩ := hcar
    obtain ⟨hfragments, hchunk⟩ := h.laterChunk (hone input mem_cons_self) hinput
    simp only [outputOf_cons _ input rest, fragmentsIn_cons input rest, ← append_assoc,
      ChatToClaude.convertFrom, streamResponseOpenAI2Claude, h.1, Bool.false_eq_true, if_false,
      if_neg hcount.ne']
    rcases hchunk with ⟨hends, hkept⟩ | ⟨hends, hdone, hdelivered⟩
    · rw [hends, if_neg Bool.false_ne_true] at hrest
      refine ih hkept (by omega) (fun later hmem => hone later (mem_cons_of_mem _ hmem)) ?_
      rw [hfragments, keys, map_append]
      exact hrest
    · rw [hends, if_pos rfl] at hrest
      obtain ⟨hquiet, hnone⟩ := quiet_inputs hrest
      simpa only [convertFrom_done hdone, hquiet, hnone, append_nil] using hdelivered

end

end Kept

/-- The output of a first chunk can be carried: no text beside a reasoning, and no tool call but
the one with the index 0. -/
def CarriableFirst (input : Input U) : Prop :=
  match input.chunk.choices with
  | [] => True
  | choice :: _ =>
    (choice.delta.getReasoningContent ≠ [] → choice.delta.getContentString = []) ∧
      choice.delta.toolCalls.length ≤ 1 ∧
      ∀ k ∈ keys (fragmentsFrom 0 choice.delta.toolCalls), k = 0

/-- The indexes of the run of tool calls that is open after a first chunk. -/
def firstKeys (input : Input U) : List ℤ :=
  match input.chunk.choices with
  | [] => []
  | choice :: _ => textsRun [] (keys (fragmentsFrom 0 choice.delta.toolCalls)) choice.delta

/-- The output of all chunks can be carried. -/
def CarriableStream : List (Input U) → Prop
  | [] => True
  | first :: rest =>
    CarriableFirst first ∧
      if first.endsFirst then ∀ later ∈ rest, ∀ choice ∈ later.chunk.choices, Quiet choice.delta
      else CarriableFrom (keys (fragmentsIn [first])) (firstKeys first) rest

section First

variable {trace : List (Event U)} {texts : Output → Text}

theorem carried_firstTools (channel : Channel) (s : State) (call : ToolCall)
    (rest : List ToolCall) : carried channel (firstTools s (call :: rest) (U := U)).2 =
      if channel = .json 0 then call.arguments else [] := by
  have hevents := carried_toolEvents (U := U) channel 0 { call with name := "-" }
  exact hevents

/-- A message that has just been opened. -/
theorem kept_init (id model : String) (tokens : ℤ) :
    Kept {} [] (fun _ => []) [] [(.messageStart id model tokens : Event U)] := by
  refine ⟨rfl, fun _ => rfl, fun _ => 0, ⟨?_, ?_, fun _ _ => rfl⟩, ?_, ?_, fun _ => rfl⟩
  · intro k hk
    cases hk
  · intro k hk
    cases hk
  · intro k hk
    cases hk
  · intro htype
    cases htype

theorem Kept.firstTools (h : Kept {} [] texts [] trace) {calls : List ToolCall}
    (hlength : calls.length ≤ 1) (hkeys : ∀ k ∈ keys (fragmentsFrom 0 calls), k = 0) :
    Kept (firstTools {} calls (U := U)).1 (keys (fragmentsFrom 0 calls)) texts
      (fragmentsFrom 0 calls) (trace ++ (ChatToClaude.firstTools {} calls).2) := by
  cases calls with
  | nil =>
    rw [ChatToClaude.firstTools, append_nil]
    exact h
  | cons call rest =>
    obtain rfl : rest = [] := length_eq_zero_iff.1 (by simpa using hlength)
    have hoffset : call.offset 0 = 0 := hkeys _ mem_cons_self
    obtain ⟨hdone, htexts, f, hassign, -⟩ := h
    have hevents : ∀ i, carried (.json i) (ChatToClaude.firstTools {} [call] (U := U)).2 =
        if i = 0 then call.arguments else [] := by
      intro i
      rw [carried_firstTools]
      simp only [Channel.json.injEq]
    have hone := hassign.fragment (k := 0) (fun hk => absurd hk not_mem_nil)
      (fun k hk => absurd hk not_mem_nil) hevents
    have hplaced : Placed 0 0 [] f [] :=
      ⟨Int.le_refl 0, fun k hk => absurd hk not_mem_nil, fun k hk => absurd hk not_mem_nil⟩
    have hplaced' := hplaced.fragment 0
    rw [fragmentsFrom, hoffset]
    refine ⟨hdone, fun output => ?_, _, hone, ?_, fun _ => hplaced', fun hne => absurd rfl hne⟩
    · rw [carried_append, carried_firstTools, htexts]
      exact append_nil _
    intro k hk
    have hk0 : k = 0 := mem_singleton.1 hk
    rw [hk0, update_self]
    exact Int.zero_lt_one

theorem Kept.firstFinish {s : State} {run : List ℤ} {fragments : List (ℤ × Text)}
    (h : Kept s run texts fragments trace) (choice : Choice) (usage : Option U) :
    ((doneChunk choice && usage.isSome) = false ∧ Kept (firstFinish s choice usage).1 run texts
      fragments (trace ++ (ChatToClaude.firstFinish s choice usage).2)) ∨
    ((doneChunk choice && usage.isSome) = true ∧
      (ChatToClaude.firstFinish s choice usage).1.done = true ∧
      Delivered texts fragments (trace ++ (ChatToClaude.firstFinish s choice usage).2)) := by
  unfold ChatToClaude.firstFinish
  cases hdone : doneChunk choice with
  | false =>
    rw [if_neg Bool.false_ne_true, append_nil]
    exact .inl ⟨rfl, h⟩
  | true =>
    rw [if_pos rfl]
    cases usage with
    | none =>
      rw [append_nil]
      exact .inl ⟨rfl, h.setFinishReason _⟩
    | some usage =>
      exact .inr ⟨rfl, rfl, h.delivered.quiet fun channel => carried_endMessage ..⟩

theorem kept_firstChunk {input : Input U} (hone : input.chunk.choices.length ≤ 1)
    (hcar : CarriableFirst input) :
    (input.endsFirst = false ∧ Kept (firstChunk {} input).1 (firstKeys input)
      (fun output => outputOf output [input]) (fragmentsIn [input]) (firstChunk {} input).2) ∨
    (input.endsFirst = true ∧ (firstChunk {} input).1.done = true ∧
      Delivered (fun output => outputOf output [input]) (fragmentsIn [input])
        (firstChunk {} input).2) := by
  have hinit := kept_init (U := U) input.chunk.id input.chunk.model input.estimatePromptTokens
  unfold CarriableFirst at hcar
  unfold firstChunk firstKeys Input.endsFirst
  cases hchoices : input.chunk.choices with
  | nil =>
    obtain ⟨htext, hfragments⟩ := no_choice hchoices
    simp only [htext, hfragments]
    exact .inl ⟨trivial, hinit⟩
  | cons choice rest =>
    obtain ⟨htext, hfragments⟩ := one_choice hchoices hone
    simp only [hchoices] at hcar
    obtain ⟨hkind, hlength, hkeys⟩ := hcar
    have htexts := (hinit.firstTools hlength hkeys).laterTexts hkind
    rw [← firstTexts_eq (firstTools_last _)] at htexts
    simp only [htext, hfragments]
    have hfinish := htexts.firstFinish choice (input.chunk.usage.or input.usage)
    simpa only [append_assoc, cons_append, nil_append] using hfinish

end First

theorem carried_finalize (s : State) (usage : Option U) :
    carried channel (finalizeStreamResponseOpenAI2Claude s usage).2 = [] := by
  unfold finalizeStreamResponseOpenAI2Claude
  split_ifs
  · rfl
  · exact carried_endMessage ..

/-- The deltas of a stream carry the output of its chunks when every chunk carries one kind of
output, none beside a finish reason whose usage is still to come and none after the end, and
the tool calls of a run are not interrupted by a text. -/
theorem output_delivered (inputs : List (Input U)) (usage : Option U)
    (hone : ∀ input ∈ inputs, input.chunk.choices.length ≤ 1) (hcar : CarriableStream inputs) :
    Delivered (fun output => outputOf output inputs) (fragmentsIn inputs)
      (convert inputs usage) := by
  refine Delivered.quiet ?_ fun channel => carried_finalize channel _ usage
  cases inputs with
  | nil =>
    refine ⟨fun _ => rfl, fun _ => 0, ?_, ?_, fun _ _ => rfl⟩
    · intro k hk
      cases hk
    · intro k hk
      cases hk
  | cons first rest =>
    obtain ⟨hfirst, hrest⟩ := hcar
    have hcalls : (convertFrom 1 {} (first :: rest)).2 =
        (firstChunk {} first).2 ++ (convertFrom 2 (firstChunk {} first).1 rest).2 := rfl
    have hlater : ∀ input ∈ rest, input.chunk.choices.length ≤ 1 := fun input hmem =>
      hone input (mem_cons_of_mem first hmem)
    rw [hcalls]
    simp only [outputOf_cons _ first rest, fragmentsIn_cons first rest]
    rcases kept_firstChunk (hone first mem_cons_self) hfirst with
      ⟨hends, hkept⟩ | ⟨hends, hdone, hdelivered⟩
    · rw [hends, if_neg Bool.false_ne_true] at hrest
      exact hkept.convertFrom (by decide) hlater hrest
    · rw [hends, if_pos rfl] at hrest
      obtain ⟨hquiet, hnone⟩ := quiet_inputs hrest
      simpa only [convertFrom_done hdone, hquiet, hnone, append_nil] using hdelivered

theorem output_delivered_five :
    let inputs : List (Input Unit) := [chunkOf { reasoning := some ['r'] },
      chunkOf { content := some ['a'] },
      chunkOf { toolCalls := [⟨some 0, "t0", "f", ['0']⟩, ⟨some 1, "t1", "g", []⟩] },
      chunkOf { toolCalls := [⟨some 1, "", "", ['1']⟩] },
      { chunk := { id := "c", model := "m", choices := [], usage := some () } }]
    Delivered (fun output => outputOf output inputs) (fragmentsIn inputs) (convert inputs none) :=
  output_delivered _ _ (by decide) (by
    simp [CarriableStream, CarriableFirst, CarriableFrom, Carriable, chunkOf, Input.endsFirst,
      Input.ends, Input.delta, doneChunk, OneKind, NoText, Delta.getContentString,
      Delta.getReasoningContent, firstKeys, runKeys, textsRun, keys, fragmentsFrom, fragmentsIn,
      ToolCall.offset])

/-! ## Where output is lost -/

/-- A text whose last piece comes with the finish reason, without usage. -/
def finishedText : List (Input Unit) :=
  [chunkOf { content := some ['a'] },
    { chunk := { id := "c", model := "m", choices :=
      [{ delta := { content := some ['b'] }, finishReason := some "stop" }] } }]

/-- The piece beside the finish reason is lost. -/
theorem deferred_output_lost :
    (∀ input ∈ finishedText, input.chunk.choices.length ≤ 1) ∧
      outputOf .text finishedText = ['a', 'b'] ∧
      carried (.output .text) (convert finishedText none) = ['a'] ∧
      ¬ Delivered (fun output => outputOf output finishedText) (fragmentsIn finishedText)
        (convert finishedText none) := by
  refine ⟨by decide, by decide, by decide, fun h => ?_⟩
  exact absurd (h.1 .text) (by decide)

end OmniRouters.Convert.ChatToClaude
