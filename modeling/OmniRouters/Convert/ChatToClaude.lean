import Mathlib.Data.List.Nodup
import OmniRouters.Convert.Claude

/-!
# From Chat Completions chunks to Anthropic events

Model of `StreamResponseOpenAI2Claude` and `FinalizeStreamResponseOpenAI2Claude`
(`relaykit/relayconvert/internal/oai_chat/to_claude_messages_resp.go`). What is open is kept as the
kind of the last output, the index of the last block and, for tool calls, the index of the first
block of a run of tool calls and the largest offset in it. The host sets the usage of the
converter state between the calls, so it is a part of the input here.

* `Sound.stopOpenBlocksAndAdvance`, `Sound.laterOutput`, `Sound.laterTools`: the parts of a call
  keep the numbers of the state in step with the blocks that are open.
* `stream_valid`: the stream is valid when each run of tool calls numbers its calls `0, 1, …` in
  the order in which they start.
* `stream_skips_block`: a tool call with the index 1 after a text leaves a block out.
-/

namespace OmniRouters.Convert.ChatToClaude

open Lib Convert.Claude List Function

variable {U : Type}

/-! ## State -/

/-- `LastMessagesType` (convmeta/meta.go:98-101). -/
inductive LastMessagesType
  | none
  | text
  | tools
  | thinking
deriving DecidableEq

/-- `ClaudeConvertInfo` (convmeta/meta.go:64-73) without its usage. -/
structure State where
  lastMessagesType : LastMessagesType := .none
  index : ℤ := 0
  finishReason : String := ""
  done : Bool := false
  toolCallBaseIndex : ℤ := 0
  toolCallMaxIndexOffset : ℤ := 0
deriving DecidableEq

/-- The input of a call: the chunk, the usage that the state holds and the estimate of the prompt
tokens. -/
structure Input (U : Type) where
  chunk : Chunk U
  usage : Option U := none
  estimatePromptTokens : ℤ := 0
deriving DecidableEq

/-- The two kinds of streamed text and what a block of each consists of. -/
inductive Output
  | text
  | thinking
deriving DecidableEq

def Output.messagesType : Output → LastMessagesType
  | .text => .text
  | .thinking => .thinking

def Output.block : Output → Block
  | .text => .text
  | .thinking => .thinking

def Output.delta : Output → Text → BlockDelta
  | .text => .text
  | .thinking => .thinking

/-! ## Blocks -/

/-- The indexes of the open blocks. -/
def State.openIndexes (s : State) : List ℤ :=
  match s.lastMessagesType with
  | .text | .thinking => [s.index]
  | .tools => (List.range (s.toolCallMaxIndexOffset + 1).toNat).map
      fun (offset : ℕ) => s.toolCallBaseIndex + offset
  | .none => []

/-- `stopOpenBlocks` (to_claude_messages_resp.go:21-37). -/
def stopOpenBlocks (s : State) : List (Event U) := s.openIndexes.map .contentBlockStop

/-- `stopOpenBlocksAndAdvance` (lines 119-133). -/
def stopOpenBlocksAndAdvance (s : State) : State × List (Event U) :=
  match s.lastMessagesType with
  | .none => (s, [])
  | .tools =>
    ({ s with
        index := s.toolCallBaseIndex + s.toolCallMaxIndexOffset + 1
        toolCallBaseIndex := 0
        toolCallMaxIndexOffset := 0
        lastMessagesType := .none }, stopOpenBlocks s)
  | _ => ({ s with index := s.index + 1, lastMessagesType := .none }, stopOpenBlocks s)

/-- `OpenAIFinishReasonToClaudeStopReason` (`reasonmap`). -/
def stopReasonOpenAI2Claude (finishReason : String) : String :=
  match finishReason.toLower with
  | "stop" => "end_turn"
  | "stop_sequence" => "stop_sequence"
  | "length" => "max_tokens"
  | "max_tokens" => "max_tokens"
  | "content_filter" => "refusal"
  | "tool_calls" => "tool_use"
  | _ => finishReason

/-- The end of a message: the open blocks are stopped and the message is closed. -/
def endMessage (s : State) (stopReason : String) (usage : Option U) : State × List (Event U) :=
  ({ s with done := true }, stopOpenBlocks s ++ [.messageDelta stopReason usage, .messageStop])

/-- The stop reason of a message that may end without a finish reason. -/
def stopReasonOrEndTurn (s : State) : String :=
  if stopReasonOpenAI2Claude s.finishReason = "" then "end_turn"
  else stopReasonOpenAI2Claude s.finishReason

/-! ## The first chunk -/

/-- The tool call of a first chunk (lines 153-190): the first one only, as the block `0`. -/
def firstTools (s : State) (toolCalls : List ToolCall) : State × List (Event U) :=
  match toolCalls with
  | [] => (s, [])
  | toolCall :: _ =>
    ({ s with lastMessagesType := .tools, toolCallBaseIndex := 0, toolCallMaxIndexOffset := 0 },
      .contentBlockStart 0 (.toolUse toolCall.id toolCall.name) ::
        if toolCall.arguments ≠ [] then [.contentBlockDelta 0 (.inputJson toolCall.arguments)]
        else [])

/-- A text or a reasoning in a first chunk (lines 200-221 and 223-244): the block is started in
any case. -/
def firstOutput (s : State) (output : Output) (text : Text) : State × List (Event U) :=
  let (s, stops) := if s.lastMessagesType ≠ output.messagesType then stopOpenBlocksAndAdvance s
    else (s, [])
  ({ s with lastMessagesType := output.messagesType },
    stops ++ [.contentBlockStart s.index output.block,
      .contentBlockDelta s.index (output.delta text)])

/-- The reasoning of a first chunk, or its text if there is none (lines 195-246). -/
def firstTexts (s : State) (delta : Delta) : State × List (Event U) :=
  if delta.getReasoningContent ≠ [] then firstOutput s .thinking delta.getReasoningContent
  else if delta.getContentString ≠ [] then firstOutput s .text delta.getContentString
  else (s, [])

/-- `doneChunk` (line 301): the choice carries a finish reason. -/
def doneChunk (choice : Choice) : Bool := choice.finishReason.getD "" ≠ ""

/-- The finish reason of a first chunk (lines 249-270). -/
def firstFinish (s : State) (choice : Choice) (usage : Option U) : State × List (Event U) :=
  if doneChunk choice then
    let s := { s with finishReason := choice.finishReason.getD "" }
    match usage with
    | none => (s, [])
    | some usage => endMessage s (stopReasonOpenAI2Claude s.finishReason) (some usage)
  else (s, [])

/-- The branch of the first chunk (lines 134-272). -/
def firstChunk (s : State) (input : Input U) : State × List (Event U) :=
  let start := .messageStart input.chunk.id input.chunk.model input.estimatePromptTokens
  match input.chunk.choices with
  | [] => (s, [start])
  | choice :: _ =>
    let (s, tools) := firstTools s choice.delta.toolCalls
    let (s, texts) := firstTexts s choice.delta
    let (s, finish) := firstFinish s choice (input.chunk.usage.or input.usage)
    (s, start :: (tools ++ texts ++ finish))

/-! ## The other chunks -/

/-- The events of one fragment of a tool call (lines 339-362). -/
def toolEvents (index : ℤ) (toolCall : ToolCall) : List (Event U) :=
  (if toolCall.name ≠ "" then
    [.contentBlockStart index (.toolUse toolCall.id toolCall.name)] else []) ++
  if toolCall.arguments ≠ [] then [.contentBlockDelta index (.inputJson toolCall.arguments)]
  else []

/-- The loop over the fragments of a chunk (lines 327-363), from the position `i`. -/
def toolLoop (base : ℤ) : ℤ → ℕ → List ToolCall → ℤ × List (Event U)
  | maxOffset, _, [] => (maxOffset, [])
  | maxOffset, i, toolCall :: rest =>
    let offset := toolCall.offset i
    let maxOffset := if offset > maxOffset then offset else maxOffset
    let (last, events) := toolLoop base maxOffset (i + 1) rest
    (last, toolEvents (base + offset) toolCall ++ events)

/-- A run of tool calls is continued or begun (lines 318-323). -/
def enterTools (s : State) : State × List (Event U) :=
  if s.lastMessagesType ≠ .tools then
    let (s, stops) := stopOpenBlocksAndAdvance s
    ({ s with toolCallBaseIndex := s.index, toolCallMaxIndexOffset := 0 }, stops)
  else (s, [])

/-- The tool calls of a later chunk (lines 316-365). -/
def laterTools (s : State) (toolCalls : List ToolCall) : State × List (Event U) :=
  let (s, stops) := enterTools s
  let (maxOffset, events) := toolLoop s.toolCallBaseIndex s.toolCallMaxIndexOffset 0 toolCalls
  ({ s with
      lastMessagesType := .tools
      toolCallMaxIndexOffset := maxOffset
      index := s.toolCallBaseIndex + maxOffset }, stops ++ events)

/-- A text or a reasoning in a later chunk (lines 371-387 and 389-405), with its delta. -/
def laterOutput (s : State) (output : Output) (text : Text) : State × List (Event U) :=
  if s.lastMessagesType ≠ output.messagesType then
    let (s, stops) := stopOpenBlocksAndAdvance s
    ({ s with lastMessagesType := output.messagesType },
      stops ++ [.contentBlockStart s.index output.block,
        .contentBlockDelta s.index (output.delta text)])
  else (s, [.contentBlockDelta s.index (output.delta text)])

/-- The reasoning of a later chunk, or its text if there is none (lines 367-415). -/
def laterTexts (s : State) (delta : Delta) : State × List (Event U) :=
  if delta.getReasoningContent ≠ [] then laterOutput s .thinking delta.getReasoningContent
  else if delta.getContentString ≠ [] then laterOutput s .text delta.getContentString
  else (s, [])

/-- The output of a later chunk: its tool calls, or else its texts (lines 313-415). -/
def laterContent (s : State) (delta : Delta) : State × List (Event U) :=
  if delta.toolCalls ≠ [] then laterTools s delta.toolCalls else laterTexts s delta

/-- The branch of the later chunks (lines 274-440). A finish reason without usage in the same
chunk returns before the output is looked at. -/
def laterChunk (s : State) (input : Input U) : State × List (Event U) :=
  match input.chunk.choices with
  | [] =>
    match input.chunk.usage.or input.usage with
    | none => (s, [])
    | some usage => endMessage s (stopReasonOrEndTurn s) (some usage)
  | choice :: _ =>
    if doneChunk choice then
      let s := { s with finishReason := choice.finishReason.getD "" }
      match input.chunk.usage with
      | none => (s, [])
      | some usage =>
        let (s, content) := laterContent s choice.delta
        let (s, finish) := endMessage s (stopReasonOpenAI2Claude s.finishReason) (some usage)
        (s, content ++ finish)
    else laterContent s choice.delta

/-! ## Streams -/

/-- `StreamResponseOpenAI2Claude` (lines 94-441). -/
def streamResponseOpenAI2Claude (sendResponseCount : ℕ) (s : State) (input : Input U) :
    State × List (Event U) :=
  if s.done then (s, [])
  else if sendResponseCount = 1 then firstChunk s input
  else laterChunk s input

/-- `FinalizeStreamResponseOpenAI2Claude` (lines 443-469). -/
def finalizeStreamResponseOpenAI2Claude (s : State) (usage : Option U) : State × List (Event U) :=
  if s.done then (s, []) else endMessage s (stopReasonOrEndTurn s) usage

/-- The calls for a sequence of chunks, the first of them with the send count `count`. -/
def convertFrom : ℕ → State → List (Input U) → State × List (Event U)
  | _, s, [] => (s, [])
  | count, s, input :: rest =>
    let (s, events) := streamResponseOpenAI2Claude count s input
    let (s, others) := convertFrom (count + 1) s rest
    (s, events ++ others)

/-- The stream for a sequence of chunks, with its end. -/
def convert (inputs : List (Input U)) (usage : Option U) : List (Event U) :=
  let (s, events) := convertFrom 1 {} inputs
  events ++ (finalizeStreamResponseOpenAI2Claude s usage).2

/-! ## The open blocks -/

/-- The first index that no block has. -/
def State.nextIndex (s : State) : ℤ :=
  match s.lastMessagesType with
  | .none => s.index
  | .tools => s.toolCallBaseIndex + s.toolCallMaxIndexOffset + 1
  | _ => s.index + 1

/-- The block is of the kind of the last output. -/
def LastMessagesType.has : LastMessagesType → Block → Prop
  | .text, .text => True
  | .thinking, .thinking => True
  | .tools, .toolUse _ _ => True
  | _, _ => False

/-- The numbers of the state say which blocks there are and which of them are open. -/
structure Live (s : State) (n : ℕ) (status : ℤ → Status) : Prop where
  ongoing : s.done = false
  next : s.nextIndex = n
  offset : 0 ≤ s.toolCallMaxIndexOffset
  mem : ∀ i ∈ s.openIndexes, ∃ block text,
    status i = .opened block text ∧ s.lastMessagesType.has block
  only : ∀ i, (status i).isOpen = true → i ∈ s.openIndexes

/-- A message is open, and the state describes its blocks. -/
def Sound (s : State) (trace : List (Event U)) : Prop :=
  ∃ n status, Body trace n status ∧ Live s n status

theorem mem_openIndexes_tools {s : State} (h : s.lastMessagesType = .tools) {i : ℤ} :
    i ∈ s.openIndexes ↔ s.toolCallBaseIndex ≤ i ∧
      i ≤ s.toolCallBaseIndex + s.toolCallMaxIndexOffset := by
  simp only [State.openIndexes, h, mem_map, mem_range]
  constructor
  · rintro ⟨k, hk, rfl⟩
    omega
  · rintro ⟨hlow, hhigh⟩
    exact ⟨(i - s.toolCallBaseIndex).toNat, by omega, by omega⟩

theorem openIndexes_nodup (s : State) : s.openIndexes.Nodup := by
  unfold State.openIndexes
  split
  · exact nodup_singleton _
  · exact nodup_singleton _
  · refine List.Nodup.map (fun a b hab => ?_) nodup_range
    omega
  · exact nodup_nil

section Parts

variable {s : State} {trace : List (Event U)}

theorem Sound.stopped (h : Sound s trace) :
    ∃ n status, Body (trace ++ stopOpenBlocks s) n status ∧ s.nextIndex = n ∧
      ∀ i, (status i).isOpen = false := by
  obtain ⟨n, status, hbody, hlive⟩ := h
  refine ⟨n, _, hbody.stops (openIndexes_nodup s) fun i hi => ?_, hlive.next, fun i => ?_⟩
  · obtain ⟨block, text, hopen, -⟩ := hlive.mem i hi
    rw [hopen]
    rfl
  · split_ifs with hi
    · obtain ⟨block, text, hopen, -⟩ := hlive.mem i hi
      rw [hopen]
      rfl
    · rw [← Bool.not_eq_true]
      exact fun hopen => hi (hlive.only i hopen)

/-- The open blocks are stopped and the message is closed. -/
theorem Sound.endMessage (h : Sound s trace) (stopReason : String) (usage : Option U) :
    ∃ n, Valid (trace ++ (endMessage s stopReason usage).2) n := by
  obtain ⟨n, status, hbody, -, hclosed⟩ := h.stopped
  refine ⟨n, ?_⟩
  rw [ChatToClaude.endMessage, ← append_assoc]
  exact (hbody.finish hclosed stopReason usage).1

/-- The open blocks are stopped, and the index is the next one. -/
theorem Sound.stopOpenBlocksAndAdvance (h : Sound s trace) :
    Sound (stopOpenBlocksAndAdvance s (U := U)).1
        (trace ++ (ChatToClaude.stopOpenBlocksAndAdvance s).2) ∧
      (ChatToClaude.stopOpenBlocksAndAdvance s (U := U)).1.lastMessagesType = .none := by
  obtain ⟨n, status, hbody, hnext, hclosed⟩ := h.stopped
  have hnone : ∀ t : State, t.lastMessagesType = .none → t.done = false → t.index = n →
      0 ≤ t.toolCallMaxIndexOffset → Sound t (trace ++ stopOpenBlocks s) := by
    intro t htype hdone hindex hzero
    refine ⟨n, status, hbody, hdone, ?_, hzero, ?_, fun i hi => ?_⟩
    · rw [State.nextIndex, htype]
      exact hindex
    · intro i hi
      rw [State.openIndexes, htype] at hi
      cases hi
    · rw [hclosed i] at hi
      cases hi
  obtain ⟨_, _, _, hlive⟩ := h
  have hoffset := hlive.offset
  have hdone := hlive.ongoing
  unfold ChatToClaude.stopOpenBlocksAndAdvance
  unfold State.nextIndex at hnext
  cases htype : s.lastMessagesType with
  | none =>
    simp only [htype] at hnext ⊢
    have hstops : stopOpenBlocks s = ([] : List (Event U)) := by
      simp [stopOpenBlocks, State.openIndexes, htype]
    rw [← hstops]
    exact ⟨hnone s htype hdone hnext hoffset, trivial⟩
  | tools =>
    simp only [htype] at hnext ⊢
    exact ⟨hnone _ rfl hdone hnext (Int.le_refl 0), trivial⟩
  | text | thinking =>
    simp only [htype] at hnext ⊢
    exact ⟨hnone _ rfl hdone hnext hoffset, trivial⟩

theorem Output.fits (output : Output) (text : Text) :
    (output.delta text).fits output.block = true := by
  cases output <;> rfl

theorem Output.has (output : Output) : output.messagesType.has output.block := by
  cases output <;> trivial

theorem Output.openIndexes {output : Output} {s : State}
    (h : s.lastMessagesType = output.messagesType) : s.openIndexes = [s.index] := by
  cases output <;> simp only [State.openIndexes, h, messagesType]

theorem Output.nextIndex {output : Output} {s : State}
    (h : s.lastMessagesType = output.messagesType) : s.nextIndex = s.index + 1 := by
  cases output <;> simp only [State.nextIndex, h, messagesType]

/-- A block is started with its first delta. -/
theorem Sound.startOutput (h : Sound s trace) (hnone : s.lastMessagesType = .none)
    (output : Output) (text : Text) : Sound { s with lastMessagesType := output.messagesType }
      (trace ++ [.contentBlockStart s.index output.block,
        .contentBlockDelta s.index (output.delta text)]) := by
  obtain ⟨n, status, hbody, hlive⟩ := h
  have hindex : s.index = n := by
    have hnext := hlive.next
    rwa [State.nextIndex, hnone] at hnext
  have hstart := hbody.start output.block
  have hdelta := hstart.delta (update_self ..) (output.fits text)
  rw [← hindex, append_assoc] at hdelta
  refine ⟨n + 1, _, hdelta, hlive.ongoing, ?_, hlive.offset, ?_, ?_⟩
  · rw [Output.nextIndex rfl, hindex]
    rfl
  · intro i hi
    rw [Output.openIndexes rfl, mem_singleton] at hi
    rw [hi, update_self]
    exact ⟨_, _, rfl, output.has⟩
  · intro i hi
    rw [Output.openIndexes rfl, mem_singleton]
    by_contra hne
    rw [update_of_ne hne, update_of_ne hne] at hi
    have hmem := hlive.only i hi
    rw [State.openIndexes, hnone] at hmem
    cases hmem

/-- The open block gets a delta. -/
theorem Sound.continueOutput (h : Sound s trace) (output : Output)
    (htype : s.lastMessagesType = output.messagesType) (text : Text) :
    Sound s (trace ++ [.contentBlockDelta s.index (output.delta text)]) := by
  obtain ⟨n, status, hbody, hlive⟩ := h
  have hopen := Output.openIndexes htype
  obtain ⟨block, before, hstatus, hhas⟩ := hlive.mem s.index (by simp [hopen])
  have hblock : (output.delta text).fits block = true := by
    rw [htype] at hhas
    cases output <;> cases block <;> first | rfl | exact absurd hhas id
  refine ⟨n, _, hbody.delta hstatus hblock, hlive.ongoing, hlive.next, hlive.offset, ?_, ?_⟩
  · intro i hi
    rw [hopen, mem_singleton] at hi
    rw [hi, update_self]
    exact ⟨_, _, rfl, hhas⟩
  · intro i hi
    rw [hopen, mem_singleton]
    by_contra hne
    rw [update_of_ne hne] at hi
    have hmem := hlive.only i hi
    rw [hopen] at hmem
    exact hne (mem_singleton.1 hmem)

end Parts

/-! ## The numbers of the tool calls -/

/-- The number of blocks of the run of tool calls that is open. -/
def State.started (s : State) : ℤ :=
  match s.lastMessagesType with
  | .tools => s.toolCallMaxIndexOffset + 1
  | _ => 0

/-- The fragments that start a tool call. -/
def named (toolCalls : List ToolCall) : ℤ := (toolCalls.countP fun call => call.name ≠ "" : ℕ)

/-- The fragments number the tool calls of a run, of which `next` are started, in the order in
which they start them. -/
def CallsFit : ℤ → ℕ → List ToolCall → Prop
  | _, _, [] => True
  | next, i, call :: rest =>
    if call.name ≠ "" then call.offset i = next ∧ CallsFit (next + 1) (i + 1) rest
    else (0 ≤ call.offset i ∧ call.offset i < next) ∧ CallsFit next (i + 1) rest

instance CallsFit.decidable : (next : ℤ) → (i : ℕ) → (calls : List ToolCall) →
    Decidable (CallsFit next i calls)
  | _, _, [] => .isTrue trivial
  | next, i, call :: rest =>
    have := CallsFit.decidable (next + 1) (i + 1) rest
    have := CallsFit.decidable next (i + 1) rest
    inferInstanceAs (Decidable (if call.name ≠ "" then _ ∧ _ else _ ∧ _))

theorem named_cons (call : ToolCall) (rest : List ToolCall) :
    named (call :: rest) = (if call.name ≠ "" then 1 else 0) + named rest := by
  unfold named
  by_cases hname : call.name = "" <;> simp [hname, add_comm]

/-- The open blocks are those of a run of tool calls. -/
structure Run (status : ℤ → Status) (base next : ℤ) : Prop where
  opened : ∀ i, base ≤ i → i < base + next → ∃ id name text,
    status i = .opened (.toolUse id name) text
  only : ∀ i, (status i).isOpen = true → base ≤ i ∧ i < base + next

section Run

variable {trace : List (Event U)} {n : ℕ} {status : ℤ → Status} {base next maxOffset : ℤ}

/-- A further tool call of the run. -/
theorem Run.start (h : Run status base next) (hnonneg : 0 ≤ next) (id name : String) :
    Run (Function.update status (base + next) (.opened (.toolUse id name) [])) base
      (next + 1) where
  opened i hlow hhigh := by
    by_cases hi : i = base + next
    · rw [hi, update_self]
      exact ⟨id, name, [], rfl⟩
    · rw [update_of_ne hi]
      exact h.opened i hlow (by omega)
  only i hopen := by
    by_cases hi : i = base + next
    · omega
    · rw [update_of_ne hi] at hopen
      have hmem := h.only i hopen
      omega

section

variable (h : Run status base next) (hbody : Body trace n status)

include h hbody

/-- The arguments of a fragment go to an open block of the run. -/
theorem Run.arguments {i : ℤ} (hlow : base ≤ i) (hhigh : i < base + next) (arguments : Text) :
    ∃ status', Body (trace ++ if arguments ≠ [] then
      [.contentBlockDelta i (.inputJson arguments)] else []) n status' ∧ Run status' base next := by
  split_ifs with harguments
  · obtain ⟨id, name, text, hopen⟩ := h.opened i hlow hhigh
    refine ⟨_, hbody.delta hopen rfl, fun j hjlow hjhigh => ?_, fun j hj => ?_⟩
    · by_cases hj : j = i
      · rw [hj, update_self]
        exact ⟨id, name, _, rfl⟩
      · rw [update_of_ne hj]
        exact h.opened j hjlow hjhigh
    · by_cases hji : j = i
      · omega
      · rw [update_of_ne hji] at hj
        exact h.only j hj
  · rw [append_nil]
    exact ⟨status, hbody, h⟩

theorem Run.fragment (hn : base + next = n) (hnonneg : 0 ≤ next) {call : ToolCall} {i : ℕ}
    {rest : List ToolCall} (hfit : CallsFit next i (call :: rest)) :
    ∃ n' status', Body (trace ++ toolEvents (base + call.offset i) call) n' status' ∧
      Run status' base (next + if call.name ≠ "" then 1 else 0) ∧
      base + (next + if call.name ≠ "" then 1 else 0) = n' := by
  rw [CallsFit] at hfit
  rw [toolEvents, ← append_assoc]
  by_cases hname : call.name ≠ ""
  · rw [if_pos hname] at hfit
    simp only [if_pos hname]
    have hstart := hbody.start (.toolUse call.id call.name)
    rw [← hn] at hstart
    obtain ⟨status', hbody', hrun'⟩ := (h.start hnonneg call.id call.name).arguments hstart
      (i := base + next) (by omega) (by omega) call.arguments
    rw [hfit.1]
    exact ⟨n + 1, status', hbody', hrun', by push_cast; omega⟩
  · rw [if_neg hname] at hfit
    obtain ⟨⟨hlow, hhigh⟩, -⟩ := hfit
    obtain ⟨status', hbody', hrun'⟩ := h.arguments hbody (i := base + call.offset i) (by omega)
      (by omega) call.arguments
    simp only [if_neg hname, append_nil, add_zero]
    exact ⟨n, status', hbody', hrun', hn⟩

/-- The loop over the fragments of a chunk. -/
theorem Run.toolLoop (hn : base + next = n) (hnonneg : 0 ≤ next) (hmax : maxOffset + 1 = max next 1)
    {i : ℕ} {calls : List ToolCall} (hfit : CallsFit next i calls) :
    (∃ n' status', Body (trace ++ (toolLoop base maxOffset i calls).2) n' status' ∧
      Run status' base (next + named calls) ∧ base + (next + named calls) = n') ∧
      (ChatToClaude.toolLoop base maxOffset i calls (U := U)).1 + 1 =
        max (next + named calls) 1 := by
  induction calls generalizing trace n status next maxOffset i with
  | nil =>
    simp only [ChatToClaude.toolLoop, named, countP_nil, Nat.cast_zero, add_zero, append_nil]
    exact ⟨⟨n, status, hbody, h, hn⟩, hmax⟩
  | cons call rest ih =>
    obtain ⟨n', status', hbody', hrun', hn'⟩ := h.fragment hbody hn hnonneg hfit
    have hrest : CallsFit (next + if call.name ≠ "" then 1 else 0) (i + 1) rest ∧
        call.offset i < next + (if call.name ≠ "" then 1 else 0) ∧
        (call.name ≠ "" → call.offset i = next) := by
      rw [CallsFit] at hfit
      split_ifs at hfit ⊢ with hname
      · exact ⟨hfit.2, by omega, fun _ => hfit.1⟩
      · exact ⟨by simpa using hfit.2, by omega, fun h => absurd h hname⟩
    have hmax' : (if call.offset i > maxOffset then call.offset i else maxOffset) + 1 =
        max (next + if call.name ≠ "" then 1 else 0) 1 := by
      obtain ⟨-, hlt, heq⟩ := hrest
      by_cases hname : call.name ≠ ""
      · rw [if_pos hname, heq hname]
        split_ifs <;> omega
      · rw [if_neg hname] at hlt ⊢
        split_ifs <;> omega
    obtain ⟨hevents, hlast⟩ := ih hrun' hbody' hn' (by split_ifs <;> omega) hmax' hrest.1
    rw [named_cons, ← add_assoc]
    simp only [ChatToClaude.toolLoop, ← append_assoc]
    exact ⟨hevents, hlast⟩

end

end Run

variable {status : ℤ → Status}

theorem Live.run {s : State} {n : ℕ} (h : Live s n status)
    (htype : s.lastMessagesType = .tools) :
    Run status s.toolCallBaseIndex (s.toolCallMaxIndexOffset + 1) where
  opened i hlow hhigh := by
    obtain ⟨block, text, hopen, hhas⟩ := h.mem i
      ((mem_openIndexes_tools htype).2 ⟨hlow, by omega⟩)
    rw [htype] at hhas
    cases block with
    | toolUse id name => exact ⟨id, name, text, hopen⟩
    | text | thinking => exact absurd hhas id
  only i hi := by
    have hmem := (mem_openIndexes_tools htype).1 (h.only i hi)
    omega

/-- A run of tool calls describes its open blocks. -/
theorem Run.live {s : State} {n : ℕ} {next : ℤ}
    (h : Run status s.toolCallBaseIndex next) (hdone : s.done = false)
    (htype : s.lastMessagesType = .tools)
    (hnext : s.toolCallMaxIndexOffset + 1 = next) (hpos : 0 < next)
    (hn : s.toolCallBaseIndex + next = n) : Live s n status where
  ongoing := hdone
  next := by
    rw [State.nextIndex, htype]
    dsimp only
    omega
  offset := by omega
  mem i hi := by
    obtain ⟨hlow, hhigh⟩ := (mem_openIndexes_tools htype).1 hi
    obtain ⟨id, name, text, hopen⟩ := h.opened i hlow (by omega)
    refine ⟨_, text, hopen, ?_⟩
    rw [htype]
    trivial
  only i hi := by
    have hmem := h.only i hi
    exact (mem_openIndexes_tools htype).2 (by omega)

/-- Fragments that fit leave at least one tool call in the run. -/
theorem CallsFit.pos {next : ℤ} {i : ℕ} {calls : List ToolCall} (h : CallsFit next i calls)
    (hcalls : calls ≠ []) (hnonneg : 0 ≤ next) : 0 < next + named calls := by
  cases calls with
  | nil => exact absurd rfl hcalls
  | cons call rest =>
    have hrest : 0 ≤ named rest := Int.natCast_nonneg _
    rw [CallsFit] at h
    rw [named_cons]
    split_ifs at h ⊢ <;> omega

section Later

variable {s : State} {trace : List (Event U)}

/-- The run of tool calls that a later chunk extends: the open one, or a new one. -/
theorem Sound.enterTools (h : Sound s trace) :
    (∃ n status, Body (trace ++ (enterTools s).2) n status ∧
      Run status (ChatToClaude.enterTools s (U := U)).1.toolCallBaseIndex s.started ∧
      (ChatToClaude.enterTools s (U := U)).1.toolCallBaseIndex + s.started = n) ∧
    (ChatToClaude.enterTools s (U := U)).1.done = false ∧
    (ChatToClaude.enterTools s (U := U)).1.toolCallMaxIndexOffset + 1 = max s.started 1 ∧
      0 ≤ s.started := by
  unfold ChatToClaude.enterTools
  by_cases htype : s.lastMessagesType = .tools
  · obtain ⟨n, status, hbody, hlive⟩ := h
    have hstarted : s.started = s.toolCallMaxIndexOffset + 1 := by rw [State.started, htype]
    have hnext := hlive.next
    have hoffset := hlive.offset
    rw [State.nextIndex, htype] at hnext
    rw [if_neg (not_not.2 htype), append_nil, hstarted]
    dsimp only at hnext ⊢
    exact ⟨⟨n, status, hbody, hlive.run htype, by omega⟩, hlive.ongoing, by omega, by omega⟩
  · have hstarted : s.started = 0 := by
      unfold State.started
      split
      · exact absurd ‹_› htype
      · rfl
    obtain ⟨⟨n, status, hbody, hlive⟩, hnone⟩ := h.stopOpenBlocksAndAdvance
    have hnext := hlive.next
    rw [State.nextIndex, hnone] at hnext
    have hclosed : ∀ i, (status i).isOpen = true → False := by
      intro i hi
      have hmem := hlive.only i hi
      rw [State.openIndexes, hnone] at hmem
      cases hmem
    rw [if_pos htype, hstarted]
    dsimp only at hnext ⊢
    refine ⟨⟨n, status, hbody, ⟨?_, ?_⟩, by omega⟩, hlive.ongoing, by omega, by omega⟩
    · intro i hlow hhigh
      omega
    · intro i hi
      exact absurd hi (hclosed i)

/-- The message is still open after the events, with `next` tool calls in its run. -/
@[mk_iff]
structure Goes (trace : List (Event U)) (out : State × List (Event U)) (next : ℤ) : Prop where
  sound : Sound out.1 (trace ++ out.2)
  started : out.1.started = next

theorem Sound.laterTools (h : Sound s trace) {calls : List ToolCall} (hcalls : calls ≠ [])
    (hfit : CallsFit s.started 0 calls) :
    Goes trace (laterTools s calls) (s.started + named calls) := by
  obtain ⟨⟨n, status, hbody, hrun, hn⟩, hdone, hmax, hnonneg⟩ := h.enterTools
  obtain ⟨⟨n', status', hbody', hrun', hn'⟩, hlast⟩ := hrun.toolLoop hbody hn hnonneg hmax hfit
  have hpos := hfit.pos hcalls hnonneg
  have hnext := hlast.trans (max_eq_left hpos)
  unfold ChatToClaude.laterTools
  refine ⟨?_, hnext⟩
  rw [← append_assoc]
  refine ⟨n', status', hbody', ?_⟩
  refine Run.live ?_ hdone rfl hnext hpos ?_
  · exact hrun'
  · exact hn'

/-- A text or a reasoning in a later chunk. -/
theorem Sound.laterOutput (h : Sound s trace) (output : Output) (text : Text) :
    Goes trace (laterOutput s output text) 0 := by
  have hzero : ∀ t : State, t.lastMessagesType = output.messagesType → t.started = 0 := by
    intro t ht
    rw [State.started, ht]
    cases output <;> rfl
  unfold ChatToClaude.laterOutput
  split_ifs with htype
  · obtain ⟨hsound, hnone⟩ := h.stopOpenBlocksAndAdvance
    refine ⟨?_, hzero _ rfl⟩
    rw [← append_assoc]
    exact hsound.startOutput hnone output text
  · exact ⟨h.continueOutput output (not_not.1 htype) text, hzero _ (not_not.1 htype)⟩

/-- A text ends a run of tool calls. -/
def textsRun {α : Type} (empty run : α) (delta : Delta) : α :=
  if delta.getReasoningContent ≠ [] then empty
  else if delta.getContentString ≠ [] then empty
  else run

theorem Sound.quiet (h : Sound s trace) : Goes trace (s, []) s.started :=
  ⟨(append_nil trace).symm ▸ h, rfl⟩

theorem Sound.laterTexts (h : Sound s trace) (delta : Delta) :
    Goes trace (laterTexts s delta) (textsRun 0 s.started delta) := by
  unfold ChatToClaude.laterTexts textsRun
  split_ifs with hreasoning hcontent
  · exact h.laterOutput .thinking delta.getReasoningContent
  · exact h.laterOutput .text delta.getContentString
  · exact h.quiet

/-- The number of tool calls of the open run after the output of a later chunk. -/
def runAfter (next : ℤ) (delta : Delta) : ℤ :=
  if delta.toolCalls ≠ [] then next + named delta.toolCalls else textsRun 0 next delta

/-- The output of a later chunk. -/
theorem Sound.laterContent (h : Sound s trace) {delta : Delta}
    (hfit : CallsFit s.started 0 delta.toolCalls) :
    Goes trace (laterContent s delta) (runAfter s.started delta) := by
  unfold ChatToClaude.laterContent runAfter
  split_ifs with hcalls
  · exact h.laterTools hcalls hfit
  · exact h.laterTexts delta

/-- The finish reason of the state is no part of what is open. -/
theorem Sound.setFinishReason (h : Sound s trace) (reason : String) :
    Sound { s with finishReason := reason } trace := by
  obtain ⟨n, status, hbody, hlive⟩ := h
  exact ⟨n, status, hbody, hlive.ongoing, hlive.next, hlive.offset, hlive.mem, hlive.only⟩

end Later

/-! ## Whole streams -/

/-- The output of a later chunk that is looked at: none where the chunk has a finish reason and no
usage. -/
def Input.delta (input : Input U) : Delta :=
  match input.chunk.choices with
  | [] => {}
  | choice :: _ => if doneChunk choice && input.chunk.usage.isNone then {} else choice.delta

/-- A later chunk closes the message. -/
def Input.ends (input : Input U) : Bool :=
  match input.chunk.choices with
  | [] => (input.chunk.usage.or input.usage).isSome
  | choice :: _ => doneChunk choice && input.chunk.usage.isSome

/-- The tool calls of each run are numbered `0, 1, …` in the order in which they start; `next` is
the number of those that are started. -/
def Numbered : ℤ → List (Input U) → Prop
  | _, [] => True
  | next, input :: rest =>
    CallsFit next 0 input.delta.toolCalls ∧
      (input.ends = false → Numbered (runAfter next input.delta) rest)

instance Numbered.decidable : (next : ℤ) → (inputs : List (Input U)) →
    Decidable (Numbered next inputs)
  | _, [] => .isTrue trivial
  | next, input :: rest =>
    have := Numbered.decidable (runAfter next input.delta) rest
    inferInstanceAs (Decidable (_ ∧ (_ → _)))

/-- What has been emitted is a message that is still open, or a whole one. -/
def Reached (s : State) (trace : List (Event U)) : Prop :=
  Sound s trace ∨ s.done = true ∧ ∃ n, Valid trace n

section Runs

variable {s : State} {trace : List (Event U)}

theorem Sound.laterChunk (h : Sound s trace) {input : Input U}
    (hfit : CallsFit s.started 0 input.delta.toolCalls) :
    (input.ends = false ∧ Goes trace (laterChunk s input) (runAfter s.started input.delta)) ∨
    ((ChatToClaude.laterChunk s input).1.done = true ∧
      ∃ n, Valid (trace ++ (ChatToClaude.laterChunk s input).2) n) := by
  unfold ChatToClaude.laterChunk
  unfold Input.ends
  unfold Input.delta at hfit ⊢
  cases hchoices : input.chunk.choices with
  | nil =>
    cases husage : input.chunk.usage.or input.usage with
    | none => exact .inl ⟨rfl, h.quiet⟩
    | some usage => exact .inr ⟨rfl, h.endMessage _ _⟩
  | cons choice rest =>
    simp only [hchoices] at hfit ⊢
    cases hdone : doneChunk choice with
    | false =>
      simp only [hdone, Bool.false_and, Bool.false_eq_true, if_false] at hfit ⊢
      exact .inl ⟨trivial, h.laterContent hfit⟩
    | true =>
      have hset := h.setFinishReason (choice.finishReason.getD "")
      cases husage : input.chunk.usage with
      | none =>
        simp only [if_true, Option.isNone_none, Bool.and_self]
        exact .inl ⟨rfl, hset.quiet⟩
      | some usage =>
        simp only [hdone, husage, if_true, Option.isNone_some, Bool.and_false,
          Bool.false_eq_true, if_false] at hfit ⊢
        have hcontent := (hset.laterContent hfit).1
        rw [← append_assoc]
        exact .inr ⟨rfl, hcontent.endMessage _ _⟩

theorem convertFrom_done {count : ℕ} {s : State} (h : s.done = true) (inputs : List (Input U)) :
    convertFrom count s inputs = (s, []) := by
  induction inputs generalizing count with
  | nil => rfl
  | cons input rest ih =>
    simp only [convertFrom, streamResponseOpenAI2Claude, h, if_true, ih, append_nil]

/-- The later chunks. -/
theorem Sound.convertFrom (h : Sound s trace) {count : ℕ} (hcount : 1 < count)
    {inputs : List (Input U)} (hnumbered : Numbered s.started inputs) :
    Reached (convertFrom count s inputs).1 (trace ++ (ChatToClaude.convertFrom count s inputs).2)
    := by
  induction inputs generalizing s trace count with
  | nil =>
    rw [ChatToClaude.convertFrom, append_nil]
    exact .inl h
  | cons input rest ih =>
    obtain ⟨hfit, hrest⟩ := hnumbered
    obtain ⟨_, _, _, hlive⟩ := id h
    simp only [ChatToClaude.convertFrom, streamResponseOpenAI2Claude, hlive.ongoing,
      Bool.false_eq_true, if_false, if_neg hcount.ne', ← append_assoc]
    rcases h.laterChunk hfit with ⟨hends, hsound, hstarted⟩ | ⟨hdone, hvalid⟩
    · refine ih hsound (by omega) ?_
      rw [hstarted]
      exact hrest hends
    · rw [convertFrom_done hdone, append_nil]
      exact .inr ⟨hdone, hvalid⟩

end Runs

/-- A message that has just been opened. -/
theorem sound_init (id model : String) (tokens : ℤ) :
    Sound {} [(.messageStart id model tokens : Event U)] := by
  refine ⟨0, _, Body.init id model tokens, rfl, rfl, Int.le_refl 0, ?_, ?_⟩
  · intro i hi
    cases hi
  · intro i hi
    cases hi

/-- The number of tool calls of the open run after a first chunk. -/
def firstRun (input : Input U) : ℤ :=
  match input.chunk.choices with
  | [] => 0
  | choice :: _ => textsRun 0 (if choice.delta.toolCalls ≠ [] then 1 else 0) choice.delta

/-- A first chunk closes the message. -/
def Input.endsFirst (input : Input U) : Bool :=
  match input.chunk.choices with
  | [] => false
  | choice :: _ => doneChunk choice && (input.chunk.usage.or input.usage).isSome

section First

variable {trace : List (Event U)}

/-- A first chunk has no text before its own. -/
theorem firstTexts_eq {s : State}
    (hlast : s.lastMessagesType = .none ∨ s.lastMessagesType = .tools) (delta : Delta) :
    firstTexts s delta = laterTexts s delta (U := U) := by
  have houtput : ∀ output text, firstOutput s output text = laterOutput s output text (U := U) := by
    intro output text
    have hne : s.lastMessagesType ≠ output.messagesType := by
      rcases hlast with hlast | hlast <;> rw [hlast] <;> cases output <;> decide
    simp only [firstOutput, laterOutput, if_pos hne]
  rw [firstTexts, houtput, houtput]
  rfl

theorem firstTools_last (calls : List ToolCall) :
    (firstTools {} calls (U := U)).1.lastMessagesType = .none ∨
      (firstTools {} calls (U := U)).1.lastMessagesType = .tools := by
  cases calls with
  | nil => exact .inl rfl
  | cons call rest => exact .inr rfl

theorem Sound.firstTools (h : Sound {} trace) (calls : List ToolCall) :
    Goes trace (firstTools {} calls) (if calls ≠ [] then 1 else 0) := by
  cases calls with
  | nil => exact h.quiet
  | cons call rest =>
    obtain ⟨n, status, hbody, hlive⟩ := h
    have hn : (0 : ℤ) = n := hlive.next
    have hrun : Run status 0 0 := by
      refine ⟨fun i hlow hhigh => by omega, fun i hi => ?_⟩
      have hmem := hlive.only i hi
      cases hmem
    have hstart := hbody.start (.toolUse call.id call.name)
    rw [← hn] at hstart
    obtain ⟨status', hbody', hrun'⟩ := (hrun.start (Int.le_refl 0) call.id call.name).arguments
      hstart (i := 0) (by omega) (by omega) call.arguments
    rw [append_assoc] at hbody'
    refine ⟨⟨n + 1, status', hbody', ?_⟩, rfl⟩
    refine Run.live ?_ rfl rfl rfl Int.zero_lt_one ?_
    · exact hrun'
    · push_cast
      rw [← hn]
      rfl

theorem Sound.firstFinish {s : State} (h : Sound s trace) (choice : Choice) (usage : Option U) :
    ((doneChunk choice && usage.isSome) = false ∧
      Goes trace (firstFinish s choice usage) s.started) ∨
    ((ChatToClaude.firstFinish s choice usage).1.done = true ∧
      ∃ n, Valid (trace ++ (ChatToClaude.firstFinish s choice usage).2) n) := by
  unfold ChatToClaude.firstFinish
  cases hdone : doneChunk choice with
  | false =>
    rw [if_neg Bool.false_ne_true]
    exact .inl ⟨rfl, h.quiet⟩
  | true =>
    have hset := h.setFinishReason (choice.finishReason.getD "")
    rw [if_pos rfl]
    cases usage with
    | none => exact .inl ⟨rfl, hset.quiet⟩
    | some usage => exact .inr ⟨rfl, hset.endMessage _ _⟩

theorem firstChunk_sound (input : Input U) :
    (input.endsFirst = false ∧ Sound (firstChunk {} input).1 (firstChunk {} input).2 ∧
      (firstChunk {} input).1.started = firstRun input) ∨
    ((firstChunk {} input).1.done = true ∧ ∃ n, Valid (firstChunk {} input).2 n) := by
  have hinit := sound_init (U := U) input.chunk.id input.chunk.model input.estimatePromptTokens
  unfold firstChunk firstRun Input.endsFirst
  cases hchoices : input.chunk.choices with
  | nil => exact .inl ⟨rfl, hinit, rfl⟩
  | cons choice rest =>
    obtain ⟨htools, htoolsRun⟩ := hinit.firstTools choice.delta.toolCalls
    obtain ⟨htexts, htextsRun⟩ := htools.laterTexts choice.delta
    rw [htoolsRun, ← firstTexts_eq (firstTools_last _)] at htextsRun
    rw [← firstTexts_eq (firstTools_last _)] at htexts
    have hfinish := htexts.firstFinish choice (input.chunk.usage.or input.usage)
    rw [htextsRun] at hfinish
    simpa only [goes_iff, append_assoc, cons_append, nil_append] using hfinish

end First

/-- The stream for at least one chunk is valid when each run of tool calls after the first chunk
numbers its calls `0, 1, …` in the order in which they start; the first chunk opens the run
with its first tool call. -/
theorem stream_valid (first : Input U) (rest : List (Input U)) (usage : Option U)
    (h : first.endsFirst = false → Numbered (firstRun first) rest) :
    ∃ n, Valid (convert (first :: rest) usage) n := by
  have hcalls : convertFrom 1 {} (first :: rest) = ((convertFrom 2 (firstChunk {} first).1 rest).1,
        (firstChunk {} first).2 ++ (convertFrom 2 (firstChunk {} first).1 rest).2) := rfl
  have hreached : Reached (convertFrom 1 {} (first :: rest)).1
      (convertFrom 1 {} (first :: rest)).2 := by
    rw [hcalls]
    rcases firstChunk_sound first with ⟨hends, hsound, hrun⟩ | ⟨hdone, hvalid⟩
    · refine hsound.convertFrom (by decide) ?_
      rw [hrun]
      exact h hends
    · rw [convertFrom_done hdone, append_nil]
      exact .inr ⟨hdone, hvalid⟩
  unfold convert finalizeStreamResponseOpenAI2Claude
  rcases hreached with hsound | ⟨hdone, hvalid⟩
  · obtain ⟨_, _, _, hlive⟩ := id hsound
    simp only [hlive.ongoing, Bool.false_eq_true, if_false]
    exact hsound.endMessage _ _
  · simp only [hdone, if_true, append_nil]
    exact hvalid

/-- A chunk with one choice. -/
def chunkOf (delta : Delta) : Input Unit :=
  { chunk := { id := "c", model := "m", choices := [{ delta := delta }] } }

theorem stream_valid_six : ∃ n, Valid (convert (U := Unit) [chunkOf { content := some ['a'] },
        chunkOf { toolCalls := [⟨some 0, "t0", "f", []⟩, ⟨some 1, "t1", "g", ['1']⟩] },
        chunkOf { toolCalls := [⟨some 0, "", "", ['0']⟩] },
        chunkOf { reasoning := some ['b'] },
        chunkOf { toolCalls := [⟨none, "t2", "f", ['2']⟩] },
        chunkOf { content := some ['c'] }] none) n :=
  stream_valid _ _ _ (by decide +kernel)

/-! ## Where blocks are left out -/

/-- The fragments of a tool call in a stream, by its index. -/
def fragmentsOf (k : ℤ) (inputs : List (Input U)) : List ToolCall :=
  inputs.flatMap fun input => input.chunk.choices.flatMap fun choice =>
    (choice.delta.toolCalls.zipIdx.filter fun (call, i) => call.offset i = k).map Prod.fst

/-- The tool call `k` first appears with its id and its name, and has the name only once. -/
def NamedOnce (k : ℤ) (inputs : List (Input U)) : Prop :=
  match fragmentsOf k inputs with
  | [] => True
  | call :: rest => call.id ≠ "" ∧ call.name ≠ "" ∧ ∀ call ∈ rest, call.name = ""

/-- A tool call, a text and a second tool call with the next index. -/
def resumedTools : List (Input Unit) :=
  [chunkOf { toolCalls := [⟨some 0, "t0", "f", ['0']⟩] },
    chunkOf { content := some ['a'] },
    chunkOf { toolCalls := [⟨some 1, "t1", "g", ['1']⟩] }]

theorem namedOnce_resumedTools (k : ℤ) : NamedOnce k resumedTools := by
  by_cases h0 : k = 0
  · rw [h0]
    exact ⟨by decide, by decide, forall_mem_nil _⟩
  by_cases h1 : k = 1
  · rw [h1]
    exact ⟨by decide, by decide, forall_mem_nil _⟩
  have hnone : fragmentsOf k resumedTools = [] := by
    simp [fragmentsOf, resumedTools, chunkOf, ToolCall.offset, Ne.symm h0, Ne.symm h1]
  rw [NamedOnce, hnone]
  trivial

/-- The second tool call is started as the block 3 after the blocks 0 and 1. -/
theorem stream_skips_block :
    (∀ k, NamedOnce k resumedTools) ∧
      (blocks Unit).started (convert resumedTools none) = [0, 1, 3] ∧
      ¬ ∃ n, Valid (convert resumedTools none) n := by
  have hstarted : (blocks Unit).started (convert resumedTools none) = [0, 1, 3] := by decide +kernel
  refine ⟨namedOnce_resumedTools, hstarted, ?_⟩
  rintro ⟨n, hvalid⟩
  have hrange := hvalid.started
  have hlength := congrArg length hrange
  rw [length_map, length_range] at hlength
  rw [← hlength] at hrange
  exact absurd hrange (by decide)

end OmniRouters.Convert.ChatToClaude
