import Mathlib.Data.List.Induction
import Mathlib.Data.List.Nodup
import OmniRouters.Convert.Chunks

/-!
# From Gemini responses to Chat Completions chunks

Model of `StreamResponseGeminiChat2OpenAI` and `GeminiToChatStreamState`
(`relaykit/relayconvert/internal/gemini_chat/to_oai_chat_resp.go`). Every response of the stream is
converted on its own; between the calls the state keeps only whether a tool call has been seen and
whether a finish reason has been emitted. The identifier that is drawn for a function call is a part
of the input.

* `Collected`: what the loop over the parts of a candidate has collected.
* `Emitted.convertChunk`: the finish reasons of one call.
* `stream_reported`: the chunks report the calls, the texts, the thoughts and one finish reason
  when the function calls of a candidate come in one response and a candidate does not mix
  thoughts with other output in one response.
* `call_index_repeated`: calls of different responses get the same index.
-/

namespace OmniRouters.Convert.GeminiToChat

open List Option

variable {U A : Type}

/-! ## Responses -/

/-- `GeminiInlineData`. -/
structure InlineData where
  mimeType : Text
  data : Text
deriving DecidableEq

/-- `FunctionCall`, with the identifier that `GetUUID` draws for it. -/
structure FunctionCall (A : Type) where
  functionName : String
  arguments : A
  uuid : String
deriving DecidableEq

/-- `GeminiPartExecutableCode`. -/
structure ExecutableCode where
  language : Text
  code : Text
deriving DecidableEq

/-- `GeminiPart`; a code execution result is its output. -/
structure Part (A : Type) where
  text : Text := []
  thought : Bool := false
  inlineData : Option InlineData := none
  functionCall : Option (FunctionCall A) := none
  executableCode : Option ExecutableCode := none
  codeExecutionResult : Option Text := none
deriving DecidableEq

/-- `GeminiChatCandidate`. -/
structure Candidate (A : Type) where
  index : ℤ := 0
  parts : List (Part A)
  finishReason : Option String := none
deriving DecidableEq

/-- The input of a call: the candidates of the response, the model and the usage. -/
structure Input (U A : Type) where
  candidates : List (Candidate A)
  model : String := ""
  usage : Option U := none
deriving DecidableEq

/-! ## One response -/

/-- What the loop over the parts of a candidate collects. -/
structure Collect where
  content : Text := []
  appended : ℕ := 0
  isTools : Bool := false
  isThought : Bool := false
  toolCalls : List ToolCall := []
deriving DecidableEq

/-- `writeSep` and the piece after it (lines 208-213). -/
def Collect.write (acc : Collect) (piece : Text) : Collect :=
  { acc with
    content := acc.content ++ (if acc.appended > 0 then ['\n'] else []) ++ piece
    appended := acc.appended + 1 }

/-- An image as text (lines 231-236). -/
def InlineData.image (inline : InlineData) : Text :=
  "![image](data:".toList ++ inline.mimeType ++ ";base64,".toList ++ inline.data ++ [')']

/-- Code as text (lines 250-255). -/
def ExecutableCode.block (executable : ExecutableCode) : Text :=
  "```".toList ++ executable.language ++ ['\n'] ++ executable.code ++ "\n```\n".toList

/-- The output of code as text (lines 257-260). -/
def outputBlock (output : Text) : Text := "```output\n".toList ++ output ++ "\n```\n".toList

/-- `geminiResponseToolCall` (lines 386-399) with the index that its caller sets. -/
def geminiResponseToolCall (marshal : A → Option Text) (call : FunctionCall A) (index : ℤ) :
    Option ToolCall :=
  (marshal call.arguments).map fun arguments =>
    { index := some index, id := "call_" ++ call.uuid, name := call.functionName, arguments }

/-- One part (lines 228-266). -/
def collectPart (marshal : A → Option Text) (acc : Collect) (part : Part A) : Collect :=
  match part.inlineData, part.functionCall with
  | some inline, _ => if "image".toList <+: inline.mimeType then acc.write inline.image else acc
  | none, some call =>
    let acc := { acc with isTools := true }
    match geminiResponseToolCall marshal call acc.toolCalls.length with
    | none => acc
    | some toolCall => { acc with toolCalls := acc.toolCalls ++ [toolCall] }
  | none, none =>
    if part.thought then { acc with isThought := true }.write part.text
    else
      match part.executableCode, part.codeExecutionResult with
      | some executable, _ => acc.write executable.block
      | none, some output => acc.write (outputBlock output)
      | none, none => if part.text ≠ ['\n'] then acc.write part.text else acc

/-- The finish reason of a candidate (lines 216-227). -/
def chatFinishReason : String → String
  | "STOP" => "stop"
  | "MAX_TOKENS" => "length"
  | _ => "content_filter"

/-- One candidate (lines 188-276). -/
def convertCandidate (marshal : A → Option Text) (candidate : Candidate A) : Choice :=
  let finishReason := if candidate.finishReason = some "STOP" then none else candidate.finishReason
  let acc := candidate.parts.foldl (collectPart marshal) {}
  { index := candidate.index
    delta :=
      if acc.isThought then { reasoningContent := some acc.content, toolCalls := acc.toolCalls }
      else { content := some acc.content, toolCalls := acc.toolCalls }
    finishReason :=
      if acc.isTools then some "tool_calls" else finishReason.map chatFinishReason }

/-! ## The stream -/

/-- `GeminiToChatStreamState` (lines 285-291). -/
structure State (U : Type) where
  id : String
  created : ℤ
  sawToolCall : Bool := false
  finishEmitted : Bool := false
  latestUsage : Option U := none
deriving DecidableEq

/-- `terminalChunk` (lines 365-384). -/
def terminalChunk (s : State U) (model : String) : State U × Chunk U :=
  ({ s with finishEmitted := true },
    { id := s.id
      model := model
      created := s.created
      choices :=
        [{ delta := {}, finishReason := some (if s.sawToolCall then "tool_calls" else "stop") }]
      usage := s.latestUsage })

/-- A finish reason other than `STOP` (lines 308-314). -/
def Candidate.nonStopFinish (candidate : Candidate A) : Bool :=
  candidate.finishReason.any fun reason => reason ≠ "" && reason ≠ "STOP"

/-- `IsToolCall` (relaykit/dto/openai_response.go:228-233). -/
def isToolCall (choices : List Choice) : Bool :=
  match choices with
  | [] => false
  | choice :: _ => !choice.delta.toolCalls.isEmpty

/-- The finish reason of a tool call is taken back (lines 327-331). -/
def clearToolCallsFinish (choice : Choice) : Choice :=
  if choice.finishReason = some "tool_calls" then { choice with finishReason := none } else choice

/-- The choices of a call: those of the candidates, without the finish reasons of tool calls (lines
315-333). -/
def convertChoices (marshal : A → Option Text) (candidates : List (Candidate A)) : List Choice :=
  let choices := candidates.map (convertCandidate marshal)
  if isToolCall choices && !candidates.any Candidate.nonStopFinish then
    choices.map clearToolCallsFinish
  else choices

/-- The choice carries a finish reason (line 338). -/
def finished (choice : Choice) : Bool := choice.finishReason.any fun reason => reason ≠ ""

/-- `ConvertChunk` (lines 304-349). -/
def convertChunk (marshal : A → Option Text) (s : State U) (input : Input U A) :
    State U × List (Chunk U) :=
  let choices := convertChoices marshal input.candidates
  let isStop := input.candidates.any fun candidate => candidate.finishReason = some "STOP"
  let response : Chunk U :=
    { id := s.id, model := input.model, created := s.created, choices, usage := input.usage }
  let s := { s with
    sawToolCall := s.sawToolCall || isToolCall choices
    latestUsage := input.usage.or s.latestUsage
    finishEmitted := s.finishEmitted || choices.any finished }
  if isStop && !s.finishEmitted then
    let (s, terminal) := terminalChunk s input.model
    (s, [response, terminal])
  else (s, [response])

/-- `Finalize` (lines 351-356). -/
def finalize (s : State U) (model : String) : State U × List (Chunk U) :=
  if s.finishEmitted then (s, [])
  else
    let (s, terminal) := terminalChunk s model
    (s, [terminal])

/-- The calls for a sequence of responses. -/
def convertFrom (marshal : A → Option Text) : State U → List (Input U A) → State U × List (Chunk U)
  | s, [] => (s, [])
  | s, input :: rest =>
    let (s, chunks) := convertChunk marshal s input
    let (s, others) := convertFrom marshal s rest
    (s, chunks ++ others)

/-- The chunks for a sequence of responses, with the end of the stream. -/
def convert (marshal : A → Option Text) (id : String) (created : ℤ) (inputs : List (Input U A))
    (model : String) : List (Chunk U) :=
  let (s, chunks) := convertFrom marshal { id, created } inputs
  chunks ++ (finalize s model).2

/-! ## What a stream reports -/

def Part.call (part : Part A) : Option (FunctionCall A) :=
  if part.inlineData.isSome then none else part.functionCall

def Part.isThought (part : Part A) : Bool :=
  part.inlineData.isNone && part.functionCall.isNone && part.thought

def Part.isText (part : Part A) : Bool :=
  part.inlineData.isNone && part.functionCall.isNone && !part.thought &&
    part.executableCode.isNone && part.codeExecutionResult.isNone

/-- A part as content: a text, or an image, code or the output of code written as text. -/
def Part.content (part : Part A) : Option Text :=
  match part.inlineData, part.functionCall with
  | some inline, _ => if "image".toList <+: inline.mimeType then some inline.image else none
  | none, some _ => none
  | none, none =>
    if part.thought then none
    else
      match part.executableCode, part.codeExecutionResult with
      | some executable, _ => some executable.block
      | none, some output => some (outputBlock output)
      | none, none => some part.text

def Part.reasoning (part : Part A) : Option Text :=
  if part.isThought then some part.text else none

/-- Pieces as the lines of a text. -/
def lines (pieces : List Text) : Text := List.intercalate ['\n'] pieces

/-- The candidates of a stream with an index. -/
def candidatesOf (c : ℤ) (inputs : List (Input U A)) : List (Candidate A) :=
  (inputs.flatMap Input.candidates).filter fun candidate => candidate.index = c

/-- The choices of a stream with an index. -/
def choicesOf (c : ℤ) (chunks : List (Chunk U)) : List Choice :=
  (chunks.flatMap Chunk.choices).filter fun choice => choice.index = c

def toolCallsOf (c : ℤ) (chunks : List (Chunk U)) : List ToolCall :=
  (choicesOf c chunks).flatMap fun choice => choice.delta.toolCalls

/-- The finish reasons in a stream. -/
def finishReasons (chunks : List (Chunk U)) : List String :=
  (chunks.flatMap Chunk.choices).filterMap Choice.finishReason

/-- The chunks report a stream of responses: the function calls of each candidate in their order
and under different indexes, so that merging by index gives each call alone; the parts of each
candidate as content or reasoning; and one finish reason. -/
structure Reported (marshal : A → Option Text) (inputs : List (Input U A))
    (chunks : List (Chunk U)) : Prop where
  indexes : ∀ c, ((toolCallsOf c chunks).map ToolCall.index).Nodup
  merged : ∀ c, ∀ call ∈ toolCallsOf c chunks,
    (toolCallsOf c chunks).filter (fun other => other.index = call.index) = [call]
  calls : ∀ c, (toolCallsOf c chunks).map (fun call => (call.name, some call.arguments)) =
    (candidatesOf c inputs).flatMap fun candidate => (candidate.parts.filterMap Part.call).map
      fun call => (call.functionName, marshal call.arguments)
  content : ∀ c, (choicesOf c chunks).flatMap (fun choice => choice.delta.getContentString) =
    (candidatesOf c inputs).flatMap fun candidate => lines (candidate.parts.filterMap Part.content)
  reasoning : ∀ c, (choicesOf c chunks).flatMap (fun choice => choice.delta.getReasoningContent) =
    (candidatesOf c inputs).flatMap fun candidate =>
      lines (candidate.parts.filterMap Part.reasoning)
  finish : (finishReasons chunks).length = 1

/-! ## The loop over the parts -/

/-- The piece that is written for a part. -/
def Part.piece (part : Part A) : Option Text :=
  if part.isThought then some part.text
  else if part.isText && part.text = ['\n'] then none
  else part.content

/-- What the loop has collected from the parts so far. -/
structure Collected (marshal : A → Option Text) (parts : List (Part A)) (acc : Collect) :
    Prop where
  content : acc.content = lines (parts.filterMap Part.piece)
  appended : acc.appended = (parts.filterMap Part.piece).length
  isTools : acc.isTools = parts.any fun part => part.call.isSome
  isThought : acc.isThought = parts.any Part.isThought
  indexes : acc.toolCalls.map ToolCall.index =
    (List.range acc.toolCalls.length).map fun (k : ℕ) => some (k : ℤ)
  calls : acc.toolCalls.map (fun call => (call.name, some call.arguments)) =
    (parts.filterMap Part.call).map fun call => (call.functionName, marshal call.arguments)

theorem lines_snoc (pieces : List Text) (piece : Text) :
    lines (pieces ++ [piece]) =
      lines pieces ++ (if pieces.length > 0 then ['\n'] else []) ++ piece := by
  unfold lines
  induction pieces with
  | nil => simp
  | cons first rest ih =>
    cases rest with
    | nil => simp [intercalate]
    | cons second rest =>
      simp only [cons_append, intercalate_cons_cons] at ih ⊢
      rw [ih]
      simp

section Parts

variable {marshal : A → Option Text} {parts : List (Part A)} {acc : Collect} {part : Part A}

theorem filterMap_snoc {β : Type} (f : Part A → Option β) (parts : List (Part A)) (part : Part A) :
    (parts ++ [part]).filterMap f = parts.filterMap f ++ (f part).toList := by
  cases h : f part <;> simp [h]

section

variable (h : Collected marshal parts acc)

include h

theorem Collected.write {piece : Text} (hpiece : part.piece = some piece)
    (hcall : part.call = none) :
    Collected marshal (parts ++ [part])
      ({ acc with isThought := acc.isThought || part.isThought }.write piece) where
  content := by
    rw [filterMap_snoc, hpiece, toList_some, lines_snoc, ← h.content, ← h.appended]
    rfl
  appended := by
    rw [filterMap_snoc, hpiece, toList_some, length_append, ← h.appended]
    rfl
  isTools := by
    rw [any_append, ← h.isTools]
    simp [hcall, Collect.write]
  isThought := by
    rw [any_append, ← h.isThought]
    simp [Collect.write]
  indexes := h.indexes
  calls := by
    rw [filterMap_snoc, hcall, toList_none, append_nil]
    exact h.calls

/-- A part that leaves nothing. -/
theorem Collected.skip (hpiece : part.piece = none) (hcall : part.call = none)
    (hthought : part.isThought = false) : Collected marshal (parts ++ [part]) acc where
  content := by rw [filterMap_snoc, hpiece, toList_none, append_nil, h.content]
  appended := by rw [filterMap_snoc, hpiece, toList_none, append_nil, h.appended]
  isTools := by simp [h.isTools, hcall]
  isThought := by simp [h.isThought, hthought]
  indexes := h.indexes
  calls := by rw [filterMap_snoc, hcall, toList_none, append_nil, h.calls]

theorem Collected.functionCall {call : FunctionCall A} {arguments : Text}
    (hpiece : part.piece = none) (hcall : part.call = some call) (hthought : part.isThought = false)
    (hmarshal : marshal call.arguments = some arguments) : Collected marshal (parts ++ [part])
      { acc with
        isTools := true
        toolCalls := acc.toolCalls ++
          [⟨some acc.toolCalls.length, "call_" ++ call.uuid, call.functionName, arguments⟩] } where
  content := by rw [filterMap_snoc, hpiece, toList_none, append_nil, ← h.content]
  appended := by rw [filterMap_snoc, hpiece, toList_none, append_nil, ← h.appended]
  isTools := by simp [hcall]
  isThought := by simp [h.isThought, hthought]
  indexes := by
    rw [map_append, h.indexes, length_append, length_singleton, range_succ, map_append]
    rfl
  calls := by
    rw [map_append, h.calls, filterMap_snoc, hcall, toList_some, map_append,
      map_singleton, map_singleton, hmarshal]

theorem Collected.collectPart
    (hmarshal : part.call.all fun call => (marshal call.arguments).isSome) :
    Collected marshal (parts ++ [part]) (collectPart marshal acc part) := by
  have hplain : { acc with isThought := acc.isThought || false } = acc := by
    rw [Bool.or_false]
  have hwrite : part.isThought = false → ∀ piece, part.piece = some piece → part.call = none →
      Collected marshal (parts ++ [part]) (acc.write piece) := by
    intro hthought piece hpiece hcall
    have hwritten := h.write hpiece hcall
    rwa [hthought, hplain] at hwritten
  unfold GeminiToChat.collectPart
  obtain ⟨text, thought, inline, call, executable, result⟩ := part
  cases inline with
  | some inline =>
    dsimp only
    by_cases himage : "image".toList <+: inline.mimeType
    · rw [if_pos himage]
      exact hwrite rfl _ (if_pos himage) rfl
    · rw [if_neg himage]
      exact h.skip (if_neg himage) rfl rfl
  | none =>
    cases call with
    | some call =>
      cases harguments : marshal call.arguments with
      | none =>
        have hsome : (marshal call.arguments).isSome = true := hmarshal
        rw [harguments] at hsome
        cases hsome
      | some arguments =>
        simp only [geminiResponseToolCall, harguments, map_some]
        exact h.functionCall rfl rfl rfl harguments
    | none =>
      cases thought with
      | true =>
        have hset : { acc with isThought := acc.isThought || true } =
            { acc with isThought := true } := by
          rw [Bool.or_true]
        rw [if_pos rfl, ← hset]
        exact h.write rfl rfl
      | false =>
        cases executable with
        | some executable => exact hwrite rfl _ rfl rfl
        | none =>
          cases result with
          | some output => exact hwrite rfl _ rfl rfl
          | none =>
            by_cases htext : text ≠ ['\n']
            · rw [if_pos htext]
              refine hwrite rfl _ ?_ rfl
              simp [Part.piece, Part.isThought, Part.isText, Part.content, htext]
            · rw [if_neg htext]
              refine h.skip ?_ rfl rfl
              simp [Part.piece, Part.isThought, Part.isText, not_not.1 htext]

end

theorem collected_parts (parts : List (Part A))
    (hmarshal : ∀ part ∈ parts, part.call.all fun call => (marshal call.arguments).isSome) :
    Collected marshal parts (parts.foldl (collectPart marshal) {}) := by
  induction parts using reverseRecOn with
  | nil => exact ⟨rfl, rfl, rfl, rfl, rfl, rfl⟩
  | append_singleton parts part ih =>
    rw [foldl_append]
    refine (ih fun p hp => hmarshal p (mem_append_left _ hp)).collectPart ?_
    exact hmarshal part (mem_append_right _ mem_cons_self)

end Parts

/-! ## One candidate -/

/-- The candidate has a function call. -/
def Candidate.hasCall (candidate : Candidate A) : Bool :=
  candidate.parts.any fun part => part.call.isSome

/-- The output of a candidate can be reported: its arguments can be marshalled, no text is a bare
line feed, and there are no thoughts beside content. -/
def Plain (marshal : A → Option Text) (candidate : Candidate A) : Prop :=
  (∀ part ∈ candidate.parts, part.call.all fun call => (marshal call.arguments).isSome) ∧
    (∀ part ∈ candidate.parts, part.isText = true → part.text ≠ ['\n']) ∧
    (candidate.parts.any Part.isThought = true → ∀ part ∈ candidate.parts, part.content = none)

instance Plain.decidable (marshal : A → Option Text) (candidate : Candidate A) :
    Decidable (Plain marshal candidate) :=
  inferInstanceAs (Decidable (_ ∧ _ ∧ (_ → _)))

open Candidate

section Candidates

variable {marshal : A → Option Text} {candidate : Candidate A}

theorem Plain.collected (h : Plain marshal candidate) :
    Collected marshal candidate.parts (candidate.parts.foldl (collectPart marshal) {}) :=
  collected_parts candidate.parts h.1

theorem Part.reasoning_eq_none {part : Part A} (h : part.isThought = false) :
    part.reasoning = none := by
  simp [Part.reasoning, h]

section

variable (h : Plain marshal candidate)

include h

theorem Plain.pieces_thought (hthought : candidate.parts.any Part.isThought = true) :
    candidate.parts.filterMap Part.piece = candidate.parts.filterMap Part.reasoning := by
  refine filterMap_congr fun part hmem => ?_
  unfold Part.piece Part.reasoning
  split_ifs
  · rfl
  · rfl
  · exact h.2.2 hthought part hmem

theorem Plain.pieces_content (hthought : candidate.parts.any Part.isThought = false) :
    candidate.parts.filterMap Part.piece = candidate.parts.filterMap Part.content := by
  refine filterMap_congr fun part hmem => ?_
  have hno : part.isThought = false := by
    rw [List.any_eq_false] at hthought
    exact Bool.not_eq_true _ ▸ hthought part hmem
  have htext : (part.isText && decide (part.text = ['\n'])) = false := by
    rw [Bool.and_eq_false_imp]
    intro his
    exact decide_eq_false (h.2.1 part hmem his)
  simp only [Part.piece, hno, htext, Bool.false_eq_true, if_false]

theorem Plain.texts : (convertCandidate marshal candidate).delta.getContentString =
        lines (candidate.parts.filterMap Part.content) ∧
      (convertCandidate marshal candidate).delta.getReasoningContent =
        lines (candidate.parts.filterMap Part.reasoning) := by
  have hcollected := h.collected
  unfold convertCandidate
  dsimp only
  rw [hcollected.isThought, hcollected.content]
  cases hthought : candidate.parts.any Part.isThought with
  | true =>
    have hnone : candidate.parts.filterMap Part.content = [] :=
      filterMap_eq_nil_iff.2 (h.2.2 hthought)
    rw [h.pieces_thought hthought, hnone]
    exact ⟨rfl, rfl⟩
  | false =>
    have hnone : candidate.parts.filterMap Part.reasoning = [] := by
      refine filterMap_eq_nil_iff.2 fun part hmem => Part.reasoning_eq_none ?_
      rw [List.any_eq_false] at hthought
      exact Bool.not_eq_true _ ▸ hthought part hmem
    rw [h.pieces_content hthought, hnone]
    exact ⟨rfl, rfl⟩

end

theorem convertCandidate_toolCalls (marshal : A → Option Text) (candidate : Candidate A) :
    (convertCandidate marshal candidate).delta.toolCalls =
      (candidate.parts.foldl (collectPart marshal) {}).toolCalls := by
  unfold convertCandidate
  dsimp only
  split_ifs <;> rfl

section

variable (h : Plain marshal candidate)

include h

theorem Plain.calls : (convertCandidate marshal candidate).delta.toolCalls.map
        (fun call => (call.name, some call.arguments)) =
      (candidate.parts.filterMap Part.call).map
        fun call => (call.functionName, marshal call.arguments) := by
  rw [convertCandidate_toolCalls]
  exact h.collected.calls

theorem Plain.toolCalls_eq_nil :
    (convertCandidate marshal candidate).delta.toolCalls = [] ↔ candidate.hasCall = false := by
  rw [← map_eq_nil_iff (f := fun call : ToolCall => (call.name, some call.arguments)), h.calls,
    map_eq_nil_iff, filterMap_eq_nil_iff, hasCall, List.any_eq_false]
  simp

theorem Plain.indexes :
    ((convertCandidate marshal candidate).delta.toolCalls.map ToolCall.index).Nodup := by
  rw [convertCandidate_toolCalls, h.collected.indexes]
  refine List.Nodup.map (fun a b hab => ?_) nodup_range
  have hcast : (a : ℤ) = b := some.inj hab
  omega

theorem Plain.finishReason : (convertCandidate marshal candidate).finishReason =
      if candidate.hasCall then some "tool_calls"
      else if candidate.finishReason = some "STOP" then none
      else candidate.finishReason.map chatFinishReason := by
  have htools := h.collected.isTools
  unfold convertCandidate
  dsimp only
  rw [htools]
  change (if candidate.hasCall = true then _ else _) = _
  split_ifs <;> rfl

end

end Candidates

/-! ## Whole streams -/

section Streams

variable {marshal : A → Option Text}

theorem clearToolCallsFinish_delta (choice : Choice) :
    (clearToolCallsFinish choice).delta = choice.delta ∧
      (clearToolCallsFinish choice).index = choice.index := by
  unfold clearToolCallsFinish
  split_ifs <;> exact ⟨rfl, rfl⟩

def carriedBy {β : Type} (g : Delta → List β) (c : ℤ) (choices : List Choice) : List β :=
  choices.flatMap fun choice => if choice.index = c then g choice.delta else []

variable {β : Type} {g : Delta → List β}

theorem flatMap_filter {α : Type} (p : α → Prop) [DecidablePred p] (f : α → List β) (l : List α) :
    (l.filter p).flatMap f = l.flatMap fun a => if p a then f a else [] := by
  induction l with
  | nil => rfl
  | cons a rest ih =>
    rw [filter_cons, flatMap_cons, ← ih]
    by_cases ha : p a <;> simp [ha]

theorem carriedBy_append (g : Delta → List β) (c : ℤ) (a b : List Choice) :
    carriedBy g c (a ++ b) = carriedBy g c a ++ carriedBy g c b :=
  flatMap_append

/-- The finish reasons do not matter for what the deltas carry. -/
theorem carriedBy_convertChoices (g : Delta → List β) (c : ℤ) (candidates : List (Candidate A)) :
    carriedBy g c (convertChoices marshal candidates) =
      carriedBy g c (candidates.map (convertCandidate marshal)) := by
  unfold convertChoices carriedBy
  dsimp only
  split_ifs
  · rw [flatMap_map]
    simp only [clearToolCallsFinish_delta]
  · rfl

section

variable (hg : g {} = [])

include hg

theorem carriedBy_terminal (c : ℤ) (s : State U) (model : String) :
    carriedBy g c (terminalChunk s model).2.choices = [] := by
  unfold carriedBy terminalChunk
  rw [flatMap_singleton, hg, ite_self]

theorem carriedBy_convertChunk (c : ℤ) (s : State U) (input : Input U A) :
    carriedBy g c ((convertChunk marshal s input).2.flatMap Chunk.choices) =
      carriedBy g c (input.candidates.map (convertCandidate marshal)) := by
  rw [← carriedBy_convertChoices]
  unfold convertChunk
  dsimp only
  split_ifs
  · rw [flatMap_cons, flatMap_singleton, carriedBy_append, carriedBy_terminal hg, append_nil]
  · rw [flatMap_singleton]

theorem carriedBy_convertFrom (c : ℤ) (s : State U) (inputs : List (Input U A)) :
    carriedBy g c ((convertFrom marshal s inputs).2.flatMap Chunk.choices) =
      carriedBy g c ((inputs.flatMap Input.candidates).map (convertCandidate marshal)) := by
  induction inputs generalizing s with
  | nil => rfl
  | cons input rest ih =>
    rw [convertFrom, flatMap_append, carriedBy_append, carriedBy_convertChunk hg, ih,
      flatMap_cons, map_append, carriedBy_append]

/-- What a stream carries for an index is what its candidates carry. -/
theorem carriedBy_convert (c : ℤ) (id : String) (created : ℤ)
    (inputs : List (Input U A)) (model : String) :
    (choicesOf c (convert marshal id created inputs model)).flatMap
        (fun choice => g choice.delta) =
      (candidatesOf c inputs).flatMap
        fun candidate => g (convertCandidate marshal candidate).delta := by
  have hfinal : ∀ s : State U, carriedBy g c ((finalize s model).2.flatMap Chunk.choices) = [] := by
    intro s
    unfold finalize
    split_ifs
    · rfl
    · rw [flatMap_singleton, carriedBy_terminal hg]
  have hindex : ∀ candidate, (convertCandidate marshal candidate).index = candidate.index :=
    fun _ => rfl
  rw [choicesOf, flatMap_filter]
  change carriedBy g c _ = _
  rw [convert, flatMap_append, carriedBy_append, hfinal, append_nil,
    carriedBy_convertFrom hg, carriedBy, flatMap_map, candidatesOf, flatMap_filter]
  simp only [hindex]

end

/-- Lists of which one at most is not empty. -/
theorem flatMap_cases {α : Type} {f : α → List β} {l : List α}
    (h : l.Pairwise fun a b => f a = [] ∨ f b = []) :
    l.flatMap f = [] ∨ ∃ a ∈ l, l.flatMap f = f a := by
  induction l with
  | nil => exact .inl rfl
  | cons a rest ih =>
    obtain ⟨hfirst, hrest⟩ := pairwise_cons.1 h
    rw [flatMap_cons]
    by_cases ha : f a = []
    · rw [ha, nil_append]
      exact (ih hrest).imp_right fun ⟨b, hb, hf⟩ => ⟨b, mem_cons_of_mem a hb, hf⟩
    have hnil : rest.flatMap f = [] :=
      flatMap_eq_nil_iff.2 fun b hb => (hfirst b hb).resolve_left ha
    rw [hnil, append_nil]
    exact .inr ⟨a, mem_cons_self, rfl⟩

end Streams

/-! ## Finish reasons -/

/-- The finish reasons of a response are as a stream needs them: none is empty; one that is not
`STOP` is the first of the stream and alone in its response; and otherwise the first candidate
has a function call if any has. -/
def Finishes (ended : Bool) (candidates : List (Candidate A)) : Prop :=
  (∀ candidate ∈ candidates, candidate.finishReason ≠ some "") ∧
    if candidates.any Candidate.nonStopFinish then
      ended = false ∧
        candidates.countP (fun candidate => candidate.hasCall || candidate.nonStopFinish) = 1
    else candidates.any Candidate.hasCall = true → candidates.head?.any Candidate.hasCall = true

/-- The response has a finish reason. -/
def Input.ends (input : Input U A) : Bool :=
  input.candidates.any fun candidate => candidate.finishReason.isSome

/-- The finish reasons of all responses are as a stream needs them. -/
def FinishesFrom : Bool → List (Input U A) → Prop
  | _, [] => True
  | ended, input :: rest =>
    Finishes ended input.candidates ∧ FinishesFrom (ended || input.ends) rest

instance Finishes.decidable (ended : Bool) (candidates : List (Candidate A)) :
    Decidable (Finishes ended candidates) :=
  inferInstanceAs (Decidable ((∀ candidate ∈ candidates, candidate.finishReason ≠ some "") ∧
    if candidates.any Candidate.nonStopFinish then _ ∧ _ = 1 else _ = true → _ = true))

instance FinishesFrom.decidable : (ended : Bool) → (inputs : List (Input U A)) →
    Decidable (FinishesFrom ended inputs)
  | _, [] => .isTrue trivial
  | ended, input :: rest =>
    have := FinishesFrom.decidable (ended || input.ends) rest
    inferInstanceAs (Decidable (_ ∧ _))

section Finish

variable {marshal : A → Option Text} {candidates : List (Candidate A)}

variable {candidate : Candidate A}

/-- A finish reason other than `STOP`, where none is empty. -/
theorem Candidate.nonStopFinish_eq
    (h : candidate.finishReason ≠ some "") : candidate.nonStopFinish =
      decide (candidate.finishReason.isSome ∧ candidate.finishReason ≠ some "STOP") := by
  unfold nonStopFinish
  cases hreason : candidate.finishReason with
  | none => rfl
  | some reason =>
    have hempty : reason ≠ "" := fun heq => h (hreason.trans (congrArg some heq))
    simp [hempty]

/-- The number of finish reasons before those of tool calls are taken back. -/
theorem finishReasons_map (hplain : ∀ candidate ∈ candidates, Plain marshal candidate)
    (hreason : ∀ candidate ∈ candidates, candidate.finishReason ≠ some "") :
    ((candidates.map (convertCandidate marshal)).filterMap Choice.finishReason).length =
      candidates.countP fun candidate => candidate.hasCall || candidate.nonStopFinish := by
  rw [length_filterMap_eq_countP, countP_map]
  refine countP_congr fun candidate hmem => ?_
  rw [Function.comp_apply, (hplain candidate hmem).finishReason,
    nonStopFinish_eq (hreason candidate hmem)]
  split_ifs with hcall hstop
  · simp [hcall]
  · simp [hcall, hstop]
  · simp [hcall, hstop]

theorem chatFinishReason_ne (reason : String) : chatFinishReason reason ≠ "" := by
  unfold chatFinishReason
  split <;> decide

theorem finishReason_ne {choice : Choice} (hmem : choice ∈ convertChoices marshal candidates) :
    choice.finishReason ≠ some "" := by
  have hone : ∀ candidate, (convertCandidate marshal candidate).finishReason ≠ some "" := by
    intro candidate
    unfold convertCandidate
    dsimp only
    intro hempty
    split at hempty
    · exact absurd hempty (by decide)
    · obtain ⟨reason, -, hreason⟩ := map_eq_some_iff.1 hempty
      exact chatFinishReason_ne reason hreason
  unfold convertChoices at hmem
  dsimp only at hmem
  split at hmem
  · obtain ⟨before, hbefore, rfl⟩ := List.mem_map.1 hmem
    obtain ⟨candidate, -, rfl⟩ := List.mem_map.1 hbefore
    unfold clearToolCallsFinish
    split
    · exact (some_ne_none "").symm
    · exact hone candidate
  · obtain ⟨candidate, -, rfl⟩ := List.mem_map.1 hmem
    exact hone candidate

theorem any_finished (choices : List Choice)
    (h : ∀ choice ∈ choices, choice.finishReason ≠ some "") :
    choices.any finished = !(choices.filterMap Choice.finishReason).isEmpty := by
  induction choices with
  | nil => rfl
  | cons choice rest ih =>
    rw [forall_mem_cons] at h
    rw [any_cons, ih h.2, finished]
    cases hreason : choice.finishReason with
    | none => rw [filterMap_cons_none hreason, any_none, Bool.false_or]
    | some reason =>
      have hempty : reason ≠ "" := fun heq => h.1 (hreason.trans (congrArg some heq))
      rw [filterMap_cons_some hreason]
      simp [hempty]

theorem isToolCall_map (hplain : ∀ candidate ∈ candidates, Plain marshal candidate) :
    isToolCall (candidates.map (convertCandidate marshal)) =
      candidates.head?.any hasCall := by
  cases candidates with
  | nil => rfl
  | cons first rest =>
    have hnil := (hplain first mem_cons_self).toolCalls_eq_nil
    change (!(convertCandidate marshal first).delta.toolCalls.isEmpty) = first.hasCall
    cases hcall : first.hasCall with
    | false => rw [hnil.2 hcall, isEmpty_nil, Bool.not_true]
    | true =>
      rw [Bool.not_eq_true', isEmpty_eq_false_iff]
      intro hempty
      rw [hnil.1 hempty] at hcall
      cases hcall

/-- Without a finish reason other than `STOP` a choice has at most that of a tool call. -/
theorem Plain.finishReason_stop (h : Plain marshal candidate)
    (hreason : candidate.finishReason ≠ some "") (hnon : candidate.nonStopFinish = false) :
    (convertCandidate marshal candidate).finishReason =
      if candidate.hasCall then some "tool_calls" else none := by
  rw [nonStopFinish_eq hreason, decide_eq_false_iff_not] at hnon
  rw [h.finishReason]
  split_ifs with hcall hstop
  · rfl
  · rfl
  · simpa [hstop] using hnon

variable {ended : Bool}

/-- The number of finish reasons in a response. -/
theorem finishReasons_convertChoices
    (hplain : ∀ candidate ∈ candidates, Plain marshal candidate)
    (hfinish : Finishes ended candidates) :
    ((convertChoices marshal candidates).filterMap Choice.finishReason).length =
      if candidates.any nonStopFinish then 1 else 0 := by
  obtain ⟨hreason, hcases⟩ := hfinish
  have hcount := finishReasons_map hplain hreason
  unfold convertChoices
  dsimp only
  cases hnon : candidates.any nonStopFinish with
  | true =>
    rw [hnon, if_pos rfl] at hcases
    rw [Bool.not_true, Bool.and_false, if_neg Bool.false_ne_true, hcount]
    exact hcases.2
  | false =>
    rw [hnon, if_neg Bool.false_ne_true] at hcases
    have hstop : ∀ candidate ∈ candidates, (convertCandidate marshal candidate).finishReason =
        if candidate.hasCall then some "tool_calls" else none := fun candidate hmem =>
      (hplain candidate hmem).finishReason_stop (hreason candidate hmem)
        (Bool.eq_false_iff.2 fun h => List.any_eq_false.1 hnon candidate hmem h)
    rw [if_neg Bool.false_ne_true, length_eq_zero_iff, filterMap_eq_nil_iff]
    intro choice hmem
    rw [isToolCall_map hplain, Bool.not_false, Bool.and_true] at hmem
    split at hmem
    · obtain ⟨before, hbefore, rfl⟩ := List.mem_map.1 hmem
      obtain ⟨candidate, hcandidate, rfl⟩ := List.mem_map.1 hbefore
      have hone := hstop candidate hcandidate
      unfold clearToolCallsFinish
      split
      · rfl
      rename_i hne
      cases hcall : candidate.hasCall with
      | true =>
        rw [hcall, if_pos rfl] at hone
        exact absurd hone hne
      | false => rw [hone, hcall, if_neg Bool.false_ne_true]
    next hhead =>
      obtain ⟨candidate, hcandidate, rfl⟩ := List.mem_map.1 hmem
      have hcall : candidate.hasCall = false := by
        rw [← Bool.not_eq_true]
        exact fun hcall => hhead (hcases (List.any_eq_true.2 ⟨candidate, hcandidate, hcall⟩))
      rw [hstop candidate hcandidate, hcall, if_neg Bool.false_ne_true]

/-- A response has a finish reason when it has one that is not `STOP`, or one that is. -/
theorem any_isSome_finishReason
    (hreason : ∀ candidate ∈ candidates, candidate.finishReason ≠ some "") :
    (candidates.any fun candidate => candidate.finishReason.isSome) =
      (candidates.any nonStopFinish ||
        candidates.any fun candidate => candidate.finishReason = some "STOP") := by
  induction candidates with
  | nil => rfl
  | cons candidate rest ih =>
    rw [forall_mem_cons] at hreason
    rw [any_cons, any_cons, any_cons, ih hreason.2, nonStopFinish_eq hreason.1]
    by_cases hstop : candidate.finishReason = some "STOP" <;> simp [hstop, Bool.or_assoc]

theorem finishReasons_append (a b : List (Chunk U)) :
    finishReasons (a ++ b) = finishReasons a ++ finishReasons b := by
  unfold finishReasons
  rw [flatMap_append, filterMap_append]

/-- The state knows whether a finish reason has been emitted, and there is one at most. -/
structure Emitted (s : State U) (chunks : List (Chunk U)) (ended : Bool) : Prop where
  flag : s.finishEmitted = ended
  count : (finishReasons chunks).length = if ended then 1 else 0

theorem finishReasons_terminal (s : State U) (model : String) :
    (finishReasons [(terminalChunk s model).2]).length = 1 := rfl

variable {chunks : List (Chunk U)} {s : State U}

section

variable (h : Emitted s chunks ended)

include h

/-- One response. -/
theorem Emitted.convertChunk {input : Input U A}
    (hplain : ∀ candidate ∈ input.candidates, Plain marshal candidate)
    (hfinish : Finishes ended input.candidates) :
    Emitted (convertChunk marshal s input).1
      (chunks ++ (GeminiToChat.convertChunk marshal s input).2) (ended || input.ends) := by
  have hcount := finishReasons_convertChoices hplain hfinish
  have hany := any_finished (convertChoices marshal input.candidates)
    fun choice hmem => finishReason_ne hmem
  have hresponse : ∀ id model created usage, (finishReasons
      [(⟨id, model, created, convertChoices marshal input.candidates, usage⟩ : Chunk U)]).length =
        if input.candidates.any nonStopFinish then 1 else 0 := by
    intro id model created usage
    rw [← hcount, finishReasons, flatMap_singleton]
  rw [Input.ends, any_isSome_finishReason hfinish.1]
  unfold GeminiToChat.convertChunk
  dsimp only
  cases hnon : input.candidates.any nonStopFinish with
  | true =>
    rw [hnon, if_pos rfl] at hcount
    have hended : ended = false := by
      have hcases := hfinish.2
      rw [hnon, if_pos rfl] at hcases
      exact hcases.1
    have hfinished : (convertChoices marshal input.candidates).any finished = true := by
      rw [hany, Bool.not_eq_true', isEmpty_eq_false_iff, ← length_pos_iff, hcount]
      exact Nat.one_pos
    rw [hfinished, Bool.or_true, Bool.not_true, Bool.and_false, if_neg Bool.false_ne_true]
    refine ⟨by simp, ?_⟩
    rw [finishReasons_append, length_append, h.count, hresponse, hnon, hended]
    rfl
  | false =>
    rw [hnon, if_neg Bool.false_ne_true, length_eq_zero_iff] at hcount
    rw [hany, hcount, isEmpty_nil, Bool.not_true, Bool.or_false, h.flag, Bool.false_or]
    cases hstop : input.candidates.any fun candidate => candidate.finishReason = some "STOP" with
    | false =>
      rw [Bool.false_and, if_neg Bool.false_ne_true, Bool.or_false]
      refine ⟨rfl, ?_⟩
      rw [finishReasons_append, length_append, h.count, hresponse, hnon]
      rfl
    | true =>
      rw [Bool.true_and, Bool.or_true]
      cases hended : ended with
      | false =>
        rw [Bool.not_false, if_pos rfl]
        refine ⟨rfl, ?_⟩
        rw [append_cons, finishReasons_append, finishReasons_append, length_append,
          length_append, h.count, hresponse, hnon, hended, finishReasons_terminal]
        rfl
      | true =>
        rw [Bool.not_true, if_neg Bool.false_ne_true]
        refine ⟨rfl, ?_⟩
        rw [finishReasons_append, length_append, h.count, hresponse, hnon, hended]
        rfl

/-- All responses. -/
theorem Emitted.convertFrom {inputs : List (Input U A)}
    (hplain : ∀ candidate ∈ inputs.flatMap Input.candidates, Plain marshal candidate)
    (hfinish : FinishesFrom ended inputs) :
    ∃ ended', Emitted (convertFrom marshal s inputs).1
      (chunks ++ (GeminiToChat.convertFrom marshal s inputs).2) ended' := by
  induction inputs generalizing s chunks ended with
  | nil =>
    rw [GeminiToChat.convertFrom, append_nil]
    exact ⟨ended, h⟩
  | cons input rest ih =>
    have hone := h.convertChunk (fun c hc => hplain c (mem_append_left _ hc)) hfinish.1
    rw [GeminiToChat.convertFrom, ← append_assoc]
    exact ih hone (fun c hc => hplain c (mem_append_right _ hc)) hfinish.2

theorem Emitted.finalize (model : String) :
    (finishReasons (chunks ++ (finalize s model).2)).length = 1 := by
  unfold GeminiToChat.finalize
  rw [h.flag]
  cases hended : ended with
  | true =>
    rw [if_pos rfl, append_nil, h.count, hended]
    rfl
  | false =>
    rw [if_neg Bool.false_ne_true, finishReasons_append, length_append, h.count, hended,
      finishReasons_terminal]
    rfl

end

end Finish

/-! ## The theorem -/

/-- The responses can be reported. -/
structure Reportable (marshal : A → Option Text) (inputs : List (Input U A)) : Prop where
  plain : ∀ candidate ∈ inputs.flatMap Input.candidates, Plain marshal candidate
  once : (inputs.flatMap Input.candidates).Pairwise fun a b =>
    a.index = b.index → a.hasCall = false ∨ b.hasCall = false
  finishes : FinishesFrom false inputs

theorem Reportable.toolCalls {marshal : A → Option Text} {inputs : List (Input U A)}
    (h : Reportable marshal inputs) (c : ℤ) :
    (((candidatesOf c inputs).flatMap fun candidate =>
      (convertCandidate marshal candidate).delta.toolCalls).map ToolCall.index).Nodup := by
  have hplain : ∀ candidate ∈ candidatesOf c inputs, Plain marshal candidate :=
    fun candidate hmem => h.plain candidate (mem_of_mem_filter hmem)
  have hpairs : (candidatesOf c inputs).Pairwise fun a b =>
      (convertCandidate marshal a).delta.toolCalls = [] ∨
        (convertCandidate marshal b).delta.toolCalls = [] := by
    have honce : (candidatesOf c inputs).Pairwise fun a b =>
        a.hasCall = false ∨ b.hasCall = false := by
      refine pairwise_filter.2 (h.once.imp fun hab ha hb => hab ?_)
      exact (of_decide_eq_true ha).trans (of_decide_eq_true hb).symm
    refine honce.imp_of_mem fun ha hb hab => ?_
    rwa [(hplain _ ha).toolCalls_eq_nil, (hplain _ hb).toolCalls_eq_nil]
  rcases flatMap_cases hpairs with hnil | ⟨candidate, hmem, heq⟩
  · rw [hnil]
    exact nodup_nil
  · rw [heq]
    exact (hplain candidate hmem).indexes

/-- A client that merges by index gets each call alone. -/
theorem filter_index_eq {calls : List ToolCall} (h : (calls.map ToolCall.index).Nodup)
    {call : ToolCall} (hmem : call ∈ calls) :
    calls.filter (fun other => other.index = call.index) = [call] := by
  induction calls with
  | nil => cases hmem
  | cons first rest ih =>
    rw [map_cons, nodup_cons] at h
    obtain ⟨hnot, hrest⟩ := h
    rcases mem_cons.1 hmem with rfl | hmem
    · rw [filter_cons_of_pos (by simp), filter_eq_nil_iff.2]
      intro other hother heq
      exact hnot (of_decide_eq_true heq ▸ List.mem_map_of_mem hother)
    · rw [filter_cons_of_neg, ih hrest hmem]
      intro heq
      exact hnot (of_decide_eq_true heq ▸ List.mem_map_of_mem hmem)

/-- The chunks report the stream when the function calls of each candidate come in one response,
no candidate mixes thoughts with content in one response, and at most one finish reason other
than `STOP` comes, before any other. -/
theorem stream_reported (marshal : A → Option Text) (id : String) (created : ℤ)
    (inputs : List (Input U A)) (model : String) (h : Reportable marshal inputs) :
    Reported marshal inputs (convert marshal id created inputs model) := by
  have hplain : ∀ c, ∀ candidate ∈ candidatesOf c inputs, Plain marshal candidate :=
    fun c candidate hmem => h.plain candidate (mem_of_mem_filter hmem)
  have hcalls : ∀ c, toolCallsOf c (convert marshal id created inputs model) =
      (candidatesOf c inputs).flatMap fun candidate =>
        (convertCandidate marshal candidate).delta.toolCalls :=
    fun c => carriedBy_convert (g := Delta.toolCalls) rfl c id created inputs model
  have hindexes : ∀ c, ((toolCallsOf c (convert marshal id created inputs model)).map
      ToolCall.index).Nodup := by
    intro c
    rw [hcalls]
    exact h.toolCalls c
  constructor
  · exact hindexes
  · intro c call hmem
    exact filter_index_eq (hindexes c) hmem
  · intro c
    rw [hcalls, map_flatMap]
    exact flatMap_congr fun candidate hmem => (hplain c candidate hmem).calls
  · intro c
    rw [carriedBy_convert (g := Delta.getContentString) rfl]
    exact flatMap_congr fun candidate hmem => (hplain c candidate hmem).texts.1
  · intro c
    rw [carriedBy_convert (g := Delta.getReasoningContent) rfl]
    exact flatMap_congr fun candidate hmem => (hplain c candidate hmem).texts.2
  · have hstart : Emitted { id, created : State U } [] false := ⟨rfl, rfl⟩
    obtain ⟨ended, hemitted⟩ := hstart.convertFrom h.plain h.finishes
    exact hemitted.finalize model

/-- A response with one candidate. -/
def responseOf (parts : List (Part Text)) (finishReason : Option String) : Input Unit Text :=
  { candidates := [{ parts, finishReason }] }

def callPart (name : String) (arguments : Text) : Part Text :=
  { functionCall := some ⟨name, arguments, "u"⟩ }

theorem stream_reported_three :
    let inputs := [responseOf [{ text := ['a'], thought := true }] none,
      responseOf [{ text := ['b'] }, callPart "f" ['1'], callPart "g" ['2']] none,
      responseOf [{ text := ['c'] }] (some "STOP")]
    Reported some inputs (convert some "id" 0 inputs "m") :=
  stream_reported _ _ _ _ _ ⟨by decide +kernel, by decide +kernel, by decide +kernel⟩

/-! ## Where calls are confused -/

/-- Two responses with one function call each. -/
def twoCalls : List (Input Unit Text) :=
  [responseOf [callPart "f" ['1']] none, responseOf [callPart "g" ['2']] (some "STOP")]

/-- Both calls get the index 0. -/
theorem call_index_repeated :
    (toolCallsOf 0 (convert some "id" 0 twoCalls "m")).map
        (fun call => (call.index, call.name, call.arguments)) =
      [(some 0, "f", ['1']), (some 0, "g", ['2'])] ∧
      ¬ Reported some twoCalls (convert some "id" 0 twoCalls "m") := by
  refine ⟨by decide +kernel, fun h => ?_⟩
  exact absurd (h.indexes 0) (by decide +kernel)

end OmniRouters.Convert.GeminiToChat
