import Mathlib.Algebra.Order.Ring.Int

/-!
# Chunks of a Chat Completions stream

The data of `ChatCompletionsStreamResponse` (`relaykit/dto/openai_response.go`) that the stream
converters read. The text that a stream carries in pieces is a list of characters; names, ids and
reasons are strings.
-/

namespace OmniRouters.Convert

/-- Streamed text. -/
abbrev Text := List Char

/-- `ToolCallResponse` with its `FunctionResponse`: a fragment of a tool call. -/
structure ToolCall where
  index : Option ℤ
  id : String
  name : String
  arguments : Text
deriving DecidableEq

/-- The index of the fragment at a position of a chunk; by default it is the position. -/
def ToolCall.offset (toolCall : ToolCall) (i : ℕ) : ℤ := toolCall.index.getD i

/-- `ChatCompletionsStreamResponseChoiceDelta`. -/
structure Delta where
  content : Option Text := none
  reasoningContent : Option Text := none
  reasoning : Option Text := none
  toolCalls : List ToolCall := []
deriving DecidableEq

/-- `GetContentString` (lines 168-173). -/
def Delta.getContentString (delta : Delta) : Text := delta.content.getD []

/-- `GetReasoningContent` (lines 175-183). -/
def Delta.getReasoningContent (delta : Delta) : Text :=
  delta.reasoningContent.getD (delta.reasoning.getD [])

/-- `ChatCompletionsStreamResponseChoice`. -/
structure Choice where
  index : ℤ := 0
  delta : Delta
  finishReason : Option String := none
deriving DecidableEq

/-- `ChatCompletionsStreamResponse`, with usage reports of any type. -/
structure Chunk (U : Type) where
  id : String
  model : String
  created : ℤ := 0
  choices : List Choice
  usage : Option U := none
deriving DecidableEq

/-! ## Accumulated tool calls -/

/-- A tool call of a stream: its index, the id and the name it starts with and all its
arguments. -/
structure Call where
  index : ℤ
  id : String
  name : String
  arguments : Text
deriving DecidableEq

/-- A fragment starts a call or extends the call of its index. -/
def addFragment (calls : List Call) (fragment : ℤ × ToolCall) : List Call :=
  if fragment.1 ∈ calls.map (·.index) then
    calls.map fun call => if call.index = fragment.1 then
      { call with arguments := call.arguments ++ fragment.2.arguments } else call
  else calls ++ [⟨fragment.1, fragment.2.id, fragment.2.name, fragment.2.arguments⟩]

theorem addFragment_new {calls : List Call} {i : ℤ} (h : ∀ call ∈ calls, call.index ≠ i)
    (toolCall : ToolCall) : addFragment calls (i, toolCall) =
      calls ++ [⟨i, toolCall.id, toolCall.name, toolCall.arguments⟩] :=
  if_neg fun hmem => by
    obtain ⟨call, hcall, hi⟩ := List.mem_map.1 hmem
    exact h call hcall hi

end OmniRouters.Convert
