import Mathlib.Algebra.Order.BigOperators.Group.List
import Mathlib.Algebra.Order.Group.Nat
import Mathlib.Data.List.Nodup
import OmniRouters.Convert.Chunks

/-!
# From Chat Completions chunks to Gemini responses

Model of `StreamResponseOpenAI2Gemini`
(relaykit/relayconvert/internal/oai_chat/to_gemini_chat_resp.go:93-202), which converts
every chunk of a stream on its own: `executeResponseStreamSteps` keeps no state for it. The JSON
decoder of a call's arguments and the usage report of a response are parameters.

* `outputs_convert`: the parts of a choice are those of its deltas, the skipped chunks having none.
* `functionCalls_convert`: every fragment of a tool call becomes a function call.
* `convert_delivers_iff`: the stream is delivered exactly when every call comes in one fragment and
  no delta has both tool calls and text.
* `convert_splits`: a call that comes in two fragments becomes two function calls, and the text
  beside it is lost.
-/

namespace OmniRouters.Convert.ChatToGemini

open List

/-- The maps `map[string]interface{}` of arguments: decoding one, the empty one, and the one with
the raw text under `arguments`. -/
structure Codec (A : Type) where
  unmarshal : Text → Option A
  empty : A
  wrap : Text → A

/-- What the converter reads of a delta. The slice of tool calls may be `nil` or empty. -/
structure Delta where
  content : Option Text := none
  toolCalls : Option (List ToolCall) := none

/-- `GetContentString`. -/
def Delta.getContentString (delta : Delta) : Text := delta.content.getD []

/-- `ChatCompletionsStreamResponseChoice`. -/
structure Choice where
  index : ℤ := 0
  delta : Delta
  finishReason : Option String := none

/-- `ChatCompletionsStreamResponse`. -/
structure Chunk (U : Type) where
  choices : List Choice
  usage : Option U := none

/-- `FunctionCall` of a Gemini part. -/
structure FunctionCall (A : Type) where
  functionName : String
  arguments : A
deriving DecidableEq

/-- `GeminiPart`. -/
structure Part (A : Type) where
  text : Text := []
  functionCall : Option (FunctionCall A) := none

/-- `GeminiChatCandidate`, whose content has the role `model`. -/
structure Candidate (A : Type) where
  index : ℤ
  finishReason : Option String
  parts : List (Part A)

/-- `GeminiChatResponse`. -/
structure Response (A M : Type) where
  candidates : List (Candidate A)
  usageMetadata : M

variable {A U M : Type} (codec : Codec A) (usageMetadata : Option U → M)

/-! ## The converter -/

/-- The finish reason of a candidate (lines 142-157). -/
def finishReason : String → String
  | "stop" => "STOP"
  | "length" => "MAX_TOKENS"
  | "content_filter" => "SAFETY"
  | "tool_calls" => "STOP"
  | _ => "STOP"

/-- The arguments of a part (lines 169-176). -/
def Codec.arguments (raw : Text) : A :=
  if raw ≠ [] then
    match codec.unmarshal raw with
    | some args => args
    | none => codec.wrap raw
  else codec.empty

/-- The function call of a fragment. -/
def functionCall (toolCall : ToolCall) : FunctionCall A :=
  ⟨toolCall.name, codec.arguments toolCall.arguments⟩

/-- The parts of a delta (lines 165-195). -/
def Delta.parts (delta : Delta) : List (Part A) :=
  match delta.toolCalls with
  | some toolCalls => toolCalls.map fun toolCall => { functionCall := functionCall codec toolCall }
  | none => if delta.getContentString ≠ [] then [{ text := delta.getContentString }] else []

def Choice.candidate (choice : Choice) : Candidate A where
  index := choice.index
  finishReason := choice.finishReason.map ChatToGemini.finishReason
  parts := choice.delta.parts codec

/-- The delta has text or tool calls (line 98). -/
def Delta.hasContent (delta : Delta) : Bool :=
  0 < delta.getContentString.length || delta.toolCalls.any (0 < ·.length)

/-- `StreamResponseOpenAI2Gemini`. -/
def streamResponseOpenAI2Gemini (chunk : Chunk U) : Option (Response A M) :=
  if !(chunk.choices.any (·.delta.hasContent)) && !(chunk.choices.any (·.finishReason.isSome)) then
    none
  else some ⟨chunk.choices.map (Choice.candidate codec), usageMetadata chunk.usage⟩

/-- The responses of a stream (`executeResponseStreamSteps`). -/
def convert (chunks : List (Chunk U)) : List (Response A M) :=
  chunks.filterMap (streamResponseOpenAI2Gemini codec usageMetadata)

/-! ## What a stream says -/

/-- The parts of a candidate in all responses. -/
def outputs (index : ℤ) (responses : List (Response A M)) : List (Part A) :=
  responses.flatMap fun response => (response.candidates.filter (·.index = index)).flatMap (·.parts)

/-- The function calls of a candidate. -/
def functionCalls (index : ℤ) (responses : List (Response A M)) : List (FunctionCall A) :=
  (outputs index responses).filterMap (·.functionCall)

/-- The deltas of a choice. -/
def deltas (index : ℤ) (chunks : List (Chunk U)) : List Delta :=
  chunks.flatMap fun chunk => (chunk.choices.filter (·.index = index)).map (·.delta)

/-- The fragments of tool calls in a delta, each with the index of its call. -/
def Delta.fragments (delta : Delta) : List (ℤ × ToolCall) :=
  (delta.toolCalls.getD []).zipIdx.map fun entry => (entry.1.offset entry.2, entry.1)

/-- The fragments of a choice. -/
def fragments (index : ℤ) (chunks : List (Chunk U)) : List (ℤ × ToolCall) :=
  (deltas index chunks).flatMap Delta.fragments

/-- The tool calls of a choice, in the order in which they start. -/
def calls (index : ℤ) (chunks : List (Chunk U)) : List Call :=
  (fragments index chunks).foldl addFragment []

/-- The text denotes the map: it is decoded to it, or nothing is given for the empty map. -/
def Codec.Denotes (raw : Text) (args : A) : Prop :=
  raw ≠ [] ∧ codec.unmarshal raw = some args ∨ raw = [] ∧ args = codec.empty

/-- The responses have one function call for each tool call, with its name and the map that its
arguments denote, and the text. -/
def Delivers (chunks : List (Chunk U)) (responses : List (Response A M)) : Prop :=
  ∀ index, List.Forall₂ (fun call part => part.functionName = call.name ∧
      ∀ args, codec.Denotes call.arguments args → part.arguments = args)
    (calls index chunks) (functionCalls index responses) ∧
  (outputs index responses).flatMap (·.text) = (deltas index chunks).flatMap (·.getContentString)

/-! ## The converted stream -/

theorem Codec.arguments_of_denotes {raw : Text} {args : A} (h : codec.Denotes raw args) :
    codec.arguments raw = args := by
  rcases h with ⟨hne, hdec⟩ | ⟨rfl, rfl⟩
  · simp [Codec.arguments, hne, hdec]
  · simp [Codec.arguments]

theorem Delta.parts_of_not_hasContent {delta : Delta} (h : delta.hasContent = false) :
    delta.parts codec = [] := by
  simp only [Delta.hasContent, Bool.or_eq_false_iff, decide_eq_false_iff_not, not_lt] at h
  cases ht : delta.toolCalls with
  | none => simpa [Delta.parts, ht] using h.1
  | some toolCalls => simpa [Delta.parts, ht] using h.2

theorem outputs_convert (index : ℤ) (chunks : List (Chunk U)) :
    outputs index (convert codec usageMetadata chunks) =
      (deltas index chunks).flatMap (Delta.parts codec) := by
  induction chunks with
  | nil => rfl
  | cons chunk chunks ih =>
    simp only [outputs, convert, deltas, flatMap_cons, flatMap_append] at ih ⊢
    rw [← ih, filterMap_cons, streamResponseOpenAI2Gemini]
    split_ifs with hskip
    · -- a skipped chunk has no delta with content
      simp only [Bool.and_eq_true, Bool.not_eq_true', any_eq_false, Bool.not_eq_true] at hskip
      have hnone : ((chunk.choices.filter (·.index = index)).map (·.delta)).flatMap
          (Delta.parts codec) = [] := by
        rw [flatMap_eq_nil_iff]
        intro delta hdelta
        obtain ⟨choice, hchoice, rfl⟩ := mem_map.1 hdelta
        exact Delta.parts_of_not_hasContent codec (hskip.1 choice (mem_filter.1 hchoice).1)
      rw [hnone, nil_append]
    · simp only [flatMap_cons, filter_map, flatMap_map]
      rfl

theorem functionCalls_convert (index : ℤ) (chunks : List (Chunk U)) :
    functionCalls index (convert codec usageMetadata chunks) =
      (fragments index chunks).map fun fragment => functionCall codec fragment.2 := by
  rw [functionCalls, outputs_convert, fragments, filterMap_flatMap, map_flatMap]
  congr 1
  funext delta
  cases ht : delta.toolCalls with
  | none =>
    simp only [Delta.parts, Delta.fragments, ht]
    split_ifs <;> rfl
  | some toolCalls =>
    have hfst : toolCalls.map (functionCall codec) =
        toolCalls.zipIdx.map (functionCall codec ∘ Prod.fst) := by
      rw [← map_map, zipIdx_map_fst]
    simp only [Delta.parts, Delta.fragments, ht, filterMap_map, map_map, Option.getD_some]
    exact (congrFun filterMap_eq_map _).trans hfst

theorem foldl_addFragment (fragments : List (ℤ × ToolCall)) :
    ∀ calls : List Call, (calls.map (·.index) ++ fragments.map (·.1)).Nodup →
      fragments.foldl addFragment calls =
        calls ++ fragments.map fun f => ⟨f.1, f.2.id, f.2.name, f.2.arguments⟩ := by
  induction fragments with
  | nil => simp
  | cons fragment fragments ih =>
    intro calls h
    have hfresh : ∀ call ∈ calls, call.index ≠ fragment.1 := by
      intro call hcall heq
      exact disjoint_of_nodup_append h (mem_map_of_mem hcall) (by simp [heq])
    rw [foldl_cons, addFragment_new hfresh, ih _ (by simpa using h)]
    simp

theorem length_addFragment_le (calls : List Call) (fragment : ℤ × ToolCall) :
    (addFragment calls fragment).length ≤ calls.length + 1 := by
  unfold addFragment
  split <;> simp

theorem length_foldl_addFragment_le (fragments : List (ℤ × ToolCall)) :
    ∀ calls, (fragments.foldl addFragment calls).length ≤ calls.length + fragments.length := by
  induction fragments with
  | nil => exact fun calls => le_rfl
  | cons fragment fragments ih =>
    intro calls
    have hone := length_addFragment_le calls fragment
    have hrest := ih (addFragment calls fragment)
    rw [foldl_cons, length_cons]
    omega

/-- If there are as many calls as fragments, no fragment extends a call. -/
theorem nodup_of_length_foldl (fragments : List (ℤ × ToolCall)) :
    ∀ calls : List Call, (calls.map (·.index)).Nodup →
      (fragments.foldl addFragment calls).length = calls.length + fragments.length →
      (calls.map (·.index) ++ fragments.map (·.1)).Nodup := by
  induction fragments with
  | nil => simp
  | cons fragment fragments ih =>
    intro calls hnodup hlength
    rw [foldl_cons, length_cons] at hlength
    by_cases hmem : fragment.1 ∈ calls.map (·.index)
    · -- the fragment extends a call, and one call is missing at the end
      have hle := length_foldl_addFragment_le fragments (addFragment calls fragment)
      rw [hlength, addFragment, if_pos hmem, length_map] at hle
      omega
    · have hall := ih (addFragment calls fragment)
      rw [addFragment, if_neg hmem] at hall hlength
      have hfresh : (calls.map (·.index) ++ [fragment.1]).Nodup :=
        nodup_append.2 ⟨hnodup, nodup_singleton _, fun i hi j hj hij =>
          hmem (mem_singleton.1 hj ▸ hij ▸ hi)⟩
      simpa using hall (by simpa using hfresh) (by rw [hlength]; simp; omega)

/-- The text of a delta is lost beside tool calls. -/
theorem Delta.text_parts (delta : Delta) : (delta.parts codec).flatMap (·.text) =
    if delta.toolCalls = none then delta.getContentString else [] := by
  unfold Delta.parts
  cases delta.toolCalls with
  | none =>
    by_cases htext : delta.getContentString = [] <;> simp [htext]
  | some toolCalls => simp [flatMap_map]

/-- No text is lost exactly where no delta has text beside tool calls. -/
theorem flatMap_text_iff (deltas : List Delta) :
    (deltas.flatMap (Delta.parts codec)).flatMap (·.text) = deltas.flatMap (·.getContentString) ↔
      ∀ delta ∈ deltas, delta.toolCalls = none ∨ delta.getContentString = [] := by
  rw [flatMap_assoc]
  simp only [Delta.text_parts]
  constructor
  · intro h delta hdelta
    by_contra hlost
    obtain ⟨hsome, htext⟩ := not_or.1 hlost
    have hlt := sum_lt_sum (l := deltas) (fun d =>
        (if d.toolCalls = none then d.getContentString else []).length)
      (fun d => d.getContentString.length) (fun d _ => by split <;> simp)
      ⟨delta, hdelta, by simpa [hsome, length_pos_iff] using htext⟩
    rw [← length_flatMap, ← length_flatMap, h] at hlt
    exact lt_irrefl _ hlt
  · intro h
    refine flatMap_congr fun delta hdelta => ?_
    rcases h delta hdelta with hnone | htext
    · rw [if_pos hnone]
    · rw [htext, ite_self]

/-- The stream is delivered exactly when the fragments of a choice belong to different calls and no
delta has both a list of tool calls and text. -/
theorem convert_delivers_iff (chunks : List (Chunk U)) :
    Delivers codec chunks (convert codec usageMetadata chunks) ↔
      ∀ index, ((fragments index chunks).map (·.1)).Nodup ∧
        ∀ delta ∈ deltas index chunks, delta.toolCalls = none ∨ delta.getContentString = [] := by
  refine forall_congr' fun index => ?_
  rw [functionCalls_convert, outputs_convert, flatMap_text_iff]
  refine and_congr_left fun _ => ⟨fun h => ?_, fun hwhole => ?_⟩
  · have hlength := h.length_eq
    rw [length_map] at hlength
    exact nodup_of_length_foldl _ [] nodup_nil (hlength.trans (Nat.zero_add _).symm)
  · rw [calls, foldl_addFragment _ [] hwhole, nil_append, forall₂_map_left_iff,
      forall₂_map_right_iff, forall₂_same]
    intro fragment _
    exact ⟨rfl, fun args h => codec.arguments_of_denotes h⟩

/-- Maps as their texts; a text in braces is one. -/
def bracedCodec : Codec Text where
  unmarshal raw := if raw.head? = some '\x7b' ∧ raw.getLast? = some '\x7d' then some raw else none
  empty := "\x7b\x7d".toList
  wrap raw := "\x7b\"arguments\":\"".toList ++ raw ++ "\"\x7d".toList

/-- A chunk of one choice. -/
def chunkOf (delta : Delta) (finishReason : Option String := none) : Chunk Unit where
  choices := [{ delta, finishReason }]

/-- A call whose arguments come in two fragments, the first with a text beside it. -/
def splitStream : List (Chunk Unit) :=
  [chunkOf { content := some "a".toList, toolCalls := some [⟨some 0, "1", "f", ['\x7b']⟩] },
    chunkOf { toolCalls := some [⟨some 0, "", "", ['\x7d']⟩] }]

/-- The split call becomes two function calls, neither with its arguments, and the text is lost. -/
theorem convert_splits :
    calls 0 splitStream = [⟨0, "1", "f", ['\x7b', '\x7d']⟩] ∧
    functionCalls 0 (convert bracedCodec (fun _ => ()) splitStream) =
      [⟨"f", bracedCodec.wrap ['\x7b']⟩, ⟨"", bracedCodec.wrap ['\x7d']⟩] ∧
    (outputs 0 (convert bracedCodec (fun _ => ()) splitStream)).flatMap (·.text) = [] ∧
    ¬ Delivers bracedCodec splitStream (convert bracedCodec (fun _ => ()) splitStream) := by
  refine ⟨by decide +kernel, by decide +kernel, by decide +kernel, fun h => ?_⟩
  have hlen := (h 0).1.length_eq
  revert hlen
  decide +kernel

end OmniRouters.Convert.ChatToGemini
