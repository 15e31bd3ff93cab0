import OmniRouters.Convert.ChatToClaude
import OmniRouters.Convert.ResponsesOutput

/-!
# From Responses events to Anthropic events

Model of `ResponsesToClaudeStreamState`
(`relaykit/relayconvert/internal/oai_responses/to_claude_messages_stream_resp.go`). The content of
an item arrives up to three times, in deltas, in its `output_item.done` and in the terminal
response; a block keeps the value so far and how much of it has been sent.

Blocks are pointers in the source; here they are positions in the list `blocks`. A function on a
block takes the block and returns it, and `onBlock` writes it back. The usage text is left out.
-/

namespace OmniRouters.Convert.ResponsesToClaude

open OmniRouters.Convert.Responses
open OmniRouters.Billing (trimSpace)
open OmniRouters.Convert.ChatToClaude (stopReasonOpenAI2Claude)

variable {U : Type}

/-! ## State -/

/-- The kinds of blocks. -/
inductive Kind
  | text
  | thinking
  | toolUse
deriving DecidableEq

def Kind.label : Kind → String
  | .text => "text"
  | .thinking => "thinking"
  | .toolUse => "tool_use"

/-- `responsesClaudeStreamBlock` (lines 30-42). -/
structure StreamBlock where
  index : ℤ
  kind : Kind
  itemId : String := ""
  callId : String := ""
  name : String := ""
  started : Bool := false
  stopped : Bool := false
  value : Text := []
  sentBytes : ℕ := 0
  annotationCount : ℕ := 0
  needsReasoningBreak : Bool := false
deriving DecidableEq

/-- `ResponsesToClaudeStreamState` (lines 14-27). -/
structure State (U : Type) where
  id : String
  model : String
  usage : Option U := none
  sentMessageStart : Bool := false
  done : Bool := false
  sawToolCall : Bool := false
  nextBlockIndex : ℤ := 0
  blocks : List StreamBlock := []
  byOutputIndex : ℤ → Option ℕ := fun _ => none
  byItemId : String → Option ℕ := fun _ => none
  lastByKind : Kind → Option ℕ := fun _ => none

/-- The functions on usage and annotations that the converter calls, and the estimate of the input
tokens that it is given. -/
structure Config (U : Type) where
  mergeUsage : Option U → U → Option U
  inputTokens : U → Option ℤ
  annotationsToClaude : List String → Text → List String
  estimatedInputTokens : ℤ

/-- `NewResponsesToClaudeStreamState` (lines 44-52). -/
def newState (id model : String) : State U := { id := trimSpace id, model := trimSpace model }

/-- `applyResponseMetadata` (lines 182-195). -/
def applyResponseMetadata (cfg : Config U) (s : State U) (response : Option (Response U)) :
    State U :=
  match response with
  | none => s
  | some response =>
    { s with
      id := if response.id ≠ "" then response.id else s.id
      model := if response.model ≠ "" then response.model else s.model
      usage := match response.usage with
        | none => s.usage
        | some usage => cfg.mergeUsage s.usage usage }

/-- `ensureMessageStart` (lines 197-217). -/
def ensureMessageStart (cfg : Config U) (s : State U) : State U × List (Claude.Event U) :=
  if s.sentMessageStart then (s, [])
  else ({ s with sentMessageStart := true },
    [.messageStart s.id s.model
      ((s.usage.bind cfg.inputTokens).getD cfg.estimatedInputTokens)])

/-! ## Blocks -/

/-- A function on a block: it may also start the message. -/
abbrev BlockStep (U : Type) := State U → StreamBlock → State U × StreamBlock × List (Claude.Event U)

/-- The content of the block; a tool needs its name (lines 285-303). -/
def StreamBlock.content (b : StreamBlock) : Option Claude.Block :=
  match b.kind with
  | .text => some .text
  | .thinking => some .thinking
  | .toolUse =>
    if b.name = "" then none
    else some (.toolUse (if b.callId = "" then b.itemId else b.callId) b.name)

/-- `startBlock` (lines 281-309). -/
def startBlock (cfg : Config U) : BlockStep U := fun s b =>
  if b.started || b.stopped then (s, b, [])
  else
    match b.content with
    | none => (s, b, [])
    | some content =>
      let (s, events) := ensureMessageStart cfg
        { s with sawToolCall := s.sawToolCall || b.kind = .toolUse }
      (s, { b with started := true }, events ++ [.contentBlockStart b.index content])

/-- The delta of a block (lines 348-359). -/
def Kind.delta (delta : Text) : Kind → Claude.BlockDelta
  | .text => .text delta
  | .thinking => .thinking delta
  | .toolUse => .inputJson delta

/-- `flushBlock` (lines 332-362): what has not been sent. -/
def flushBlock (cfg : Config U) : BlockStep U := fun s b =>
  if b.stopped then (s, b, [])
  else
    let (s, b, events) := startBlock cfg s b
    if !b.started || b.value.length ≤ b.sentBytes then (s, b, events)
    else (s, { b with sentBytes := b.value.length },
      events ++ [.contentBlockDelta b.index (b.kind.delta (b.value.drop b.sentBytes))])

/-- `appendDelta` (lines 311-317). -/
def appendDelta (cfg : Config U) (delta : Text) : BlockStep U := fun s b =>
  if b.stopped || delta = [] then (s, b, [])
  else flushBlock cfg s { b with value := b.value ++ delta }

/-- The value with a final value (lines 323-328): it is extended if it is the start of the final
value, and stays otherwise. -/
def mergedValue (current finalValue : Text) : Text :=
  if current = [] then finalValue
  else if current.isPrefixOf finalValue then current ++ finalValue.drop current.length
  else current

/-- `mergeFinalValue` (lines 319-330). -/
def mergeFinalValue (cfg : Config U) (finalValue : Text) : BlockStep U := fun s b =>
  if b.stopped then (s, b, [])
  else flushBlock cfg s { b with value := mergedValue b.value finalValue }

/-- `stopBlock` (lines 364-376). -/
def stopBlock (cfg : Config U) : BlockStep U := fun s b =>
  if b.stopped then (s, b, [])
  else
    let (s, b, flushed) := flushBlock cfg s b
    let (s, b, started) := startBlock cfg s b
    if !b.started then (s, b, flushed ++ started)
    else (s, { b with stopped := true }, flushed ++ started ++ [.contentBlockStop b.index])

/-- `appendAnnotations` (lines 426-454). -/
def appendAnnotations (cfg : Config U) (annotations : List String) (snapshot : Bool) :
    BlockStep U := fun s b =>
  if b.kind ≠ .text || b.stopped || annotations = [] then (s, b, [])
  else if snapshot && annotations.length ≤ b.annotationCount then (s, b, [])
  else
    let remaining := if snapshot then annotations.drop b.annotationCount else annotations
    let count := if snapshot then annotations.length else b.annotationCount + annotations.length
    let b := { b with annotationCount := count }
    let citations := cfg.annotationsToClaude remaining b.value
    if citations = [] then (s, b, [])
    else
      let (s, b, events) := startBlock cfg s b
      (s, b, events ++ citations.map fun citation =>
        .contentBlockDelta b.index (.citation citation))

/-- One function after the other. -/
def andThen (f g : BlockStep U) : BlockStep U := fun s b =>
  let (s, b, first) := f s b
  let (s, b, second) := g s b
  (s, b, first ++ second)

/-- A function on the block at a position. -/
def onBlock (s : State U) (p : ℕ) (f : BlockStep U) : State U × List (Claude.Event U) :=
  match s.blocks[p]? with
  | none => (s, [])
  | some b =>
    let (s, b, events) := f s b
    ({ s with blocks := s.blocks.set p b }, events)

/-! ## The block of an event -/

/-- `findBlock` (lines 242-255). -/
def findBlock (s : State U) (event : Event U) : Option ℕ :=
  match event.outputIndex.bind s.byOutputIndex with
  | some p => some p
  | none => if event.itemID ≠ "" then s.byItemId event.itemID else none

/-- The last block of the kind, for an event that names no item (lines 221-225). -/
def lastBlock (s : State U) (event : Event U) (kind : Kind) : Option ℕ :=
  if event.outputIndex = none ∧ event.itemID = "" then
    (s.lastByKind kind).filter fun p => s.blocks[p]?.any fun b => !b.stopped
  else none

/-- The data of a block that an event fills in (lines 264-278). -/
def StreamBlock.withMetadata (b : StreamBlock) (event : Event U) : StreamBlock :=
  let b := if event.itemID ≠ "" then { b with itemId := event.itemID } else b
  match event.item with
  | none => b
  | some item =>
    { b with
      callId := if trimSpace item.callId ≠ "" then trimSpace item.callId
        else if b.callId = "" then trimSpace item.id else b.callId
      name := if trimSpace item.name ≠ "" then trimSpace item.name else b.name }

/-- `applyBlockMetadata` (lines 257-279), and the block becomes the last of its kind (line 238). -/
def applyBlockMetadata (s : State U) (p : ℕ) (event : Event U) (kind : Kind) : State U :=
  { s with
    byOutputIndex := match event.outputIndex with
      | none => s.byOutputIndex
      | some k => Function.update s.byOutputIndex k (some p)
    byItemId := if event.itemID ≠ "" then Function.update s.byItemId event.itemID (some p)
      else s.byItemId
    blocks := s.blocks.modify p fun b => b.withMetadata event
    lastByKind := Function.update s.lastByKind kind (some p) }

/-- A new block (lines 226-230). -/
def addBlock (s : State U) (kind : Kind) : State U :=
  { s with
    nextBlockIndex := s.nextBlockIndex + 1
    blocks := s.blocks ++ [{ index := s.nextBlockIndex, kind }] }

/-- `ensureBlock` (lines 219-240). -/
def ensureBlock (s : State U) (event : Event U) (kind : Kind) : Except String (State U × ℕ) :=
  match findBlock s event <|> lastBlock s event kind with
  | none => .ok (applyBlockMetadata (addBlock s kind) s.blocks.length event kind, s.blocks.length)
  | some p =>
    match s.blocks[p]?.map StreamBlock.kind with
    | none => .error "Responses output item is missing"
    | some found =>
      if found ≠ kind then
        .error ("Responses output item changed from " ++ found.label ++ " to " ++ kind.label)
      else .ok (applyBlockMetadata s p event kind, p)

/-- A function on the block of an event. -/
def onEvent (s : State U) (event : Event U) (kind : Kind) (f : BlockStep U) :
    Except String (State U × List (Claude.Event U)) :=
  match ensureBlock s event kind with
  | .error message => .error message
  | .ok (s, p) => .ok (onBlock s p f)

/-! ## Calls -/

/-- The kind of an item's block; items without one are skipped (lines 383-397). -/
def itemKind (item : Item) : Option Kind :=
  match item.type with
  | .reasoning => some .thinking
  | .message => if item.role ≠ "" ∧ item.role ≠ "assistant" then none else some .text
  | .functionCall => some .toolUse
  | .customToolCall => some .toolUse
  | _ => none

/-- The annotations of a message (lines 407-415). -/
def messageAnnotations (item : Item) : List String :=
  (item.content.filter fun part => part.type = "output_text").flatMap Content.annotations

/-- The content of an item is merged into its block (lines 403-420). -/
def mergeItem (cfg : Config U) (item : Item) : Kind → BlockStep U
  | .thinking => mergeFinalValue cfg (reasoningOutputText item)
  | .text => andThen (mergeFinalValue cfg (messageText item))
      (appendAnnotations cfg (messageAnnotations item) true)
  | .toolUse => mergeFinalValue cfg item.arguments

/-- `applyOutputItem` (lines 378-424). -/
def applyOutputItem (cfg : Config U) (s : State U) (event : Event U) (stop : Bool) :
    Except String (State U × List (Claude.Event U)) :=
  match event.item with
  | none => .ok (s, [])
  | some item =>
    match itemKind item with
    | none => .ok (s, [])
    | some kind =>
      onEvent s event kind (if stop then andThen (mergeItem cfg item kind) (stopBlock cfg)
        else mergeItem cfg item kind)

/-- The loop over the output of a response, from an index on (lines 463-472). -/
def applyOutput (cfg : Config U) : State U → ℕ → List Item →
    Except String (State U × List (Claude.Event U))
  | s, _, [] => .ok (s, [])
  | s, index, item :: rest =>
    match applyOutputItem cfg s
        { type := .outputItemDone, outputIndex := some index, itemId := item.id, item := some item }
        true with
    | .error message => .error message
    | .ok (s, events) =>
      match applyOutput cfg s (index + 1) rest with
      | .error message => .error message
      | .ok (s, others) => .ok (s, events ++ others)

/-- The loop that stops the blocks (lines 474-476). -/
def stopBlocks (cfg : Config U) : State U → List ℕ → State U × List (Claude.Event U)
  | s, [] => (s, [])
  | s, p :: rest =>
    let (s, events) := onBlock s p (stopBlock cfg)
    let (s, others) := stopBlocks cfg s rest
    (s, events ++ others)

/-- `responsesClaudeStopReason` (`to_claude_messages_resp.go`, lines 85-93). -/
def responsesClaudeStopReason (response : Option (Response U)) (sawToolCall : Bool) : String :=
  match finishReasonFromStatus response with
  | some finishReason => stopReasonOpenAI2Claude finishReason
  | none => if sawToolCall then "tool_use" else "end_turn"

/-- `finish` (lines 456-490). -/
def finish (cfg : Config U) (s : State U) (response : Option (Response U)) :
    Except String (State U × List (Claude.Event U)) :=
  if s.done then .ok (s, [])
  else
    let s := applyResponseMetadata cfg s response
    match applyOutput cfg s 0 ((response.map Response.output).getD []) with
    | .error message => .error message
    | .ok (s, items) =>
      let (s, stops) := stopBlocks cfg s (List.range s.blocks.length)
      let (s, started) := ensureMessageStart cfg s
      .ok ({ s with done := true }, items ++ stops ++ started ++
        [.messageDelta (responsesClaudeStopReason response s.sawToolCall) s.usage, .messageStop])

/-- A delta of a reasoning, after a break if one is due (lines 94-104). -/
def appendReasoning (cfg : Config U) (delta : Text) : BlockStep U := fun s b =>
  if b.needsReasoningBreak && delta ≠ [] then
    appendDelta cfg (separatedResponsesDelta delta) s { b with needsReasoningBreak := false }
  else appendDelta cfg delta s b

/-- A final value that may be missing (lines 110-113, 124-132 and 152-160). -/
def mergeOptional (cfg : Config U) (finalValue : Option Text) : BlockStep U := fun s b =>
  match finalValue with
  | none => (s, b, [])
  | some finalValue => mergeFinalValue cfg finalValue s b

/-- The end of a part of a reasoning (lines 105-117). -/
def endReasoningPart (cfg : Config U) (text : Option Text) : BlockStep U := fun s b =>
  let (s, b, events) := mergeOptional cfg text s b
  (s, if b.value ≠ [] then { b with needsReasoningBreak := true } else b, events)

/-- The message of a failed stream (lines 164-169). -/
def streamError (event : Event U) (type : String) : String :=
  "responses stream error: " ++
    if trimSpace event.message = "" then type else trimSpace event.message

/-- `ConvertChunk` (lines 82-173). An annotation that cannot be decoded is `none`. -/
def convertChunk (cfg : Config U) (s : State U) (event : Event U) :
    Except String (State U × List (Claude.Event U)) :=
  if s.done then .ok (s, [])
  else
    let s := applyResponseMetadata cfg s event.response
    match event.type with
    | .created => .ok (ensureMessageStart cfg s)
    | .reasoningSummaryDelta => onEvent s event .thinking (appendReasoning cfg event.delta)
    | .reasoningTextDelta => onEvent s event .thinking (appendReasoning cfg event.delta)
    | .reasoningSummaryDone => onEvent s event .thinking (endReasoningPart cfg event.text)
    | .reasoningTextDone => onEvent s event .thinking (endReasoningPart cfg event.text)
    | .outputTextDelta => onEvent s event .text (appendDelta cfg event.delta)
    | .outputTextDone => onEvent s event .text (mergeOptional cfg event.text)
    | .outputTextAnnotationAdded =>
      match onEvent s event .text (appendAnnotations cfg event.annotation.toList false) with
      | .error message => .error message
      | .ok result =>
        if event.annotation.isNone then .error "invalid Responses stream annotation" else .ok result
    | .outputItemAdded => applyOutputItem cfg s event false
    | .outputItemDone => applyOutputItem cfg s event true
    | .functionArgsDelta => onEvent s event .toolUse (appendDelta cfg event.delta)
    | .customToolInputDelta => onEvent s event .toolUse (appendDelta cfg event.delta)
    | .functionArgsDone => onEvent s event .toolUse (mergeOptional cfg event.arguments)
    | .customToolInputDone => onEvent s event .toolUse (mergeOptional cfg event.arguments)
    | .completed => finish cfg s event.response
    | .done => finish cfg s event.response
    | .incomplete => finish cfg s event.response
    | .failed => .error (streamError event "response.failed")
    | .named "response.error" => .error (streamError event "response.error")
    | _ => .ok (s, [])

/-- A stream of calls. -/
def convertAll (cfg : Config U) : State U → List (Event U) →
    Except String (State U × List (Claude.Event U))
  | s, [] => .ok (s, [])
  | s, event :: rest =>
    match convertChunk cfg s event with
    | .error message => .error message
    | .ok (s, events) =>
      match convertAll cfg s rest with
      | .error message => .error message
      | .ok (s, others) => .ok (s, events ++ others)

end OmniRouters.Convert.ResponsesToClaude
