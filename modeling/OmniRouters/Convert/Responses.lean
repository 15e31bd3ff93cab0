import OmniRouters.Convert.Chunks

/-!
# Responses events

The events of a Responses stream (`ResponsesStreamResponse`, `relaykit/dto/openai_response.go`) as
far as the converters read them.
-/

namespace OmniRouters.Convert.Responses

/-! ## Data -/

/-- The types of output items. -/
inductive ItemType
  | message
  | reasoning
  | functionCall
  | customToolCall
  | webSearchCall
  | mcpCall
  | named (name : String)
deriving DecidableEq

/-- `ResponsesOutputContent`. -/
structure Content where
  type : String := "output_text"
  text : Text
  annotations : List String := []
deriving DecidableEq

/-- `ResponsesOutput`. The summary is the texts of its parts; raw messages that hold a JSON string
are that string. -/
structure Item where
  type : ItemType
  id : String
  status : String := ""
  role : String := ""
  content : List Content := []
  summary : List Text := []
  callId : String := ""
  name : String := ""
  arguments : Text := []
  input : Text := []
deriving DecidableEq

/-- `OpenAIResponsesResponse`. -/
structure Response (U : Type) where
  id : String
  model : String
  status : String
  incompleteReason : Option String := none
  output : List Item := []
  usage : Option U := none
  error : Option (String × String) := none
deriving DecidableEq

/-- The types of events; the stages of hosted tools are named. -/
inductive EventType
  | created
  | completed
  | done
  | incomplete
  | failed
  | error
  | outputItemAdded
  | outputItemDone
  | outputTextDelta
  | outputTextDone
  | outputTextAnnotationAdded
  | reasoningSummaryPartAdded
  | reasoningSummaryDelta
  | reasoningSummaryDone
  | reasoningSummaryPartDone
  | reasoningTextDelta
  | reasoningTextDone
  | functionArgsDelta
  | functionArgsDone
  | customToolInputDelta
  | customToolInputDone
  | mcpArgsDelta
  | mcpArgsDone
  | named (name : String)
deriving DecidableEq

/-- `ResponsesStreamResponse`. -/
structure Event (U : Type) where
  type : EventType
  response : Option (Response U) := none
  message : String := ""
  delta : Text := []
  arguments : Option Text := none
  text : Option Text := none
  item : Option Item := none
  annotation : Option String := none
  outputIndex : Option ℤ := none
  itemId : String := ""
deriving DecidableEq

/-- The item apart from its status. -/
def Item.plain (item : Item) : Item := { item with status := "" }

end OmniRouters.Convert.Responses
