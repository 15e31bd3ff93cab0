import OmniRouters.Billing.Store
import OmniRouters.Convert.Responses

/-!
# Reading Responses events

Functions that the converters from Responses events share
(`relaykit/relayconvert/internal/oai_responses/to_oai_chat_resp.go`), and `separatedResponsesDelta`
(`to_claude_messages_stream_resp.go`): the parts of a reasoning are separated by a blank line, of a
complete item by `appendSeparatedText`, of a stream by `separatedResponsesDelta`. The first counts
the newlines on both sides, the second only those at the start of the delta.

* `appendSeparatedText_first`, `appendSeparatedText_append`: where the two agree.
-/

namespace OmniRouters.Convert.Responses

open List

open OmniRouters.Billing (trimSpace)

variable {U : Type}

/-- `responseStreamEventItemID` (lines 363-373). -/
def Event.itemID (e : Event U) : String :=
  match e.item with
  | some item => if trimSpace item.id ≠ "" then trimSpace item.id else trimSpace e.itemId
  | none => trimSpace e.itemId

/-- `ResponsesFinishReasonFromStatus` (lines 39-57). -/
def finishReasonFromStatus (response : Option (Response U)) : Option String :=
  match response with
  | none => none
  | some response =>
    if trimSpace response.status ≠ "incomplete" then none
    else if (response.incompleteReason.map trimSpace).getD "" = "content_filter" then
      some "content_filter"
    else some "length"

/-- The text of a message, as the converters collect it (`to_claude_messages_stream_resp.go`, lines
407-415, and `to_oai_chat_stream_resp.go`, lines 195-200). -/
def messageText (item : Item) : Text :=
  (item.content.filter fun part => part.type = "output_text").flatMap Content.text

/-! ## Parts of a reasoning -/

/-- The newlines at the start of a text, at most two. -/
def leadingNewlines (text : Text) : ℕ := ((text.take 2).takeWhile (· = '\n')).length

/-- The newlines at the end of a text, at most two. -/
def trailingNewlines (text : Text) : ℕ := leadingNewlines text.reverse

/-- `appendSeparatedText` (lines 319-338). -/
def appendSeparatedText (current text : Text) : Text :=
  if text = [] then current
  else if current = [] then text
  else current ++
    List.replicate (2 - trailingNewlines current - leadingNewlines text) '\n' ++ text

/-- The parts of a reasoning as one text. -/
def joinParts (parts : List Text) : Text := parts.foldl appendSeparatedText []

/-- `reasoningOutputText` (lines 295-317): the content, if it has any text, or the summary. -/
def reasoningOutputText (item : Item) : Text :=
  if item.content.any fun part => part.text ≠ [] then joinParts (item.content.map Content.text)
  else joinParts item.summary

/-- `separatedResponsesDelta` (`to_claude_messages_stream_resp.go`, lines 492-500). -/
def separatedResponsesDelta (delta : Text) : Text :=
  if ['\n', '\n'].isPrefixOf delta then delta
  else if ['\n'].isPrefixOf delta then '\n' :: delta
  else '\n' :: '\n' :: delta

theorem separatedResponsesDelta_eq (delta : Text) :
    separatedResponsesDelta delta = replicate (2 - leadingNewlines delta) '\n' ++ delta := by
  unfold separatedResponsesDelta leadingNewlines
  match delta with
  | [] => rfl
  | [a] =>
    by_cases ha : a = '\n'
    · subst ha
      rfl
    · have ha' : ('\n' == a) = false := by simpa using Ne.symm ha
      simp [ha, ha', isPrefixOf]
  | a :: b :: rest =>
    by_cases ha : a = '\n'
    · subst ha
      by_cases hb : b = '\n'
      · subst hb
        simp [isPrefixOf]
      · have hb' : ('\n' == b) = false := by simpa using Ne.symm hb
        simp [hb, hb', isPrefixOf]
    · have ha' : ('\n' == a) = false := by simpa using Ne.symm ha
      simp [ha, ha', isPrefixOf]

theorem joinParts_append (parts : List Text) (part : Text) :
    joinParts (parts ++ [part]) = appendSeparatedText (joinParts parts) part := by
  simp [joinParts]

/-- Empty parts do not count. -/
theorem joinParts_filter (parts : List Text) :
    joinParts (parts.filter (· ≠ [])) = joinParts parts := by
  rw [joinParts, foldl_filter]
  congr 1
  funext current part
  by_cases hpart : part = []
  · simp [hpart, appendSeparatedText]
  · simp [hpart]

/-- The first delta of a further part is separated as the part is, unless the text ends with a
newline that only `appendSeparatedText` counts. -/
theorem appendSeparatedText_first {current delta : Text} (hcurrent : current ≠ [])
    (hdelta : delta ≠ []) (heven : trailingNewlines current = 0 ∨ leadingNewlines delta = 2) :
    appendSeparatedText current delta = current ++ separatedResponsesDelta delta := by
  have hcount : 2 - trailingNewlines current - leadingNewlines delta =
      2 - leadingNewlines delta := by omega
  rw [appendSeparatedText, if_neg hdelta, if_neg hcurrent, hcount, separatedResponsesDelta_eq,
    append_assoc]

/-- A further delta of a part changes nothing before it if the newlines at the start of the part
stay the same. -/
theorem appendSeparatedText_append {current part delta : Text} (hpart : part ≠ [])
    (heven : current = [] ∨ leadingNewlines (part ++ delta) = leadingNewlines part) :
    appendSeparatedText current (part ++ delta) = appendSeparatedText current part ++ delta := by
  have hne : part ++ delta ≠ [] := by simp [hpart]
  rw [appendSeparatedText, appendSeparatedText, if_neg hne, if_neg hpart]
  rcases heven with rfl | heven
  · rw [if_pos rfl, if_pos rfl]
  rw [heven]
  split
  · rfl
  · simp only [append_assoc]

end OmniRouters.Convert.Responses
