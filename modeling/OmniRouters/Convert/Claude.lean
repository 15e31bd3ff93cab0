import OmniRouters.Convert.Chunks
import OmniRouters.Lib.Frames

/-!
# Streams of Anthropic events

The events of a Messages stream (`ClaudeResponse`) and what a valid stream of them is: the message
is opened and closed once, and in between the content blocks, each of which is started, extended
by deltas of its own kind and stopped.

* `Valid`: a complete stream.
* `Body`: a stream whose message is open, with the status of each block; `Body.start`,
  `Body.delta`, `Body.deltas`, `Body.stop`, `Body.stops`: further events.
* `Body.finish`: the message is closed when every block is.
-/

namespace OmniRouters.Convert.Claude

open Lib List Function

/-- The content of a `content_block_start`. -/
inductive Block
  | text
  | thinking
  | toolUse (id name : String)
deriving DecidableEq

/-- The delta of a `content_block_delta`: `text_delta`, `thinking_delta`, `input_json_delta` and
`citations_delta`. -/
inductive BlockDelta
  | text (text : Text)
  | thinking (text : Text)
  | inputJson (text : Text)
  | citation (citation : String)
deriving DecidableEq

/-- The events of a stream. A `message_start` reports estimated input tokens, a `message_delta` the
usage from which its own is converted. -/
inductive Event (U : Type)
  | messageStart (id model : String) (inputTokens : ℤ)
  | contentBlockStart (index : ℤ) (block : Block)
  | contentBlockDelta (index : ℤ) (delta : BlockDelta)
  | contentBlockStop (index : ℤ)
  | messageDelta (stopReason : String) (usage : Option U)
  | messageStop
deriving DecidableEq

/-- The delta is one of the block's kind. -/
def BlockDelta.fits : Block → BlockDelta → Bool
  | .text, .text _ => true
  | .text, .citation _ => true
  | .thinking, .thinking _ => true
  | .toolUse _ _, .inputJson _ => true
  | _, _ => false

def BlockDelta.data : BlockDelta → Text
  | .text t => t
  | .thinking t => t
  | .inputJson t => t
  | .citation _ => []

variable {U : Type}

def blocks (U : Type) : Framing (Event U) ℤ Char where
  index
    | .contentBlockStart index _ => some index
    | .contentBlockDelta index _ => some index
    | .contentBlockStop index => some index
    | _ => none
  opens
    | .contentBlockStart _ _ => true
    | _ => false
  closes
    | .contentBlockStop _ => true
    | _ => false
  fits
    | .contentBlockStart _ block, .contentBlockDelta _ delta => delta.fits block
    | _, _ => false
  data
    | .contentBlockDelta _ delta => delta.data
    | _ => []

/-- An event of a content block. -/
def Event.isBlock (event : Event U) : Prop := ((blocks U).index event).isSome

/-- A valid stream with `n` content blocks: `message_start` first and once, `message_delta` and
`message_stop` last and once, in between the events of the blocks `0, 1, …, n - 1`, which are
started in this order and each of which is one start, deltas that fit it, and one stop. -/
structure Valid (stream : List (Event U)) (n : ℕ) : Prop where
  shape : ∃ id model tokens body reason usage, stream =
    .messageStart id model tokens :: (body ++ [.messageDelta reason usage, .messageStop]) ∧
    ∀ e ∈ body, e.isBlock
  started : (blocks U).started stream = (List.range n).map fun (k : ℕ) => (k : ℤ)
  block : ∀ k < n, ∃ first last inner, (blocks U).eventsOf (k : ℤ) stream =
    first :: (inner ++ [last]) ∧ (blocks U).opens first = true ∧ (blocks U).closes last = true ∧
      (blocks U).Inside first inner
  other : ∀ i : ℤ, (∀ k < n, i ≠ k) → (blocks U).eventsOf i stream = []

/-! ## Streams under construction -/

/-- The status of a block: not started, open or stopped, with its kind and its text so far. -/
inductive Status
  | fresh
  | opened (block : Block) (text : Text)
  | closed (block : Block) (text : Text)
deriving DecidableEq

/-- The block is open. -/
def Status.isOpen : Status → Bool
  | .opened _ _ => true
  | _ => false

def Status.phase (U : Type) (i : ℤ) : Status → Phase (Event U) Char
  | .fresh => .fresh
  | .opened block text => .opened (.contentBlockStart i block) text
  | .closed block text => .closed (.contentBlockStart i block) text (.contentBlockStop i)

/-- A stream whose message is open: `n` blocks have been started, each with its status. -/
structure Body (trace : List (Event U)) (n : ℕ) (status : ℤ → Status) : Prop where
  shape : ∃ id model tokens body,
    trace = .messageStart id model tokens :: body ∧ ∀ e ∈ body, e.isBlock
  frames : (blocks U).Ordered trace n fun i => (status i).phase U i

theorem phase_update (status : ℤ → Status) (i : ℤ) (st : Status) :
    (fun j => (Function.update status i st j).phase U j) =
      Function.update (fun j => (status j).phase U j) i (st.phase U i) := by
  funext j
  by_cases hj : j = i
  · subst hj
    simp
  · simp [hj]

section Body

variable {trace : List (Event U)} {n : ℕ} {status : ℤ → Status} {i : ℤ} {block : Block}
  {text : Text}

theorem Body.init (id model : String) (tokens : ℤ) :
    Body [(.messageStart id model tokens : Event U)] 0 fun _ => .fresh where
  shape := ⟨id, model, tokens, [], rfl, forall_mem_nil _⟩
  frames := ((blocks U).ordered_nil).other fun e he => by
    rw [mem_singleton.1 he]
    rfl

theorem Body.shape_append (h : Body trace n status) {e : Event U} (he : e.isBlock) :
    ∃ id model tokens body, trace ++ [e] = .messageStart id model tokens :: body ∧
      ∀ e ∈ body, e.isBlock := by
  obtain ⟨id, model, tokens, body, rfl, hbody⟩ := h.shape
  refine ⟨id, model, tokens, body ++ [e], rfl, fun e' he' => ?_⟩
  rcases mem_append.1 he' with he' | he'
  · exact hbody e' he'
  · rw [mem_singleton.1 he']
    exact he

/-- A `content_block_start` at the next index. -/
theorem Body.start (h : Body trace n status) (block : Block) :
    Body (trace ++ [.contentBlockStart n block]) (n + 1)
      (Function.update status n (.opened block [])) where
  shape := h.shape_append rfl
  frames := by
    rw [phase_update]
    exact h.frames.start rfl rfl

section

variable (h : Body trace n status) (hopen : status i = .opened block text)

include h hopen

/-- A `content_block_delta` of an open block. -/
theorem Body.delta {delta : BlockDelta} (hfits : delta.fits block = true) :
    Body (trace ++ [.contentBlockDelta i delta]) n
      (Function.update status i (.opened block (text ++ delta.data))) where
  shape := h.shape_append rfl
  frames := by
    rw [phase_update]
    exact h.frames.inside (congrArg (Status.phase U i) hopen) rfl rfl rfl hfits

theorem Body.deltas {deltas : List BlockDelta} (hfits : ∀ delta ∈ deltas, delta.fits block = true) :
    Body (trace ++ deltas.map (.contentBlockDelta i)) n
      (Function.update status i (.opened block (text ++ deltas.flatMap BlockDelta.data))) := by
  induction deltas generalizing trace status text with
  | nil =>
    rw [map_nil, append_nil, flatMap_nil, append_nil, ← hopen, update_eq_self]
    exact h
  | cons delta rest ih =>
    have hfirst := h.delta hopen (hfits delta mem_cons_self)
    have hrest := ih hfirst (update_self _ _ _) fun other hother =>
      hfits other (mem_cons_of_mem delta hother)
    rw [update_idem, append_assoc text] at hrest
    rwa [map_cons, append_cons, flatMap_cons]

/-- A `content_block_stop` of an open block. -/
theorem Body.stop :
    Body (trace ++ [.contentBlockStop i]) n (Function.update status i (.closed block text)) where
  shape := h.shape_append rfl
  frames := by
    rw [phase_update]
    exact h.frames.stop (congrArg (Status.phase U i) hopen) rfl rfl rfl

end

/-- The status of a block once it is stopped. -/
def Status.close : Status → Status
  | .opened block text => .closed block text
  | st => st

theorem Body.stops {indexes : List ℤ} (h : Body trace n status) (hnodup : indexes.Nodup)
    (hopen : ∀ i ∈ indexes, (status i).isOpen = true) :
    Body (trace ++ indexes.map .contentBlockStop) n
      fun i => if i ∈ indexes then (status i).close else status i := by
  induction indexes generalizing trace status with
  | nil => simpa using h
  | cons i rest ih =>
    obtain ⟨hnot, hrest⟩ := nodup_cons.1 hnodup
    have hi := hopen i mem_cons_self
    cases hst : status i with
    | fresh | closed =>
      rw [hst] at hi
      cases hi
    | opened block text =>
      have hne : ∀ j ∈ rest, j ≠ i := fun j hj hji => hnot (hji ▸ hj)
      have hnext := ih (h.stop hst) hrest fun j hj => by
        rw [update_of_ne (hne j hj)]
        exact hopen j (mem_cons_of_mem i hj)
      rw [map_cons, append_cons]
      convert hnext using 1
      funext j
      by_cases hj : j = i
      · subst hj
        simp [hnot, hst, Status.close]
      · by_cases hmem : j ∈ rest <;> simp [hj, hmem]

def blockText (stream : List (Event U)) (i : ℤ) : Text :=
  ((blocks U).eventsOf i stream).flatMap (blocks U).data

theorem Body.finish (h : Body trace n status) (hclosed : ∀ i, (status i).isOpen = false)
    (reason : String) (usage : Option U) :
    Valid (trace ++ [.messageDelta reason usage, .messageStop]) n ∧
      ∀ i block text, status i = .closed block text →
        blockText (trace ++ [.messageDelta reason usage, .messageStop]) i = text ∧
        ∃ rest, (blocks U).eventsOf i (trace ++ [.messageDelta reason usage, .messageStop]) =
          .contentBlockStart i block :: rest := by
  have hframes : (blocks U).Ordered (trace ++ [.messageDelta reason usage, .messageStop]) n
      fun i => (status i).phase U i := by
    refine h.frames.other fun e he => ?_
    rcases mem_cons.1 he with rfl | he
    · rfl
    · rw [mem_singleton.1 he]
      rfl
  refine ⟨⟨?_, hframes.started, ?_, fun i => hframes.events_eq_nil⟩, ?_⟩
  · obtain ⟨id, model, tokens, body, rfl, hbody⟩ := h.shape
    exact ⟨id, model, tokens, body, reason, usage, rfl, hbody⟩
  · intro k hk
    have hk' := hclosed k
    have hfresh := h.frames.fresh k
    cases hst : status k with
    | fresh =>
      rw [hst] at hfresh
      have hnot := hfresh.1 rfl
      omega
    | opened block text =>
      rw [hst] at hk'
      cases hk'
    | closed block text =>
      obtain ⟨hopens, hcloses, inner, hevents, hinside, -⟩ :=
        hframes.tracks.closed (congrArg (Status.phase U k) hst)
      exact ⟨_, _, inner, hevents, hopens, hcloses, hinside⟩
  · intro i block text hst
    obtain ⟨-, -, inner, hevents, -, hdata⟩ :=
      hframes.tracks.closed (congrArg (Status.phase U i) hst)
    refine ⟨?_, _, hevents⟩
    rw [blockText, hevents, flatMap_cons, flatMap_append, hdata]
    exact append_nil _

end Body

end OmniRouters.Convert.Claude
