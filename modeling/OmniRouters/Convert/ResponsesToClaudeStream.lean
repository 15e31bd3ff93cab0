import OmniRouters.Convert.ResponsesToClaude

/-!
# The blocks of a converted Responses stream

A well-formed Responses stream, read by `observe` event by event, becomes a valid Anthropic stream
with one block for each item: the block of an item is started when the item is announced, carries
its deltas and is stopped when the item is done, and the repetitions of the content in the `done`
events and in the terminal response add nothing.

The parts of a reasoning are an exception. `separatedResponsesDelta` looks at one delta, while
`reasoningOutputText`, which the same converter uses for complete items, looks at the whole part and
at the text before it: the text of the block depends on how the part is cut into deltas. `Regular`
says where the two agree.

* `stream_delivered`: regular streams.
* `reasoning_separated_twice`: one reasoning, cut in two ways, becomes two different blocks.
-/

namespace OmniRouters.Convert.ResponsesToClaude

open Lib Convert.Responses List Function Option
open OmniRouters.Billing (trimSpace)

variable {U : Type}

/-! ## Well-formed streams -/

/-- What the events of an item have said so far: the item as it is announced, the parts of its text
that are complete, the current part, and the item as it is done. -/
structure Progress where
  item : Item
  parts : List Text := []
  current : Text := []
  done : Option Item := none

/-- What a stream has said of its items, in the order in which they are announced. -/
structure Output where
  order : List ℤ := []
  progress : ℤ → Option Progress := fun _ => none

/-- The text of an item so far. -/
def Progress.value (pr : Progress) : Text :=
  if pr.item.type = .reasoning then joinParts (pr.parts ++ [pr.current])
  else pr.parts.flatten ++ pr.current

/-- The parts of a complete reasoning, which are in the content or in the summary. -/
def reasoningParts (item : Item) : List Text :=
  if item.content.any fun part => part.text ≠ [] then item.content.map Content.text
  else item.summary

/-- The item has the content that its events have said. -/
def Progress.complete (pr : Progress) (item : Item) : Bool :=
  match item.type with
  | .message => messageText item = pr.value
  | .reasoning => (reasoningParts item).filter (· ≠ []) = (pr.parts ++ [pr.current]).filter (· ≠ [])
  | .functionCall => item.arguments = pr.value
  | .customToolCall => item.input = pr.value ∧ item.arguments = []
  | _ => true

/-- An item as it is announced: without content, a tool call with its name. -/
def announced (item : Item) : Bool :=
  item.content = [] ∧ item.summary = [] ∧ item.arguments = [] ∧ item.input = [] ∧
    (item.type = .functionCall ∨ item.type = .customToolCall → item.name ≠ "")

/-- An event of an open item: a delta, the end of a part of its text, the end of its arguments or an
annotation. -/
def Progress.advance (pr : Progress) (e : Event U) : Option Progress :=
  let extend : Option Progress := some { pr with current := pr.current ++ e.delta }
  let endPart : Option Progress := if e.text.all (· = pr.current) then
    some { pr with parts := pr.parts ++ [pr.current], current := [] } else none
  let confirm : Option Progress := if e.arguments.all (· = pr.current) then some pr else none
  match pr.item.type, e.type with
  | .message, .outputTextDelta => extend
  | .message, .outputTextDone => endPart
  | .message, .outputTextAnnotationAdded => if e.annotation.isSome then some pr else none
  | .reasoning, .reasoningSummaryDelta => extend
  | .reasoning, .reasoningTextDelta => extend
  | .reasoning, .reasoningSummaryDone => endPart
  | .reasoning, .reasoningTextDone => endPart
  | .functionCall, .functionArgsDelta => extend
  | .functionCall, .functionArgsDone => confirm
  | .customToolCall, .customToolInputDelta => extend
  | .customToolCall, .customToolInputDone => confirm
  | _, _ => none

def Output.set (σ : Output) (k : ℤ) (pr : Progress) : Output :=
  { σ with progress := Function.update σ.progress k (some pr) }

def Output.add (σ : Output) (k : ℤ) (item : Item) : Output where
  order := σ.order ++ [k]
  progress := Function.update σ.progress k (some { item })

def ownId (e : Event U) (id : String) : Bool := e.itemId = "" ∨ e.itemId = id

/-- An item is announced, with an index and an id of its own. -/
def Output.announce (σ : Output) (e : Event U) (k : ℤ) (item : Item) : Option Output :=
  if (σ.progress k).isNone ∧ announced item ∧ ownId e item.id ∧
      σ.order.all (fun j => (σ.progress j).all fun pr => pr.item.id ≠ item.id) then
    some (σ.add k item)
  else none

/-- An item is done. -/
def Output.finish (σ : Output) (e : Event U) (k : ℤ) (item : Item) : Option Output :=
  match σ.progress k with
  | none => none
  | some pr =>
    if pr.done.isNone ∧ item.type = pr.item.type ∧ item.id = pr.item.id ∧
        item.role = pr.item.role ∧ ownId e item.id ∧ pr.complete item then
      some (σ.set k { pr with done := some item })
    else none

/-- An event of an open item. -/
def Output.inner (σ : Output) (e : Event U) (k : ℤ) : Option Output :=
  match σ.progress k with
  | none => none
  | some pr =>
    if pr.done.isNone ∧ ownId e pr.item.id then (pr.advance e).map (σ.set k) else none

/-- Events that say nothing of the text of an item. -/
def silent : EventType → Bool
  | .created => true
  | .error => true
  | .reasoningSummaryPartAdded => true
  | .reasoningSummaryPartDone => true
  | .mcpArgsDelta => true
  | .mcpArgsDone => true
  | .named name => name ≠ "response.error"
  | _ => false

/-- One event of a stream that is not its last; `none` if it does not belong there. -/
def observe (σ : Output) (e : Event U) : Option Output :=
  if silent e.type then some σ
  else
    match e.outputIndex, e.item with
    | some k, some item =>
      if e.type = .outputItemAdded then σ.announce e k item
      else if e.type = .outputItemDone then σ.finish e k item
      else none
    | some k, none => σ.inner e k
    | none, _ => none

def observeAll : Output → List (Event U) → Option Output
  | σ, [] => some σ
  | σ, e :: rest =>
    match observe σ e with
    | none => none
    | some σ => observeAll σ rest

/-- The last event: it has a response, which lists the items at their indexes. -/
def Output.listed (σ : Output) (last : Event U) : Bool :=
  (last.type = .completed ∨ last.type = .done ∨ last.type = .incomplete) ∧
    last.response.any fun response =>
      response.output.length = σ.order.length ∧ response.output.zipIdx.all fun (item, k) =>
        ((σ.progress k).bind Progress.done).any fun done => done.plain = item.plain

/-- A well-formed stream. -/
def WellFormed (events : List (Event U)) (last : Event U) (σ : Output) : Prop :=
  observeAll {} events = some σ ∧ σ.listed last = true

/-! ## Regular streams -/

/-- The delta of a reasoning is separated from the parts before as its part is: at the start of the
part the text before does not end with a newline, or the delta starts with two; within the part
the newlines at its start stay the same. -/
def Progress.evenBreak (pr : Progress) (delta : Text) : Bool :=
  delta = [] ∨ joinParts pr.parts = [] ∨
    if pr.current = [] then
      trailingNewlines (joinParts pr.parts) = 0 ∨ leadingNewlines delta = 2
    else leadingNewlines (pr.current ++ delta) = leadingNewlines pr.current

/-- The announced item is the assistant's if it is a message, its name is not blank if it is a tool
call, and its id is another than the ids before, blanks at the ends apart. -/
def Output.plainItem (σ : Output) (item : Item) : Bool :=
  (item.type = .message → item.role = "" ∨ item.role = "assistant") ∧
    (item.type = .functionCall ∨ item.type = .customToolCall → trimSpace item.name ≠ "") ∧
    (trimSpace item.id = "" ∨
      σ.order.all fun j => (σ.progress j).all fun pr => trimSpace pr.item.id ≠ trimSpace item.id)

/-- The event is one that the converter treats as its item is treated. -/
def regular (σ : Output) (e : Event U) : Bool :=
  match e.outputIndex, e.item with
  | some _, some item => e.type = .outputItemAdded → σ.plainItem item
  | some k, none =>
    (e.type = .reasoningSummaryDelta ∨ e.type = .reasoningTextDelta) →
      (σ.progress k).all fun pr => pr.evenBreak e.delta
  | none, _ => true

def Regular : Output → List (Event U) → Bool
  | _, [] => true
  | σ, e :: rest => regular σ e && (observe σ e).all fun σ => Regular σ rest

/-! ## Functions on blocks -/

section Blocks

variable {cfg : Config U} {s : State U} {b b' : StreamBlock}

/-- The kind of a content block. -/
def blockKind : Claude.Block → Kind
  | .text => .text
  | .thinking => .thinking
  | .toolUse _ _ => .toolUse

/-- A block that is started and not stopped, with everything sent. -/
structure Flowing (b : StreamBlock) : Prop where
  started : b.started = true
  stopped : b.stopped = false
  sent : b.sentBytes = b.value.length

/-- A block after further deltas; it may be stopped then. -/
structure Extends (b b' : StreamBlock) (deltas : List Claude.BlockDelta) : Prop where
  index : b'.index = b.index
  kind : b'.kind = b.kind
  started : b'.started = true
  sent : b'.sentBytes = b'.value.length
  value : b'.value = b.value ++ deltas.flatMap Claude.BlockDelta.data
  fits : ∀ delta ∈ deltas, ∀ content, blockKind content = b.kind → delta.fits content = true

theorem Kind.delta_data (kind : Kind) (delta : Text) : (kind.delta delta).data = delta := by
  cases kind <;> rfl

theorem Kind.delta_fits {kind : Kind} {content : Claude.Block} (h : blockKind content = kind)
    (delta : Text) : (kind.delta delta).fits content = true := by
  subst h
  cases content <;> rfl

theorem startBlock_started (h : b.started = true) : startBlock cfg s b = (s, b, []) := by
  simp [startBlock, h]

theorem Flowing.flushBlock (cfg : Config U) (s : State U) (h : Flowing b) (delta : Text) :
    flushBlock cfg s { b with value := b.value ++ delta } =
      (s, { b with value := b.value ++ delta, sentBytes := (b.value ++ delta).length },
        if delta = [] then [] else [.contentBlockDelta b.index (b.kind.delta delta)]) := by
  have hstart : startBlock cfg s { b with value := b.value ++ delta } =
      (s, { b with value := b.value ++ delta }, []) := startBlock_started h.started
  unfold ResponsesToClaude.flushBlock
  rw [hstart]
  by_cases hdelta : delta = []
  · subst hdelta
    simp [h.stopped, h.sent]
  · have hpos : 0 < delta.length := length_pos_iff.2 hdelta
    simp [h.started, h.stopped, h.sent, hdelta]

section

variable (h : Flowing b)

include h

theorem Flowing.flushBlock_nil :
    ResponsesToClaude.flushBlock cfg s b = (s, b, []) := by
  have hflush := h.flushBlock cfg s []
  rwa [append_nil, ← h.sent] at hflush

theorem Flowing.appendDelta (delta : Text) :
    appendDelta cfg delta s b =
      (s, { b with value := b.value ++ delta, sentBytes := (b.value ++ delta).length },
        if delta = [] then [] else [.contentBlockDelta b.index (b.kind.delta delta)]) := by
  unfold ResponsesToClaude.appendDelta
  by_cases hdelta : delta = []
  · subst hdelta
    simp [← h.sent]
  · rw [if_neg (by simp [h.stopped, hdelta])]
    exact h.flushBlock cfg s delta

/-- A final value that adds nothing. -/
theorem Flowing.mergeFinalValue {finalValue : Text}
    (hsame : mergedValue b.value finalValue = b.value) :
    mergeFinalValue cfg finalValue s b = (s, b, []) := by
  rw [ResponsesToClaude.mergeFinalValue, if_neg (by simp [h.stopped]), hsame]
  exact h.flushBlock_nil

theorem Flowing.stopBlock :
    stopBlock cfg s b = (s, { b with stopped := true }, [.contentBlockStop b.index]) := by
  rw [ResponsesToClaude.stopBlock, if_neg (by simp [h.stopped]), h.flushBlock_nil]
  dsimp only
  rw [startBlock_started h.started]
  simp [h.started]

end

theorem Flowing.appendAnnotations (cfg : Config U) (s : State U) (h : Flowing b)
    (annotations : List String) (snapshot : Bool) :
    ∃ count citations, appendAnnotations cfg annotations snapshot s b =
      (s, { b with annotationCount := count },
        citations.map fun citation => .contentBlockDelta b.index (.citation citation)) ∧
      (citations ≠ [] → b.kind = .text) := by
  unfold ResponsesToClaude.appendAnnotations
  dsimp only
  split
  · exact ⟨b.annotationCount, [], rfl, by simp⟩
  rename_i hkind
  split
  · exact ⟨b.annotationCount, [], rfl, by simp⟩
  have htext : b.kind = .text := by
    by_contra hne
    simp [hne] at hkind
  generalize hcount : (if snapshot = true then annotations.length
    else b.annotationCount + annotations.length) = count
  generalize cfg.annotationsToClaude _ b.value = citations
  by_cases hcitations : citations = []
  · rw [if_pos hcitations]
    exact ⟨count, [], rfl, by simp⟩
  rw [if_neg hcitations]
  have hstart : startBlock cfg s { b with annotationCount := count } =
      (s, { b with annotationCount := count }, []) := startBlock_started h.started
  rw [hstart]
  exact ⟨count, citations, rfl, fun _ => htext⟩

section

variable (h : b.stopped = true)

include h

/-- The functions of a stopped block do nothing. -/
theorem mergeFinalValue_stopped (finalValue : Text) :
    mergeFinalValue cfg finalValue s b = (s, b, []) := by
  simp [mergeFinalValue, h]

theorem appendAnnotations_stopped (annotations : List String) (snapshot : Bool) :
    appendAnnotations cfg annotations snapshot s b = (s, b, []) := by
  simp [appendAnnotations, h]

theorem stopBlock_stopped : stopBlock cfg s b = (s, b, []) := by
  simp [stopBlock, h]

theorem mergeItem_stopped (item : Item) (kind : Kind) :
    mergeItem cfg item kind s b = (s, b, []) := by
  cases kind with
  | text =>
    rw [mergeItem, andThen, mergeFinalValue_stopped h]
    dsimp only
    rw [appendAnnotations_stopped h]
    rfl
  | thinking | toolUse => exact mergeFinalValue_stopped h _

end

end Blocks

/-! ## The stream of blocks -/

section Live

variable {cfg : Config U} {s : State U} {trace : List (Claude.Event U)} {b b' : StreamBlock} {p : ℕ}

structure Shows (b : StreamBlock) (p : ℕ) (status : Claude.Status) : Prop where
  index : b.index = p
  started : b.started = true
  sent : b.sentBytes = b.value.length
  status : ∃ content, blockKind content = b.kind ∧
    status = if b.stopped then .closed content b.value else .opened content b.value

/-- The message is open, and the stream shows every block. -/
structure Live (s : State U) (trace : List (Claude.Event U)) : Prop where
  sent : s.sentMessageStart = true
  next : s.nextBlockIndex = s.blocks.length
  body : ∃ status, Claude.Body trace s.blocks.length status ∧
    ∀ (p : ℕ) b, s.blocks[p]? = some b → Shows b p (status p)

/-- Nothing has been emitted, or the message is open. -/
def Begun (s : State U) (trace : List (Claude.Event U)) : Prop :=
  Live s trace ∨
    (trace = [] ∧ s.sentMessageStart = false ∧ s.nextBlockIndex = 0 ∧ s.blocks = [])

theorem Begun.ensureMessageStart (cfg : Config U) (h : Begun s trace) :
    Live (ensureMessageStart cfg s).1 (trace ++ (ResponsesToClaude.ensureMessageStart cfg s).2) ∧
      (ResponsesToClaude.ensureMessageStart cfg s).1 = { s with sentMessageStart := true } := by
  unfold ResponsesToClaude.ensureMessageStart
  rcases h with h | ⟨rfl, hsent, hnext, hblocks⟩
  · rw [if_pos h.sent, append_nil]
    refine ⟨h, ?_⟩
    rw [← h.sent]
  · rw [if_neg (by simp [hsent])]
    refine ⟨⟨rfl, ?_, fun _ => .fresh, ?_, ?_⟩, rfl⟩
    · rw [hnext, hblocks]
      rfl
    · rw [hblocks]
      exact Claude.Body.init _ _ _
    · simp [hblocks]

/-- A block is extended, and may be stopped. -/
theorem Live.extend (h : Live s trace) (hb : s.blocks[p]? = some b) (hflowing : Flowing b)
    {deltas : List Claude.BlockDelta} (hextends : Extends b b' deltas) :
    Live { s with blocks := s.blocks.set p b' }
      (trace ++ (deltas.map (.contentBlockDelta b.index) ++
        if b'.stopped then [.contentBlockStop b.index] else [])) := by
  obtain ⟨status, hbody, hshows⟩ := h.body
  have hp : p < s.blocks.length := (List.getElem?_eq_some_iff.1 hb).1
  obtain ⟨hindex, -, -, content, hkind, hstatus⟩ := hshows p b hb
  rw [hflowing.stopped] at hstatus
  have hdeltas := hbody.deltas hstatus fun delta hdelta =>
    hextends.fits delta hdelta content hkind
  rw [← hextends.value] at hdeltas
  obtain ⟨st, hst, hnew⟩ : ∃ st, Shows b' p st ∧ Claude.Body
      (trace ++ (deltas.map (.contentBlockDelta (p : ℤ)) ++
        if b'.stopped then [.contentBlockStop (p : ℤ)] else []))
      s.blocks.length (Function.update status p st) := by
    by_cases hstopped : b'.stopped = true
    · refine ⟨.closed content b'.value, ⟨hextends.index.trans hindex, hextends.started,
        hextends.sent, content, hkind.trans hextends.kind.symm, by rw [if_pos hstopped]⟩, ?_⟩
      have hstop := hdeltas.stop (update_self _ _ _)
      rw [update_idem, append_assoc] at hstop
      rwa [if_pos hstopped]
    · refine ⟨.opened content b'.value, ⟨hextends.index.trans hindex, hextends.started,
        hextends.sent, content, hkind.trans hextends.kind.symm, by rw [if_neg hstopped]⟩, ?_⟩
      rwa [if_neg hstopped, append_nil]
  rw [hindex]
  refine ⟨h.sent, ?_, Function.update status p st, ?_, ?_⟩
  · rw [length_set]
    exact h.next
  · rw [length_set]
    exact hnew
  · intro q other hother
    by_cases hq : q = p
    · subst hq
      rw [getElem?_set_self hp] at hother
      cases hother
      rw [update_self]
      exact hst
    · rw [getElem?_set_ne (Ne.symm hq)] at hother
      have hne : (q : ℤ) ≠ p := by omega
      rw [update_of_ne hne]
      exact hshows q other hother

/-- A block is started behind the others. -/
theorem Live.start (h : Live s trace) {content : Claude.Block} (hindex : b.index = s.nextBlockIndex)
    (hstarted : b.started = true) (hstopped : b.stopped = false) (hvalue : b.value = [])
    (hsent : b.sentBytes = 0) (hkind : blockKind content = b.kind) :
    Live { s with blocks := s.blocks ++ [b], nextBlockIndex := s.nextBlockIndex + 1 }
      (trace ++ [.contentBlockStart b.index content]) := by
  obtain ⟨status, hbody, hshows⟩ := h.body
  rw [hindex, h.next]
  refine ⟨h.sent, ?_, Function.update status s.blocks.length (.opened content []), ?_, ?_⟩
  · rw [length_append]
    rfl
  · rw [length_append]
    exact hbody.start content
  · intro q other hother
    rcases Nat.lt_or_ge q s.blocks.length with hlt | hge
    · rw [getElem?_append_left hlt] at hother
      have hne : (q : ℤ) ≠ s.blocks.length := by omega
      rw [update_of_ne hne]
      exact hshows q other hother
    · have hq : q = s.blocks.length := by
        have hlen := (List.getElem?_eq_some_iff.1 hother).1
        rw [length_append, length_singleton] at hlen
        omega
      rw [hq, getElem?_concat_length] at hother
      cases hother
      rw [hq, update_self]
      refine ⟨hindex.trans h.next, hstarted, by rw [hsent, hvalue]; rfl, content, hkind, ?_⟩
      rw [hstopped, hvalue]
      rfl

/-- The functions on a block read no more of the state. -/
theorem Begun.congr {s' : State U} (h : Begun s trace)
    (hsent : s'.sentMessageStart = s.sentMessageStart)
    (hnext : s'.nextBlockIndex = s.nextBlockIndex) (hblocks : s'.blocks = s.blocks) :
    Begun s' trace := by
  rcases h with ⟨hs, hn, hbody⟩ | ⟨htrace, hs, hn, hb⟩
  · refine .inl ⟨hsent.trans hs, ?_, ?_⟩
    · rw [hnext, hblocks]
      exact hn
    · rw [hblocks]
      exact hbody
  · exact .inr ⟨htrace, hsent.trans hs, hnext.trans hn, hblocks.trans hb⟩

/-- The data that an event fills in are names and ids. -/
theorem withMetadata_eq (b : StreamBlock) (e : Event U) :
    ∃ itemId callId name, b.withMetadata e = { b with itemId, callId, name } := by
  unfold StreamBlock.withMetadata
  dsimp only
  split_ifs <;> split <;> exact ⟨_, _, _, rfl⟩

theorem Shows.withMetadata {status : Claude.Status} (h : Shows b p status) (e : Event U) :
    Shows (b.withMetadata e) p status := by
  obtain ⟨itemId, callId, name, heq⟩ := withMetadata_eq b e
  rw [heq]
  exact { h with }

theorem Live.applyBlockMetadata (h : Live s trace) (p : ℕ) (e : Event U) (kind : Kind) :
    Live (applyBlockMetadata s p e kind) trace := by
  obtain ⟨status, hbody, hshows⟩ := h.body
  refine ⟨h.sent, ?_, status, ?_, ?_⟩
  · change s.nextBlockIndex = ((s.blocks.modify p _).length : ℤ)
    rw [length_modify]
    exact h.next
  · change Claude.Body _ (s.blocks.modify p _).length _
    rw [length_modify]
    exact hbody
  · intro q other hother
    change (s.blocks.modify p _)[q]? = some other at hother
    rw [getElem?_modify] at hother
    obtain ⟨b, hb, hother⟩ := map_eq_some_iff.1 hother
    rw [← hother]
    split
    · exact (hshows q b hb).withMetadata e
    · exact hshows q b hb

end Live

/-! ## The blocks of the items -/

def typeKind : ItemType → Option Kind
  | .message => some .text
  | .reasoning => some .thinking
  | .functionCall => some .toolUse
  | .customToolCall => some .toolUse
  | _ => none

/-- The items that have a block, in the order of their blocks. -/
def Output.shown (σ : Output) : List ℤ :=
  σ.order.filter fun k => (σ.progress k).any fun pr => (typeKind pr.item.type).isSome

/-- The item as it is done is the announced one with the content that has been said. -/
def Progress.Repeats (pr : Progress) (done : Item) : Prop :=
  done.type = pr.item.type ∧ done.id = pr.item.id ∧ done.role = pr.item.role ∧
    pr.complete done = true

/-- The block has the text of the item. -/
structure Matches (pr : Progress) (b : StreamBlock) : Prop where
  kind : typeKind pr.item.type = some b.kind
  value : b.value = pr.value
  stopped : b.stopped = pr.done.isSome
  needsBreak : pr.item.type = .reasoning →
    (b.needsReasoningBreak = true ↔ pr.current = [] ∧ pr.value ≠ [])

/-- The converter has a block for every item that has one, and finds it. -/
structure Sound (σ : Output) (s : State U) (trace : List (Claude.Event U)) : Prop where
  ongoing : s.done = false
  begun : Begun s trace
  nodup : σ.order.Nodup
  mem : ∀ k, k ∈ σ.order ↔ (σ.progress k).isSome
  kinds : ∀ k pr, σ.progress k = some pr → itemKind pr.item = typeKind pr.item.type
  done : ∀ k pr done, σ.progress k = some pr → pr.done = some done → pr.Repeats done
  length : s.blocks.length = σ.shown.length
  block : ∀ (p : ℕ) k, σ.shown[p]? = some k → s.byOutputIndex k = some p ∧
    ∃ b pr, s.blocks[p]? = some b ∧ σ.progress k = some pr ∧ Matches pr b
  other : ∀ k, k ∉ σ.shown → s.byOutputIndex k = none
  ids : ∀ id p, s.byItemId id = some p →
    ∃ k pr, k ∈ σ.order ∧ σ.progress k = some pr ∧ trimSpace pr.item.id = id

section Sound

variable {cfg : Config U} {σ σ' : Output} {s : State U} {trace : List (Claude.Event U)}
  {b b' : StreamBlock} {p : ℕ} {k : ℤ} {pr pr' : Progress} {kind : Kind} {e : Event U}

theorem shown_set (hpr : σ.progress k = some pr) (hitem : pr'.item = pr.item) :
    (σ.set k pr').shown = σ.shown := by
  refine filter_congr fun j _ => ?_
  change ((Function.update σ.progress k (some pr') j).any _) = _
  by_cases hj : j = k
  · rw [hj, update_self, hpr, any_some, any_some, hitem]
  · rw [update_of_ne hj]

theorem Matches.withMetadata (h : Matches pr b) (e : Event U) : Matches pr (b.withMetadata e) := by
  obtain ⟨itemId, callId, name, heq⟩ := withMetadata_eq b e
  rw [heq]
  exact { h with }

theorem applyBlockMetadata_index (s : State U) (p : ℕ) (kind : Kind)
    (hindex : e.outputIndex = some k) :
    (applyBlockMetadata s p e kind).byOutputIndex = Function.update s.byOutputIndex k (some p) := by
  rw [applyBlockMetadata, hindex]

/-- The only new id is that of the event. -/
theorem applyBlockMetadata_ids (kind : Kind) {id : String} {q : ℕ}
    (h : (applyBlockMetadata s p e kind).byItemId id = some q) :
    s.byItemId id = some q ∨ (e.itemID ≠ "" ∧ id = e.itemID) := by
  change (if e.itemID ≠ "" then _ else _ : String → Option ℕ) id = some q at h
  split at h
  next hid =>
    by_cases heq : id = e.itemID
    · exact .inr ⟨hid, heq⟩
    · rw [update_of_ne heq] at h
      exact .inl h
  · exact .inl h

theorem set_of_ne {j : ℤ} (hj : j ≠ k) : (σ.set k pr').progress j = σ.progress j :=
  update_of_ne hj _ _

theorem set_self : (σ.set k pr').progress k = some pr' := update_self _ _ _

/-- The function on blocks does what the event says of the item: it takes the block of an item from
one progress to the next. -/
def Carries (f : BlockStep U) (pr pr' : Progress) : Prop :=
  ∀ (s : State U) b, Flowing b → Matches pr b → ∃ b' deltas,
    f s b = (s, b', deltas.map (.contentBlockDelta b.index) ++
      if b'.stopped then [.contentBlockStop b.index] else []) ∧
    Extends b b' deltas ∧ Matches pr' b'

section

variable (h : Sound σ s trace)

include h

theorem Sound.live (hb : s.blocks[p]? = some b) : Live s trace := by
  rcases h.begun with hlive | ⟨-, -, -, hblocks⟩
  · exact hlive
  · rw [hblocks] at hb
    cases hb

theorem Sound.flowing (hb : s.blocks[p]? = some b) (hmatches : Matches pr b)
    (hopen : pr.done = none) : Flowing b := by
  obtain ⟨status, -, hshows⟩ := (h.live hb).body
  refine ⟨(hshows p b hb).started, ?_, (hshows p b hb).sent⟩
  rw [hmatches.stopped, hopen]
  rfl

/-- Two positions with the same item are one. -/
theorem Sound.position_inj {q : ℕ} (hp : σ.shown[p]? = some k) (hq : σ.shown[q]? = some k) :
    q = p := by
  have hlen := (List.getElem?_eq_some_iff.1 hq).1
  exact (getElem?_inj hlen (h.nodup.filter _)).1 (hq.trans hp.symm)

variable (hpr : σ.progress k = some pr)

include hpr

theorem Sound.find (hkind : typeKind pr.item.type = some kind) :
    ∃ (p : ℕ) (b : StreamBlock), σ.shown[p]? = some k ∧ s.byOutputIndex k = some p ∧
      s.blocks[p]? = some b ∧ Matches pr b := by
  have hmem : k ∈ σ.shown := by
    refine mem_filter.2 ⟨(h.mem k).2 (by rw [hpr]; rfl), ?_⟩
    rw [hpr, any_some, hkind]
    rfl
  obtain ⟨p, hp⟩ := getElem?_of_mem hmem
  obtain ⟨hindex, b, other, hb, hother, hmatches⟩ := h.block p k hp
  obtain rfl : pr = other := some.inj (hpr.symm.trans hother)
  exact ⟨p, b, hp, hindex, hb, hmatches⟩

/-- An event of an item fills in data of its block. -/
theorem Sound.applyBlockMetadata (hp : σ.shown[p]? = some k) (hb : s.blocks[p]? = some b)
    (hindex : e.outputIndex = some k) (hid : e.itemID = "" ∨ e.itemID = trimSpace pr.item.id)
    (kind : Kind) :
    Sound σ (applyBlockMetadata s p e kind) trace := by
  have hmem : k ∈ σ.order := (h.mem k).2 (by rw [hpr]; rfl)
  refine { h with
    begun := .inl ((h.live hb).applyBlockMetadata p e kind)
    length := ?_, block := ?_, other := ?_, ids := ?_ }
  · change (s.blocks.modify p _).length = _
    rw [length_modify]
    exact h.length
  · intro q j hj
    obtain ⟨hfound, other, progress, hother, hprogress, hmatches⟩ := h.block q j hj
    rw [applyBlockMetadata_index s p kind hindex]
    change _ ∧ ∃ b pr, (s.blocks.modify p _)[q]? = some b ∧ _
    rw [getElem?_modify, hother]
    constructor
    · by_cases hjk : j = k
      · subst hjk
        rw [h.position_inj hp hj, update_self]
      · exact (update_of_ne hjk _ _).trans hfound
    · by_cases hq : p = q
      · exact ⟨_, progress, rfl, hprogress, by simpa [hq] using hmatches.withMetadata e⟩
      · exact ⟨_, progress, rfl, hprogress, by simpa [hq] using hmatches⟩
  · intro j hj
    have hne : j ≠ k := fun hjk => hj (hjk ▸ mem_of_getElem? hp)
    rw [applyBlockMetadata_index s p kind hindex]
    exact (update_of_ne hne _ _).trans (h.other j hj)
  · intro id q hq
    rcases applyBlockMetadata_ids kind hq with hq | ⟨hblank, rfl⟩
    · exact h.ids id q hq
    · exact ⟨k, pr, hmem, hpr, (hid.resolve_left hblank).symm⟩

/-- An event of an item finds its block. -/
theorem Sound.ensureBlock (hkind : typeKind pr.item.type = some kind)
    (hindex : e.outputIndex = some k) (hid : e.itemID = "" ∨ e.itemID = trimSpace pr.item.id) :
    ∃ (s' : State U) (p : ℕ) (b : StreamBlock), ensureBlock s e kind = .ok (s', p) ∧
      Sound σ s' trace ∧ σ.shown[p]? = some k ∧ s'.blocks[p]? = some b ∧ Matches pr b := by
  obtain ⟨p, b, hp, hfound, hb, hmatches⟩ := h.find hpr hkind
  have hbkind : b.kind = kind := some.inj (hmatches.kind.symm.trans hkind)
  have hfind : findBlock s e = some p := by
    rw [findBlock, hindex, bind_some, hfound]
  refine ⟨ResponsesToClaude.applyBlockMetadata s p e kind, p, b.withMetadata e, ?_, ?_, hp, ?_, ?_⟩
  · unfold ResponsesToClaude.ensureBlock
    have hfirst : (findBlock s e <|> lastBlock s e kind) = some p := by
      rw [hfind]
      rfl
    rw [hfirst]
    dsimp only
    rw [hb, map_some]
    dsimp only
    rw [if_neg (by simp [hbkind])]
  · exact h.applyBlockMetadata hpr hp hb hindex hid kind
  · change (s.blocks.modify p _)[p]? = _
    rw [getElem?_modify, hb]
    simp
  · exact hmatches.withMetadata e

variable (hitem : pr'.item = pr.item) (hrepeats : ∀ done, pr'.done = some done → pr'.Repeats done)

include hitem hrepeats

/-- An item is changed, and with it the blocks and the stream. -/
theorem Sound.set {s' : State U} {trace' : List (Claude.Event U)} (hongoing : s'.done = false)
    (hbegun : Begun s' trace')
    (hlength : s'.blocks.length = s.blocks.length) (hindex : s'.byOutputIndex = s.byOutputIndex)
    (hids : s'.byItemId = s.byItemId)
    (hblock : ∀ (q : ℕ) j, σ.shown[q]? = some j → ∃ b pr, s'.blocks[q]? = some b ∧
      (σ.set k pr').progress j = some pr ∧ Matches pr b) : Sound (σ.set k pr') s' trace' := by
  refine ⟨hongoing, hbegun, h.nodup, ?_, ?_, ?_, ?_, ?_, ?_, ?_⟩
  · intro j
    change j ∈ σ.order ↔ _
    rw [h.mem j]
    by_cases hj : j = k
    · rw [hj, set_self, hpr]
      rfl
    · rw [set_of_ne hj]
  · intro j other hother
    rcases update_eq_some hother with ⟨-, rfl⟩ | ⟨-, hother⟩
    · rw [hitem]
      exact h.kinds k pr hpr
    · exact h.kinds j other hother
  · intro j other done hother hdone
    rcases update_eq_some hother with ⟨-, rfl⟩ | ⟨-, hother⟩
    · exact hrepeats done hdone
    · exact h.done j other done hother hdone
  · rw [hlength, shown_set hpr hitem]
    exact h.length
  · intro q j hj
    rw [shown_set hpr hitem] at hj
    rw [hindex]
    exact ⟨(h.block q j hj).1, hblock q j hj⟩
  · rw [shown_set hpr hitem, hindex]
    exact h.other
  · intro id q hq
    rw [hids] at hq
    obtain ⟨j, progress, hj, hprogress, htrim⟩ := h.ids id q hq
    by_cases hjk : j = k
    · subst hjk
      obtain rfl : pr = progress := some.inj (hpr.symm.trans hprogress)
      exact ⟨j, pr', hj, set_self, by rw [hitem]; exact htrim⟩
    · exact ⟨j, progress, hj, (set_of_ne hjk).trans hprogress, htrim⟩

/-- An item and its block are changed together. -/
theorem Sound.update (hp : σ.shown[p]? = some k) (hb : s.blocks[p]? = some b)
    (hflowing : Flowing b) {deltas : List Claude.BlockDelta} (hextends : Extends b b' deltas)
    (hmatches : Matches pr' b') :
    Sound (σ.set k pr') { s with blocks := s.blocks.set p b' }
      (trace ++ (deltas.map (.contentBlockDelta b.index) ++
        if b'.stopped then [.contentBlockStop b.index] else [])) := by
  refine h.set hpr hitem hrepeats h.ongoing (.inl ((h.live hb).extend hb hflowing hextends))
    length_set rfl rfl ?_
  intro q j hj
  obtain ⟨-, other, progress, hother, hprogress, hothers⟩ := h.block q j hj
  by_cases hjk : j = k
  · subst hjk
    rw [h.position_inj hp hj, getElem?_set_self (List.getElem?_eq_some_iff.1 hb).1]
    exact ⟨b', pr', rfl, set_self, hmatches⟩
  · have hpq : p ≠ q := by
      rintro rfl
      exact hjk (some.inj (hj.symm.trans hp))
    rw [getElem?_set_ne hpq, set_of_ne hjk]
    exact ⟨other, progress, hother, hprogress, hothers⟩

/-- An item without a block is changed. -/
theorem Sound.skip (hkind : typeKind pr.item.type = none) : Sound (σ.set k pr') s trace := by
  refine h.set hpr hitem hrepeats h.ongoing h.begun rfl rfl rfl ?_
  intro q j hj
  have hne : j ≠ k := by
    rintro rfl
    have hsome := (mem_filter.1 (mem_of_getElem? hj)).2
    rw [hpr, any_some, hkind] at hsome
    cases hsome
  rw [set_of_ne hne]
  exact (h.block q j hj).2

/-- A function on the block of an open item. -/
theorem Sound.onEvent (hkind : typeKind pr.item.type = some kind) (hopen : pr.done = none)
    (hindex : e.outputIndex = some k) (hid : e.itemID = "" ∨ e.itemID = trimSpace pr.item.id)
    {f : BlockStep U} (hf : Carries f pr pr') :
    ∃ s' events, onEvent s e kind f = .ok (s', events) ∧
      Sound (σ.set k pr') s' (trace ++ events) := by
  obtain ⟨s', p, b, hensure, hsound, hp, hb, hmatches⟩ := h.ensureBlock hpr hkind hindex hid
  have hflowing := hsound.flowing hb hmatches hopen
  obtain ⟨b', deltas, hstep, hextends, hnew⟩ := hf s' b hflowing hmatches
  refine ⟨_, _, ?_, hsound.update hpr hitem hrepeats hp hb hflowing hextends hnew⟩
  rw [ResponsesToClaude.onEvent, hensure]
  dsimp only
  rw [onBlock, hb]
  dsimp only
  rw [hstep]

end

end Sound

/-! ## The text of an item and the value of its block -/

section Values

variable {cfg : Config U} {pr : Progress} {b : StreamBlock}

/-- A final value that is the end of the value adds nothing. -/
theorem mergedValue_suffix (a c : Text) : mergedValue (a ++ c) c = a ++ c := by
  unfold mergedValue
  by_cases hnil : a ++ c = []
  · rw [if_pos hnil, hnil]
    exact (append_eq_nil_iff.1 hnil).2
  rw [if_neg hnil]
  split
  next hstart =>
    have hlen := (List.isPrefixOf_iff_prefix.1 hstart).length_le
    rw [length_append] at hlen
    obtain rfl : a = [] := length_eq_zero_iff.1 (by omega)
    rw [nil_append, drop_length, append_nil]
  · rfl

theorem mergedValue_self (v : Text) : mergedValue v v = v := mergedValue_suffix [] v

theorem mergedValue_nil (v : Text) : mergedValue v [] = v := by
  have hsuffix := mergedValue_suffix v []
  rwa [append_nil] at hsuffix

theorem appendSeparatedText_suffix (current text : Text) :
    ∃ before, appendSeparatedText current text = before ++ text := by
  unfold appendSeparatedText
  split
  next htext =>
    exact ⟨current, by rw [htext, append_nil]⟩
  · split
    · exact ⟨[], rfl⟩
    · exact ⟨_, rfl⟩

theorem Progress.value_suffix (pr : Progress) : ∃ before, pr.value = before ++ pr.current := by
  unfold Progress.value
  split
  · rw [joinParts_append]
    exact appendSeparatedText_suffix _ _
  · exact ⟨_, rfl⟩

/-- The end of a part leaves the text as it is. -/
theorem Progress.value_endPart (pr : Progress) :
    ({ pr with parts := pr.parts ++ [pr.current], current := [] } : Progress).value = pr.value := by
  unfold Progress.value
  split
  · rw [joinParts_append (pr.parts ++ [pr.current]), appendSeparatedText, if_pos rfl]
  · simp

theorem Progress.value_extend (htype : pr.item.type ≠ .reasoning) (delta : Text) :
    ({ pr with current := pr.current ++ delta } : Progress).value = pr.value ++ delta := by
  rw [Progress.value, Progress.value, if_neg htype, if_neg htype, append_assoc]

theorem Progress.value_reasoning (htype : pr.item.type = .reasoning) {delta : Text}
    (hdelta : delta ≠ []) (heven : pr.evenBreak delta = true) :
    ({ pr with current := pr.current ++ delta } : Progress).value =
      pr.value ++ if pr.current = [] ∧ pr.value ≠ [] then separatedResponsesDelta delta
        else delta := by
  have hvalue : pr.value = appendSeparatedText (joinParts pr.parts) pr.current := by
    rw [Progress.value, if_pos htype, joinParts_append]
  rw [Progress.evenBreak, decide_eq_true_iff] at heven
  rw [Progress.value, if_pos htype, joinParts_append]
  by_cases hcurrent : pr.current = []
  · have hjoin : pr.value = joinParts pr.parts := by
      rw [hvalue, hcurrent, appendSeparatedText, if_pos rfl]
    rw [hcurrent, nil_append, hjoin]
    by_cases hnil : joinParts pr.parts = []
    · rw [hnil, if_neg (by simp), appendSeparatedText, if_neg hdelta, if_pos rfl, nil_append]
    · rw [if_pos ⟨rfl, hnil⟩]
      refine appendSeparatedText_first hnil hdelta ?_
      simpa [hdelta, hnil, hcurrent] using heven
  · rw [if_neg (by simp [hcurrent]), hvalue]
    refine appendSeparatedText_append hcurrent ?_
    simpa [hdelta, hcurrent] using heven

theorem Flowing.grown (h : Flowing b) (delta : Text) (needsBreak : Bool) :
    Extends b
      { b with
        value := b.value ++ delta
        sentBytes := (b.value ++ delta).length
        needsReasoningBreak := needsBreak }
      (if delta = [] then [] else [b.kind.delta delta]) := by
  refine ⟨rfl, rfl, h.started, rfl, ?_, ?_⟩
  · by_cases hdelta : delta = []
    · simp [hdelta]
    · simp [hdelta, Kind.delta_data]
  · intro other hother content hkind
    by_cases hdelta : delta = []
    · simp [hdelta] at hother
    · rw [if_neg hdelta, mem_singleton] at hother
      rw [hother]
      exact Kind.delta_fits hkind delta

theorem append_open {stopped : Bool} (h : stopped = false) (events : List (Claude.Event U))
    (i : ℤ) : events ++ (if stopped then [.contentBlockStop i] else []) = events := by
  rw [h]
  exact append_nil events

theorem map_delta (b : StreamBlock) (delta : Text) :
    ((if delta = [] then [] else [b.kind.delta delta]).map
      (.contentBlockDelta b.index) : List (Claude.Event U)) =
      if delta = [] then [] else [.contentBlockDelta b.index (b.kind.delta delta)] := by
  split <;> rfl

theorem carries_appendDelta (htype : pr.item.type ≠ .reasoning) (delta : Text) :
    Carries (appendDelta cfg delta) pr { pr with current := pr.current ++ delta } := by
  intro s b hflowing hmatches
  refine ⟨_, _, ?_, hflowing.grown delta b.needsReasoningBreak, ?_⟩
  · rw [hflowing.appendDelta, map_delta, append_open hflowing.stopped]
  · refine ⟨hmatches.kind, ?_, hmatches.stopped, fun hreasoning => absurd hreasoning htype⟩
    rw [Progress.value_extend htype, hmatches.value]

theorem carries_appendReasoning (htype : pr.item.type = .reasoning) {delta : Text}
    (heven : pr.evenBreak delta = true) :
    Carries (appendReasoning cfg delta) pr { pr with current := pr.current ++ delta } := by
  intro s b hflowing hmatches
  have hbreak := hmatches.needsBreak htype
  unfold appendReasoning
  by_cases hdelta : delta = []
  · subst hdelta
    refine ⟨_, _, ?_, hflowing.grown [] b.needsReasoningBreak, ?_⟩
    · rw [if_neg (by simp), hflowing.appendDelta, map_delta, append_open hflowing.stopped]
    · refine ⟨hmatches.kind, ?_, hmatches.stopped, ?_⟩
      · simpa using hmatches.value
      · simpa using hmatches.needsBreak
  have hvalue := Progress.value_reasoning htype hdelta heven
  have hsome : pr.current ++ delta ≠ [] := by simp [hdelta]
  by_cases hneeds : b.needsReasoningBreak = true
  · have hadded : separatedResponsesDelta delta ≠ [] := by
      rw [separatedResponsesDelta_eq]
      simp [hdelta]
    have hreset : Flowing { b with needsReasoningBreak := false } :=
      { hflowing with }
    rw [if_pos (hbreak.1 hneeds)] at hvalue
    refine ⟨_, _, ?_, hflowing.grown (separatedResponsesDelta delta) false, ?_⟩
    · rw [if_pos (by simp [hneeds, hdelta]), hreset.appendDelta, map_delta,
        append_open hflowing.stopped]
    · refine ⟨hmatches.kind, ?_, hmatches.stopped, fun _ => ?_⟩
      · rw [hvalue, hmatches.value]
      · simp [hdelta]
  · rw [if_neg fun hboth => hneeds (hbreak.2 hboth)] at hvalue
    refine ⟨_, _, ?_, hflowing.grown delta b.needsReasoningBreak, ?_⟩
    · rw [if_neg (by simp [hneeds]), hflowing.appendDelta, map_delta, append_open hflowing.stopped]
    · refine ⟨hmatches.kind, ?_, hmatches.stopped, fun _ => ?_⟩
      · rw [hvalue, hmatches.value]
      · simp [hneeds, hdelta]

/-- A block with everything sent, after a change of other data. -/
theorem Flowing.unchanged (h : Flowing b) (count : ℕ) (needsBreak stopped : Bool) :
    Extends b
      { b with annotationCount := count, needsReasoningBreak := needsBreak, stopped := stopped }
      [] :=
  ⟨rfl, rfl, h.started, h.sent, (append_nil _).symm, by simp⟩

theorem Flowing.mergeOptional (h : Flowing b) (s : State U) {finalValue : Option Text}
    (hsame : ∀ v, finalValue = some v → mergedValue b.value v = b.value) :
    mergeOptional cfg finalValue s b = (s, b, []) := by
  unfold ResponsesToClaude.mergeOptional
  cases finalValue with
  | none => rfl
  | some v => exact h.mergeFinalValue (hsame v rfl)

section

variable {text : Option Text} (htext : text.all (· = pr.current) = true)

include htext

/-- The current part adds nothing to the value. -/
theorem Matches.merged_current (h : Matches pr b) :
    ∀ v, text = some v → mergedValue b.value v = b.value := by
  intro v hv
  rw [hv, all_some, decide_eq_true_iff] at htext
  obtain ⟨before, hvalue⟩ := pr.value_suffix
  rw [h.value, hvalue, htext]
  exact mergedValue_suffix before pr.current

/-- The end of a text leaves the block. -/
theorem carries_merge {pr' : Progress} (hnew : ∀ b, Matches pr b → Matches pr' b) :
    Carries (mergeOptional cfg text) pr pr' := by
  intro s b hflowing hmatches
  refine ⟨b, [], ?_, hflowing.unchanged b.annotationCount b.needsReasoningBreak b.stopped,
    hnew b hmatches⟩
  rw [hflowing.mergeOptional s (hmatches.merged_current htext), hflowing.stopped]
  rfl

theorem carries_endText (htype : pr.item.type ≠ .reasoning) :
    Carries (mergeOptional cfg text) pr
      { pr with parts := pr.parts ++ [pr.current], current := [] } := by
  exact carries_merge htext fun b hmatches => ⟨hmatches.kind,
    hmatches.value.trans pr.value_endPart.symm, hmatches.stopped,
    fun hreasoning => absurd hreasoning htype⟩

theorem carries_endReasoningPart :
    Carries (endReasoningPart cfg text) pr
      { pr with parts := pr.parts ++ [pr.current], current := [] } := by
  intro s b hflowing hmatches
  unfold endReasoningPart
  rw [hflowing.mergeOptional s (hmatches.merged_current htext)]
  dsimp only
  have hkept := hmatches.value.trans pr.value_endPart.symm
  by_cases hvalue : b.value ≠ []
  · rw [if_pos hvalue]
    refine ⟨_, [], ?_, hflowing.unchanged b.annotationCount true b.stopped, hmatches.kind, hkept,
      hmatches.stopped, fun _ => ?_⟩
    · rw [append_open hflowing.stopped]
      rfl
    · rw [Progress.value_endPart, ← hmatches.value]
      simpa using hvalue
  · rw [if_neg hvalue]
    refine ⟨b, [], ?_, hflowing.unchanged b.annotationCount b.needsReasoningBreak b.stopped,
      hmatches.kind, hkept, hmatches.stopped, fun hreasoning => ?_⟩
    · rw [append_open hflowing.stopped]
      rfl
    · rw [Progress.value_endPart, hmatches.needsBreak hreasoning, ← hmatches.value]
      simp only [not_not.1 hvalue, ne_eq, not_true_eq_false, and_false]

end

theorem Flowing.cited (h : Flowing b) (count : ℕ) (stopped : Bool) {citations : List String}
    (htext : citations ≠ [] → b.kind = .text) :
    Extends b { b with annotationCount := count, stopped := stopped }
      (citations.map .citation) := by
  refine ⟨rfl, rfl, h.started, h.sent, ?_, ?_⟩
  · have hnone :
        (citations.map Claude.BlockDelta.citation).flatMap Claude.BlockDelta.data = [] := by
      simp [flatMap_eq_nil_iff, Claude.BlockDelta.data]
    rw [hnone, append_nil]
  · intro delta hdelta content hkind
    obtain ⟨citation, hcitation, rfl⟩ := List.mem_map.1 hdelta
    rw [htext (ne_nil_of_mem hcitation)] at hkind
    cases content with
    | text => rfl
    | thinking | toolUse => cases hkind

theorem carries_appendAnnotations (annotations : List String) (snapshot : Bool) :
    Carries (appendAnnotations cfg annotations snapshot) pr pr := by
  intro s b hflowing hmatches
  obtain ⟨count, citations, hstep, htext⟩ :=
    hflowing.appendAnnotations cfg s annotations snapshot
  refine ⟨_, _, ?_, hflowing.cited count b.stopped htext, hmatches.kind, hmatches.value,
    hmatches.stopped, hmatches.needsBreak⟩
  rw [hstep, append_open hflowing.stopped, List.map_map]
  rfl

theorem reasoningOutputText_eq (item : Item) :
    reasoningOutputText item = joinParts (reasoningParts item) := by
  unfold reasoningOutputText reasoningParts
  split
  · rfl
  · rfl

/-- The text of a complete item. -/
def itemContent (item : Item) : Text :=
  match item.type with
  | .message => messageText item
  | .reasoning => reasoningOutputText item
  | .functionCall => item.arguments
  | .customToolCall => item.input
  | _ => []

section

variable {item : Item} {kind : Kind} (htype : item.type = pr.item.type)
  (hkind : typeKind pr.item.type = some kind) (hcomplete : pr.complete item = true)

include htype hkind hcomplete

/-- The complete item has the text that has been said. -/
theorem Progress.value_complete : pr.value = itemContent item := by
  rw [← htype] at hkind
  unfold Progress.complete at hcomplete
  unfold itemContent
  cases hitem : item.type with
  | message | functionCall =>
    simp only [hitem] at hcomplete
    exact (of_decide_eq_true hcomplete).symm
  | reasoning =>
    simp only [hitem] at hcomplete
    dsimp only
    rw [reasoningOutputText_eq, ← joinParts_filter, of_decide_eq_true hcomplete, joinParts_filter,
      Progress.value, if_pos (htype.symm.trans hitem)]
  | customToolCall =>
    simp only [hitem] at hcomplete
    exact (of_decide_eq_true hcomplete).1.symm
  | webSearchCall | mcpCall | named =>
    rw [hitem] at hkind
    cases hkind

/-- The content of the complete item adds nothing but citations. -/
theorem mergeItem_complete (cfg : Config U) (s : State U) (hflowing : Flowing b)
    (hmatches : Matches pr b) :
    ∃ count citations, mergeItem cfg item kind s b = (s, { b with annotationCount := count },
        citations.map fun citation => .contentBlockDelta b.index (.citation citation)) ∧
      (citations ≠ [] → b.kind = .text) := by
  have hcontent : mergedValue b.value (itemContent item) = b.value := by
    rw [← Progress.value_complete htype hkind hcomplete, hmatches.value, mergedValue_self]
  have hmerge : ∀ v, mergedValue b.value v = b.value → ∃ count citations,
      mergeFinalValue cfg v s b = (s, { b with annotationCount := count }, map
        (fun citation => .contentBlockDelta b.index (.citation citation)) citations) ∧
      (citations ≠ [] → b.kind = .text) := fun v hv =>
    ⟨b.annotationCount, [], hflowing.mergeFinalValue hv, by simp⟩
  rw [← htype] at hkind
  unfold itemContent at hcontent
  cases hitem : item.type with
  | message =>
    rw [hitem] at hkind hcontent
    obtain ⟨count, citations, hstep, htext⟩ :=
      hflowing.appendAnnotations cfg s (messageAnnotations item) true
    refine ⟨count, citations, ?_, htext⟩
    rw [← some.inj hkind, mergeItem, andThen, hflowing.mergeFinalValue hcontent]
    dsimp only
    rw [hstep]
    rfl
  | reasoning | functionCall =>
    rw [hitem] at hkind hcontent
    rw [← some.inj hkind]
    exact hmerge _ hcontent
  | customToolCall =>
    rw [hitem] at hkind
    simp only [Progress.complete, hitem] at hcomplete
    rw [← some.inj hkind]
    refine hmerge _ ?_
    rw [(of_decide_eq_true hcomplete).2, mergedValue_nil]
  | webSearchCall | mcpCall | named =>
    rw [hitem] at hkind
    cases hkind

theorem carries_done :
    Carries (andThen (mergeItem cfg item kind) (stopBlock cfg)) pr
      { pr with done := some item } := by
  intro s b hflowing hmatches
  obtain ⟨count, citations, hstep, htext⟩ :=
    mergeItem_complete htype hkind hcomplete cfg s hflowing hmatches
  have hcounted : Flowing { b with annotationCount := count } :=
    { hflowing with }
  refine ⟨_, _, ?_, hflowing.cited count true htext, hmatches.kind, hmatches.value, rfl,
    hmatches.needsBreak⟩
  rw [andThen, hstep]
  dsimp only
  rw [hcounted.stopBlock, List.map_map]
  rfl

end

end Values

/-! ## Events -/

section Events

variable {cfg : Config U} {σ σ' : Output} {s : State U} {trace : List (Claude.Event U)} {k : ℤ}
  {pr pr' : Progress} {e : Event U} {item : Item}

theorem Sound.applyResponseMetadata (h : Sound σ s trace) (response : Option (Response U)) :
    Sound σ (applyResponseMetadata cfg s response) trace := by
  unfold ResponsesToClaude.applyResponseMetadata
  split
  · exact h
  · exact { h with begun := h.begun.congr rfl rfl rfl }

theorem trimSpace_empty : trimSpace "" = "" := by decide

theorem itemID_of_own (hitem : e.item = none) {id : String} (hid : ownId e id = true) :
    e.itemID = "" ∨ e.itemID = trimSpace id := by
  rw [Event.itemID, hitem]
  dsimp only
  rcases of_decide_eq_true hid with hid | hid
  · rw [hid]
    exact .inl trimSpace_empty
  · rw [hid]
    exact .inr rfl

theorem itemID_of_item (hitem : e.item = some item) (hid : ownId e item.id = true) :
    e.itemID = "" ∨ e.itemID = trimSpace item.id := by
  rw [Event.itemID, hitem]
  dsimp only
  split
  · exact .inr rfl
  rcases of_decide_eq_true hid with hid | hid
  · rw [hid]
    exact .inl trimSpace_empty
  · rw [hid]
    exact .inr rfl

/-- What an event inside an item makes the converter do. -/
theorem advance_carried (cfg : Config U) (hadvance : pr.advance e = some pr')
    (heven : e.type = .reasoningSummaryDelta ∨ e.type = .reasoningTextDelta →
      pr.evenBreak e.delta = true) :
    ∃ kind f, typeKind pr.item.type = some kind ∧ pr'.item = pr.item ∧ pr'.done = pr.done ∧
      Carries f pr pr' ∧ ∀ s : State U, s.done = false → convertChunk cfg s e =
        onEvent (applyResponseMetadata cfg s e.response) e kind f := by
  have hchunk : ∀ {s : State U}, s.done = false → ¬s.done = true := by simp
  revert hadvance
  fun_cases Progress.advance pr e <;> intro hadvance
  case case1 hevent htype | case9 hevent htype | case11 hevent htype =>
    obtain rfl := some.inj hadvance
    refine ⟨_, appendDelta cfg e.delta, by rw [htype]; rfl, rfl, rfl,
      carries_appendDelta (by simp [htype]) e.delta, fun s hs => ?_⟩
    rw [convertChunk, if_neg (hchunk hs), hevent]
  case case2 hevent htype =>
    obtain ⟨htext, ⟨⟩⟩ := ite_none_right_eq_some.1 hadvance
    refine ⟨_, mergeOptional cfg e.text, by rw [htype]; rfl, rfl, rfl,
      carries_endText htext (by simp [htype]), fun s hs => ?_⟩
    rw [convertChunk, if_neg (hchunk hs), hevent]
  case case3 hevent htype hsome =>
    cases hadvance
    refine ⟨_, appendAnnotations cfg e.annotation.toList false, by rw [htype]; rfl, rfl, rfl,
      carries_appendAnnotations _ false, fun s hs => ?_⟩
    rw [convertChunk, if_neg (hchunk hs), hevent]
    dsimp only
    split
    next herror =>
      exact herror.symm
    next hok =>
      rw [if_neg (by simpa [isNone_iff_eq_none, isSome_iff_ne_none] using hsome)]
      exact hok.symm
  case case5 hevent htype | case6 hevent htype =>
    obtain rfl := some.inj hadvance
    refine ⟨_, appendReasoning cfg e.delta, by rw [htype]; rfl, rfl, rfl,
      carries_appendReasoning htype (heven (by simp [hevent])), fun s hs => ?_⟩
    rw [convertChunk, if_neg (hchunk hs), hevent]
  case case7 hevent htype | case8 hevent htype =>
    obtain ⟨htext, ⟨⟩⟩ := ite_none_right_eq_some.1 hadvance
    refine ⟨_, endReasoningPart cfg e.text, by rw [htype]; rfl, rfl, rfl,
      carries_endReasoningPart htext, fun s hs => ?_⟩
    rw [convertChunk, if_neg (hchunk hs), hevent]
  case case10 hevent htype | case12 hevent htype =>
    obtain ⟨htext, ⟨⟩⟩ := ite_none_right_eq_some.1 hadvance
    refine ⟨_, mergeOptional cfg e.arguments, by rw [htype]; rfl, rfl, rfl,
      carries_merge htext fun _ hmatches => hmatches, fun s hs => ?_⟩
    rw [convertChunk, if_neg (hchunk hs), hevent]
  case case4 | case13 => cases hadvance

theorem Sound.inner (h : Sound σ s trace) (hinner : σ.inner e k = some σ')
    (hindex : e.outputIndex = some k) (hitem : e.item = none) (hregular : regular σ e = true) :
    ∃ s' events, convertChunk cfg s e = .ok (s', events) ∧ Sound σ' s' (trace ++ events) := by
  unfold Output.inner at hinner
  split at hinner
  · cases hinner
  rename_i pr hpr
  obtain ⟨⟨hopen, hid⟩, hadvance⟩ := ite_none_right_eq_some.1 hinner
  obtain ⟨pr', hnext, rfl⟩ := map_eq_some_iff.1 hadvance
  have heven : e.type = .reasoningSummaryDelta ∨ e.type = .reasoningTextDelta →
      pr.evenBreak e.delta = true := by
    rw [regular, hindex, hitem] at hregular
    intro hdelta
    simpa [hpr, hdelta] using hregular
  obtain ⟨kind, f, hkind, hsame, hdone, hcarries, hchunk⟩ := advance_carried cfg hnext heven
  have hnone : pr.done = none := isNone_iff_eq_none.1 hopen
  rw [hchunk s h.ongoing]
  refine (h.applyResponseMetadata e.response).onEvent hpr hsame ?_ hkind hnone hindex
    (itemID_of_own hitem hid) hcarries
  intro done heq
  rw [hdone, hnone] at heq
  cases heq

theorem Sound.kind_done (h : Sound σ s trace) (hpr : σ.progress k = some pr)
    (htype : item.type = pr.item.type) (hrole : item.role = pr.item.role) :
    itemKind item = typeKind pr.item.type := by
  rw [← h.kinds k pr hpr, itemKind, itemKind, htype, hrole]

/-- An item is done. -/
theorem Sound.finish (h : Sound σ s trace) (hfinish : σ.finish e k item = some σ')
    (hindex : e.outputIndex = some k) (hitem : e.item = some item) :
    ∃ s' events, applyOutputItem cfg s e true = .ok (s', events) ∧
      Sound σ' s' (trace ++ events) := by
  unfold Output.finish at hfinish
  split at hfinish
  · cases hfinish
  rename_i pr hpr
  obtain ⟨⟨hopen, htype, hid, hrole, hown, hcomplete⟩, hnew⟩ :=
    ite_none_right_eq_some.1 hfinish
  cases hnew
  have hnone : pr.done = none := isNone_iff_eq_none.1 hopen
  have hrepeats : ∀ done, ({ pr with done := some item } : Progress).done = some done →
      ({ pr with done := some item } : Progress).Repeats done := by
    intro done hdone
    cases hdone
    exact ⟨htype, hid, hrole, hcomplete⟩
  unfold applyOutputItem
  rw [hitem]
  dsimp only
  rw [h.kind_done hpr htype hrole]
  cases hkind : typeKind pr.item.type with
  | none =>
    refine ⟨s, [], rfl, ?_⟩
    rw [append_nil]
    exact h.skip hpr rfl hrepeats hkind
  | some kind =>
    have hitemID := itemID_of_item hitem hown
    rw [hid] at hitemID
    refine h.onEvent hpr ?_ hrepeats hkind hnone hindex hitemID
      (carries_done htype hkind hcomplete)
    rfl

/-! ## A new item -/

section Announce

theorem startBlock_value (cfg : Config U) (s : State U) (b : StreamBlock) :
    (startBlock cfg s b).2.1.value = b.value := by
  fun_cases startBlock cfg s b <;> rfl

variable {b : StreamBlock} {kind : Kind} {s' : State U} {trace' : List (Claude.Event U)}

theorem mergeItem_announced (cfg : Config U) (s : State U) (hitem : announced item = true)
    (hvalue : b.value = []) (hstopped : b.stopped = false) (kind : Kind) :
    mergeItem cfg item kind s b = startBlock cfg s b := by
  obtain ⟨hcontent, hsummary, harguments, -, -⟩ := of_decide_eq_true hitem
  have hmerge : mergeFinalValue cfg [] s b = startBlock cfg s b := by
    have hb : { b with value := mergedValue b.value [] } = b := by rw [mergedValue_nil]
    rw [mergeFinalValue, if_neg (by simp [hstopped]), hb, flushBlock, if_neg (by simp [hstopped])]
    dsimp only
    rw [if_pos (by simp [startBlock_value, hvalue])]
  cases kind with
  | text =>
    rw [mergeItem, messageText, messageAnnotations, hcontent]
    change andThen (mergeFinalValue cfg []) (appendAnnotations cfg [] true) s b = _
    rw [andThen, hmerge]
    simp [appendAnnotations]
  | thinking =>
    rw [mergeItem, reasoningOutputText, hcontent, hsummary]
    exact hmerge
  | toolUse =>
    rw [mergeItem, harguments]
    exact hmerge

theorem ensureMessageStart_eq (cfg : Config U) (s : State U) :
    ensureMessageStart cfg s = ({ s with sentMessageStart := true }, if s.sentMessageStart then []
      else [.messageStart s.id s.model
        ((s.usage.bind cfg.inputTokens).getD cfg.estimatedInputTokens)]) := by
  unfold ensureMessageStart
  by_cases hsent : s.sentMessageStart = true
  · rw [if_pos hsent, if_pos hsent, ← hsent]
  · rw [if_neg hsent, if_neg hsent]

/-- The new block of an announced item can be started. -/
theorem content_announced (index : ℤ) (hitem : e.item = some item)
    (hkind : typeKind item.type = some kind)
    (hname : item.type = .functionCall ∨ item.type = .customToolCall → trimSpace item.name ≠ "") :
    ∃ content, (({ index, kind } : StreamBlock).withMetadata e).content = some content ∧
      blockKind content = kind := by
  obtain ⟨itemId, callId, name, heq⟩ := withMetadata_eq ({ index, kind } : StreamBlock) e
  have hnamed : trimSpace item.name ≠ "" → name = trimSpace item.name := by
    intro hne
    have hfield := congrArg StreamBlock.name heq
    rw [StreamBlock.withMetadata, hitem] at hfield
    dsimp only at hfield
    rw [if_pos hne] at hfield
    exact hfield.symm
  rw [heq, StreamBlock.content]
  cases kind with
  | text => exact ⟨.text, rfl, rfl⟩
  | thinking => exact ⟨.thinking, rfl, rfl⟩
  | toolUse =>
    have htool : item.type = .functionCall ∨ item.type = .customToolCall := by
      cases htype : item.type <;> simp [typeKind, htype] at hkind ⊢
    have hne := hname htool
    dsimp only
    rw [hnamed hne, if_neg hne]
    exact ⟨_, rfl, rfl⟩

/-- Nothing is known of the new item. -/
theorem Sound.findBlock_new (h : Sound σ s trace) (hnew : σ.progress k = none)
    (hindex : e.outputIndex = some k) (hitem : e.item = some item) (hown : ownId e item.id = true)
    (hplain : σ.plainItem item = true) : findBlock s e = none := by
  have hnot : k ∉ σ.shown := by
    intro hmem
    have hsome := (mem_filter.1 hmem).2
    rw [hnew] at hsome
    cases hsome
  rw [findBlock, hindex, bind_some, h.other k hnot]
  dsimp only
  split
  next hblank =>
    have hown := (itemID_of_item hitem hown).resolve_left hblank
    rw [hown] at hblank ⊢
    have hothers := (of_decide_eq_true hplain).2.2.resolve_left hblank
    by_contra hfound
    obtain ⟨p, hp⟩ := ne_none_iff_exists'.1 hfound
    obtain ⟨j, pr, hj, hpr, hid⟩ := h.ids _ p hp
    have hne := List.all_eq_true.1 hothers j hj
    rw [hpr] at hne
    simp [hid] at hne
  · rfl

theorem Sound.not_mem (h : Sound σ s trace) (hnew : σ.progress k = none) : k ∉ σ.order := by
  rw [h.mem, hnew]
  exact Bool.false_ne_true

theorem add_of_ne {j : ℤ} (hj : j ≠ k) : (σ.add k item).progress j = σ.progress j :=
  update_of_ne hj _ _

theorem add_self : (σ.add k item).progress k = some { item } := update_self _ _ _

theorem shown_add (hnew : k ∉ σ.order) : (σ.add k item).shown =
    σ.shown ++ if (typeKind item.type).isSome then [k] else [] := by
  change (σ.order ++ [k]).filter _ = _
  rw [filter_append]
  congr 1
  · refine filter_congr fun j hj => ?_
    rw [add_of_ne (ne_of_mem_of_not_mem hj hnew)]
  · rw [filter_singleton, add_self, any_some, Bool.cond_eq_ite]

section

variable (h : Sound σ s trace) (hnew : σ.progress k = none)
  (hkind : itemKind item = typeKind item.type)

include h hnew hkind

theorem Sound.add (hongoing : s'.done = false) (hbegun : Begun s' trace')
    (hlength : s'.blocks.length = (σ.add k item).shown.length)
    (hblock : ∀ (q : ℕ) j, (σ.add k item).shown[q]? = some j → s'.byOutputIndex j = some q ∧
      ∃ b pr, s'.blocks[q]? = some b ∧ (σ.add k item).progress j = some pr ∧ Matches pr b)
    (hother : ∀ j, j ∉ (σ.add k item).shown → s'.byOutputIndex j = none)
    (hids : ∀ id p, s'.byItemId id = some p → s.byItemId id = some p ∨ trimSpace item.id = id) :
    Sound (σ.add k item) s' trace' := by
  refine ⟨hongoing, hbegun, ?_, ?_, ?_, ?_, hlength, hblock, hother, ?_⟩
  · change (σ.order ++ [k]).Nodup
    rw [← concat_eq_append]
    exact h.nodup.concat (h.not_mem hnew)
  · intro j
    change j ∈ σ.order ++ [k] ↔ _
    rw [mem_append, mem_singleton, h.mem]
    by_cases hj : j = k
    · subst hj
      rw [add_self]
      simp
    · rw [add_of_ne hj]
      simp [hj]
  · intro j pr hpr
    rcases update_eq_some hpr with ⟨-, rfl⟩ | ⟨-, hpr⟩
    · exact hkind
    · exact h.kinds j pr hpr
  · intro j pr done hpr hdone
    rcases update_eq_some hpr with ⟨-, rfl⟩ | ⟨-, hpr⟩
    · cases hdone
    · exact h.done j pr done hpr hdone
  · intro id p hp
    rcases hids id p hp with hp | hid
    · obtain ⟨j, pr, hj, hpr, htrim⟩ := h.ids id p hp
      have hne : j ≠ k := by
        rintro rfl
        rw [hnew] at hpr
        cases hpr
      exact ⟨j, pr, mem_append_left _ hj, (add_of_ne hne).trans hpr, htrim⟩
    · exact ⟨k, { item }, mem_append_right _ (mem_singleton.2 rfl), add_self, hid⟩

/-- An announced item without a block. -/
theorem Sound.add_hidden (hnone : typeKind item.type = none) : Sound (σ.add k item) s trace := by
  have hshown : (σ.add k item).shown = σ.shown := by
    rw [shown_add (h.not_mem hnew), hnone]
    exact append_nil _
  refine h.add hnew hkind h.ongoing h.begun ?_ ?_ ?_ fun id p hp => .inl hp
  · rw [hshown]
    exact h.length
  · rw [hshown]
    intro q j hj
    have hne : j ≠ k := by
      rintro rfl
      exact h.not_mem hnew (mem_filter.1 (mem_of_getElem? hj)).1
    rw [add_of_ne hne]
    exact h.block q j hj
  · rw [hshown]
    exact h.other

theorem Sound.add_block (hb : typeKind item.type = some b.kind) (hvalue : b.value = [])
    (hstopped : b.stopped = false) (hbreak : b.needsReasoningBreak = false)
    (hongoing : s'.done = false) (hbegun : Begun s' trace') (hblocks : s'.blocks = s.blocks ++ [b])
    (hindex : s'.byOutputIndex = Function.update s.byOutputIndex k (some s.blocks.length))
    (hids : ∀ id p, s'.byItemId id = some p → s.byItemId id = some p ∨ trimSpace item.id = id) :
    Sound (σ.add k item) s' trace' := by
  have hshown : (σ.add k item).shown = σ.shown ++ [k] := by
    rw [shown_add (h.not_mem hnew), hb]
    rfl
  refine h.add hnew hkind hongoing hbegun ?_ ?_ ?_ hids
  · rw [hshown, hblocks, length_append, length_append, h.length]
    rfl
  · rw [hshown, hblocks, hindex]
    intro q j hj
    rcases Nat.lt_or_ge q σ.shown.length with hlt | hge
    · rw [getElem?_append_left hlt] at hj
      have hne : j ≠ k := by
        rintro rfl
        exact h.not_mem hnew (mem_filter.1 (mem_of_getElem? hj)).1
      rw [update_of_ne hne, getElem?_append_left (h.length ▸ hlt), add_of_ne hne]
      exact h.block q j hj
    · have hlen := (List.getElem?_eq_some_iff.1 hj).1
      rw [length_append, length_singleton] at hlen
      obtain rfl : q = σ.shown.length := by omega
      rw [getElem?_concat_length] at hj
      cases hj
      rw [update_self, ← h.length, getElem?_concat_length, add_self]
      have hempty : ({ item } : Progress).value = [] := by
        rw [Progress.value]
        split
        · rfl
        · rfl
      refine ⟨rfl, b, { item }, rfl, rfl, hb, ?_, hstopped, fun _ => ?_⟩
      · rw [hvalue, hempty]
      · rw [hbreak, hempty]
        simp
  · rw [hshown, hindex]
    intro j hj
    rw [mem_append, mem_singleton, not_or] at hj
    rw [update_of_ne hj.2]
    exact h.other j hj.1

end

theorem itemKind_plain (hrole : item.type = .message → item.role = "" ∨ item.role = "assistant") :
    itemKind item = typeKind item.type := by
  unfold itemKind
  cases htype : item.type with
  | message => simpa [typeKind, imp_iff_not_or, not_not] using hrole htype
  | reasoning | functionCall | customToolCall | webSearchCall | mcpCall | named => rfl

variable {content : Claude.Block}

theorem startBlock_new (cfg : Config U) (s : State U)
    (hstarted : b.started = false) (hstopped : b.stopped = false)
    (hcontent : b.content = some content) :
    startBlock cfg s b = (
      { s with
        sawToolCall := s.sawToolCall || b.kind = .toolUse
        sentMessageStart := true },
      { b with started := true },
      (ensureMessageStart cfg s).2 ++ [.contentBlockStart b.index content]) := by
  rw [startBlock, if_neg (by simp [hstarted, hstopped]), hcontent]
  dsimp only
  rw [ensureMessageStart_eq, ensureMessageStart_eq]

/-- The new block is the last. -/
theorem blocks_added (s : State U) (e : Event U) (kind : Kind) :
    (applyBlockMetadata (addBlock s kind) s.blocks.length e kind).blocks =
      s.blocks ++ [({ index := s.nextBlockIndex, kind } : StreamBlock).withMetadata e] := by
  change (s.blocks ++ [_]).modify s.blocks.length _ = _
  rw [modify_eq_take_drop, take_left, drop_left]
  rfl

theorem Sound.startBlock (cfg : Config U) (h : Sound σ s trace) (hnew : σ.progress k = none)
    (hkinds : itemKind item = typeKind item.type) (hkind : typeKind item.type = some kind)
    (hindex : e.outputIndex = some k) (hid : e.itemID = "" ∨ e.itemID = trimSpace item.id)
    (hb : b = ({ index := s.nextBlockIndex, kind } : StreamBlock).withMetadata e)
    (hcontent : b.content = some content) (hblock : blockKind content = kind)
    (hs : s' = ResponsesToClaude.applyBlockMetadata (addBlock s kind) s.blocks.length e kind) :
    ∃ s₂ b₂ events, ResponsesToClaude.startBlock cfg s' b = (s₂, b₂, events) ∧
      Sound (σ.add k item) { s₂ with blocks := s₂.blocks.set s.blocks.length b₂ }
        (trace ++ events) := by
  obtain ⟨itemId, callId, name, heq⟩ :=
    withMetadata_eq ({ index := s.nextBlockIndex, kind } : StreamBlock) e
  have hfields := hb.trans heq
  have hblocks : s'.blocks = s.blocks ++ [b] := by
    rw [hs, hb]
    exact blocks_added s e kind
  have hsame : (ensureMessageStart cfg s').2 = (ensureMessageStart cfg s).2 := by
    rw [hs, ensureMessageStart_eq, ensureMessageStart_eq]
    rfl
  obtain ⟨hlive, hsent⟩ := h.begun.ensureMessageStart cfg
  rw [hsent] at hlive
  have hnext := hlive.start (b := { b with started := true }) (by rw [hfields]) rfl
    (by rw [hfields]) (by rw [hfields]) (by rw [hfields]) (hblock.trans (by rw [hfields]))
  rw [append_assoc, ← hsame] at hnext
  refine ⟨_, _, _, startBlock_new cfg s' (by rw [hfields]) (by rw [hfields]) hcontent, ?_⟩
  have hset : s'.blocks.set s.blocks.length { b with started := true } =
      s.blocks ++ [{ b with started := true }] := by
    rw [hblocks, set_append_right _ _ (Nat.le_refl _), Nat.sub_self]
    rfl
  refine h.add_block hnew hkinds (b := { b with started := true }) ?_ ?_ ?_ ?_ ?_ ?_ hset ?_ ?_
  · rw [hkind, hfields]
  · rw [hfields]
  · rw [hfields]
  · rw [hfields]
  · rw [hs]
    exact h.ongoing
  · refine Begun.congr (.inl hnext) rfl ?_ hset
    rw [hs]
    rfl
  · rw [hs, applyBlockMetadata_index _ _ _ hindex]
    rfl
  · intro id p hp
    rw [hs] at hp
    rcases applyBlockMetadata_ids kind hp with hp | ⟨hblank, rfl⟩
    · exact .inl hp
    · exact .inr (hid.resolve_left hblank).symm

/-- An item is announced. -/
theorem Sound.announce (h : Sound σ s trace) (hannounce : σ.announce e k item = some σ')
    (hindex : e.outputIndex = some k) (hitem : e.item = some item)
    (hplain : σ.plainItem item = true) :
    ∃ s' events, applyOutputItem cfg s e false = .ok (s', events) ∧
      Sound σ' s' (trace ++ events) := by
  obtain ⟨⟨hnew, hann, hown, -⟩, hσ⟩ := ite_none_right_eq_some.1 hannounce
  cases hσ
  obtain ⟨hrole, hname, -⟩ := of_decide_eq_true hplain
  have hnew := isNone_iff_eq_none.1 hnew
  have hkinds := itemKind_plain hrole
  unfold applyOutputItem
  rw [hitem]
  dsimp only
  rw [hkinds]
  cases hkind : typeKind item.type with
  | none =>
    refine ⟨s, [], rfl, ?_⟩
    rw [append_nil]
    exact h.add_hidden hnew hkinds hkind
  | some kind =>
    dsimp only
    have hfind := h.findBlock_new hnew hindex hitem hown hplain
    have hlast : lastBlock s e kind = none := by
      rw [lastBlock, if_neg (by simp [hindex])]
    obtain ⟨content, hcontent, hblock⟩ := content_announced s.nextBlockIndex hitem hkind hname
    obtain ⟨s', b', events, hstart, hsound⟩ := h.startBlock cfg hnew hkinds hkind hindex
      (itemID_of_item hitem hown) rfl hcontent hblock rfl
    refine ⟨_, events, ?_, hsound⟩
    rw [ResponsesToClaude.onEvent, ResponsesToClaude.ensureBlock, hfind, hlast]
    rw [if_neg Bool.false_ne_true]
    change Except.ok (onBlock _ s.blocks.length (mergeItem cfg item kind)) = _
    rw [onBlock, blocks_added, getElem?_concat_length]
    dsimp only
    obtain ⟨itemId, callId, name, heq⟩ :=
      withMetadata_eq ({ index := s.nextBlockIndex, kind } : StreamBlock) e
    rw [mergeItem_announced cfg _ hann (by rw [heq]) (by rw [heq]), hstart]

end Announce

/-! ## Runs -/

/-- An event that says nothing of the items. -/
theorem Sound.silent (cfg : Config U) (h : Sound σ s trace) (hsilent : silent e.type = true) :
    ∃ s' events, convertChunk cfg s e = .ok (s', events) ∧ Sound σ s' (trace ++ events) := by
  have hmeta : Sound σ (ResponsesToClaude.applyResponseMetadata cfg s e.response) trace :=
    h.applyResponseMetadata e.response
  have hnothing : Sound σ (ResponsesToClaude.applyResponseMetadata cfg s e.response)
      (trace ++ []) := by
    rw [append_nil]
    exact hmeta
  unfold convertChunk
  rw [if_neg (by simp [h.ongoing])]
  dsimp only
  cases htype : e.type with
  | created =>
    obtain ⟨hlive, hsent⟩ := hmeta.begun.ensureMessageStart cfg
    refine ⟨(ensureMessageStart cfg _).1, (ensureMessageStart cfg _).2, rfl, ?_⟩
    rw [hsent] at hlive ⊢
    exact { hmeta with begun := .inl hlive }
  | error | reasoningSummaryPartAdded | reasoningSummaryPartDone | mcpArgsDelta | mcpArgsDone =>
    exact ⟨_, [], rfl, hnothing⟩
  | named name =>
    have hname : name ≠ "response.error" := by
      rw [htype] at hsilent
      exact of_decide_eq_true hsilent
    refine ⟨_, [], ?_, hnothing⟩
    simp [hname]
  | _ =>
    rw [htype] at hsilent
    cases hsilent

theorem Sound.step (cfg : Config U) (h : Sound σ s trace) (hobserve : observe σ e = some σ')
    (hregular : regular σ e = true) :
    ∃ s' events, convertChunk cfg s e = .ok (s', events) ∧ Sound σ' s' (trace ++ events) := by
  unfold observe at hobserve
  by_cases hsilent : ResponsesToClaude.silent e.type = true
  · rw [if_pos hsilent] at hobserve
    cases hobserve
    exact h.silent cfg hsilent
  rw [if_neg hsilent] at hobserve
  split at hobserve
  next k item hindex hitem =>
    have hchunk : ∀ stop : Bool, e.type = (if stop then .outputItemDone else .outputItemAdded) →
        convertChunk cfg s e = applyOutputItem cfg
          (ResponsesToClaude.applyResponseMetadata cfg s e.response) e stop := by
      intro stop htype
      rw [convertChunk, if_neg (by simp [h.ongoing]), htype]
      cases stop <;> rfl
    have hmeta : Sound σ (ResponsesToClaude.applyResponseMetadata cfg s e.response) trace :=
      h.applyResponseMetadata e.response
    by_cases hadded : e.type = .outputItemAdded
    · rw [if_pos hadded] at hobserve
      rw [hchunk false hadded]
      refine hmeta.announce hobserve hindex hitem ?_
      rw [regular, hindex, hitem] at hregular
      simpa [hadded] using hregular
    · obtain ⟨hdone, hfinish⟩ :=
        ite_none_right_eq_some.1 ((if_neg hadded).symm.trans hobserve)
      rw [hchunk true hdone]
      exact hmeta.finish hfinish hindex hitem
  next k hindex hitem =>
    exact h.inner hobserve hindex hitem hregular
  · cases hobserve

variable {events : List (Event U)}

/-- A stream of events that are not the last. -/
theorem Sound.run (cfg : Config U) (h : Sound σ s trace)
    (hobserve : observeAll σ events = some σ') (hregular : Regular σ events = true) :
    ∃ s' claude, convertAll cfg s events = .ok (s', claude) ∧ Sound σ' s' (trace ++ claude) := by
  induction events generalizing σ s trace with
  | nil =>
    cases hobserve
    refine ⟨s, [], rfl, ?_⟩
    rw [append_nil]
    exact h
  | cons e rest ih =>
    rw [observeAll] at hobserve
    rw [Regular, Bool.and_eq_true] at hregular
    split at hobserve
    · cases hobserve
    rename_i σ₁ hσ₁
    obtain ⟨s₁, first, hchunk, hsound⟩ := h.step cfg hσ₁ hregular.1
    have hrest : Regular σ₁ rest = true := by
      have hall := hregular.2
      rwa [hσ₁, all_some] at hall
    obtain ⟨s₂, others, hall, hlast⟩ := ih hsound hobserve hrest
    refine ⟨s₂, first ++ others, ?_, ?_⟩
    · rw [convertAll, hchunk]
      dsimp only
      rw [hall]
    · rw [← append_assoc]
      exact hlast

theorem Sound.init (id model : String) : Sound {} (newState id model : State U) [] := by
  refine ⟨rfl, .inr ⟨rfl, rfl, rfl, rfl⟩, nodup_nil, ?_, ?_, ?_, rfl, ?_, fun _ _ => rfl, ?_⟩
  · intro k
    simp
  · intro k pr hpr
    cases hpr
  · intro k pr done hpr
    cases hpr
  · intro p k hk
    cases hk
  · intro id p hp
    cases hp

/-! ## The last event -/

/-- An item that is done adds nothing when it is listed again. -/
theorem Sound.applyOutputItem (cfg : Config U) (h : Sound σ s trace) {done : Item}
    (hpr : σ.progress k = some pr) (hdone : pr.done = some done) (hplain : done.plain = item.plain)
    (hindex : e.outputIndex = some k) (hitem : e.item = some item)
    (hown : ownId e item.id = true) :
    ∃ s', applyOutputItem cfg s e true = .ok (s', []) ∧ Sound σ s' trace := by
  obtain ⟨htype, hid, hrole, -⟩ := h.done k pr done hpr hdone
  have hsame : itemKind item = typeKind pr.item.type := by
    refine h.kind_done hpr (Eq.trans ?_ htype) (Eq.trans ?_ hrole)
    · exact (congrArg Item.type hplain).symm
    · exact (congrArg Item.role hplain).symm
  have hitemID : e.itemID = "" ∨ e.itemID = trimSpace pr.item.id := by
    have hlisted : item.id = done.id := (congrArg Item.id hplain).symm
    rw [← hid, ← hlisted]
    exact itemID_of_item hitem hown
  unfold ResponsesToClaude.applyOutputItem
  rw [hitem]
  dsimp only
  rw [hsame]
  cases hkind : typeKind pr.item.type with
  | none => exact ⟨s, rfl, h⟩
  | some kind =>
    obtain ⟨s', p, b, hensure, hsound, -, hb, hmatches⟩ := h.ensureBlock hpr hkind hindex hitemID
    have hstopped : b.stopped = true := by
      rw [hmatches.stopped, hdone]
      rfl
    refine ⟨s', ?_, hsound⟩
    dsimp only
    rw [if_pos rfl, ResponsesToClaude.onEvent, hensure]
    dsimp only
    rw [onBlock, hb]
    dsimp only
    rw [andThen, mergeItem_stopped hstopped]
    dsimp only
    rw [stopBlock_stopped hstopped]
    obtain ⟨hp, rfl⟩ := List.getElem?_eq_some_iff.1 hb
    rw [set_getElem_self]
    rfl

/-- The items of the last response, all of which are done. -/
theorem Sound.applyOutput (cfg : Config U) (items : List Item) (i : ℕ) (h : Sound σ s trace)
    (hdone : ∀ item k, (item, k) ∈ items.zipIdx i → ∃ pr done, σ.progress k = some pr ∧
      pr.done = some done ∧ done.plain = item.plain) :
    ∃ s', applyOutput cfg s i items = .ok (s', []) ∧ Sound σ s' trace := by
  induction items generalizing s i with
  | nil => exact ⟨s, rfl, h⟩
  | cons item rest ih =>
    rw [zipIdx_cons] at hdone
    obtain ⟨pr, done, hpr, hpdone, hplain⟩ := hdone item i mem_cons_self
    obtain ⟨s₁, hfirst, hsound⟩ := h.applyOutputItem cfg
      (e := {
        type := .outputItemDone, outputIndex := some i, itemId := item.id, item := some item })
      hpr hpdone hplain rfl rfl (decide_eq_true (.inr rfl))
    obtain ⟨s₂, hrest, hlast⟩ := ih (i + 1) hsound fun other k hother =>
      hdone other k (mem_cons_of_mem _ hother)
    refine ⟨s₂, ?_, hlast⟩
    rw [ResponsesToClaude.applyOutput, hfirst]
    dsimp only
    rw [hrest]
    rfl

theorem stopBlocks_stopped (cfg : Config U) {positions : List ℕ}
    (h : ∀ (p : ℕ) b, s.blocks[p]? = some b → b.stopped = true) :
    stopBlocks cfg s positions = (s, []) := by
  induction positions with
  | nil => rfl
  | cons p rest ih =>
    have hstop : onBlock s p (stopBlock cfg) = (s, []) := by
      unfold onBlock
      split
      · rfl
      rename_i b hb
      rw [stopBlock_stopped (h p b hb)]
      obtain ⟨hp, rfl⟩ := List.getElem?_eq_some_iff.1 hb
      dsimp only
      rw [set_getElem_self]
    rw [stopBlocks, hstop]
    dsimp only
    rw [ih]
    rfl

/-- The items are those with the indexes of the list. -/
theorem Sound.order_listed (h : Sound σ s trace) {n : ℕ} (hlen : n = σ.order.length)
    (hall : ∀ i < n, (σ.progress i).isSome) (hk : k ∈ σ.order) : ∃ i < n, k = (i : ℤ) := by
  have hsub : (range n).map (fun i : ℕ => (i : ℤ)) ⊆ σ.order := by
    intro j hj
    obtain ⟨i, hi, rfl⟩ := List.mem_map.1 hj
    exact (h.mem i).2 (hall i (mem_range.1 hi))
  have hnodup : ((range n).map fun i : ℕ => (i : ℤ)).Nodup :=
    nodup_range.map fun a b hab => Int.ofNat.inj hab
  have hperm := (subperm_of_subset hnodup hsub).perm_of_length_le
    (by rw [length_map, length_range, hlen])
  obtain ⟨i, hi, heq⟩ := List.mem_map.1 (hperm.mem_iff.2 hk)
  exact ⟨i, mem_range.1 hi, heq.symm⟩

/-- The block at the position is the item's: it is of the kind of the item and has its text. -/
def Delivered (claude : List (Claude.Event U)) (p : ℕ) (item : Item) : Prop :=
  ∃ content rest, typeKind item.type = some (blockKind content) ∧
    (Claude.blocks U).eventsOf p claude = .contentBlockStart p content :: rest ∧
    Claude.blockText claude p = itemContent item

theorem Delivered.plain {claude : List (Claude.Event U)} {p : ℕ} {done : Item}
    (h : Delivered claude p done) (hplain : done.plain = item.plain) : Delivered claude p item := by
  obtain ⟨content, rest, hkind, hevents, htext⟩ := h
  have htype : done.plain.type = item.plain.type := by rw [hplain]
  have hcontent : itemContent done.plain = itemContent item.plain := by rw [hplain]
  refine ⟨content, rest, ?_, hevents, htext.trans hcontent⟩
  rw [← hkind]
  exact congrArg typeKind htype.symm

/-- What the last response says of the items. -/
theorem Output.listed_cases {last : Event U} (h : σ.listed last = true) :
    ∃ response, last.response = some response ∧ response.output.length = σ.order.length ∧
      (∀ cfg (s : State U), s.done = false → convertChunk cfg s last =
        ResponsesToClaude.finish cfg (applyResponseMetadata cfg s last.response) last.response) ∧
      ∀ (item : Item) (i : ℕ), response.output[i]? = some item → ∃ pr done,
        σ.progress i = some pr ∧ pr.done = some done ∧ done.plain = item.plain := by
  obtain ⟨htype, hresponse⟩ := of_decide_eq_true h
  obtain ⟨response, hresponse, hlist⟩ := (Option.any_eq_true _ _).1 hresponse
  obtain ⟨hlen, hall⟩ := of_decide_eq_true hlist
  refine ⟨response, hresponse, hlen, ?_, ?_⟩
  · intro cfg s hs
    rw [convertChunk, if_neg (by simp [hs])]
    rcases htype with htype | htype | htype <;> rw [htype]
  · intro item i hi
    have hmem := List.all_eq_true.1 hall (item, i) (mem_zipIdx_iff_getElem?.2 hi)
    obtain ⟨done, hbind, hplain⟩ := (Option.any_eq_true _ _).1 hmem
    obtain ⟨pr, hpr, hdone⟩ := bind_eq_some_iff.1 hbind
    exact ⟨pr, done, hpr, hdone, of_decide_eq_true hplain⟩

theorem Sound.closed (h : Sound σ s trace)
    (hdone : ∀ k ∈ σ.order, ∃ pr done, σ.progress k = some pr ∧ pr.done = some done) {p : ℕ}
    {b : StreamBlock} (hb : s.blocks[p]? = some b) : b.stopped = true := by
  have hp : p < σ.shown.length := h.length ▸ (List.getElem?_eq_some_iff.1 hb).1
  have hk : σ.shown[p]? = some σ.shown[p] := getElem?_eq_getElem hp
  obtain ⟨-, other, pr, hother, hpr, hmatches⟩ := h.block p _ hk
  obtain rfl : b = other := some.inj (hb.symm.trans hother)
  obtain ⟨pr₂, done, hpr₂, hpdone⟩ :=
    hdone _ (mem_filter.1 (mem_of_getElem? hk)).1
  obtain rfl : pr = pr₂ := some.inj (hpr.symm.trans hpr₂)
  rw [hmatches.stopped, hpdone]
  rfl

/-- The message is closed. -/
theorem Sound.close (h : Sound σ s trace) (hlive : Live s trace)
    (hdone : ∀ k ∈ σ.order, ∃ pr done, σ.progress k = some pr ∧ pr.done = some done)
    (reason : String) (usage : Option U) :
    Claude.Valid (trace ++ [.messageDelta reason usage, .messageStop]) σ.shown.length ∧
      ∀ (p : ℕ) k pr done, σ.shown[p]? = some k → σ.progress k = some pr → pr.done = some done →
        Delivered (trace ++ [.messageDelta reason usage, .messageStop]) p done := by
  obtain ⟨status, hbody, hshows⟩ := hlive.body
  have hclosed : ∀ i, (status i).isOpen = false := by
    intro i
    by_cases hi : 0 ≤ i ∧ i < s.blocks.length
    · obtain ⟨p, rfl⟩ := Int.eq_ofNat_of_zero_le hi.1
      have hp : p < s.blocks.length := by omega
      have hb : s.blocks[p]? = some s.blocks[p] := getElem?_eq_getElem hp
      obtain ⟨content, -, hstatus⟩ := (hshows p _ hb).status
      rw [hstatus, if_pos (h.closed hdone hb)]
      rfl
    · have hfresh := (hbody.frames.fresh i).2 hi
      cases hst : status i with
      | fresh | closed => rfl
      | opened block text =>
        rw [hst] at hfresh
        cases hfresh
  obtain ⟨hvalid, htext⟩ := hbody.finish hclosed reason usage
  rw [h.length] at hvalid
  refine ⟨hvalid, fun p k pr done hk hpr hpdone => ?_⟩
  obtain ⟨-, b, other, hb, hother, hmatches⟩ := h.block p k hk
  obtain rfl : pr = other := some.inj (hpr.symm.trans hother)
  obtain ⟨content, hkind, hstatus⟩ := (hshows p b hb).status
  rw [if_pos (h.closed hdone hb)] at hstatus
  obtain ⟨hvalue, rest, hevents⟩ := htext p content b.value hstatus
  have hrepeats := h.done k pr done hpr hpdone
  refine ⟨content, rest, ?_, hevents, ?_⟩
  · rw [hrepeats.1, hmatches.kind, hkind]
  · rw [hvalue, hmatches.value]
    exact Progress.value_complete hrepeats.1 hmatches.kind hrepeats.2.2.2

theorem Sound.last (cfg : Config U) {last : Event U} (h : Sound σ s trace)
    (hlisted : σ.listed last = true) :
    ∃ s' events response, convertChunk cfg s last = .ok (s', events) ∧
      last.response = some response ∧ Claude.Valid (trace ++ events) σ.shown.length ∧
      ∀ (p : ℕ) k, σ.shown[p]? = some k → ∃ (i : ℕ) (item : Item), k = i ∧
        response.output[i]? = some item ∧ Delivered (trace ++ events) p item := by
  obtain ⟨response, hresponse, hlen, hchunk, hitems⟩ := Output.listed_cases hlisted
  have hmeta : Sound σ (ResponsesToClaude.applyResponseMetadata cfg s last.response) trace :=
    h.applyResponseMetadata last.response
  have hindex : ∀ k ∈ σ.order, ∃ (i : ℕ) (item : Item), k = i ∧
      response.output[i]? = some item := by
    intro k hk
    obtain ⟨i, hi, rfl⟩ := h.order_listed hlen (fun i hi => by
      obtain ⟨pr, -, hpr, -⟩ := hitems _ i (getElem?_eq_getElem hi)
      rw [hpr]
      rfl) hk
    exact ⟨i, _, rfl, getElem?_eq_getElem hi⟩
  have hdone : ∀ k ∈ σ.order, ∃ pr done, σ.progress k = some pr ∧ pr.done = some done := by
    intro k hk
    obtain ⟨i, item, rfl, hitem⟩ := hindex k hk
    obtain ⟨pr, done, hpr, hpdone, -⟩ := hitems item i hitem
    exact ⟨pr, done, hpr, hpdone⟩
  obtain ⟨s₂, houtput, hsound₂⟩ :=
    (hmeta.applyResponseMetadata last.response).applyOutput cfg response.output 0
      fun item i hmem => hitems item i (mem_zipIdx_iff_getElem?.1 hmem)
  obtain ⟨hlive, hsent⟩ := hsound₂.begun.ensureMessageStart cfg
  rw [hsent] at hlive
  have hopen : Sound σ { s₂ with sentMessageStart := true }
      (trace ++ (ensureMessageStart cfg s₂).2) := { hsound₂ with begun := .inl hlive }
  obtain ⟨hvalid, hdelivered⟩ := hopen.close hlive hdone
    (responsesClaudeStopReason last.response s₂.sawToolCall) s₂.usage
  rw [append_assoc] at hvalid hdelivered
  refine ⟨{ s₂ with sentMessageStart := true, done := true }, _, response, ?_, hresponse, hvalid,
    fun p k hk => ?_⟩
  · rw [hchunk cfg s h.ongoing, ResponsesToClaude.finish, if_neg (by simp [hmeta.ongoing])]
    dsimp only
    rw [hresponse, map_some, getD_some, ← hresponse, houtput]
    dsimp only
    rw [stopBlocks_stopped cfg fun p b hb => hsound₂.closed hdone hb]
    dsimp only
    rw [ensureMessageStart_eq]
    rfl
  · obtain ⟨i, item, rfl, hitem⟩ := hindex k (mem_filter.1 (mem_of_getElem? hk)).1
    obtain ⟨pr, done, hpr, hpdone, hplain⟩ := hitems item i hitem
    refine ⟨i, item, rfl, hitem, ?_⟩
    exact (hdelivered p i pr done hk hpr hpdone).plain hplain

theorem convertAll_concat {s' s₂ : State U}
    {first second : List (Claude.Event U)} (h : convertAll cfg s events = .ok (s', first))
    (hlast : convertChunk cfg s' e = .ok (s₂, second)) :
    convertAll cfg s (events ++ [e]) = .ok (s₂, first ++ second) := by
  induction events generalizing s first with
  | nil =>
    cases h
    rw [nil_append, convertAll, hlast]
    simp [convertAll]
  | cons e₁ rest ih =>
    rw [convertAll] at h
    split at h
    · cases h
    rename_i s₁ events₁ hchunk
    split at h
    · cases h
    rename_i s₃ events₂ hrest
    cases h
    rw [cons_append, convertAll, hchunk]
    dsimp only
    rw [ih hrest, append_assoc]

end Events

/-- A regular stream becomes a valid stream of blocks: one for each message, reasoning and tool
call, in the order in which the items are announced, with the text that the last response lists
for the item, once. -/
theorem stream_delivered (cfg : Config U) (id model : String) {events : List (Event U)}
    {last : Event U} {σ : Output} (hwell : WellFormed events last σ)
    (hregular : Regular {} events = true) :
    ∃ s claude response, convertAll cfg (newState id model) (events ++ [last]) = .ok (s, claude) ∧
      last.response = some response ∧ Claude.Valid claude σ.shown.length ∧
      ∀ (p : ℕ) k, σ.shown[p]? = some k → ∃ (i : ℕ) (item : Item), k = i ∧
        response.output[i]? = some item ∧ Delivered claude p item := by
  obtain ⟨hobserve, hlisted⟩ := hwell
  obtain ⟨s, claude, hrun, hsound⟩ := (Sound.init id model).run cfg hobserve hregular
  rw [nil_append] at hsound
  obtain ⟨s', others, response, hlast, hresponse, hvalid, hdelivered⟩ := hsound.last cfg hlisted
  exact ⟨s', claude ++ others, response, convertAll_concat hrun hlast, hresponse, hvalid,
    hdelivered⟩

/-- A converter without usage and annotations. -/
def bareConfig : Config Unit where
  mergeUsage usage _ := usage
  inputTokens _ := none
  annotationsToClaude _ _ := []
  estimatedInputTokens := 0

def twoParts : Item :=
  { type := .reasoning, id := "rs", summary := ["a".toList, "\n\nb".toList] }

def completedWith (output : List Item) : Event Unit :=
  { type := .completed
    response := some { id := "r", model := "m", status := "completed", output } }

/-- The events of an item: an event with a delta, an event at the end of a part. -/
def deltaOf (type : EventType) (index : ℤ) (delta : String) : Event Unit :=
  { type, outputIndex := some index, delta := delta.toList }

def doneOf (type : EventType) (index : ℤ) (text : String) : Event Unit :=
  { type, outputIndex := some index, text := some text.toList }

def itemOf (type : EventType) (index : ℤ) (item : Item) : Event Unit :=
  { type, outputIndex := some index, item := some item }

/-- A reasoning, a message and a call, whose deltas are interleaved. -/
def interleaved : List (Event Unit) :=
  let message : Item := { type := .message, id := "msg", role := "assistant" }
  let call : Item := { type := .functionCall, id := "fc", callId := "call", name := "f" }
  [{ type := .created },
    itemOf .outputItemAdded 0 { type := .reasoning, id := "rs" },
    deltaOf .reasoningSummaryDelta 0 "a",
    itemOf .outputItemAdded 1 message,
    deltaOf .outputTextDelta 1 "x",
    doneOf .reasoningSummaryDone 0 "a",
    deltaOf .reasoningSummaryDelta 0 "\n\nb",
    itemOf .outputItemAdded 2 call,
    deltaOf .functionArgsDelta 2 "1",
    deltaOf .outputTextDelta 1 "y",
    itemOf .outputItemDone 0 twoParts,
    itemOf .outputItemDone 1 { message with content := [{ text := "xy".toList }] },
    deltaOf .functionArgsDelta 2 "2",
    itemOf .outputItemDone 2 { call with arguments := "12".toList }]

def interleavedLast : Event Unit :=
  completedWith [twoParts,
    { type := .message, id := "msg", role := "assistant", content := [{ text := "xy".toList }] },
    { type := .functionCall, id := "fc", callId := "call", name := "f", arguments := "12".toList }]

theorem stream_delivered_interleaved :
    ∃ σ, WellFormed interleaved interleavedLast σ ∧ σ.shown = [0, 1, 2] ∧ ∃ s claude response,
        convertAll bareConfig (newState "r" "m") (interleaved ++ [interleavedLast]) =
          .ok (s, claude) ∧
        interleavedLast.response = some response ∧ Claude.Valid claude σ.shown.length ∧
        ∀ (p : ℕ) k, σ.shown[p]? = some k → ∃ (i : ℕ) (item : Item), k = i ∧
          response.output[i]? = some item ∧ Delivered claude p item := by
  have hsome : (observeAll {} interleaved).any
      (fun σ => σ.listed interleavedLast ∧ σ.shown = [0, 1, 2]) = true := by decide +kernel
  obtain ⟨σ, hσ, hlast⟩ := (Option.any_eq_true _ _).1 hsome
  obtain ⟨hlisted, hshown⟩ := of_decide_eq_true hlast
  exact ⟨σ, ⟨hσ, hlisted⟩, hshown,
    stream_delivered bareConfig "r" "m" ⟨hσ, hlisted⟩ (by decide +kernel)⟩

/-- The reasoning of two parts, the second of which arrives in these deltas. -/
def reasoningCut (deltas : List String) : List (Event Unit) :=
  [itemOf .outputItemAdded 0 { type := .reasoning, id := "rs" },
    deltaOf .reasoningSummaryDelta 0 "a",
    doneOf .reasoningSummaryDone 0 "a"] ++
  deltas.map (deltaOf .reasoningSummaryDelta 0) ++
  [doneOf .reasoningSummaryDone 0 "\n\nb",
    itemOf .outputItemDone 0 twoParts]

def firstBlock (events : List (Event Unit)) : Option String :=
  match convertAll bareConfig (newState "r" "m") (events ++ [completedWith [twoParts]]) with
  | .error _ => none
  | .ok (_, claude) => some (String.ofList (Claude.blockText claude 0))

/-- The second part of a reasoning in one delta, and in two: both streams are well-formed and say
the same, but the second one has a newline too many in its block. -/
theorem reasoning_separated_twice :
    (∃ σ, WellFormed (reasoningCut ["\n\nb"]) (completedWith [twoParts]) σ) ∧
      (∃ σ, WellFormed (reasoningCut ["\n", "\nb"]) (completedWith [twoParts]) σ) ∧
      String.ofList (itemContent twoParts) = "a\n\nb" ∧
      firstBlock (reasoningCut ["\n\nb"]) = some "a\n\nb" ∧
      firstBlock (reasoningCut ["\n", "\nb"]) = some "a\n\n\nb" := by
  have hwell : ∀ deltas, (observeAll {} (reasoningCut deltas)).any
      (fun σ => σ.listed (completedWith [twoParts])) = true →
      ∃ σ, WellFormed (reasoningCut deltas) (completedWith [twoParts]) σ := by
    intro deltas hsome
    obtain ⟨σ, hσ, hlisted⟩ := (Option.any_eq_true _ _).1 hsome
    exact ⟨σ, hσ, hlisted⟩
  refine ⟨hwell _ ?_, hwell _ ?_, ?_, ?_, ?_⟩
  all_goals decide +kernel

end OmniRouters.Convert.ResponsesToClaude
