import RuleFixtures.Console.Emoji
import RuleFixtures.Console.Lines
import RuleFixtures.Console.StyleName

/-!
Console markup.

A tag is an opening bracket, one of the characters that start a name, and all up to the nearest
closing bracket, without an opening one in between. Backslashes in front of a tag pair up to one
backslash each; an odd one makes the tag a text. What is shown is the text between the tags, with
emoji codes replaced, in the styles of the tags around it.

* `Markup.pieces` cuts a text into its tags and the texts between them.
* `Markup.render` gives the text that is shown with the spans of its styles. It fails at a closing
  tag without an opening one, at parameters of a handler that the platform cannot take, and at a
  name with a colour whose numbers do not read.
* `Rendered.lateFault?` is the fault of a style that is only read when lines are shown in it.
* `Markup.escape` puts a backslash in front of all that looks like a tag.
-/

namespace RuleFixtures.Console

/-! ### Emoji codes -/

/-- The endings of a code that choose how the picture is drawn, with the selector of each. -/
def emojiVariants : List (String × Char) := [("-emoji", '\uFE0F'), ("-text", '\uFE0E')]

/-- The picture of a code, which is the text between two colons. -/
def emoji? (code : List Char) : Option (List Char) :=
  match emojiVariants.find? fun variant => variant.1.toList.isSuffixOf code with
  | some (ending, selector) =>
    let name := code.take (code.length - ending.length)
    (picture? (Text.lowerFrom [] name)).map fun picture => picture ++ [selector]
  | none => picture? (Text.lowerFrom [] code)

/-- Replaces the emoji codes of a text, from left to right; a colon that closes a code opens no
other. -/
def replaceEmoji : List Char → List Char
  | [] => []
  | c :: rest =>
    if c = ':' then
      let code := rest.takeWhile fun x => x ≠ ':' && !Text.isBlank x
      match _h : rest.drop code.length with
      | ':' :: after => (emoji? code).getD (':' :: code ++ [':']) ++ replaceEmoji after
      | _ => ':' :: replaceEmoji rest
    else c :: replaceEmoji rest
  termination_by s => s.length
  decreasing_by
    all_goals simp only [List.length_cons]
    · have := congrArg List.length _h
      simp only [List.length_drop, List.length_cons] at this
      omega
    · omega
    · omega

namespace Markup

/-! ### Tags -/

/-- A tag by its name and what follows an equals sign in it. -/
structure Tag where
  name : List Char
  parameters : Option (List Char)
  deriving DecidableEq

/-- The text of a tag. -/
def Tag.text (tag : Tag) : String :=
  let inner := match tag.parameters with
    | none => tag.name
    | some parameters => tag.name ++ '=' :: parameters
  String.ofList ('[' :: inner ++ [']'])

/-- The tag of the text between its brackets. -/
def Tag.ofBody (body : List Char) : Tag :=
  let name := body.takeWhile (· ≠ '=')
  match body.drop name.length with
  | _ :: parameters => ⟨name, some parameters⟩
  | [] => ⟨name, none⟩

/-- Can the character start the name of a tag? -/
def startsTag (c : Char) : Bool := ('a' ≤ c && c ≤ 'z') || c = '#' || c = '/' || c = '@'

/-- Reads a tag behind its opening bracket: the text up to the nearest closing bracket, and what
follows. -/
def tagBody? : List Char → Option (List Char × List Char)
  | [] => none
  | c :: rest =>
    if startsTag c then
      let more := rest.takeWhile fun x => x ≠ ']' && x ≠ '['
      match rest.drop more.length with
      | ']' :: after => some (c :: more, after)
      | _ => none
    else none

/-- A piece of a text with markup. -/
inductive Piece where
  | text (content : List Char)
  /-- A tag with the position at which it stands. -/
  | tag (position : Nat) (tag : Tag)
  deriving DecidableEq

/-- A text as a piece; the empty text is none. -/
def textPiece (content : List Char) : List Piece :=
  if content.isEmpty then [] else [.text content]

/-- The pieces of a tag behind a number of backslashes. -/
def tagPieces (position slashes : Nat) (body : List Char) : List Piece :=
  textPiece (List.replicate (slashes / 2) '\\') ++
    if slashes % 2 = 1 then [.text ('[' :: body ++ [']'])]
    else [.tag (position + 2 * (slashes / 2)) (Tag.ofBody body)]

theorem length_tagBody? {s body after : List Char} (h : tagBody? s = some (body, after)) :
    body.length + after.length + 1 = s.length := by
  cases s with
  | nil => simp [tagBody?] at h
  | cons c rest =>
    simp only [tagBody?] at h
    split at h
    · split at h
      · next hd =>
        have := congrArg List.length hd
        simp only [List.length_drop, List.length_cons] at this
        simp only [Option.some.injEq, Prod.mk.injEq] at h
        obtain ⟨rfl, rfl⟩ := h
        simp only [List.length_cons]
        omega
      · simp at h
    · simp at h

/-- Cuts a text into pieces. `plain` holds the text since the last tag, last character first, and
`slashes` counts the backslashes behind it. -/
def piecesFrom (position : Nat) (plain : List Char) (slashes : Nat) : List Char → List Piece
  | [] => textPiece (plain.reverse ++ List.replicate slashes '\\')
  | c :: rest =>
    if c = '\\' then piecesFrom (position + 1) plain (slashes + 1) rest
    else if c = '[' then
      match _h : tagBody? rest with
      | some (body, after) =>
        textPiece plain.reverse ++ tagPieces (position - slashes) slashes body ++
          piecesFrom (position + body.length + 2) [] 0 after
      | none =>
        piecesFrom (position + 1) (c :: (List.replicate slashes '\\' ++ plain)) 0 rest
    else piecesFrom (position + 1) (c :: (List.replicate slashes '\\' ++ plain)) 0 rest
  termination_by s => s.length
  decreasing_by
    all_goals simp only [List.length_cons]
    · omega
    · have := length_tagBody? _h
      omega
    · omega
    · omega

/-- The tags of a text and the texts between them. -/
def pieces (text : List Char) : List Piece := piecesFrom 0 [] 0 text

/-! ### The text that is shown -/

/-- Drops the backslash in front of an opening bracket that starts no tag. -/
def dropSlash : List Char → List Char
  | '\\' :: '[' :: rest => '[' :: dropSlash rest
  | c :: rest => c :: dropSlash rest
  | [] => []

/-- Controls that are not shown: bell, backspace, vertical tab, form feed, carriage return. -/
def isHidden (c : Char) : Bool := [7, 8, 11, 12, 13].contains c.toNat

/-- The text that a piece between tags shows. -/
def shown (content : List Char) : List Char :=
  (replaceEmoji (dropSlash content)).filter fun c => !isHidden c

/-- A part of a text with the style it is shown in. -/
structure Span where
  start : Nat
  stop : Nat
  style : String
  deriving DecidableEq

/-- A tag that is open, with the number of characters shown in front of it. -/
structure OpenTag where
  start : Nat
  name : String
  parameters : String
  deriving DecidableEq

/-- The style of a tag: its name, and its parameters if it has any. -/
def OpenTag.style (tag : OpenTag) : String :=
  if tag.parameters = "" then tag.name else tag.name ++ " " ++ tag.parameters

/-- The span of a tag up to a position. -/
def OpenTag.span (tag : OpenTag) (stop : Nat) : Span := ⟨tag.start, stop, tag.style⟩

/-- Takes the tag of a name that was opened last out of the open ones; the first of them was opened
last. -/
def close? (name : String) : List OpenTag → Option (OpenTag × List OpenTag)
  | [] => none
  | opened :: rest =>
    if opened.name = name then some (opened, rest)
    else (close? name rest).map fun (found, others) => (found, opened :: others)

/-- What is known of a text behind some pieces: the tags that are open, the last one first, and the
spans of those that were closed, the last one first. -/
structure Progress where
  opened : List OpenTag
  spans : List Span

variable [Platform]

/-- Does the tag call a handler? -/
def OpenTag.isHandler (tag : OpenTag) : Bool := tag.name.toList.head? = some '@'

/-- Closes a tag at a position. A handler has no style, and its parameters are evaluated here. -/
def Progress.close (progress : Progress) (stop : Nat) (tag : OpenTag) (others : List OpenTag) :
    Except MarkupFault Progress :=
  if tag.isHandler then
    match if tag.parameters = "" then none else Platform.handlerFault? tag.parameters with
    | some reason => .error (.handler reason)
    | none => .ok { progress with opened := others }
  else .ok ⟨others, tag.span stop :: progress.spans⟩

/-- The normal form of the name of a tag. -/
def tagName (name : String) : Except MarkupFault String := (Style.normalize name).mapError .number

/-- Follows a tag at a position; `shown` counts the characters in front of it that are shown. -/
def follow (progress : Progress) (shown position : Nat) (tag : Tag) :
    Except MarkupFault Progress :=
  match tag.name with
  | '/' :: rest =>
    let name := Text.trim (String.ofList rest)
    if name = "" then
      match progress.opened with
      | [] => .error (.nothingOpen "[/]" position)
      | last :: others => progress.close shown last others
    else do
      match close? (← tagName name) progress.opened with
      | some (found, others) => progress.close shown found others
      | none => throw (.notOpen tag.text position)
  | name => do
    let name ← tagName (String.ofList name)
    let opened : OpenTag := ⟨shown, name, String.ofList (tag.parameters.getD [])⟩
    return { progress with opened := opened :: progress.opened }

/-- A text as it is shown, with the spans of its styles in the order in which they start. -/
structure Rendered where
  text : List Char
  spans : List Span

/-- What pieces show; `done` is the text shown in front of them. -/
def renderPieces (done : List Char) (progress : Progress) : List Piece → Except MarkupFault Rendered
  | [] =>
    -- Tags that were left open hold up to the end, and were opened in front of those closed there.
    let spans := (progress.opened.reverse.map (OpenTag.span · done.length)
      ).filter (·.style ≠ "") ++ progress.spans
    .ok ⟨done, spans.mergeSort fun a b => a.start ≤ b.start⟩
  | .text content :: rest => renderPieces (done ++ shown content) progress rest
  | .tag position tag :: rest => do
    renderPieces done (← follow progress done.length position tag) rest

/-- What markup shows. -/
def render (text : String) : Except MarkupFault Rendered :=
  renderPieces [] ⟨[], []⟩ (pieces text.toList)

/-! ### Styles on lines -/

/-- A span of a style whose numbers do not read. -/
structure FaultySpan where
  start : Nat
  stop : Nat
  fault : NumberFault

/-- The span with the fault of its style, if that has one. -/
def Span.faulty? (span : Span) : Option FaultySpan :=
  (Style.numberFault? span.style).map fun fault => ⟨span.start, span.stop, fault⟩

/-- A character with the first fault of the styles it is in. -/
structure Cell where
  char : Char
  fault : Option NumberFault

instance : Item Cell := ⟨Cell.char, fun cell => { cell with char := ' ' }⟩

namespace Rendered

/-- The spans of styles whose numbers do not read. -/
def faulty (rendered : Rendered) : List FaultySpan := rendered.spans.filterMap Span.faulty?

/-- The characters with the faults of their styles. -/
def cells (rendered : Rendered) : List Cell :=
  rendered.text.zipIdx.map fun (c, i) =>
    ⟨c, (rendered.faulty.find? fun span => span.start ≤ i && i < span.stop).map (·.fault)⟩

/-- Is the text one line that was put on the console as it is, apart from its end? -/
def isWhole (rendered : Rendered) (lines : List (List Cell)) : Bool :=
  lines.length = 1 && !rendered.text.contains '\t'

/-- The fault of the first style on some lines that has one. Dividing a text drops the styles of no
character; one that is not divided keeps them, unless its end is cut off in front of them. -/
def lateFault? (rendered : Rendered) (lines : List (List Cell)) : Option NumberFault :=
  if rendered.isWhole lines then
    let left := lines.flatten.length
    (rendered.faulty.find? fun span =>
      left = rendered.text.length || span.start < left).map (·.fault)
  else lines.flatten.findSome? Cell.fault

/-- The lines of a text, unless a style on them has a fault. -/
def lines (rendered : Rendered) (layout : List Cell → List (List Cell)) :
    Except MarkupFault (List (List Char)) :=
  match rendered.lateFault? (layout rendered.cells) with
  | some fault => .error (.number fault)
  | none => .ok ((layout rendered.cells).map fun line => line.map Cell.char)

end Rendered

/-! ### Escaping -/

/-- Doubles the backslashes in front of all that looks like a tag and adds one; `slashes` counts
the backslashes read. -/
def escapeFrom (slashes : Nat) : List Char → List Char
  | [] => List.replicate slashes '\\'
  | c :: rest =>
    if c = '\\' then escapeFrom (slashes + 1) rest
    else if c = '[' then
      match _h : tagBody? rest with
      | some (body, after) =>
        List.replicate (2 * slashes + 1) '\\' ++ '[' :: body ++ ']' :: escapeFrom 0 after
      | none => List.replicate slashes '\\' ++ c :: escapeFrom 0 rest
    else List.replicate slashes '\\' ++ c :: escapeFrom 0 rest
  termination_by s => s.length
  decreasing_by
    all_goals simp only [List.length_cons]
    · omega
    · have := length_tagBody? _h
      omega
    · omega
    · omega

/-- Doubles a backslash that stands alone at the end. -/
def closeEscape (text : List Char) : List Char :=
  match text.reverse with
  | '\\' :: '\\' :: _ => text
  | '\\' :: _ => text ++ ['\\']
  | _ => text

/-- Writes a text so that its tags are shown and not obeyed. -/
def escape (text : String) : String := String.ofList (closeEscape (escapeFrom 0 text.toList))

end Markup

end RuleFixtures.Console
