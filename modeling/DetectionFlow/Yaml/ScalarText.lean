import DetectionFlow.Json.Reader
import DetectionFlow.Yaml.Cursor

/-!
# The text of scalars

A scalar of a document file is written plainly, between quotes, or as a block of indented lines.
The readers here begin at the first character of the scalar and yield its text and the place after
it. Line ends inside a scalar are folded: one becomes a space, of several all but the first stay.
-/

namespace DetectionFlow
namespace Yaml

/-- A text with the place after it. -/
structure Scanned where
  text : List Char
  after : Cursor

/-- Why no scalar can be read. -/
inductive TextRefusal
  | malformed
  /-- An escape has a code beyond those of all characters. -/
  | badCode (code : Nat)

/-! ## Folding -/

/-- What a line end becomes that `breaks` follow: an ordinary one alone becomes a space. -/
def folded (lineEnd : Char) (breaks : List Char) : List Char :=
  (if lineEnd ≠ '\n' then [lineEnd] else if breaks.isEmpty then [' '] else []) ++ breaks

/-! ## Plain scalars -/

/-- A character that has a meaning of its own inside brackets. -/
def isFlowIndicator (c : Char) : Bool :=
  c = ',' || c = '?' || c = '[' || c = ']' || c = '{' || c = '}'

/-- A colon before such a character ends a plain scalar inside brackets. -/
def endsFlowKey : Option Char → Bool
  | none => true
  | some c => isBlank c || isBreak c || c = ',' || c = '[' || c = ']' || c = '{' || c = '}'

/-- How many characters of a line belong to a plain scalar. -/
def plainLength (inFlow : Bool) : List Char → Nat
  | [] => 0
  | c :: rest =>
    if isBlank c || isBreak c then 0
    else if c = ':' && (endsWord rest.head? || inFlow && endsFlowKey rest.head?) then 0
    else if inFlow && isFlowIndicator c then 0
    else plainLength inFlow rest + 1

/-- The line ends and spaces from a place on, up to a marker of the document if there is one. -/
def plainBreaks : Nat → Cursor → List Char × Cursor
  | 0, c => ([], c)
  | fuel + 1, c =>
    let c := c.skipSpaces
    match c.lineEnd? with
    | none => ([], c)
    | some (ch, next) =>
      if next.isDocumentMarker then ([ch], next)
      else
        let (more, after) := plainBreaks fuel next
        (ch :: more, after)

/-- What stands between two parts of a plain scalar. -/
structure Gap where
  /-- The text that joins the parts; none if no part follows. -/
  text : List Char
  after : Cursor
  /-- A line ended. -/
  broken : Bool

/-- The gap after a part of a plain scalar. A marker of the document ends the scalar. -/
def plainGap (c : Cursor) : Gap :=
  let (spaces, c) := c.span (· = ' ')
  match c.lineEnd? with
  | none => ⟨spaces, c, false⟩
  | some (ch, next) =>
    if next.isDocumentMarker then ⟨[], next, true⟩
    else
      let (breaks, after) := plainBreaks (next.rest.length + 1) next
      if after.isDocumentMarker && !breaks.isEmpty && after.column = 0 then ⟨[], after, true⟩
      else ⟨folded ch breaks, after, true⟩

/-- The rest of a plain scalar, after the gap that precedes it. The last part tells whether a line
ended after the scalar. -/
def plainParts (inFlow : Bool) (indent : Int) : Nat → Gap → List Char × Gap
  | 0, gap => ([], gap)
  | fuel + 1, gap =>
    let c := gap.after
    let length := if c.peek? = some '#' then 0 else plainLength inFlow c.rest
    if length = 0 then ([], gap)
    else
      let part := gap.text ++ c.rest.take length
      let following := plainGap (c.advance length)
      if following.text.isEmpty || following.after.peek? = some '#' ||
          (!inFlow && (following.after.column : Int) < indent) then (part, following)
      else
        let (more, last) := plainParts inFlow indent fuel following
        (part ++ more, last)

/-- A plain scalar; the last part tells whether a line ended after it. -/
def scanPlain (inFlow : Bool) (indent : Int) (c : Cursor) : Scanned × Bool :=
  let (text, gap) := plainParts inFlow indent (c.rest.length + 1) ⟨[], c, false⟩
  (⟨text, gap.after⟩, gap.broken)

/-! ## Quoted scalars -/

/-- The characters that a letter after a backslash stands for. -/
def escapes : List (Char × Char) :=
  [('0', '\x00'), ('a', '\x07'), ('b', '\x08'), ('t', '\t'), ('\t', '\t'), ('n', '\n'),
   ('v', '\x0b'), ('f', '\x0c'), ('r', '\r'), ('e', '\x1b'), (' ', ' '), ('"', '"'),
   ('\\', '\\'), ('/', '/'), ('N', '\u0085'), ('_', '\u00a0'), ('L', '\u2028'), ('P', '\u2029')]

/-- How many hexadecimal digits follow a letter after a backslash. -/
def codeLength? (c : Char) : Option Nat :=
  if c = 'x' then some 2 else if c = 'u' then some 4 else if c = 'U' then some 8 else none

/-- The number of so many hexadecimal digits. -/
def hexNumber? (count : Nat) (cs : List Char) : Option Nat :=
  if cs.length < count then none
  else (cs.take count).foldlM (fun n c => (Json.hexDigit? c).map (16 * n + ·)) 0

/-- The line ends and blanks inside a quoted scalar. No document may begin or end there. -/
def quotedBreaks? : Nat → Cursor → Option (List Char × Cursor)
  | 0, _ => none
  | fuel + 1, c =>
    if c.isDocumentMarker then none
    else
      let c := (c.span isBlank).2
      match c.lineEnd? with
      | none => some ([], c)
      | some (ch, next) => (quotedBreaks? fuel next).map fun (more, after) => (ch :: more, after)

/-- The blanks inside a quoted scalar, with the line ends among them folded. -/
def quotedBlanks? (c : Cursor) : Option (List Char × Cursor) :=
  let (blanks, c) := c.span isBlank
  match c.peek?, c.lineEnd? with
  | none, _ => none
  | some _, none => some (blanks, c)
  | some _, some (ch, next) =>
    (quotedBreaks? (next.rest.length + 1) next).map fun (breaks, after) =>
      (folded ch breaks, after)

/-- The character of a code. An escape may stand for half a character, and two halves do not make
one. -/
def codeChar (code : Nat) : Except TextRefusal Char :=
  if code < 0x110000 then .ok (Text.Half.char code) else .error (.badCode code)

/-- What a backslash stands for, and the place after it. -/
def escaped (c : Cursor) : Except TextRefusal (List Char × Cursor) :=
  match c.peek? with
  | none => .error .malformed
  | some ch =>
    match escapes.find? (·.1 = ch), codeLength? ch with
    | some (_, e), _ => .ok ([e], c.next)
    | none, some count =>
      match hexNumber? count c.next.rest with
      | some code => (codeChar code).map fun e => ([e], c.next.advance count)
      | none => .error .malformed
    | none, none => match c.lineEnd? with
      | some (_, next) => match quotedBreaks? (next.rest.length + 1) next with
        | some r => .ok r
        | none => .error .malformed
      | none => .error .malformed

/-- What stands at a place inside a quoted scalar, and the place after it; none at the closing
quote. -/
def quotedPart (quote : Char) (c : Cursor) (ch : Char) :
    Except TextRefusal (Option (List Char × Cursor)) :=
  if ch = quote then
    .ok (if quote = '\'' && c.peekAt? 1 = some '\'' then some (['\''], c.advance 2) else none)
  else if ch = '\\' && quote = '"' then (escaped c.next).map some
  else if isBlank ch || isBreak ch then
    match quotedBlanks? c with
    | some r => .ok (some r)
    | none => .error .malformed
  else .ok (some ([ch], c.next))

/-- A quoted scalar up to its closing quote, and the place after that. -/
def quotedFrom (quote : Char) : Nat → Cursor → Except TextRefusal Scanned
  | 0, _ => .error .malformed
  | fuel + 1, c =>
    match c.peek? with
    | none => .error .malformed
    | some ch =>
      match quotedPart quote c ch with
      | .error e => .error e
      | .ok none => .ok ⟨[], c.next⟩
      | .ok (some (part, after)) =>
        (quotedFrom quote fuel after).map fun r => { r with text := part ++ r.text }

/-- A scalar between quotes, from its opening quote on. -/
def scanQuoted (quote : Char) (c : Cursor) : Except TextRefusal Scanned :=
  quotedFrom quote (c.rest.length + 1) c.next

/-! ## Block scalars -/

/-- What becomes of the line ends after the last line of a block. -/
inductive Chomping
  | strip
  | clip
  | keep
  deriving DecidableEq

/-- A sign after the indicator of a block. -/
def chomping? (c : Option Char) : Option Chomping :=
  if c = some '+' then some .keep else if c = some '-' then some .strip else none

/-- A digit after the indicator of a block; zero is none. -/
def increment? (c : Option Char) : Option Nat :=
  (c.bind Text.asciiDigit?).filter (0 < ·)

/-- The signs after the indicator of a block, in either order. -/
def blockHeader? (c : Cursor) : Option (Chomping × Option Nat × Cursor) :=
  let header := match chomping? c.peek?, increment? c.peek? with
    | some chomp, _ => match increment? c.next.peek? with
      | some n => (chomp, some n, c.advance 2)
      | none => (chomp, none, c.next)
    | none, some n => match chomping? c.next.peek? with
      | some chomp => (chomp, some n, c.advance 2)
      | none => (.clip, some n, c.next)
    | none, none => (.clip, none, c)
  if endsIndicator header.2.2.peek? then some header else none

/-- The empty lines at the beginning of a block, and the widest indentation among them and the first
line. -/
def blockIndentation : Nat → Nat → Cursor → List Char × Nat × Cursor
  | 0, widest, c => ([], widest, c)
  | fuel + 1, widest, c =>
    let c := c.skipSpaces
    let widest := max widest c.column
    match c.lineEnd? with
    | none => ([], widest, c)
    | some (ch, next) =>
      let (more, widest, after) := blockIndentation fuel widest next
      (ch :: more, widest, after)

/-- The empty lines from a place on, with at most the indentation of the block skipped. -/
def blockBreaks (indent : Nat) : Nat → Cursor → List Char × Cursor
  | 0, c => ([], c)
  | fuel + 1, c =>
    let c := c.skipSpacesTo indent
    match c.lineEnd? with
    | none => ([], c)
    | some (ch, next) =>
      let (more, after) := blockBreaks indent fuel next
      (ch :: more, after)

/-- The line end between two lines of a block. -/
def blockJoin (foldLines : Bool) (lineEnd : List Char) (breaks : List Char)
    (first following : Option Char) : List Char :=
  let startsBlank (c : Option Char) : Bool := c = some ' ' || c = some '\t'
  if foldLines && lineEnd = ['\n'] && !startsBlank first && !startsBlank following then
    (if breaks.isEmpty then [' '] else [])
  else lineEnd

/-- The lines of a block, after the empty lines in front of the next one. -/
def blockLines (foldLines : Bool) (chomp : Chomping) (indent : Nat) :
    Nat → List Char → List Char → Cursor → Scanned
  | 0, _, _, c => ⟨[], c⟩
  | fuel + 1, lineEnd, breaks, c =>
    if c.column = indent && c.peek?.isSome then
      let (line, atEnd) := c.span (!isBreak ·)
      let (ending, next) := match atEnd.lineEnd? with
        | some (ch, next) => ([ch], next)
        | none => ([], atEnd)
      let (following, after) := blockBreaks indent (next.rest.length + 1) next
      let join :=
        if after.column = indent && after.peek?.isSome then
          blockJoin foldLines ending following c.peek? after.peek?
        else []
      let rest := blockLines foldLines chomp indent fuel ending following after
      ⟨breaks ++ line ++ join ++ rest.text, rest.after⟩
    else
      ⟨(if chomp = .strip then [] else lineEnd) ++ (if chomp = .keep then breaks else []), c⟩

/-- A block of lines, from its indicator on. The indentation is stated or that of the first line. -/
def scanBlock? (foldLines : Bool) (indent : Int) (c : Cursor) : Option Scanned :=
  match blockHeader? c.next with
  | none => none
  | some (chomp, increment, c) =>
    match c.skipRestOfLine? with
    | none => none
    | some c =>
      let least := (max (indent + 1) 1).toNat
      let fuel := c.rest.length + 1
      match increment with
      | some n =>
        let indent := least + n - 1
        let (breaks, c) := blockBreaks indent fuel c
        some (blockLines foldLines chomp indent (fuel + 1) [] breaks c)
      | none =>
        let (breaks, widest, c) := blockIndentation fuel 0 c
        some (blockLines foldLines chomp (max least widest) (fuel + 1) [] breaks c)

end Yaml
end DetectionFlow
