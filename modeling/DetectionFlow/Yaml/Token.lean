import DetectionFlow.Yaml.ScalarText

/-!
# Tokens of document files

A document file is cut into tokens. Most of them are written; those that open and close a block are
found from the indentation, and the token of a key is found only when the colon after the key
appears. Until then the place of the possible key is remembered, one for each level of brackets.

Main function: `Yaml.tokens?`, which yields none for a text that cannot be cut.
-/

namespace DetectionFlow
namespace Yaml

/-! ## Tokens -/

inductive Token
  /-- A line that begins with a percent sign: its name, and the two words of a tag directive. -/
  | directive (name : String) (words : Option (String × String)) (major : Option Nat)
  | documentStart
  | documentEnd
  | blockSequence
  | blockMapping
  | blockEnd
  | openSequence
  | closeSequence
  | openMapping
  | closeMapping
  | entry
  | comma
  | key
  | value
  | alias (name : String)
  | anchor (name : String)
  /-- A tag: its handle, if it has one, and the rest. -/
  | tag (handle : Option String) (suffix : String)
  | scalar (text : String) (isPlain : Bool)
  /-- The last token if an escape has a code beyond those of all characters. -/
  | badCode (code : Nat)
  deriving DecidableEq, Inhabited

/-! ## The scanner -/

/-- A place where a key may begin. -/
structure PossibleKey where
  /-- The level of brackets. -/
  level : Nat
  /-- How many tokens stand before it. -/
  place : Nat
  /-- The colon must follow, or the text is wrong. -/
  required : Bool
  start : Cursor

/-- The state between two tokens. -/
structure Scanner where
  cursor : Cursor
  /-- The tokens so far, the last one first. -/
  tokens : List Token
  count : Nat
  /-- The level of brackets. -/
  level : Nat
  /-- The column of the innermost block. -/
  indent : Int
  /-- The columns of the blocks around it. -/
  outer : List Int
  mayStartKey : Bool
  keys : List PossibleKey
  /-- No more tokens can be read. -/
  stopped : Bool

namespace Scanner

def start (cs : List Char) : Scanner :=
  ⟨Cursor.start cs, [], 0, 0, -1, [], true, [], false⟩

def push (s : Scanner) (t : Token) : Scanner :=
  { s with tokens := t :: s.tokens, count := s.count + 1 }

/-- A token that belongs before some of the tokens so far. -/
def insert (s : Scanner) (place : Nat) (t : Token) : Scanner :=
  let later := s.count - place
  { s with tokens := s.tokens.take later ++ t :: s.tokens.drop later, count := s.count + 1 }

def move (s : Scanner) (c : Cursor) : Scanner := { s with cursor := c }

/-! ### Possible keys -/

/-- The longest key, in characters. -/
def longestKey : Nat := 1024

/-- The colon of the key can no longer follow. -/
def isStale (s : Scanner) (k : PossibleKey) : Bool :=
  k.start.line ≠ s.cursor.line || longestKey < s.cursor.index - k.start.index

/-- Forgets the keys that are stale; none of them may be required. -/
def dropStale? (s : Scanner) : Option Scanner :=
  if s.keys.any fun k => s.isStale k && k.required then none
  else some { s with keys := s.keys.filter (!s.isStale ·) }

/-- The possible key of the present level. -/
def key? (s : Scanner) : Option PossibleKey := s.keys.find? (·.level = s.level)

/-- Forgets the possible key of the present level, which must not be required. -/
def dropKey? (s : Scanner) : Option Scanner :=
  if s.keys.any fun k => k.level = s.level && k.required then none
  else some { s with keys := s.keys.filter (·.level ≠ s.level) }

/-- Remembers that a key may begin here. -/
def saveKey? (s : Scanner) : Option Scanner :=
  if s.mayStartKey then
    let required := s.level = 0 && s.indent = s.cursor.column
    (s.dropKey?).map fun t =>
      { t with keys := ⟨s.level, s.count, required, s.cursor⟩ :: t.keys }
  else some s

/-! ### Blocks -/

/-- Closes the blocks that begin further to the right. -/
def unwindTo (column : Int) : List Int → Int → Scanner → Scanner
  | outer, indent, s =>
    match outer with
    | [] => { s with indent, outer }
    | around :: more =>
      if column < indent then unwindTo column more around (s.push .blockEnd)
      else { s with indent, outer }

/-- Closes the blocks that begin further to the right, unless brackets are open. -/
def unwind (s : Scanner) (column : Int) : Scanner :=
  if s.level = 0 then unwindTo column s.outer s.indent s else s

/-- Opens a block at a column, if that lies further to the right. -/
def openBlock (s : Scanner) (column place : Nat) (t : Token) : Scanner :=
  if s.level = 0 && s.indent < column then
    { s with indent := column, outer := s.indent :: s.outer }.insert place t
  else s

/-! ### Directives and tags -/

/-- The characters of tags beside letters and digits. -/
def tagMarks : List Char := "-;/?:@&=+$,_.!~*'()[]".toList

/-- The bytes of escapes that follow each other. -/
def escapedBytes? : Nat → Cursor → Option (List UInt8 × Cursor)
  | 0, _ => none
  | fuel + 1, c =>
    if c.peek? = some '%' then
      match hexNumber? 2 c.next.rest with
      | some n => (escapedBytes? fuel (c.advance 3)).map fun (more, after) =>
          (n.toUInt8 :: more, after)
      | none => none
    else some ([], c)

/-- The rest of a tag. Percent signs escape bytes. -/
def tagText? : Nat → Cursor → Option (List Char × Cursor)
  | 0, _ => none
  | fuel + 1, c =>
    match c.peek? with
    | none => some ([], c)
    | some ch =>
      if ch = '%' then
        match escapedBytes? (c.rest.length + 1) c with
        | some (bytes, after) =>
          match String.fromUTF8? (ByteArray.mk bytes.toArray) with
          | some s => (tagText? fuel after).map fun (more, last) => (s.toList ++ more, last)
          | none => none
        | none => none
      else if ch.isAlphanum || tagMarks.contains ch then
        (tagText? fuel c.next).map fun (more, last) => (ch :: more, last)
      else some ([], c)

/-- The rest of a tag, which must not be empty. -/
def tagSuffix? (c : Cursor) : Option (String × Cursor) :=
  match tagText? (c.rest.length + 1) c with
  | some ([], _) | none => none
  | some (text, after) => some (String.ofList text, after)

/-- A handle: a name between exclamation marks, or one of them before a space. -/
def tagHandle? (c : Cursor) : Option (String × Cursor) :=
  if c.peek? ≠ some '!' then none
  else if c.peekAt? 1 = some ' ' then some ("!", c.next)
  else
    let (name, after) := c.next.span isNameChar
    if after.peek? = some '!' then some ("!" ++ String.ofList name ++ "!", after.next) else none

/-- A tag before blanks, or at the end of a line. -/
def tag? (c : Cursor) : Option (Token × Cursor) :=
  let found : Option (Token × Cursor) :=
    if c.peekAt? 1 = some '<' then
      match tagSuffix? (c.advance 2) with
      | some (suffix, after) =>
        if after.peek? = some '>' then some (.tag none suffix, after.next) else none
      | none => none
    else if endsWord (c.peekAt? 1) then some (.tag none "!", c.next)
    else
      let word := (c.next.span fun ch => !(ch = ' ' || isBreak ch)).1
      let handle := if word.contains '!' then tagHandle? c else some ("!", c.next)
      match handle with
      | some (handle, c) => (tagSuffix? c).map fun (suffix, after) =>
          (.tag (some handle) suffix, after)
      | none => none
  found.filter fun f => endsIndicator f.2.peek?

/-- A number in front of a text. -/
def number? (c : Cursor) : Option (Nat × Cursor) :=
  let (digits, after) := c.span Char.isDigit
  if digits.isEmpty then none
  else some (Text.digitsValue (digits.filterMap Text.asciiDigit?), after)

/-- The version after the name of a directive. -/
def version? (c : Cursor) : Option (Nat × Cursor) :=
  match number? c.skipSpaces with
  | some (major, c) =>
    if c.peek? = some '.' then
      match number? c.next with
      | some (_, after) => if endsIndicator after.peek? then some (major, after) else none
      | none => none
    else none
  | none => none

/-- The handle and the prefix after the name of a directive. -/
def tagDirective? (c : Cursor) : Option (String × String × Cursor) :=
  match tagHandle? c.skipSpaces with
  | some (handle, c) =>
    if c.peek? = some ' ' then
      match tagSuffix? c.skipSpaces with
      | some (text, after) =>
        if endsIndicator after.peek? then some (handle, text, after) else none
      | none => none
    else none
  | none => none

/-- A directive. Those that are not known count for nothing. -/
def directive? (c : Cursor) : Option (Token × Cursor) :=
  let (name, c) := c.next.span isNameChar
  if name.isEmpty || !endsIndicator c.peek? then none
  else
    let name := String.ofList name
    let found : Option (Token × Cursor) :=
      if name = "YAML" then (version? c).map fun (major, after) =>
        (.directive name none (some major), after)
      else if name = "TAG" then (tagDirective? c).map fun (handle, text, after) =>
        (.directive name (some (handle, text)) none, after)
      else some (.directive name none none, (c.span (!isBreak ·)).2)
    found.bind fun (token, after) => (after.skipRestOfLine?).map (token, ·)

/-- The characters that may follow a name at once. -/
def nameEnds : List Char := ['?', ':', ',', ']', '}', '%', '@', '\x60']

/-- The name of an anchor or an alias. -/
def anchorName? (c : Cursor) : Option (String × Cursor) :=
  let (name, after) := c.next.span isNameChar
  let ends : Bool := match after.peek? with
    | none => true
    | some ch => isBlank ch || isBreak ch || nameEnds.contains ch
  if name.isEmpty || !ends then none else some (String.ofList name, after)

/-! ### Single tokens -/

/-- A token that may begin a key. -/
def keyToken? (s : Scanner) (t : Token) (after : Cursor) : Option Scanner :=
  (s.saveKey?).map fun s => { (s.push t).move after with mayStartKey := false }

/-- The beginning or the end of a document, or a directive: all blocks end before it. -/
def border? (s : Scanner) (t : Token) (after : Cursor) : Option Scanner :=
  ((s.unwind (-1)).dropKey?).map fun s => { (s.push t).move after with mayStartKey := false }

def openBracket? (s : Scanner) (t : Token) : Option Scanner :=
  (s.saveKey?).map fun s =>
    { (s.push t).move s.cursor.next with level := s.level + 1, mayStartKey := true }

def closeBracket? (s : Scanner) (t : Token) : Option Scanner :=
  if s.level = 0 then none
  else (s.dropKey?).map fun s =>
    { (s.push t).move s.cursor.next with level := s.level - 1, mayStartKey := false }

def comma? (s : Scanner) : Option Scanner :=
  (s.dropKey?).map fun s => { (s.push .comma).move s.cursor.next with mayStartKey := true }

/-- The dash of an entry, which opens a sequence if it stands further to the right. -/
def entry? (s : Scanner) : Option Scanner :=
  if s.level = 0 && !s.mayStartKey then none
  else ((s.openBlock s.cursor.column s.count .blockSequence).dropKey?).map fun s =>
    { (s.push .entry).move s.cursor.next with mayStartKey := true }

/-- The question mark of a key, which opens a mapping if it stands further to the right. -/
def keyMark? (s : Scanner) : Option Scanner :=
  if s.level = 0 && !s.mayStartKey then none
  else ((s.openBlock s.cursor.column s.count .blockMapping).dropKey?).map fun s =>
    { (s.push .key).move s.cursor.next with mayStartKey := s.level = 0 }

/-- The colon of a value. Without a key before it the key is empty. -/
def value? (s : Scanner) : Option Scanner :=
  match s.key? with
  | some k =>
    let t := ({ s with keys := s.keys.filter (·.level ≠ s.level) }.insert k.place .key).openBlock
      k.start.column k.place .blockMapping
    some { (t.push .value).move s.cursor.next with mayStartKey := false }
  | none =>
    if s.level = 0 && !s.mayStartKey then none
    else ((s.openBlock s.cursor.column s.count .blockMapping).dropKey?).map fun s =>
      { (s.push .value).move s.cursor.next with mayStartKey := s.level = 0 }

/-- A block of lines, after which a key may begin. -/
def block? (s : Scanner) (foldLines : Bool) : Option Scanner :=
  match s.dropKey? with
  | some s => (scanBlock? foldLines s.indent s.cursor).map fun r =>
      { (s.push (.scalar (String.ofList r.text) false)).move r.after with mayStartKey := true }
  | none => none

/-- Stops at a code that is none. The tokens from the first possible key on are not handed out any
more, since what they mean depends on what follows. -/
def stopAt (s : Scanner) (code : Nat) : Scanner :=
  let place := s.keys.foldl (fun n k => min n k.place) s.count
  { s with tokens := .badCode code :: s.tokens.drop (s.count - place), stopped := true }

/-- A scalar between quotes, which may be a key. -/
def quoted? (s : Scanner) (quote : Char) : Option Scanner :=
  match scanQuoted quote s.cursor with
  | .ok r => s.keyToken? (.scalar (String.ofList r.text) false) r.after
  | .error .malformed => none
  | .error (.badCode code) => (s.saveKey?).map (·.stopAt code)

def plain? (s : Scanner) : Option Scanner :=
  let (r, broken) := scanPlain (s.level ≠ 0) (s.indent + 1) s.cursor
  (s.keyToken? (.scalar (String.ofList r.text) true) r.after).map fun s =>
    { s with mayStartKey := broken }

/-- The characters that no plain scalar begins with, unless some word follows at once. -/
def indicators : List Char :=
  ['-', '?', ':', ',', '[', ']', '{', '}', '#', '&', '*', '!', '|', '>', '\'', '"', '%', '@',
   '\x60']

/-- A plain scalar may begin with the character. -/
def startsPlain (s : Scanner) (c : Char) : Bool :=
  !(isBlank c || isBreak c || indicators.contains c) ||
    (!endsWord (s.cursor.peekAt? 1) && (c = '-' || (s.level = 0 && (c = '?' || c = ':'))))

/-- An indicator stands alone here; inside brackets it need not. -/
def standsAlone (s : Scanner) : Bool := s.level ≠ 0 || endsWord (s.cursor.peekAt? 1)

/-- The token that begins with a character. -/
def token? (s : Scanner) (c : Char) : Option Scanner :=
  let cur := s.cursor
  if c = '%' && cur.column = 0 then (directive? cur).bind fun (t, after) => s.border? t after
  else if c = '-' && cur.column = 0 && cur.isMarker '-' then
    s.border? .documentStart (cur.advance 3)
  else if c = '.' && cur.column = 0 && cur.isMarker '.' then
    s.border? .documentEnd (cur.advance 3)
  else if c = '[' then s.openBracket? .openSequence
  else if c = '{' then s.openBracket? .openMapping
  else if c = ']' then s.closeBracket? .closeSequence
  else if c = '}' then s.closeBracket? .closeMapping
  else if c = ',' then s.comma?
  else if c = '-' && endsWord (cur.peekAt? 1) then s.entry?
  else if c = '?' && s.standsAlone then s.keyMark?
  else if c = ':' && s.standsAlone then s.value?
  else if c = '*' then
    (anchorName? cur).bind fun (name, after) => s.keyToken? (.alias name) after
  else if c = '&' then
    (anchorName? cur).bind fun (name, after) => s.keyToken? (.anchor name) after
  else if c = '!' then (tag? cur).bind fun (t, after) => s.keyToken? t after
  else if c = '|' && s.level = 0 then s.block? false
  else if c = '>' && s.level = 0 then s.block? true
  else if c = '\'' || c = '"' then s.quoted? c
  else if s.startsPlain c then s.plain?
  else none

/-! ### The way to the next token -/

/-- Passes spaces, comments and line ends; after a line end a key may begin. -/
def toNext : Nat → Scanner → Scanner
  | 0, s => s
  | fuel + 1, s =>
    let c := s.cursor.skipSpaces
    let c := if c.peek? = some '#' then (c.span (!isBreak ·)).2 else c
    match c.lineEnd? with
    | some (_, next) =>
      toNext fuel { s.move next with mayStartKey := s.mayStartKey || s.level = 0 }
    | none => s.move c

/-- The scanner after all tokens of a text of at most `fuel` characters. -/
def run? : Nat → Scanner → Option Scanner
  | 0, _ => none
  | fuel + 1, s =>
    if s.stopped then some s
    else match (toNext (s.cursor.rest.length + 1) s).dropStale? with
      | none => none
      | some s =>
        let s := s.unwind s.cursor.column
        match s.cursor.peek? with
        | none => (s.unwind (-1)).dropKey?
        | some c => (s.token? c).bind (run? fuel)

end Scanner

/-- The tokens of a text. The byte order mark in front of it counts for nothing. -/
def tokens? (cs : List Char) : Option (List Token) :=
  if cs.all isAllowed then
    let s := Scanner.start cs
    let s := if cs.head? = some byteOrderMark then s.move s.cursor.next else s
    (Scanner.run? (cs.length + 2) s).map (·.tokens.reverse)
  else none

end Yaml
end DetectionFlow
