/-!
# A place in a document file

The scanner of document files looks at characters and at where they stand: a line and a column,
since the layout of a file carries meaning. `Cursor` is such a place with the text from it on.
-/

namespace DetectionFlow
namespace Yaml

/-! ## Characters -/

/-- A character that ends a line. Files are read with one kind of line end, but a text may hold the
rarer ones. -/
def isBreak (c : Char) : Bool := c = '\n' || c = '\u0085' || c = '\u2028' || c = '\u2029'

def isBlank (c : Char) : Bool := c = ' ' || c = '\t'

/-- Nothing follows on the line. -/
def endsLine : Option Char → Bool
  | none => true
  | some c => isBreak c

/-- No word goes on here. -/
def endsWord : Option Char → Bool
  | none => true
  | some c => isBlank c || isBreak c

/-- Nothing but spaces may stand between here and the end of the line. -/
def endsIndicator : Option Char → Bool
  | none => true
  | some c => c = ' ' || isBreak c

/-- A character of the names of anchors, directives and tag handles. -/
def isNameChar (c : Char) : Bool := c.isAlphanum || c = '-' || c = '_'

/-- The mark that a file may begin with. -/
def byteOrderMark : Char := '\ufeff'

/-- A character that a file may hold. -/
def isAllowed (c : Char) : Bool :=
  c = '\t' || c = '\n' || c = '\u0085' || (' ' ≤ c && c ≤ '~') ||
    (0xa0 ≤ c.toNat && c.toNat ≤ 0xfffd) || 0x10000 ≤ c.toNat

/-! ## Cursors -/

/-- A place in a text. -/
structure Cursor where
  /-- The text from here on. -/
  rest : List Char
  index : Nat
  line : Nat
  column : Nat

namespace Cursor

def start (cs : List Char) : Cursor := ⟨cs, 0, 0, 0⟩

/-- The character here. -/
def peek? (c : Cursor) : Option Char := c.rest.head?

/-- The character some places further. -/
def peekAt? (c : Cursor) (n : Nat) : Option Char := (c.rest.drop n).head?

/-- One place further. -/
def next (c : Cursor) : Cursor :=
  match c.rest with
  | [] => c
  | ch :: rest =>
    if isBreak ch then ⟨rest, c.index + 1, c.line + 1, 0⟩
    else if ch = byteOrderMark then ⟨rest, c.index + 1, c.line, c.column⟩
    else ⟨rest, c.index + 1, c.line, c.column + 1⟩

/-- Some places further. -/
def advance (c : Cursor) : Nat → Cursor
  | 0 => c
  | n + 1 => c.next.advance n

/-- The characters of a kind from here on, and the place after them. -/
def span (c : Cursor) (p : Char → Bool) : List Char × Cursor :=
  let taken := c.rest.takeWhile p
  (taken, c.advance taken.length)

/-- The place after all spaces. -/
def skipSpaces (c : Cursor) : Cursor := (c.span (· = ' ')).2

/-- The place after at most so many spaces that the column is reached. -/
def skipSpacesTo (c : Cursor) (column : Nat) : Cursor :=
  c.advance (min ((c.rest.takeWhile (· = ' ')).length) (column - c.column))

/-- The end of the line, if it is here. -/
def lineEnd? (c : Cursor) : Option (Char × Cursor) :=
  match c.peek? with
  | some ch =>
    if ch = '\n' || ch = '\u0085' then some ('\n', c.next)
    else if isBreak ch then some (ch, c.next)
    else none
  | none => none

/-- The three characters that begin or end a document stand here, alone. -/
def isMarker (c : Cursor) (mark : Char) : Bool :=
  c.rest.take 3 = [mark, mark, mark] && endsWord (c.peekAt? 3)

/-- A document begins or ends here. -/
def isDocumentMarker (c : Cursor) : Bool := c.isMarker '-' || c.isMarker '.'

/-- The place after the rest of a line that holds nothing but a comment. -/
def skipRestOfLine? (c : Cursor) : Option Cursor :=
  let c := c.skipSpaces
  let c := if c.peek? = some '#' then (c.span (!isBreak ·)).2 else c
  if endsLine c.peek? then some (((c.lineEnd?).map (·.2)).getD c) else none

end Cursor
end Yaml
end DetectionFlow
