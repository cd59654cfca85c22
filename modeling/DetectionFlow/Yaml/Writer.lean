import DetectionFlow.Failure
import DetectionFlow.Value
import DetectionFlow.Yaml.Cursor
import DetectionFlow.Yaml.Tag

/-!
# Writing document files

Values as a document file. A list or an object whose parts are all scalars stands between brackets
on one line; every other one is a block, an item a line. Objects keep the order of their fields, and
lines are folded at spaces after eighty characters. A text is written plainly if it would be read
back as a text, else between single quotes, and between double quotes if it holds a character that
needs an escape.

Main function: `Yaml.write`.
-/

namespace DetectionFlow
namespace Yaml

/-! ## What a text admits -/

/-- What the characters of a text admit. -/
structure Traits where
  /-- May stand plainly between brackets. -/
  flowPlain : Bool
  /-- May stand plainly in a block. -/
  blockPlain : Bool
  singleQuoted : Bool
  hasBreaks : Bool

namespace Traits

/-- A character that does not begin a plain scalar. -/
def opensNothing (c : Char) : Bool :=
  ['#', ',', '[', ']', '{', '}', '&', '*', '!', '|', '>', '\'', '"', '%', '@', '\x60'].contains c

/-- The first character means something by itself, between brackets and in a block. -/
def firstMeans (cs : List Char) : Bool × Bool :=
  match cs with
  | [] => (false, false)
  | c :: rest =>
    let alone := endsWord rest.head?
    if opensNothing c then (true, true)
    else if c = '?' || c = ':' then (true, alone)
    else if c = '-' && alone then (true, true)
    else (false, false)

/-- A later character means something by itself, given whether a blank stands before it. -/
def laterMeans : Bool → List Char → Bool × Bool
  | _, [] => (false, false)
  | afterBlank, c :: rest =>
    let (flow, block) := laterMeans (endsWord (some c)) rest
    let alone := endsWord rest.head?
    if c = '#' && afterBlank then (true, true)
    else if c = ':' then (true, block || alone)
    else (flow || c = ',' || c = '?' || c = '[' || c = ']' || c = '{' || c = '}', block)

/-- A character that must be escaped. -/
def isSpecial (c : Char) : Bool := !(c = '\n' || (' ' ≤ c && c ≤ '~'))

/-- One character of a kind stands right before one of another kind. -/
def hasNext (p q : Char → Bool) : List Char → Bool
  | a :: b :: rest => (p a && q b) || hasNext p q (b :: rest)
  | _ => false

/-- A kind of character stands at one of the ends. -/
def atEnd (p : Char → Bool) (cs : List Char) : Bool :=
  cs.head?.any p || cs.getLast?.any p

/-- The text begins like a border of a document. -/
def opensBorder (cs : List Char) : Bool := cs.take 3 = ['-', '-', '-'] || cs.take 3 = ['.', '.', '.']

def of (cs : List Char) : Traits :=
  if cs.isEmpty then ⟨false, true, true, false⟩
  else
    let isSpace (c : Char) : Bool := c = ' '
    let (firstFlow, firstBlock) := firstMeans cs
    let (laterFlow, laterBlock) := laterMeans (endsWord cs.head?) cs.tail
    let breaks := cs.any isBreak
    let border := opensBorder cs
    -- Spaces before a line end would be lost by folding, so only escapes keep them.
    let mixed := hasNext isSpace isBreak cs || cs.any isSpecial
    let unquotable := hasNext isBreak isSpace cs || mixed
    let unplain := atEnd (fun c => isSpace c || isBreak c) cs || unquotable || breaks
    ⟨!(unplain || border || firstFlow || laterFlow), !(unplain || border || firstBlock || laterBlock),
      !unquotable, breaks⟩

end Traits

/-! ## The sheet -/

/-- What was written, and where the pen stands. -/
structure Sheet where
  /-- The characters, the last one first. -/
  written : List Char
  column : Nat
  /-- A blank or the beginning of a line stands before the pen. -/
  afterBlank : Bool
  /-- Nothing but indentation and indicators stands before the pen on its line. -/
  atIndent : Bool

namespace Sheet

def blank : Sheet := ⟨[], 0, true, true⟩

/-- The width after which lines are folded. -/
def width : Nat := 80

def put (s : Sheet) (cs : List Char) : Sheet :=
  { s with written := cs.reverseAux s.written, column := s.column + cs.length }

/-- An indicator, after a blank if it needs one. -/
def indicator (s : Sheet) (cs : List Char) (needsBlank leavesBlank keepsIndent : Bool) : Sheet :=
  let t := s.put (if s.afterBlank || !needsBlank then cs else ' ' :: cs)
  { t with afterBlank := leavesBlank, atIndent := s.atIndent && keepsIndent }

def lineEnd (s : Sheet) (c : Char) : Sheet := ⟨c :: s.written, 0, true, true⟩

/-- The beginning of a line with some indentation. -/
def indent (s : Sheet) (n : Nat) : Sheet :=
  let s := if !s.atIndent || n < s.column || (s.column = n && !s.afterBlank) then s.lineEnd '\n' else s
  if s.column < n then { s.put (List.replicate (n - s.column) ' ') with afterBlank := true } else s

/-- A word after which something other than blanks and indentation stands before the pen. -/
def settle (s : Sheet) : Sheet := { s with afterBlank := false, atIndent := false }

end Sheet

/-! ## Texts on the sheet -/

/-- A text in runs: of spaces, of line ends, and of all else. -/
def runsOf : List Char → List (List Char)
  | [] => []
  | c :: rest =>
    match runsOf rest with
    | [] => [[c]]
    | run :: more =>
      match run with
      | [] => [c] :: more
      | d :: _ =>
        if classOf c = classOf d then (c :: run) :: more else [c] :: run :: more
where
  classOf (c : Char) : Nat := if c = ' ' then 0 else if isBreak c then 1 else 2

/-- A run of a plain text. A single space beyond the width becomes the end of the line. -/
def putPlainRun (canFold : Bool) (indent : Nat) (s : Sheet) (run : List Char) : Sheet :=
  if run = [' '] && Sheet.width < s.column && canFold then (s.indent indent).settle
  else s.put run

/-- A plain text. -/
def putPlain (canFold : Bool) (indent : Nat) (s : Sheet) (cs : List Char) : Sheet :=
  if cs.isEmpty then s
  else (runsOf cs).foldl (putPlainRun canFold indent)
    (if s.afterBlank then s else s.put [' ']).settle

/-- The line ends of a quoted text: one more for the fold, and each of the others. -/
def putBreaks (indent : Nat) (s : Sheet) (run : List Char) : Sheet :=
  let s := if run.head? = some '\n' then s.lineEnd '\n' else s
  (run.foldl (fun s c => s.lineEnd c) s).indent indent

/-- A run between single quotes, which are written twice inside. A single space beyond the width
becomes the end of the line, unless it is the first or the last character. -/
def putSingleRun (canFold : Bool) (indent : Nat) (s : Sheet) (run : List Char)
    (isInner : Bool) : Sheet :=
  if run = [' '] && Sheet.width < s.column && canFold && isInner then s.indent indent
  else if run.any isBreak then putBreaks indent s run
  else s.put (run.flatMap fun c => if c = '\'' then ['\'', '\''] else [c])

def putSingleRuns (canFold : Bool) (indent : Nat) : Bool → Sheet → List (List Char) → Sheet
  | _, s, [] => s
  | isFirst, s, run :: rest =>
    putSingleRuns canFold indent false
      (putSingleRun canFold indent s run (!isFirst && !rest.isEmpty)) rest

/-- A text between single quotes. -/
def putSingle (canFold : Bool) (indent : Nat) (s : Sheet) (cs : List Char) : Sheet :=
  (putSingleRuns canFold indent true (s.indicator ['\''] true false false) (runsOf cs)).indicator
    ['\''] false false false

/-- Hexadecimal digits in upper case. -/
def upperHex (width n : Nat) : List Char := (Text.hexDigits width n).map Char.toUpper

/-- The letters for characters that have a short escape. -/
def shortEscapes : List (Char × Char) :=
  [('\x00', '0'), ('\x07', 'a'), ('\x08', 'b'), ('\t', 't'), ('\n', 'n'), ('\x0b', 'v'),
   ('\x0c', 'f'), ('\r', 'r'), ('\x1b', 'e'), ('"', '"'), ('\\', '\\'), ('\u0085', 'N'),
   ('\u00a0', '_'), ('\u2028', 'L'), ('\u2029', 'P')]

/-- The escape of a character between double quotes; none if it stands for itself. -/
def doubleEscape? (c : Char) : Option (List Char) :=
  match shortEscapes.find? (·.1 = c) with
  | some (_, letter) => some ['\\', letter]
  | none =>
    let code := Text.Half.code c
    if 0x20 ≤ code ∧ code ≤ 0x7e then none
    else if code ≤ 0xff then some ('\\' :: 'x' :: upperHex 2 code)
    else if code ≤ 0xffff then some ('\\' :: 'u' :: upperHex 4 code)
    else some ('\\' :: 'U' :: upperHex 8 code)

/-- The state while a text is written between double quotes: the characters that wait, the first
one last, stand for themselves. -/
structure DoubleQuoting where
  sheet : Sheet
  waiting : List Char

namespace DoubleQuoting

def flush (q : DoubleQuoting) : DoubleQuoting := ⟨q.sheet.put q.waiting.reverse, []⟩

/-- The line is folded here: a backslash ends it, and one more precedes a space in front. -/
def fold (indent : Nat) (q : DoubleQuoting) (following : List Char) : DoubleQuoting :=
  let s := ((q.flush.sheet.put ['\\']).indent indent).settle
  ⟨if following.head? = some ' ' then s.put ['\\'] else s, []⟩

/-- Whether the line is folded at a character, which is neither the first nor the last: at a space,
or where nothing waits. The line must be full with what waits. -/
def mayFold (q : DoubleQuoting) (c : Char) (isInner canFold escaped : Bool) : Bool :=
  isInner && canFold && (c = ' ' || q.waiting.isEmpty) &&
    Sheet.width < q.sheet.column + q.waiting.length - (if escaped then 1 else 0)

/-- Writes the characters from one on. -/
def run (canFold : Bool) (indent : Nat) : Bool → DoubleQuoting → List Char → DoubleQuoting
  | _, q, [] => q.flush
  | isFirst, q, c :: rest =>
    let isInner := !isFirst && !rest.isEmpty
    match doubleEscape? c with
    | some escape =>
      let q := q.flush
      let q : DoubleQuoting := ⟨q.sheet.put escape, []⟩
      run canFold indent false (if mayFold q c isInner canFold true then q.fold indent rest else q) rest
    | none =>
      if mayFold q c isInner canFold false then
        run canFold indent false ⟨(q.fold indent (c :: rest)).sheet, [c]⟩ rest
      else run canFold indent false ⟨q.sheet, c :: q.waiting⟩ rest

end DoubleQuoting

/-- A text between double quotes. -/
def putDouble (canFold : Bool) (indent : Nat) (s : Sheet) (cs : List Char) : Sheet :=
  (DoubleQuoting.run canFold indent true ⟨s.indicator ['"'] true false false, []⟩ cs).sheet.indicator
    ['"'] false false false

/-! ## Scalars on the sheet -/

/-- A text in the form that it admits: plainly, if it would be read back as a text. -/
def putText (inFlow isKey : Bool) (indent : Nat) (s : Sheet) (t : String) : Sheet :=
  let cs := t.toList
  let traits := Traits.of cs
  -- A key on one line can neither be empty nor hold a line end.
  let plainly := Tag.ofText t = .text && (if inFlow then traits.flowPlain else traits.blockPlain)
    && !(isKey && (cs.isEmpty || traits.hasBreaks))
  if plainly then putPlain (!isKey) indent s cs
  else if traits.singleQuoted && !(isKey && traits.hasBreaks) then putSingle (!isKey) indent s cs
  else putDouble (!isKey) indent s cs

/-- A double, with a point even before a power of ten. -/
def doubleText (x : Double) : List Char :=
  match x with
  | .nan => ".nan".toList
  | .infinity negative => (if negative then "-.inf" else ".inf").toList
  | _ =>
    let cs := (Layout.plain.render x).toList
    if cs.contains '.' then cs
    else cs.flatMap fun c => if c = 'e' then ".0e".toList else [c]

/-- A scalar on the sheet. -/
def putScalar (inFlow : Bool) (indent : Nat) (s : Sheet) (v : Value) : Sheet :=
  match v with
  | .text t => putText inFlow false indent s t
  | .null => putPlain true indent s "null".toList
  | .bool b => putPlain true indent s (if b then "true" else "false").toList
  | .float x => putPlain true indent s (doubleText x)
  | v => putPlain true indent s v.shown.toList

def isScalar : Value → Bool
  | .list _ | .object _ | .table _ => false
  | _ => true

/-! ## Keys -/

/-- The most characters of a key that stands before its colon on the same line. -/
def longestSimpleKey : Nat := 122

/-- The key stands before its colon on the same line. -/
def isSimpleKey (key : String) : Bool :=
  !key.isEmpty && !key.toList.any isBreak && key.length ≤ longestSimpleKey

/-! ## Collections between brackets -/

/-- The comma between two parts, and the next line if this one is full. -/
def separate (isFirst : Bool) (indent : Nat) (s : Sheet) : Sheet :=
  let s := if isFirst then s else s.indicator [','] false false false
  if Sheet.width < s.column then s.indent indent else s

def putFlowItems (indent : Nat) : Bool → Sheet → List Value → Sheet
  | _, s, [] => s
  | isFirst, s, v :: rest =>
    putFlowItems indent false (putScalar true (indent + 2) (separate isFirst indent s) v) rest

/-- A key between brackets with its colon. -/
def putFlowKey (indent : Nat) (s : Sheet) (key : String) : Sheet :=
  if isSimpleKey key then
    (putText true true (indent + 2) s key).indicator [':'] false false false
  else
    let s := putText true false (indent + 2) (s.indicator ['?'] true false false) key
    (if Sheet.width < s.column then s.indent indent else s).indicator [':'] true false false

def putFlowFields (indent : Nat) : Bool → Sheet → List (String × Value) → Sheet
  | _, s, [] => s
  | isFirst, s, (key, v) :: rest =>
    putFlowFields indent false
      (putScalar true (indent + 2) (putFlowKey indent (separate isFirst indent s) key) v) rest

/-- A list of scalars. -/
def putFlowList (indent : Nat) (s : Sheet) (items : List Value) : Sheet :=
  (putFlowItems indent true (s.indicator ['['] true true false) items).indicator [']']
    false false false

/-- An object of scalars. -/
def putFlowObject (indent : Nat) (s : Sheet) (fields : Fields) : Sheet :=
  (putFlowFields indent true (s.indicator ['{'] true true false) fields).indicator ['}']
    false false false

/-! ## Blocks -/

/-- A key on a line of its own with its colon. -/
def putBlockKey (indent : Nat) (s : Sheet) (key : String) : Sheet :=
  let s := s.indent indent
  if isSimpleKey key then
    (putText false true (indent + 2) s key).indicator [':'] false false false
  else
    let s := putText false false (indent + 2) (s.indicator ['?'] true false true) key
    (s.indent indent).indicator [':'] true false true

/-- The indentation inside a collection; around the whole there is none. -/
def deeper (around : Option Nat) (atRoot : Nat) : Nat :=
  match around with
  | some n => n + 2
  | none => atRoot

/-- The indentation of the items of a list. Right after a key they need not be indented further. -/
def itemIndent (around : Option Nat) (isField : Bool) (s : Sheet) : Nat :=
  if isField && !s.atIndent then around.getD 0 else deeper around 0

mutual

/-- A value, inside a collection with some indentation. -/
def putValue (around : Option Nat) (isField : Bool) (s : Sheet) : Value → Sheet
  | .list items =>
    if items.all isScalar then putFlowList (deeper around 2) s items
    else putItems (itemIndent around isField s) s items
  | .object fields =>
    if fields.all (isScalar ·.2) then putFlowObject (deeper around 2) s fields
    else putFields (deeper around 0) s fields
  | .table entries =>
    if entries.all (isScalar ·.2) then
      putFlowObject (deeper around 2) s (entries.map fun e => (e.1.shown, e.2))
    else putEntries (deeper around 0) s entries
  | v => putScalar false (deeper around 2) s v

def putItems (indent : Nat) (s : Sheet) : List Value → Sheet
  | [] => s
  | v :: rest =>
    putItems indent
      (putValue (some indent) false ((s.indent indent).indicator ['-'] true false true) v) rest

def putFields (indent : Nat) (s : Sheet) : List (String × Value) → Sheet
  | [] => s
  | (key, v) :: rest =>
    putFields indent (putValue (some indent) true (putBlockKey indent s key) v) rest

def putEntries (indent : Nat) (s : Sheet) : List (Value × Value) → Sheet
  | [] => s
  | (key, v) :: rest =>
    putEntries indent (putValue (some indent) true (putBlockKey indent s key.shown) v) rest

end

mutual

/-- No integer among the parts of a value has more digits than are written. -/
def isWritable : Value → Bool
  | .int n => !Fault.isLong n
  | .list items => areWritable items
  | .object fields => haveWritable fields
  | _ => true

def areWritable : List Value → Bool
  | [] => true
  | v :: rest => isWritable v && areWritable rest

def haveWritable : List (String × Value) → Bool
  | [] => true
  | (_, v) :: rest => isWritable v && haveWritable rest

end

/-- A value as the text of a document file. -/
def write (v : Value) : String :=
  String.ofList ((putValue none false Sheet.blank v).indent 0).written.reverse

end Yaml
end DetectionFlow
