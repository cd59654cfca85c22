import DetectionFlow.Failure

/-!
# Writing JSON

Two written forms: `compact`, with no blanks at all, for the text of a record field and for what is
sent to the backend; and `pretty`, one item a line, for files and the terminal. Characters beyond
ASCII are written as escapes in both. Some values of document files have no written form; `fault?`
tells which.
-/

namespace DetectionFlow
namespace Json

/-! ## Scalars -/

/-- Four hexadecimal digits of an escape. -/
def unitEscape (code : Nat) : List Char := '\\' :: 'u' :: Text.hexDigits 4 code

/-- One character between double quotes. -/
def escaped (c : Char) : List Char :=
  match c with
  | '"' => ['\\', '"']
  | '\\' => ['\\', '\\']
  | '\n' => ['\\', 'n']
  | '\r' => ['\\', 'r']
  | '\t' => ['\\', 't']
  | '\x08' => ['\\', 'b']
  | '\x0c' => ['\\', 'f']
  | c =>
    let code := Text.Half.code c
    if 0x20 ≤ code ∧ code < 0x7f then [c]
    else if code < 0x10000 then unitEscape code
    else
      let (high, low) := Text.Half.split code
      unitEscape high ++ unitEscape low

/-- A text between double quotes. -/
def textToken (s : String) : String :=
  String.ofList ('"' :: (s.toList.flatMap escaped ++ ['"']))

/-- The name under which a key that is no text is written; keys of other kinds cannot be. -/
def keyText? : Value → Option String
  | .text s => some s
  | .null => some "null"
  | .bool b => some (if b then "true" else "false")
  | .int n => some (toString n)
  | .float x => some (Layout.record.render x)
  | .undefined => some (Layout.record.render .nan)
  | _ => none

/-! ## Values without a written form -/

mutual

/-- Why a value cannot be written: the first fault in it. -/
def fault? : Value → Option Fault
  | .list items => faultInItems? items
  | .pair a b => (fault? a).orElse fun _ => fault? b
  | .object fields => faultInFields? fields
  | .table entries => faultInEntries? entries
  | .again .. => some .circular
  | .bytes bs => some (.unwritable (Value.bytes bs).typeName)
  | .day d => some (.unwritable (Value.day d).typeName)
  | .moment m => some (.unwritable (Value.moment m).typeName)
  | .set members => some (.unwritable (Value.set members).typeName)
  | .int n => if Fault.isLong n then some .longInteger else none
  | .null | .bool _ | .float _ | .undefined | .text _ => none

def faultInItems? : List Value → Option Fault
  | [] => none
  | v :: rest => (fault? v).orElse fun _ => faultInItems? rest

def faultInFields? : List (String × Value) → Option Fault
  | [] => none
  | (_, v) :: rest => (fault? v).orElse fun _ => faultInFields? rest

def faultInEntries? : List (Value × Value) → Option Fault
  | [] => none
  | (key, v) :: rest =>
    if (keyText? key).isNone then some (.unwritable key.typeName)
    else ((fault? key).orElse fun _ => fault? v).orElse fun _ => faultInEntries? rest

end

/-! ## The two forms -/

mutual

/-- Without blanks. -/
def compact : Value → String
  | .null => "null"
  | .bool b => if b then "true" else "false"
  | .int n => toString n
  | .float x => Layout.record.render x
  | .undefined => Layout.record.render .nan
  | .text s => textToken s
  | .pair a b => "[" ++ compact a ++ "," ++ compact b ++ "]"
  | .list items => "[" ++ String.intercalate "," (compactItems items) ++ "]"
  | .object fields => "\x7b" ++ String.intercalate "," (compactFields fields) ++ "\x7d"
  | .table entries => "\x7b" ++ String.intercalate "," (compactEntries entries) ++ "\x7d"
  | v => textToken v.shown

def compactItems : List Value → List String
  | [] => []
  | v :: rest => compact v :: compactItems rest

def compactFields : List (String × Value) → List String
  | [] => []
  | (key, v) :: rest => (textToken key ++ ":" ++ compact v) :: compactFields rest

def compactEntries : List (Value × Value) → List String
  | [] => []
  | (key, v) :: rest =>
    (textToken ((keyText? key).getD "") ++ ":" ++ compact v) :: compactEntries rest

end

/-- A line break and the blanks of a depth. -/
def newline (depth : Nat) : String := String.ofList ('\n' :: List.replicate (2 * depth) ' ')

/-- Parts between brackets, each on a line of its own. -/
def block (opening closing : String) (depth : Nat) (parts : List String) : String :=
  if parts.isEmpty then opening ++ closing
  else opening ++ newline (depth + 1) ++
    String.intercalate ("," ++ newline (depth + 1)) parts ++ newline depth ++ closing

mutual

/-- With one item a line, each level two blanks deeper. -/
def prettyAt (depth : Nat) : Value → String
  | .list items => block "[" "]" depth (prettyItems (depth + 1) items)
  | .object fields => block "\x7b" "\x7d" depth (prettyFields (depth + 1) fields)
  | v => compact v

def prettyItems (depth : Nat) : List Value → List String
  | [] => []
  | v :: rest => prettyAt depth v :: prettyItems depth rest

def prettyFields (depth : Nat) : List (String × Value) → List String
  | [] => []
  | (key, v) :: rest => (textToken key ++ ": " ++ prettyAt depth v) :: prettyFields depth rest

end

def pretty (v : Value) : String := prettyAt 0 v

end Json
end DetectionFlow
