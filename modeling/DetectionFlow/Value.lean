import DetectionFlow.Calendar
import DetectionFlow.Decimal.Layout
import DetectionFlow.Text.Quoted

/-!
# Values

The values that documents, settings files and backend answers are made of. Payload fields hold them
unchecked until a graph is compiled, so the program carries one type for all of them.

An `object` has text keys and keeps their order. The constructors from `table` on come from document
files only. A collection of such a file may hold itself; its value goes round once more and then
ends. Where it stands again is marked by `again`.
-/

namespace DetectionFlow

/-- An integer or a double, told apart because they are written differently. -/
inductive Number
  | int (n : Int)
  | float (x : Double)
  deriving DecidableEq, Inhabited

/-- A value of a document, a settings file or a backend answer. -/
inductive Value
  | null
  | bool (b : Bool)
  | int (n : Int)
  | float (x : Double)
  | text (s : String)
  | list (items : List Value)
  | object (fields : List (String × Value))
  /-- A mapping with some key that is no text. -/
  | table (entries : List (Value × Value))
  /-- The word for no number. All its occurrences are one key. -/
  | undefined
  | bytes (bs : List UInt8)
  | day (d : Day)
  | moment (m : Moment)
  /-- One pair of a list of pairs. -/
  | pair (first second : Value)
  /-- Members in the order in which they are run through. -/
  | set (members : List Value)
  /-- The collection so many levels above, once more, as far as it is followed. -/
  | again (levels : Nat) (v : Value)
  deriving Inhabited

/-- The fields of an object, in their order. -/
abbrev Fields := List (String × Value)

namespace Fields

/-- The value of a field. -/
def get? (fields : Fields) (key : String) : Option Value :=
  (fields.find? (·.1 = key)).map (·.2)

def has (fields : Fields) (key : String) : Bool := fields.any (·.1 = key)

/-- The fields with one of them set: in place when it exists, else at the end. -/
def put (fields : Fields) (key : String) (v : Value) : Fields :=
  if fields.has key then fields.map fun f => if f.1 = key then (key, v) else f
  else fields ++ [(key, v)]

end Fields

/-! ## Numbers -/

namespace Number

/-- The order of a double and an integer; what is no number has none. -/
def compareInt? (x : Double) (n : Int) : Option Ordering :=
  match x with
  | .nan => none
  | .infinity negative => some (if negative then .lt else .gt)
  | .finite negative units _ => some (compare (Double.signed negative units) (n * Double.unit))

/-- The exact numeric order. -/
def compare? : Number → Number → Option Ordering
  | int a, int b => some (compare a b)
  | float a, int b => compareInt? a b
  | int a, float b => (compareInt? b a).map Ordering.swap
  | float a, float b =>
    match a.place?, b.place? with
    | some p, some q => some (compare p q)
    | _, _ => none

def lt (a b : Number) : Bool := a.compare? b == some .lt

def same (a b : Number) : Bool := a.compare? b == some .eq

/-- The text of a number, as it appears in messages. -/
def shown : Number → String
  | int n => toString n
  | float x => Layout.plain.render x

def toValue : Number → Value
  | int n => .int n
  | float x => .float x

/-- The number of a double; one that equals an integer becomes that integer. What is not finite is no
integer and stays as it is. -/
def ofDouble (x : Double) : Number :=
  match x.toInt? with
  | some n => int n
  | none => float x

end Number

/-! ## Values -/

namespace Value

def ofTexts (ss : List String) : Value := .list (ss.map .text)

/-- The value of an optional text. -/
def ofText? : Option String → Value
  | some s => .text s
  | none => .null

/-- What kind of value this is, as messages name it. -/
def typeName : Value → String
  | null => "NoneType"
  | bool _ => "bool"
  | int _ => "int"
  | float _ | undefined => "float"
  | text _ => "str"
  | list _ => "list"
  | object _ | table _ => "dict"
  | bytes _ => "bytes"
  | day _ => "date"
  | moment _ => "datetime"
  | pair .. => "tuple"
  | set _ => "set"
  | again _ v => v.typeName

/-- Neither null nor false, nor a zero, nor empty. -/
def isTruthy : Value → Bool
  | null => false
  | bool b => b
  | int n => n ≠ 0
  | float x => !(Number.float x).same (.int 0)
  | text s => !s.isEmpty
  | list items | set items => !items.isEmpty
  | object fields => !fields.isEmpty
  | table entries => !entries.isEmpty
  | bytes bs => !bs.isEmpty
  | undefined | day _ | moment _ | pair .. | again .. => true

/-- The number that a value is; the truth values count as one and zero. -/
def number? : Value → Option Number
  | bool b => some (.int (if b then 1 else 0))
  | int n => some (.int n)
  | float x => some (.float x)
  | undefined => some (.float .nan)
  | _ => none

/-- The fields of an object. -/
def fields? : Value → Option Fields
  | object fields => some fields
  | again _ v => v.fields?
  | _ => none

def text? : Value → Option String
  | text s => some s
  | _ => none

/-- The value of a field of an object. -/
def get? (v : Value) (key : String) : Option Value :=
  v.fields?.bind (·.get? key)

/-- The keys of a mapping with their values. -/
def entries? : Value → Option (List (Value × Value))
  | object fields => some (fields.map fun f => (.text f.1, f.2))
  | table entries => some entries
  | again _ v => v.entries?
  | _ => none

/-- The items of a list, of a pair or of a set. -/
def listed? : Value → Option (List Value)
  | list items | set items => some items
  | pair a b => some [a, b]
  | again _ v => v.listed?
  | _ => none

/-- The values that a value runs through: the characters of a text, the numbers of bytes, the items
of a list, the keys of a mapping. Other values have none. -/
def items? (v : Value) : Option (List Value) :=
  match v with
  | text s => some (s.toList.map fun c => .text (String.singleton c))
  | bytes bs => some (bs.map fun b => .int b.toNat)
  | v => v.listed?.orElse fun _ => v.entries?.map (·.map (·.1))

/-- A value that can be a key: it has no parts that could change. -/
def isKey : Value → Bool
  | list _ | object _ | table _ | set _ | again .. => false
  | pair a b => isKey a && isKey b
  | _ => true

mutual

/-- Somewhere in the value a collection holds itself. -/
def isEndless : Value → Bool
  | again .. => true
  | list items | set items => anyEndless items
  | pair a b => isEndless a || isEndless b
  | object fields => fieldsEndless fields
  | table entries => entriesEndless entries
  | _ => false

def anyEndless : List Value → Bool
  | [] => false
  | v :: rest => isEndless v || anyEndless rest

def fieldsEndless : List (String × Value) → Bool
  | [] => false
  | (_, v) :: rest => isEndless v || fieldsEndless rest

def entriesEndless : List (Value × Value) → Bool
  | [] => false
  | (_, v) :: rest => isEndless v || entriesEndless rest

end

/-! ## Equality -/

mutual

/-- Equality: of numbers by their values, of moments by their points of time, of mappings and sets in
any order, and of all else by form. -/
def same : Value → Value → Bool
  | text s, text t => s = t
  | null, null | undefined, undefined => true
  | bytes a, bytes b => a = b
  | day a, day b => a = b
  | moment a, moment b => a.same b
  | pair a b, pair c d => same a c && same b d
  | list items, list others => sameItems items others
  | set members, set others => members.length = others.length && sameMembers members others
  | object fields, v => match v.entries? with
    | some entries => fields.length = entries.length && sameFields fields entries
    | none => false
  | table entries, v => match v.entries? with
    | some others => entries.length = others.length && sameEntries entries others
    | none => false
  | v, w => match v.number?, w.number? with
    | some x, some y => x.same y
    | _, _ => false

/-- The items are the same, one by one. -/
def sameItems : List Value → List Value → Bool
  | [], [] => true
  | v :: rest, w :: others => same v w && sameItems rest others
  | _, _ => false

/-- All of some values are among others. -/
def sameMembers : List Value → List Value → Bool
  | [], _ => true
  | v :: rest, others => others.any (same v) && sameMembers rest others

/-- All fields are among some entries. -/
def sameFields : List (String × Value) → List (Value × Value) → Bool
  | [], _ => true
  | (key, v) :: rest, entries =>
    entries.any (fun e => e.1.text? = some key && same v e.2) && sameFields rest entries

/-- All entries are among others. -/
def sameEntries : List (Value × Value) → List (Value × Value) → Bool
  | [], _ => true
  | (key, v) :: rest, entries =>
    entries.any (fun e => same key e.1 && same v e.2) && sameEntries rest entries

end

/-! ## Texts of values -/

mutual

/-- A value inside a message, so many levels inside what is quoted. A collection that is being quoted
already is not quoted again. -/
def quotedAt (depth : Nat) : Value → String
  | null => "None"
  | bool b => if b then "True" else "False"
  | int n => toString n
  | float x => Layout.plain.render x
  | undefined => Layout.plain.render .nan
  | text s => Text.quoted s
  | bytes bs => Text.quotedBytes bs
  | day d => d.quoted
  | moment m => m.quoted
  | pair a b => "(" ++ quotedAt (depth + 1) a ++ ", " ++ quotedAt (depth + 1) b ++ ")"
  | set members =>
    if members.isEmpty then "set()"
    else "\x7b" ++ String.intercalate ", " (quotedItems (depth + 1) members) ++ "\x7d"
  | list items => "[" ++ String.intercalate ", " (quotedItems (depth + 1) items) ++ "]"
  | object fields =>
    "\x7b" ++ String.intercalate ", " (quotedFields (depth + 1) fields) ++ "\x7d"
  | table entries =>
    "\x7b" ++ String.intercalate ", " (quotedEntries (depth + 1) entries) ++ "\x7d"
  | again levels v =>
    if depth < levels then quotedAt depth v
    else if v.entries?.isSome then "\x7b...\x7d" else "[...]"

def quotedItems (depth : Nat) : List Value → List String
  | [] => []
  | v :: rest => quotedAt depth v :: quotedItems depth rest

def quotedFields (depth : Nat) : List (String × Value) → List String
  | [] => []
  | (key, v) :: rest => (Text.quoted key ++ ": " ++ quotedAt depth v) :: quotedFields depth rest

def quotedEntries (depth : Nat) : List (Value × Value) → List String
  | [] => []
  | (key, v) :: rest =>
    (quotedAt depth key ++ ": " ++ quotedAt depth v) :: quotedEntries depth rest

end

/-- A value inside a message: texts are quoted. -/
def quoted (v : Value) : String := quotedAt 0 v

/-- A value as a text of its own: texts stay as they are, and dates are written in digits. -/
def shown : Value → String
  | text s => s
  | day d => d.shown
  | moment m => m.shown
  | v => quoted v

end Value
end DetectionFlow
