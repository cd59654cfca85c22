import DetectionFlow.Decimal.Numeral
import DetectionFlow.Failure

/-!
# Schemas

Readers of values that report all that is wrong and not only the first thing. A reader is a function
from a value to a `Checked` result; readers of the fields of an object are joined by the applicative
operations, which collect the violations of all fields in their order.

Readers are lenient about scalars: a numeral is read where a number is due, a whole double where
an integer is due, and bytes where a text is due.
-/

namespace DetectionFlow

-- Powers are those of the core library, so that they are the same whatever is imported.
attribute [local instance (high)] instPowNat

/-! ## Checked results -/

/-- A result, or the violations that prevent it. -/
def Checked (α : Type) := Except (List Violation) α

namespace Checked

def ok (a : α) : Checked α := Except.ok a

def broken (vs : List Violation) : Checked α := Except.error vs

/-- One violation of the value itself, by name. -/
def wrong (name : String) : Checked α := broken [⟨[], .plain name⟩]

/-- One violation of the value itself: a rule of the schema that is broken, with its words. -/
def ruleBroken (message : String) : Checked α :=
  broken [⟨[], .rule ("Value error, " ++ message)⟩]

def toExcept (c : Checked α) : Except (List Violation) α := c

def map (f : α → β) (c : Checked α) : Checked β :=
  match c.toExcept with
  | .ok a => ok (f a)
  | .error vs => broken vs

/-- Applies a checked function to a checked argument; the violations of both are kept. -/
def apply (f : Checked (α → β)) (c : Checked α) : Checked β :=
  match f.toExcept, c.toExcept with
  | .ok g, .ok a => ok (g a)
  | .ok _, .error vs => broken vs
  | .error vs, .ok _ => broken vs
  | .error vs, .error ws => broken (vs ++ ws)

instance : Applicative Checked where
  pure := ok
  map := map
  seq f c := apply f (c ())

/-- A second check of a result that passed the first. -/
def andThen (c : Checked α) (f : α → Checked β) : Checked β :=
  match c.toExcept with
  | .ok a => f a
  | .error vs => broken vs

/-- The violations of a part, seen from the whole. -/
def under (step : Step) (c : Checked α) : Checked α :=
  match c.toExcept with
  | .ok a => ok a
  | .error vs => broken (vs.map fun v => { v with path := step :: v.path })

/-- A result with the failure that violations mean outside. -/
def toFailure (c : Checked α) : Except Failure α :=
  match c.toExcept with
  | .ok a => .ok a
  | .error vs => .error (.schema vs)

/-- The results of all, or the violations of all. -/
def sequence : List (Checked α) → Checked (List α)
  | [] => ok []
  | c :: rest => apply (map List.cons c) (sequence rest)

end Checked

/-- A reader of values. -/
abbrev Reader (α : Type) := Value → Checked α

namespace Reader

/-! ## Scalars -/

/-- The text that a value is read as; bytes are read as characters. -/
inductive Wording
  | text (s : String)
  /-- A text with half a character in it. -/
  | halved (s : String)
  /-- Bytes that are no text. -/
  | undecodable
  /-- Neither a text nor bytes. -/
  | other

def Wording.of : Value → Wording
  | .text s => if Text.Half.isIn s then .halved s else .text s
  | .bytes bs => match Text.Utf8.decode? bs with
    | some s => .text s
    | none => .undecodable
  | _ => .other

/-- A text as it is. -/
def text : Reader String := fun v =>
  match Wording.of v with
  | .text s | .halved s => .ok s
  | .undecodable => .wrong "string_unicode"
  | .other => .wrong "string_type"

/-- A text that is not empty. To be measured it must consist of whole characters. -/
def name : Reader String := fun v =>
  match Wording.of v with
  | .halved _ => .wrong "string_unicode"
  | _ => (text v).andThen fun s => if s.isEmpty then .wrong "string_too_short" else .ok s

/-- A value or null. -/
def nullable (r : Reader α) : Reader (Option α)
  | .null => .ok none
  | v => (r v).map some

/-- A double: a number, a truth value or a numeral. -/
def double : Reader Double := fun v =>
  match Wording.of v with
  | .text s => match Numeral.readField? s with
    | some x => .ok x
    | none => .wrong "float_parsing"
  | .halved _ => .wrong "string_unicode"
  | .undecodable => .wrong "float_parsing"
  | .other => match v.number? with
    | some (.float x) => .ok x
    | some (.int n) => (Double.ofInt? n).elim (.wrong "float_type") .ok
    | none => .wrong "float_type"

/-- A double that is at most `most` and at least `least`; the upper bound is looked at first. -/
def doubleBetween (least most : Double) : Reader Double := fun v =>
  (double v).andThen fun x =>
    if !x.le most then .wrong "less_than_equal"
    else if !least.le x then .wrong "greater_than_equal"
    else .ok x

def nonNegativeDouble : Reader Double := fun v =>
  (double v).andThen fun x =>
    if Double.zero.le x then .ok x else .wrong "greater_than_equal"

def positiveDouble : Reader Double := fun v =>
  (double v).andThen fun x =>
    if Double.zero.lt x then .ok x else .wrong "greater_than"

/-- The bound of the integers of 64 bits. -/
def wordBound : Int := 2 ^ (63 : Nat)

/-- The integer of a whole double. Both bounds of the words are out of reach for it. -/
def wholeOf (x : Double) : Checked Int :=
  if !x.isFinite then .wrong "finite_number"
  else match x.toInt? with
    | none => .wrong "int_from_float"
    | some n => if -wordBound < n ∧ n < wordBound then .ok n else .wrong "int_parsing_size"

/-- An integer: an integer, a truth value, a whole double, or one of these as text. -/
def int : Reader Int := fun v =>
  match Wording.of v with
  | .text s => match Numeral.readIntField s with
    | .ok n => .ok n
    | .error .malformed => .wrong "int_parsing"
    | .error .tooLong => .wrong "int_parsing_size"
  | .halved _ => .wrong "string_unicode"
  | .undecodable => .wrong "int_parsing"
  | .other => match v, v.number? with
    | _, some (.int n) => .ok n
    | _, some (.float x) => wholeOf x
    | _, none => .wrong "int_type"

def nonNegativeInt : Reader Int := fun v =>
  (int v).andThen fun n => if 0 ≤ n then .ok n else .wrong "greater_than_equal"

/-- The words for true and for false, in lower case. -/
def trueWords : List String := ["1", "t", "true", "y", "yes", "on"]

def falseWords : List String := ["0", "f", "false", "n", "no", "off"]

/-- A truth value: itself, one or zero, or one of the words for it. -/
def bool : Reader Bool := fun v =>
  match Wording.of v with
  | .text s =>
    let word := Text.lowerAscii s
    if trueWords.contains word then .ok true
    else if falseWords.contains word then .ok false
    else .wrong "bool_parsing"
  | .halved _ => .wrong "string_unicode"
  | .undecodable => .wrong "bool_parsing"
  | .other => match v.number? with
    | some (.int n) =>
      if -wordBound ≤ n ∧ n < wordBound then ofInt n else .wrong "bool_type"
    | some (.float x) => match (wholeOf x).toExcept with
      | .ok n => ofInt n
      | .error _ => .wrong "bool_type"
    | none => .wrong "bool_type"
where
  /-- The truth value that one and zero stand for. -/
  ofInt (n : Int) : Checked Bool :=
    if n = 1 then .ok true else if n = 0 then .ok false else .wrong "bool_parsing"

/-- A number of seconds. An integer and a double are taken as they are; anything else is read as an
integer if that is possible and as a double otherwise. Both readings report what they refuse. -/
def seconds : Reader Number := fun v =>
  let asInt := (nonNegativeInt v).under (.field "constrained-int")
  let asDouble := (nonNegativeDouble v).under (.field "constrained-float")
  match v, asInt.toExcept, asDouble.toExcept with
  -- A double stays a double even if it is whole.
  | .float _, _, .ok x | .undefined, _, .ok x => .ok (.float x)
  | _, .ok n, _ => .ok (.int n)
  | _, .error _, .ok x => .ok (.float x)
  | _, .error vs, .error ws => .broken (vs ++ ws)

/-- One of a set of names. -/
def oneOf (find? : String → Option α) : Reader α := fun v =>
  match Wording.of v with
  | .text s => match find? s with
    | some a => .ok a
    | none => .wrong "enum"
  | _ => .wrong "enum"

/-- Exactly one text. -/
def literal (expected : String) : Reader Unit
  | .text s => if s = expected then .ok () else .wrong "literal_error"
  | _ => .wrong "literal_error"

/-! ## Lists -/

/-- The values of the items, each at its place. -/
def itemsFrom (r : Reader α) : Nat → List Value → List (Checked α)
  | _, [] => []
  | n, v :: rest => (r v).under (.index n) :: itemsFrom r (n + 1) rest

def list (r : Reader α) : Reader (List α) := fun v =>
  match v.listed? with
  | some items => Checked.sequence (itemsFrom r 0 items)
  | none => .wrong "list_type"

/-- A list with at least so many items. -/
def listMin (least : Nat) (r : Reader α) : Reader (List α) := fun v =>
  (list r v).andThen fun as => if as.length < least then .wrong "too_short" else .ok as

/-- A list with exactly so many items. That there are too many is found before their faults. -/
def listOf (count : Nat) (r : Reader α) : Reader (List α) := fun v =>
  match v.listed? with
  | some items =>
    -- Counted before the items are read.
    if count < items.length then .wrong "too_long"
    else (Checked.sequence (itemsFrom r 0 items)).andThen fun as =>
      if as.length < count then .wrong "too_short" else .ok as
  | none => .wrong "list_type"

/-- A part of a pair, which must be there. -/
def part (r : Reader α) (n : Nat) (v : Option Value) : Checked α :=
  (match v with
    | some v => r v
    | none => .wrong "missing").under (.index n)

/-- A list of two. -/
def pair (r : Reader α) : Reader (α × α) := fun v =>
  match v.listed? with
  | some items =>
    if 2 < items.length then .wrong "too_long"
    else Prod.mk <$> part r 0 items[0]? <*> part r 1 items[1]?
  | none => .wrong "tuple_type"

/-! ## Objects -/

/-- The fields of a mapping whose keys are texts. -/
def fieldsIn (entries : List (Value × Value)) : Fields :=
  entries.filterMap fun e => e.1.text?.map (·, e.2)

/-- The place of a field in an object: under its name on the wire, else under its own name. -/
def lookup (fields : Fields) (wire own : String) : Option (String × Value) :=
  match fields.get? wire with
  | some v => some (wire, v)
  | none => (fields.get? own).map (own, ·)

/-- A field that must be there. -/
def required (fields : Fields) (wire own : String) (r : Reader α) : Checked α :=
  match lookup fields wire own with
  | some (key, v) => (r v).under (.field key)
  | none => (Checked.wrong "missing").under (.field wire)

/-- A field with a default. -/
def optional (fields : Fields) (wire own : String) (default : α) (r : Reader α) : Checked α :=
  match lookup fields wire own with
  | some (key, v) => (r v).under (.field key)
  | none => .ok default

/-- An object that may have any other fields. -/
def lenient (r : Fields → Checked α) : Reader α := fun v =>
  match v.entries? with
  | some entries => r (fieldsIn entries)
  | none => .wrong "model_type"

/-- What a key is shown as that has a half of a character in it: three signs for each half. -/
def maskHalves (s : String) : String :=
  String.ofList (s.toList.flatMap fun c =>
    if (Text.Half.code? c).isSome then List.replicate 3 '\ufffd' else [c])

/-- The step to the entry of a key. -/
def stepOf (key : Value) : Step :=
  match key, key.number? with
  | .text s, _ => .field (maskHalves s)
  | _, some (.int n) =>
    if -wordBound ≤ n ∧ n < wordBound then .index n else .field (toString n)
  | _, _ => .field key.quoted

/-- The violation that a key is for a strict object, unless the object knows it. -/
def unknownKey? (known : List String) (key : Value) : Option Violation :=
  match key with
  | .text s =>
    if known.contains s then none
    else some ⟨[stepOf key],
      .plain (if Text.Half.isIn s then "invalid_key" else "extra_forbidden")⟩
  | _ => some ⟨[stepOf key], .plain "invalid_key"⟩

/-- An object that may have the known fields only. Unknown ones are reported last. -/
def strict (known : List String) (r : Fields → Checked α) : Reader α := fun v =>
  match v.entries? with
  | some entries =>
    let extra : Checked Unit := match entries.filterMap fun e => unknownKey? known e.1 with
      | [] => .ok ()
      | vs => .broken vs
    (fun a _ => a) <$> r (fieldsIn entries) <*> extra
  | none => .wrong "model_type"

end Reader
end DetectionFlow
