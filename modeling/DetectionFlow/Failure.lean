import DetectionFlow.Kind
import DetectionFlow.Text.Utf8
import DetectionFlow.Value

/-!
# Failures

Every way in which an operation of the library can fail, one constructor per cause, and the words
for it. A `Fault` is about a single given value; the other types are about a graph, a record, a
file or an exchange with the backend. `Failure` joins them.
-/

namespace DetectionFlow

-- Powers are those of the core library, so that they are the same whatever is imported.
attribute [local instance (high)] instPowNat

/-! ## Faults of single values -/

/-- The families of faults, by what is wrong with the value. -/
inductive Family
  /-- A value of a kind that cannot be used here. -/
  | wrongType
  /-- A value of the right kind, but not one of those admitted. -/
  | wrongValue
  /-- A key that does not exist. -/
  | missingKey
  /-- A number beyond the range of doubles. -/
  | overflow
  /-- An operation that values of this kind lack. -/
  | missingOperation
  /-- Bytes that are no text. -/
  | badBytes
  /-- A text with half a character where only whole ones can be written. -/
  | halfCharacter
  /-- A text that is no JSON. -/
  | badJson
  /-- A position in a sequence that does not exist. -/
  | missingPlace
  /-- A way through a value that does not end, or not soon enough. -/
  | endless
  deriving DecidableEq

/-- Why a given value cannot be used. -/
inductive Fault
  /-- Neither a number nor a text. -/
  | notNumeric (typeName : String)
  /-- A text, or bytes, that are no numeral. -/
  | badNumeral (v : Value)
  /-- An integer that no double is near to. -/
  | tooLarge
  /-- A value that does not run through other values. -/
  | notIterable (typeName : String)
  /-- A sequence of another length than the two coordinates of a point. -/
  | notPair (count : Nat)
  /-- A list or mapping where a key is needed. -/
  | noKey (typeName : String)
  /-- No kind of node. -/
  | unknownKind (v : Value)
  /-- No crossing direction. -/
  | unknownDirection (v : Value)
  /-- A payload field that the kind does not have. -/
  | unknownField (name : String)
  /-- A sensor binding without one of its fields. -/
  | missingField (name : String)
  /-- A payload field with the name of an argument of its own, or with a name that is no text. -/
  | badFieldName
  /-- Values that have no order. -/
  | unordered
  /-- A truth value where a number is needed. -/
  | expectedNumber (v : Value)
  /-- No finite number. -/
  | expectedFinite (v : Value)
  /-- A value that JSON does not have. -/
  | unwritable (typeName : String)
  /-- A value that holds itself and would be written without end. -/
  | circular
  /-- A value that holds itself and would be copied without end, or one that is too deep. -/
  | endless
  /-- A value that cannot be laid out as a number. -/
  | noLayout (v : Value)
  /-- A node kind that is never written. -/
  | noRecord (kind : Kind)
  /-- A template area that is neither Zone nor Line. -/
  | badArea (kind : Kind)
  /-- A template that does not exist; the known ones follow. -/
  | unknownTemplate (name : String) (known : List String)
  /-- A part of a point list that is not two texts around a comma. -/
  | badPoint (part : String)
  /-- A point outside the frame. -/
  | outsideFrame (x y : Double)
  /-- A key that a mapping lacks. -/
  | absentKey (key : String)
  /-- An entry of a list that is not there. -/
  | absentEntry
  /-- A position that has no first part. -/
  | absentPlace
  /-- A value without fields where fields are needed. -/
  | noFields (typeName : String)
  /-- Bytes that are no text. -/
  | badEncoding (r : Text.Utf8.Refusal)
  /-- A key with half a character in it. -/
  | halvedKey (key : String)
  /-- A text that is no JSON. -/
  | badJson
  /-- A numeral of an integer with too many digits. -/
  | tooManyDigits (count : Nat)
  /-- An integer whose numeral would have too many digits. -/
  | longInteger
  /-- A text that denotes no integer in a base. -/
  | badInteger (base : Nat) (digits : String)
  /-- A date or a time that does not exist, by the first part of it that is wrong. -/
  | impossibleDate (part : DatePart)
  /-- A clock that is ahead or behind by a day or more, in minutes. -/
  | farOffset (minutes : Int)
  /-- A code beyond those of all characters. -/
  | badCode (code : Nat)
  /-- A value that is no text. -/
  | noText (typeName : String)
  /-- A value whose parts cannot be replaced. -/
  | noReplacement (typeName : String)
  /-- An alarm text that is JSON, but no list. -/
  | notBindingList
  /-- An entry of an alarm text that is no binding, because of another fault. -/
  | badBinding (why : String)

namespace Fault

/-- The codes that are compared with those of characters at all. -/
def codeRange : Nat := 2 ^ (31 : Nat)

def family : Fault → Family
  | notNumeric _ | notIterable _ | noKey _ | unknownField _ | missingField _ | badFieldName
  | unordered | expectedNumber _ | unwritable _ | noReplacement _ | noText _ => .wrongType
  | noLayout v => match v with
    | .text _ => .wrongValue
    | _ => .wrongType
  | badNumeral _ | notPair _ | unknownKind _ | unknownDirection _ | expectedFinite _ | noRecord _
  | badArea _ | badPoint _ | outsideFrame .. | absentEntry | tooManyDigits _ | longInteger
  | badInteger .. | impossibleDate _ | farOffset _ | notBindingList | badBinding _ | circular =>
    .wrongValue
  -- Codes that do not even fit a machine word of 32 bits with a sign are a matter of range.
  | badCode code => if code < codeRange then .wrongValue else .overflow
  | endless => .endless
  | unknownTemplate .. | absentKey _ => .missingKey
  | tooLarge => .overflow
  | noFields _ => .missingOperation
  | badEncoding _ => .badBytes
  | halvedKey _ => .halfCharacter
  | badJson => .badJson
  | absentPlace => .missingPlace

/-- Which bytes are no text, and why. -/
def encodingMessage (r : Text.Utf8.Refusal) : String :=
  "'utf-8' codec can't decode " ++
    (match r.bytes with
    | [b] => "byte 0x" ++ String.ofList (Text.hexDigits 2 b.toNat) ++ " in position " ++
        toString r.place
    | bytes => "bytes in position " ++ toString r.place ++ "-" ++
        toString (r.place + bytes.length - 1)) ++
    ": " ++ r.defect.message

/-- Which characters of a text are halves, as far as they follow each other from the first on. -/
def halvesMessage (s : String) : String :=
  let before := s.toList.takeWhile fun c => (Text.Half.code? c).isNone
  let halves := (s.toList.drop before.length).takeWhile fun c => (Text.Half.code? c).isSome
  "'utf-8' codec can't encode " ++
    (match halves with
    | [c] => "character '" ++ String.ofList (Text.quotedCode c) ++ "' in position " ++
        toString before.length
    | _ => "characters in position " ++ toString before.length ++ "-" ++
        toString (before.length + halves.length - 1)) ++
    ": surrogates not allowed"

/-- The most characters of a text that is no integer that a message quotes. -/
def longestQuote : Nat := 200

/-- The most digits of an integer that are read or written. -/
def digitLimit : Nat := 4300

/-- The integer has more digits than are written. -/
def isLong (n : Int) : Bool := 10 ^ digitLimit ≤ n.natAbs

/-- What is wrong, in words. -/
def message : Fault → String
  | notNumeric name => "float() argument must be a string or a real number, not '" ++ name ++ "'"
  | badNumeral v => "could not convert string to float: " ++ v.quoted
  | tooLarge => "int too large to convert to float"
  | notIterable name => "'" ++ name ++ "' object is not iterable"
  | notPair count =>
    if 2 < count then "too many values to unpack (expected 2)"
    else "not enough values to unpack (expected 2, got " ++ toString count ++ ")"
  | noKey name => "unhashable type: '" ++ name ++ "'"
  | unknownKind v => v.quoted ++ " is not a valid kind"
  | unknownDirection v => v.quoted ++ " is not a valid Direction"
  | unknownField name => "unexpected field " ++ Text.quoted name
  | missingField name => "missing field " ++ Text.quoted name
  | badFieldName => "unusable field name"
  | unordered => "values without an order"
  | expectedNumber v => "expected a number, got " ++ v.quoted
  | expectedFinite v => "expected a finite number, got " ++ v.quoted
  | unwritable name => "Object of type " ++ name ++ " is not JSON serializable"
  | circular => "Circular reference detected"
  | endless => "maximum recursion depth exceeded"
  | noLayout v => "Unknown format code 'g' for object of type '" ++ v.typeName ++ "'"
  | noRecord kind => kind.title ++ " nodes have no wire record"
  | badArea kind => "Area must be Zone or Line, got " ++ kind.title
  | unknownTemplate name known =>
    "Unknown template: '" ++ name ++ "'. Available: " ++ String.intercalate ", " known
  | badPoint part => "'" ++ part ++ "' is not an x,y pair"
  | outsideFrame x y =>
    "(" ++ Layout.plain.render x ++ ", " ++ Layout.plain.render y ++ ") is outside 0-1"
  | absentKey key => Text.quoted key
  | absentEntry => "no such entry"
  | absentPlace => "tuple index out of range"
  | noFields name => "'" ++ name ++ "' object has no fields"
  | badEncoding r => encodingMessage r
  | halvedKey key => halvesMessage key
  | badJson => "invalid JSON"
  | tooManyDigits count =>
    "Exceeds the limit (" ++ toString digitLimit ++ " digits) for integer string conversion: " ++
      "value has " ++ toString count ++ " digits; use sys.set_int_max_str_digits() to increase " ++
      "the limit"
  | longInteger =>
    "Exceeds the limit (" ++ toString digitLimit ++ " digits) for integer string conversion; " ++
      "use sys.set_int_max_str_digits() to increase the limit"
  | badInteger base digits =>
    "invalid literal for int() with base " ++ toString base ++ ": " ++
      String.ofList ((Text.quoted digits).toList.take longestQuote)
  | impossibleDate part => part.message
  | farOffset minutes =>
    "offset must be a timedelta strictly between -timedelta(hours=24) and timedelta(hours=24), " ++
      "not " ++ Moment.spanQuoted minutes ++ "."
  | badCode code =>
    if code < codeRange then "chr() arg not in range(0x110000)"
    else "code beyond all characters"
  | noText name => "expected string or bytes-like object, got '" ++ name ++ "'"
  | noReplacement name => "'" ++ name ++ "' object does not support item assignment"
  | notBindingList => "ext must be a JSON array"
  | badBinding why => "malformed sensor binding" ++ why

/-- The words are the library's own and part of what it promises. -/
def isStated : Fault → Bool
  | expectedNumber _ | expectedFinite _ | noRecord _ | badArea _ | unknownTemplate .. | badPoint _
  | outsideFrame .. | notBindingList | badBinding _ => true
  | _ => false

end Fault

/-! ## Violations of a schema -/

/-- One step of the path to a part of a value. -/
inductive Step
  | field (name : String)
  | index (n : Int)

/-- What is wrong with a part of a value. -/
inductive Violation.Reason
  /-- A reason that its name says in full, such as `missing` or `string_type`. -/
  | plain (name : String)
  /-- A rule of the schema, with its words. -/
  | rule (message : String)

/-- A part of a value that breaks a schema. -/
structure Violation where
  path : List Step
  reason : Violation.Reason

/-- How many violations there are, in words. -/
def violationCount (vs : List Violation) : String :=
  toString vs.length ++ (if vs.length = 1 then " validation error" else " validation errors")

/-! ## Failures of parts of the program -/

/-- A change that would break the rules of a graph. -/
inductive GraphError
  | duplicateNode (id : String)
  | unknownNode (id : String)
  | duplicateEdge (id : String)
  | unknownEdge (id : String)
  | selfLoop (id : String)
  | noOutput (kind : Kind)
  | noInput (kind : Kind)
  | invalidFields (kind : Kind)
  deriving DecidableEq

def GraphError.message : GraphError → String
  | duplicateNode id => "Duplicate node id: '" ++ id ++ "'"
  | unknownNode id => "Unknown node: '" ++ id ++ "'"
  | duplicateEdge id => "Duplicate edge id: '" ++ id ++ "'"
  | unknownEdge id => "Unknown edge: '" ++ id ++ "'"
  | selfLoop id => "Cannot connect node '" ++ id ++ "' to itself"
  | noOutput kind => kind.title ++ " nodes have no output"
  | noInput kind => kind.title ++ " nodes have no input"
  | invalidFields kind => "Invalid fields for " ++ kind.title

/-- A node whose payload is no valid record. -/
structure CompileError where
  label : String
  id : String
  violations : List Violation

def CompileError.message (e : CompileError) : String :=
  e.label ++ " (" ++ e.id ++ "): " ++ violationCount e.violations

/-- A file that cannot be used. -/
inductive ConfigError
  | settingsMissing (path : String)
  | invalidYaml (path : String)
  | unreadable (path : String)
  | settingsNotMapping (typeName : String)
  | invalidSettings (path : Option String) (violations : List Violation)
  | graphNotMapping (path : String)
  | invalidDocument (path : String) (violations : List Violation)
  | impossibleGraph (path : String) (error : GraphError)
  | payloadUnreadable (path : String)
  | payloadShape (path : String)

namespace ConfigError

def message : ConfigError → String
  | settingsMissing path => "Specified settings file not found: " ++ path
  | invalidYaml path => "Invalid YAML in " ++ path
  | unreadable path => "Cannot read " ++ path
  | settingsNotMapping name => "Settings must be a mapping, got " ++ name
  | invalidSettings path vs =>
    "Invalid settings" ++ (match path with | some p => " in " ++ p | none => "") ++ ": " ++
      violationCount vs
  | graphNotMapping path => path ++ ": graph document must be a mapping"
  | invalidDocument path vs => path ++ ": invalid graph document: " ++ violationCount vs
  | impossibleGraph path error => path ++ ": " ++ error.message
  | payloadUnreadable path => "Cannot read settings payload " ++ path
  | payloadShape path =>
    path ++ ": expected a configs array, an object with 'configs', " ++
      "or an inference record with 'settings'"

def violations : ConfigError → List Violation
  | invalidSettings _ vs | invalidDocument _ vs => vs
  | _ => []

end ConfigError

/-- A change on the disk that is impossible because of what stands there. -/
inductive DiskError
  /-- There is nothing. -/
  | absent
  /-- A file stands where a folder is needed. -/
  | notFolder
  /-- A folder stands where a file is needed. -/
  | isFolder
  /-- A file stands where a folder should be made. -/
  | taken
  /-- A path, or a name in it, is longer than names are. -/
  | tooLong
  /-- A path holds the character that ends texts. -/
  | nullCharacter
  deriving DecidableEq

def DiskError.message : DiskError → String
  | absent => "no such file or folder"
  | notFolder => "not a folder"
  | isFolder => "is a folder"
  | taken => "exists already"
  | tooLong => "name too long"
  | nullCharacter => "embedded null byte"

/-- An exchange with the backend that gave no usable answer. -/
inductive BackendError
  | transport (request : String) (reason : String)
  | status (request : String) (code : Int) (body : String)
  | invalidJson (request : String)
  | inferenceNotArray (typeName : String)
  | malformedInference (violations : List Violation)
  | appNotObject (typeName : String)
  | malformedApp (violations : List Violation)
  | answerNotObject (typeName : String)
  | malformedAnswer (violations : List Violation)
  /-- An answer that is too deep to be read. -/
  | fault (f : Fault)

namespace BackendError

/-- The most characters of an answer that a message quotes. -/
def quotedLength : Nat := 200

def message : BackendError → String
  | transport request reason => request ++ " failed: " ++ reason
  | status request code body =>
    request ++ " returned " ++ toString code ++ ": " ++
      String.ofList (body.toList.take quotedLength)
  | invalidJson request => request ++ " returned invalid JSON"
  | inferenceNotArray name => "Malformed inference list: expected an array, got " ++ name
  | malformedInference vs => "Malformed inference record: " ++ violationCount vs
  | appNotObject name => "Malformed app record: expected an object, got " ++ name
  | malformedApp vs => "Malformed app record: " ++ violationCount vs
  | answerNotObject name => "Malformed save response: expected an object, got " ++ name
  | malformedAnswer vs => "Malformed save response: " ++ violationCount vs
  | fault f => f.message

def violations : BackendError → List Violation
  | malformedInference vs | malformedApp vs | malformedAnswer vs => vs
  | _ => []

end BackendError

/-! ## All failures -/

/-- Why an operation failed. -/
inductive Failure
  | fault (f : Fault)
  | schema (violations : List Violation)
  | graph (e : GraphError)
  | compile (e : CompileError)
  | config (e : ConfigError)
  | disk (e : DiskError)
  | backend (e : BackendError)
  /-- The backend did not take new settings. -/
  | save (e : BackendError)

namespace Failure

def message : Failure → String
  | fault f => f.message
  | schema vs => violationCount vs
  | graph e => e.message
  | compile e => e.message
  | config e => e.message
  | disk e => e.message
  | backend e | save e => e.message

/-- The violations that a failure reports. -/
def violations : Failure → List Violation
  | schema vs => vs
  | compile e => e.violations
  | config e => e.violations
  | backend e | save e => e.violations
  | fault _ | graph _ | disk _ => []

end Failure
end DetectionFlow
