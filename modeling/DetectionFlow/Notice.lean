import DetectionFlow.Failure

/-!
# Notices

What the program tells an operator beside its result: information that is lost on the way, records
that were left out, settings that were not taken. A `Noted` computation carries the notices that it
gave, also when it fails.
-/

namespace DetectionFlow

/-- The part of the program that gives a notice. -/
inductive Source
  | compiler
  | resolver
  | restorer
  | client
  | commandLine
  deriving DecidableEq

/-- The name of a part in the log. -/
def Source.name : Source → String
  | compiler => "ep.compiler.forward"
  | resolver => "ep.compiler.resolver"
  | restorer => "ep.compiler.reverse"
  | client => "ep.client.api"
  | commandLine => "ep.cli"

/-- A notice. -/
inductive Notice
  /-- A node that several stages feed, of which a record can name one. -/
  | extraFeeders (label : String) (count : Nat)
  /-- Object nodes, which no record stands for. -/
  | objectsNotSaved (count : Nat)
  /-- A node whose detection target is sought along a cycle. -/
  | cycleAbove (id : String)
  /-- A saved entry that is no object. -/
  | notObject (v : Value)
  /-- A saved record of a type that no node stands for. -/
  | unmapped (id : String) (type : Value)
  /-- A saved record that breaks the schema. -/
  | invalid (id : String) (type : Value) (violations : List Violation)
  /-- A saved record with the identifier of an earlier one. -/
  | duplicate (id : String)
  /-- A saved record below one that has no output. -/
  | closedParent (id parent : String) (kind : Kind)
  /-- A saved record that no place was found for. -/
  | neverPlaced (id parent : String)
  /-- A saved alarm whose bindings cannot be read. -/
  | unreadableExt (id why : String)
  /-- A saved record below one that is connected to another already. -/
  | severalChildren (parent last : String)
  /-- Saved areas with a target, whose Object nodes are gone. -/
  | targetsWithoutObjects (count : Nat)
  /-- Settings that the compositor did not take. -/
  | notAccepted (reason : Option String)
  /-- Saved records that are missing from a restored graph. -/
  | recordsLost (dropped unplaced : Nat)

namespace Notice

def source : Notice → Source
  | extraFeeders .. | objectsNotSaved _ => .compiler
  | cycleAbove _ => .resolver
  | notObject _ | unmapped .. | invalid .. | duplicate _ | closedParent .. | neverPlaced ..
  | unreadableExt .. | severalChildren .. | targetsWithoutObjects _ => .restorer
  | notAccepted _ => .client
  | recordsLost .. => .commandLine

def message : Notice → String
  | extraFeeders label count =>
    label ++ ": " ++ toString count ++
      " upstream stages, only the first is recorded as parent"
  | objectsNotSaved count =>
    toString count ++ " Object node(s) are not saved; their classes survive only as " ++
      "Zone/Line targets and the Object nodes will be missing after reload"
  | cycleAbove id => "Cycle above node " ++ id ++ "; target left unresolved"
  | notObject v => "Skipping non-object config entry: " ++ v.quoted
  | unmapped id type => id ++ ": unmapped eventType '" ++ type.shown ++ "', dropped"
  | invalid id type vs =>
    id ++ ": invalid " ++ type.shown ++ " record, dropped: " ++ violationCount vs
  | duplicate id => "Duplicate eventSettingId " ++ id ++ ", skipped"
  | closedParent id parent kind =>
    id ++ ": parent " ++ parent ++ " is a " ++ kind.title ++
      " and has no output, treated as root"
  | neverPlaced id parent => id ++ ": parent " ++ parent ++ " never placed, record lost"
  | unreadableExt id why => id ++ ": unreadable alarm ext (" ++ why ++ "); bindings cleared"
  | severalChildren parent last =>
    parent ++ ": several child records, only the last (" ++ last ++ ") stays connected"
  | targetsWithoutObjects count =>
    toString count ++ " Zone/Line record(s) carry a target but their Object nodes " ++
      "cannot be reconstructed"
  | notAccepted reason =>
    "Compositor did not accept settings: " ++ reason.getD "None"
  | recordsLost dropped unplaced =>
    toString dropped ++ " record(s) dropped, " ++ toString unplaced ++ " unplaced"

/-- The notice concerns the shape of a restored graph, and is handed to the operator with it. -/
def isWarning : Notice → Bool
  | closedParent .. | unreadableExt .. | severalChildren .. | targetsWithoutObjects _ => true
  | _ => false

end Notice

/-- A result or a failure, with the notices given until then. -/
structure Noted (α : Type) where
  notices : List Notice
  result : Except Failure α

namespace Noted

def done (a : α) : Noted α := ⟨[], .ok a⟩

def fail (e : Failure) : Noted α := ⟨[], .error e⟩

/-- A notice and nothing else. -/
def tell (n : Notice) : Noted Unit := ⟨[n], .ok ()⟩

def tellAll (ns : List Notice) : Noted Unit := ⟨ns, .ok ()⟩

def ofResult (notices : List Notice) (r : Except Failure α) : Noted α := ⟨notices, r⟩

def andThen (m : Noted α) (f : α → Noted β) : Noted β :=
  match m.result with
  | .error e => ⟨m.notices, .error e⟩
  | .ok a =>
    let second := f a
    ⟨m.notices ++ second.notices, second.result⟩

instance : Monad Noted where
  pure := done
  bind := andThen

def ofFault (x : Except Fault α) : Noted α :=
  match x with
  | .ok a => done a
  | .error f => fail (.fault f)

end Noted
end DetectionFlow
