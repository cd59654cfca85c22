import DetectionFlow.Failure

/-!
# Dialogs

Questions to an operator, and what is said in answer. A dialog runs on the answers that are still to
come; a question takes one after the other until one is accepted, and all that was printed, asked
and answered is kept in order. An operator who says nothing more has cancelled the question.

Main functions: `Dialog.print` and `Dialog.ask`.
-/

namespace DetectionFlow

/-! ## Questions -/

/-- Something to choose. -/
inductive Choice
  /-- A word that is shown as it is. -/
  | word (s : String)
  /-- A value under a title; it may be shown without being on offer, and it may be chosen from the
  start. -/
  | titled (title : String) (value : Value) (disabled : Option String) (checked : Bool)

namespace Choice

/-- A value under a title, on offer and not chosen yet. -/
def of (title : String) (value : Value) : Choice := titled title value none false

/-- A text that is its own title. -/
def ofText (s : String) : Choice := of s (.text s)

/-- An answer is the value of this choice, and the choice is on offer. -/
def isMeantBy (c : Choice) (answer : Value) : Bool :=
  match c, answer with
  | word s, .text t => s = t
  | titled _ (.text s) none _, .text t => s = t
  | titled _ (.int m) none _, .int n => m = n
  | _, _ => false

end Choice

/-- A question. -/
inductive Question
  /-- One of several choices. -/
  | select (message : String) (choices : List Choice) (default : Value)
  /-- Any of several choices. -/
  | checkbox (message : String) (choices : List Choice)
  /-- A text, with the words that it is refused in. -/
  | text (message : String) (default : Value) (complaint : String → Option String)
  /-- Yes or no. -/
  | confirm (message : String) (default : Bool)

namespace Question

/-- The words for an answer that is none of the choices. -/
def notChoice : String := "not a choice"

/-- Why an answer is refused, if it is. -/
def refusal? (q : Question) (answer : Value) : Option String :=
  match q, answer with
  | select _ choices _, v => if choices.any (·.isMeantBy v) then none else some notChoice
  | checkbox _ choices, .list vs =>
    if vs.all fun v => choices.any (·.isMeantBy v) then none else some notChoice
  | checkbox .., _ => some notChoice
  | text _ _ complaint, .text s => complaint s
  | text .., _ => some "not a text"
  | confirm .., .bool _ => none
  | confirm .., _ => some "not a boolean"

end Question

/-! ## What is said -/

/-- What an operator says. -/
inductive Answer
  | value (v : Value)
  | cancel
  /-- The operator wants to end the program. -/
  | interrupt

/-- One thing in the course of a dialog. -/
inductive Utterance
  | printed (s : String)
  | asked (q : Question)
  /-- The answer to the question before; none if it was cancelled. -/
  | answered (v : Option Value)
  | refused (v : Value) (why : String)

/-- An operator: the answers to come, and what was said so far. -/
structure Operator where
  answers : List Answer
  said : List Utterance

namespace Operator

def ofAnswers (answers : List Answer) : Operator := ⟨answers, []⟩

/-- Prints a text. Texts without a question between them are one. -/
def print (o : Operator) (s : String) : Operator :=
  match o.said.getLast? with
  | some (.printed before) => { o with said := o.said.dropLast ++ [.printed (before ++ s)] }
  | _ => { o with said := o.said ++ [.printed s] }

/-- All that was printed. -/
def printed (o : Operator) : String :=
  String.join (o.said.filterMap fun u => match u with
    | .printed s => some s
    | _ => none)

end Operator

/-! ## The course of a dialog -/

/-- Why something came to an end before its time. -/
inductive Stop
  | failure (e : Failure)
  | interrupted

/-- Something done with an operator. -/
abbrev Dialog := ExceptT Stop (StateM Operator)

namespace Dialog

/-- Prints a line. -/
def print (line : String) : Dialog Unit := do
  modifyThe Operator (·.print (line ++ "\n"))

def ofFault (x : Except Fault α) : Dialog α :=
  match x with
  | .ok a => pure a
  | .error f => throw (.failure (.fault f))

/-- What comes of a question. -/
inductive Outcome
  | given (v : Value)
  | cancelled
  | interrupted

/-- Goes through the answers until one settles a question: what was said, the answers that are left,
and what came of it. -/
def settle (q : Question) : List Answer → List Utterance × List Answer × Outcome
  | [] => ([.answered none], [], .cancelled)
  | .cancel :: rest => ([.answered none], rest, .cancelled)
  | .interrupt :: rest => ([], rest, .interrupted)
  | .value v :: rest =>
    match q.refusal? v with
    | none => ([.answered (some v)], rest, .given v)
    -- The question stays open, and the next answer is tried.
    | some why =>
      let (said, rest, outcome) := settle q rest
      (.refused v why :: said, rest, outcome)

/-- Asks a question; nothing if it is cancelled. -/
def ask (q : Question) : Dialog (Option Value) := do
  let o ← getThe Operator
  let (said, rest, outcome) := settle q o.answers
  set (σ := Operator) ⟨rest, o.said ++ [.asked q] ++ said⟩
  match outcome with
  | .given v => return some v
  | .cancelled => return none
  | .interrupted => throw .interrupted

/-- Asks for one of several texts. -/
def askSelect (message : String) (choices : List Choice) (default : Value) :
    Dialog (Option Value) := ask (.select message choices default)

/-- Asks for one of several values that are texts. -/
def askOne (message : String) (choices : List Choice) : Dialog (Option String) := do
  return (← ask (.select message choices .null)).bind Value.text?

/-- Asks for any of several texts. -/
def askAny (message : String) (choices : List Choice) : Dialog (Option (List Value)) := do
  return (← ask (.checkbox message choices)).map fun v => v.items?.getD []

/-- Asks for a text. -/
def askText (message : String) (default : Value) (complaint : String → Option String) :
    Dialog (Option String) := do
  return (← ask (.text message default complaint)).bind Value.text?

/-- Asks yes or no. -/
def askConfirm (message : String) (default : Bool) : Dialog (Option Bool) := do
  return (← ask (.confirm message default)).map Value.isTruthy

/-- How many answers are still to come. A repetition that asks at least one question each time is
over after so many rounds. -/
def rounds : Dialog Nat := do
  return (← getThe Operator).answers.length + 1

end Dialog

/-! ## Colours -/

/-- The looks of a text on a terminal. -/
inductive Look
  | cyan
  | green
  | yellow
  | red
  | grey
  | bold
  deriving DecidableEq

namespace Look

def code : Look → String
  | cyan => "\x1b[0;36m"
  | green => "\x1b[0;32m"
  | yellow => "\x1b[0;33m"
  | red => "\x1b[0;31m"
  | grey => "\x1b[0;90m"
  | bold => "\x1b[1m"

/-- The end of all looks. -/
def off : String := "\x1b[0m"

/-- A text with a look. -/
def paint (l : Look) (s : String) : String := l.code ++ s ++ off

end Look
end DetectionFlow
