import DetectionFlow.Dialog
import DetectionFlow.Text.Blank
import DetectionFlow.Text.Split

/-!
# Dialogs on a terminal

How questions look where only lines of text can be read, and what a line means as an answer. Choices
are numbered from one. A dialog that ran on too few answers is shown up to the question that found
none.

Main functions: `Question.lines`, `Question.answer` and `Operator.waiting?`.
-/

namespace DetectionFlow

/-! ## Questions -/

namespace Choice

/-- The line of a choice. -/
def line (number : Nat) (c : Choice) : String :=
  "  " ++ toString number ++ ". " ++ match c with
    | word s => s
    | titled title _ disabled checked =>
      title ++ (if checked then " *" else "") ++
        (match disabled with | some why => " (" ++ why ++ ")" | none => "")

def value : Choice → Value
  | word s => .text s
  | titled _ v _ _ => v

end Choice

namespace Question

def choiceLines (cs : List Choice) : List String :=
  cs.mapIdx fun i c => c.line (i + 1)

/-- The lines that show a question. -/
def lines : Question → List String
  | select message choices _ | checkbox message choices => message :: choiceLines choices
  | text message default _ =>
    [if default.isTruthy then message ++ " [" ++ default.shown ++ "]" else message]
  | confirm message default => [message ++ (if default then " [Y/n]" else " [y/N]")]

/-- The value of a numbered choice; a number that no choice has stands for itself. -/
def chosen (choices : List Choice) (s : String) : Value :=
  match (Text.trimText s).toNat? with
  | some (n + 1) => ((choices[n]?).map Choice.value).getD (.text s)
  | _ => .text s

/-- The answer that a line means. -/
def answer (q : Question) (line : String) : Value :=
  match q with
  | select _ choices _ => chosen choices line
  | checkbox _ choices =>
    .list (((Text.splitAt ',' line.toList).map String.ofList
      |>.filter fun s => Text.trimText s ≠ "").map (chosen choices))
  | text _ default _ => if line.isEmpty && default.isTruthy then default else .text line
  | confirm _ default =>
    match Text.lowerAscii (Text.trimText line) with
    | "" => .bool default
    | "y" | "yes" => .bool true
    | "n" | "no" => .bool false
    | _ => .text line

end Question

/-! ## What was said -/

/-- A part of a dialog as it is shown; answers were seen when they were given. -/
def Utterance.shown : Utterance → String
  | printed s => s
  | asked q => String.join (q.lines.map (· ++ "\n"))
  | answered _ => ""
  | refused _ why => why ++ "\n"

namespace Operator

/-- What was said up to the first question that found no answer left, with this question. -/
def waitingAfter (said : List Utterance) (q : Option Question) (answers : Nat) :
    List Utterance → Option (List Utterance × Question)
  | [] => none
  | .printed s :: rest => waitingAfter (said ++ [.printed s]) q answers rest
  | .asked q :: rest => waitingAfter (said ++ [.asked q]) (some q) answers rest
  | u :: rest =>
    match answers, q with
    | 0, some q => some (said, q)
    | 0, none => none
    | n + 1, _ => waitingAfter (said ++ [u]) q n rest

/-- What was said up to the first question that found none of so many answers left, with this
question. -/
def waiting? (o : Operator) (answers : Nat) : Option (List Utterance × Question) :=
  waitingAfter [] none answers o.said

end Operator
end DetectionFlow
