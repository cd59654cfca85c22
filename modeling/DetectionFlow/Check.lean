import DetectionFlow.Advice
import DetectionFlow.Compiled

/-!
# Checking a graph

A graph is checked by its advice and by a trial compilation. Warnings stay warnings; a node that
cannot be compiled is an error, because saving would fail on it.
-/

namespace DetectionFlow

/-- What compilation of a graph would give. -/
structure Summary where
  records : Nat
  /-- The labels of the nodes without a record. -/
  elided : List String
  /-- How many records have no parent. -/
  roots : Nat
  deriving DecidableEq

/-- The outcome of a check. -/
structure CheckReport where
  errors : List String
  warnings : List String
  /-- What compilation gives, if it succeeds. -/
  summary : Option Summary
  deriving DecidableEq

/-- Nothing was found that saving would fail on. -/
def CheckReport.isValid (r : CheckReport) : Bool := r.errors.isEmpty

namespace Graph

/-- The warning about a graph without nodes. -/
def emptyWarning : String := "Graph is empty - nothing will be saved"

/-- The summary of a compiled graph. -/
def summarise (g : Graph) (c : Compiled) : Summary :=
  ⟨c.settings.records.length, c.elided.map g.labelOf,
    (c.settings.records.filter (·.parent.isNone)).length⟩

/-- The warnings of a check: of the graph as a whole, then of its nodes by label. -/
def checkWarnings (g : Graph) (ws : Advice.Warnings) : List String :=
  (if g.nodes.isEmpty then [emptyWarning] else []) ++
    (Advice.active ws).map fun w => g.labelOf w.1 ++ ": " ++ w.2

/-- Checks a graph. -/
def check (g : Graph) : Noted CheckReport := do
  -- The advice runs first: a rule that cannot be applied ends the check.
  let ws ← Noted.ofFault (Advice.warnings g)
  let warnings := g.checkWarnings ws
  match g.compile with
  | .ok c =>
    Noted.tellAll g.compileNotices
    return ⟨[], warnings, some (g.summarise c)⟩
  | .error (.compile e) =>
    Noted.tellAll g.compileNotices
    return ⟨[e.message], warnings, none⟩
  | .error e =>
    Noted.tellAll g.compileNotices
    Noted.fail e

end Graph

/-! ## The report in words -/

namespace CheckReport

/-- The line below a heading. -/
def rule : String := String.ofList (List.replicate 60 '=')

/-- A heading with marked lines below it, if there are any. -/
def listing (heading mark : String) (lines : List String) : List String :=
  if lines.isEmpty then [] else "" :: heading :: lines.map fun l => "  " ++ mark ++ " " ++ l

/-- The lines about what compilation gives. -/
def summaryLines (s : Summary) : List String :=
  ["", "Derived:", "  Records: " ++ toString s.records, "  Root records: " ++ toString s.roots] ++
    if s.elided.isEmpty then [] else ["  Not saved: " ++ String.intercalate ", " s.elided]

/-- The report in lines. -/
def lines (r : CheckReport) : List String :=
  ["", "Pipeline Validation", rule, "",
    if r.isValid then "✓ Pipeline compiles" else "✗ Pipeline has errors"] ++
  listing "Errors:" "✗" r.errors ++
  listing "Warnings:" "!" r.warnings ++
  (match r.isValid, r.summary with
    | true, some s => summaryLines s
    | _, _ => []) ++ [""]

/-- Lines as a text that ends with a line break. -/
def ofLines (ls : List String) : String := String.join (ls.map (· ++ "\n"))

/-- The report as it is printed. -/
def text (r : CheckReport) : String := ofLines r.lines

end CheckReport
end DetectionFlow
