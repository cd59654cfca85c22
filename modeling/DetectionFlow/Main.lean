import DetectionFlow.CommandLine
import DetectionFlow.Dialog.Terminal
import DetectionFlow.Identifier

/-!
# The program

Looks at the files and folders that the arguments name, lets `CommandLine.run` do the work, and
brings its outcome to the disk and to the terminal. Questions are asked line by line on standard
input: a run that found no answer to a question is begun anew with one answer more. There is no line
to a backend, so that requests go unanswered.
-/

namespace DetectionFlow
namespace Program

-- Powers are those of the core library, so that they are the same whatever is imported.
attribute [local instance (high)] instPowNat

/-! ## Looking -/

/-- A path and all paths above it, from the top down. -/
def wayTo (p : Path) : List Path :=
  (List.range (p.parts.length + 1)).map fun n => ⟨p.root, p.parts.take n⟩

/-- The paths that a run may follow. -/
def interests (folder home : Path) (a : Arguments) : List Path :=
  let named := [a.command.path?, a.graph, a.output, a.config].filterMap (·.map Path.ofString)
  (named ++ Files.settingsPaths ⟨folder, [], []⟩ home).flatMap wayTo

/-- The place of a path without steps upwards. -/
def place (folder p : Path) : Place :=
  (folder.join p).parts.foldl (fun at_ part =>
    if part = ".." then at_.dropLast else at_ ++ [part]) []

/-- The disk with what stands where a path leads to. -/
def look (d : Disk) (p : Path) : IO Disk := do
  let at_ := place d.folder p
  let file := (← IO.currentDir) / p.shown
  if ← file.isDir then
    return { d with made := d.made ++ [at_] }
  else if ← file.pathExists then
    try return { d with files := d.files ++ [(at_, (← IO.FS.readBinFile file).toList)] }
    catch _ => return d
  else return d

/-! ## Running -/

/-- A world without a backend, in which nothing was asked yet. -/
def world (args : List String) : IO World := do
  let folder := Path.ofString (toString (← IO.currentDir))
  let home := Path.ofString ((← IO.getEnv "HOME").getD "")
  let environment ← Settings.overriding.filterMapM fun (name, _) => do
    return (← IO.getEnv name).map (name, ·)
  let paths := match Arguments.parse args with
    | .ok (some a) => interests folder home a
    | _ => []
  let disk ← paths.foldlM look ⟨folder, [], []⟩
  let start ← IO.rand 0 (2 ^ Identifier.freeBits - 1)
  return ⟨disk, home, environment, .ofReplies [], .blank (Identifier.source start), .ofAnswers [],
    []⟩

def say (us : List Utterance) : IO Unit := do
  IO.print (String.join (us.map Utterance.shown))
  (← IO.getStdout).flush

/-- Runs on the answers so far, of which so much was shown already, and asks for one more as long as
one is missing. -/
partial def converse (args : List String) (w : World) (answers : List Answer) (shown : Nat) :
    IO (CommandLine.Ending × World) := do
  let (ending, after) := CommandLine.run args { w with operator := .ofAnswers answers }
  match after.operator.waiting? answers.length with
  | none =>
    say (after.operator.said.drop shown)
    return (ending, after)
  | some (said, q) =>
    say (said.drop shown)
    let line ← (← IO.getStdin).getLine
    if line.isEmpty then
      say (after.operator.said.drop said.length)
      return (ending, after)
    else
      let text := String.ofList (line.toList.filter (· ≠ '\n'))
      converse args w (answers ++ [.value (q.answer text)]) said.length

/-! ## Writing -/

/-- A place as a path from the root. -/
def absolute (at_ : Place) : String := "/" ++ String.intercalate "/" at_

/-- Makes the folders and writes the files that a run changed. -/
def store (before after : Disk) : IO Unit := do
  for folder in after.made.filter (!before.made.contains ·) do
    IO.FS.createDirAll (absolute folder)
  for (at_, bytes) in after.files.filter fun f => before.fileAt? f.1 != some f.2 do
    IO.FS.writeBinFile (absolute at_) (ByteArray.mk bytes.toArray)

/-- What is wrong with the arguments, or why a run ended before its time. -/
def complaint? (args : List String) (ending : CommandLine.Ending) : Option String :=
  match Arguments.parse args, ending with
  | .error e, _ => some e.message
  | .ok _, .exit _ => none
  | .ok _, .broken (.failure e) => some e.message
  | .ok _, .broken .interrupted => some "interrupted"

/-- The code that a run ends with. -/
def exitCode : CommandLine.Ending → UInt32
  | .exit code => code.toUInt32
  | .broken _ => CommandLine.failure.toUInt32

end Program
end DetectionFlow

/-- Runs the program on its arguments. -/
def main (args : List String) : IO UInt32 := do
  let before ← DetectionFlow.Program.world args
  let (ending, after) ← DetectionFlow.Program.converse args before [] 0
  DetectionFlow.Program.store before.disk after.disk
  for line in after.log do IO.eprintln line.shown
  for message in DetectionFlow.Program.complaint? args ending do IO.eprintln message
  return DetectionFlow.Program.exitCode ending
