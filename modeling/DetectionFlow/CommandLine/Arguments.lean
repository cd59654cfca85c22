import DetectionFlow.Text.Blank
import DetectionFlow.Text.Split

/-!
# Arguments

What the program is asked to do. Exactly one command has to be given; everything else are options.
A long option may be cut short as long as only one option begins so, and its value may follow after
an equals sign; a short option may have its value attached. What is left over is refused.

Main function: `Arguments.parse`.
-/

namespace DetectionFlow

/-! ## Options -/

/-- The options by what they mean. -/
inductive Flag
  | help
  | validate
  | plan
  | compile
  | decompile
  | template
  | load
  | save
  | build
  | area
  | graph
  | app
  | video
  | output
  | quiet
  | config
  deriving DecidableEq, Repr

namespace Flag

/-- The spellings of all options. -/
def spellings : List (String × Flag) :=
  [("-h", help), ("--help", help), ("--validate", validate), ("--plan", plan),
   ("--compile", compile), ("--decompile", decompile), ("--template", template), ("--load", load),
   ("--save", save), ("--build", build), ("--area", area), ("--graph", graph), ("--app", app),
   ("--video", video), ("-o", output), ("--output", output), ("-q", quiet), ("--quiet", quiet),
   ("-c", config), ("--config", config)]

/-- The longest spelling of an option. -/
def spelling (f : Flag) : String :=
  ((spellings.reverse.find? (·.2 = f)).map (·.1)).getD ""

/-- How many values an option takes. -/
inductive Arity
  | none
  | one
  /-- One value, or none. -/
  | optional
  deriving DecidableEq

def arity : Flag → Arity
  | help | load | quiet => .none
  | build => .optional
  | _ => .one

/-- One of the options of which exactly one must be given. -/
def isCommand : Flag → Bool
  | validate | plan | compile | decompile | template | load | save | build => true
  | _ => false

/-- A value that the option admits. -/
def admits (f : Flag) (value : String) : Bool :=
  f ≠ area || value = "zone" || value = "line"

end Flag

/-! ## Tokens -/

/-- What is attached to an option. -/
structure Attachment where
  value : String
  /-- There is an equals sign in between. -/
  isMarked : Bool

/-- An argument by its form. -/
inductive ArgumentToken
  /-- No option. -/
  | word (s : String)
  /-- The sign that no options follow. -/
  | separator
  /-- An option, with how it was spelled in full and what is attached to it. -/
  | option (flag : Flag) (isShort : Bool) (attached : Option Attachment)
  /-- What looks like an option but is none. -/
  | unknown (s : String)

/-- Why the arguments make no sense. -/
inductive ArgumentError
  | ambiguous (s : String)
  | noValue (f : Flag)
  | needlessValue (f : Flag)
  | badValue (f : Flag)
  | conflict (f : Flag)
  | leftOver (s : String)
  | noCommand
  | noTarget
  deriving DecidableEq

def ArgumentError.message : ArgumentError → String
  | ambiguous s => s ++ " may mean several options"
  | noValue f => f.spelling ++ " needs a value"
  | needlessValue f => f.spelling ++ " takes no value"
  | badValue f => f.spelling ++ " does not admit this value"
  | conflict f => f.spelling ++ " excludes another option that was given"
  | leftOver s => "what " ++ s ++ " means is unclear"
  | noCommand => "exactly one command has to be given"
  | noTarget => "an app and a camera have to be given"

namespace ArgumentToken

/-- A text before the first equals sign, and what that attaches to it. -/
def aroundEquals (s : String) : String × Option Attachment :=
  match Text.splitAt '=' s.toList with
  | first :: second :: more =>
    (String.ofList first, some ⟨String.ofList (['='].intercalate (second :: more)), true⟩)
  | _ => (s, none)

/-- A spelling is short: a dash and one letter. -/
def isShortSpelling (s : String) : Bool := !s.startsWith "--"

/-- The options that a text with two dashes may be short for, with what is attached. -/
def longMatches (s : String) : List ArgumentToken :=
  let (stem, attached) := aroundEquals s
  (Flag.spellings.filter fun p => p.1.startsWith stem).map fun p =>
    option p.2 (isShortSpelling p.1) attached

/-- The options that a text with one dash begins with, with what is attached. -/
def shortMatches (s : String) : List ArgumentToken :=
  (Flag.spellings.filter fun p => p.1.toList = s.toList.take 2).map fun p =>
    option p.2 true (some ⟨String.ofList (s.toList.drop 2), false⟩)

/-- The options that a text may mean. -/
def candidates (s : String) : List ArgumentToken :=
  if s.startsWith "--" then longMatches s else shortMatches s

/-- The text without the line end behind it, if there is one. -/
def withoutLineEnd (cs : List Char) : List Char :=
  if cs.getLast? = some '\n' then cs.dropLast else cs

/-- Digits of any script and nothing else. -/
def areDigits (cs : List Char) : Bool := cs.all fun c => (Text.digit? c).isSome

/-- A dash and a number, perhaps at the end of a line. -/
def isNegativeNumber (s : String) : Bool :=
  match withoutLineEnd s.toList with
  | '-' :: rest =>
    match Text.splitAt '.' rest with
    | [whole] => areDigits whole && !whole.isEmpty
    | [whole, fraction] => areDigits whole && areDigits fraction && !fraction.isEmpty
    | _ => false
  | _ => false

/-- A text that is no option after all. -/
def wordOrUnknown (s : String) : ArgumentToken :=
  if isNegativeNumber s || s.contains ' ' then word s else unknown s

/-- The form of an argument that begins with a dash and is more than that. -/
def ofDashed (s : String) : Except ArgumentError ArgumentToken :=
  match Flag.spellings.find? (·.1 = s) with
  -- A full spelling wins over every spelling that it is the beginning of.
  | some p => .ok (option p.2 (isShortSpelling p.1) none)
  | none =>
    let (stem, attached) := aroundEquals s
    match attached, Flag.spellings.find? (·.1 = stem) with
    | some value, some p => .ok (option p.2 (isShortSpelling p.1) (some value))
    | _, _ =>
      match candidates s with
      | [] => .ok (wordOrUnknown s)
      | [t] => .ok t
      | _ => .error (.ambiguous s)

/-- The form of an argument. -/
def ofArgument (s : String) : Except ArgumentError ArgumentToken :=
  if s.startsWith "-" && s ≠ "-" then ofDashed s else .ok (word s)

/-- The forms of all arguments. Behind the separator there are no options. -/
def ofArguments : List String → Except ArgumentError (List ArgumentToken)
  | [] => .ok []
  | s :: rest =>
    if s = "--" then .ok (separator :: rest.map word)
    else do return (← ofArgument s) :: (← ofArguments rest)

end ArgumentToken

/-! ## Reading -/

/-- What was read of the arguments. -/
structure Reading where
  /-- The options that were given, each with its value. -/
  given : List (Flag × String)
  /-- What is no option and no value. -/
  left : List String
  /-- Help was asked for; nothing behind it matters. -/
  help : Bool

namespace Reading

def start : Reading := ⟨[], [], false⟩

def leave (r : Reading) (s : String) : Reading := { r with left := r.left ++ [s] }

/-- Takes an option with its value. Two different commands exclude each other. -/
def take (r : Reading) (f : Flag) (value : String) : Except ArgumentError Reading :=
  if r.help then .ok r
  else if f = .help then .ok { r with help := true }
  else if !f.admits value then .error (.badValue f)
  else if f.isCommand && r.given.any fun g => g.1.isCommand && g.1 ≠ f then .error (.conflict f)
  else .ok { r with given := r.given ++ [(f, value)] }

/-- Takes options without values. -/
def takeAll (r : Reading) (fs : List Flag) : Except ArgumentError Reading :=
  fs.foldlM (fun r f => r.take f "") r

/-- What stands behind one dash. -/
inductive Cluster
  /-- Options without values, then one whose value may be attached. -/
  | complete (before : List Flag) (last : Flag) (value : Option String)
  /-- Options without values, then letters that are none. -/
  | cut (before : List Flag) (left : String)

/-- The cluster with one more option in front of it. -/
def Cluster.behind (f : Flag) : Cluster → Cluster
  | complete before last value => complete (f :: before) last value
  | cut before left => cut (f :: before) left

/-- The options behind one dash: those without a value, letter by letter, up to one that has the
rest as its value, perhaps behind an equals sign, or up to the last one. -/
def cluster (f : Flag) (isMarked : Bool) : List Char → Except ArgumentError Cluster
  | [] => if f.arity = .none then .error (.needlessValue f) else .ok (.complete [] f (some ""))
  | c :: rest =>
    if f.arity ≠ .none then .ok (.complete [] f (some (String.ofList (c :: rest))))
    else if isMarked || c = '-' then .error (.needlessValue f)
    else match Flag.spellings.find? fun p => p.1.toList = ['-', c] with
      | none => .ok (.cut [f] (String.ofList ('-' :: c :: rest)))
      | some (_, g) => match rest with
        | [] => .ok (.complete [f] g none)
        | '=' :: value => (cluster g true value).map (Cluster.behind f)
        | d :: more => (cluster g false (d :: more)).map (Cluster.behind f)

/-- The options that a token stands for, and the value that is attached to the last of them. -/
def expand (f : Flag) (isShort : Bool) (attached : Option Attachment) :
    Except ArgumentError Cluster :=
  match attached with
  | none => .ok (.complete [] f none)
  | some ⟨value, isMarked⟩ =>
    if f.arity = .none && !isShort then .error (.needlessValue f)
    else cluster f isMarked value.toList

/-- The value of an option that has none attached: the word behind it, if the option takes one.
With it comes what is behind the value. -/
def valueBehind (f : Flag) :
    (ts : List ArgumentToken) →
    Except ArgumentError (String × { more : List ArgumentToken // more.length ≤ ts.length })
  | .word s :: more =>
    if f.arity = .none then .ok ("", ⟨.word s :: more, Nat.le_refl _⟩)
    else .ok (s, ⟨more, by simp⟩)
  | ts => if f.arity = .one then .error (.noValue f) else .ok ("", ⟨ts, Nat.le_refl _⟩)

/-- Reads tokens from left to right, up to the first that asks for help. -/
def readTokens (r : Reading) : List ArgumentToken → Except ArgumentError Reading
  | [] => .ok r
  | .word s :: rest => readTokens (r.leave s) rest
  | .separator :: rest => readTokens (r.leave "--") rest
  | .unknown s :: rest => readTokens (r.leave s) rest
  | .option f isShort attached :: rest =>
    -- What stands behind a request for help is not looked at.
    if r.help then .ok r
    else
      match expand f isShort attached with
      | .error e => .error e
      | .ok (.cut before left) =>
        match r.takeAll before with
        | .error e => .error e
        | .ok r => readTokens (r.leave left) rest
      | .ok (.complete before last (some value)) =>
        match do (← r.takeAll before).take last value with
        | .error e => .error e
        | .ok r => readTokens r rest
      | .ok (.complete before last none) =>
        match valueBehind last rest with
        | .error e => .error e
        | .ok (value, ⟨more, _⟩) =>
          match do (← r.takeAll before).take last value with
          | .error e => .error e
          | .ok r => readTokens r more
  termination_by ts => ts.length
  decreasing_by all_goals (simp only [List.length_cons]; omega)

/-- The last value of an option. -/
def value? (r : Reading) (f : Flag) : Option String :=
  (r.given.reverse.find? (·.1 = f)).map (·.2)

end Reading

/-! ## Arguments -/

/-- What the program is to do. Paths are as they were given, perhaps empty. -/
inductive Command
  | validate (path : String)
  | plan (path : String)
  | compile (path : String)
  | decompile (path : String)
  | template (name : String)
  | load
  | save (path : String)
  | build (path : String)
  deriving DecidableEq

namespace Command

/-- The command of an option. -/
def ofFlag? (f : Flag) (value : String) : Option Command :=
  match f with
  | .validate => some (validate value)
  | .plan => some (plan value)
  | .compile => some (compile value)
  | .decompile => some (decompile value)
  | .template => some (template value)
  | .load => some load
  | .save => some (save value)
  | .build => some (build value)
  | _ => none

/-- A path or name that is empty asks for nothing; what is left is the builder, without a graph. -/
def settled : Command → Command
  | c@(validate path) | c@(plan path) | c@(compile path) | c@(decompile path) | c@(save path)
  | c@(template path) => if path.isEmpty then build "" else c
  | c => c

/-- The file that the command works on. -/
def path? : Command → Option String
  | validate path | plan path | compile path | decompile path | save path | build path => some path
  | template _ | load => none

/-- The command concerns an app on a camera. -/
def needsTarget : Command → Bool
  | load | save _ => true
  | _ => false

end Command

/-- The arguments of a run. -/
structure Arguments where
  command : Command
  area : String
  graph : Option String
  app : Option String
  video : Option String
  output : Option String
  config : Option String
  deriving DecidableEq

namespace Arguments

/-- A text that is given and not empty. -/
def isGiven (s : Option String) : Bool :=
  match s with
  | some s => !s.isEmpty
  | none => false

/-- The arguments that were read. -/
def ofReading (r : Reading) : Except ArgumentError Arguments :=
  match r.given.reverse.findSome? fun g => Command.ofFlag? g.1 g.2, r.left with
  | none, _ => .error .noCommand
  | some _, s :: _ => .error (.leftOver s)
  | some command, [] =>
    let app := r.value? .app
    let video := r.value? .video
    if command.settled.needsTarget && !(isGiven app && isGiven video) then .error .noTarget
    else .ok ⟨command.settled, (r.value? .area).getD "zone", r.value? .graph, app, video,
      r.value? .output, r.value? .config⟩

/-- The arguments in some texts; none if only help is asked for. -/
def parse (args : List String) : Except ArgumentError (Option Arguments) := do
  let r ← Reading.start.readTokens (← ArgumentToken.ofArguments args)
  if r.help then return none else return some (← ofReading r)

end Arguments
end DetectionFlow
