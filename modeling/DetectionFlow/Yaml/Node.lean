import DetectionFlow.Failure
import DetectionFlow.Yaml.Tag
import DetectionFlow.Yaml.Token

/-!
# The tree of a document file

The tokens of a document file as scalars, sequences and mappings. The nodes stand in a row, and a
collection holds the places of its parts in that row, because a node may have several places in the
tree: an alias stands for the node with its anchor, which must begin before it. A collection may thus
hold itself.

Main function: `Tree.ofTokens`, which yields none for a file without a document.
-/

namespace DetectionFlow
namespace Yaml

/-- Why a text is no value. -/
inductive ReadError
  /-- The text breaks the grammar, or a rule of the tree. -/
  | malformed
  /-- Something in it has no value. -/
  | fault (f : Fault)

/-! ## Nodes -/

/-- What a node consists of. -/
inductive Content
  | scalar (text : String)
  | sequence (items : List Nat)
  | mapping (pairs : List (Nat × Nat))
  deriving Inhabited

/-- A node of the tree. -/
structure Node where
  tag : Tag
  content : Content
  deriving Inhabited

/-- The node that stands where nothing is written. -/
def Node.blank : Node := ⟨.ofText "", .scalar ""⟩

/-- The nodes of a document, and the place of the outermost one. -/
structure Tree where
  nodes : Array Node
  root : Nat

/-! ## The state of the reading -/

/-- The tokens that are left, what names stand for, and the nodes so far. -/
structure Rest where
  tokens : List Token
  /-- The tag handles with their expansions. -/
  handles : List (String × String)
  /-- The anchors with the places of their nodes. -/
  anchors : List (String × Nat)
  nodes : Array Node
  /-- The number of collections that are open. -/
  depth : Nat

/-- What was read in front of the tokens that are left, or why nothing was. -/
abbrev Attempt := Except ReadError

namespace Rest

def drop (p : Rest) (tokens : List Token) : Rest := { p with tokens }

/-- The handles that need no directive. -/
def standardHandles : List (String × String) := [("!", "!"), ("!!", Tag.standardStem)]

/-- The tokens, unless the reading cannot go on because of the next one. -/
def peek (p : Rest) : Except ReadError (List Token) :=
  match p.tokens with
  | .badCode code :: _ => .error (.fault (.badCode code))
  | ts => .ok ts

/-- Adds a node. -/
def add (p : Rest) (n : Node) : Nat × Rest := (p.nodes.size, { p with nodes := p.nodes.push n })

/-- The most collections inside each other. -/
def depthLimit : Nat := 480

/-- One more collection is open. -/
def enter (p : Rest) : Except ReadError Rest :=
  if p.depth < depthLimit then .ok { p with depth := p.depth + 1 } else .error (.fault .endless)

/-- Notes the content of the collection that was opened last. -/
def close (p : Rest) (place : Nat) (c : Content) : Rest :=
  { p with
    nodes := p.nodes.modify place fun n => { n with content := c }
    depth := p.depth - 1 }

/-- Gives a name to the node at a place. -/
def bind (p : Rest) (anchor : Option String) (place : Nat) : Rest :=
  match anchor with
  | none => p
  | some a => { p with anchors := (a, place) :: p.anchors }

end Rest

/-- What stands in front of a node: its anchor and its tag. -/
structure Properties where
  anchor : Option String
  tag : Option String

/-- The tag of a handle and a suffix. -/
def expandTag (handles : List (String × String)) (handle : Option String) (suffix : String) :
    Except ReadError String :=
  match handle with
  | none => .ok suffix
  | some h => match handles.find? (·.1 = h) with
    | some (_, stem) => .ok (stem ++ suffix)
    | none => .error .malformed

/-- The properties in front of a node, in either order. -/
def properties (p : Rest) : Attempt (Properties × Rest) := do
  match ← p.peek with
  | .anchor a :: rest =>
    match ← (p.drop rest).peek with
    | .tag h s :: rest => return (⟨some a, some (← expandTag p.handles h s)⟩, p.drop rest)
    | _ => return (⟨some a, none⟩, p.drop rest)
  | .tag h s :: rest =>
    match ← (p.drop rest).peek with
    | .anchor a :: rest => return (⟨some a, some (← expandTag p.handles h s)⟩, p.drop rest)
    | _ => return (⟨none, some (← expandTag p.handles h s)⟩, p.drop rest)
  | _ => return (⟨none, none⟩, p)

/-- The tag that leaves the type to the form. -/
def unspecific : String := "!"

/-- The type of a collection; it is that of its kind unless a tag names another one. -/
def collectionTag (tag : Option String) (kind : Tag) : Tag :=
  match tag with
  | none => kind
  | some t => if t = unspecific then kind else .named t

/-- The type of a scalar. A quoted scalar without a tag is a text. -/
def scalarTag (tag : Option String) (text : String) (isPlain : Bool) : Tag :=
  match tag with
  | none => if isPlain then .ofText text else .text
  | some t => if t = unspecific then .ofText text else .named t

/-- No two nodes have one anchor. -/
def checkAnchor (p : Rest) (anchor : Option String) : Except ReadError Unit :=
  match anchor with
  | none => .ok ()
  | some a => if p.anchors.any (·.1 = a) then .error .malformed else .ok ()

/-- A node with its anchor. -/
def addNode (p : Rest) (anchor : Option String) (n : Node) : Attempt (Nat × Rest) := do
  checkAnchor p anchor
  let (place, p) := p.add n
  return (place, p.bind anchor place)

/-- A scalar with its properties. -/
def addScalar (p : Rest) (props : Properties) (text : String) (isPlain : Bool) : Attempt (Nat × Rest) :=
  addNode p props.anchor ⟨scalarTag props.tag text isPlain, .scalar text⟩

/-- A collection with its properties that is still open, so that its parts may name it. -/
def openCollection (p : Rest) (props : Properties) (kind : Tag) : Attempt (Nat × Rest) := do
  let (place, p) ← addNode p props.anchor ⟨collectionTag props.tag kind, .sequence []⟩
  return (place, ← p.enter)

/-! ## Nodes from tokens -/

/-- Where a node may stand: inside brackets no block may begin, and as a value in a block a sequence
need not be indented. -/
inductive Place
  | flow
  | block
  | blockValue
  deriving DecidableEq

/-- How the items of a sequence are set apart. -/
inductive Layout
  | brackets
  /-- With an indentation of its own. -/
  | indented
  /-- Not indented further than its key. -/
  | unindented

/-- A node without content, which only an anchor or a tag admits. -/
def emptyNode (props : Properties) (p : Rest) : Attempt (Nat × Rest) := do
  if props.anchor.isNone && props.tag.isNone then .error .malformed
  else addScalar p props "" true

/-- The place after a comma, unless the first item or the closing bracket follows. -/
def afterComma (first : Bool) (close : Token) (p : Rest) : Except ReadError Rest := do
  match ← p.peek with
  | .comma :: rest => return if first then p else p.drop rest
  | t :: _ => if first || t = close then return p else .error .malformed
  | [] => .error .malformed

/-- The next token is one of some. -/
def nextIs (p : Rest) (ts : List Token) : Except ReadError Bool := do
  match ← p.peek with
  | t :: _ => return ts.contains t
  | [] => return false

mutual

/-- A node. -/
def node (place : Place) : Nat → Rest → Attempt (Nat × Rest)
  | 0, _ => .error .malformed
  | fuel + 1, p => do
    match ← p.peek with
    | .alias name :: rest =>
      match p.anchors.find? (·.1 = name) with
      | some (_, n) => return (n, p.drop rest)
      | none => .error .malformed
    | _ =>
      let (props, p) ← properties p
      content place fuel props p

/-- A node after its properties. -/
def content (place : Place) : Nat → Properties → Rest → Attempt (Nat × Rest)
  | 0, _, _ => .error .malformed
  | fuel + 1, props, p => do
    match ← p.peek with
    | .entry :: _ =>
      if place = .blockValue then sequence .unindented fuel props p else emptyNode props p
    | .scalar text isPlain :: rest => addScalar (p.drop rest) props text isPlain
    | .openSequence :: rest => sequence .brackets fuel props (p.drop rest)
    | .openMapping :: rest => mapping true fuel props (p.drop rest)
    | .blockSequence :: rest =>
      if place = .flow then emptyNode props p else sequence .indented fuel props (p.drop rest)
    | .blockMapping :: rest =>
      if place = .flow then emptyNode props p else mapping false fuel props (p.drop rest)
    | _ => emptyNode props p

/-- A sequence after what opens it. -/
def sequence (layout : Layout) : Nat → Properties → Rest → Attempt (Nat × Rest)
  | 0, _, _ => .error .malformed
  | fuel + 1, props, p => do
    let (place, p) ← openCollection p props .sequence
    let (items, p) ← match layout with
      | .brackets => flowItems fuel true p
      | .indented => blockItems fuel p
      | .unindented => unindentedItems fuel p
    return (place, p.close place (.sequence items))

/-- A mapping after what opens it. -/
def mapping (inBrackets : Bool) : Nat → Properties → Rest → Attempt (Nat × Rest)
  | 0, _, _ => .error .malformed
  | fuel + 1, props, p => do
    let (place, p) ← openCollection p props .mapping
    let (pairs, p) ← if inBrackets then flowPairs fuel true p else blockPairs fuel p
    return (place, p.close place (.mapping pairs))

/-- The entries of a sequence with an indentation of its own. -/
def blockItems : Nat → Rest → Attempt (List Nat × Rest)
  | 0, _ => .error .malformed
  | fuel + 1, p => do
    match ← p.peek with
    | .blockEnd :: rest => return ([], p.drop rest)
    | .entry :: rest =>
      let (n, p) ← nodeOrBlank .block fuel [.entry, .blockEnd] (p.drop rest)
      let (more, p) ← blockItems fuel p
      return (n :: more, p)
    | _ => .error .malformed

/-- The entries of a sequence that is not indented further than its key. -/
def unindentedItems : Nat → Rest → Attempt (List Nat × Rest)
  | 0, _ => .error .malformed
  | fuel + 1, p => do
    match ← p.peek with
    | .entry :: rest =>
      let (n, p) ← nodeOrBlank .block fuel [.entry, .key, .value, .blockEnd] (p.drop rest)
      let (more, p) ← unindentedItems fuel p
      return (n :: more, p)
    | _ => return ([], p)

/-- The pairs of a mapping in a block. -/
def blockPairs : Nat → Rest → Attempt (List (Nat × Nat) × Rest)
  | 0, _ => .error .malformed
  | fuel + 1, p => do
    match ← p.peek with
    | .blockEnd :: rest => return ([], p.drop rest)
    | .key :: rest =>
      let (key, p) ← nodeOrBlank .blockValue fuel [.key, .value, .blockEnd] (p.drop rest)
      let (v, p) ← valueAfterKey .blockValue fuel [.key, .value, .blockEnd] p
      let (more, p) ← blockPairs fuel p
      return ((key, v) :: more, p)
    | _ => .error .malformed

/-- The items between square brackets; all but the first follow a comma. -/
def flowItems : Nat → Bool → Rest → Attempt (List Nat × Rest)
  | 0, _, _ => .error .malformed
  | fuel + 1, first, p => do
    let p ← afterComma first .closeSequence p
    match ← p.peek with
    | .closeSequence :: rest => return ([], p.drop rest)
    | .key :: rest =>
      -- A pair among the items is a mapping of its own.
      let (place, p) ← openCollection (p.drop rest) ⟨none, none⟩ .mapping
      let (key, p) ← nodeOrBlank .flow fuel [.value, .comma, .closeSequence] p
      let (v, p) ← valueAfterKey .flow fuel [.comma, .closeSequence] p
      let (more, p) ← flowItems fuel false (p.close place (.mapping [(key, v)]))
      return (place :: more, p)
    | _ =>
      let (n, p) ← node .flow fuel p
      let (more, p) ← flowItems fuel false p
      return (n :: more, p)

/-- The pairs between curly brackets; all but the first follow a comma. -/
def flowPairs : Nat → Bool → Rest → Attempt (List (Nat × Nat) × Rest)
  | 0, _, _ => .error .malformed
  | fuel + 1, first, p => do
    let p ← afterComma first .closeMapping p
    match ← p.peek with
    | .closeMapping :: rest => return ([], p.drop rest)
    | .key :: rest =>
      let (key, p) ← nodeOrBlank .flow fuel [.value, .comma, .closeMapping] (p.drop rest)
      let (v, p) ← valueAfterKey .flow fuel [.comma, .closeMapping] p
      let (more, p) ← flowPairs fuel false p
      return ((key, v) :: more, p)
    | _ =>
      let (n, p) ← node .flow fuel p
      let (v, p) := p.add .blank
      let (more, p) ← flowPairs fuel false p
      return ((n, v) :: more, p)

/-- A node, or a blank one if the next token ends it. -/
def nodeOrBlank (place : Place) : Nat → List Token → Rest → Attempt (Nat × Rest)
  | 0, _, _ => .error .malformed
  | fuel + 1, ends, p => do
    if ← nextIs p ends then return p.add .blank else node place fuel p

/-- The value of a key; a blank one without a colon. -/
def valueAfterKey (place : Place) : Nat → List Token → Rest → Attempt (Nat × Rest)
  | 0, _, _ => .error .malformed
  | fuel + 1, ends, p => do
    match ← p.peek with
    | .value :: rest => nodeOrBlank place fuel ends (p.drop rest)
    | _ => return p.add .blank

end

/-! ## Documents -/

/-- The handles after the directives in front of a document, and the tokens after them. -/
def directives? : List (String × String) → Bool → List Token →
    Option (List (String × String) × List Token)
  | handles, hasVersion, .directive name words major :: rest =>
    if name = "YAML" then
      if hasVersion || major ≠ some 1 then none else directives? handles true rest
    else match words with
      | some (handle, text) =>
        if name ≠ "TAG" then directives? handles hasVersion rest
        else if handles.any (·.1 = handle) then none
        else directives? ((handle, text) :: handles) hasVersion rest
      | none => directives? handles hasVersion rest
  | handles, _, rest => some (handles, rest)

/-- Nothing but ends of documents follows. -/
def endOfStream (p : Rest) : Except ReadError Unit :=
  match p.tokens.dropWhile (· = .documentEnd) with
  | [] => .ok ()
  | .badCode code :: _ => .error (.fault (.badCode code))
  | _ => .error .malformed

/-- A token before which a document has no content. -/
def endsContent : List Token → Bool
  | [] | .documentStart :: _ | .documentEnd :: _ | .directive .. :: _ => true
  | _ => false

namespace Tree

/-- The tree of a document, after which nothing may follow. A document that is announced may be
blank. -/
def ofContent (isAnnounced : Bool) (handles : List (String × String)) (tokens : List Token) :
    Except ReadError Tree := do
  let start : Rest := ⟨tokens, handles, [], #[], 0⟩
  let (root, p) ← if isAnnounced && endsContent tokens then .ok (start.add .blank)
    else node .block (8 * tokens.length + 8) start
  endOfStream p
  return ⟨p.nodes, root⟩

/-- The only document of a file; a file without one has no tree. -/
def ofTokens (tokens : List Token) : Except ReadError (Option Tree) :=
  match tokens with
  | [] => .ok none
  | .directive .. :: _ | .documentStart :: _ =>
    match directives? [] false tokens with
    | some (handles, .documentStart :: rest) =>
      (ofContent true (handles ++ Rest.standardHandles) rest).map some
    | some (_, .badCode code :: _) => .error (.fault (.badCode code))
    | _ => .error .malformed
  | _ => (ofContent false Rest.standardHandles tokens).map some

end Tree
end Yaml
end DetectionFlow
