import DetectionFlow.Yaml.Merge
import DetectionFlow.Yaml.Scalar

/-!
# What nodes hold

The values of scalars, and of each collection the parts that it holds after mappings were merged and
equal keys were made one. Scalars are read where they are met. Collections wait: the outermost one
is filled first, then those met in it, and so on, level by level. What is wrong in the first of them
is found first.

Main function: `Contents.ofTree`.
-/

namespace DetectionFlow
namespace Yaml

/-- What a node holds. Parts of collections are named by their places. -/
inductive Held
  | scalar (v : Value)
  | list (items : List Nat)
  | pairs (pairs : List (Nat × Nat))
  | mapping (entries : List (Value × Nat))
  | set (members : List Value)
  deriving Inhabited

/-- What was found so far, and the collections that wait, in the order in which they were met. -/
structure Contents where
  nodes : Merge.Nodes
  held : Array (Option Held)
  waiting : List Nat

/-- A step that may find that the text is no value. -/
abbrev Finding := StateT Contents (Except ReadError)

namespace Contents

def fail (e : ReadError) : Finding α := fun _ => .error e

def nodeAt (place : Nat) : Finding Node := return Merge.nodeAt (← get).nodes place

def hold (place : Nat) (h : Held) : Finding Unit :=
  modify fun c => { c with held := c.held.setIfInBounds place (some h) }

/-! ## Scalars -/

/-- The text of a scalar, or of the scalar that stands for a mapping: the value of its default key.
A mapping may be its own default. -/
def textOf (ns : Merge.Nodes) : Nat → Nat → Except ReadError String
  | 0, _ => .error (.fault .endless)
  | fuel + 1, place =>
    match (Merge.nodeAt ns place).content with
    | .scalar text => .ok text
    | .sequence _ => .error .malformed
    | .mapping pairs =>
      match pairs.find? fun p => (Merge.nodeAt ns p.1).tag = .default with
      | some (_, value) => textOf ns fuel value
      | none => .error .malformed

/-- The value of a scalar. Only a scalar itself can be a date, not a mapping with a default. -/
def scalarOf (ns : Merge.Nodes) (place : Nat) : Except ReadError Value := do
  let n := Merge.nodeAt ns place
  match n.tag with
  | .merge | .default | .other => .error .malformed
  | tag =>
    let text ← textOf ns (ns.size + 1) place
    match tag, n.content with
    | .date, .mapping _ => .error (.fault (.noText (Value.list []).typeName))
    | _, _ => scalarValue tag text

/-- Meets a node: reads it if it is a scalar, and lets it wait if it is a collection. -/
def meet (place : Nat) : Finding Unit := do
  let c ← get
  if (c.held.getD place none).isNone then
    let n ← nodeAt place
    if n.tag.isCollection then
      hold place (.list [])
      modify fun c => { c with waiting := c.waiting ++ [place] }
    else match scalarOf c.nodes place with
      | .ok v => hold place (.scalar v)
      | .error e => fail e

/-! ## Collections -/

/-- The entries of a mapping with one more. An equal key keeps its place and gets the new value. -/
def putEntry (entries : List (Value × Nat)) (key : Value) (value : Nat) : List (Value × Nat) :=
  if entries.any (key.same ·.1) then
    entries.map fun e => if key.same e.1 then (e.1, value) else e
  else entries ++ [(key, value)]

/-- Meets the parts of some pairs; the entries that they make. A key must be a scalar. -/
def entriesOf (entries : List (Value × Nat)) : Merge.Pairs → Finding (List (Value × Nat))
  | [] => return entries
  | (key, value) :: rest => do
    meet key
    match (← get).held.getD key none with
    | some (.scalar k) =>
      meet value
      entriesOf (putEntry entries k value) rest
    | _ => fail .malformed

/-- The entries of a mapping after merging. -/
def mappingAt (place : Nat) : Finding (List (Value × Nat)) := do
  let c ← get
  match (Merge.nodeAt c.nodes place).content with
  | .mapping _ =>
    match Merge.flatten c.nodes place with
    | .error e => fail e
    | .ok nodes =>
      set { c with nodes }
      entriesOf [] (Merge.pairsAt nodes place)
  | _ => fail .malformed

/-- Meets the pair that a node consists of. -/
def pairAt (place : Nat) : Finding (Nat × Nat) := do
  match (← nodeAt place).content with
  | .mapping [(key, value)] =>
    meet key
    meet value
    return (key, value)
  | _ => fail .malformed

/-- The items of a sequence. -/
def itemsAt (place : Nat) : Finding (List Nat) := do
  match (← nodeAt place).content with
  | .sequence items => return items
  | _ => fail .malformed

/-- Fills a collection. -/
def fill (place : Nat) : Finding Unit := do
  match (← nodeAt place).tag with
  | .sequence =>
    let items ← itemsAt place
    items.forM meet
    hold place (.list items)
  | .ordered | .pairs => hold place (.pairs (← (← itemsAt place).mapM pairAt))
  | .set => hold place (.set ((← mappingAt place).map (·.1)))
  | _ => hold place (.mapping (← mappingAt place))

/-- Fills the collections that wait, and those that are met meanwhile. Each node waits once. -/
def fillAll : Nat → Finding Unit
  | 0 => return ()
  | fuel + 1 => do
    match (← get).waiting with
    | [] => return ()
    | place :: rest =>
      modify fun c => { c with waiting := rest }
      fill place
      fillAll fuel

/-- What the nodes of a tree hold. Nodes that were never met hold nothing. -/
def ofTree (t : Tree) : Except ReadError (Array (Option Held)) := do
  let start : Contents := ⟨t.nodes, t.nodes.map fun _ => none, []⟩
  let find : Finding Unit := do
    meet t.root
    fillAll t.nodes.size
  return (← find.run start).2.held

end Contents
end Yaml
end DetectionFlow
