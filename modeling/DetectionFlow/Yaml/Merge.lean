import DetectionFlow.Yaml.Node

/-!
# Merging mappings

A pair whose key is the sign of merging stands for the pairs of another mapping, or of several ones,
of which the first counts most. Flattening a mapping takes such pairs out and puts the pairs that they
stand for in front of its own, so that its own pairs, which come later, win. The merged mappings are
flattened before.

A mapping may merge itself on some way. Each turn takes a pair out, and so the ways come to an end.

Main function: `Merge.flatten`.
-/

namespace DetectionFlow
namespace Yaml
namespace Merge

/-- The nodes of a document. -/
abbrev Nodes := Array Node

/-- Keys and values by their places. -/
abbrev Pairs := List (Nat × Nat)

def nodeAt (ns : Nodes) (place : Nat) : Node := ns.getD place default

/-- The pairs of a mapping. -/
def pairsAt (ns : Nodes) (place : Nat) : Pairs :=
  match (nodeAt ns place).content with
  | .mapping pairs => pairs
  | _ => []

def setPairs (ns : Nodes) (place : Nat) (pairs : Pairs) : Nodes :=
  ns.modify place fun n => { n with content := .mapping pairs }

/-- All pairs of a document. -/
def countPairs (ns : Nodes) : Nat :=
  ns.foldl (fun count n => match n.content with
    | .mapping pairs => count + pairs.length
    | _ => count) 0

/-- The mapping of a place with some pairs in front of its own. -/
def prepend (ns : Nodes) (place : Nat) (pairs : Pairs) : Nodes :=
  setPairs ns place (pairs ++ pairsAt ns place)

mutual

/-- Flattens the mapping of a place from one of its pairs on; `merged` is what the pairs before it
stand for. -/
def flattenFrom (turns steps : Nat) (ns : Nodes) (place index : Nat) (merged : Pairs) :
    Except ReadError Nodes :=
  match steps, (pairsAt ns place)[index]? with
  | 0, _ | _, none => .ok (prepend ns place merged)
  | steps + 1, some (key, value) =>
    match (nodeAt ns key).tag with
    | .merge =>
      let ns := setPairs ns place ((pairsAt ns place).eraseIdx index)
      match turns with
      | 0 => .error .malformed
      | turns + 1 =>
        match (nodeAt ns value).content with
        | .mapping _ =>
          match flattenFrom turns (countPairs ns + 1) ns value 0 [] with
          | .error e => .error e
          | .ok ns => flattenFrom turns steps ns place index (merged ++ pairsAt ns value)
        | .sequence items =>
          match flattenAll turns ns [] items with
          | .error e => .error e
          | .ok (ns, pairs) => flattenFrom turns steps ns place index (merged ++ pairs)
        | .scalar _ => .error .malformed
    -- Among the keys of a mapping the sign of a default is a text.
    | .default =>
      flattenFrom turns steps (ns.modify key fun n => { n with tag := .text }) place (index + 1) merged
    | _ => flattenFrom turns steps ns place (index + 1) merged
  termination_by (turns, 0, steps)
  decreasing_by all_goals simp [Prod.lex_def, wfParam]

/-- Flattens mappings one after the other; the pairs of all of them, those of later ones first. -/
def flattenAll (turns : Nat) (ns : Nodes) (pairs : Pairs) :
    List Nat → Except ReadError (Nodes × Pairs)
  | [] => .ok (ns, pairs)
  | item :: rest =>
    match (nodeAt ns item).content with
    | .mapping _ =>
      match flattenFrom turns (countPairs ns + 1) ns item 0 [] with
      | .error e => .error e
      | .ok ns => flattenAll turns ns (pairsAt ns item ++ pairs) rest
    | _ => .error .malformed
  termination_by items => (turns, 1, items.length)

end

/-- The nodes with the mapping of a place flattened. -/
def flatten (ns : Nodes) (place : Nat) : Except ReadError Nodes :=
  let count := countPairs ns + 1
  flattenFrom count count ns place 0 []

end Merge
end Yaml
end DetectionFlow
