import DetectionFlow.Value.Slots
import DetectionFlow.Yaml.Contents

/-!
# Reading document files

The value of a document file. Of pairs with equal keys the last value counts, at the place of the
first. A pair with the key `<<` merges other mappings into its own, whose pairs win. A collection that
holds itself goes round once more.

Main function: `Yaml.read`. A file without a document is null.
-/

namespace DetectionFlow
namespace Yaml

/-! ## Collections as values -/

/-- A mapping as a value: an object if all its keys are texts. -/
def mappingValue (entries : List (Value × Value)) : Value :=
  if entries.all fun e => e.1.text?.isSome then
    .object (entries.map fun e => ((e.1.text?).getD "", e.2))
  else .table entries

/-- The values that were made already, by the places of their nodes. -/
abbrev Known := Array (Option Value)

/-- What stands for a collection where the way ends. -/
def Held.blank : Held → Value
  | .mapping _ => .object []
  | _ => .list []

/-- The value of a node, and whether no way from it leads back to the nodes around it. `trail` names
the nodes of the levels around it from within; the level of a pair has none. A node that is around
itself stands again: from there on each way goes round once more. `start` is the number of levels
around the first such node. -/
def unfold (held : Array (Option Held)) :
    Nat → Option Nat → List (Option Nat) → Nat → StateM Known (Value × Bool)
  | 0, _, _, _ => return (.null, false)
  | fuel + 1, start, trail, place => do
    match (← get).getD place none with
    | some v => return (v, true)
    | none =>
      let h := (held.getD place none).getD default
      let valueFrom (start : Option Nat) : StateM Known (Value × Bool) := do
        let trail := some place :: trail
        match h with
        | .scalar v => return (v, true)
        | .set members => return (.set (Slots.atOnce (members.map fun v => (v, v))), true)
        | .list items => do
          let vs ← items.mapM (unfold held fuel start trail)
          return (.list (vs.map (·.1)), vs.all (·.2))
        | .pairs pairs => do
          let below := unfold held fuel start (none :: trail)
          let vs ← pairs.mapM fun p => do return (← below p.1, ← below p.2)
          return (.list (vs.map fun p => .pair p.1.1 p.2.1), vs.all fun p => p.1.2 && p.2.2)
        | .mapping entries => do
          let vs ← entries.mapM fun e => do return (e.1, ← unfold held fuel start trail e.2)
          return (mappingValue (vs.map fun e => (e.1, e.2.1)), vs.all (·.2.2))
      match trail.idxOf? (some place), start with
      | none, _ =>
        let (v, isWhole) ← valueFrom start
        if isWhole then modify (·.setIfInBounds place (some v))
        return (v, isWhole)
      | some levels, none =>
        return (.again (levels + 1) (← valueFrom (some trail.length)).1, false)
      | some levels, some first =>
        if levels + first < trail.length then return (.again (levels + 1) h.blank, false)
        else return (.again (levels + 1) (← valueFrom start).1, false)

/-- The value of a tree. -/
def valueOf (t : Tree) : Except ReadError Value := do
  let held ← Contents.ofTree t
  -- The way to a node is no longer than there are nodes, before the turn and after it.
  let start := unfold held (2 * t.nodes.size + 4) none [] t.root
  return (start.run (t.nodes.map fun _ => none)).1.1

/-- Reads the only document of a text. -/
def read (s : String) : Except ReadError Value :=
  match tokens? s.toList with
  | none => .error .malformed
  | some tokens => do
    match ← Tree.ofTokens tokens with
    | none => return .null
    | some t => valueOf t

/-- The places of the fields of the outermost mapping. -/
def fieldPlaces (s : String) : List (Value × Nat) :=
  match tokens? s.toList with
  | none => []
  | some tokens => match Tree.ofTokens tokens with
    | .ok (some t) => match Contents.ofTree t with
      | .ok held => match held.getD t.root none with
        | some (.mapping entries) => entries
        | _ => []
      | .error _ => []
    | _ => []

/-- Two fields of the outermost mapping are one and the same node. -/
def areOne (s : String) (a b : String) : Bool :=
  let placeOf key := ((fieldPlaces s).find? (·.1.text? = some key)).map (·.2)
  match placeOf a, placeOf b with
  | some p, some q => p = q
  | _, _ => false

end Yaml
end DetectionFlow
