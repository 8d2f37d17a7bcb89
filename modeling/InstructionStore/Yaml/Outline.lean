import InstructionStore.Yaml.Event
import InstructionStore.Yaml.Scan

/-!
# Outlines

The `Outline` of a document is the outermost part of its tree: the root and the
nodes right below it. What lies deeper takes part in whether the text is
well-formed, and is not kept.

A node can be given by the name of one that stands before. It then is that node,
place and all.
-/

namespace InstructionStore.Yaml

/-- **What a node is** on the outside. -/
inductive Content where
  /-- A text. -/
  | scalar (s : Scalar)
  /-- A sequence. -/
  | sequence
  /-- A mapping. -/
  | mapping
deriving DecidableEq

/-- **A node** with its place. -/
structure Node where
  /-- What it is. -/
  content : Content
  /-- Where it begins. -/
  mark : Mark
deriving DecidableEq

/-- **A node as it is met in a document.** -/
structure Child where
  /-- The node. -/
  node : Node
  /-- Whether it is given by its name. -/
  isAlias : Bool := false
deriving DecidableEq

/-- **The outline of a document.** If the root is a mapping, keys and values alternate below it. -/
structure Outline where
  /-- The root. -/
  root : Node
  /-- The nodes right below the root. -/
  children : List Child
deriving DecidableEq

/-- The nodes of some events, each with the number of collections around it. Some
nodes with names are known already. Nothing if a name is not known. -/
def nodesOf (named : List (String × Node)) (depth : Nat) :
    List Event → Option (List (Nat × Child))
  | [] => some []
  | e :: events =>
    let new (content : Content) (inside : Nat) : Option (List (Nat × Child)) :=
      let node : Node := ⟨content, e.mark⟩
      let named := e.anchor.toList.map (·, node) ++ named
      (nodesOf named inside events).map ((depth, { node }) :: ·)
    match e.kind with
    | .scalar s => new (.scalar s) depth
    | .sequenceStart => new .sequence (depth + 1)
    | .mappingStart => new .mapping (depth + 1)
    | .sequenceEnd | .mappingEnd => nodesOf named (depth - 1) events
    | .alias name =>
      match named.lookup name with
      | none => none
      | some node => (nodesOf named depth events).map ((depth, ⟨node, true⟩) :: ·)

/-- **The outline of the document a text describes**, if the text is well-formed and
describes one document. -/
def Outline.ofText? (text : String) : Option Outline := do
  let nodes ← nodesOf [] 0 (← Event.ofTokens? (← Token.ofText? text))
  match nodes with
  | [] => none
  | (_, root) :: below =>
    return ⟨root.node, (below.filter fun node => node.1 = 1).map Prod.snd⟩

end InstructionStore.Yaml
