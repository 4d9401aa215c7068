set_option autoImplicit false

/-! # Reachability in a graph

A graph is a list of edges. The nodes that can be reached from some nodes are found in rounds: every
round adds the targets of the edges that leave what has been reached, until nothing is new. The
nodes that can be reached from one another make up a component. -/

namespace DocModel

/-- Edges from a node to a node. -/
abbrev Graph (ν : Type) := List (ν × ν)

namespace Graph

variable {ν : Type}

/-- There is a path of no, one or several edges from one node to the other. -/
inductive Reaches (graph : Graph ν) : ν → ν → Prop
  | refl (a : ν) : Reaches graph a a
  | step {a b c : ν} (before : Reaches graph a b) (edge : (b, c) ∈ graph) : Reaches graph a c

variable [DecidableEq ν]

/-- The nodes one edge away from `reached` that are not in it. -/
def frontier (graph : Graph ν) (reached : List ν) : List ν :=
  (graph.filter fun edge => reached.contains edge.1 && !reached.contains edge.2).map (·.2)

/-- What can be reached from `reached`, in at most so many rounds. -/
def reachable (graph : Graph ν) (reached : List ν) : (rounds : Nat) → List ν
  | 0 => reached
  | rounds + 1 =>
    match graph.frontier reached with
    | [] => reached
    | new => reachable graph (reached ++ new) rounds

/-- What can be reached from some nodes. Every round but the last reaches the target of another
edge, so there are no more rounds than edges. -/
def closure (graph : Graph ν) (start : List ν) : List ν :=
  graph.reachable start graph.length

/-! ## Components -/

/-- Each of the two nodes can be reached from the other. -/
def connects (graph : Graph ν) (a b : ν) : Bool :=
  (graph.closure [a]).contains b && (graph.closure [b]).contains a

/-- Add a node to the first component that it is connected with. If there is none it is a component
of its own. -/
def place (graph : Graph ν) (node : ν) : List (List ν) → List (List ν)
  | [] => [[node]]
  | component :: rest =>
    if component.any (graph.connects node) then (node :: component) :: rest
    else component :: place graph node rest

/-- The strongly connected components of some nodes. -/
def components (graph : Graph ν) (nodes : List ν) : List (List ν) := nodes.foldr graph.place []

/-- A component is on a cycle if it has several nodes, or if its only node has an edge to itself. -/
def isCyclic (graph : Graph ν) (component : List ν) : Bool :=
  decide (1 < component.length)
    || component.head?.any fun node => graph.contains (node, node)

end Graph

end DocModel
