import DocModel.Validation
import Mathlib.Data.List.Nodup

set_option autoImplicit false

/-! # Rounds find everything that can be reached

What a graph search has reached can be reached by a path, and it ends with nodes that no edge leaves:
a round that does not end the search reaches the target of another edge, and there are as many rounds
as edges. So the closure of some nodes is exactly what paths lead to from them.

The graph of a model has a node for every class. Paths in it are paths of references from id to id:
only the nodes that stand for an id have edges, and every id of a reference has a node. -/

namespace DocModel

namespace Graph

variable {ν : Type} {graph : Graph ν}

/-! ## Paths -/

theorem Reaches.trans {a b c : ν} (hab : graph.Reaches a b) (hbc : graph.Reaches b c) :
    graph.Reaches a c := by
  induction hbc with
  | refl => exact hab
  | step _ edge ih => exact .step ih edge

theorem Reaches.of_edge {a b : ν} (edge : (a, b) ∈ graph) : graph.Reaches a b :=
  .step (.refl a) edge

/-- A path that is not empty starts with an edge. -/
theorem Reaches.eq_or_exists_edge {a b : ν} (h : graph.Reaches a b) :
    a = b ∨ ∃ next, (a, next) ∈ graph ∧ graph.Reaches next b := by
  induction h with
  | refl => exact Or.inl rfl
  | @step b c _ edge ih =>
    rcases ih with rfl | ⟨next, first, hrest⟩
    · exact Or.inr ⟨c, edge, .refl c⟩
    · exact Or.inr ⟨next, first, hrest.step edge⟩

/-- Paths are kept by a map that keeps edges. -/
theorem Reaches.map {ν' : Type} {other : Graph ν'} {f : ν → ν'} {a b : ν} (h : graph.Reaches a b)
    (hf : ∀ a b, (a, b) ∈ graph → (f a, f b) ∈ other) : other.Reaches (f a) (f b) := by
  induction h with
  | refl => exact .refl _
  | step _ edge ih => exact .step ih (hf _ _ edge)

/-- The node can be reached from itself by one or more edges. -/
def OnCycle (graph : Graph ν) (node : ν) : Prop :=
  ∃ next, (node, next) ∈ graph ∧ graph.Reaches next node

/-- No edge leaves the nodes. -/
def ClosedUnder (graph : Graph ν) (nodes : List ν) : Prop :=
  ∀ a b, (a, b) ∈ graph → a ∈ nodes → b ∈ nodes

/-- Nothing else is reached from nodes that no edge leaves. -/
theorem ClosedUnder.mem_of_reaches {nodes : List ν} (h : graph.ClosedUnder nodes) {a b : ν}
    (ha : a ∈ nodes) (hreaches : graph.Reaches a b) : b ∈ nodes := by
  induction hreaches with
  | refl => exact ha
  | step _ edge ih => exact h _ _ edge ih

/-! ## Rounds -/

variable [DecidableEq ν] {reached : List ν}

theorem mem_frontier {node : ν} :
    node ∈ graph.frontier reached ↔ ∃ a, (a, node) ∈ graph ∧ a ∈ reached ∧ node ∉ reached := by
  simp [frontier, List.mem_map, List.mem_filter]

theorem closedUnder_of_frontier_eq_nil (h : graph.frontier reached = []) :
    graph.ClosedUnder reached := by
  intro a b edge ha
  refine Classical.byContradiction fun hb => ?_
  have hnew : b ∈ graph.frontier reached := mem_frontier.2 ⟨a, edge, ha, hb⟩
  rw [h] at hnew
  exact absurd hnew List.not_mem_nil

/-- The edges whose targets have not been reached. -/
def pending (graph : Graph ν) (reached : List ν) : Graph ν :=
  graph.filter fun edge => !reached.contains edge.2

/-- A round that finds something new leaves fewer edges with targets that have not been reached. -/
theorem length_pending_lt (h : graph.frontier reached ≠ []) :
    (graph.pending (reached ++ graph.frontier reached)).length
      < (graph.pending reached).length := by
  have hpending : graph.pending (reached ++ graph.frontier reached)
      = (graph.pending reached).filter fun edge => !(graph.frontier reached).contains edge.2 := by
    unfold pending
    rw [List.filter_filter]
    refine List.filter_congr fun edge _ => ?_
    rw [List.contains_append, Bool.not_or, Bool.and_comm]
  rw [hpending, List.length_filter_lt_length_iff_exists]
  obtain ⟨node, hnode⟩ := List.exists_mem_of_ne_nil _ h
  obtain ⟨a, edge, -, hnew⟩ := mem_frontier.1 hnode
  refine ⟨(a, node), ?_, ?_⟩
  · exact List.mem_filter.2 ⟨edge, by simpa using hnew⟩
  · simpa using hnode

theorem subset_reachable (rounds : Nat) :
    ∀ node ∈ reached, node ∈ graph.reachable reached rounds := by
  induction rounds generalizing reached with
  | zero => exact fun _ hnode => hnode
  | succ rounds ih =>
    intro node hnode
    unfold reachable
    split
    · exact hnode
    · exact ih node (List.mem_append_left _ hnode)

/-- Every round stays on paths. -/
theorem exists_reaches_of_mem_reachable {rounds : Nat} {node : ν}
    (h : node ∈ graph.reachable reached rounds) : ∃ a ∈ reached, graph.Reaches a node := by
  induction rounds generalizing reached with
  | zero => exact ⟨node, h, .refl node⟩
  | succ rounds ih =>
    unfold reachable at h
    split at h
    · exact ⟨node, h, .refl node⟩
    · obtain ⟨a, ha, hpath⟩ := ih h
      rcases List.mem_append.1 ha with hold | hnew
      · exact ⟨a, hold, hpath⟩
      · obtain ⟨b, edge, hb, -⟩ := mem_frontier.1 hnew
        exact ⟨b, hb, (Reaches.of_edge edge).trans hpath⟩

/-- With a round for every edge that is pending the search comes to its end. -/
theorem closedUnder_reachable {rounds : Nat} (h : (graph.pending reached).length ≤ rounds) :
    graph.ClosedUnder (graph.reachable reached rounds) := by
  induction rounds generalizing reached with
  | zero =>
    intro a b edge _
    have hnone : graph.pending reached = [] := List.eq_nil_of_length_eq_zero (Nat.le_zero.1 h)
    have htarget := List.filter_eq_nil_iff.1 hnone (a, b) edge
    simpa [reachable] using htarget
  | succ rounds ih =>
    unfold reachable
    split
    · rename_i hend
      exact closedUnder_of_frontier_eq_nil hend
    · rename_i hnew
      have hless : (graph.pending (reached ++ graph.frontier reached)).length
          < (graph.pending reached).length := length_pending_lt hnew
      exact ih (by omega)

/-- **The closure is what paths lead to.** -/
theorem mem_closure_iff {start : List ν} {node : ν} :
    node ∈ graph.closure start ↔ ∃ a ∈ start, graph.Reaches a node := by
  constructor
  · exact exists_reaches_of_mem_reachable
  · rintro ⟨a, ha, hpath⟩
    have hclosed : graph.ClosedUnder (graph.closure start) :=
      closedUnder_reachable (List.length_filter_le _ _)
    exact hclosed.mem_of_reaches (subset_reachable _ a ha) hpath

theorem mem_closure_singleton_iff {a b : ν} : b ∈ graph.closure [a] ↔ graph.Reaches a b := by
  simp [mem_closure_iff]

instance (a b : ν) : Decidable (graph.Reaches a b) := decidable_of_iff _ mem_closure_singleton_iff

end Graph

/-! ## References of a model -/

namespace Model

variable {ρ : Type} {model : Model ρ}

/-- An edge is a reference, and leads to a class of the model. -/
theorem mem_containment_iff {id target : String} :
    (id, target) ∈ model.containment ↔ (∃ cls ∈ model.classes, cls.id = id
      ∧ ∃ field ∈ cls.fields, field.target? = some target) ∧ model.hasClass target = true := by
  simp only [containment, List.mem_flatMap, List.mem_filterMap]
  constructor
  · rintro ⟨cls, hcls, found, ⟨field, hfield, htarget⟩, hedge⟩
    split at hedge
    · rename_i hknown
      obtain ⟨rfl, rfl⟩ := Prod.mk.inj (Option.some.inj hedge)
      exact ⟨⟨cls, hcls, rfl, field, hfield, htarget⟩, hknown⟩
    · exact absurd hedge nofun
  · rintro ⟨⟨cls, hcls, rfl, field, hfield, htarget⟩, hknown⟩
    exact ⟨cls, hcls, target, ⟨field, hfield, htarget⟩, by rw [if_pos hknown]⟩

/-! ## Nodes -/

/-- The nodes are the ids, in order. -/
theorem map_fst_nodes : model.nodes.map (·.1) = model.classIds := List.zipIdx_map_fst 0 _

theorem nodup_nodes : model.nodes.Nodup := by
  have hpositions : (model.nodes.map (·.2)).Nodup := by
    rw [nodes, List.zipIdx_map_snd]
    exact List.nodup_range'
  exact List.Nodup.of_map _ hpositions

theorem mem_nodes_of_node? {id : String} {node : Node} (h : model.node? id = some node) :
    node ∈ model.nodes ∧ node.1 = id := by
  have hfound := List.find?_some h
  exact ⟨List.mem_reverse.1 (List.mem_of_find?_eq_some h), by simpa using hfound⟩

theorem node?_eq_none_iff {id : String} : model.node? id = none ↔ id ∉ model.classIds := by
  rw [← map_fst_nodes, node?, List.find?_eq_none]
  simp only [List.mem_reverse, decide_eq_true_eq, List.mem_map, not_exists, not_and]

theorem exists_node?_iff {id : String} :
    (∃ node, model.node? id = some node) ↔ id ∈ model.classIds := by
  rw [← Option.isSome_iff_exists, ← Option.ne_none_iff_isSome, Ne, node?_eq_none_iff, not_not]

/-- Where ids are distinct every node stands for its id. -/
theorem node?_of_mem_nodes (hids : model.classIds.Nodup) {node : Node} (h : node ∈ model.nodes) :
    model.node? node.1 = some node := by
  obtain ⟨found, hfound⟩ : ∃ found, model.node? node.1 = some found :=
    exists_node?_iff.2 (map_fst_nodes ▸ List.mem_map_of_mem h)
  obtain ⟨hin, hid⟩ := mem_nodes_of_node? hfound
  rw [← map_fst_nodes] at hids
  rw [hfound, List.inj_on_of_nodup_map hids hin h hid]

/-! ## Paths from node to node -/

/-- An edge of the graph is one between ids, and its nodes are those that stand for the ids. -/
theorem mem_graph_iff {a b : Node} : (a, b) ∈ model.graph ↔
    (a.1, b.1) ∈ model.containment ∧ model.node? a.1 = some a ∧ model.node? b.1 = some b := by
  rw [mem_containment_iff]
  simp only [graph, List.mem_flatMap, List.mem_filterMap, Option.bind_eq_bind,
    Option.bind_eq_some_iff, Option.some.injEq, Prod.mk.injEq]
  constructor
  · rintro ⟨cls, hcls, target, ⟨field, hfield, htarget⟩, a, ha, b, hb, rfl, rfl⟩
    obtain ⟨-, hida⟩ := mem_nodes_of_node? ha
    obtain ⟨-, hidb⟩ := mem_nodes_of_node? hb
    have hknown : model.hasClass target = true :=
      List.contains_iff_mem.2 (exists_node?_iff.1 ⟨b, hb⟩)
    rw [hida, hidb]
    exact ⟨⟨⟨cls, hcls, rfl, field, hfield, htarget⟩, hknown⟩, ha, hb⟩
  · rintro ⟨⟨⟨cls, hcls, hid, field, hfield, htarget⟩, -⟩, ha, hb⟩
    exact ⟨cls, hcls, b.1, ⟨field, hfield, htarget⟩, a, hid ▸ ha, b, hb, rfl, rfl⟩

/-- A path from node to node is a path from id to id. -/
theorem reaches_containment {a b : Node} (h : model.graph.Reaches a b) :
    model.containment.Reaches a.1 b.1 :=
  h.map fun _ _ edge => (mem_graph_iff.1 edge).1

/-- An edge between ids is one between the nodes that stand for them. -/
theorem exists_mem_graph {id target : String} (h : (id, target) ∈ model.containment) :
    ∃ a b, model.node? id = some a ∧ model.node? target = some b ∧ (a, b) ∈ model.graph := by
  obtain ⟨⟨cls, hcls, hid, -⟩, hknown⟩ := mem_containment_iff.1 h
  have hsource : id ∈ model.classIds := hid ▸ List.mem_map_of_mem hcls
  obtain ⟨a, ha⟩ := exists_node?_iff.2 hsource
  obtain ⟨b, hb⟩ := exists_node?_iff.2 (List.contains_iff_mem.1 hknown)
  obtain ⟨-, rfl⟩ := mem_nodes_of_node? ha
  obtain ⟨-, rfl⟩ := mem_nodes_of_node? hb
  exact ⟨a, b, ha, hb, mem_graph_iff.2 ⟨h, ha, hb⟩⟩

/-- A path from id to id is a path between the nodes that stand for them. -/
theorem exists_reaches_graph {id target : String} (h : model.containment.Reaches id target)
    {a : Node} (ha : model.node? id = some a) :
    ∃ b, model.node? target = some b ∧ model.graph.Reaches a b := by
  induction h with
  | refl => exact ⟨a, ha, .refl a⟩
  | step _ edge ih =>
    obtain ⟨b, hb, hpath⟩ := ih
    obtain ⟨b', c, hb', hc, hedge⟩ := exists_mem_graph edge
    obtain rfl : b = b' := Option.some.inj (hb.symm.trans hb')
    exact ⟨c, hc, hpath.step hedge⟩

/-! ## What is not visited -/

/-- Where ids are distinct a search that visits what can be reached leaves the ids that cannot. -/
theorem unvisited_eq_filter (hids : model.classIds.Nodup) {root : Node}
    (hroot : model.node? model.root = some root) {visited : List Node}
    (h : ∀ node, node ∈ visited ↔ model.graph.Reaches root node) :
    model.unvisited visited
      = model.classIds.filter fun id => ¬ model.containment.Reaches model.root id := by
  obtain ⟨-, hid⟩ := mem_nodes_of_node? hroot
  rw [unvisited, ← map_fst_nodes, List.filter_map]
  refine congrArg (List.map _) (List.filter_congr fun node hnode => ?_)
  have hpaths : node ∈ visited ↔ model.containment.Reaches model.root node.1 := by
    rw [h]
    constructor
    · intro hpath
      exact hid ▸ reaches_containment hpath
    · intro hpath
      obtain ⟨found, hfound, hreaches⟩ := exists_reaches_graph hpath hroot
      obtain rfl : node = found :=
        Option.some.inj ((node?_of_mem_nodes hids hnode).symm.trans hfound)
      exact hreaches
  simp [hpaths]

/-- A path leads to a class only from a class. -/
theorem mem_classIds_of_reaches {id target : String} (h : model.containment.Reaches id target)
    (htarget : target ∈ model.classIds) : id ∈ model.classIds := by
  rcases h.eq_or_exists_edge with rfl | ⟨next, edge, -⟩
  · exact htarget
  · obtain ⟨⟨cls, hcls, rfl, -⟩, -⟩ := mem_containment_iff.1 edge
    exact List.mem_map_of_mem hcls

/-- **The unreachable classes are those that no path leads to**, all of them if there is no root
class. -/
theorem unreachableClasses_eq_filter (hids : model.classIds.Nodup) :
    model.unreachableClasses
      = model.classIds.filter fun id => ¬ model.containment.Reaches model.root id := by
  unfold unreachableClasses
  cases hroot : model.node? model.root with
  | some root => exact unvisited_eq_filter hids hroot fun _ => Graph.mem_closure_singleton_iff
  | none =>
    refine (List.filter_eq_self.2 fun id hid => ?_).symm
    have hmissing := node?_eq_none_iff.1 hroot
    simpa using fun hpath => hmissing (mem_classIds_of_reaches hpath hid)

end Model

end DocModel
