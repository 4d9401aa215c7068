import DocModel.Proofs.Components
import Mathlib.Data.List.Flatten
import Mathlib.Data.List.Perm.Basic

set_option autoImplicit false

/-! # Classes that contain themselves and classes that nothing contains

Both are found in the graph of nodes, and said here of the references between ids. The nodes on a
cycle stand for their ids, so sorting the ids of the cyclic components lists the ids on a cycle once
each; whether an id is on a cycle depends on which references there are and not on their order. -/

namespace DocModel

namespace Model

variable {ρ : Type} {model : Model ρ}

/-! ## Cycles of nodes -/

/-- An id is on a cycle exactly if the node that stands for it is. -/
theorem onCycle_containment_iff {id : String} :
    model.containment.OnCycle id
      ↔ ∃ node, model.node? id = some node ∧ model.graph.OnCycle node := by
  constructor
  · rintro ⟨next, edge, hpath⟩
    obtain ⟨a, b, ha, hb, hedge⟩ := exists_mem_graph edge
    obtain ⟨back, hback, hreaches⟩ := exists_reaches_graph hpath hb
    obtain rfl : a = back := Option.some.inj (ha.symm.trans hback)
    exact ⟨a, ha, b, hedge, hreaches⟩
  · rintro ⟨node, hnode, next, hedge, hreaches⟩
    obtain ⟨-, rfl⟩ := mem_nodes_of_node? hnode
    exact ⟨next.1, (mem_graph_iff.1 hedge).1, reaches_containment hreaches⟩

/-- Only nodes that stand for an id are on a cycle. -/
theorem node?_of_onCycle {node : Node} (h : model.graph.OnCycle node) :
    model.node? node.1 = some node := by
  obtain ⟨next, edge, -⟩ := h
  exact (mem_graph_iff.1 edge).2.1

section Components

variable {components : List (List Node)}

theorem mem_cyclicIds {id : String} : id ∈ model.cyclicIds components ↔
    ∃ component ∈ components, model.graph.isCyclic component = true
      ∧ ∃ node ∈ component, node.1 = id := by
  simp only [cyclicIds, List.mem_mergeSort, List.mem_flatMap, List.mem_filter, List.mem_map,
    and_assoc]

/-- Every node in a cyclic component is on a cycle. -/
theorem onCycle_iff_isCyclic (h : model.graph.AreComponents model.nodes components)
    {component : List Node} (hcomponent : component ∈ components) {node : Node}
    (hnode : node ∈ component) : model.graph.isCyclic component = true ↔ model.graph.OnCycle node :=
  h.isCyclic_iff nodup_nodes
    (fun _ _ edge => (mem_nodes_of_node? (mem_graph_iff.1 edge).2.2).1) hcomponent hnode

/-- The ids of the cyclic components are those on a cycle. -/
theorem mem_cyclicIds_iff_onCycle (h : model.graph.AreComponents model.nodes components)
    {id : String} : id ∈ model.cyclicIds components ↔ model.containment.OnCycle id := by
  rw [mem_cyclicIds, onCycle_containment_iff]
  constructor
  · rintro ⟨component, hcomponent, hcyclic, node, hnode, rfl⟩
    have honCycle := (onCycle_iff_isCyclic h hcomponent hnode).1 hcyclic
    exact ⟨node, node?_of_onCycle honCycle, honCycle⟩
  · rintro ⟨node, hfound, honCycle⟩
    obtain ⟨hin, hid⟩ := mem_nodes_of_node? hfound
    obtain ⟨component, hcomponent, hnode⟩ := h.exists_mem hin
    exact ⟨component, hcomponent, (onCycle_iff_isCyclic h hcomponent hnode).2 honCycle, node, hnode,
      hid⟩

/-- No id is listed for two nodes. -/
theorem nodup_cyclicIds (h : model.graph.AreComponents model.nodes components) :
    (model.cyclicIds components).Nodup := by
  have hcyclic : ∀ node ∈ (components.filter model.graph.isCyclic).flatten,
      model.node? node.1 = some node := by
    intro node hnode
    obtain ⟨component, hcomponent, hin⟩ := List.mem_flatten.1 hnode
    obtain ⟨hcomponent, hcyclic⟩ := List.mem_filter.1 hcomponent
    exact node?_of_onCycle ((onCycle_iff_isCyclic h hcomponent hin).1 hcyclic)
  have hnodes : (components.filter model.graph.isCyclic).flatten.Nodup :=
    (h.perm.nodup_iff.2 nodup_nodes).sublist (List.filter_sublist.flatten)
  have hids := hnodes.map_on (f := fun node : Node => node.1) fun a ha b hb hsame =>
    Option.some.inj ((hcyclic a ha).symm.trans (hsame ▸ hcyclic b hb))
  rw [List.map_flatten, ← List.flatMap_def] at hids
  exact (List.mergeSort_perm _ _).nodup_iff.2 hids

/-- The ids ascend, none is listed twice. -/
theorem pairwise_cyclicIds (h : model.graph.AreComponents model.nodes components) :
    (model.cyclicIds components).Pairwise (· < ·) := by
  have hsorted : (model.cyclicIds components).Pairwise (· ≤ ·) := by
    have htrans : ∀ a b c : String, decide (a ≤ b) = true → decide (b ≤ c) = true →
        decide (a ≤ c) = true := by
      simpa using fun a b c => String.le_trans
    have htotal : ∀ a b : String, (decide (a ≤ b) || decide (b ≤ a)) = true := by
      simpa using String.le_total
    exact (List.pairwise_mergeSort htrans htotal _).imp of_decide_eq_true
  refine (hsorted.and (nodup_cyclicIds h)).imp ?_
  rintro a b ⟨hle, hne⟩
  exact Classical.byContradiction fun hlt => hne (String.le_antisymm hle (String.not_lt.1 hlt))

/-- Whatever finds the components, the same ids are listed. -/
theorem cyclicIds_eq {other : Model ρ} {others : List (List Node)}
    (h : model.graph.AreComponents model.nodes components)
    (hother : other.graph.AreComponents other.nodes others)
    (hsame : ∀ id, model.containment.OnCycle id ↔ other.containment.OnCycle id) :
    model.cyclicIds components = other.cyclicIds others := by
  have hperm : (model.cyclicIds components).Perm (other.cyclicIds others) := by
    refine (List.perm_ext_iff_of_nodup (nodup_cyclicIds h) (nodup_cyclicIds hother)).2 fun id => ?_
    rw [mem_cyclicIds_iff_onCycle h, mem_cyclicIds_iff_onCycle hother, hsame]
  refine hperm.eq_of_pairwise (fun a b _ _ hab hba => ?_) (pairwise_cyclicIds h)
    (pairwise_cyclicIds hother)
  exact absurd (String.lt_trans hab hba) (String.lt_irrefl a)

end Components

/-! ## The order of classes and fields -/

/-- The classes have one id and the same fields, in any order. -/
def Class.Reordered (cls other : Class ρ) : Prop := cls.id = other.id ∧ cls.fields.Perm other.fields

/-- The models have the same classes, in any order and with their fields in any order. -/
def Reordered (model other : Model ρ) : Prop :=
  ∃ classes, model.classes.Perm classes ∧ List.Forall₂ Class.Reordered classes other.classes

variable {other : Model ρ}

theorem Reordered.exists_class (h : model.Reordered other) {cls : Class ρ}
    (hcls : cls ∈ model.classes) : ∃ same ∈ other.classes, cls.Reordered same := by
  obtain ⟨classes, hperm, hsame⟩ := h
  have hin := hperm.mem_iff.1 hcls
  generalize other.classes = others at hsame
  clear hperm
  induction hsame with
  | nil => exact absurd hin List.not_mem_nil
  | cons hfirst _ ih =>
    rcases List.mem_cons.1 hin with rfl | hrest
    · exact ⟨_, List.mem_cons_self, hfirst⟩
    · obtain ⟨same, hsame, hreordered⟩ := ih hrest
      exact ⟨same, List.mem_cons_of_mem _ hsame, hreordered⟩

theorem Reordered.symm (h : model.Reordered other) : other.Reordered model := by
  obtain ⟨classes, hsame, hperm⟩ : Relation.Comp (List.Forall₂ Class.Reordered) List.Perm
      model.classes other.classes :=
    List.forall₂_comp_perm_eq_perm_comp_forall₂ ▸ h
  exact ⟨classes, hperm.symm, (hsame.imp fun _ _ hcls => ⟨hcls.1.symm, hcls.2.symm⟩).flip⟩

/-- The references are the same. -/
theorem Reordered.mem_containment (h : model.Reordered other) {edge : String × String}
    (hedge : edge ∈ model.containment) : edge ∈ other.containment := by
  obtain ⟨⟨cls, hcls, hid, field, hfield, htarget⟩, hknown⟩ := mem_containment_iff.1 hedge
  obtain ⟨same, hsame, hsameId, hperm⟩ := h.exists_class hcls
  refine mem_containment_iff.2 ⟨⟨same, hsame, hsameId ▸ hid, field, hperm.mem_iff.1 hfield,
    htarget⟩, ?_⟩
  obtain ⟨target, htarget, htargetId⟩ := List.mem_map.1 (List.contains_iff_mem.1 hknown)
  obtain ⟨there, hthere, hthereId, -⟩ := h.exists_class htarget
  exact List.contains_iff_mem.2 (List.mem_map.2 ⟨there, hthere, hthereId ▸ htargetId⟩)

theorem Reordered.onCycle_iff (h : model.Reordered other) {id : String} :
    model.containment.OnCycle id ↔ other.containment.OnCycle id := by
  have hkeep : ∀ {one another : Model ρ}, one.Reordered another →
      one.containment.OnCycle id → another.containment.OnCycle id := by
    rintro one another hreordered ⟨next, edge, hpath⟩
    refine ⟨next, hreordered.mem_containment edge, ?_⟩
    exact hpath.map (f := fun id => id) fun _ _ => hreordered.mem_containment
  exact ⟨hkeep h, hkeep h.symm⟩

/-! ## What a validation reports -/

variable [Ratio ρ]

/-- **The recursive classes are those on a cycle of references**, each once and in ascending order.
They can be read off any list of the components, and the order of classes and fields does not
matter. -/
theorem recursive_iff_onCycle (model : Model ρ) :
    (∀ id, id ∈ model.validate.recursive ↔ model.containment.OnCycle id)
      ∧ model.validate.recursive.Pairwise (· < ·)
      ∧ (∀ components, model.graph.AreComponents model.nodes components →
          model.cyclicIds components = model.validate.recursive)
      ∧ ∀ other : Model ρ, model.Reordered other →
          other.validate.recursive = model.validate.recursive := by
  have hfound : model.graph.AreComponents model.nodes (model.graph.components model.nodes) :=
    Graph.areComponents_components _
  refine ⟨fun id => mem_cyclicIds_iff_onCycle hfound, pairwise_cyclicIds hfound, ?_, ?_⟩
  · intro components hcomponents
    exact cyclicIds_eq hcomponents hfound fun _ => Iff.rfl
  · intro other hreordered
    exact cyclicIds_eq (Graph.areComponents_components other.nodes) hfound fun _ =>
      hreordered.onCycle_iff.symm

/-- Classes on two cycles that touch, one with parallel references to itself, one with a member of
its own type that is no reference, and a second class with the id of the first one. -/
def entangled : Model Rat where
  name := "entangled"
  nsUri := ""
  nsPrefix := ""
  root := "A"
  classes :=
    [⟨"D", [.new "next" (.instanceOf "D") .one true, .new "last" (.instanceOf "D") .one true], 1⟩,
      ⟨"A", [.new "b" (.instanceOf "B") .one false, .new "lost" (.instanceOf "Z") .one false], 1⟩,
      ⟨"A", [.new "n" (.scalar .integer) .one true], 1⟩,
      ⟨"B", [.new "c" (.instanceOf "C") .many true, .new "a" (.instanceOf "A") .one true], 1⟩,
      ⟨"C", [.new "b" (.instanceOf "B") .one true], 1⟩,
      ⟨"E", [.new "d" (.instanceOf "D") .one true, ⟨"e", .attribute, .instanceOf "E", .one, true, 1,
        none⟩, ⟨"s", .reference, .scalar .string, .one, true, 1, none⟩], 1⟩]

/-- The components of the graph in another order, and the model with its classes turned around. -/
theorem recursive_entangled :
    entangled.validate.recursive = ["A", "B", "C", "D"]
      ∧ entangled.cyclicIds [[("D", 0)], [("A", 1)], [("C", 4), ("B", 3), ("A", 2)], [("E", 5)]]
        = ["A", "B", "C", "D"]
      ∧ ({ entangled with classes := entangled.classes.reverse } : Model Rat).validate.recursive
        = ["A", "B", "C", "D"]
      ∧ entangled.containment.OnCycle "C" ∧ ¬ entangled.containment.OnCycle "E" := by
  obtain ⟨honCycle, -, hcomponents, hreordered⟩ := recursive_iff_onCycle entangled
  have hrecursive : entangled.validate.recursive = ["A", "B", "C", "D"] := by
    have hids : ((entangled.graph.components entangled.nodes).filter
        entangled.graph.isCyclic).flatMap (·.map (·.1)) = ["A", "B", "C", "D"] := by decide +kernel
    exact (congrArg (List.mergeSort · _) hids).trans (List.mergeSort_of_pairwise (by decide))
  refine ⟨hrecursive, hrecursive ▸ hcomponents _ ⟨?_, ?_, ?_⟩, hrecursive ▸ hreordered _ ?_, ?_, ?_⟩
  · decide +kernel
  · decide +kernel
  · decide +kernel
  · exact ⟨entangled.classes.reverse, (List.reverse_perm _).symm,
      List.forall₂_same.2 fun _ _ => ⟨rfl, .refl _⟩⟩
  · exact (honCycle "C").1 (by rw [hrecursive]; decide)
  · exact fun h => absurd ((honCycle "E").2 h) (by rw [hrecursive]; decide)

/-- **The unreachable classes are those that no path of references leads to from the root class**,
in the order of the classes. Any search that visits what can be reached finds the same ones, and all
classes are unreachable if none is the root. -/
theorem unreachable_eq_not_reached (model : Model ρ) (hids : model.classIds.Nodup) :
    model.validate.unreachable
        = (model.classIds.filter fun id => ¬ model.containment.Reaches model.root id)
      ∧ (model.root ∉ model.classIds → model.validate.unreachable = model.classIds)
      ∧ ∀ root visited, model.node? model.root = some root →
          (∀ node, node ∈ visited ↔ model.graph.Reaches root node) →
          model.unvisited visited = model.validate.unreachable := by
  have hunreachable : model.validate.unreachable
      = model.classIds.filter fun id => ¬ model.containment.Reaches model.root id :=
    unreachableClasses_eq_filter hids
  refine ⟨hunreachable, ?_, ?_⟩
  · intro hmissing
    rw [hunreachable, List.filter_eq_self]
    intro id hid
    simpa using fun hpath => hmissing (mem_classIds_of_reaches hpath hid)
  · intro root visited hroot hvisited
    rw [hunreachable]
    exact unvisited_eq_filter hids hroot hvisited

/-- A cycle, a reference to nothing, one that is a string, and a class that only a member that is no
reference has as its type. -/
def scattered : Model Rat where
  name := "scattered"
  nsUri := ""
  nsPrefix := ""
  root := "B"
  classes :=
    [⟨"A", [.new "b" (.instanceOf "B") .one false], 1⟩,
      ⟨"B", [.new "c" (.instanceOf "C") .many true, .new "lost" (.instanceOf "Z") .one true], 1⟩,
      ⟨"C", [.new "b" (.instanceOf "B") .one true, ⟨"d", .attribute, .instanceOf "D", .one, true, 1,
        none⟩, ⟨"s", .reference, .scalar .string, .one, true, 1, none⟩], 1⟩,
      ⟨"D", [.new "d" (.instanceOf "D") .one true], 1⟩]

/-- A search that takes the two classes on the cycle in either order, and a root that is missing. -/
theorem unreachable_scattered :
    scattered.validate.unreachable = ["A", "D"]
      ∧ scattered.unvisited [("C", 2), ("B", 1)] = ["A", "D"]
      ∧ ({ scattered with root := "Z" } : Model Rat).validate.unreachable
        = ["A", "B", "C", "D"] := by
  have hids : scattered.classIds.Nodup := by decide
  obtain ⟨hunreachable, -, hvisited⟩ := unreachable_eq_not_reached scattered hids
  obtain ⟨-, hmissing, -⟩ := unreachable_eq_not_reached { scattered with root := "Z" } hids
  have hfound : scattered.validate.unreachable = ["A", "D"] := hunreachable.trans (by decide +kernel)
  have hroot : scattered.node? scattered.root = some ("B", 1) := by decide +kernel
  refine ⟨hfound, hfound ▸ hvisited _ _ hroot fun node => ?_, hmissing (by decide)⟩
  have hclosure : scattered.graph.closure [("B", 1)] = [("B", 1), ("C", 2)] := by decide +kernel
  rw [← Graph.mem_closure_singleton_iff, hclosure]
  simp [or_comm]

end Model

end DocModel
