import DocModel.Proofs.Containment
import Mathlib.Data.List.Pairwise

set_option autoImplicit false

/-! # Components and cycles

Whatever computes the strongly connected components of some nodes, what comes out puts every node
into one component: with exactly the nodes that can be reached from it and that it can be reached
from. This decides which nodes are on a cycle: those in a component of several nodes, for a path that
leaves a node within its component has a path back, and those with an edge to themselves. -/

namespace DocModel

namespace Graph

variable {ν : Type} {graph : Graph ν}

/-- Each of the two nodes can be reached from the other. -/
def Connected (graph : Graph ν) (a b : ν) : Prop := graph.Reaches a b ∧ graph.Reaches b a

theorem Connected.symm {a b : ν} (h : graph.Connected a b) : graph.Connected b a := ⟨h.2, h.1⟩

theorem Connected.trans {a b c : ν} (hab : graph.Connected a b) (hbc : graph.Connected b c) :
    graph.Connected a c :=
  ⟨hab.1.trans hbc.1, hbc.2.trans hab.2⟩

/-- No node of the one list is connected with a node of the other. -/
def Separate (graph : Graph ν) (one other : List ν) : Prop :=
  ∀ a ∈ one, ∀ b ∈ other, ¬ graph.Connected a b

instance : Std.Symm graph.Separate :=
  ⟨fun _ _ h b hb a ha hconnected => h a ha b hb hconnected.symm⟩

/-- The lists are the strongly connected components of the nodes: together they have every node
once, and nodes are connected if they are in one list and not if they are in two. -/
structure AreComponents (graph : Graph ν) (nodes : List ν) (components : List (List ν)) : Prop where
  perm : components.flatten.Perm nodes
  connected : ∀ component ∈ components, ∀ a ∈ component, ∀ b ∈ component, graph.Connected a b
  separate : components.Pairwise graph.Separate

/-! ## Placing nodes one by one -/

section Place

variable [DecidableEq ν]

theorem connects_iff {a b : ν} : graph.connects a b = true ↔ graph.Connected a b := by
  simp only [connects, Bool.and_eq_true, List.contains_iff_mem, mem_closure_singleton_iff, Connected]

instance (a b : ν) : Decidable (graph.Connected a b) := decidable_of_iff _ connects_iff

instance : DecidableRel graph.Separate := fun one other =>
  inferInstanceAs (Decidable (∀ a ∈ one, ∀ b ∈ other, ¬ graph.Connected a b))

theorem any_connects_iff {node : ν} {component : List ν} :
    component.any (graph.connects node) = true ↔ ∃ a ∈ component, graph.Connected node a := by
  simp only [List.any_eq_true, connects_iff]

variable {node : ν} {components : List (List ν)}

theorem flatten_place : (graph.place node components).flatten.Perm (node :: components.flatten) := by
  induction components with
  | nil => exact .refl _
  | cons component rest ih =>
    unfold place
    split
    · exact .refl _
    · exact (ih.append_left component).trans List.perm_middle

/-- The node is in a component of its own or in one with nodes that it is connected with; nothing
else has changed. -/
theorem mem_place {component : List ν} (h : component ∈ graph.place node components) :
    component = [node] ∨ component ∈ components
      ∨ ∃ old ∈ components, (∃ a ∈ old, graph.Connected node a) ∧ component = node :: old := by
  induction components with
  | nil => exact Or.inl (List.mem_singleton.1 h)
  | cons first rest ih =>
    unfold place at h
    split at h
    · rename_i hconnected
      rcases List.mem_cons.1 h with rfl | hrest
      · exact Or.inr (Or.inr ⟨first, List.mem_cons_self, any_connects_iff.1 hconnected, rfl⟩)
      · exact Or.inr (Or.inl (List.mem_cons_of_mem _ hrest))
    · rcases List.mem_cons.1 h with rfl | hrest
      · exact Or.inr (Or.inl List.mem_cons_self)
      · rcases ih hrest with halone | hold | ⟨old, hold, hnode⟩
        · exact Or.inl halone
        · exact Or.inr (Or.inl (List.mem_cons_of_mem _ hold))
        · exact Or.inr (Or.inr ⟨old, List.mem_cons_of_mem _ hold, hnode⟩)

theorem connected_place
    (h : ∀ component ∈ components, ∀ a ∈ component, ∀ b ∈ component, graph.Connected a b) :
    ∀ component ∈ graph.place node components,
      ∀ a ∈ component, ∀ b ∈ component, graph.Connected a b := by
  intro component hcomponent
  have hself : graph.Connected node node := ⟨.refl node, .refl node⟩
  rcases mem_place hcomponent with rfl | hold | ⟨old, hold, ⟨x, hx, hnode⟩, rfl⟩
  · intro a ha b hb
    rw [List.mem_singleton.1 ha, List.mem_singleton.1 hb]
    exact hself
  · exact h component hold
  · have hall : ∀ a ∈ node :: old, graph.Connected node a := by
      intro a ha
      rcases List.mem_cons.1 ha with rfl | ha
      · exact hself
      · exact hnode.trans (h old hold x hx a ha)
    intro a ha b hb
    exact (hall a ha).symm.trans (hall b hb)

theorem separate_place (h : components.Pairwise graph.Separate) :
    (graph.place node components).Pairwise graph.Separate := by
  induction components with
  | nil => exact List.pairwise_singleton _ _
  | cons first rest ih =>
    obtain ⟨hfirst, hrest⟩ := List.pairwise_cons.1 h
    unfold place
    split
    · rename_i hconnected
      obtain ⟨x, hx, hnode⟩ := any_connects_iff.1 hconnected
      refine List.pairwise_cons.2 ⟨fun other hother a ha b hb hab => ?_, hrest⟩
      rcases List.mem_cons.1 ha with rfl | ha
      · exact hfirst other hother x hx b hb (hnode.symm.trans hab)
      · exact hfirst other hother a ha b hb hab
    · rename_i hnone
      have hapart : ∀ a ∈ first, ¬ graph.Connected a node := fun a ha hab =>
        hnone (any_connects_iff.2 ⟨a, ha, hab.symm⟩)
      refine List.pairwise_cons.2 ⟨fun other hother a ha b hb => ?_, ih hrest⟩
      rcases mem_place hother with rfl | hold | ⟨old, hold, -, rfl⟩
      · exact List.mem_singleton.1 hb ▸ hapart a ha
      · exact hfirst other hold a ha b hb
      · rcases List.mem_cons.1 hb with rfl | hb
        · exact hapart a ha
        · exact hfirst old hold a ha b hb

theorem AreComponents.place {nodes : List ν} (h : graph.AreComponents nodes components) :
    graph.AreComponents (node :: nodes) (graph.place node components) where
  perm := flatten_place.trans (h.perm.cons node)
  connected := connected_place h.connected
  separate := separate_place h.separate

/-- **Placing the nodes one by one makes the components.** -/
theorem areComponents_components (nodes : List ν) :
    graph.AreComponents nodes (graph.components nodes) := by
  induction nodes with
  | nil => exact ⟨.refl _, nofun, .nil⟩
  | cons node nodes ih => exact ih.place

end Place

/-! ## Cycles -/

namespace AreComponents

variable {nodes : List ν} {components : List (List ν)}

theorem exists_mem (h : graph.AreComponents nodes components) {node : ν} (hnode : node ∈ nodes) :
    ∃ component ∈ components, node ∈ component :=
  List.mem_flatten.1 (h.perm.mem_iff.2 hnode)

/-- A component has all nodes that its nodes are connected with. -/
theorem mem_of_connected (h : graph.AreComponents nodes components) {component : List ν}
    (hcomponent : component ∈ components) {a b : ν} (ha : a ∈ component) (hb : b ∈ nodes)
    (hconnected : graph.Connected a b) : b ∈ component := by
  obtain ⟨other, hother, hin⟩ := h.exists_mem hb
  by_cases heq : component = other
  · exact heq ▸ hin
  · exact absurd hconnected (h.separate.forall hcomponent hother heq a ha b hin)

variable [DecidableEq ν]

/-- **A node is on a cycle exactly if its component is one of several nodes or has an edge to
itself.** -/
theorem isCyclic_iff (h : graph.AreComponents nodes components) (hnodes : nodes.Nodup)
    (hedges : ∀ a b, (a, b) ∈ graph → b ∈ nodes) {component : List ν}
    (hcomponent : component ∈ components) {node : ν} (hnode : node ∈ component) :
    graph.isCyclic component = true ↔ graph.OnCycle node := by
  have hback : ∀ next, (node, next) ∈ graph → graph.Reaches next node → next ∈ component := by
    intro next edge hpath
    exact h.mem_of_connected hcomponent hnode (hedges _ _ edge) ⟨.of_edge edge, hpath⟩
  match component, hcomponent, hnode with
  | [only], _, hnode =>
    obtain rfl := List.mem_singleton.1 hnode
    have hcyclic : graph.isCyclic [node] = true ↔ (node, node) ∈ graph := by simp [isCyclic]
    rw [hcyclic]
    constructor
    · exact fun edge => ⟨node, edge, .refl node⟩
    · rintro ⟨next, edge, hpath⟩
      obtain rfl := List.mem_singleton.1 (hback next edge hpath)
      exact edge
  | first :: second :: rest, hcomponent, hnode =>
    have hcyclic : graph.isCyclic (first :: second :: rest) = true := by simp [isCyclic]
    refine iff_of_true hcyclic ?_
    -- one of the first two nodes is another, and the path to it starts with an edge
    have hdistinct : first ≠ second := by
      have hnodup := (List.nodup_flatten.1 (h.perm.nodup_iff.2 hnodes)).1 _ hcomponent
      exact fun heq => (List.nodup_cons.1 hnodup).1 (heq ▸ List.mem_cons_self)
    obtain ⟨other, hother, hne⟩ : ∃ other ∈ first :: second :: rest, node ≠ other := by
      by_cases heq : node = first
      · exact ⟨second, List.mem_cons_of_mem _ List.mem_cons_self, heq ▸ hdistinct⟩
      · exact ⟨first, List.mem_cons_self, heq⟩
    obtain ⟨hto, hfrom⟩ := h.connected _ hcomponent node hnode other hother
    obtain ⟨next, edge, hpath⟩ := hto.eq_or_exists_edge.resolve_left hne
    exact ⟨next, edge, hpath.trans hfrom⟩

end AreComponents

end Graph

end DocModel
