import IconForge.Proofs.Drawing.Contents

/-!
# Places in drawings

The shapes of a tree of nodes, each with the steps from child to child that lead to it. Depth first
and from left to right they come in the lexicographic order of their steps
(`Node.leaves_pairwise`), so that the first shape with some property is one with no such shape at
smaller steps. What goes through the nodes of a drawing and stops at the first answer stops at the
first shape that has one, at the place of that shape (`Node.IsSearch.eq_some_iff`).
-/

namespace IconForge

namespace NodePath

/-- The place that steps from child to child lead to from another place. -/
def below (place : NodePath) (steps : List Nat) : NodePath := ⟨place.indices ++ steps⟩

theorem below_nil (place : NodePath) : place.below [] = place := by
  rw [below, List.append_nil]

theorem below_child (place : NodePath) (index : Nat) (steps : List Nat) :
    (place.child index).below steps = place.below (index :: steps) := by
  rw [below, child, below, List.append_assoc, List.singleton_append]

end NodePath

namespace Node

variable {γ ε : Type}

/-- The node that steps from child to child lead to. -/
def descend? : Node γ → List Nat → Option (Node γ)
  | node, [] => some node
  | .group children, index :: steps => children[index]?.bind fun child => child.descend? steps
  | .shape _, _ :: _ => none

mutual

/-- The shapes of a node with the steps to them, depth first and from left to right. -/
def leaves : Node γ → List (List Nat × Shape γ)
  | .group children => childLeaves children 0
  | .shape leaf => [([], leaf)]

/-- The shapes of children of one node, the first of which has a given index. -/
def childLeaves : List (Node γ) → Nat → List (List Nat × Shape γ)
  | [], _ => []
  | node :: others, index =>
    node.leaves.map (fun leaf => (index :: leaf.1, leaf.2)) ++ childLeaves others (index + 1)

end

mutual

theorem leaves_shapes (node : Node γ) : node.leaves.map Prod.snd = node.shapes := by
  match node with
  | .group children => exact childLeaves_shapes children 0
  | .shape leaf => rfl

theorem childLeaves_shapes (nodes : List (Node γ)) (index : Nat) :
    (childLeaves nodes index).map Prod.snd = allShapes nodes := by
  match nodes with
  | [] => rfl
  | node :: others =>
    rw [childLeaves, List.map_append, List.map_map, childLeaves_shapes others, allShapes,
      ← leaves_shapes node]
    rfl

end

mutual

theorem mem_leaves_iff (node : Node γ) (steps : List Nat) (leaf : Shape γ) :
    (steps, leaf) ∈ node.leaves ↔ node.descend? steps = some (.shape leaf) := by
  match node, steps with
  | .group children, [] => simp [leaves, descend?, mem_childLeaves_iff children]
  | .group children, index :: steps =>
    simp [leaves, descend?, mem_childLeaves_iff children, Option.bind_eq_some_iff]
  | .shape other, [] => simp [leaves, descend?, eq_comm]
  | .shape other, index :: steps => simp [leaves, descend?]

theorem mem_childLeaves_iff (nodes : List (Node γ)) (index : Nat) (steps : List Nat)
    (leaf : Shape γ) :
    (steps, leaf) ∈ childLeaves nodes index ↔ ∃ i rest, steps = (index + i) :: rest ∧
      ∃ node, nodes[i]? = some node ∧ node.descend? rest = some (.shape leaf) := by
  match nodes with
  | [] => simp [childLeaves]
  | node :: others =>
    rw [childLeaves, List.mem_append, mem_childLeaves_iff others]
    constructor
    · rintro (hfirst | ⟨i, rest, rfl, hchild⟩)
      · obtain ⟨⟨rest, other⟩, hmem, heq⟩ := List.mem_map.mp hfirst
        cases heq
        exact ⟨0, rest, rfl, node, rfl, (mem_leaves_iff node rest other).mp hmem⟩
      · exact ⟨i + 1, rest, by rw [Nat.add_right_comm, Nat.add_assoc], hchild⟩
    · rintro ⟨i, rest, rfl, child, hchild, hleaf⟩
      cases i with
      | zero =>
        cases hchild
        exact .inl (List.mem_map.mpr ⟨_, (mem_leaves_iff node rest leaf).mpr hleaf, rfl⟩)
      | succ i =>
        exact .inr ⟨i, rest, by rw [Nat.add_right_comm, Nat.add_assoc], child, hchild, hleaf⟩

end

mutual

theorem leaves_pairwise (node : Node γ) : node.leaves.Pairwise fun a b => a.1 < b.1 := by
  match node with
  | .group children => exact childLeaves_pairwise children 0
  | .shape leaf => exact List.pairwise_singleton _ _

theorem childLeaves_pairwise (nodes : List (Node γ)) (index : Nat) :
    (childLeaves nodes index).Pairwise fun a b => a.1 < b.1 := by
  match nodes with
  | [] => exact .nil
  | node :: others =>
    rw [childLeaves, List.pairwise_append, List.pairwise_map]
    refine ⟨?_, childLeaves_pairwise others (index + 1), ?_⟩
    · exact (leaves_pairwise node).imp fun hlt => List.cons_lt_cons_iff.mpr (.inr ⟨rfl, hlt⟩)
    · rintro first hfirst ⟨steps, leaf⟩ hother
      obtain ⟨own, -, rfl⟩ := List.mem_map.mp hfirst
      obtain ⟨i, rest, rfl, -⟩ := (mem_childLeaves_iff others (index + 1) steps leaf).mp hother
      exact List.cons_lt_cons_iff.mpr (.inl (by omega))

end

/-- A shape with a property, at the end of certain steps, and no such shape at smaller steps. -/
structure IsFirst (node : Node γ) (P : Shape γ → Prop) (steps : List Nat) (leaf : Shape γ) :
    Prop where
  descend?_eq : node.descend? steps = some (.shape leaf)
  holds : P leaf
  earlier : ∀ steps' leaf', steps' < steps → node.descend? steps' = some (.shape leaf') → ¬ P leaf'

section

variable {node : Node γ} {P : Shape γ → Prop} {found : List Nat → Shape γ → Option ε}

/-- The first answer that some shape gives is that of the first shape that gives one. -/
theorem findSome?_leaves (hfound : ∀ steps leaf, found steps leaf = none ↔ ¬ P leaf) (e : ε) :
    node.leaves.findSome? (fun l => found l.1 l.2) = some e ↔
      ∃ steps leaf, node.IsFirst P steps leaf ∧ found steps leaf = some e := by
  rw [List.findSome?_eq_some_iff]
  constructor
  · rintro ⟨before, ⟨steps, leaf⟩, after, hsplit, he, hnone⟩
    have hsorted := leaves_pairwise node
    rw [hsplit, List.pairwise_append, List.pairwise_cons] at hsorted
    have hmem : (steps, leaf) ∈ node.leaves := hsplit ▸ List.mem_append_right _ List.mem_cons_self
    refine ⟨steps, leaf, ⟨(mem_leaves_iff node steps leaf).mp hmem, ?_, ?_⟩, he⟩
    · by_contra hnot
      rw [(hfound steps leaf).mpr hnot] at he
      cases he
    · intro steps' leaf' hlt hdescend
      have hmem' := (mem_leaves_iff node steps' leaf').mpr hdescend
      rw [hsplit, List.mem_append, List.mem_cons] at hmem'
      rcases hmem' with hbefore | heq | hafter
      · exact (hfound steps' leaf').mp (hnone _ hbefore)
      · cases heq
        exact absurd hlt (lt_irrefl steps)
      · exact absurd (hsorted.2.1.1 _ hafter) (lt_asymm hlt)
  · rintro ⟨steps, leaf, hfirst, he⟩
    obtain ⟨before, after, hsplit⟩ :=
      List.append_of_mem ((mem_leaves_iff node steps leaf).mpr hfirst.descend?_eq)
    refine ⟨before, (steps, leaf), after, hsplit, he, ?_⟩
    rintro ⟨steps', leaf'⟩ hbefore
    have hsorted := leaves_pairwise node
    rw [hsplit, List.pairwise_append] at hsorted
    have hmem : (steps', leaf') ∈ node.leaves := hsplit ▸ List.mem_append_left _ hbefore
    rw [hfound]
    exact hfirst.earlier steps' leaf' (hsorted.2.2 _ hbefore _ List.mem_cons_self)
      ((mem_leaves_iff node steps' leaf').mp hmem)

theorem findSome?_leaves_eq_none_iff
    (hfound : ∀ steps leaf, found steps leaf = none ↔ ¬ P leaf) :
    node.leaves.findSome? (fun l => found l.1 l.2) = none ↔ ∀ leaf ∈ node.shapes, ¬ P leaf := by
  rw [List.findSome?_eq_none_iff, ← leaves_shapes node, List.forall_mem_map]
  simp only [hfound]

end

/-! ### Searches -/

/-- Answers to nodes, and to children of one node, that are asked of one shape after another, each
at its place. -/
structure IsSearch (ofShape : Shape γ → NodePath → Option ε)
    (answer : Node γ → NodePath → Option ε)
    (answers : List (Node γ) → NodePath → Nat → Option ε) : Prop where
  shape : ∀ leaf place, answer (.shape leaf) place = ofShape leaf place
  group : ∀ children place, answer (.group children) place = answers children place 0
  nil : ∀ parent index, answers [] parent index = none
  cons : ∀ node others parent index, answers (node :: others) parent index =
    (answer node (parent.child index)).or (answers others parent (index + 1))

namespace IsSearch

variable {ofShape : Shape γ → NodePath → Option ε} {answer : Node γ → NodePath → Option ε}
  {answers : List (Node γ) → NodePath → Nat → Option ε}

mutual

theorem answer_eq (h : IsSearch ofShape answer answers) (node : Node γ) (place : NodePath) :
    answer node place = node.leaves.findSome? fun l => ofShape l.2 (place.below l.1) := by
  match node with
  | .group children =>
    rw [h.group, h.answers_eq children, leaves]
  | .shape leaf =>
    rw [h.shape, leaves, List.findSome?_singleton, NodePath.below_nil]

theorem answers_eq (h : IsSearch ofShape answer answers) (nodes : List (Node γ))
    (parent : NodePath) (index : Nat) :
    answers nodes parent index =
      (childLeaves nodes index).findSome? fun l => ofShape l.2 (parent.below l.1) := by
  match nodes with
  | [] => rw [h.nil, childLeaves, List.findSome?_nil]
  | node :: others =>
    rw [h.cons, h.answer_eq node, h.answers_eq others, childLeaves, List.findSome?_append,
      List.findSome?_map]
    simp only [NodePath.below_child, Function.comp_def]

end

variable {P : Shape γ → Prop} {nodes : List (Node γ)} {parent : NodePath}

theorem eq_some_iff (h : IsSearch ofShape answer answers)
    (hshape : ∀ leaf place, ofShape leaf place = none ↔ ¬ P leaf) {e : ε} :
    answers nodes parent 0 = some e ↔ ∃ steps leaf,
      (Node.group nodes).IsFirst P steps leaf ∧ ofShape leaf (parent.below steps) = some e := by
  rw [← h.group, h.answer_eq]
  exact findSome?_leaves (fun steps leaf => hshape leaf (parent.below steps)) e

theorem eq_none_iff (h : IsSearch ofShape answer answers)
    (hshape : ∀ leaf place, ofShape leaf place = none ↔ ¬ P leaf) :
    answers nodes parent 0 = none ↔ ∀ leaf ∈ allShapes nodes, ¬ P leaf := by
  rw [← h.group, h.answer_eq]
  exact findSome?_leaves_eq_none_iff fun steps leaf => hshape leaf (parent.below steps)

end IsSearch
end Node
end IconForge
