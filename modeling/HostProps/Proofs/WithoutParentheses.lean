import HostProps.Proofs.ExactInjection
import HostProps.Proofs.Parentheses

/-!
# Without Parentheses

A tree is rewritten from the bottom up by putting what is in parentheses in their place
(`Node.withoutParens`). No parentheses are left then. What is found by looking through the
parentheses around a node is what is left of that node, so a form that is looked for up to
parentheses is there after the rewriting if it was there before, with other parts
(`Node.upToParens_withoutParens_iff`).

Where parentheses are not looked through they must not stand, or dropping them would uncover what
was hidden. The syntax sees to that: there are parentheses around expressions only, and keys of
properties are none (`Node.ParensInPlace`).

## Main results

* `Node.isParens_of_mem_nodes_withoutParens`: no parentheses are left.
* `Node.upToParens_withoutParens_iff`: what is found by looking through parentheses.
* `Node.ParensInPlace.withoutParens_eq_mk_iff`: what is found without looking through any.
-/

namespace HostProps

/-- Is this construct an expression? -/
def Form.isExpression : Form → Bool
  | .this | .array | .object | .call | .new | .member | .superMember | .sequenceExpression
  | .conditional | .await | .parenthesis | .template | .taggedTemplate | .null | .jsxElement
  | .jsxFragment | .jsxMember | .jsxNamespacedName | .jsxEmpty => true
  | _ => false

/-- Is a node with this head an expression? Only these may stand in parentheses. -/
def Head.isExpression : Head → Bool
  | .plain form _ => form.isExpression
  | .reference _ _ | .privateName _ _ | .string _ _ _ | .number _ _ _ | .bigInt _ _ _
  | .boolean _ _ | .regExp _ _ _ | .function .expression _ _ _ | .arrow _ _
  | .classDefinition false _ | .unary _ _ | .update _ _ _ | .binary _ _ | .assignment _ _
  | .yield _ _ | .metaProperty _ _ | .optionalChain _ _ | .jsxText _ _ _ | .foreign _ => true
  | _ => false

namespace Node

/-! ### Dropping parentheses -/

/-- Is this an expression in parentheses? -/
def isParens : Node → Bool
  | plain .parenthesis _ [_] => true
  | _ => false

/-- The expression in parentheses in place of them. -/
def dropParens : Node → Node
  | plain .parenthesis _ [e] => e
  | n => n

/-- A tree without parentheses, each replaced by what is inside. -/
def withoutParens (n : Node) : Node := n.bottomUp dropParens

/-- Parentheses around an expression. -/
theorem isParens_iff {n : Node} : n.isParens = true ↔ ∃ o e, n = plain .parenthesis o [e] := by
  constructor
  · intro h
    rw [isParens.eq_def] at h
    split at h
    · rename_i o e
      exact ⟨o, e, rfl⟩
    · cases h
  · rintro ⟨o, e, rfl⟩
    rfl

/-- Other nodes are left alone. -/
theorem dropParens_of_not_isParens {n : Node} (h : n.isParens = false) : n.dropParens = n := by
  rw [dropParens.eq_def]
  split
  · cases h
  · rfl

/-- Changing the parts of a node does not make it parentheses. -/
theorem isParens_map (f : Node → Node) (h : Head) (ps : List Node) :
    (mk h (ps.map f)).isParens = (mk h ps).isParens := by
  rw [Bool.eq_iff_iff, isParens_iff, isParens_iff]
  constructor
  · rintro ⟨o, e, heq⟩
    obtain ⟨rfl, hps⟩ := Node.mk.inj heq
    obtain ⟨e', rfl, -⟩ := List.map_eq_singleton_iff.1 hps
    exact ⟨o, e', rfl⟩
  · rintro ⟨o, e, heq⟩
    obtain ⟨rfl, rfl⟩ := Node.mk.inj heq
    exact ⟨o, f e, rfl⟩

/-- What is in parentheses stands for them. -/
theorem withoutParens_parens (o : Origin) (e : Node) :
    (plain .parenthesis o [e]).withoutParens = e.withoutParens := by
  rw [withoutParens, plain, bottomUp, bottomUpParts_eq_map]
  rfl

/-- In all other nodes the parentheses of the parts are dropped. -/
theorem withoutParens_mk {h : Head} {ps : List Node} (hparens : (mk h ps).isParens = false) :
    (mk h ps).withoutParens = mk h (ps.map withoutParens) := by
  rw [withoutParens, bottomUp, bottomUpParts_eq_map]
  exact dropParens_of_not_isParens ((isParens_map _ h ps).trans hparens)

/-- **What is left is not in parentheses.** -/
theorem isParens_withoutParens (n : Node) : n.withoutParens.isParens = false := by
  induction n with
  | mk h ps ih =>
      cases hparens : (mk h ps).isParens with
      | false => rw [withoutParens_mk hparens, isParens_map, hparens]
      | true =>
          obtain ⟨o, e, heq⟩ := isParens_iff.1 hparens
          obtain ⟨rfl, rfl⟩ := Node.mk.inj heq
          rw [← plain, withoutParens_parens]
          exact ih e (List.mem_singleton_self e)

/-- **Nor is anything inside.** -/
theorem isParens_of_mem_nodes_withoutParens (n : Node) :
    ∀ m ∈ n.withoutParens.nodes, m.isParens = false := by
  induction n with
  | mk h ps ih =>
      cases hparens : (mk h ps).isParens with
      | false =>
          intro m hm
          rw [withoutParens_mk hparens, nodes_mk] at hm
          rcases List.mem_cons.1 hm with rfl | hm
          · rw [isParens_map, hparens]
          · rw [List.flatMap_map] at hm
            obtain ⟨p, hp, hm⟩ := List.mem_flatMap.1 hm
            exact ih p hp m hm
      | true =>
          obtain ⟨o, e, heq⟩ := isParens_iff.1 hparens
          obtain ⟨rfl, rfl⟩ := Node.mk.inj heq
          rw [← plain, withoutParens_parens]
          exact ih e (List.mem_singleton_self e)

/-! ### Looking through parentheses -/

/-- Parentheses around an expression make no difference without parentheses. -/
theorem UpToParens.withoutParens_eq {n e : Node} (h : n.UpToParens e) :
    n.withoutParens = e.withoutParens := by
  induction h with
  | refl => rfl
  | parenthesis o _ ih => rw [withoutParens_parens, ih]

/-- Without parentheses there is nothing to look through. -/
theorem upToParens_iff_eq {n e : Node} (hn : n.isParens = false) : n.UpToParens e ↔ n = e := by
  constructor
  · rintro (_ | ⟨o, _⟩)
    · rfl
    · cases hn
  · rintro rfl
    exact .refl n

/-- **The expression inside of all parentheses** around a tree, with the parentheses of its parts
dropped, is what is left of the tree. -/
theorem withoutParens_eq_mk_iff {n : Node} {h : Head} {ps : List Node}
    (hparens : (mk h ps).isParens = false) :
    n.withoutParens = mk h ps ↔ ∃ qs, n.UpToParens (mk h qs) ∧ qs.map withoutParens = ps := by
  constructor
  · intro hn
    induction n with
    | mk hd rs ih =>
        cases hd' : (mk hd rs).isParens with
        | false =>
            rw [withoutParens_mk hd'] at hn
            obtain ⟨rfl, hps⟩ := Node.mk.inj hn
            exact ⟨rs, .refl _, hps⟩
        | true =>
            obtain ⟨o, e, heq⟩ := isParens_iff.1 hd'
            obtain ⟨rfl, rfl⟩ := Node.mk.inj heq
            rw [← plain, withoutParens_parens] at hn
            obtain ⟨qs, hqs, hmap⟩ := ih e (List.mem_singleton_self e) hn
            exact ⟨qs, .parenthesis o hqs, hmap⟩
  · rintro ⟨qs, hqs, rfl⟩
    rw [isParens_map] at hparens
    rw [hqs.withoutParens_eq, withoutParens_mk hparens]

/-- The same for what is found by looking through parentheses. -/
theorem upToParens_withoutParens_iff {n : Node} {h : Head} {ps : List Node}
    (hparens : (mk h ps).isParens = false) :
    n.withoutParens.UpToParens (mk h ps) ↔
      ∃ qs, n.UpToParens (mk h qs) ∧ qs.map withoutParens = ps := by
  rw [upToParens_iff_eq n.isParens_withoutParens, withoutParens_eq_mk_iff hparens]

/-! ### Where parentheses may stand -/

/-- Does a node keep to the syntax with its parentheses? There is an expression in them, and the key
of a property of a pattern is not in parentheses. -/
def keepsParensInPlace : Node → Bool
  | plain .parenthesis _ [e] => e.head.isExpression
  | plain .keyValuePattern _ [key, _] => !key.isParens
  | _ => true

/-- All nodes of a tree keep to the syntax with their parentheses. The syntax of programs has no
others, so this says no more than that a tree is one of a program. -/
def ParensInPlace (n : Node) : Prop := ∀ m ∈ n.nodes, m.keepsParensInPlace = true

instance (n : Node) : Decidable n.ParensInPlace :=
  inferInstanceAs (Decidable (∀ m ∈ n.nodes, m.keepsParensInPlace = true))

/-- What is no expression is not in parentheses, since these are one. -/
theorem isParens_eq_false_of_not_isExpression {h : Head} (hh : h.isExpression = false)
    (ps : List Node) : (mk h ps).isParens = false := by
  rw [Bool.eq_false_iff, ne_eq, isParens_iff]
  rintro ⟨o, e, heq⟩
  obtain ⟨rfl, -⟩ := Node.mk.inj heq
  cases hh

namespace ParensInPlace

variable {n : Node}

/-- The parentheses are in place in all nodes of a tree. -/
theorem of_mem_nodes {m : Node} (hn : n.ParensInPlace) (hm : m ∈ n.nodes) : m.ParensInPlace := by
  induction n with
  | mk h ps ih =>
      rw [ParensInPlace, nodes_mk, List.forall_mem_cons] at hn
      rw [nodes_mk] at hm
      rcases List.mem_cons.1 hm with rfl | hm
      · rw [ParensInPlace, nodes_mk, List.forall_mem_cons]
        exact hn
      · obtain ⟨p, hp, hm⟩ := List.mem_flatMap.1 hm
        exact ih p hp (fun q hq => hn.2 q (List.mem_flatMap.2 ⟨p, hp, hq⟩)) hm

/-- So they are in its parts. -/
theorem of_mem_parts {h : Head} {ps : List Node} (hn : (mk h ps).ParensInPlace) {p : Node}
    (hp : p ∈ ps) : p.ParensInPlace := by
  refine hn.of_mem_nodes ?_
  rw [nodes_mk]
  exact List.mem_cons_of_mem _ (List.mem_flatMap.2 ⟨p, hp, p.mem_nodes_self⟩)

theorem first {h : Head} {p : Node} {ps : List Node} (hn : (mk h (p :: ps)).ParensInPlace) :
    p.ParensInPlace :=
  hn.of_mem_parts List.mem_cons_self

theorem second {h : Head} {p q : Node} {ps : List Node}
    (hn : (mk h (p :: q :: ps)).ParensInPlace) : q.ParensInPlace :=
  hn.of_mem_parts (List.mem_cons_of_mem p List.mem_cons_self)

/-- And inside of parentheses. -/
theorem of_upToParens {e : Node} (hn : n.ParensInPlace) (he : n.UpToParens e) :
    e.ParensInPlace := by
  induction he with
  | refl => exact hn
  | parenthesis o _ ih => exact ih hn.first

/-- **What is no expression is found without looking through parentheses.** -/
theorem upToParens_iff_eq (hn : n.ParensInPlace) {h : Head} (hh : h.isExpression = false)
    {ps : List Node} : n.UpToParens (mk h ps) ↔ n = mk h ps := by
  constructor
  · intro he
    generalize heq : mk h ps = e at he
    induction he with
    | refl => rfl
    | @parenthesis m e o _ ih =>
        -- The expression in these parentheses would be what is inside of all of them.
        obtain rfl := ih hn.first heq
        have hm : m.head.isExpression = true := hn _ (mem_nodes_self _)
        rw [← heq, head_mk, hh] at hm
        cases hm
  · rintro rfl
    exact .refl _

/-- So it is left after dropping them if it was there. -/
theorem withoutParens_eq_mk_iff (hn : n.ParensInPlace) {h : Head} (hh : h.isExpression = false)
    {ps : List Node} :
    n.withoutParens = mk h ps ↔ ∃ qs, n = mk h qs ∧ qs.map withoutParens = ps := by
  rw [Node.withoutParens_eq_mk_iff (isParens_eq_false_of_not_isExpression hh ps)]
  exact exists_congr fun qs => and_congr_left fun _ => hn.upToParens_iff_eq hh

/-- Some head that is no expression is there, with or without parentheses. -/
theorem exists_withoutParens_eq_mk_iff (hn : n.ParensInPlace) {h : Head}
    (hh : h.isExpression = false) :
    (∃ ps, n.withoutParens = mk h ps) ↔ ∃ ps, n = mk h ps := by
  constructor
  · rintro ⟨ps, hps⟩
    obtain ⟨qs, hqs, -⟩ := (hn.withoutParens_eq_mk_iff hh).1 hps
    exact ⟨qs, hqs⟩
  · rintro ⟨qs, hqs⟩
    exact ⟨_, (hn.withoutParens_eq_mk_iff hh).2 ⟨qs, hqs, rfl⟩⟩

end ParensInPlace

end Node

end HostProps
