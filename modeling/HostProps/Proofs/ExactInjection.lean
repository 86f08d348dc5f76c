import HostProps.Proofs.Injection

/-!
# Injection is Exact

Injection is told here in three ways, none of which is how it is computed, and it agrees with all of
them.

* From the bottom up: every node is rewritten when its parts are done (`Node.bottomUp`), by a
  function that puts properties into the calls of one form and leaves all other nodes
  (`Node.extended`).
* From the top down: a visitor changes a call first and then goes on with the parts that the call
  has by then, the new properties included (`Node.Visited`). This comes to the same because
  generated properties hold no elements, and because what happens inside of a call does not change
  whether it is one.
* By numbers: as many calls are changed as there were of that form, and the tree grows by the new
  properties once for each of them.

## Main results

* `Node.bottomUp_extended`: injection from the bottom up.
* `Node.visited_iff`: injection from the top down.
* `Node.elementCount_eq_countP`: elements are the nodes of their form, wherever they stand.
* `Module.exactInjection_injectProperties`: all of it, for modules.
-/

namespace HostProps

namespace Node

/-! ### The nodes of a tree -/

mutual

/-- All nodes of a tree, a node before its parts. -/
def nodes : Node → List Node
  | mk h ps => mk h ps :: nodesOfParts ps

/-- All nodes of some trees. -/
def nodesOfParts : List Node → List Node
  | [] => []
  | n :: ns => nodes n ++ nodesOfParts ns

end

/-- The nodes of some trees are those of each tree. -/
theorem nodesOfParts_eq_flatMap (ns : List Node) : nodesOfParts ns = ns.flatMap nodes := by
  induction ns with
  | nil => rfl
  | cons n ns ih => rw [nodesOfParts, ih, List.flatMap_cons]

/-- The nodes of a tree: itself, and those of its parts. -/
theorem nodes_mk (h : Head) (ps : List Node) : (mk h ps).nodes = mk h ps :: ps.flatMap nodes := by
  rw [nodes, nodesOfParts_eq_flatMap]

/-- A tree is one of its nodes. -/
theorem mem_nodes_self (n : Node) : n ∈ n.nodes := by
  cases n with
  | mk h ps => exact nodes_mk h ps ▸ List.mem_cons_self

/-- Some trees are among their nodes. -/
theorem forall_mem_of_nodes {motive : Node → Prop} {ns : List Node}
    (h : ∀ m ∈ ns.flatMap nodes, motive m) : ∀ n ∈ ns, motive n :=
  fun n hn => h n (List.mem_flatMap.2 ⟨n, hn, n.mem_nodes_self⟩)

/-- **Induction on all that is inside**: what holds for a node whenever it holds for all nodes
inside of it holds for all nodes. -/
theorem induction_inside {motive : Node → Prop}
    (inside : ∀ n, (∀ m ∈ n.parts.flatMap nodes, motive m) → motive n) (n : Node) : motive n := by
  suffices h : ∀ m ∈ n.nodes, motive m from h n n.mem_nodes_self
  induction n with
  | mk h ps ih =>
      have hparts : ∀ m ∈ ps.flatMap nodes, motive m := by
        intro m hm
        obtain ⟨p, hp, hm⟩ := List.mem_flatMap.1 hm
        exact ih p hp m hm
      rw [nodes_mk, List.forall_mem_cons]
      exact ⟨inside (mk h ps) hparts, hparts⟩

/-! ### From the bottom up -/

mutual

/-- Rewrite every node of a tree when its parts are done. -/
def bottomUp (f : Node → Node) : Node → Node
  | mk h ps => f (mk h (bottomUpParts f ps))

/-- Rewrite every node of some trees when its parts are done. -/
def bottomUpParts (f : Node → Node) : List Node → List Node
  | [] => []
  | n :: ns => bottomUp f n :: bottomUpParts f ns

end

/-- Some trees are rewritten one by one. -/
theorem bottomUpParts_eq_map (f : Node → Node) (ns : List Node) :
    bottomUpParts f ns = ns.map (bottomUp f) := by
  induction ns with
  | nil => rfl
  | cons n ns ih => rw [bottomUpParts, ih, List.map_cons]

/-- **What becomes of a node**, given what has become of its parts: a call of a factory by its bare
name, with the bare name of a component and an object, gets properties in front of those of the
object. Nothing becomes of other nodes. -/
def extended (components : List String) (properties : List Node) : Node → Node
  | plain .call callOrigin
      [mk (.reference factoryOrigin factory) factoryParts,
        list (mk (.argument none) [mk (.reference componentOrigin component) componentParts] ::
          mk (.argument none) [plain .object objectOrigin [list own]] :: others)] =>
    plain .call callOrigin
      [mk (.reference factoryOrigin factory) factoryParts,
        list (mk (.argument none) [mk (.reference componentOrigin component) componentParts] ::
          mk (.argument none) [plain .object objectOrigin [list
            (if factory ∈ ["_jsx", "_jsxs", "_jsxDEV"] ∧ component ∈ components then
              properties ++ own
            else own)]] :: others)]
  | n => n

section Exact

variable {components : List String} {properties : List Node}

/-- Elements are extended by properties in front of their own. -/
theorem IsElement.extended_eq {n : Node} (hn : IsElement components n) :
    n.extended components properties = n.prependProperties properties := by
  obtain ⟨hfactory, hcomponent⟩ := hn
  rw [extended.eq_def]
  simp only [if_pos (And.intro hfactory hcomponent)]
  rfl

/-- Other nodes stay as they are. -/
theorem extended_of_not_isElement {n : Node} (hn : ¬IsElement components n) :
    n.extended components properties = n := by
  rw [extended.eq_def]
  split
  · rename_i factory _ _ component _ _ _ _
    have hnames : ¬(factory ∈ ["_jsx", "_jsxs", "_jsxDEV"] ∧ component ∈ components) :=
      fun h => hn (.intro h.1 h.2)
    rw [if_neg hnames]
    rfl
  · rfl

/-- What injection makes of a node is extended from what it makes of its parts. -/
theorem injected_eq_extended (h : Head) (ps : List Node) :
    injected components properties (mk h ps) =
      (mk h (ps.map (injected components properties))).extended components properties := by
  rw [injected_eq_ite]
  split
  · rename_i he
    exact he.extended_eq.symm
  · rename_i he
    exact (extended_of_not_isElement he).symm

/-- **Injection from the bottom up.** -/
theorem bottomUp_extended (n : Node) :
    n.bottomUp (extended components properties) = injected components properties n := by
  induction n with
  | mk h ps ih =>
      have hparts : bottomUpParts (extended components properties) ps =
          ps.map (injected components properties) := by
        rw [bottomUpParts_eq_map]
        exact List.map_congr_left ih
      rw [bottomUp, hparts, injected_eq_extended]

/-! ### From the top down -/

/-- **A visit of some trees, one after the other**: `Visited components properties ns count ns'` if
a visitor that meets the trees `ns` changes `count` calls and leaves the trees `ns'`. It changes a
call before it goes on with the parts that the call has then. -/
inductive Visited (components : List String) (properties : List Node) :
    List Node → Nat → List Node → Prop
  | nil : Visited components properties [] 0 []
  | element {n : Node} {ns parts ns' : List Node} {inside after : Nat} :
      IsElement components n →
      Visited components properties (n.prependProperties properties).parts inside parts →
      Visited components properties ns after ns' →
      Visited components properties (n :: ns) (1 + inside + after) (mk n.head parts :: ns')
  | other {n : Node} {ns parts ns' : List Node} {inside after : Nat} :
      ¬IsElement components n →
      Visited components properties n.parts inside parts →
      Visited components properties ns after ns' →
      Visited components properties (n :: ns) (inside + after) (mk n.head parts :: ns')

/-- The parts of a plain construct. -/
theorem parts_plain (form : Form) (o : Origin) (ps : List Node) : (plain form o ps).parts = ps :=
  rfl

/-- The elements of an element are itself and those of the call that it becomes, if the properties
hold none. -/
theorem IsElement.elementCount_eq {n : Node} (hn : IsElement components n)
    (hproperties : ∀ p ∈ properties, p.elementCount components = 0) :
    n.elementCount components =
      1 + ((n.prependProperties properties).parts.map (elementCount components)).sum := by
  have hsum : (properties.map (elementCount components)).sum = 0 := by
    rw [List.sum_eq_zero_iff_forall_eq_nat, List.forall_mem_map]
    exact hproperties
  have hlist : ∀ ns, (list ns).elementCount components = (ns.map (elementCount components)).sum :=
    elementCount_mk_of_not_call rfl
  have hargument : ∀ e, (mk (.argument none) [e]).elementCount components =
      ([e].map (elementCount components)).sum := fun e => elementCount_mk_of_not_call rfl [e]
  have hobject : ∀ o own, (plain .object o [list (properties ++ own)]).elementCount components =
      (plain .object o [list own]).elementCount components := by
    intro o own
    rw [plain, plain, elementCount_mk_of_not_call rfl, elementCount_mk_of_not_call rfl,
      List.map_singleton, List.map_singleton, hlist, hlist, List.map_append, List.sum_append, hsum,
      Nat.zero_add]
  obtain ⟨hfactory, hcomponent⟩ := hn
  rw [plain, elementCount_mk, if_pos (.intro hfactory hcomponent), Nat.add_comm]
  simp only [prependProperties, parts_plain, List.map_cons, List.map_nil, hlist, hargument, hobject]

/-- What becomes of an element is the call with the properties, and inside of it what becomes of its
parts, if the properties hold no elements. -/
theorem IsElement.injected_eq {n : Node} (hn : IsElement components n)
    (hproperties : ∀ p ∈ properties, p.elementCount components = 0) :
    injected components properties n =
      mk n.head ((n.prependProperties properties).parts.map (injected components properties)) := by
  have hsame : properties.map (injected components properties) = properties :=
    map_injected_eq_self hproperties
  have he := isElementOf_iff.2 hn
  obtain ⟨hfactory, hcomponent⟩ := hn
  rw [plain] at he
  rw [plain, injected_mk, if_pos he]
  simp only [prependProperties, head_mk, parts_plain, List.map_cons, List.map_nil, List.map_append,
    injected_list, injected_argument, injected_object, hsame]
  rfl

/-- **A visit of some trees leaves what injection makes of them**, and counts their elements. -/
theorem Visited.eq {ns ns' : List Node} {count : Nat}
    (hproperties : ∀ p ∈ properties, p.elementCount components = 0)
    (h : Visited components properties ns count ns') :
    count = (ns.map (elementCount components)).sum ∧
      ns' = ns.map (injected components properties) := by
  induction h with
  | nil => exact ⟨rfl, rfl⟩
  | element hn _ _ ihinside ihafter =>
      obtain ⟨rfl, rfl⟩ := ihinside
      obtain ⟨rfl, rfl⟩ := ihafter
      rw [List.map_cons, List.map_cons, List.sum_cons, hn.elementCount_eq hproperties,
        hn.injected_eq hproperties]
      exact ⟨rfl, rfl⟩
  | @other n _ _ _ _ _ hn _ _ ihinside ihafter =>
      obtain ⟨rfl, rfl⟩ := ihinside
      obtain ⟨rfl, rfl⟩ := ihafter
      cases n with
      | mk h ps =>
          rw [List.map_cons, List.map_cons, List.sum_cons, elementCount_mk, if_neg hn,
            injected_eq_ite, if_neg (mt isElement_map_injected.1 hn)]
          exact ⟨rfl, rfl⟩

/-! ### Every tree can be visited -/

/-- Visits one after the other. -/
theorem Visited.cons {n n' : Node} {ns ns' : List Node} {here after : Nat}
    (hn : Visited components properties [n] here [n'])
    (hns : Visited components properties ns after ns') :
    Visited components properties (n :: ns) (here + after) (n' :: ns') := by
  cases hn with
  | element he hinside hnil =>
      cases hnil
      exact .element he hinside hns
  | other he hinside hnil =>
      cases hnil
      exact .other he hinside hns

variable (components properties) in
/-- A tree for which there is a visit that leaves what injection makes of it. -/
def CanVisit (n : Node) : Prop :=
  Visited components properties [n] (n.elementCount components) [injected components properties n]

/-- Some trees can be visited if each of them can. -/
theorem visited_of_forall {ns : List Node} (h : ∀ n ∈ ns, CanVisit components properties n) :
    Visited components properties ns (ns.map (elementCount components)).sum
      (ns.map (injected components properties)) := by
  induction ns with
  | nil => exact .nil
  | cons n ns ih =>
      rw [List.forall_mem_cons] at h
      exact h.1.cons (ih h.2)

/-- A node that is no element can be visited if its parts can. -/
theorem canVisit_of_not_isElement {h : Head} {ps : List Node} (hn : ¬IsElement components (mk h ps))
    (hps : ∀ p ∈ ps, CanVisit components properties p) :
    CanVisit components properties (mk h ps) := by
  rw [CanVisit, elementCount_mk, if_neg hn, injected_eq_ite,
    if_neg (mt isElement_map_injected.1 hn)]
  exact .other hn (visited_of_forall hps) .nil

/-- A node that is no call can be visited if its parts can. -/
theorem canVisit_of_not_call {h : Head} {ps : List Node} (hh : h.isCall = false)
    (hps : ∀ p ∈ ps, CanVisit components properties p) :
    CanVisit components properties (mk h ps) := by
  refine canVisit_of_not_isElement (fun hn => ?_) hps
  rw [← isElementOf_iff, isElementOf_of_not_call hh] at hn
  cases hn

/-- A tree without elements can be visited. -/
theorem canVisit_of_elementCount_eq_zero {n : Node} (hn : n.elementCount components = 0) :
    CanVisit components properties n := by
  induction n with
  | mk h ps ih =>
      obtain ⟨hself, hparts⟩ := elementCount_mk_eq_zero_iff.1 hn
      exact canVisit_of_not_isElement hself fun p hp => ih p hp (hparts p hp)

/-- An element can be visited if all that is inside of it can: what is inside of the call that it
becomes is that, or a property, or a construct on the way to it that is no call. -/
theorem IsElement.canVisit {n : Node} (hn : IsElement components n)
    (hproperties : ∀ p ∈ properties, p.elementCount components = 0)
    (hinside : ∀ m ∈ n.parts.flatMap nodes, CanVisit components properties m) :
    CanVisit components properties n := by
  rw [CanVisit, hn.elementCount_eq hproperties, hn.injected_eq hproperties]
  refine .element hn (visited_of_forall ?_) .nil
  cases hn with
  | @intro _ _ _ objectOrigin _ _ _ _ own others =>
      simp only [plain, list, parts_mk, nodes_mk, List.flatMap_cons, List.flatMap_nil,
        List.append_nil, List.cons_append, List.forall_mem_cons, List.forall_mem_append] at hinside
      obtain ⟨hcallee, -, -, hfirst, -, -, -, -, -, hown, hothers⟩ := hinside
      -- Of the three constructs around the author's properties none is a call.
      have hlist : CanVisit components properties (list (properties ++ own)) := by
        refine canVisit_of_not_call rfl (List.forall_mem_append.2 ⟨?_, forall_mem_of_nodes hown⟩)
        exact fun p hp => canVisit_of_elementCount_eq_zero (hproperties p hp)
      have hobject : CanVisit components properties
          (plain .object objectOrigin [list (properties ++ own)]) :=
        canVisit_of_not_call rfl (List.forall_mem_singleton.2 hlist)
      have hsecond := canVisit_of_not_call (h := .argument none) rfl
        (List.forall_mem_singleton.2 hobject)
      simp only [prependProperties, parts_plain, List.forall_mem_cons]
      refine ⟨hcallee, canVisit_of_not_call rfl ?_, List.forall_mem_nil _⟩
      rw [List.forall_mem_cons, List.forall_mem_cons]
      exact ⟨hfirst, hsecond, forall_mem_of_nodes hothers⟩

/-- **Every tree can be visited**, if the properties hold no elements. -/
theorem canVisit (hproperties : ∀ p ∈ properties, p.elementCount components = 0) (n : Node) :
    CanVisit components properties n := by
  induction n using induction_inside with
  | inside n ih =>
      by_cases hn : IsElement components n
      · exact hn.canVisit hproperties ih
      · cases n with
        | mk h ps =>
            exact canVisit_of_not_isElement hn (forall_mem_of_nodes ih)

/-- **Injection from the top down.** A visitor leaves what injection makes of some trees, and
changes as many calls as there were elements. -/
theorem visited_iff {ns ns' : List Node} {count : Nat}
    (hproperties : ∀ p ∈ properties, p.elementCount components = 0) :
    Visited components properties ns count ns' ↔
      count = (ns.map (elementCount components)).sum ∧
        ns' = ns.map (injected components properties) := by
  constructor
  · exact Visited.eq hproperties
  · rintro ⟨rfl, rfl⟩
    exact visited_of_forall fun n _ => canVisit hproperties n

/-! ### By numbers -/

/-- **Elements are the nodes of their form**, wherever they stand. -/
theorem elementCount_eq_countP (n : Node) :
    n.elementCount components = n.nodes.countP (IsElement components ·) := by
  induction n with
  | mk h ps ih =>
      have hparts : (ps.map (elementCount components)).sum =
          (ps.flatMap nodes).countP (IsElement components ·) := by
        rw [List.countP_flatMap]
        exact congrArg List.sum (List.map_congr_left ih)
      rw [elementCount_mk, nodes_mk, List.countP_cons, hparts]
      simp only [decide_eq_true_eq]

/-- The elements of some trees are the nodes of their form. -/
theorem sum_elementCount_eq_countP (ns : List Node) :
    (ns.map (elementCount components)).sum =
      (ns.flatMap nodes).countP (IsElement components ·) := by
  rw [List.countP_flatMap]
  exact congrArg List.sum (List.map_congr_left fun n _ => n.elementCount_eq_countP)

variable (components properties) in
/-- **Injection adds the nodes of the properties once for each element.** -/
theorem length_flatMap_nodes_injected (ns : List Node) :
    ((ns.map (injected components properties)).flatMap nodes).length =
      (ns.flatMap nodes).length +
        (ns.map (elementCount components)).sum * (properties.flatMap nodes).length := by
  have hmk : ∀ h ps, (mk h ps).nodes.length = 1 + (ps.map fun n => n.nodes.length).sum := by
    intro h ps
    rw [nodes_mk, List.length_cons, List.length_flatMap, Nat.add_comm]
  simp only [List.length_flatMap]
  exact sum_map_injected (F := fun n => n.nodes.length) fun n _ =>
    sum_injected (F := fun n => n.nodes.length) (g := fun _ => 1) hmk n

end Exact

end Node

/-! ### Modules -/

/-- Something is put into elements if there are properties to pass. -/
theorem Injection.generated_ne_nil {i : Injection} (h : i.properties ≠ []) : i.generated ≠ [] := by
  rw [Injection.generated]
  cases i.wrapperKey with
  | none => exact mt List.map_eq_nil_iff.1 h
  | some key => exact List.cons_ne_nil _ _

namespace Module

/-- **What exact injection is**: `m'` is the module `m` after an injection that changed `count`
calls. -/
structure ExactInjection (i : Injection) (m : Module) (count : Nat) (m' : Module) : Prop where
  /-- From the bottom up: every node of the body is rewritten when its parts are done. -/
  bottomUp : m' =
    { m with body := m.body.map (Node.bottomUp (Node.extended i.components i.generated)) }
  /-- From the top down: there is one visit of the body, and this is what it leaves. -/
  topDown : ∀ visits body, Node.Visited i.components i.generated m.body visits body ↔
    visits = count ∧ { m with body } = m'
  /-- As many calls are changed as there are elements in the body, wherever they stand. -/
  count_eq : count = (m.body.flatMap Node.nodes).countP (Node.IsElement i.components ·)
  /-- For each of them the properties are put in once. -/
  growth : (m'.body.flatMap Node.nodes).length =
    (m.body.flatMap Node.nodes).length + count * (i.generated.flatMap Node.nodes).length
  /-- Without elements nothing is changed, and only without. -/
  unchanged : count = 0 ↔ m' = m

/-- **Injection is exact**, if there are properties to pass and components to pass them to. -/
theorem exactInjection_injectProperties (i : Injection) (m : Module)
    (hcomponents : i.components ≠ []) (hproperties : i.properties ≠ []) :
    m.ExactInjection i (m.injectProperties i).1 (m.injectProperties i).2.1 := by
  have hidle : i.isIdle = false := by
    rw [Injection.isIdle, Bool.or_eq_false_iff, List.isEmpty_eq_false_iff,
      List.isEmpty_eq_false_iff]
    exact ⟨hcomponents, hproperties⟩
  have hgenerated : ∀ p ∈ i.generated, p.elementCount i.components = 0 :=
    fun p hp => (Node.isGenerated_of_mem_generated i hp).elementCount
  rw [injectProperties_eq, hidle, if_neg Bool.false_ne_true]
  refine ⟨?_, ?_, Node.sum_elementCount_eq_countP m.body, ?_, ?_⟩
  · rw [funext Node.bottomUp_extended]
  · intro visits body
    rw [Node.visited_iff hgenerated, Module.mk.injEq]
    simp only [true_and, and_true]
  · exact Node.length_flatMap_nodes_injected i.components i.generated m.body
  · constructor
    · intro hzero
      rw [List.sum_eq_zero_iff_forall_eq_nat, List.forall_mem_map] at hzero
      have hbody : m.body.map (Node.injected i.components i.generated) = m.body.map id :=
        List.map_congr_left fun n hn => Node.injected_eq_self (hzero n hn)
      rw [hbody, List.map_id]
    · intro hsame
      have hbody : m.body.map (Node.injected i.components i.generated) = m.body :=
        congrArg Module.body hsame
      -- A body that has not grown got no properties, since a property has at least one node.
      have hgrowth := Node.length_flatMap_nodes_injected i.components i.generated m.body
      obtain ⟨p, hp⟩ := List.exists_mem_of_ne_nil _ (Injection.generated_ne_nil hproperties)
      have hnode : p ∈ i.generated.flatMap Node.nodes :=
        List.mem_flatMap.2 ⟨p, hp, p.mem_nodes_self⟩
      rw [hbody, Nat.left_eq_add, Nat.mul_eq_zero, List.length_eq_zero_iff] at hgrowth
      exact hgrowth.resolve_right (List.ne_nil_of_mem hnode)

/-- The module `_jsx(Test, {a: _jsx(Test, {})})`. -/
def nestsElements : Module :=
  let element (own : List Node) := Node.plain .call .generated
    [Node.generatedReference "_jsx",
      .list [.mk (.argument none) [Node.generatedReference "Test"],
        .mk (.argument none) [Node.generatedObject own]]]
  let property := Node.plain .keyValue .generated [Node.generatedName "a", element []]
  ⟨Span.dummy, [.plain .expressionStatement .generated [element [property]]], none⟩

/-- Of two elements one of which is inside of the other's properties both get the property. -/
theorem exactInjection_nestsElements :
    ["Test"] ≠ [] ∧ [("React", "React")] ≠ [] ∧
      (nestsElements.injectProperties ⟨["Test"], [("React", "React")], none⟩).1 = 2 ∧
      nestsElements.ExactInjection ⟨["Test"], [("React", "React")], none⟩
        (nestsElements.injectProperties ⟨["Test"], [("React", "React")], none⟩).1
        (nestsElements.injectProperties ⟨["Test"], [("React", "React")], none⟩).2.1 :=
  ⟨List.cons_ne_nil _ _, List.cons_ne_nil _ _, by rfl,
    exactInjection_injectProperties _ nestsElements (List.cons_ne_nil _ _) (List.cons_ne_nil _ _)⟩

end Module

end HostProps
