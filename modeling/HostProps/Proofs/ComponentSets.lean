import HostProps.Proofs.RepeatedInjection

/-!
# Components as a Set

An injection is for a list of components, but it only asks whether a name is in the list. So the
order of the names does not matter, nor how often one of them occurs, and the components can be
served one group after another.

What makes the groups independent of each other is that an element is one of a single component, and
stays one of that component when it gets its properties. So the second group finds the elements of
its own that were there before, wherever they stand, also in the properties of elements of the first
group that have been extended by then, and passes by the elements of the first group.

## Main results

* `Node.injected_append`: one group of components after another.
* `Node.elementCount_append`: the elements of both groups.
* `Module.injectProperties_congr`: only the names matter that occur.
* `Module.injectProperties_componentSet`: all of it, for modules.
-/

namespace HostProps

namespace Node

variable {components more : List String} {properties : List Node}

/-! ### The component of an element -/

/-- An element of some components is one of one of them. -/
theorem isElement_iff_exists {n : Node} :
    IsElement components n ↔ ∃ component ∈ components, IsElement [component] n := by
  constructor
  · rintro ⟨hfactory, hcomponent⟩
    exact ⟨_, hcomponent, .intro hfactory (List.mem_singleton_self _)⟩
  · rintro ⟨component, hcomponent, hfactory, hsame⟩
    obtain rfl := List.mem_singleton.1 hsame
    exact .intro hfactory hcomponent

/-- **An element has one component.** -/
theorem IsElement.component_unique {component component' : String} {n : Node}
    (h : IsElement [component] n) (h' : IsElement [component'] n) : component = component' := by
  obtain ⟨-, hcomponent⟩ := h
  obtain ⟨-, hcomponent'⟩ := h'
  exact (List.mem_singleton.1 hcomponent).symm.trans (List.mem_singleton.1 hcomponent')

/-- The elements of two groups of components are those of the first, and those of the names that
only the second has. -/
theorem isElement_append_iff {n : Node} :
    IsElement (components ++ more) n ↔
      IsElement components n ∨ IsElement (more.filter (· ∉ components)) n := by
  rw [isElement_iff_exists, @isElement_iff_exists components,
    @isElement_iff_exists (more.filter (· ∉ components))]
  simp only [List.mem_append, List.mem_filter, decide_eq_true_iff, ← exists_or]
  refine exists_congr fun component => ?_
  by_cases hcomponent : component ∈ components <;> simp [hcomponent]

/-- No element is one of both. -/
theorem IsElement.not_isElement_filter {n : Node} (h : IsElement components n) :
    ¬ IsElement (more.filter (· ∉ components)) n := by
  intro h'
  obtain ⟨component, hcomponent, h⟩ := isElement_iff_exists.1 h
  obtain ⟨component', hcomponent', h'⟩ := isElement_iff_exists.1 h'
  obtain rfl := h.component_unique h'
  exact of_decide_eq_true (List.mem_filter.1 hcomponent').2 hcomponent

/-- Only the names matter that occur. -/
theorem isElement_congr (h : ∀ name, name ∈ components ↔ name ∈ more) {n : Node} :
    IsElement components n ↔ IsElement more n := by
  rw [isElement_iff_exists, @isElement_iff_exists more]
  simp only [h]

/-! ### Extending one element -/

/-- What becomes of a node depends on the components only as far as it is an element of them. -/
theorem extended_congr {n : Node} (h : IsElement components n ↔ IsElement more n) :
    n.extended components properties = n.extended more properties := by
  by_cases hn : IsElement components n
  · rw [hn.extended_eq, (h.1 hn).extended_eq]
  · rw [extended_of_not_isElement hn, extended_of_not_isElement (mt h.2 hn)]

/-- An extended node is an element of the components that it was an element of. -/
theorem isElement_extended_iff {names : List String} {n : Node} :
    IsElement names (n.extended components properties) ↔ IsElement names n := by
  by_cases hn : IsElement components n
  · obtain ⟨hfactory, hcomponent⟩ := hn
    rw [plain, extended_call hfactory hcomponent]
    constructor
    · rintro ⟨-, hname⟩
      exact .intro hfactory hname
    · rintro ⟨-, hname⟩
      exact .intro hfactory hname
  · rw [extended_of_not_isElement hn]

/-- **A node that is extended for one group of components after another** is extended once. -/
theorem extended_append (n : Node) :
    (n.extended components properties).extended (more.filter (· ∉ components)) properties =
      n.extended (components ++ more) properties := by
  by_cases hn : IsElement components n
  · have hfirst : IsElement components n ↔ IsElement (components ++ more) n :=
      iff_of_true hn (isElement_append_iff.2 (.inl hn))
    rw [extended_of_not_isElement (mt isElement_extended_iff.1 hn.not_isElement_filter)]
    exact extended_congr hfirst
  · have hsecond : IsElement (more.filter (· ∉ components)) n ↔
        IsElement (components ++ more) n := by
      rw [isElement_append_iff, or_iff_right hn]
    rw [extended_of_not_isElement hn]
    exact extended_congr hsecond

/-! ### Injecting into a tree -/

/-- **One group of components after another**: the names that both have are served once. -/
theorem injected_append
    (hproperties : ∀ p ∈ properties, p.elementCount (more.filter (· ∉ components)) = 0) (n : Node) :
    injected (more.filter (· ∉ components)) properties (injected components properties n) =
      injected (components ++ more) properties n := by
  rw [injected_injected hproperties, funext extended_append, bottomUp_extended]

/-- **The elements of two groups of components** are counted one group after another. -/
theorem elementCount_append (n : Node) :
    n.elementCount (components ++ more) =
      n.elementCount components + n.elementCount (more.filter (· ∉ components)) := by
  induction n with
  | mk h ps ih =>
      have hparts : (ps.map (elementCount (components ++ more))).sum =
          (ps.map (elementCount components)).sum +
            (ps.map (elementCount (more.filter (· ∉ components)))).sum := by
        rw [← List.sum_map_add]
        exact congrArg List.sum (List.map_congr_left ih)
      have hself : (if IsElement (components ++ more) (mk h ps) then 1 else 0) =
          (if IsElement components (mk h ps) then 1 else 0) +
            if IsElement (more.filter (· ∉ components)) (mk h ps) then 1 else 0 := by
        rw [if_congr isElement_append_iff rfl rfl]
        by_cases hn : IsElement components (mk h ps)
        · rw [if_pos (.inl hn), if_pos hn, if_neg hn.not_isElement_filter]
        · rw [if_congr (or_iff_right hn) rfl rfl, if_neg hn, Nat.zero_add]
      rw [elementCount_mk, elementCount_mk, elementCount_mk, hparts, hself]
      omega

variable (h : ∀ name, name ∈ components ↔ name ∈ more)

include h

/-- Injection into a tree only depends on the names that occur. -/
theorem injected_congr (n : Node) :
    injected components properties n = injected more properties n := by
  have hextended : extended components properties = extended more properties :=
    funext fun _ => extended_congr (isElement_congr h)
  rw [← bottomUp_extended, ← bottomUp_extended, hextended]

/-- So does the number of elements. -/
theorem elementCount_congr (n : Node) : n.elementCount components = n.elementCount more := by
  rw [elementCount_eq_countP, elementCount_eq_countP]
  exact List.countP_congr fun _ _ => by simp only [decide_eq_true_iff, isElement_congr h]

end Node

namespace Module

variable (m : Module) (properties : List (String × String)) (key : Option String)

/-- **Only the names of components matter that occur**, not their order nor how often they do. -/
theorem injectProperties_congr {components more : List String}
    (h : ∀ name, name ∈ components ↔ name ∈ more) :
    m.injectProperties ⟨components, properties, key⟩ =
      m.injectProperties ⟨more, properties, key⟩ := by
  have hempty : components.isEmpty = more.isEmpty := by
    rw [Bool.eq_iff_iff, List.isEmpty_iff, List.isEmpty_iff, List.eq_nil_iff_forall_not_mem,
      List.eq_nil_iff_forall_not_mem]
    exact forall_congr' fun name => not_congr (h name)
  have hidle : Injection.isIdle ⟨components, properties, key⟩ =
      Injection.isIdle ⟨more, properties, key⟩ := by
    rw [Injection.isIdle, Injection.isIdle, hempty]
  rw [injectProperties_eq, injectProperties_eq, hidle,
    funext (Node.elementCount_congr h), funext (Node.injected_congr h)]
  rfl

/-- One group of components after another leaves what both at once leave. -/
theorem injectProperties_module_append (components more : List String) :
    let first := m.injectProperties ⟨components, properties, key⟩
    (first.2.1.injectProperties ⟨more.filter (· ∉ components), properties, key⟩).2.1 =
      (m.injectProperties ⟨components ++ more, properties, key⟩).2.1 := by
  intro first
  by_cases hproperties : properties = []
  · -- Without properties no injection does anything, whatever key they were to be put under.
    have hidle : ∀ names, Injection.isIdle ⟨names, properties, key⟩ = true := by
      intro names
      rw [Injection.isIdle, hproperties]
      exact Bool.or_true _
    simp only [first, injectProperties_eq, hidle, if_true]
  · have hkey : properties = [] → key = none := fun h => (hproperties h).elim
    rw [injectProperties_module _ _ hkey, injectProperties_module m _ hkey,
      injectProperties_module m _ hkey, List.map_map]
    refine congrArg (fun body => { m with body := body }) (List.map_congr_left fun n _ => ?_)
    exact n.injected_append (Injection.elementCount_generated ⟨components, properties, key⟩ _)

/-- One group of components after another counts what both at once count. -/
theorem injectProperties_count_append (components more : List String) :
    let first := m.injectProperties ⟨components, properties, key⟩
    first.1 + (first.2.1.injectProperties ⟨more.filter (· ∉ components), properties, key⟩).1 =
      (m.injectProperties ⟨components ++ more, properties, key⟩).1 := by
  intro first
  have hsum : (m.body.map (Node.elementCount (components ++ more))).sum =
      (m.body.map (Node.elementCount components)).sum +
        (m.body.map (Node.elementCount (more.filter (· ∉ components)))).sum := by
    rw [← List.sum_map_add]
    exact congrArg List.sum (List.map_congr_left fun n _ => n.elementCount_append)
  rw [injectProperties_count_again, injectProperties_count, injectProperties_count,
    injectProperties_count]
  split
  · rfl
  · exact hsum.symm

/-- **Components are a set, and independent of each other.** For every module, all properties and
every key to put them under:

* an injection for some components, and then one for those of others that are not among them, leave
  what one injection for all of them leaves, and count together what that one counts;
* injections for components with the same names are the same, whatever the order of the names and
  however often they occur;
* if there are properties, then each call of the form of an element is extended once, whatever the
  list of names: nodes are rewritten from the bottom up by putting the properties in once, those
  that are counted are the elements of the module as it was, and the tree grows by the properties
  once for each of them. -/
theorem injectProperties_componentSet :
    (∀ components more : List String,
      let first := m.injectProperties ⟨components, properties, key⟩
      let second := first.2.1.injectProperties ⟨more.filter (· ∉ components), properties, key⟩
      let both := m.injectProperties ⟨components ++ more, properties, key⟩
      second.2.1 = both.2.1 ∧ first.1 + second.1 = both.1) ∧
    (∀ components more : List String, (∀ name, name ∈ components ↔ name ∈ more) →
      m.injectProperties ⟨components, properties, key⟩ =
        m.injectProperties ⟨more, properties, key⟩) ∧
    (properties ≠ [] → ∀ components : List String,
      let i : Injection := ⟨components, properties, key⟩
      let elements := (m.body.flatMap Node.nodes).countP (Node.IsElement components ·)
      (m.injectProperties i).2.1 =
        { m with body := m.body.map (Node.bottomUp (Node.extended components i.generated)) } ∧
      (m.injectProperties i).1 = elements ∧
      ((m.injectProperties i).2.1.body.flatMap Node.nodes).length =
        (m.body.flatMap Node.nodes).length +
          elements * (i.generated.flatMap Node.nodes).length) := by
  refine ⟨fun components more => ?_, fun components more h => ?_, fun hproperties components => ?_⟩
  · exact ⟨m.injectProperties_module_append properties key components more,
      m.injectProperties_count_append properties key components more⟩
  · exact m.injectProperties_congr properties key h
  · intro i elements
    have hmodule := m.injectProperties_module i fun h => (hproperties h).elim
    have hcount : (m.body.map (Node.elementCount components)).sum = elements :=
      Node.sum_elementCount_eq_countP m.body
    refine ⟨?_, ?_, ?_⟩
    · rw [hmodule, funext Node.bottomUp_extended]
    · rw [injectProperties_count, if_neg hproperties, hcount]
    · rw [hmodule, ← hcount]
      exact Node.length_flatMap_nodes_injected components i.generated m.body

/-- The module `_jsx(A, {a: _jsx(B, {a: _jsx(A, {})})})`. -/
def nestsComponents : Module :=
  let element (component : String) (own : List Node) := Node.plain .call .generated
    [Node.generatedReference "_jsx",
      .list [.mk (.argument none) [Node.generatedReference component],
        .mk (.argument none) [Node.generatedObject own]]]
  let property (value : Node) := Node.plain .keyValue .generated [Node.generatedName "a", value]
  ⟨Span.dummy,
    [.plain .expressionStatement .generated
      [element "A" [property (element "B" [property (element "A" [])])]]], none⟩

/-- The elements of two components stand in each other's properties. Those of `A` are extended
first, that of `B` after that; all three are extended once, though both components are given
twice. -/
theorem injectProperties_componentSet_nestsComponents :
    let inject (components : List String) (m : Module) :=
      m.injectProperties ⟨components, [("React", "React")], some "runtime"⟩
    (∀ name, name ∈ ["B", "A", "B", "A"] ↔ name ∈ ["A", "B"]) ∧ [("React", "React")] ≠ [] ∧
      (inject ["A"] nestsComponents).1 = 2 ∧
      (inject ["B"] (inject ["A"] nestsComponents).2.1).1 = 1 ∧
      (inject ["B"] (inject ["A"] nestsComponents).2.1).2.1 =
        (inject ["A", "B", "A"] nestsComponents).2.1 ∧
      inject ["B", "A", "B", "A"] nestsComponents = inject ["A", "B"] nestsComponents ∧
      (inject ["A", "B"] nestsComponents).2.1 = { nestsComponents with
        body := nestsComponents.body.map (Node.bottomUp (Node.extended ["A", "B"]
          [Node.generatedWrapper "runtime" [Node.generatedPair "React" "React"]])) } := by
  dsimp only
  have hnames : ∀ name, name ∈ ["B", "A", "B", "A"] ↔ name ∈ ["A", "B"] := by
    intro name
    simp only [List.mem_cons, List.not_mem_nil, or_false]
    grind
  have hproperties : [("React", "React")] ≠ [] := List.cons_ne_nil _ _
  have hrest : ["B", "A"].filter (· ∉ ["A"]) = ["B"] := rfl
  have hjoined : ["A"] ++ ["B", "A"] = ["A", "B", "A"] := rfl
  obtain ⟨hgroups, hsame, honce⟩ :=
    nestsComponents.injectProperties_componentSet [("React", "React")] (some "runtime")
  have hboth := hgroups ["A"] ["B", "A"]
  simp only [hrest, hjoined] at hboth
  obtain ⟨hmodule, hcount⟩ := hboth
  have hfirst : (nestsComponents.injectProperties
      ⟨["A"], [("React", "React")], some "runtime"⟩).1 = 2 := rfl
  have hthree : (nestsComponents.injectProperties
      ⟨["A", "B", "A"], [("React", "React")], some "runtime"⟩).1 = 3 := rfl
  rw [hfirst, hthree] at hcount
  exact ⟨hnames, hproperties, hfirst, Nat.add_left_cancel hcount, hmodule, hsame _ _ hnames,
    (honce hproperties ["A", "B"]).1⟩

end Module

end HostProps
