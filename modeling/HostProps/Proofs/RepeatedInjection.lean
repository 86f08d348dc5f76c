import HostProps.Proofs.ExactInjection

/-!
# Injecting again

An injection into a module that has been injected into finds the elements that the first one found.
It meets more objects, since the properties that the first one left may hold an object themselves,
but generated properties hold no calls. So one injection after another is one rewriting from the
bottom up, in which every node is extended twice.

An element that is extended twice has the later properties in front of the earlier ones. If neither
injection puts its properties under a key, then one injection of all of them does the same.

## Main results

* `Node.injected_injected`: one injection after another, also for other components.
* `Node.elementCount_injected`: injection leaves the number of elements, also of other components.
* `Node.extended_extended`: properties of one element one after another.
* `Module.injectProperties_again`: all of it, for modules.
-/

namespace HostProps

namespace Node

section Again

variable {components names : List String} {properties later : List Node}

/-! ### Inside of an extended node -/

/-- An element with its properties in front of its own. -/
theorem extended_call {callOrigin factoryOrigin componentOrigin objectOrigin : Origin}
    {factory component : String} {factoryParts componentParts own others : List Node}
    (hfactory : factory ∈ ["_jsx", "_jsxs", "_jsxDEV"]) (hcomponent : component ∈ components) :
    extended components properties (mk (.plain .call callOrigin)
        [mk (.reference factoryOrigin factory) factoryParts,
          list (mk (.argument none) [mk (.reference componentOrigin component) componentParts] ::
            mk (.argument none) [plain .object objectOrigin [list own]] :: others)]) =
      mk (.plain .call callOrigin)
        [mk (.reference factoryOrigin factory) factoryParts,
          list (mk (.argument none) [mk (.reference componentOrigin component) componentParts] ::
            mk (.argument none) [plain .object objectOrigin [list (properties ++ own)]] ::
              others)] :=
  (IsElement.intro hfactory hcomponent).extended_eq

/-- Properties without elements stay as they are in front of others that may change. -/
theorem map_injected_append (hproperties : ∀ p ∈ properties, p.elementCount names = 0)
    (own : List Node) :
    (properties ++ own).map (injected names later) =
      properties ++ own.map (injected names later) := by
  rw [List.map_append, map_injected_eq_self hproperties]

/-- **Injection goes on inside of an extended node** as it does inside of the node itself, if the
properties hold no elements. -/
theorem injected_extended (hproperties : ∀ p ∈ properties, p.elementCount names = 0) (h : Head)
    (ps : List Node) :
    injected names later ((mk h ps).extended components properties) =
      ((mk h (ps.map (injected names later))).extended components properties).extended names
        later := by
  by_cases hn : IsElement components (mk h ps)
  · generalize hcall : mk h ps = n at hn
    obtain ⟨hfactory, hcomponent⟩ := hn
    obtain ⟨rfl, rfl⟩ := Node.mk.inj hcall
    rw [plain, extended_call hfactory hcomponent, injected_eq_extended]
    simp only [List.map_cons, List.map_nil, injected_reference, injected_list, injected_argument,
      injected_object, map_injected_append hproperties]
    rw [extended_call hfactory hcomponent]
  · have hmap : ¬IsElement components (mk h (ps.map (injected names later))) :=
      mt isElement_map_injected.1 hn
    rw [extended_of_not_isElement hn, extended_of_not_isElement hmap, injected_eq_extended]

/-- **One injection after another** is one rewriting from the bottom up, in which every node is
extended twice. -/
theorem injected_injected (hproperties : ∀ p ∈ properties, p.elementCount names = 0) (n : Node) :
    injected names later (injected components properties n) =
      n.bottomUp fun m => (m.extended components properties).extended names later := by
  induction n with
  | mk h ps ih =>
      have hparts : (ps.map (injected components properties)).map (injected names later) =
          bottomUpParts (fun m => (m.extended components properties).extended names later) ps := by
        rw [List.map_map, bottomUpParts_eq_map]
        exact List.map_congr_left ih
      rw [injected_eq_extended, injected_extended hproperties, hparts, bottomUp]

/-- **Properties of one element one after another**: the later ones are in front. -/
theorem extended_extended (n : Node) :
    (n.extended components properties).extended components later =
      n.extended components (later ++ properties) := by
  by_cases hn : IsElement components n
  · obtain ⟨hfactory, hcomponent⟩ := hn
    rw [plain, extended_call hfactory hcomponent, extended_call hfactory hcomponent,
      extended_call hfactory hcomponent, List.append_assoc]
  · rw [extended_of_not_isElement hn, extended_of_not_isElement hn, extended_of_not_isElement hn]

/-- One injection after another into the same elements is one injection of all properties. -/
theorem injected_injected_same
    (hproperties : ∀ p ∈ properties, p.elementCount components = 0) (n : Node) :
    injected components later (injected components properties n) =
      injected components (later ++ properties) n := by
  rw [injected_injected hproperties, funext extended_extended, bottomUp_extended]

/-! ### Counting -/

/-- An extended node has the elements that it had, if the properties hold none. -/
theorem elementCount_extended (hproperties : ∀ p ∈ properties, p.elementCount names = 0)
    (n : Node) : (n.extended components properties).elementCount names = n.elementCount names := by
  by_cases hn : IsElement components n
  · have hsum : (properties.map (elementCount names)).sum = 0 := by
      rw [List.sum_eq_zero_iff_forall_eq_nat, List.forall_mem_map]
      exact hproperties
    obtain ⟨hfactory, hcomponent⟩ := hn
    rw [plain, extended_call hfactory hcomponent]
    -- Whether the call is an element depends on its callee and its first argument.
    simp [elementCount, elementCountOfParts_eq_sum, isElementOf, plain, list, hsum]
  · rw [extended_of_not_isElement hn]

/-- **Injection leaves the number of elements**, if the properties hold none. -/
theorem elementCount_injected (hproperties : ∀ p ∈ properties, p.elementCount names = 0)
    (n : Node) :
    (injected components properties n).elementCount names = n.elementCount names := by
  induction n with
  | mk h ps ih =>
      have hparts : (ps.map (injected components properties)).map (elementCount names) =
          ps.map (elementCount names) := by
        rw [List.map_map]
        exact List.map_congr_left ih
      have hself : IsElement names (mk h (ps.map (injected components properties))) ↔
          IsElement names (mk h ps) := isElement_map_injected
      rw [injected_eq_extended, elementCount_extended hproperties, elementCount_mk, elementCount_mk,
        hparts]
      simp only [hself]

/-! ### Nothing to do -/

/-- Without components there are no elements. -/
theorem elementCount_nil (n : Node) : n.elementCount [] = 0 := by
  induction n with
  | mk h ps ih =>
      refine elementCount_mk_eq_zero_iff.2 ⟨?_, ih⟩
      rintro ⟨-, hcomponent⟩
      exact List.not_mem_nil hcomponent

/-- Without properties a node is not extended. -/
theorem extended_nil (n : Node) : n.extended components [] = n := by
  by_cases hn : IsElement components n
  · obtain ⟨hfactory, hcomponent⟩ := hn
    rw [plain, extended_call hfactory hcomponent, List.nil_append]
  · exact extended_of_not_isElement hn

/-- Without properties every tree stays as it is. -/
theorem injected_nil (n : Node) : injected components [] n = n := by
  induction n with
  | mk h ps ih =>
      have hparts : ps.map (injected components []) = ps.map id := List.map_congr_left ih
      rw [injected_eq_extended, hparts, List.map_id, extended_nil]

end Again

end Node

/-! ### Modules -/

namespace Injection

/-- Generated properties hold no elements. -/
theorem elementCount_generated (i : Injection) (components : List String) :
    ∀ p ∈ i.generated, p.elementCount components = 0 :=
  fun _ hp => (Node.isGenerated_of_mem_generated i hp).elementCount

/-- Properties that are not put under a key are generated one by one. -/
theorem generated_append (components : List String) (properties more : List (String × String)) :
    generated ⟨components, properties ++ more, none⟩ =
      generated ⟨components, properties, none⟩ ++ generated ⟨components, more, none⟩ :=
  List.map_append

end Injection

namespace Module

variable (m : Module)

/-- **What injection counts**: the elements, unless there are no properties. -/
theorem injectProperties_count (i : Injection) :
    (m.injectProperties i).1 =
      if i.properties = [] then 0 else (m.body.map (Node.elementCount i.components)).sum := by
  have hnone : (m.body.map (Node.elementCount [])).sum = 0 := by
    rw [List.sum_eq_zero_iff_forall_eq_nat, List.forall_mem_map]
    exact fun n _ => n.elementCount_nil
  rw [injectProperties_eq, Injection.isIdle]
  cases hcomponents : i.components with
  | nil => simp [hnone]
  | cons component components =>
      cases i.properties with
      | nil => rfl
      | cons property properties => rfl

/-- **What injection leaves**, unless there are no properties to put under a key. With nothing to
pass or nobody to pass it to, injection into each statement leaves it as it is. -/
theorem injectProperties_module (i : Injection)
    (hkey : i.properties = [] → i.wrapperKey = none) :
    (m.injectProperties i).2.1 =
      { m with body := m.body.map (Node.injected i.components i.generated) } := by
  have hself : i.isIdle = true →
      m.body.map (Node.injected i.components i.generated) = m.body := by
    intro hidle
    obtain hcomponents | hproperties := Bool.or_eq_true_iff.1 hidle
    · rw [List.isEmpty_iff.1 hcomponents]
      exact Node.map_injected_eq_self fun n _ => n.elementCount_nil
    · have hgenerated : i.generated = [] := by
        rw [List.isEmpty_iff] at hproperties
        rw [Injection.generated, hkey hproperties, hproperties]
        rfl
      rw [hgenerated, funext Node.injected_nil]
      exact List.map_id m.body
  rw [injectProperties_eq]
  split
  · rename_i hidle
    rw [hself hidle]
  · rfl

/-- Injection leaves what another injection counts, whatever components the two are for. -/
theorem injectProperties_count_again (first second : Injection) :
    ((m.injectProperties first).2.1.injectProperties second).1 = (m.injectProperties second).1 := by
  have hsum : ((m.injectProperties first).2.1.body.map (Node.elementCount second.components)).sum =
      (m.body.map (Node.elementCount second.components)).sum := by
    rw [injectProperties_eq]
    split
    · rfl
    · rw [List.map_map]
      exact congrArg List.sum (List.map_congr_left fun n _ =>
        n.elementCount_injected (first.elementCount_generated second.components))
  rw [injectProperties_count, injectProperties_count, hsum]

/-- Two injections for the same components put the properties of both into their elements, those of
the second in front. -/
theorem injectProperties_module_again (first second : Injection)
    (hcomponents : second.components = first.components)
    (hfirst : first.properties = [] → first.wrapperKey = none)
    (hsecond : second.properties = [] → second.wrapperKey = none) :
    ((m.injectProperties first).2.1.injectProperties second).2.1 =
      { m with
        body := m.body.map
          (Node.injected first.components (second.generated ++ first.generated)) } := by
  rw [injectProperties_module _ second hsecond, injectProperties_module m first hfirst, hcomponents,
    List.map_map]
  refine congrArg (fun body => { m with body }) (List.map_congr_left fun n _ => ?_)
  exact n.injected_injected_same (first.elementCount_generated first.components)

/-- **Injection composes.** Take two injections for the same components, one after the other.

* If both have properties, then both count the same elements, and in each of them the properties of
  the later injection are put in front of those of the earlier one, which are in front of the
  author's. Nothing else is changed.
* If neither puts its properties under a key, then they leave what one injection of all properties
  leaves, the later ones in front, also if one of them or both have no properties; and that one
  counts what either of them counts that has any. -/
theorem injectProperties_again (components : List String) (earlier later : List (String × String))
    (earlierKey laterKey : Option String) :
    let first : Injection := ⟨components, earlier, earlierKey⟩
    let second : Injection := ⟨components, later, laterKey⟩
    let once := m.injectProperties first
    let again := once.2.1.injectProperties second
    let joined := m.injectProperties ⟨components, later ++ earlier, none⟩
    (earlier ≠ [] → later ≠ [] →
      once.1 = (m.body.flatMap Node.nodes).countP (Node.IsElement components ·) ∧
      again.1 = once.1 ∧
      again.2.1 = { m with
        body := m.body.map
          (Node.bottomUp (Node.extended components (second.generated ++ first.generated))) }) ∧
    (earlierKey = none → laterKey = none →
      again.2.1 = joined.2.1 ∧ joined.1 = max once.1 again.1) := by
  intro first second once again joined
  have hcount : again.1 = (m.injectProperties second).1 :=
    m.injectProperties_count_again first second
  constructor
  · intro hearlier hlater
    have hmodule := m.injectProperties_module_again first second rfl (fun h => (hearlier h).elim)
      fun h => (hlater h).elim
    refine ⟨?_, ?_, ?_⟩
    · rw [injectProperties_count, if_neg hearlier, Node.sum_elementCount_eq_countP]
    · rw [hcount, injectProperties_count, injectProperties_count, if_neg hearlier, if_neg hlater]
    · rw [funext Node.bottomUp_extended]
      exact hmodule
  · rintro rfl rfl
    have hmodule := m.injectProperties_module_again first second rfl (fun _ => rfl) fun _ => rfl
    constructor
    · rw [injectProperties_module m _ fun _ => rfl, Injection.generated_append]
      exact hmodule
    · rw [hcount, injectProperties_count, injectProperties_count, injectProperties_count]
      by_cases hearlier : earlier = [] <;> by_cases hlater : later = [] <;>
        simp [first, second, hearlier, hlater]

/-- Both elements of this module get both properties, of which the first one is put under a key; and
two properties that are not put under keys could have been put in at once. -/
theorem injectProperties_again_nestsElements :
    [("React", "React")] ≠ [] ∧ [("jsx", "_jsx")] ≠ [] ∧
      (let once :=
          nestsElements.injectProperties ⟨["Test"], [("React", "React")], some "runtime"⟩
        let again := once.2.1.injectProperties ⟨["Test"], [("jsx", "_jsx")], none⟩
        once.1 = 2 ∧ again.1 = 2 ∧
          again.2.1 = { nestsElements with
            body := nestsElements.body.map (Node.bottomUp (Node.extended ["Test"]
              [Node.generatedPair "jsx" "_jsx",
                Node.generatedWrapper "runtime" [Node.generatedPair "React" "React"]])) }) ∧
      (none : Option String) = none ∧
      (let once := nestsElements.injectProperties ⟨["Test"], [("React", "React")], none⟩
        let again := once.2.1.injectProperties ⟨["Test"], [("jsx", "_jsx")], none⟩
        again.2.1 = (nestsElements.injectProperties
          ⟨["Test"], [("jsx", "_jsx"), ("React", "React")], none⟩).2.1) := by
  have hfirst : [("React", "React")] ≠ [] := List.cons_ne_nil _ _
  have hsecond : [("jsx", "_jsx")] ≠ [] := List.cons_ne_nil _ _
  obtain ⟨hboth, -⟩ := nestsElements.injectProperties_again ["Test"] [("React", "React")]
    [("jsx", "_jsx")] (some "runtime") none
  obtain ⟨-, hflat⟩ := nestsElements.injectProperties_again ["Test"] [("React", "React")]
    [("jsx", "_jsx")] none none
  obtain ⟨-, hcount, hmodule⟩ := hboth hfirst hsecond
  have htwo : (nestsElements.injectProperties
      ⟨["Test"], [("React", "React")], some "runtime"⟩).1 = 2 := rfl
  exact ⟨hfirst, hsecond, ⟨htwo, hcount.trans htwo, hmodule⟩, rfl, (hflat rfl rfl).1⟩

end Module

end HostProps
