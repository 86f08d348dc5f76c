import HostProps.Proofs.Occurrences
import HostProps.Proofs.RepeatedInjection
import HostProps.Proofs.WidenedPattern

/-!
# What a Component gets

Injected properties are put in front of the author's, and of two properties with one key the later
counts. So a component gets all that the author wrote for it, and besides that what is injected
under other keys. Here this is told by what objects are, and not by where properties stand.

The properties of an object are evaluated from left to right to a finite map, where the last write
wins (`Valuation.evaluate`). That is done for the properties that say by themselves which keys they
write (shorthands, static keys with values) and for spreads, which write whatever they like. What
expressions have as their values and what spreads write is left open: all is shown for every
`Valuation`. A property with the key `__proto__` writes no key, so it is left out.

Properties that are evaluated into an object with more in it write over that, and over nothing else
(`Valuation.foldlM_write`), so what is in front of the author's properties shows through where these
write nothing. Injection may change the author's properties inside, where they hold elements
themselves, but they stay properties of the same kinds with the same keys
(`Valuation.evaluate_map_rewrite`).

## Main results

* `Valuation.evaluate_append`: properties in front of others.
* `Valuation.lookup_assigned_eq_some_iff`: the last pair of a key counts.
* `Injection.exists_evaluate_generated`: what the injected properties alone come to.
* `Module.elements_injectProperties`: the elements of a module after injection.
* `Module.completes_injectProperties`: what each component gets.
-/

namespace HostProps

/-! ### Objects by their properties -/

/-- An assignment of values to what properties hold. -/
structure Valuation (V : Type) where
  /-- The value of an expression, or of the variable that a shorthand consists of. -/
  value : Node → V
  /-- What the spread of an expression writes. -/
  spread : Node → Fields V
  /-- The key that a number is. -/
  numeral : Double → String

namespace Valuation

variable {V : Type} (a : Valuation V)

/-- The values of expressions that are rewritten: those of what becomes of them. -/
def comap (f : Node → Node) : Valuation V :=
  { a with value := fun n => a.value (f n), spread := fun n => a.spread (f n) }

/-- The key that a static key is. -/
def key? (n : Node) : Option String :=
  match n.head with
  | .name _ text => some text
  | .string _ value _ => some value
  | .number _ value _ => some (a.numeral value)
  | .bigInt _ value _ => some (toString value)
  | _ => none

/-- What a property writes to an object. -/
def write (object : Fields V) : Node → Option (Fields V)
  | .mk (.reference o name) ps => some (object.insert name (a.value (.mk (.reference o name) ps)))
  | .plain .keyValue _ [key, e] =>
    (a.key? key).bind fun key =>
      if key = "__proto__" then none else some (object.insert key (a.value e))
  | .mk (.spread _) [e] => some (a.spread e ∪ object)
  | _ => none

/-- **The object with some properties**, evaluated from left to right, where the last write wins. -/
def evaluate (properties : List Node) : Option (Fields V) :=
  properties.foldlM a.write ∅

/-! ### Properties in front of others -/

/-- A property writes over what is in an object, and over nothing else. -/
theorem write_union (object below : Fields V) (property : Node) :
    a.write (object ∪ below) property = (a.write object property).map (· ∪ below) := by
  rw [write.eq_def, write.eq_def]
  split
  · rw [Finmap.insert_union, Option.map_some]
  · rename_i o key e
    cases a.key? key with
    | none => rfl
    | some key =>
        rw [Option.bind_some, Option.bind_some, apply_ite (Option.map (· ∪ below)), Option.map_none,
          Option.map_some, Finmap.insert_union]
  · rw [Option.map_some, Finmap.union_assoc]
  · rfl

/-- Properties write over what is in an object, and over nothing else. -/
theorem foldlM_write (object below : Fields V) (properties : List Node) :
    properties.foldlM a.write (object ∪ below) =
      (properties.foldlM a.write object).map (· ∪ below) := by
  induction properties generalizing object with
  | nil => rfl
  | cons property properties ih =>
      rw [List.foldlM_cons, List.foldlM_cons, write_union]
      cases a.write object property with
      | none => rfl
      | some written => exact ih written

/-- **Properties in front of others** show through where the others write nothing. -/
theorem evaluate_append {front properties : List Node} {below object : Fields V}
    (hfront : a.evaluate front = some below) (h : a.evaluate properties = some object) :
    a.evaluate (front ++ properties) = some (object ∪ below) := by
  rw [evaluate] at hfront h
  have hempty := a.foldlM_write ∅ below properties
  rw [Finmap.empty_union, h, Option.map_some] at hempty
  rw [evaluate, List.foldlM_append, hfront]
  exact hempty

/-! ### Generated pairs -/

/-- The object that assigns variables to keys, one pair after the other. -/
def assigned (pairs : List (String × String)) : Fields V :=
  pairs.foldl (fun object pair => object.insert pair.1 (a.value (.generatedReference pair.2))) ∅

/-- A generated key is a static one. -/
theorem key?_generatedKey (name : String) : a.key? (.generatedKey name) = some name := by
  rw [Node.generatedKey]
  split <;> rfl

/-- A generated pair writes its value to its key, shorthand or not. -/
theorem write_generatedPair {key : String} (hkey : key ≠ "__proto__") (name : String)
    (object : Fields V) :
    a.write object (.generatedPair key name) =
      some (object.insert key (a.value (.generatedReference name))) := by
  rw [Node.generatedPair]
  split
  · rename_i hshort
    obtain ⟨heq, -⟩ := Bool.and_eq_true_iff.1 hshort
    obtain rfl := eq_of_beq heq
    rfl
  · show (a.key? (.generatedKey key)).bind _ = _
    rw [key?_generatedKey, Option.bind_some, if_neg hkey]

/-- Generated pairs write their values to their keys, one after the other. -/
theorem evaluate_generatedPairs {pairs : List (String × String)}
    (hkeys : "__proto__" ∉ pairs.map Prod.fst) :
    a.evaluate (pairs.map fun pair => .generatedPair pair.1 pair.2) = some (a.assigned pairs) := by
  rw [evaluate, assigned]
  generalize (∅ : Fields V) = object
  induction pairs generalizing object with
  | nil => rfl
  | cons pair pairs ih =>
      rw [List.map_cons, List.mem_cons, not_or] at hkeys
      rw [List.map_cons, List.foldlM_cons, a.write_generatedPair (Ne.symm hkeys.1)]
      exact ih hkeys.2 _

/-- A generated wrapper writes the value of its object to its key. -/
theorem evaluate_generatedWrapper {key : String} (hkey : key ≠ "__proto__") (pairs : List Node) :
    a.evaluate [.generatedWrapper key pairs] =
      some (Finmap.insert key (a.value (.generatedObject pairs)) ∅) := by
  show ((a.key? (.generatedKey key)).bind _).bind _ = _
  rw [key?_generatedKey, Option.bind_some, if_neg hkey]
  rfl

/-- One more pair is assigned after the others. -/
theorem assigned_concat (pairs : List (String × String)) (last : String × String) :
    a.assigned (pairs ++ [last]) =
      (a.assigned pairs).insert last.1 (a.value (.generatedReference last.2)) :=
  List.foldl_append

/-- **The last pair of a key counts.** -/
theorem lookup_assigned_eq_some_iff {pairs : List (String × String)} {key : String} {v : V} :
    (a.assigned pairs).lookup key = some v ↔
      ∃ name, IsLast pairs (key, name) ∧ a.value (.generatedReference name) = v := by
  induction pairs using List.reverseRecOn with
  | nil =>
      refine iff_of_false (fun h => ?_) ?_
      · cases (Finmap.lookup_empty key).symm.trans h
      · rintro ⟨name, ⟨before, after, hnil, -⟩, -⟩
        cases before <;> cases hnil
  | append_singleton pairs last ih =>
      simp only [assigned_concat, isLast_concat_iff]
      by_cases hkey : key = last.1
      · subst hkey
        rw [Finmap.lookup_insert, Option.some.injEq]
        constructor
        · exact fun hv => ⟨last.2, .inl rfl, hv⟩
        · rintro ⟨name, heq | ⟨-, hne⟩, hv⟩
          · rw [← heq]
            exact hv
          · exact absurd rfl hne
      · have hne : ∀ name, (key, name) ≠ last := fun name heq => hkey (congrArg Prod.fst heq)
        rw [Finmap.lookup_insert_of_ne _ hkey, ih]
        simp only [hne, false_or, ne_eq, hkey, not_false_eq_true, and_true]

/-- The keys of pairs are those that they write. -/
theorem mem_assigned_iff {pairs : List (String × String)} {key : String} :
    key ∈ a.assigned pairs ↔ key ∈ pairs.map Prod.fst := by
  induction pairs using List.reverseRecOn with
  | nil => exact iff_of_false Finmap.notMem_empty List.not_mem_nil
  | append_singleton pairs last ih =>
      rw [assigned_concat, Finmap.mem_insert, ih, List.map_append, List.mem_append, or_comm,
        List.map_singleton, List.mem_singleton]

end Valuation

/-! ### Injection into one tree -/

/-- What an injection makes of a tree: nothing happens if there is nothing to pass or nobody to pass
it to. -/
def Injection.rewrite (i : Injection) (n : Node) : Node :=
  if i.isIdle then n else Node.injected i.components i.generated n

/-- An injection with nothing to pass, or nobody to pass it to, leaves all trees. -/
theorem Injection.rewrite_of_isIdle {i : Injection} (h : i.isIdle = true) : i.rewrite = id :=
  funext fun _ => if_pos h

/-- Any other injection injects. -/
theorem Injection.rewrite_of_not_isIdle {i : Injection} (h : i.isIdle = false) :
    i.rewrite = Node.injected i.components i.generated :=
  funext fun _ => if_neg (Bool.eq_false_iff.1 h)

/-- Injection rewrites each item of the body. -/
theorem Module.injectProperties_eq_rewrite (i : Injection) (m : Module) :
    (m.injectProperties i).2.1 = { m with body := m.body.map i.rewrite } := by
  rw [injectProperties_eq]
  cases hidle : i.isIdle with
  | true =>
      rw [Injection.rewrite_of_isIdle hidle, List.map_id]
      rfl
  | false =>
      rw [Injection.rewrite_of_not_isIdle hidle]
      rfl

namespace Valuation

variable {V : Type} (a : Valuation V) {components : List String} {properties : List Node}

/-- A call is no property. -/
theorem write_of_isCall {n : Node} (h : n.head.isCall = true)
    (object : Fields V) : a.write object n = none := by
  rw [write.eq_def]
  split
  · cases h
  · cases h
  · cases h
  · rfl

/-- A key of the same head is the same key. -/
theorem key?_injected (n : Node) :
    a.key? (Node.injected components properties n) = a.key? n := by
  rw [key?, key?, Node.head_injected]

/-- **A property that is changed inside** writes the same key, with the value of what became of its
expression. -/
theorem write_injected (object : Fields V) (n : Node) :
    a.write object (Node.injected components properties n) =
      (a.comap (Node.injected components properties)).write object n := by
  by_cases hcall : n.head.isCall = true
  · rw [write_of_isCall _ (by rwa [Node.head_injected]), write_of_isCall _ hcall]
  · obtain ⟨h, ps⟩ := n
    have hsame : Node.injected components properties (.mk h ps) =
        .mk h (ps.map (Node.injected components properties)) :=
      Node.injected_mk_of_not_call (Bool.eq_false_iff.2 hcall) ps
    rw [hsame, write.eq_def (a.comap _)]
    split
    · rename_i heq
      obtain ⟨rfl, rfl⟩ := Node.mk.inj heq
      simp only [comap, hsame]
      rfl
    · rename_i o key e heq
      obtain ⟨rfl, rfl⟩ := Node.mk.inj heq
      show (a.key? (Node.injected components properties key)).bind _ = _
      rw [key?_injected]
      rfl
    · rename_i heq
      obtain ⟨rfl, rfl⟩ := Node.mk.inj heq
      rfl
    · rename_i hreference hkeyValue hspread
      rw [write.eq_def]
      split
      · rename_i heq
        obtain ⟨rfl, -⟩ := Node.mk.inj heq
        exact (hreference _ _ _ rfl).elim
      · rename_i heq
        obtain ⟨rfl, hps⟩ := Node.mk.inj heq
        obtain ⟨_, _, rfl, -⟩ := exists_of_map_eq_pair hps
        exact (hkeyValue _ _ _ rfl).elim
      · rename_i heq
        obtain ⟨rfl, hps⟩ := Node.mk.inj heq
        obtain ⟨_, rfl, -⟩ := List.map_eq_singleton_iff.1 hps
        exact (hspread _ _ rfl).elim
      · rfl

/-- **Properties that are changed inside** are evaluated as before, with the values of what became
of their expressions. -/
theorem evaluate_map_rewrite (i : Injection) (properties : List Node) :
    a.evaluate (properties.map i.rewrite) = (a.comap i.rewrite).evaluate properties := by
  have hwrite : ∀ object n, a.write object (i.rewrite n) = (a.comap i.rewrite).write object n := by
    intro object n
    cases hidle : i.isIdle with
    | true =>
        rw [Injection.rewrite_of_isIdle hidle]
        rfl
    | false =>
        rw [Injection.rewrite_of_not_isIdle hidle]
        exact a.write_injected object n
  rw [evaluate, evaluate, List.foldlM_map]
  simp only [hwrite]

end Valuation

/-! ### Elements before and after -/

namespace Node

/-- The properties that a call passes to a component. -/
def passedProperties : Node → List Node
  | plain .call _ [_, list (_ :: mk (.argument none) [plain .object _ [list own]] :: _)] => own
  | _ => []

/-- The elements of some components in a tree. -/
def elements (components : List String) (n : Node) : List Node :=
  n.nodes.filter (IsElement components ·)

section Elements

variable {components : List String} {properties : List Node}

/-- **An element passes the injected properties, and behind them its own.** -/
theorem IsElement.passedProperties_injected {n : Node} (hn : IsElement components n) :
    (injected components properties n).passedProperties =
      properties ++ n.passedProperties.map (injected components properties) := by
  obtain ⟨hfactory, hcomponent⟩ := hn
  rw [plain, injected_eq_extended]
  simp only [List.map_cons, List.map_nil, injected_reference, injected_list, injected_argument,
    injected_object]
  rw [extended_call hfactory hcomponent]
  rfl

/-- The elements of a node: itself, if it is one, and those of its parts. -/
theorem elements_mk (h : Head) (ps : List Node) :
    (mk h ps).elements components =
      if IsElement components (mk h ps) then mk h ps :: ps.flatMap (elements components)
      else ps.flatMap (elements components) := by
  have hparts : (ps.flatMap nodes).filter (IsElement components ·) =
      ps.flatMap (elements components) := List.filter_flatMap
  rw [elements, nodes_mk, List.filter_cons, hparts]
  simp only [decide_eq_true_eq]

/-- The elements of a node that is no call are those of its parts. -/
theorem elements_mk_of_not_call {h : Head} (hh : h.isCall = false) (ps : List Node) :
    (mk h ps).elements components = ps.flatMap (elements components) := by
  have hn : ¬IsElement components (mk h ps) := by
    rw [← isElementOf_iff, isElementOf_of_not_call hh]
    exact Bool.false_ne_true
  rw [elements_mk, if_neg hn]

/-- A tree without elements has none. -/
theorem elements_eq_nil {n : Node} (h : n.elementCount components = 0) :
    n.elements components = [] := by
  rw [elementCount_eq_countP, List.countP_eq_length_filter, List.length_eq_zero_iff] at h
  exact h

/-- Properties in front of those of an element change this element, and leave those inside of it. -/
theorem IsElement.elements_prependProperties {h : Head} {ps : List Node}
    (hn : IsElement components (mk h ps))
    (hproperties : ∀ p ∈ properties, p.elementCount components = 0) :
    ((mk h ps).prependProperties properties).elements components =
      (mk h ps).prependProperties properties :: ps.flatMap (elements components) := by
  have hnone : properties.flatMap (elements components) = [] :=
    List.flatMap_eq_nil_iff.2 fun p hp => elements_eq_nil (hproperties p hp)
  have hlist : ∀ ns, (list ns).elements components = ns.flatMap (elements components) :=
    elements_mk_of_not_call rfl
  have hargument : ∀ e, (mk (.argument none) [e]).elements components = e.elements components :=
    fun e => (elements_mk_of_not_call rfl [e]).trans (List.flatMap_singleton _ e)
  have hobject : ∀ o own, (mk (.plain .object o) [list (properties ++ own)]).elements components =
      (mk (.plain .object o) [list own]).elements components := by
    intro o own
    rw [elements_mk_of_not_call rfl, elements_mk_of_not_call rfl, List.flatMap_singleton,
      List.flatMap_singleton, hlist, hlist, List.flatMap_append, hnone, List.nil_append]
  generalize hcall : mk h ps = n at hn
  obtain ⟨hfactory, hcomponent⟩ := hn
  obtain ⟨rfl, rfl⟩ := Node.mk.inj hcall
  simp only [prependProperties, plain]
  rw [elements_mk, if_pos (.intro hfactory hcomponent)]
  simp only [List.flatMap_cons, hlist, hargument, hobject]

/-- **The elements of a tree after injection** are those before, each after injection, if the
properties hold none. -/
theorem elements_injected (hproperties : ∀ p ∈ properties, p.elementCount components = 0)
    (n : Node) :
    (injected components properties n).elements components =
      (n.elements components).map (injected components properties) := by
  induction n with
  | mk h ps ih =>
      have hparts : (ps.map (injected components properties)).flatMap (elements components) =
          (ps.flatMap (elements components)).map (injected components properties) := by
        rw [List.flatMap_map, List.map_flatMap]
        exact List.flatMap_congr ih
      rw [elements_mk]
      by_cases hn : IsElement components (mk h ps)
      · have hmap : IsElement components (mk h (ps.map (injected components properties))) :=
          isElement_map_injected.2 hn
        rw [if_pos hn, List.map_cons, injected_eq_ite, if_pos hmap,
          hmap.elements_prependProperties hproperties, hparts]
      · have hmap : ¬IsElement components (mk h (ps.map (injected components properties))) :=
          mt isElement_map_injected.1 hn
        rw [if_neg hn, injected_eq_ite, if_neg hmap, elements_mk, if_neg hmap, hparts]

end Elements

end Node

/-! ### What is injected -/

namespace Injection

variable {V : Type} (i : Injection) (a : Valuation V)

/-- The keys under which something is injected. -/
def keys : List String :=
  match i.wrapperKey with
  | some key => if i.properties = [] then [] else [key]
  | none => i.properties.map Prod.fst

/-- **What is injected under a key**: the value of the variable that is given last for it, or the
value of one object with all that is given. -/
inductive Passes : String → V → Prop
  | flat {key name : String} :
      i.wrapperKey = none → IsLast i.properties (key, name) →
      Passes key (a.value (.generatedReference name))
  | wrapped {key : String} {o : Origin} {own : List Node} {fields : Fields V} :
      i.wrapperKey = some key → a.evaluate own = some fields →
      (∀ k v, fields.lookup k = some v ↔
        ∃ name, IsLast i.properties (k, name) ∧ a.value (.generatedReference name) = v) →
      Passes key (a.value (.plain .object o [.list own]))

/-- **What a component gets**: `object` in place of the author's `original`. -/
structure Completes (original object : Fields V) : Prop where
  /-- What the author wrote keeps its value. -/
  kept : ∀ key v, original.lookup key = some v → object.lookup key = some v
  /-- Other keys get what is injected under them. -/
  passed : ∀ key ∈ i.keys, key ∉ original → ∃ v, object.lookup key = some v ∧ i.Passes a key v
  /-- There are no other keys. -/
  only : ∀ key ∈ object, key ∈ original ∨ key ∈ i.keys

/-- **What the injected properties alone come to**: an object with just the injected keys, each with
what is injected under it. -/
theorem exists_evaluate_generated (hproperties : i.properties ≠ [])
    (hkeys : "__proto__" ∉ i.properties.map Prod.fst) (hwrapper : i.wrapperKey ≠ some "__proto__") :
    ∃ below, a.evaluate i.generated = some below ∧
      (∀ key ∈ i.keys, ∃ v, below.lookup key = some v ∧ i.Passes a key v) ∧
      ∀ key ∈ below, key ∈ i.keys := by
  have hpairs := a.evaluate_generatedPairs hkeys
  rw [generated, keys]
  cases hkey : i.wrapperKey with
  | none =>
      refine ⟨a.assigned i.properties, hpairs, fun key hmem => ?_, fun key => a.mem_assigned_iff.1⟩
      obtain ⟨v, hv⟩ := Finmap.mem_iff.1 (a.mem_assigned_iff.2 hmem)
      obtain ⟨name, hlast, rfl⟩ := a.lookup_assigned_eq_some_iff.1 hv
      exact ⟨_, hv, .flat hkey hlast⟩
  | some wrapper =>
      have hname : wrapper ≠ "__proto__" := fun heq => hwrapper (hkey.trans (congrArg some heq))
      have hvalue := Passes.wrapped (o := .generated) hkey hpairs
        fun k v => a.lookup_assigned_eq_some_iff
      refine ⟨_, a.evaluate_generatedWrapper hname _, ?_, ?_⟩
      · simp only [if_neg hproperties, List.mem_singleton, forall_eq]
        exact ⟨_, Finmap.lookup_insert _, hvalue⟩
      · intro key hmem
        rw [Finmap.mem_insert] at hmem
        simp only [if_neg hproperties, List.mem_singleton]
        exact hmem.resolve_right Finmap.notMem_empty

variable {i a}

/-- With nothing to inject, what the author wrote is all there is. -/
theorem completes_self (hproperties : i.properties = []) (original : Fields V) :
    i.Completes a original original where
  kept _ _ hv := hv
  passed := by
    have hnone : i.keys = [] := by
      rw [keys, hproperties]
      split <;> rfl
    rw [hnone]
    exact fun _ hkey => absurd hkey List.not_mem_nil
  only _ hkey := .inl hkey

/-- The author's properties behind the injected ones complete them. -/
theorem completes_union {original below : Fields V}
    (hpassed : ∀ key ∈ i.keys, ∃ v, below.lookup key = some v ∧ i.Passes a key v)
    (honly : ∀ key ∈ below, key ∈ i.keys) : i.Completes a original (original ∪ below) where
  kept := by
    intro key v hv
    exact Finmap.mem_lookup_union'.2 (.inl hv)
  passed := by
    intro key hkey hnew
    obtain ⟨v, hv, hpasses⟩ := hpassed key hkey
    exact ⟨v, Finmap.mem_lookup_union'.2 (.inr ⟨hnew, hv⟩), hpasses⟩
  only := by
    intro key hkey
    exact (Finmap.mem_union.1 hkey).imp_right (honly key)

end Injection

/-! ### Modules -/

namespace Module

/-- The elements of some components in a module. -/
def elements (components : List String) (m : Module) : List Node :=
  m.body.flatMap (Node.elements components)

/-- **The elements of a module after injection** are those before, each after injection. -/
theorem elements_injectProperties (m : Module) (i : Injection) :
    (m.injectProperties i).2.1.elements i.components =
      (m.elements i.components).map i.rewrite := by
  rw [injectProperties_eq_rewrite, elements, elements, List.flatMap_map, List.map_flatMap]
  refine List.flatMap_congr fun n _ => ?_
  cases hidle : i.isIdle with
  | true =>
      rw [Injection.rewrite_of_isIdle hidle, List.map_id]
      rfl
  | false =>
      rw [Injection.rewrite_of_not_isIdle hidle]
      exact Node.elements_injected (i.elementCount_generated i.components) n

/-- **Injected properties never override the author's.** For every module and every injection in
which no key is `__proto__`, the elements after injection are those before, each after injection.
For each of them whose properties can be evaluated, and all values of what is in them, the component
gets what the author wrote, under other keys what is injected there, and nothing else.

An expression of the author that holds elements is changed too, so its value is that of what becomes
of it. -/
theorem completes_injectProperties (m : Module) (i : Injection)
    (hkeys : "__proto__" ∉ i.properties.map Prod.fst) (hwrapper : i.wrapperKey ≠ some "__proto__") :
    (m.injectProperties i).2.1.elements i.components =
        (m.elements i.components).map i.rewrite ∧
      ∀ (V : Type) (a : Valuation V), ∀ call ∈ m.elements i.components, ∀ original,
        (a.comap i.rewrite).evaluate call.passedProperties = some original →
          ∃ object, a.evaluate (i.rewrite call).passedProperties = some object ∧
            i.Completes a original object := by
  refine ⟨m.elements_injectProperties i, fun V a call hcall original horiginal => ?_⟩
  obtain ⟨n, -, hn⟩ := List.mem_flatMap.1 hcall
  have he : Node.IsElement i.components call := of_decide_eq_true (List.mem_filter.1 hn).2
  cases hidle : i.isIdle with
  | true =>
      -- There is somebody to pass to, so there is nothing to pass.
      have hproperties : i.properties = [] := by
        obtain hcomponents | hproperties := Bool.or_eq_true_iff.1 hidle
        · obtain ⟨-, hcomponent⟩ := he
          rw [List.isEmpty_iff.1 hcomponents] at hcomponent
          cases hcomponent
        · exact List.isEmpty_iff.1 hproperties
      rw [Injection.rewrite_of_isIdle hidle] at horiginal ⊢
      exact ⟨original, horiginal, Injection.completes_self hproperties original⟩
  | false =>
      have hproperties : i.properties ≠ [] :=
        List.isEmpty_eq_false_iff.1 (Bool.or_eq_false_iff.1 hidle).2
      obtain ⟨below, hbelow, hpassed, honly⟩ :=
        i.exists_evaluate_generated a hproperties hkeys hwrapper
      rw [← a.evaluate_map_rewrite] at horiginal
      refine ⟨original ∪ below, ?_, Injection.completes_union hpassed honly⟩
      rw [Injection.rewrite_of_not_isIdle hidle] at horiginal ⊢
      rw [he.passedProperties_injected]
      exact a.evaluate_append hbelow horiginal

/-- The call `_jsx(Test, {React: mine, ...rest})`. -/
def overridingCall : Node :=
  .plain .call .generated
    [.generatedReference "_jsx",
      .list [.mk (.argument none) [.generatedReference "Test"],
        .mk (.argument none) [.plain .object .generated [.list
          [.plain .keyValue .generated [.generatedName "React", .generatedReference "mine"],
            .mk (.spread Span.dummy) [.generatedReference "rest"]]]]]]

/-- The module that consists of this call. -/
def overridesReact : Module :=
  ⟨Span.dummy, [.plain .expressionStatement .generated [overridingCall]], none⟩

/-- Variables have their names as values, and what is spread has the key `jsx`. -/
def namesAsValues : Valuation String where
  value n := n.reference?.getD "other"
  spread _ := Finmap.singleton "jsx" "spread"
  numeral _ := "0"

/-- The author's `React` and `jsx` stay, and of the injected keys only `jsxs` is passed. -/
theorem completes_injectProperties_overridesReact :
    let i : Injection := ⟨["Test"],
      [("jsxs", "first"), ("React", "React"), ("jsx", "_jsx"), ("jsxs", "_jsxs")], none⟩
    "__proto__" ∉ i.properties.map Prod.fst ∧ i.wrapperKey ≠ some "__proto__" ∧
      overridingCall ∈ overridesReact.elements i.components ∧
      ∃ original object,
        (namesAsValues.comap i.rewrite).evaluate overridingCall.passedProperties = some original ∧
        namesAsValues.evaluate (i.rewrite overridingCall).passedProperties = some object ∧
        object.lookup "React" = some "mine" ∧ object.lookup "jsx" = some "spread" ∧
        ∃ v, object.lookup "jsxs" = some v ∧ i.Passes namesAsValues "jsxs" v := by
  intro i
  have hkeys : "__proto__" ∉ i.properties.map Prod.fst := by decide
  have hwrapper : i.wrapperKey ≠ some "__proto__" := by decide
  have hcall : overridingCall ∈ overridesReact.elements i.components := by
    refine List.mem_flatMap.2 ⟨_, List.mem_singleton_self _, List.mem_filter.2 ⟨?_, ?_⟩⟩
    · exact List.mem_cons_of_mem _ (List.mem_append_left _ (Node.mem_nodes_self _))
    · exact decide_eq_true (.intro (by decide) (by decide))
  have horiginal : (namesAsValues.comap i.rewrite).evaluate overridingCall.passedProperties =
      some (Finmap.singleton "jsx" "spread" ∪ Finmap.insert "React" "mine" ∅) := rfl
  obtain ⟨-, hcompletes⟩ := overridesReact.completes_injectProperties i hkeys hwrapper
  obtain ⟨object, hobject, hkept, hpassed, -⟩ :=
    hcompletes String namesAsValues overridingCall hcall _ horiginal
  exact ⟨hkeys, hwrapper, hcall, _, object, horiginal, hobject, hkept _ _ rfl, hkept _ _ rfl,
    hpassed _ (by decide) (by decide)⟩

end Module

end HostProps
