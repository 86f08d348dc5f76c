import HostProps.Proofs.Operation
import HostProps.Proofs.RuntimeExports

/-!
# Operations only Add

What operations generate has a dummy span, so it can be told from what was written.
`Module.erase` drops what was generated:

* from the body of a module, the declarations of variables with a dummy span;
* from every object, the properties whose key, or whose variable if they have no key of their own,
  has a dummy span;
* from every pattern of an object, the pairs whose key has a dummy span.

No operation can be seen through `Module.erase`, on any module (`Module.erase_evolution`), and a
module in which nothing has a dummy span is its own erasure (`Module.erase_eq_self`). So whatever
is done to a document that was written by somebody, erasing it gives back the document: nothing was
removed, reordered or altered.

## Main results

* `Module.erase_evolution`: operations do not change the erasure of a module.
* `Module.erase_eq_self`: what was written is its own erasure.
* `Program.erase_run`: any run on what was written only adds to it.
-/

namespace HostProps

namespace Node

/-! ### What was generated -/

/-- Is a span of a node itself, rather than of its parts, a dummy? -/
def hasDummySpan (n : Node) : Bool := n.head.spans.any Span.isDummy

/-- The key of a property of an object; a property that is only a variable is its own key, and a
spread has none. -/
def propertyKey? : Node → Option Node
  | mk (.reference o name) ps => some (mk (.reference o name) ps)
  | plain .keyValue _ (key :: _) | plain .assignmentProperty _ (key :: _)
  | plain .getter _ (key :: _) | plain .setter _ (key :: _) => some key
  | mk (.function .method _ _ _) (key :: _) => some key
  | _ => none

/-- Was a property of an object generated? -/
def isGeneratedProperty (n : Node) : Bool := n.propertyKey?.any hasDummySpan

/-- Was a property of a pattern generated? -/
def isGeneratedPatternPair : Node → Bool
  | plain .keyValuePattern _ (key :: _) => key.hasDummySpan
  | _ => false

/-- Was a statement of a body generated? -/
def isGeneratedDeclaration (n : Node) : Bool := n.isVariableDeclaration && n.hasDummySpan

/-- Drop the generated properties of an object or of a pattern, but nothing from inside of them. -/
def dropGenerated : Node → Node
  | plain .object o [mk .sequence properties] =>
    plain .object o [list (properties.filter (!·.isGeneratedProperty))]
  | plain .objectPattern o [mk .sequence properties] =>
    plain .objectPattern o [list (properties.filter (!·.isGeneratedPatternPair))]
  | n => n

mutual

/-- Drop the generated properties of all objects and patterns in a tree. -/
def erase : Node → Node
  | mk h ps => (mk h (eraseParts ps)).dropGenerated

/-- Drop the generated properties of all objects and patterns in some trees. -/
def eraseParts : List Node → List Node
  | [] => []
  | n :: ns => erase n :: eraseParts ns

end

/-- Erasing some trees erases each of them. -/
theorem eraseParts_eq_map (ns : List Node) : eraseParts ns = ns.map erase := by
  induction ns with
  | nil => rfl
  | cons n ns ih => rw [eraseParts, ih, List.map_cons]

/-- Erasing a node: first its parts, then its own generated properties. -/
theorem erase_mk (h : Head) (ps : List Node) :
    (mk h ps).erase = (mk h (ps.map erase)).dropGenerated := by
  rw [erase, eraseParts_eq_map]

/-- Erasing works from the inside out. -/
theorem compositional_erase : Compositional erase := by
  intro h ps qs heq
  rw [erase_mk, erase_mk, heq]

/-- Erasing an object. -/
theorem erase_object (o : Origin) (properties : List Node) :
    (plain .object o [list properties]).erase =
      plain .object o [list ((properties.map erase).filter (!·.isGeneratedProperty))] := by
  rw [plain, erase_mk]
  simp only [List.map_cons, List.map_nil, list, erase_mk]
  rfl

/-- Erasing the pattern of an object. -/
theorem erase_objectPattern (o : Origin) (properties : List Node) :
    (plain .objectPattern o [list properties]).erase =
      plain .objectPattern o
        [list ((properties.map erase).filter (!·.isGeneratedPatternPair))] := by
  rw [plain, erase_mk]
  simp only [List.map_cons, List.map_nil, list, erase_mk]
  rfl

/-! ### Generated properties are dropped -/

/-- Generated keys have a dummy span. -/
theorem hasDummySpan_erase_generatedKey (name : String) :
    (generatedKey name).erase.hasDummySpan = true := by
  rw [generatedKey]
  split <;> rfl

/-- Generated pairs are generated properties. -/
theorem isGeneratedProperty_erase_generatedPair (key value : String) :
    (generatedPair key value).erase.isGeneratedProperty = true := by
  rw [generatedPair]
  split
  · rfl
  · exact hasDummySpan_erase_generatedKey key

/-- The properties that a matched call gets are generated ones. -/
theorem isGeneratedProperty_erase_generated (i : Injection) {n : Node} (hn : n ∈ i.generated) :
    n.erase.isGeneratedProperty = true := by
  rw [Injection.generated] at hn
  cases hkey : i.wrapperKey with
  | some key =>
      simp only [hkey, List.mem_singleton] at hn
      subst hn
      exact hasDummySpan_erase_generatedKey key
  | none =>
      simp only [hkey] at hn
      obtain ⟨⟨key, value⟩, -, rfl⟩ := List.mem_map.1 hn
      exact isGeneratedProperty_erase_generatedPair key value

/-- Erasing does not see generated properties in front of those of an object. -/
theorem erase_object_generated (i : Injection) (o : Origin) (own : List Node) :
    (plain .object o [list (i.generated ++ own)]).erase = (plain .object o [list own]).erase := by
  have hnone : (i.generated.map erase).filter (!·.isGeneratedProperty) = [] := by
    rw [List.filter_eq_nil_iff]
    intro n hn
    obtain ⟨g, hg, rfl⟩ := List.mem_map.1 hn
    rw [isGeneratedProperty_erase_generated i hg]
    exact Bool.false_ne_true
  rw [erase_object, erase_object, List.map_append, List.filter_append, hnone, List.nil_append]

/-- Erasing does not see generated pairs among the properties of a pattern. -/
theorem erase_objectPattern_exportPairs (o : Origin) (before : List Node) (keys : List String)
    (after : List Node) :
    (plain .objectPattern o [list (before ++ exportPairs keys ++ after)]).erase =
      (plain .objectPattern o [list (before ++ after)]).erase := by
  have hnone : ((exportPairs keys).map erase).filter (!·.isGeneratedPatternPair) = [] := by
    rw [List.filter_eq_nil_iff]
    intro n hn
    obtain ⟨pair, hpair, rfl⟩ := List.mem_map.1 hn
    obtain ⟨key, -, rfl⟩ := List.mem_map.1 hpair
    have hgenerated :
        (generatedPatternPair key (runtimeVariable key)).erase.isGeneratedPatternPair = true :=
      hasDummySpan_erase_generatedKey key
    rw [hgenerated]
    exact Bool.false_ne_true
  simp only [erase_objectPattern, List.map_append, List.filter_append, hnone, List.append_nil]

/-- Injection cannot be seen after erasing. -/
theorem erase_injected (i : Injection) (n : Node) :
    (injected i.components i.generated n).erase = n.erase :=
  compositional_erase.injected (erase_object_generated i) n

/-- Widening cannot be seen after erasing. -/
theorem erase_of_widenStatement? {runtimes : List Runtime} {n n' : Node} {keys : List String}
    (h : n.widenStatement? runtimes = some (keys, n')) : n'.erase = n.erase :=
  compositional_erase.widenStatement? erase_objectPattern_exportPairs h

/-! ### What was written stays -/

/-- The spans of a node itself are among those of its tree. -/
theorem hasDummySpan_of_written {n : Node} (h : ∀ s ∈ n.spans, s.isDummy = false) :
    n.hasDummySpan = false := by
  cases n with
  | mk hd ps =>
      rw [hasDummySpan, List.any_eq_false]
      intro s hs
      rw [h s (mem_spans_mk.2 (.inl hs))]
      exact Bool.false_ne_true

/-- The key of a property is the property itself or one of its parts. -/
theorem eq_or_mem_parts_of_propertyKey? {n key : Node} (h : n.propertyKey? = some key) :
    key = n ∨ key ∈ n.parts := by
  rw [propertyKey?.eq_def] at h
  split at h
  · exact .inl (Option.some.inj h).symm
  all_goals first
    | exact .inr (Option.some.inj h ▸ List.mem_cons_self)
    | cases h

/-- No property that was written is a generated one. -/
theorem isGeneratedProperty_of_written {n : Node} (h : ∀ s ∈ n.spans, s.isDummy = false) :
    n.isGeneratedProperty = false := by
  rw [isGeneratedProperty]
  cases hkey : n.propertyKey? with
  | none => rfl
  | some key =>
      obtain rfl | hmem := eq_or_mem_parts_of_propertyKey? hkey
      · exact hasDummySpan_of_written h
      · cases n with
        | mk hd ps =>
            exact hasDummySpan_of_written fun s hs => h s (mem_spans_mk.2 (.inr ⟨key, hmem, hs⟩))

/-- No pair of a pattern that was written is a generated one. -/
theorem isGeneratedPatternPair_of_written {n : Node} (h : ∀ s ∈ n.spans, s.isDummy = false) :
    n.isGeneratedPatternPair = false := by
  rw [isGeneratedPatternPair.eq_def]
  split
  · rename_i o key rest
    exact hasDummySpan_of_written
      fun s hs => h s (mem_spans_mk.2 (.inr ⟨key, List.mem_cons_self, hs⟩))
  · rfl

/-- Nothing is dropped from a node that was written. -/
theorem dropGenerated_of_written {n : Node} (h : ∀ s ∈ n.spans, s.isDummy = false) :
    n.dropGenerated = n := by
  have hproperty : ∀ o form properties, n = plain form o [list properties] →
      ∀ q ∈ properties, ∀ s ∈ q.spans, s.isDummy = false := by
    intro o form properties hn q hq s hs
    refine h s ?_
    rw [hn, plain, mem_spans_mk]
    refine .inr ⟨list properties, List.mem_singleton_self _, ?_⟩
    exact mem_spans_mk.2 (.inr ⟨q, hq, hs⟩)
  rw [dropGenerated.eq_def]
  split
  · rename_i o properties
    have hkeep : properties.filter (!·.isGeneratedProperty) = properties := by
      rw [List.filter_eq_self]
      intro q hq
      rw [isGeneratedProperty_of_written (hproperty _ _ _ rfl q hq)]
      rfl
    rw [hkeep]
    rfl
  · rename_i o properties
    have hkeep : properties.filter (!·.isGeneratedPatternPair) = properties := by
      rw [List.filter_eq_self]
      intro q hq
      rw [isGeneratedPatternPair_of_written (hproperty _ _ _ rfl q hq)]
      rfl
    rw [hkeep]
    rfl
  · rfl

/-- A tree that was written is its own erasure. -/
theorem erase_eq_self {n : Node} (h : ∀ s ∈ n.spans, s.isDummy = false) : n.erase = n := by
  induction n with
  | mk hd ps ih =>
      have hparts : ps.map erase = ps.map id :=
        List.map_congr_left fun n hn =>
          ih n hn fun s hs => h s (mem_spans_mk.2 (.inr ⟨n, hn, hs⟩))
      rw [erase_mk, hparts, List.map_id, dropGenerated_of_written h]

/-! ### Statements of a body -/

/-- A statement of a body without what was generated, unless it was generated itself. -/
def eraseStatement? (n : Node) : Option Node :=
  if n.isGeneratedDeclaration then none else some n.erase

/-- The erasure of a statement of a body is told by its head and by what its tree is erased to. -/
theorem eraseStatement?_congr {n n' : Node} (hhead : n'.head = n.head) (h : n'.erase = n.erase) :
    n'.eraseStatement? = n.eraseStatement? := by
  rw [eraseStatement?, eraseStatement?, isGeneratedDeclaration, isGeneratedDeclaration,
    hasDummySpan, hasDummySpan, isVariableDeclaration_congr hhead, hhead, h]

/-- A statement that was written is its own erasure. -/
theorem eraseStatement?_of_written {n : Node} (h : ∀ s ∈ n.spans, s.isDummy = false) :
    n.eraseStatement? = some n := by
  rw [eraseStatement?, isGeneratedDeclaration, hasDummySpan_of_written h, Bool.and_false,
    erase_eq_self h]
  rfl

end Node

/-! ### Modules -/

namespace Module

/-- A module without what was generated: without generated declarations at its top level, and
without generated properties at any depth. -/
def erase (m : Module) : Module :=
  { m with body := m.body.filterMap Node.eraseStatement? }

/-- The erasure of a module is told by the erasure of each statement of its body. -/
theorem erase_congr {m m' : Module} (hspan : m'.span = m.span)
    (hinterpreter : m'.interpreter = m.interpreter)
    (h : m'.body.map Node.eraseStatement? = m.body.map Node.eraseStatement?) :
    m'.erase = m.erase := by
  have hbody : m'.body.filterMap Node.eraseStatement? = m.body.filterMap Node.eraseStatement? := by
    have hid : ∀ l : List Node,
        l.filterMap Node.eraseStatement? = (l.map Node.eraseStatement?).filterMap id := by
      intro l
      rw [List.filterMap_map, Function.id_comp]
    rw [hid, hid, h]
  rw [erase, erase, hspan, hinterpreter, hbody]

/-- Declarations of arguments are erased. -/
theorem erase_insertArguments (names : List String) (m : Module) :
    (m.insertArguments names).2.1.erase = m.erase := by
  obtain ⟨before, names', after, hcut, h⟩ := exists_insertArguments_body names m
  have hnone : (names'.map Node.argumentDeclaration).filterMap Node.eraseStatement? = [] := by
    rw [List.filterMap_eq_nil_iff]
    intro n hn
    obtain ⟨name, -, rfl⟩ := List.mem_map.1 hn
    rfl
  rw [h, erase, erase, hcut.append]
  simp only [List.filterMap_append, hnone, List.append_nil]

/-- Injected properties are erased. -/
theorem erase_injectProperties (i : Injection) (m : Module) :
    (m.injectProperties i).2.1.erase = m.erase := by
  rw [injectProperties_eq]
  split
  · rfl
  · refine erase_congr rfl rfl ?_
    rw [List.map_map]
    refine List.map_congr_left fun n _ => ?_
    exact Node.eraseStatement?_congr (Node.head_injected n) (Node.erase_injected i n)

/-- Added exports are erased. -/
theorem erase_addRuntimeExports (runtimes : List Runtime) (m : Module) :
    (m.addRuntimeExports runtimes).2.1.erase = m.erase := by
  have hmap : (m.addRuntimeExports runtimes).2.1.body.map Node.eraseStatement? =
      m.body.map Node.eraseStatement? :=
    map_body_addRuntimeExports (fun n keys n' h =>
      Node.eraseStatement?_congr (Node.head_of_widenStatement? h)
        (Node.erase_of_widenStatement? h)) m
  obtain ⟨body, h, -⟩ := exists_addRuntimeExports_body runtimes m
  rw [h] at hmap ⊢
  exact erase_congr rfl rfl hmap

/-- **Operations only add**: none of them changes the erasure of a module. -/
theorem erase_evolution : Evolution fun m m' => m'.erase = m.erase :=
  Evolution.of_invariant erase erase_insertArguments erase_injectProperties erase_addRuntimeExports

/-- **What was written is its own erasure.** -/
theorem erase_eq_self {m : Module} (h : ∀ s ∈ m.spans, s.isDummy = false) : m.erase = m := by
  have hspans : ∀ n ∈ m.body, ∀ s ∈ n.spans, s.isDummy = false := by
    intro n hn s hs
    refine h s (List.mem_cons_of_mem _ ?_)
    rw [Node.spansOfParts_eq_map, List.mem_flatten]
    exact ⟨n.spans, List.mem_map_of_mem hn, hs⟩
  have hbody : m.body.filterMap Node.eraseStatement? = m.body := by
    rw [List.filterMap_congr fun n hn => Node.eraseStatement?_of_written (hspans n hn),
      List.filterMap_some]
  rw [erase, hbody]

end Module

/-! ### Runs -/

/-- **Runs only add.** Take a document in which no node has a dummy span, and let any operations run
on it, one after the other, with any arguments. Without the generated declarations and properties,
the result is the document as it was: its module, its comments and its path. -/
theorem Program.erase_run (p : Program) (hwritten : ∀ s ∈ p.module.spans, s.isDummy = false)
    (ops : List Operation) :
    (p.run ops).module.erase = p.module ∧ (p.run ops).comments = p.comments ∧
      (p.run ops).path = p.path := by
  refine ⟨?_, p.comments_run ops, p.path_run ops⟩
  have hrun : (p.run ops).module.erase = p.module.erase := Module.erase_evolution.run ops p
  rw [hrun, Module.erase_eq_self hwritten]

/-- The document `const {jsx: a} = arguments[0]; _jsx(A, {});`, as it is written. -/
def Program.sample : Program where
  path := some "a.mdx"
  module :=
    { span := ⟨1, 44⟩
      body :=
        [.mk (.variableDeclaration (.written ⟨1, 31⟩) .const)
          [.list [.plain .declarator (.written ⟨7, 30⟩)
            [.plain .objectPattern (.written ⟨7, 15⟩)
              [.list [.plain .keyValuePattern .generated
                [.mk (.name ⟨8, 11⟩ "jsx") [], .mk (.binding (.written ⟨13, 14⟩) "a") []]]],
            .plain .member (.written ⟨18, 30⟩)
              [.mk (.reference (.written ⟨18, 27⟩) "arguments") [],
                .plain .computed (.written ⟨27, 30⟩)
                  [.mk (.number ⟨28, 29⟩ .zero (some "0")) []]]]]],
        .plain .expressionStatement (.written ⟨32, 44⟩)
          [.plain .call (.written ⟨32, 43⟩)
            [.mk (.reference (.written ⟨32, 36⟩) "_jsx") [],
              .list [.mk (.argument none) [.mk (.reference (.written ⟨37, 38⟩) "A") []],
                .mk (.argument none) [.plain .object (.written ⟨40, 42⟩) [.list []]]]]]]
      interpreter := none }
  comments := [⟨.line, ⟨44, 48⟩, "a"⟩]

/-- Everything that can be done to the sample can be erased again. -/
theorem Program.erase_run_sample :
    (∀ s ∈ sample.module.spans, s.isDummy = false) ∧
      (sample.run [.insert ["React"], .inject ⟨["A"], [("a", "a")], some "b"⟩,
        .widen [.production], .handOver .default]).module.erase = sample.module ∧
      (sample.run [.insert ["React"], .inject ⟨["A"], [("a", "a")], some "b"⟩,
        .widen [.production], .handOver .default]).comments = sample.comments ∧
      (sample.run [.insert ["React"], .inject ⟨["A"], [("a", "a")], some "b"⟩,
        .widen [.production], .handOver .default]).path = sample.path :=
  ⟨by decide, sample.erase_run (by decide) _⟩

end HostProps
