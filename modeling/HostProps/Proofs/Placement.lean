import HostProps.Comment.Placement
import HostProps.Proofs.Operation
import HostProps.Proofs.RuntimeExports

/-!
# Comments stay where they are

Comments are placed by the spans of the nodes that were written, in the order in which they are
visited, and by nothing else (`Landmarks.ofSpans_congr`). Operations generate nodes whose spans are
all dummies, and leave the spans of all other nodes and their order alone, so they do not disturb
comments.

The written spans of a tree are computed from the inside out, so what has to be known of injection
and of widening is only that generated properties have none.

## Main results

* `Module.writtenSpans_evolution`: operations do not change the written spans of a module.
* `Program.anchors_run`: runs leave every comment at its place.
* `Program.landmarks_handOver`: so does the pass.
-/

namespace HostProps

namespace Node

/-- The spans of the nodes of a tree that were written, in the order in which they are visited. -/
def writtenSpans (n : Node) : List Span := n.spans.filter (!·.isDummy)

/-- Filtering the spans of a node filters its own and those of its parts. -/
theorem filter_placeSpans (p : Span → Bool) (lead : Nat) (own : List Span)
    (parts : List (List Span)) :
    (placeSpans lead own parts).filter p =
      placeSpans lead (own.filter p) (parts.map (List.filter p)) := by
  simp only [placeSpans, List.filter_append, List.filter_flatten, List.map_take, List.map_drop]

/-- The written spans of a node: its own between those of its parts. -/
theorem writtenSpans_mk (h : Head) (ps : List Node) :
    (mk h ps).writtenSpans =
      placeSpans h.lead (h.spans.filter (!·.isDummy)) (ps.map writtenSpans) := by
  rw [writtenSpans, spans_mk, filter_placeSpans, List.map_map]
  rfl

/-- The written spans are computed from the inside out. -/
theorem compositional_writtenSpans : Compositional writtenSpans := by
  intro h ps qs heq
  rw [writtenSpans_mk, writtenSpans_mk, heq]

/-- The written spans of a node that is visited before its parts. -/
theorem writtenSpans_of_lead {h : Head} (hlead : h.lead = 0) (ps : List Node) :
    (mk h ps).writtenSpans = h.spans.filter (!·.isDummy) ++ (ps.map writtenSpans).flatten := by
  rw [writtenSpans_mk, hlead]
  rfl

/-- The written spans of a list are those of its items. -/
theorem writtenSpans_list (ps : List Node) :
    (list ps).writtenSpans = (ps.map writtenSpans).flatten :=
  writtenSpans_of_lead rfl ps

/-! ### Generated nodes -/

/-- Generated properties have no written span. -/
theorem IsGenerated.writtenSpans {n : Node} (h : n.IsGenerated) : n.writtenSpans = [] := by
  rw [Node.writtenSpans, List.filter_eq_nil_iff]
  intro s hs
  rw [h.isDummy s hs]
  exact Bool.false_ne_true

/-- Declarations of arguments have no written span. -/
theorem writtenSpans_argumentDeclaration (name : String) :
    (argumentDeclaration name).writtenSpans = [] := by
  rw [argumentDeclaration, generatedProperty]
  split <;> rfl

/-- Trees without written spans have none together. -/
theorem flatten_map_writtenSpans {ns : List Node} (h : ∀ n ∈ ns, n.writtenSpans = []) :
    (ns.map writtenSpans).flatten = [] := by
  rw [List.flatten_eq_nil_iff]
  intro l hl
  obtain ⟨n, hn, rfl⟩ := List.mem_map.1 hl
  exact h n hn

/-- Properties without written spans make no difference to an object. -/
theorem writtenSpans_object_generated (i : Injection) (o : Origin) (own : List Node) :
    (plain .object o [list (i.generated ++ own)]).writtenSpans =
      (plain .object o [list own]).writtenSpans := by
  refine compositional_writtenSpans _ _ _ (congrArg (fun a => [a]) ?_)
  rw [writtenSpans_list, writtenSpans_list, List.map_append, List.flatten_append,
    flatten_map_writtenSpans fun n hn => (isGenerated_of_mem_generated i hn).writtenSpans,
    List.nil_append]

/-- Pairs without written spans make no difference to the pattern of an object. -/
theorem writtenSpans_objectPattern_exportPairs (o : Origin) (before : List Node)
    (keys : List String) (after : List Node) :
    (plain .objectPattern o [list (before ++ exportPairs keys ++ after)]).writtenSpans =
      (plain .objectPattern o [list (before ++ after)]).writtenSpans := by
  have hpairs : ∀ n ∈ exportPairs keys, n.writtenSpans = [] :=
    fun n hn => (isGenerated_of_mem_exportPairs hn).writtenSpans
  refine compositional_writtenSpans _ _ _ (congrArg (fun a => [a]) ?_)
  simp only [writtenSpans_list, List.map_append, List.flatten_append,
    flatten_map_writtenSpans hpairs, List.append_nil]

end Node

/-! ### Modules -/

namespace Module

/-- The spans of the nodes of a module that were written, in the order in which they are visited. -/
def writtenSpans (m : Module) : List Span := m.spans.filter (!·.isDummy)

/-- The written spans of a module: its own, and those of the statements of its body. -/
theorem writtenSpans_eq (m : Module) :
    m.writtenSpans = [m.span].filter (!·.isDummy) ++ (m.body.map Node.writtenSpans).flatten := by
  rw [writtenSpans, spans, ← List.singleton_append, List.filter_append, List.filter_flatten,
    Node.spansOfParts_eq_map, List.map_map]
  rfl

/-- Declarations of arguments have no place. -/
theorem writtenSpans_insertArguments (names : List String) (m : Module) :
    (m.insertArguments names).2.1.writtenSpans = m.writtenSpans := by
  obtain ⟨before, names', after, hcut, h⟩ := exists_insertArguments_body names m
  have hnone : ∀ n ∈ names'.map Node.argumentDeclaration, n.writtenSpans = [] := by
    intro n hn
    obtain ⟨name, -, rfl⟩ := List.mem_map.1 hn
    exact Node.writtenSpans_argumentDeclaration name
  rw [h, writtenSpans_eq, writtenSpans_eq, hcut.append]
  simp only [List.map_append, List.flatten_append, Node.flatten_map_writtenSpans hnone,
    List.append_nil]

/-- Injected properties have no place. -/
theorem writtenSpans_injectProperties (i : Injection) (m : Module) :
    (m.injectProperties i).2.1.writtenSpans = m.writtenSpans := by
  rw [injectProperties_eq]
  split
  · rfl
  · rw [writtenSpans_eq, writtenSpans_eq, List.map_map]
    have hmap : ∀ n, (Node.injected i.components i.generated n).writtenSpans = n.writtenSpans :=
      Node.compositional_writtenSpans.injected (Node.writtenSpans_object_generated i)
    rw [show Node.writtenSpans ∘ Node.injected i.components i.generated = Node.writtenSpans from
      funext hmap]

/-- Added exports have no place. -/
theorem writtenSpans_addRuntimeExports (runtimes : List Runtime) (m : Module) :
    (m.addRuntimeExports runtimes).2.1.writtenSpans = m.writtenSpans := by
  have hmap : (m.addRuntimeExports runtimes).2.1.body.map Node.writtenSpans =
      m.body.map Node.writtenSpans :=
    map_body_addRuntimeExports (fun n keys n' h =>
      Node.compositional_writtenSpans.widenStatement?
        Node.writtenSpans_objectPattern_exportPairs h) m
  obtain ⟨body, h, -⟩ := exists_addRuntimeExports_body runtimes m
  rw [h] at hmap ⊢
  rw [writtenSpans_eq, writtenSpans_eq, hmap]

/-- **Operations have no place**: none of them changes the written spans of a module. -/
theorem writtenSpans_evolution : Evolution fun m m' => m'.writtenSpans = m.writtenSpans :=
  Evolution.of_invariant writtenSpans writtenSpans_insertArguments writtenSpans_injectProperties
    writtenSpans_addRuntimeExports

end Module

/-! ### Placement -/

/-- Comments are placed by the spans of what was written. -/
theorem Landmarks.ofSpans_congr {spans spans' : List Span}
    (h : spans'.filter (!·.isDummy) = spans.filter (!·.isDummy)) :
    ofSpans spans' = ofSpans spans := by
  rw [ofSpans, ofSpans, h]

namespace Program

/-- Documents with the same written spans and the same comments have the comments at the same
places. -/
theorem anchors_congr {p p' : Program}
    (hspans : p'.module.writtenSpans = p.module.writtenSpans)
    (hcomments : p'.comments = p.comments) : p'.anchors = p.anchors := by
  rw [anchors, anchors, Landmarks.ofSpans_congr hspans, hcomments]

/-- Runs leave every comment at its place. -/
theorem anchors_run (p : Program) (ops : List Operation) : (p.run ops).anchors = p.anchors :=
  anchors_congr (Module.writtenSpans_evolution.run ops p) (p.comments_run ops)

/-- **The pass does not disturb comments.** The spans that comments are placed by are the same after
the pass, in the same order. So every comment is printed at the same position as before, on the
same side of it, and in the same order among the others. -/
theorem landmarks_handOver (o : Options) (p : Program) :
    (Landmarks.ofSpans (p.handOver o).1.module.spans).spans =
        (Landmarks.ofSpans p.module.spans).spans ∧
      (p.handOver o).1.anchors = p.anchors := by
  have hspans : (p.handOver o).1.module.writtenSpans = p.module.writtenSpans :=
    Module.writtenSpans_evolution.handOver o.resolve.1 p.module
  exact ⟨hspans, anchors_congr hspans rfl⟩

end Program

end HostProps
