import HostProps.Injection
import HostProps.Proofs.Tree

/-!
# Generated Properties

What injection puts into objects, and widening into patterns, are small trees of a few constructs.
Everything that the theory asks about them follows from the heads that occur in them: they have no
span but the dummy, and they are neither calls nor declarators. `Node.IsGenerated` says that this
holds for every head in a tree, so each question is answered once, by induction on it.

## Main results

* `Node.isGenerated_generatedPatternPair`: what widening puts into patterns.
* `Node.isGenerated_of_mem_generated`: what injection puts into objects.
* `Node.IsGenerated.isDummy`: the spans of generated trees.
-/

namespace HostProps

namespace Head

/-- Is this the head of a call? -/
def isCall : Head → Bool
  | .plain .call _ => true
  | _ => false

/-- Is this the head of a declarator? -/
def isDeclarator : Head → Bool
  | .plain .declarator _ => true
  | _ => false

/-- The heads in generated properties. -/
structure IsGenerated (h : Head) : Prop where
  /-- It comes from nowhere. -/
  isDummy : h.spans.all Span.isDummy = true
  /-- It is no call, so no element. -/
  isCall : h.isCall = false
  /-- It is no declarator. -/
  isDeclarator : h.isDeclarator = false

end Head

namespace Node

/-- A tree in which all heads are those of generated properties. -/
inductive IsGenerated : Node → Prop
  | mk {h : Head} {ps : List Node} :
      h.IsGenerated → (∀ n ∈ ps, IsGenerated n) → IsGenerated (.mk h ps)

/-! ### The constructs -/

/-- Generated keys are generated trees. -/
theorem isGenerated_generatedKey (name : String) : (generatedKey name).IsGenerated := by
  rw [generatedKey]
  split
  · exact .mk ⟨rfl, rfl, rfl⟩ (List.forall_mem_nil _)
  · exact .mk ⟨rfl, rfl, rfl⟩ (List.forall_mem_nil _)

/-- Generated pairs are generated trees. -/
theorem isGenerated_generatedPair (key value : String) :
    (generatedPair key value).IsGenerated := by
  have hreference : ∀ name, (generatedReference name).IsGenerated :=
    fun name => .mk ⟨rfl, rfl, rfl⟩ (List.forall_mem_nil _)
  rw [generatedPair]
  split
  · exact hreference key
  · refine .mk ⟨rfl, rfl, rfl⟩ ?_
    rw [List.forall_mem_cons, List.forall_mem_singleton]
    exact ⟨isGenerated_generatedKey key, hreference value⟩

/-- Generated pairs of patterns are generated trees. -/
theorem isGenerated_generatedPatternPair (key name : String) :
    (generatedPatternPair key name).IsGenerated := by
  refine .mk ⟨rfl, rfl, rfl⟩ ?_
  rw [List.forall_mem_cons, List.forall_mem_singleton]
  exact ⟨isGenerated_generatedKey key, .mk ⟨rfl, rfl, rfl⟩ (List.forall_mem_nil _)⟩

/-- The properties that a matched call gets are generated trees. -/
theorem isGenerated_of_mem_generated (i : Injection) {n : Node} (hn : n ∈ i.generated) :
    n.IsGenerated := by
  have hpairs : ∀ g ∈ i.properties.map fun p => generatedPair p.1 p.2,
      g.IsGenerated := by
    intro g hg
    obtain ⟨⟨key, value⟩, -, rfl⟩ := List.mem_map.1 hg
    exact isGenerated_generatedPair key value
  rw [Injection.generated] at hn
  cases hkey : i.wrapperKey with
  | none =>
      simp only [hkey] at hn
      exact hpairs n hn
  | some key =>
      simp only [hkey, List.mem_singleton] at hn
      have hobject : (generatedObject
          (i.properties.map fun p => generatedPair p.1 p.2)).IsGenerated := by
        refine .mk ⟨rfl, rfl, rfl⟩ ?_
        rw [List.forall_mem_singleton]
        exact .mk ⟨rfl, rfl, rfl⟩ hpairs
      rw [hn]
      refine .mk ⟨rfl, rfl, rfl⟩ ?_
      rw [List.forall_mem_cons, List.forall_mem_singleton]
      exact ⟨isGenerated_generatedKey key, hobject⟩

/-! ### Spans -/

/-- Generated trees come from nowhere. -/
theorem IsGenerated.isDummy {n : Node} (h : n.IsGenerated) : ∀ s ∈ n.spans, s.isDummy = true := by
  induction h with
  | mk hh _ ih =>
      intro s hs
      obtain hs | ⟨n, hn, hs⟩ := mem_spans_mk.1 hs
      · exact List.all_eq_true.1 hh.isDummy s hs
      · exact ih n hn s hs

end Node

end HostProps
