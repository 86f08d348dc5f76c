import HostProps.Proofs.ExactPlacement
import Mathlib.Tactic.MkIffOfInductiveProp

/-!
# Comments in Source Order

Comments that follow each other in a text should be printed one after the other, so the position of
the second one should not be in front of that of the first.

That holds for comments that go in front of the next node or after the last one. A comment without a
node behind it in the node around it goes in front of that node, which is meant for nodes that are
otherwise empty, but also happens to one that stands behind all else in a node. Such a comment
passes by everything in the node, and so by each comment there that does not go in front of the same
node.

## Main results

* `Placed.position_le_iff`: when two comments stay in order.
* `Placed.position_le_of_isEmptyNode`: they do so in nodes that are otherwise empty.
* `Program.position_le_iff_comesLast`: both, for documents.
-/

namespace HostProps

/-- Spans are properly nested: none ends before it starts, and of any two, one is behind the other
or contains it. -/
@[mk_iff]
structure ProperlyNested (spans : List Span) : Prop where
  le : ∀ s ∈ spans, s.lo ≤ s.hi
  nested : ∀ s ∈ spans, ∀ t ∈ spans,
    s.hi ≤ t.lo ∨ t.hi ≤ s.lo ∨ (s.lo ≤ t.lo ∧ t.hi ≤ s.hi) ∨ (t.lo ≤ s.lo ∧ s.hi ≤ t.hi)

/-- A comment stands between spans: each one ends before it, starts behind it, or is around it. -/
@[mk_iff]
structure StandsBetween (spans : List Span) (c : Span) : Prop where
  le : c.lo ≤ c.hi
  between : ∀ s ∈ spans, s.hi ≤ c.lo ∨ c.hi ≤ s.lo ∨ Landmarks.encloses c s = true

instance (spans : List Span) : Decidable (ProperlyNested spans) :=
  decidable_of_iff _ (properlyNested_iff spans).symm

instance (spans : List Span) (c : Span) : Decidable (StandsBetween spans c) :=
  decidable_of_iff _ (standsBetween_iff spans c).symm

/-- A comment comes last in a node: the node is the narrowest one around it, and no node starts
between the comment and its end. -/
def ComesLast (spans : List Span) (c node : Span) : Prop :=
  NarrowestAround spans c node ∧ ∀ s ∈ spans, c.hi ≤ s.lo → node.hi ≤ s.lo

/-- A node is empty if no node starts in it, behind its start. -/
def IsEmptyNode (spans : List Span) (node : Span) : Prop :=
  ∀ s ∈ spans, node.lo < s.lo → node.hi ≤ s.lo

variable {spans : List Span} {c c₁ c₂ : Span} {place place₁ place₂ : Anchor}

theorem encloses_iff {node : Span} :
    Landmarks.encloses c node = true ↔ node.lo < c.lo ∧ c.hi ≤ node.hi := by
  rw [Landmarks.encloses, Bool.and_eq_true, decide_eq_true_iff, decide_eq_true_iff]

/-- If a node is around a comment, one of those is the narrowest. -/
theorem exists_narrowestAround {s : Span} (hs : s ∈ spans)
    (h : Landmarks.encloses c s = true) : ∃ node, NarrowestAround spans c node := by
  have hne : (spans.filter (Landmarks.encloses c)).foldl Landmarks.narrower none ≠ none := by
    rw [ne_eq, Landmarks.foldl_narrower_eq_none_iff]
    exact List.ne_nil_of_mem (List.mem_filter.2 ⟨hs, h⟩)
  obtain ⟨node, hnode⟩ := Option.ne_none_iff_exists'.1 hne
  exact ⟨node, (Landmarks.foldl_narrower_eq_some_iff spans).1 hnode⟩

/-- The next start is behind some position if all starts from there on are. -/
theorem forall_isLeast_startsFrom_iff {position bound : Nat} :
    (∀ next, IsLeast (startsFrom spans position) next → bound ≤ next) ↔
      ∀ s ∈ spans, position ≤ s.lo → bound ≤ s.lo := by
  classical
  constructor
  · intro h s hs hle
    have hmem : s.lo ∈ startsFrom spans position := ⟨hle, s, hs, rfl⟩
    have hleast := Set.Nonempty.isLeast_natFind ⟨s.lo, hmem⟩
    exact Nat.le_trans (h _ hleast) (hleast.2 hmem)
  · rintro h next ⟨⟨hle, s, hs, rfl⟩, -⟩
    exact h s hs hle

/-- A comment that goes in front of the node around it comes last in it. -/
theorem comesLast_of_around {node : Span} (haround : NarrowestAround spans c node)
    (hnext : ∀ next, IsLeast (startsFrom spans c.hi) next → node.hi ≤ next) :
    ComesLast spans c node :=
  ⟨haround, forall_isLeast_startsFrom_iff.1 hnext⟩

/-! ### In front of the next node, and after the last one -/

/-- A comment is not placed behind a start that it stands in front of. -/
theorem Placed.position_le_of_mem_startsFrom {next : Nat} (h : Placed spans c place)
    (hle : c.lo ≤ c.hi) (hmem : next ∈ startsFrom spans c.hi) : place.position ≤ next := by
  cases h with
  | @around node haround _ =>
      have hlo : node.lo < c.lo := (encloses_iff.1 haround.encloses).1
      have hnext : c.hi ≤ next := hmem.1
      rw [Anchor.position]
      omega
  | next hnext _ => exact hnext.2 hmem
  | last hnone _ _ => exact (Set.eq_empty_iff_forall_notMem.1 hnone next hmem).elim
  | alone hnone _ _ => exact (Set.eq_empty_iff_forall_notMem.1 hnone next hmem).elim

/-- Without anything around a comment or behind it, everything ends before it. -/
theorem StandsBetween.hi_le (h : StandsBetween spans c) (hnext : startsFrom spans c.hi = ∅)
    (haround : ∀ node, ¬ NarrowestAround spans c node) {s : Span} (hs : s ∈ spans) :
    s.hi ≤ c.lo := by
  rcases h.between s hs with hhi | hlo | hencloses
  · exact hhi
  · exact (Set.eq_empty_iff_forall_notMem.1 hnext s.lo ⟨hlo, s, hs, rfl⟩).elim
  · obtain ⟨node, hnode⟩ := exists_narrowestAround hs hencloses
    exact (haround node hnode).elim

/-- A comment is not placed behind the last end of all, if it is not behind all of them itself. -/
theorem Placed.position_le_last {last : Nat} (hspans : ProperlyNested spans)
    (h₁ : Placed spans c₁ place₁) (hlast : ∀ s ∈ spans, s.hi ≤ last)
    (hmem : ∃ s ∈ spans, s.hi = last) : place₁.position ≤ last := by
  cases h₁ with
  | @around node haround _ =>
      exact Nat.le_trans (hspans.le node haround.mem) (hlast node haround.mem)
  | next hnext _ =>
      obtain ⟨⟨-, s, hs, rfl⟩, -⟩ := hnext
      exact Nat.le_trans (hspans.le s hs) (hlast s hs)
  | last _ _ hlast₁ =>
      obtain ⟨⟨-, s, hs, rfl⟩, -⟩ := hlast₁
      exact hlast s hs
  | alone _ _ hnone =>
      obtain ⟨s, hs, rfl⟩ := hmem
      have hlt : ¬ s.hi ≤ c₁.lo := fun hle =>
        Set.eq_empty_iff_forall_notMem.1 hnone s.hi ⟨hle, s, hs, rfl⟩
      exact Nat.le_of_not_le hlt

/-- Without any nodes comments stay where they are. -/
theorem Placed.position_eq_of_nil (h : Placed [] c place) : place.position = c.lo := by
  cases h with
  | around haround _ => exact (List.not_mem_nil haround.mem).elim
  | next hnext _ =>
      obtain ⟨⟨-, s, hs, -⟩, -⟩ := hnext
      exact (List.not_mem_nil hs).elim
  | last _ _ hlast =>
      obtain ⟨⟨-, s, hs, -⟩, -⟩ := hlast
      exact (List.not_mem_nil hs).elim
  | alone => rfl

/-! ### In front of the node around it -/

/-- The narrowest node around a comment is within all others that are around it. -/
theorem NarrowestAround.within {node outer : Span} (hspans : ProperlyNested spans)
    (h : NarrowestAround spans c node) (hle : c.lo ≤ c.hi) (houter : outer ∈ spans)
    (hencloses : Landmarks.encloses c outer = true) : outer.lo ≤ node.lo ∧ node.hi ≤ outer.hi := by
  have hwidth : node.width ≤ outer.width := h.width_le houter hencloses
  have hnode := encloses_iff.1 h.encloses
  have hcontains := encloses_iff.1 hencloses
  rw [Span.width, Span.width] at hwidth
  rcases hspans.nested node h.mem outer houter with hlt | hlt | hin | hin <;> omega

/-- A comment in a node goes in front of it or is placed behind its start. -/
theorem Placed.position_le_start_iff {node : Span} (hspans : ProperlyNested spans)
    (h₁ : Placed spans c₁ place₁) (hle : c₁.lo ≤ c₁.hi) (hnode : node ∈ spans)
    (hencloses : Landmarks.encloses c₁ node = true) :
    place₁.position ≤ node.lo ↔ place₁ = .leading node.lo := by
  have hcontains := encloses_iff.1 hencloses
  cases h₁ with
  | @around inner haround _ =>
      have hwithin := haround.within hspans hle hnode hencloses
      rw [Anchor.leading.injEq]
      exact ⟨fun h => Nat.le_antisymm h hwithin.1, Nat.le_of_eq⟩
  | @next next hnext _ =>
      have hlt : node.lo < next := by
        have := hnext.1.1
        omega
      rw [Anchor.leading.injEq]
      exact ⟨fun h => absurd h (Nat.not_le.2 hlt), fun h => absurd h (Nat.ne_of_gt hlt)⟩
  | last _ hnone _ =>
      obtain ⟨inner, hinner⟩ := exists_narrowestAround hnode hencloses
      exact (hnone inner hinner).elim
  | alone _ hnone _ =>
      obtain ⟨inner, hinner⟩ := exists_narrowestAround hnode hencloses
      exact (hnone inner hinner).elim

/-- A comment in a node that is empty goes in front of it. -/
theorem Placed.eq_of_isEmptyNode {node : Span} (hspans : ProperlyNested spans)
    (h₁ : Placed spans c₁ place₁) (hle : c₁.lo ≤ c₁.hi) (hnode : node ∈ spans)
    (hencloses : Landmarks.encloses c₁ node = true) (hempty : IsEmptyNode spans node) :
    place₁ = .leading node.lo := by
  rw [← h₁.position_le_start_iff hspans hle hnode hencloses]
  have hcontains := encloses_iff.1 hencloses
  obtain ⟨inner, hinner⟩ := exists_narrowestAround hnode hencloses
  have hwithin := hinner.within hspans hle hnode hencloses
  have hcontains' := encloses_iff.1 hinner.encloses
  cases h₁ with
  | @around inner' haround _ =>
      obtain rfl := haround.unique hinner
      refine Nat.le_of_not_lt fun hlt => ?_
      have := hempty inner' haround.mem hlt
      omega
  | @next next hnext haround =>
      have hlt := haround inner hinner
      obtain ⟨⟨hfrom, s, hs, rfl⟩, -⟩ := hnext
      have := hempty s hs (by omega)
      omega
  | last _ hnone _ => exact (hnone inner hinner).elim
  | alone _ hnone _ => exact (hnone inner hinner).elim

/-! ### Two comments -/

/-- **When two comments stay in order**: unless the second one comes last in a node that the first
one is in, too, and that the first one does not go in front of. -/
theorem Placed.position_le_iff (hspans : ProperlyNested spans)
    (hc₁ : StandsBetween spans c₁) (hc₂ : StandsBetween spans c₂) (hc : c₁.hi ≤ c₂.lo)
    (h₁ : Placed spans c₁ place₁) (h₂ : Placed spans c₂ place₂) :
    place₁.position ≤ place₂.position ↔
      ∀ node, ComesLast spans c₂ node → node.lo < c₁.lo → place₁ = .leading node.lo := by
  have hle₁ : c₁.lo ≤ c₁.hi := hc₁.le
  have hle₂ : c₂.lo ≤ c₂.hi := hc₂.le
  cases h₂ with
  | @around node haround hnext =>
      have hnode := encloses_iff.1 haround.encloses
      have honly : (∀ node, ComesLast spans c₂ node → node.lo < c₁.lo →
          place₁ = .leading node.lo) ↔ (node.lo < c₁.lo → place₁ = .leading node.lo) := by
        constructor
        · exact fun h => h node (comesLast_of_around haround hnext)
        · rintro h node' ⟨haround', -⟩
          obtain rfl := haround.unique haround'
          exact h
      rw [honly, Anchor.position]
      by_cases hlt : node.lo < c₁.lo
      · have hencloses : Landmarks.encloses c₁ node = true := encloses_iff.2 ⟨hlt, by omega⟩
        rw [h₁.position_le_start_iff hspans hle₁ haround.mem hencloses, forall_prop_of_true hlt]
      · have hlo : c₁.hi ≤ node.lo := by
          rcases hc₁.between node haround.mem with hhi | hlo | hencloses
          · omega
          · exact hlo
          · exact (hlt (encloses_iff.1 hencloses).1).elim
        have hmem : node.lo ∈ startsFrom spans c₁.hi := ⟨hlo, node, haround.mem, rfl⟩
        exact iff_of_true (h₁.position_le_of_mem_startsFrom hle₁ hmem) fun h => (hlt h).elim
  | @next next hnext haround =>
      have hmem : next ∈ startsFrom spans c₁.hi :=
        ⟨Nat.le_trans (Nat.le_trans hc hle₂) hnext.1.1, hnext.1.2⟩
      refine iff_of_true (h₁.position_le_of_mem_startsFrom hle₁ hmem) ?_
      rintro node ⟨hnode, hstarts⟩
      obtain ⟨⟨hfrom, s, hs, rfl⟩, -⟩ := hnext
      exact (Nat.not_le.2 (haround node hnode) (hstarts s hs hfrom)).elim
  | @last last hnext haround hlast =>
      have hends : ∀ s ∈ spans, s.hi ≤ last := fun s hs =>
        hlast.2 ⟨hc₂.hi_le hnext haround hs, s, hs, rfl⟩
      refine iff_of_true (h₁.position_le_last hspans hends hlast.1.2) fun node h => ?_
      exact (haround node h.1).elim
  | alone hnext haround hlast =>
      have hnil : spans = [] := List.eq_nil_iff_forall_not_mem.2 fun s hs =>
        Set.eq_empty_iff_forall_notMem.1 hlast s.hi ⟨hc₂.hi_le hnext haround hs, s, hs, rfl⟩
      refine iff_of_true ?_ fun node h => (haround node h.1).elim
      subst hnil
      rw [h₁.position_eq_of_nil]
      exact Nat.le_trans hle₁ hc

/-- **Comments stay in order** if the second one goes in front of the node around it only where that
is otherwise empty. -/
theorem Placed.position_le_of_isEmptyNode (hspans : ProperlyNested spans)
    (hc₁ : StandsBetween spans c₁) (hc₂ : StandsBetween spans c₂) (hc : c₁.hi ≤ c₂.lo)
    (h₁ : Placed spans c₁ place₁) (h₂ : Placed spans c₂ place₂)
    (hempty : ∀ node, ComesLast spans c₂ node → IsEmptyNode spans node) :
    place₁.position ≤ place₂.position := by
  rw [h₁.position_le_iff hspans hc₁ hc₂ hc h₂]
  intro node hlast hlt
  have hle : c₁.hi ≤ node.hi :=
    Nat.le_trans hc (Nat.le_trans hc₂.le (encloses_iff.1 hlast.1.encloses).2)
  exact h₁.eq_of_isEmptyNode hspans hc₁.le hlast.1.mem (encloses_iff.2 ⟨hlt, hle⟩)
    (hempty node hlast)

/-! ### Documents -/

namespace Program

/-- The comments of a document stand between its nodes, and those are properly nested. -/
@[mk_iff]
structure IsLaidOut (p : Program) : Prop where
  properlyNested : ProperlyNested p.module.writtenSpans
  standsBetween : ∀ c ∈ p.comments, StandsBetween p.module.writtenSpans c.span

instance (p : Program) : Decidable p.IsLaidOut :=
  decidable_of_iff _ p.isLaidOut_iff.symm

/-- **When comments stay in order.** In a document whose nodes are properly nested, with comments
between them:

* of two comments that follow each other, the first one is placed up to the second one, unless that
  comes last in a node that the first one is in, too, and that the first one does not go in front
  of;
* so if comments come last only in nodes that are otherwise empty, then the places of comments that
  follow each other are in order, too. -/
theorem position_le_iff_comesLast (p : Program) (hp : p.IsLaidOut) :
    let spans := p.module.writtenSpans
    (∀ place₁ c₁ place₂ c₂, (place₁, c₁) ∈ p.anchors → (place₂, c₂) ∈ p.anchors →
      c₁.span.hi ≤ c₂.span.lo →
      (place₁.position ≤ place₂.position ↔
        ∀ node, ComesLast spans c₂.span node → node.lo < c₁.span.lo →
          place₁ = .leading node.lo)) ∧
    ((∀ c ∈ p.comments, ∀ node, ComesLast spans c.span node → IsEmptyNode spans node) →
      p.comments.Pairwise (fun c₁ c₂ => c₁.span.hi ≤ c₂.span.lo) →
      (p.anchors.map (·.1.position)).Pairwise (· ≤ ·)) := by
  intro spans
  obtain ⟨hspans, hcomments⟩ := hp
  refine ⟨?_, fun hempty hordered => ?_⟩
  · intro place₁ c₁ place₂ c₂ hmem₁ hmem₂ hc
    obtain ⟨hc₁, hplaced₁⟩ := p.mem_anchors_iff.1 hmem₁
    obtain ⟨hc₂, hplaced₂⟩ := p.mem_anchors_iff.1 hmem₂
    exact hplaced₁.position_le_iff hspans (hcomments c₁ hc₁) (hcomments c₂ hc₂) hc hplaced₂
  · have hplaced : ∀ c, Placed spans c ((Landmarks.ofSpans p.module.spans).anchor c) :=
      fun c => Landmarks.anchor_eq_iff.1 rfl
    rw [anchors, List.map_map, List.pairwise_map]
    refine hordered.imp_of_mem fun {c₁ c₂} hc₁ hc₂ hc => ?_
    exact (hplaced c₁.span).position_le_of_isEmptyNode hspans (hcomments c₁ hc₁)
      (hcomments c₂ hc₂) hc (hplaced c₂.span) (hempty c₂ hc₂)

/-- The document `b; {/* a */ /* c */}`: both comments are in an empty block. -/
def commentsInEmptyBlock : Program where
  path := none
  module := ⟨⟨1, 21⟩,
    [.plain .expressionStatement (.written ⟨1, 3⟩) [.mk (.reference (.written ⟨1, 2⟩) "b") []],
      .plain .block (.written ⟨4, 21⟩) [.list []]], none⟩
  comments := [⟨.block, ⟨5, 12⟩, " a "⟩, ⟨.block, ⟨13, 20⟩, " c "⟩]

/-- Both comments come last in the block. -/
theorem comesLast_commentsInEmptyBlock : ∀ c ∈ commentsInEmptyBlock.comments,
    ComesLast commentsInEmptyBlock.module.writtenSpans c.span ⟨4, 21⟩ := by
  intro c hc
  have haround : ∀ c ∈ commentsInEmptyBlock.comments,
      Landmarks.encloses c.span ⟨4, 21⟩ = true ∧
        ∀ s ∈ [⟨1, 21⟩, ⟨1, 3⟩, ⟨1, 2⟩], Landmarks.encloses c.span s = true → 17 < s.width := by
    decide
  have hbehind : ∀ c ∈ commentsInEmptyBlock.comments,
      ∀ s ∈ commentsInEmptyBlock.module.writtenSpans, c.span.hi ≤ s.lo → 21 ≤ s.lo := by decide
  obtain ⟨hencloses, hwider⟩ := haround c hc
  exact ⟨⟨[⟨1, 21⟩, ⟨1, 3⟩, ⟨1, 2⟩], [], rfl, hencloses, hwider, nofun⟩, hbehind c hc⟩

/-- They both go in front of it, in order. -/
theorem position_le_iff_comesLast_commentsInEmptyBlock :
    commentsInEmptyBlock.IsLaidOut ∧
    (∀ c ∈ commentsInEmptyBlock.comments, ∀ node,
      ComesLast commentsInEmptyBlock.module.writtenSpans c.span node →
        IsEmptyNode commentsInEmptyBlock.module.writtenSpans node) ∧
    (commentsInEmptyBlock.anchors.map (·.1.position)).Pairwise (· ≤ ·) := by
  have hlaidOut : commentsInEmptyBlock.IsLaidOut := by decide
  have hordered : commentsInEmptyBlock.comments.Pairwise fun c₁ c₂ => c₁.span.hi ≤ c₂.span.lo := by
    decide
  have hempty : ∀ s ∈ commentsInEmptyBlock.module.writtenSpans, 4 < s.lo → 21 ≤ s.lo := by decide
  have hall : ∀ c ∈ commentsInEmptyBlock.comments, ∀ node,
      ComesLast commentsInEmptyBlock.module.writtenSpans c.span node →
        IsEmptyNode commentsInEmptyBlock.module.writtenSpans node := by
    intro c hc node hnode
    obtain rfl := (comesLast_commentsInEmptyBlock c hc).1.unique hnode.1
    exact hempty
  obtain ⟨-, hinOrder⟩ := commentsInEmptyBlock.position_le_iff_comesLast hlaidOut
  exact ⟨hlaidOut, hall, hinOrder hall hordered⟩

/-- **Comments are swapped** in the document `{/* a */ b; /* c */}`. The second comment comes last
in the block, which is not empty, and goes in front of it; the first one goes in front of the
statement in it. The nodes are properly nested, and the comments stand between them. -/
theorem not_inOrder_commentsInBlock :
    commentsInBlock.IsLaidOut ∧ ProperlyNested commentsInBlock.module.writtenSpans ∧
    ¬ ∀ place₁ c₁ place₂ c₂, (place₁, c₁) ∈ commentsInBlock.anchors →
      (place₂, c₂) ∈ commentsInBlock.anchors → c₁.span.hi ≤ c₂.span.lo →
        place₁.position ≤ place₂.position := by
  refine ⟨by decide, by decide, fun h => ?_⟩
  have hbefore : (.leading 10, ⟨.block, ⟨2, 9⟩, " a "⟩) ∈ commentsInBlock.anchors :=
    commentsInBlock.mem_anchors_iff.2 ⟨by decide, placed_before_commentsInBlock⟩
  have hafter : (.leading 1, ⟨.block, ⟨13, 20⟩, " c "⟩) ∈ commentsInBlock.anchors :=
    commentsInBlock.mem_anchors_iff.2 ⟨by decide, placed_after_commentsInBlock⟩
  have hle : Anchor.position (.leading 10) ≤ Anchor.position (.leading 1) :=
    h _ _ _ _ hbefore hafter (by decide)
  exact absurd hle (by decide)

end Program

end HostProps
