import HostProps.Printer.Page
import HostProps.Proofs.Placement
import Mathlib.Data.Nat.SuccPred
import Mathlib.Order.Nat
import Mathlib.Order.SuccPred.Archimedean

/-!
# Exact Placement

Comments are placed by searches: two in arrays that are sorted, each by halving it, and one for the
narrowest of the spans around a comment. None of that shows in where a comment goes. `Placed` says
it by the spans alone, whatever their order, apart from the one thing that the order decides: of
spans that are equally narrow the first counts.

A search by halving keeps a stretch of the array in front of which everything passes the test, and
behind which nothing does. When the stretch is empty, the array is cut in two there (`IsCut`), and
in a sorted array the items on both sides of the cut are the greatest one that passes and the least
one that does not.

## Main results

* `isCut_partitionPoint`: searches by halving find the cut.
* `Landmarks.next?_eq_some_iff`, `Landmarks.previous?_eq_some_iff`: they find extremes.
* `Landmarks.enclosing?_eq_some_iff`: the narrowest span around a comment.
* `Landmarks.anchor_eq_iff`: where a comment goes, as a relation.
* `Program.anchors_exact`: all of it, for documents.
-/

namespace HostProps

/-! ### Searching by halving -/

variable {p : Nat → Bool} {a : Array Nat} {cut : Nat}

/-- A test cuts an array at a place: what is in front of it passes, and nothing else does. -/
structure IsCut (p : Nat → Bool) (a : Array Nat) (cut : Nat) : Prop where
  le_size : cut ≤ a.size
  passes : ∀ i (h : i < a.size), i < cut → p a[i] = true
  fails : ∀ i (h : i < a.size), cut ≤ i → p a[i] = false

/-- A test that passes items in front of each item that it passes. -/
def IsPartitioned (p : Nat → Bool) (a : Array Nat) : Prop :=
  ∀ i j (_ : i ≤ j) (hj : j < a.size), p a[j] = true → p a[i] = true

/-- **Searches find the cut.** What is in front of the stretch that is searched passes the test, and
nothing behind it does; that stays so when the stretch is halved. -/
theorem isCut_bisect (hp : IsPartitioned p a) (low high : Nat) (hhigh : high ≤ a.size)
    (hle : low ≤ high) (hpasses : ∀ i (h : i < a.size), i < low → p a[i] = true)
    (hfails : ∀ i (h : i < a.size), high ≤ i → p a[i] = false) :
    IsCut p a (bisect p a low high hhigh) := by
  fun_induction bisect p a low high hhigh with
  | case1 low high hhigh hlow middle hmiddle hpass ih =>
      have hinFront : ∀ i (h : i < a.size), i < middle + 1 → p a[i] = true :=
        fun i _ hi => hp i middle (Nat.le_of_lt_succ hi) hmiddle hpass
      exact ih (by omega) hinFront hfails
  | case2 low high hhigh hlow middle hmiddle hfail ih =>
      have hbehind : ∀ i (h : i < a.size), middle ≤ i → p a[i] = false := by
        intro i h hi
        rw [Bool.eq_false_iff]
        exact fun hpass => hfail (hp middle i hi h hpass)
      exact ih (by omega) hpasses hbehind
  | case3 low high hhigh hlow =>
      obtain rfl : low = high := by omega
      exact ⟨hhigh, hpasses, hfails⟩

/-- The partition point of an array is where it is cut. -/
theorem isCut_partitionPoint (hp : IsPartitioned p a) : IsCut p a (partitionPoint p a) :=
  isCut_bisect hp 0 a.size _ (Nat.zero_le _) (fun _ _ hi => absurd hi (Nat.not_lt_zero _))
    fun _ h hi => absurd h (Nat.not_lt.2 hi)

/-- Items of an ascending array are in order. -/
theorem getElem_le_getElem (ha : a.toList.Pairwise (· ≤ ·)) {i j : Nat} (hi : i < a.size)
    (hj : j < a.size) (hij : i ≤ j) : a[i] ≤ a[j] := by
  rcases Nat.lt_or_eq_of_le hij with hlt | rfl
  · exact List.pairwise_iff_getElem.1 ha i j hi hj hlt
  · exact Nat.le_refl _

/-- In an ascending array, a test that passes what is less than something that it passes cuts. -/
theorem IsPartitioned.of_sorted (ha : a.toList.Pairwise (· ≤ ·))
    (hp : ∀ x y, x ≤ y → p y = true → p x = true) : IsPartitioned p a :=
  fun _ _ hij hj hpass => hp _ _ (getElem_le_getElem ha (Nat.lt_of_le_of_lt hij hj) hj hij) hpass

namespace IsCut

variable (h : IsCut p a cut)

include h

/-- What passes is in front of the cut. -/
theorem mem_and_passes_iff {x : Nat} :
    (x ∈ a ∧ p x = true) ↔ ∃ i, ∃ (hi : i < a.size), i < cut ∧ a[i] = x := by
  constructor
  · rintro ⟨hx, hpass⟩
    obtain ⟨i, hi, rfl⟩ := Array.mem_iff_getElem.1 hx
    refine ⟨i, hi, Nat.lt_of_not_le fun hcut => ?_, rfl⟩
    exact Bool.false_ne_true ((h.fails i hi hcut).symm.trans hpass)
  · rintro ⟨i, hi, hcut, rfl⟩
    exact ⟨Array.getElem_mem hi, h.passes i hi hcut⟩

/-- What fails is behind it. -/
theorem mem_and_fails_iff {x : Nat} :
    (x ∈ a ∧ p x = false) ↔ ∃ i, ∃ (hi : i < a.size), cut ≤ i ∧ a[i] = x := by
  constructor
  · rintro ⟨hx, hfail⟩
    obtain ⟨i, hi, rfl⟩ := Array.mem_iff_getElem.1 hx
    refine ⟨i, hi, Nat.le_of_not_lt fun hcut => ?_, rfl⟩
    exact Bool.false_ne_true (hfail.symm.trans (h.passes i hi hcut))
  · rintro ⟨i, hi, hcut, rfl⟩
    exact ⟨Array.getElem_mem hi, h.fails i hi hcut⟩

/-- **The item behind the cut** is the least one that fails. -/
theorem getElem?_eq_some_iff (ha : a.toList.Pairwise (· ≤ ·)) {x : Nat} :
    a[cut]? = some x ↔ IsLeast {y | y ∈ a ∧ p y = false} x := by
  have hleast (hcut : cut < a.size) : IsLeast {y | y ∈ a ∧ p y = false} a[cut] := by
    refine ⟨h.mem_and_fails_iff.2 ⟨cut, hcut, Nat.le_refl cut, rfl⟩, fun y hy => ?_⟩
    obtain ⟨i, hi, hle, rfl⟩ := h.mem_and_fails_iff.1 hy
    exact getElem_le_getElem ha hcut hi hle
  constructor
  · intro hx
    obtain ⟨hcut, rfl⟩ := Array.getElem?_eq_some_iff.1 hx
    exact hleast hcut
  · intro hx
    obtain ⟨i, hi, hle, -⟩ := h.mem_and_fails_iff.1 hx.1
    have hcut : cut < a.size := Nat.lt_of_le_of_lt hle hi
    exact Array.getElem?_eq_some_iff.2 ⟨hcut, (hleast hcut).unique hx⟩

/-- **The item in front of the cut** is the greatest one that passes. -/
theorem getElem?_pred_eq_some_iff (ha : a.toList.Pairwise (· ≤ ·)) {x : Nat} :
    (match cut with | 0 => none | i + 1 => a[i]?) = some x ↔
      IsGreatest {y | y ∈ a ∧ p y = true} x := by
  cases cut with
  | zero =>
      refine iff_of_false (fun hx => nomatch hx) fun hx => ?_
      obtain ⟨i, hi, hlt, -⟩ := h.mem_and_passes_iff.1 hx.1
      exact Nat.not_lt_zero i hlt
  | succ last =>
      have hlast : last < a.size := h.le_size
      have hgreatest : IsGreatest {y | y ∈ a ∧ p y = true} a[last] := by
        refine ⟨h.mem_and_passes_iff.2 ⟨last, hlast, Nat.lt_succ_self last, rfl⟩, fun y hy => ?_⟩
        obtain ⟨i, hi, hlt, rfl⟩ := h.mem_and_passes_iff.1 hy
        exact getElem_le_getElem ha hi hlast (Nat.le_of_lt_succ hlt)
      constructor
      · intro hx
        obtain ⟨-, rfl⟩ := Array.getElem?_eq_some_iff.1 hx
        exact hgreatest
      · intro hx
        exact Array.getElem?_eq_some_iff.2 ⟨hlast, hgreatest.unique hx⟩

end IsCut

/-! ### Starts and ends -/

/-- The positions from some position on at which one of some spans starts. -/
def startsFrom (spans : List Span) (position : Nat) : Set Nat :=
  {lo | position ≤ lo ∧ ∃ s ∈ spans, s.lo = lo}

/-- The positions up to some position at which one of some spans ends. -/
def endsUntil (spans : List Span) (position : Nat) : Set Nat :=
  {hi | hi ≤ position ∧ ∃ s ∈ spans, s.hi = hi}

/-- The narrowest of some spans around a comment: the first one of those. -/
def NarrowestAround (spans : List Span) (c node : Span) : Prop :=
  ∃ before after, spans = before ++ node :: after ∧ Landmarks.encloses c node = true ∧
    (∀ s ∈ before, Landmarks.encloses c s = true → node.width < s.width) ∧
    ∀ s ∈ after, Landmarks.encloses c s = true → node.width ≤ s.width

/-- **Where a comment goes**, by the spans of the nodes that were written:

* in front of the narrowest node around it, if no node starts from its end on in that one;
* or else in front of the next node that starts from its end on;
* without any of these, after the last node that ends up to its start;
* without that, too, after its own start. -/
inductive Placed (spans : List Span) (c : Span) : Anchor → Prop
  | around {node : Span} (haround : NarrowestAround spans c node)
      (hnext : ∀ next, IsLeast (startsFrom spans c.hi) next → node.hi ≤ next) :
      Placed spans c (.leading node.lo)
  | next {next : Nat} (hnext : IsLeast (startsFrom spans c.hi) next)
      (haround : ∀ node, NarrowestAround spans c node → next < node.hi) :
      Placed spans c (.leading next)
  | last {last : Nat} (hnext : startsFrom spans c.hi = ∅)
      (haround : ∀ node, ¬ NarrowestAround spans c node)
      (hlast : IsGreatest (endsUntil spans c.lo) last) :
      Placed spans c (.trailing last)
  | alone (hnext : startsFrom spans c.hi = ∅) (haround : ∀ node, ¬ NarrowestAround spans c node)
      (hlast : endsUntil spans c.lo = ∅) :
      Placed spans c (.trailing c.lo)

namespace NarrowestAround

variable {spans : List Span} {c node : Span}

theorem mem (h : NarrowestAround spans c node) : node ∈ spans := by
  obtain ⟨before, after, rfl, -⟩ := h
  exact List.mem_append_right before List.mem_cons_self

theorem encloses (h : NarrowestAround spans c node) : Landmarks.encloses c node = true := by
  obtain ⟨-, -, -, h, -⟩ := h
  exact h

/-- No span around a comment is narrower. -/
theorem width_le (h : NarrowestAround spans c node) {s : Span} (hs : s ∈ spans)
    (hc : Landmarks.encloses c s = true) : node.width ≤ s.width := by
  obtain ⟨before, after, rfl, -, hbefore, hafter⟩ := h
  rcases List.mem_append.1 hs with hs | hs
  · exact Nat.le_of_lt (hbefore s hs hc)
  · rcases List.mem_cons.1 hs with rfl | hs
    · exact Nat.le_refl _
    · exact hafter s hs hc

end NarrowestAround

/-- One more span is the narrowest one if all others around a comment are wider. -/
theorem narrowestAround_concat_iff {spans : List Span} {s c node : Span} :
    NarrowestAround (spans ++ [s]) c node ↔
      (NarrowestAround spans c node ∧ (Landmarks.encloses c s = true → node.width ≤ s.width)) ∨
        s = node ∧ Landmarks.encloses c s = true ∧
          ∀ t ∈ spans, Landmarks.encloses c t = true → s.width < t.width := by
  constructor
  · rintro ⟨before, after, hcut, hnode, hbefore, hafter⟩
    rcases List.eq_nil_or_concat after with rfl | ⟨after, t, rfl⟩
    · obtain ⟨rfl, hs⟩ := List.append_inj' hcut rfl
      obtain rfl := List.singleton_inj.1 hs
      exact .inr ⟨rfl, hnode, hbefore⟩
    · rw [List.concat_eq_append] at hcut hafter
      rw [← List.cons_append, ← List.append_assoc] at hcut
      obtain ⟨rfl, hs⟩ := List.append_inj' hcut rfl
      obtain rfl := List.singleton_inj.1 hs
      exact .inl ⟨⟨before, after, rfl, hnode, hbefore,
        fun t ht => hafter t (List.mem_append_left _ ht)⟩,
        hafter s (List.mem_append_right _ (List.mem_singleton_self s))⟩
  · rintro (⟨⟨before, after, rfl, hnode, hbefore, hafter⟩, hs⟩ | ⟨rfl, hs, hspans⟩)
    · refine ⟨before, after ++ [s], by simp only [List.append_assoc, List.cons_append], hnode,
        hbefore, fun t ht => ?_⟩
      rcases List.mem_append.1 ht with ht | ht
      · exact hafter t ht
      · obtain rfl := List.mem_singleton.1 ht
        exact hs
    · exact ⟨spans, [], rfl, hs, hspans, fun t ht => nomatch ht⟩

namespace Landmarks

variable {c : Span}

/-! ### The narrowest span -/

/-- One more span is a narrowest one, or leaves one. -/
theorem narrower_ne_none (best? : Option Span) (s : Span) : narrower best? s ≠ none := by
  cases best? with
  | none => exact Option.some_ne_none s
  | some best =>
      simp only [narrower]
      split <;> exact Option.some_ne_none _

/-- Only of no spans none is the narrowest. -/
theorem foldl_narrower_eq_none_iff {spans : List Span} :
    spans.foldl narrower none = none ↔ spans = [] := by
  rcases List.eq_nil_or_concat spans with rfl | ⟨spans, s, rfl⟩
  · exact iff_of_true rfl rfl
  · rw [List.concat_eq_append, List.foldl_concat]
    exact iff_of_false (narrower_ne_none _ s) (List.concat_ne_nil s spans)

/-- **One step**: if the narrowest span around a comment is known, then so it is with one more span
around it. -/
theorem narrower_eq_some_iff {spans : List Span} {best? : Option Span} {s node : Span}
    (hs : encloses c s = true) (hnone : best? = none → ∀ t ∈ spans, ¬ encloses c t = true)
    (hbest : ∀ node, best? = some node ↔ NarrowestAround spans c node) :
    narrower best? s = some node ↔ NarrowestAround (spans ++ [s]) c node := by
  rw [narrowestAround_concat_iff]
  simp only [hs, true_and, true_imp_iff]
  cases best? with
  | none =>
      rw [narrower, Option.some_inj]
      constructor
      · rintro rfl
        exact .inr ⟨rfl, fun t ht hc => (hnone rfl t ht hc).elim⟩
      · rintro (⟨h, -⟩ | ⟨rfl, -⟩)
        · exact (hnone rfl node h.mem h.encloses).elim
        · rfl
  | some best =>
      have hnarrowest : NarrowestAround spans c best := (hbest best).1 rfl
      have hunique : NarrowestAround spans c node → best = node :=
        fun h => Option.some.inj ((hbest node).2 h)
      by_cases hlt : s.width < best.width
      · rw [narrower, if_pos hlt, Option.some_inj]
        constructor
        · rintro rfl
          exact .inr ⟨rfl, fun t ht hc => Nat.lt_of_lt_of_le hlt (hnarrowest.width_le ht hc)⟩
        · rintro (⟨h, hle⟩ | ⟨rfl, -⟩)
          · obtain rfl := hunique h
            exact (Nat.not_le.2 hlt hle).elim
          · rfl
      · rw [narrower, if_neg hlt, Option.some_inj]
        constructor
        · rintro rfl
          exact .inl ⟨hnarrowest, Nat.le_of_not_lt hlt⟩
        · rintro (⟨h, -⟩ | ⟨rfl, h⟩)
          · exact hunique h
          · exact (hlt (h best hnarrowest.mem hnarrowest.encloses)).elim

/-- A span that is not around a comment makes no difference. -/
theorem narrowestAround_concat_of_not_encloses {spans : List Span} {s node : Span}
    (hs : ¬ encloses c s = true) :
    NarrowestAround (spans ++ [s]) c node ↔ NarrowestAround spans c node := by
  rw [narrowestAround_concat_iff]
  constructor
  · rintro (⟨h, -⟩ | ⟨-, h, -⟩)
    · exact h
    · exact (hs h).elim
  · exact fun h => .inl ⟨h, fun h' => (hs h').elim⟩

/-- **The narrowest span around a comment**, by going through all of them. -/
theorem foldl_narrower_eq_some_iff (spans : List Span) {node : Span} :
    (spans.filter (encloses c)).foldl narrower none = some node ↔
      NarrowestAround spans c node := by
  induction spans using List.reverseRecOn generalizing node with
  | nil => exact iff_of_false (fun h => nomatch h) fun h => List.not_mem_nil h.mem
  | append_singleton spans s ih =>
      rw [List.filter_append]
      by_cases hs : encloses c s = true
      · rw [List.filter_cons_of_pos hs, List.filter_nil, List.foldl_concat]
        refine narrower_eq_some_iff hs (fun hnone => ?_) fun node => ih
        exact List.filter_eq_nil_iff.1 (foldl_narrower_eq_none_iff.1 hnone)
      · rw [List.filter_cons_of_neg hs, List.filter_nil, List.append_nil, ih,
          narrowestAround_concat_of_not_encloses hs]

/-! ### The searches -/

variable {spans : List Span}

theorem mem_toArray_mergeSort_iff {f : Span → Nat} {x : Nat} :
    x ∈ (spans.map f).mergeSort.toArray ↔ ∃ s ∈ spans, f s = x := by
  rw [List.mem_toArray, List.mem_mergeSort, List.mem_map]

theorem pairwise_mergeSort_le (xs : List Nat) : xs.mergeSort.toArray.toList.Pairwise (· ≤ ·) := by
  have htrans : ∀ a b c : Nat, decide (a ≤ b) = true → decide (b ≤ c) = true →
      decide (a ≤ c) = true := fun a b c hab hbc =>
    decide_eq_true (Nat.le_trans (of_decide_eq_true hab) (of_decide_eq_true hbc))
  have htotal : ∀ a b : Nat, (decide (a ≤ b) || decide (b ≤ a)) = true := by
    intro a b
    rw [Bool.or_eq_true, decide_eq_true_iff, decide_eq_true_iff]
    exact Nat.le_total a b
  exact (List.pairwise_mergeSort htrans htotal xs).imp of_decide_eq_true

/-- The starts of spans are cut in front of those from some position on. -/
theorem isCut_starts (spans : List Span) (position : Nat) :
    let starts := (ofSpans spans).starts
    IsCut (· < position) starts (partitionPoint (· < position) starts) :=
  isCut_partitionPoint (.of_sorted (pairwise_mergeSort_le _) fun _ _ hle h =>
    decide_eq_true (Nat.lt_of_le_of_lt hle (of_decide_eq_true h)))

/-- The ends of spans are cut behind those up to some position. -/
theorem isCut_ends (spans : List Span) (position : Nat) :
    let ends := (ofSpans spans).ends
    IsCut (· ≤ position) ends (partitionPoint (· ≤ position) ends) :=
  isCut_partitionPoint (.of_sorted (pairwise_mergeSort_le _) fun _ _ hle h =>
    decide_eq_true (Nat.le_trans hle (of_decide_eq_true h)))

/-- **The next start** is the least one from the end of a comment on. -/
theorem next?_eq_some_iff {next : Nat} :
    (ofSpans spans).next? c = some next ↔
      IsLeast (startsFrom (spans.filter (!·.isDummy)) c.hi) next := by
  have hset : {y | y ∈ (ofSpans spans).starts ∧ decide (y < c.hi) = false} =
      startsFrom (spans.filter (!·.isDummy)) c.hi := by
    refine Set.ext fun y => ?_
    have hmem : y ∈ (ofSpans spans).starts ↔ ∃ s ∈ spans.filter (!·.isDummy), s.lo = y :=
      mem_toArray_mergeSort_iff
    have hfail : decide (y < c.hi) = false ↔ c.hi ≤ y := by
      rw [decide_eq_false_iff_not, Nat.not_lt]
    exact (and_congr hmem hfail).trans and_comm
  rw [next?, (isCut_starts spans c.hi).getElem?_eq_some_iff (pairwise_mergeSort_le _), hset]

/-- **The previous end** is the greatest one up to the start of a comment. -/
theorem previous?_eq_some_iff {last : Nat} :
    (ofSpans spans).previous? c = some last ↔
      IsGreatest (endsUntil (spans.filter (!·.isDummy)) c.lo) last := by
  have hset : {y | y ∈ (ofSpans spans).ends ∧ decide (y ≤ c.lo) = true} =
      endsUntil (spans.filter (!·.isDummy)) c.lo := by
    refine Set.ext fun y => ?_
    have hmem : y ∈ (ofSpans spans).ends ↔ ∃ s ∈ spans.filter (!·.isDummy), s.hi = y :=
      mem_toArray_mergeSort_iff
    exact (and_congr hmem decide_eq_true_iff).trans and_comm
  rw [← hset]
  exact (isCut_ends spans c.lo).getElem?_pred_eq_some_iff (pairwise_mergeSort_le _)

/-- **The node around a comment** is the narrowest one, and the first of those. -/
theorem enclosing?_eq_some_iff {node : Span} :
    (ofSpans spans).enclosing? c = some node ↔
      NarrowestAround (spans.filter (!·.isDummy)) c node :=
  foldl_narrower_eq_some_iff _

end Landmarks

/-! ### Places -/

/-- There is one narrowest span around a comment, if any. -/
theorem NarrowestAround.unique {spans : List Span} {c node node' : Span}
    (h : NarrowestAround spans c node) (h' : NarrowestAround spans c node') : node = node' := by
  have hnode := (Landmarks.foldl_narrower_eq_some_iff spans).2 h
  have hnode' := (Landmarks.foldl_narrower_eq_some_iff spans).2 h'
  exact Option.some.inj (hnode.symm.trans hnode')

/-- Every comment has a place, whatever the spans are. -/
theorem exists_placed (spans : List Span) (c : Span) : ∃ place, Placed spans c place := by
  classical
  by_cases haround : ∃ node, NarrowestAround spans c node
  · obtain ⟨node, haround⟩ := haround
    by_cases hnext : ∀ next, IsLeast (startsFrom spans c.hi) next → node.hi ≤ next
    · exact ⟨_, .around haround hnext⟩
    · push Not at hnext
      obtain ⟨next, hnext, hlt⟩ := hnext
      refine ⟨_, .next hnext fun node' haround' => ?_⟩
      rwa [haround'.unique haround]
  · have hnone : ∀ node, ¬ NarrowestAround spans c node := not_exists.1 haround
    rcases (startsFrom spans c.hi).eq_empty_or_nonempty with hnext | hnext
    · rcases (endsUntil spans c.lo).eq_empty_or_nonempty with hlast | hlast
      · exact ⟨_, .alone hnext hnone hlast⟩
      · obtain ⟨last, hlast⟩ := BddAbove.exists_isGreatest_of_nonempty ⟨c.lo, fun _ h => h.1⟩ hlast
        exact ⟨_, .last hnext hnone hlast⟩
    · exact ⟨_, .next hnext.isLeast_natFind fun node h => (hnone node h).elim⟩

namespace Landmarks

variable {spans : List Span} {c : Span} {place : Anchor}

/-- Nothing is around a comment that no span is the narrowest one around. -/
theorem enclosing?_eq_none (h : ∀ node, ¬ NarrowestAround (spans.filter (!·.isDummy)) c node) :
    (ofSpans spans).enclosing? c = none :=
  Option.eq_none_iff_forall_ne_some.2 fun node hnode => h node (enclosing?_eq_some_iff.1 hnode)

/-- Nothing starts from the end of a comment on. -/
theorem next?_eq_none (h : startsFrom (spans.filter (!·.isDummy)) c.hi = ∅) :
    (ofSpans spans).next? c = none :=
  Option.eq_none_iff_forall_ne_some.2 fun next hnext =>
    Set.eq_empty_iff_forall_notMem.1 h next (next?_eq_some_iff.1 hnext).1

/-- Nothing ends up to the start of a comment. -/
theorem previous?_eq_none (h : endsUntil (spans.filter (!·.isDummy)) c.lo = ∅) :
    (ofSpans spans).previous? c = none :=
  Option.eq_none_iff_forall_ne_some.2 fun last hlast =>
    Set.eq_empty_iff_forall_notMem.1 h last (previous?_eq_some_iff.1 hlast).1

/-- Each rule says what the searches find. -/
theorem anchor_eq_of_placed (h : Placed (spans.filter (!·.isDummy)) c place) :
    (ofSpans spans).anchor c = place := by
  cases h with
  | @around node haround hnext =>
      have hall : ((ofSpans spans).next? c).all (node.hi ≤ ·) = true := by
        rw [Option.all_eq_true]
        exact fun next h => decide_eq_true (hnext next (next?_eq_some_iff.1 h))
      simp only [anchor, enclosing?_eq_some_iff.2 haround, hall, if_true]
  | @next next hnext haround =>
      simp only [anchor, next?_eq_some_iff.2 hnext, Option.all_some, decide_eq_true_iff]
      cases henclosing : (ofSpans spans).enclosing? c with
      | none => rfl
      | some node =>
          have hlt : next < node.hi := haround node (enclosing?_eq_some_iff.1 henclosing)
          exact if_neg (Nat.not_le.2 hlt)
  | last hnext haround hlast =>
      simp only [anchor, next?_eq_none hnext, enclosing?_eq_none haround,
        previous?_eq_some_iff.2 hlast, Option.getD_some]
  | alone hnext haround hlast =>
      simp only [anchor, next?_eq_none hnext, enclosing?_eq_none haround,
        previous?_eq_none hlast, Option.getD_none]

/-- **Where a comment goes**, as a relation on the spans of what was written. -/
theorem anchor_eq_iff :
    (ofSpans spans).anchor c = place ↔ Placed (spans.filter (!·.isDummy)) c place := by
  constructor
  · rintro rfl
    obtain ⟨place, h⟩ := exists_placed (spans.filter (!·.isDummy)) c
    rwa [anchor_eq_of_placed h]
  · exact anchor_eq_of_placed

/-- So a comment has one place among these spans. -/
theorem placed_unique {place' : Anchor} (h : Placed (spans.filter (!·.isDummy)) c place)
    (h' : Placed (spans.filter (!·.isDummy)) c place') : place = place' :=
  (anchor_eq_of_placed h).symm.trans (anchor_eq_of_placed h')

end Landmarks

/-! ### Documents -/

namespace Page

variable (anchors : List (Anchor × Comment)) (position : Nat)

/-- The comments that wait in front of a position, in order. -/
theorem filter_leading_blank :
    ((blank anchors).leading.filter (·.1 == position)).map (·.2) =
      (anchors.filter (·.1 == .leading position)).map (·.2) := by
  induction anchors with
  | nil => rfl
  | cons anchored anchors ih =>
      obtain ⟨place, c⟩ := anchored
      simp only [blank] at ih ⊢
      cases place with
      | leading start => by_cases h : start = position <;> simp [ih, h]
      | trailing => simp [ih]

/-- The comments that wait behind a position, in order. -/
theorem filter_trailing_blank :
    ((blank anchors).trailing.filter (·.1 == position)).map (·.2) =
      (anchors.filter (·.1 == .trailing position)).map (·.2) := by
  induction anchors with
  | nil => rfl
  | cons anchored anchors ih =>
      obtain ⟨place, c⟩ := anchored
      simp only [blank] at ih ⊢
      cases place with
      | leading => simp [ih]
      | trailing stop => by_cases h : stop = position <;> simp [ih, h]

end Page

namespace Program

variable (p : Program)

/-- The place of each comment of a document. -/
theorem mem_anchors_iff {place : Anchor} {c : Comment} :
    (place, c) ∈ p.anchors ↔ c ∈ p.comments ∧ Placed p.module.writtenSpans c.span place := by
  rw [anchors, List.mem_map]
  constructor
  · rintro ⟨c', hc, h⟩
    obtain ⟨hplace, rfl⟩ := Prod.mk.inj h
    exact ⟨hc, Landmarks.anchor_eq_iff.1 hplace⟩
  · rintro ⟨hc, hplace⟩
    exact ⟨c, hc, Prod.ext (Landmarks.anchor_eq_iff.2 hplace) rfl⟩

/-- The comments at one place are in order. -/
theorem filter_anchors (place : Anchor) :
    (p.anchors.filter (·.1 == place)).map (·.2) =
      p.comments.filter fun c => (Landmarks.ofSpans p.module.spans).anchor c.span == place := by
  rw [anchors, List.filter_map, List.map_map]
  exact List.map_id _

/-- **Comments are placed exactly.** Each comment of a document gets one place, in order. For each
one that does not end before it starts:

* its place is the one that the rules of `Placed` give, by the spans of the written nodes alone, and
  they give one;
* the searches find the least start from its end on, the greatest end up to its start and the
  narrowest span around it, if there are any, and go no further than to the end of the arrays;
* the spans around it do not end before they start, so their widths are what lies between.

The comments that the printer gets for a position are those at that place, in order. -/
theorem anchors_exact :
    let spans := p.module.writtenSpans
    let landmarks := Landmarks.ofSpans p.module.spans
    let page := Page.blank p.anchors
    p.anchors.map (·.2) = p.comments ∧
    (∀ c ∈ p.comments, c.span.lo ≤ c.span.hi →
      (∀ place, (place, c) ∈ p.anchors ↔ Placed spans c.span place) ∧
      (∃! place, Placed spans c.span place) ∧
      (∀ next, landmarks.next? c.span = some next ↔
        IsLeast (startsFrom spans c.span.hi) next) ∧
      (∀ last, landmarks.previous? c.span = some last ↔
        IsGreatest (endsUntil spans c.span.lo) last) ∧
      (∀ node, landmarks.enclosing? c.span = some node ↔ NarrowestAround spans c.span node) ∧
      partitionPoint (· < c.span.hi) landmarks.starts ≤ landmarks.starts.size ∧
      partitionPoint (· ≤ c.span.lo) landmarks.ends ≤ landmarks.ends.size ∧
      ∀ node ∈ spans, Landmarks.encloses c.span node = true → node.lo ≤ node.hi) ∧
    ∀ position,
      (page.leading.filter (·.1 == position)).map (·.2) =
        p.comments.filter (fun c => landmarks.anchor c.span == .leading position) ∧
      (page.trailing.filter (·.1 == position)).map (·.2) =
        p.comments.filter fun c => landmarks.anchor c.span == .trailing position := by
  intro spans landmarks page
  refine ⟨?_, fun c hc hle => ?_, fun position => ⟨?_, ?_⟩⟩
  · rw [anchors, List.map_map]
    exact List.map_id _
  · obtain ⟨place, hplace⟩ := exists_placed spans c.span
    refine ⟨fun place => ?_, ⟨place, hplace, fun place' h => Landmarks.placed_unique h hplace⟩,
      fun next => Landmarks.next?_eq_some_iff, fun last => Landmarks.previous?_eq_some_iff,
      fun node => Landmarks.enclosing?_eq_some_iff, (Landmarks.isCut_starts _ _).le_size,
      (Landmarks.isCut_ends _ _).le_size, fun node _ haround => ?_⟩
    · rw [p.mem_anchors_iff, and_iff_right hc]
    · simp only [Landmarks.encloses, Bool.and_eq_true, decide_eq_true_iff] at haround
      omega
  · rw [Page.filter_leading_blank, p.filter_anchors]
  · rw [Page.filter_trailing_blank, p.filter_anchors]

/-- The document `{/* a */ b; /* c */}`: a block with a comment on each side of its statement. -/
def commentsInBlock : Program where
  path := none
  module := ⟨⟨1, 21⟩,
    [.plain .block (.written ⟨1, 21⟩)
      [.list [.plain .expressionStatement (.written ⟨10, 12⟩)
        [.mk (.reference (.written ⟨10, 11⟩) "b") []]]]], none⟩
  comments := [⟨.block, ⟨2, 9⟩, " a "⟩, ⟨.block, ⟨13, 20⟩, " c "⟩]

/-- The first comment goes in front of the statement. -/
theorem placed_before_commentsInBlock :
    Placed commentsInBlock.module.writtenSpans ⟨2, 9⟩ (.leading 10) := by
  have hstarts : ∀ s ∈ commentsInBlock.module.writtenSpans, 9 ≤ s.lo → 10 ≤ s.lo := by decide
  have haround : ∀ s ∈ commentsInBlock.module.writtenSpans,
      Landmarks.encloses ⟨2, 9⟩ s = true → 10 < s.hi := by decide
  refine .next ⟨⟨by decide, ⟨10, 12⟩, by decide, rfl⟩, ?_⟩ fun node h =>
    haround node h.mem h.encloses
  rintro next ⟨hle, s, hs, rfl⟩
  exact hstarts s hs hle

/-- No node starts behind the second one, so it goes in front of what is around it: the module and
the block, which are equally wide. -/
theorem placed_after_commentsInBlock :
    Placed commentsInBlock.module.writtenSpans ⟨13, 20⟩ (.leading 1) := by
  have hstarts : ∀ s ∈ commentsInBlock.module.writtenSpans, ¬ 20 ≤ s.lo := by decide
  have haround : NarrowestAround commentsInBlock.module.writtenSpans ⟨13, 20⟩ ⟨1, 21⟩ :=
    ⟨[], [⟨1, 21⟩, ⟨10, 12⟩, ⟨10, 11⟩], rfl, by decide, by decide, by decide⟩
  refine .around haround ?_
  rintro next ⟨⟨hle, s, hs, rfl⟩, -⟩
  exact (hstarts s hs hle).elim

/-- Both comments of the document. -/
theorem anchors_exact_commentsInBlock :
    (∀ c ∈ commentsInBlock.comments, c.span.lo ≤ c.span.hi) ∧
    commentsInBlock.anchors.map (·.2) = commentsInBlock.comments ∧
    (.leading 10, ⟨.block, ⟨2, 9⟩, " a "⟩) ∈ commentsInBlock.anchors ∧
    (.leading 1, ⟨.block, ⟨13, 20⟩, " c "⟩) ∈ commentsInBlock.anchors := by
  have hle : ∀ c ∈ commentsInBlock.comments, c.span.lo ≤ c.span.hi := by decide
  obtain ⟨hall, hplaces, -⟩ := commentsInBlock.anchors_exact
  have hbefore := (hplaces ⟨.block, ⟨2, 9⟩, " a "⟩ (by decide) (by decide)).1
  have hafter := (hplaces ⟨.block, ⟨13, 20⟩, " c "⟩ (by decide) (by decide)).1
  exact ⟨hle, hall, (hbefore _).2 placed_before_commentsInBlock,
    (hafter _).2 placed_after_commentsInBlock⟩

end Program

end HostProps
