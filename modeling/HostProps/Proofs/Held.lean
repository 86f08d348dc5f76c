import HostProps.Proofs.StatementPath
import HostProps.Walk
import Mathlib.Data.List.Basic
import Mathlib.Tactic.FinCases

/-!
# What Walks Find

Walks go by `Head.sites`, which says how the parts of each construct hold statements. Here this
comes to the same as `Node.Holds`, which says it by the syntax, and the walks become folds over what
is held.

## Main results

* `Node.holds_iff_finds`: sites find what constructs hold.
* `Node.mem_held_iff`, `Node.pairwise_held`: all of it, in the order of the text.
* `walkLists_statementLists`, `Module.walkBody_eq_foldl`: walks fold over what is held.
* `Node.Holds.measure_lt`: what is held is inside of what holds it, so it is smaller.
* `Module.Reaches.unique`: at each path there is at most one statement.
-/

namespace HostProps

/-! ### What sites find -/

namespace Node

variable {n part : Node} {index : Nat}

/-- The items of a part that is a list. -/
theorem getElem?_items_eq_some :
    part.items[index]? = some n ↔ ∃ ns, part = list ns ∧ ns[index]? = some n := by
  rw [items.eq_def]
  split
  · simp [list]
  · rename_i hne
    simp only [List.getElem?_nil, reduceCtorEq, false_iff]
    rintro ⟨ns, rfl, -⟩
    exact hne ns rfl

/-- The statements of a block. -/
theorem getElem?_blockStatements_eq_some :
    part.blockStatements[index]? = some n ↔
      ∃ o ns, part = plain .block o [list ns] ∧ ns[index]? = some n := by
  rw [blockStatements.eq_def]
  split
  · rw [getElem?_items_eq_some]
    simp [plain]
  · rename_i hne
    simp only [List.getElem?_nil, reduceCtorEq, false_iff]
    rintro ⟨o, ns, rfl, -⟩
    exact hne o _ rfl

/-- The statements after a case. -/
theorem getElem?_caseStatements_eq_some :
    part.caseStatements[index]? = some n ↔
      ∃ o test ns, part = plain .switchCase o [test, list ns] ∧ ns[index]? = some n := by
  rw [caseStatements.eq_def]
  split
  · rw [getElem?_items_eq_some]
    simp [plain]
  · rename_i hne
    simp only [List.getElem?_nil, reduceCtorEq, false_iff]
    rintro ⟨o, test, ns, rfl, -⟩
    exact hne o test _ rfl

/-- The statements of a handler. -/
theorem getElem?_handlerStatements_eq_some :
    part.handlerStatements[index]? = some n ↔
      ∃ o param blockOrigin ns,
        part = plain .catchClause o [param, plain .block blockOrigin [list ns]] ∧
          ns[index]? = some n := by
  rw [handlerStatements.eq_def]
  split
  · rw [getElem?_blockStatements_eq_some]
    simp [plain]
  · rename_i hne
    simp only [List.getElem?_nil, reduceCtorEq, false_iff]
    rintro ⟨o, param, blockOrigin, ns, rfl, -⟩
    exact hne o param _ rfl

end Node

/-- A statement stands at an entry and an index of what a site finds in a part. -/
def Site.Finds (site : Site) (part : Node) (entry index : Nat) (n : Node) : Prop :=
  ∃ l, (site.lists part)[entry]? = some l ∧ l[index]? = some n

namespace Site

variable {part n : Node} {entry index : Nat}

/-- What is found in a list of one item. -/
theorem getElem?_singleton_eq_some {α : Type} {a b : α} {i : Nat} :
    [a][i]? = some b ↔ i = 0 ∧ a = b := by
  cases i <;> simp

/-- What is found in a part with one list of statements. -/
theorem finds_iff_of_lists {site : Site} {statements : List Node}
    (h : site.lists part = if part.isAbsent then [] else [statements]) :
    site.Finds part entry index n ↔
      entry = 0 ∧ part.isAbsent = false ∧ statements[index]? = some n := by
  rw [Finds, h]
  cases part.isAbsent with
  | true => simp
  | false => simp [getElem?_singleton_eq_some, and_assoc]

/-- Nothing is found in a part that holds nothing. -/
theorem not_finds_inert : ¬inert.Finds part entry index n := by
  rintro ⟨l, hl, -⟩
  rw [lists, ite_self] at hl
  cases hl

/-- What is found in a part that is a statement. -/
theorem finds_statement_iff :
    statement.Finds part entry index n ↔
      entry = 0 ∧ index = 0 ∧ part = n ∧ n.isAbsent = false := by
  rw [finds_iff_of_lists rfl, getElem?_singleton_eq_some]
  constructor
  · rintro ⟨hentry, habsent, hindex, rfl⟩
    exact ⟨hentry, hindex, rfl, habsent⟩
  · rintro ⟨hentry, hindex, rfl, habsent⟩
    exact ⟨hentry, habsent, hindex, rfl⟩

/-- What is found in a part with one list of statements, which is empty if the part is missing. -/
theorem finds_iff_of_statements {site : Site} {statements : Node → List Node}
    (h : site.lists part = if part.isAbsent then [] else [statements part])
    (habsent : ∀ ps, statements (.mk .absent ps) = []) :
    site.Finds part entry index n ↔ entry = 0 ∧ (statements part)[index]? = some n := by
  rw [finds_iff_of_lists h]
  refine and_congr_right fun _ => and_iff_right_of_imp fun hindex => ?_
  rw [Node.isAbsent.eq_def]
  split
  · rw [habsent] at hindex
    cases hindex
  · rfl

/-- What is found in a part that is a list. -/
theorem finds_statements_iff :
    statements.Finds part entry index n ↔
      entry = 0 ∧ ∃ ns, part = .list ns ∧ ns[index]? = some n := by
  rw [finds_iff_of_statements rfl fun _ => rfl, Node.getElem?_items_eq_some]

/-- What is found in a part that is a block. -/
theorem finds_block_iff :
    block.Finds part entry index n ↔
      entry = 0 ∧ ∃ o ns, part = .plain .block o [.list ns] ∧ ns[index]? = some n := by
  rw [finds_iff_of_statements rfl fun _ => rfl, Node.getElem?_blockStatements_eq_some]

/-- What is found in a part that is the handler of a `try`. -/
theorem finds_handler_iff :
    handler.Finds part entry index n ↔
      entry = 0 ∧ ∃ o param blockOrigin ns,
        part = .plain .catchClause o [param, .plain .block blockOrigin [.list ns]] ∧
          ns[index]? = some n := by
  rw [finds_iff_of_statements rfl fun _ => rfl, Node.getElem?_handlerStatements_eq_some]

/-- The lists of statements in a part that is a list of cases: one for each case. -/
theorem lists_cases (part : Node) : cases.lists part = part.items.map Node.caseStatements := by
  rw [lists, Node.isAbsent.eq_def]
  split <;> rfl

/-- What is found in a part that is a list of cases. -/
theorem finds_cases_iff :
    cases.Finds part entry index n ↔
      ∃ cs o test ns, part = .list cs ∧ cs[entry]? = some (.plain .switchCase o [test, .list ns]) ∧
        ns[index]? = some n := by
  rw [Finds, lists_cases]
  simp only [List.getElem?_map, Option.map_eq_some_iff, Node.getElem?_items_eq_some]
  constructor
  · rintro ⟨_, ⟨c, ⟨cs, rfl, hc⟩, rfl⟩, hindex⟩
    obtain ⟨o, test, ns, rfl, hindex⟩ := Node.getElem?_caseStatements_eq_some.1 hindex
    exact ⟨cs, o, test, ns, rfl, hc, hindex⟩
  · rintro ⟨cs, o, test, ns, rfl, hc, hindex⟩
    exact ⟨ns, ⟨_, ⟨cs, rfl, hc⟩, rfl⟩, hindex⟩

/-- If only the last of some sites holds anything, then whatever is found is found there. -/
theorem eq_last_of_finds {j k : Nat} {site last : Site}
    (hsite : (List.replicate j inert ++ [last])[k]? = some site)
    (hfinds : site.Finds part entry index n) : k = j ∧ site = last := by
  rw [List.getElem?_append, List.length_replicate] at hsite
  split at hsite
  · rw [List.getElem?_replicate_of_lt ‹_›] at hsite
    cases hsite
    exact absurd hfinds not_finds_inert
  · obtain ⟨hk, rfl⟩ := getElem?_singleton_eq_some.1 hsite
    exact ⟨by omega, rfl⟩

end Site

namespace Node

/-- A statement stands at a step of what the sites of a node find in its parts. -/
def Finds (n : Node) (step : Step) (m : Node) : Prop :=
  ∃ site part, n.head.sites[step.part]? = some site ∧ n.parts[step.part]? = some part ∧
    site.Finds part step.entry step.index m

/-- What a construct holds is found by its sites. -/
theorem Holds.finds {n m : Node} {step : Step} (h : n.Holds step m) : n.Finds step m := by
  cases h with
  | block hpart hindex =>
      exact ⟨.statements, _, rfl, hpart, Site.finds_statements_iff.2 ⟨rfl, _, rfl, hindex⟩⟩
  | branch hmem hpart habsent | body hmem hpart habsent =>
      refine ⟨.statement, m, ?_, hpart, Site.finds_statement_iff.2 ⟨rfl, rfl, rfl, habsent⟩⟩
      fin_cases hmem <;> rfl
  | forOfBody hpart habsent =>
      exact ⟨.statement, m, rfl, hpart, Site.finds_statement_iff.2 ⟨rfl, rfl, rfl, habsent⟩⟩
  | switchCase hpart hentry hindex =>
      exact ⟨.cases, _, rfl, hpart, Site.finds_cases_iff.2 ⟨_, _, _, _, rfl, hentry, hindex⟩⟩
  | tryBlock hmem hpart hindex =>
      refine ⟨.block, _, ?_, hpart, Site.finds_block_iff.2 ⟨rfl, _, _, rfl, hindex⟩⟩
      fin_cases hmem <;> rfl
  | handler hpart hindex =>
      exact ⟨.handler, _, rfl, hpart, Site.finds_handler_iff.2 ⟨rfl, _, _, _, _, rfl, hindex⟩⟩
  | functionBody hpart hindex =>
      exact ⟨.block, _, rfl, hpart, Site.finds_block_iff.2 ⟨rfl, _, _, rfl, hindex⟩⟩

/-- What the sites of a construct find is held by it. The cases are those of `Head.sites`. -/
theorem Finds.holds {n m : Node} {step : Step} (h : n.Finds step m) : n.Holds step m := by
  obtain ⟨head, ps⟩ := n
  obtain ⟨k, entry, index⟩ := step
  obtain ⟨site, part, hsite, hpart, hfinds⟩ := h
  simp only [head_mk, parts_mk] at hsite hpart hfinds
  rw [Head.sites.eq_def] at hsite
  split at hsite
  case h_1 => -- a block
    obtain ⟨rfl, rfl⟩ := Site.eq_last_of_finds (j := 0) hsite hfinds
    obtain ⟨rfl, ns, rfl, hindex⟩ := Site.finds_statements_iff.1 hfinds
    exact .block hpart hindex
  case h_2 => -- `if`
    obtain _ | _ | _ | k := k
    · cases hsite
      exact absurd hfinds Site.not_finds_inert
    · cases hsite
      obtain ⟨rfl, rfl, rfl, habsent⟩ := Site.finds_statement_iff.1 hfinds
      exact .branch (by decide) hpart habsent
    · cases hsite
      obtain ⟨rfl, rfl, rfl, habsent⟩ := Site.finds_statement_iff.1 hfinds
      exact .branch (by decide) hpart habsent
    · cases hsite
  case h_3 | h_4 | h_5 | h_6 => -- `with`, labels, `while` and `do`
    obtain ⟨rfl, rfl⟩ := Site.eq_last_of_finds (j := 1) hsite hfinds
    obtain ⟨rfl, rfl, rfl, habsent⟩ := Site.finds_statement_iff.1 hfinds
    exact .body (by decide) hpart habsent
  case h_7 => -- `for`
    obtain ⟨rfl, rfl⟩ := Site.eq_last_of_finds (j := 3) hsite hfinds
    obtain ⟨rfl, rfl, rfl, habsent⟩ := Site.finds_statement_iff.1 hfinds
    exact .body (by decide) hpart habsent
  case h_8 => -- `for … in`
    obtain ⟨rfl, rfl⟩ := Site.eq_last_of_finds (j := 2) hsite hfinds
    obtain ⟨rfl, rfl, rfl, habsent⟩ := Site.finds_statement_iff.1 hfinds
    exact .body (by decide) hpart habsent
  case h_9 => -- `for … of`
    obtain ⟨rfl, rfl⟩ := Site.eq_last_of_finds (j := 2) hsite hfinds
    obtain ⟨rfl, rfl, rfl, habsent⟩ := Site.finds_statement_iff.1 hfinds
    exact .forOfBody hpart habsent
  case h_10 => -- `switch`
    obtain ⟨rfl, rfl⟩ := Site.eq_last_of_finds (j := 1) hsite hfinds
    obtain ⟨cs, o, test, ns, rfl, hcase, hindex⟩ := Site.finds_cases_iff.1 hfinds
    exact .switchCase hpart hcase hindex
  case h_11 => -- `try`
    obtain _ | _ | _ | k := k
    · cases hsite
      obtain ⟨rfl, o, ns, rfl, hindex⟩ := Site.finds_block_iff.1 hfinds
      exact .tryBlock (by decide) hpart hindex
    · cases hsite
      obtain ⟨rfl, o, param, blockOrigin, ns, rfl, hindex⟩ := Site.finds_handler_iff.1 hfinds
      exact .handler hpart hindex
    · cases hsite
      obtain ⟨rfl, o, ns, rfl, hindex⟩ := Site.finds_block_iff.1 hfinds
      exact .tryBlock (by decide) hpart hindex
    · cases hsite
  case h_12 => -- the declaration of a function
    obtain ⟨rfl, rfl⟩ := Site.eq_last_of_finds (j := 3) hsite hfinds
    obtain ⟨rfl, o, ns, rfl, hindex⟩ := Site.finds_block_iff.1 hfinds
    exact .functionBody hpart hindex
  case h_13 => cases hsite

/-- **Sites find what constructs hold.** -/
theorem holds_iff_finds {n m : Node} {step : Step} : n.Holds step m ↔ n.Finds step m :=
  ⟨Holds.finds, Finds.holds⟩

/-! ### All that is held, in order -/

/-- All statements that a construct holds, in the order of the text, with their steps. -/
def held : Node → List (Step × Node)
  | mk h ps => (h.sites.zip ps).zipIdx.flatMap fun (holder, part) =>
      (holder.1.lists holder.2).zipIdx.flatMap fun (l, entry) =>
        l.zipIdx.map fun (n, index) => (⟨part, entry, index⟩, n)

/-- **What is held**: the statements that the construct holds. -/
theorem mem_held_iff {n m : Node} {step : Step} : (step, m) ∈ n.held ↔ n.Holds step m := by
  cases n with
  | mk h ps =>
      obtain ⟨k, entry, index⟩ := step
      simp only [held, holds_iff_finds, Finds, Site.Finds, head_mk, parts_mk, List.mem_flatMap,
        List.mem_map, Prod.exists, List.mk_mem_zipIdx_iff_getElem?, List.getElem?_zip_eq_some,
        Prod.mk.injEq, Step.mk.injEq]
      constructor
      · rintro ⟨site, part, k, ⟨hsite, hpart⟩, l, entry, hl, n, index, hn, ⟨rfl, rfl, rfl⟩, rfl⟩
        exact ⟨site, part, hsite, hpart, l, hl, hn⟩
      · rintro ⟨site, part, hsite, hpart, l, hl, hn⟩
        exact ⟨site, part, k, ⟨hsite, hpart⟩, l, entry, hl, m, index, hn, ⟨rfl, rfl, rfl⟩, rfl⟩

/-- The items of a list come in the order of their indices. -/
theorem pairwise_zipIdx {α : Type} (l : List α) : l.zipIdx.Pairwise fun a b => a.2 < b.2 := by
  rw [← List.pairwise_map, List.zipIdx_map_snd]
  exact List.pairwise_lt_range'

/-- **What is held comes in the order of the text**, each statement once. -/
theorem pairwise_held (n : Node) : n.held.Pairwise fun a b => a.1.Before b.1 := by
  cases n with
  | mk h ps =>
      rw [held, List.pairwise_flatMap]
      constructor
      · rintro ⟨holder, part⟩ -
        rw [List.pairwise_flatMap]
        constructor
        · rintro ⟨l, entry⟩ -
          rw [List.pairwise_map]
          exact (pairwise_zipIdx l).imp fun h => .inr ⟨rfl, .inr ⟨rfl, h⟩⟩
        · refine (pairwise_zipIdx _).imp ?_
          rintro ⟨l, entry⟩ ⟨l', entry'⟩ hlt x hx y hy
          obtain ⟨_, -, rfl⟩ := List.mem_map.1 hx
          obtain ⟨_, -, rfl⟩ := List.mem_map.1 hy
          exact .inr ⟨rfl, .inl hlt⟩
      · refine (pairwise_zipIdx _).imp ?_
        rintro ⟨holder, part⟩ ⟨holder', part'⟩ hlt x hx y hy
        obtain ⟨_, -, hx⟩ := List.mem_flatMap.1 hx
        obtain ⟨_, -, hy⟩ := List.mem_flatMap.1 hy
        obtain ⟨_, -, rfl⟩ := List.mem_map.1 hx
        obtain ⟨_, -, rfl⟩ := List.mem_map.1 hy
        exact .inl hlt

end Node

/-! ### Walks fold over what is held -/

section Folds

variable {σ : Type} (visit : σ → Node → Place → σ × Control)

/-- Visit a statement that is held at a step. -/
def walkHeld (depth : Nat) (w : Walking σ) (held : Step × Node) : Walking σ :=
  walkStatement visit ⟨depth, held.1.index⟩ held.2 w

/-- A walk of a list visits its items, told their indices. -/
theorem walkList_eq_foldl (depth index : Nat) (ns : List Node) (w : Walking σ) :
    walkList visit depth index ns w =
      (ns.zipIdx index).foldl (fun w item => walkStatement visit ⟨depth, item.2⟩ item.1 w) w := by
  induction ns generalizing index w with
  | nil => rw [walkList]; rfl
  | cons n ns ih => rw [walkList, ih, List.zipIdx_cons, List.foldl_cons]

/-- A walk of some lists walks each of them. -/
theorem walkLists_eq_foldl (depth : Nat) (lists : List (List Node)) (w : Walking σ) :
    walkLists visit depth lists w = lists.foldl (fun w l => walkList visit depth 0 l w) w := by
  induction lists generalizing w with
  | nil => rw [walkLists]; rfl
  | cons l ls ih => rw [walkLists, ih, List.foldl_cons]

/-- The lists in some parts are those that each site finds in its part. -/
theorem Site.listsOfParts_eq_flatMap (sites : List Site) (ps : List Node) :
    listsOfParts sites ps = (sites.zip ps).flatMap fun holder => holder.1.lists holder.2 := by
  induction sites generalizing ps with
  | nil => rfl
  | cons site sites ih =>
      cases ps with
      | nil => rfl
      | cons p ps => rw [listsOfParts, ih, List.zip_cons_cons, List.flatMap_cons]

/-- A fold over a list sees no indices. -/
theorem foldl_eq_foldl_zipIdx {α β : Type} (f : β → α → β) (b : β) (l : List α) :
    l.foldl f b = l.zipIdx.foldl (fun b item => f b item.1) b := by
  conv_lhs => rw [← List.zipIdx_map_fst 0 l, List.foldl_map]

/-- **A walk into a statement visits what it holds**, one after the other. -/
theorem walkLists_statementLists (depth : Nat) (n : Node) (w : Walking σ) :
    walkLists visit depth n.statementLists w = n.held.foldl (walkHeld visit depth) w := by
  cases n with
  | mk h ps =>
      rw [walkLists_eq_foldl, Node.statementLists, Site.listsOfParts_eq_flatMap, Node.held]
      simp only [List.foldl_flatMap, List.foldl_map]
      rw [foldl_eq_foldl_zipIdx]
      congr 1
      funext w holder
      rw [foldl_eq_foldl_zipIdx]
      congr 1
      funext w l
      rw [walkList_eq_foldl]
      rfl

end Folds

/-! ### The body of a module -/

namespace Module

/-- The statements of a body in order, with their steps. -/
def held (m : Module) : List (Step × Node) :=
  (m.body.zipIdx.filter (!·.1.isModuleDeclaration)).map fun (n, index) => (⟨0, 0, index⟩, n)

/-- **What a body holds**: its items but for the module declarations, at their indices. -/
theorem mem_held_iff {m : Module} {step : Step} {n : Node} :
    (step, n) ∈ m.held ↔
      ∃ index, step = ⟨0, 0, index⟩ ∧ m.body[index]? = some n ∧ n.isModuleDeclaration = false := by
  simp only [held, List.mem_map, List.mem_filter, Prod.exists, List.mk_mem_zipIdx_iff_getElem?,
    Prod.mk.injEq, Bool.not_eq_true']
  constructor
  · rintro ⟨n, index, ⟨hindex, hn⟩, rfl, rfl⟩
    exact ⟨index, rfl, hindex, hn⟩
  · rintro ⟨index, rfl, hindex, hn⟩
    exact ⟨n, index, ⟨hindex, hn⟩, rfl, rfl⟩

/-- What a body holds comes in the order of the text, each statement once. -/
theorem pairwise_held (m : Module) : m.held.Pairwise fun a b => a.1.Before b.1 := by
  rw [held, List.pairwise_map]
  exact ((Node.pairwise_zipIdx m.body).filter _).imp fun h => .inr ⟨rfl, .inr ⟨rfl, h⟩⟩

/-- **A walk of a body visits what it holds**, one after the other. -/
theorem walkBody_eq_foldl {σ : Type} (visit : σ → Node → Place → σ × Control) (m : Module)
    (w : Walking σ) : walkBody visit 0 m.body w = m.held.foldl (walkHeld visit 0) w := by
  have hbody : ∀ index ns w, walkBody visit index ns w =
      (ns.zipIdx index).foldl (fun w item =>
        if (!item.1.isModuleDeclaration) = true then
          walkStatement visit ⟨0, item.2⟩ item.1 w
        else w) w := by
    intro index ns w
    induction ns generalizing index w with
    | nil => rfl
    | cons n ns ih =>
        rw [walkBody, ih, List.zipIdx_cons, List.foldl_cons]
        cases n.isModuleDeclaration <;> rfl
  rw [hbody, held, List.foldl_map, List.foldl_filter]
  rfl

end Module

/-! ### What is held is smaller -/

namespace Node

/-- **What is held is inside** of what holds it: it is below it by whatever measure its parts
are. -/
theorem Holds.measure_lt {measure : Node → Nat}
    (hpart : ∀ {h : Head} {ps : List Node} {k : Nat} {p : Node}, ps[k]? = some p →
      measure p < measure (mk h ps)) {n m : Node} {step : Step} (h : n.Holds step m) :
    measure m < measure n := by
  have hsecond : ∀ {h a b}, measure b < measure (mk h [a, b]) := hpart (k := 1) rfl
  have hblock : ∀ {o ns k}, (ns : List Node)[k]? = some m →
      measure m < measure (plain .block o [list ns]) := fun hindex =>
    (hpart hindex).trans (hpart (k := 0) rfl)
  have hcase : ∀ {o test ns k}, (ns : List Node)[k]? = some m →
      measure m < measure (plain .switchCase o [test, list ns]) := fun hindex =>
    (hpart hindex).trans hsecond
  cases h with
  | block hstatements hindex => exact (hpart hindex).trans (hpart hstatements)
  | branch _ hbranch _ | body _ hbranch _ | forOfBody hbranch _ => exact hpart hbranch
  | switchCase hcases hentry hindex =>
      exact ((hcase hindex).trans (hpart hentry)).trans (hpart hcases)
  | tryBlock _ hstatements hindex | functionBody hstatements hindex =>
      exact (hblock hindex).trans (hpart hstatements)
  | handler hclause hindex => exact ((hblock hindex).trans hsecond).trans (hpart hclause)

/-- What is held is smaller than what holds it. -/
theorem Holds.sizeOf_lt {n m : Node} {step : Step} (h : n.Holds step m) :
    sizeOf m < sizeOf n := by
  refine h.measure_lt fun {h ps k p} hp => ?_
  have hlt := List.sizeOf_lt_of_mem (List.mem_of_getElem? hp)
  rw [mk.sizeOf_spec]
  omega

/-- Some trees are together as high as the highest of them. -/
theorem height_le_heightOfParts {n : Node} {ns : List Node} (h : n ∈ ns) :
    n.height ≤ heightOfParts ns := by
  induction ns with
  | nil => cases h
  | cons m ns ih =>
      rw [heightOfParts]
      obtain rfl | h := List.mem_cons.1 h
      · exact Nat.le_max_left _ _
      · exact (ih h).trans (Nat.le_max_right _ _)

/-- What is held is less high than what holds it. -/
theorem Holds.height_lt {n m : Node} {step : Step} (h : n.Holds step m) : m.height < n.height := by
  refine h.measure_lt fun {h ps k p} hp => ?_
  rw [height]
  exact Nat.lt_succ_of_le (height_le_heightOfParts (List.mem_of_getElem? hp))

end Node

/-! ### Paths by what is held -/

/-- At each step at most one statement is held. -/
theorem Node.Holds.unique {n k k' : Node} {step : Step} (h : n.Holds step k)
    (h' : n.Holds step k') : k = k' := by
  obtain ⟨site, part, hsite, hpart, l, hl, hk⟩ := h.finds
  obtain ⟨site', part', hsite', hpart', l', hl', hk'⟩ := h'.finds
  obtain rfl := Option.some.inj (hsite.symm.trans hsite')
  obtain rfl := Option.some.inj (hpart.symm.trans hpart')
  obtain rfl := Option.some.inj (hl.symm.trans hl')
  exact Option.some.inj (hk.symm.trans hk')

/-- At each path from a statement there is at most one. -/
theorem Node.Reaches.unique {n k k' : Node} {path : List Step} (h : n.Reaches path k)
    (h' : n.Reaches path k') : k = k' := by
  induction h with
  | self n =>
      cases h'
      rfl
  | inside hholds _ ih =>
      obtain _ | ⟨hholds', hpath'⟩ := h'
      obtain rfl := hholds.unique hholds'
      exact ih hpath'

/-- At each path from a module there is at most one statement. -/
theorem Module.Reaches.unique {m : Module} {k k' : Node} {path : List Step} (h : m.Reaches path k)
    (h' : m.Reaches path k') : k = k' := by
  obtain ⟨hindex, -, hpath⟩ := h
  obtain ⟨hindex', -, hpath'⟩ := h'
  obtain rfl := Option.some.inj (hindex.symm.trans hindex')
  exact hpath.unique hpath'

/-- **Following a path** whose first step is that of a statement that is held. -/
inductive ReachesIn (held : List (Step × Node)) : List Step → Node → Prop
  | intro {step : Step} {m k : Node} {path : List Step} :
      (step, m) ∈ held → m.Reaches path k → ReachesIn held (step :: path) k

/-- A path to a statement that is held, or to one inside of it, has a first step. -/
theorem ReachesIn.exists_cons {held : List (Step × Node)} {path : List Step} {k : Node}
    (h : ReachesIn held path k) :
    ∃ step m rest, path = step :: rest ∧ (step, m) ∈ held ∧ m.Reaches rest k := by
  obtain ⟨hheld, hpath⟩ := h
  exact ⟨_, _, _, rfl, hheld, hpath⟩

/-- A path from a statement ends there, or goes on with what the statement holds. -/
theorem Node.reaches_iff {n k : Node} {path : List Step} :
    n.Reaches path k ↔ path = [] ∧ k = n ∨ ReachesIn n.held path k := by
  constructor
  · rintro (_ | ⟨hholds, hpath⟩)
    · exact .inl ⟨rfl, rfl⟩
    · exact .inr (.intro (mem_held_iff.2 hholds) hpath)
  · rintro (⟨rfl, rfl⟩ | ⟨hheld, hpath⟩)
    · exact .self k
    · exact .inside (mem_held_iff.1 hheld) hpath

/-- A path from a module goes on with what its body holds. -/
theorem Module.reaches_iff {m : Module} {k : Node} {path : List Step} :
    m.Reaches path k ↔ ReachesIn m.held path k := by
  constructor
  · rintro ⟨hindex, hstatement, hpath⟩
    exact .intro (mem_held_iff.2 ⟨_, rfl, hindex, hstatement⟩) hpath
  · rintro ⟨hheld, hpath⟩
    obtain ⟨index, rfl, hindex, hstatement⟩ := mem_held_iff.1 hheld
    exact .intro hindex hstatement hpath

end HostProps
