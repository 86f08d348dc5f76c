import HostProps.Walk

/-!
# Walks that stay at the Top Level

The operations of the pass only care for the statements of the body of a module. They say so to the
walk through the answers of their visitors, and here the walk is taken out of the way: what is left
is a fold or a search over the body.

* A walk that is over changes nothing any more (`walkBody_of_isOver`).
* A visitor that passes by everything below the top level folds over the body
  (`walkBody_of_prunes`).
* A visitor that looks for the first statement with some property finds its index
  (`Module.walk_find`).
* A visitor that edits the first statement it can edit makes one edit (`Module.editWalk_first`); the
  edit itself is `editFirst?`, with its laws.

## Main results

* `Module.walk_find`: searching is `List.findIdx?`.
* `Module.walk_fold`: collecting is `List.foldl`.
* `Module.editWalk_first`: editing the first fitting statement is `editFirst?`.
* `editFirst?_eq_some_iff`: what one edit does.
* `editFirst?_append`, `editFirst?_map`: one edit in a list with more in front, or in a changed
  list.
-/

namespace HostProps

/-! ### Looking -/

section Looking

variable {σ : Type} {visit : σ → Node → Place → σ × Control}

/-- A walk that is over visits nothing. -/
theorem walkStatement_of_isOver {w : Walking σ} (h : w.isOver = true) (place : Place) (n : Node) :
    walkStatement visit place n w = w := by
  rw [walkStatement, if_pos h]

/-- A walk that is over changes nothing any more. -/
theorem walkBody_of_isOver {w : Walking σ} (h : w.isOver = true) (index : Nat) (ns : List Node) :
    walkBody visit index ns w = w := by
  induction ns generalizing index with
  | nil => rfl
  | cons n ns ih =>
      rw [walkBody, walkStatement_of_isOver h, ite_self, ih]

/-- A visitor that passes a statement by leaves the walk as it says. -/
theorem walkStatement_of_skip {state state' : σ} {place : Place} {n : Node}
    (h : visit state n place = (state', .skip)) :
    walkStatement visit place n ⟨state, false⟩ = ⟨state', false⟩ := by
  rw [walkStatement, if_neg Bool.false_ne_true]
  simp only [h]

/-- A visitor that ends the walk at a statement leaves it over. -/
theorem walkStatement_of_exit {state state' : σ} {place : Place} {n : Node}
    (h : visit state n place = (state', .exit)) :
    walkStatement visit place n ⟨state, false⟩ = ⟨state', true⟩ := by
  rw [walkStatement, if_neg Bool.false_ne_true]
  simp only [h]

section Prunes

variable (hprunes : ∀ state n place, 0 < place.depth → visit state n place = (state, .skip))

include hprunes

/-- A visitor that passes by everything below the top level sees nothing in a list there. -/
theorem walkList_of_prunes {depth : Nat} (hdepth : 0 < depth) (index : Nat) (ns : List Node)
    (state : σ) : walkList visit depth index ns ⟨state, false⟩ = ⟨state, false⟩ := by
  induction ns generalizing index with
  | nil => rw [walkList]
  | cons n ns ih => rw [walkList, walkStatement_of_skip (hprunes _ _ _ hdepth), ih]

/-- Nor does it in several lists. -/
theorem walkLists_of_prunes {depth : Nat} (hdepth : 0 < depth) (lists : List (List Node))
    (state : σ) : walkLists visit depth lists ⟨state, false⟩ = ⟨state, false⟩ := by
  induction lists with
  | nil => rw [walkLists]
  | cons l ls ih => rw [walkLists, walkList_of_prunes hprunes hdepth, ih]

/-- At the top level it takes each statement once, if it never ends the walk. -/
theorem walkBody_of_prunes {step : σ → Node → σ}
    (hstep : ∀ state n index, visit state n ⟨0, index⟩ = (step state n, .enter))
    (index : Nat) (ns : List Node) (state : σ) :
    walkBody visit index ns ⟨state, false⟩ =
      ⟨(ns.filter (!·.isModuleDeclaration)).foldl step state, false⟩ := by
  induction ns generalizing index state with
  | nil => rfl
  | cons n ns ih =>
      rw [walkBody]
      by_cases hn : n.isModuleDeclaration = true
      · rw [if_pos hn, ih, List.filter_cons_of_neg (by simp [hn])]
      · rw [if_neg hn, walkStatement, if_neg Bool.false_ne_true]
        simp only [hstep]
        rw [walkLists_of_prunes hprunes (Nat.succ_pos _), ih,
          List.filter_cons_of_pos (by simp [hn]), List.foldl_cons]

/-- **Collecting.** A visitor that passes by everything below the top level, and never ends the
walk, folds over the statements of the body. -/
theorem Module.walk_fold {step : σ → Node → σ}
    (hstep : ∀ state n index, visit state n ⟨0, index⟩ = (step state n, .enter))
    (m : Module) (state : σ) :
    m.walk visit state = (m.body.filter (!·.isModuleDeclaration)).foldl step state := by
  rw [Module.walk, walkBody_of_prunes hprunes hstep]

end Prunes

end Looking

section Find

variable {p : Node → Bool} (hp : ∀ n, p n = true → n.isModuleDeclaration = false)

include hp

/-- A search among the statements of a body from an index on. -/
theorem walkBody_find (index : Nat) (ns : List Node) :
    (walkBody (fun found n place => if p n then (some place.index, .exit) else (found, .skip))
      index ns ⟨none, false⟩).state = (ns.findIdx? p).map (· + index) := by
  induction ns generalizing index with
  | nil => rfl
  | cons n ns ih =>
      rw [walkBody, List.findIdx?_cons]
      by_cases hn : p n = true
      · rw [hp n hn, if_neg Bool.false_ne_true, walkStatement_of_exit (if_pos hn),
          walkBody_of_isOver rfl, if_pos hn, Option.map_some, Nat.zero_add]
      · have hskip : walkStatement (fun found n place =>
            if p n then (some place.index, Control.exit) else (found, .skip))
            ⟨0, index⟩ n ⟨none, false⟩ = ⟨none, false⟩ := walkStatement_of_skip (if_neg hn)
        rw [hskip, ite_self, ih, if_neg hn, Option.map_map]
        congr 1
        funext i
        exact (Nat.succ_add_eq_add_succ i index).symm

/-- **Searching.** A visitor that ends the walk at the first statement with some property leaves
its index in the body. -/
theorem Module.walk_find (m : Module) :
    m.walk (fun found n place => if p n then (some place.index, .exit) else (found, .skip)) none =
      m.body.findIdx? p := by
  rw [Module.walk, walkBody_find hp]
  simp only [Nat.add_zero, Option.map_id']

end Find

/-! ### One edit -/

/-- Replace the first item of a list that can be replaced. Comes with what the replacement tells. -/
def editFirst? {α β : Type} (f : α → Option (β × α)) : List α → Option (β × List α)
  | [] => none
  | a :: l =>
    match f a with
    | some (b, a') => some (b, a' :: l)
    | none => (editFirst? f l).map fun (b, l') => (b, a :: l')

section EditFirst

variable {α β : Type} {f : α → Option (β × α)}

/-- The first item is replaced if it can be. -/
theorem editFirst?_cons_of_some {a a' : α} {b : β} (h : f a = some (b, a')) (l : List α) :
    editFirst? f (a :: l) = some (b, a' :: l) := by
  simp only [editFirst?, h]

/-- An item that cannot be replaced is passed by. -/
theorem editFirst?_cons_of_none {a : α} (h : f a = none) (l : List α) :
    editFirst? f (a :: l) = (editFirst? f l).map (Prod.map id (a :: ·)) := by
  simp only [editFirst?, h]
  rfl

/-- **One edit**: some item is replaced, none in front of it could be, and all others stay. -/
theorem editFirst?_eq_some_iff {l l' : List α} {b : β} :
    editFirst? f l = some (b, l') ↔
      ∃ before a a' after, l = before ++ a :: after ∧ l' = before ++ a' :: after ∧
        f a = some (b, a') ∧ ∀ x ∈ before, f x = none := by
  induction l generalizing l' with
  | nil =>
      constructor
      · intro h
        cases h
      · rintro ⟨before, a, a', after, hl, -⟩
        cases before <;> cases hl
  | cons x l ih =>
      cases hx : f x with
      | some r =>
          rw [editFirst?_cons_of_some hx]
          constructor
          · intro h
            obtain ⟨rfl, rfl⟩ := Prod.mk.inj (Option.some.inj h)
            exact ⟨[], x, r.2, l, rfl, rfl, hx, by simp⟩
          · rintro ⟨before, a, a', after, hl, rfl, ha, hbefore⟩
            cases before with
            | nil =>
                obtain ⟨rfl, rfl⟩ := List.cons.inj hl
                rw [hx] at ha
                rw [Option.some.inj ha]
                rfl
            | cons y before =>
                obtain ⟨rfl, -⟩ := List.cons.inj hl
                rw [hbefore x List.mem_cons_self] at hx
                cases hx
      | none =>
          rw [editFirst?_cons_of_none hx, Option.map_eq_some_iff]
          constructor
          · rintro ⟨⟨b', m⟩, hm, heq⟩
            obtain ⟨rfl, rfl⟩ := Prod.mk.inj heq
            obtain ⟨before, a, a', after, rfl, rfl, ha, hbefore⟩ := ih.1 hm
            refine ⟨x :: before, a, a', after, rfl, rfl, ha, ?_⟩
            intro y hy
            obtain rfl | hy := List.mem_cons.1 hy
            · exact hx
            · exact hbefore y hy
          · rintro ⟨before, a, a', after, hl, rfl, ha, hbefore⟩
            cases before with
            | nil =>
                obtain ⟨rfl, -⟩ := List.cons.inj hl
                rw [hx] at ha
                cases ha
            | cons y before =>
                obtain ⟨rfl, rfl⟩ := List.cons.inj hl
                have hm := ih.2 ⟨before, a, a', after, rfl, rfl, ha,
                  fun z hz => hbefore z (List.mem_cons_of_mem _ hz)⟩
                exact ⟨_, hm, rfl⟩

/-- One edit in a list with items in front that cannot be replaced. -/
theorem editFirst?_append {before : List α} (h : ∀ x ∈ before, f x = none) (l : List α) :
    editFirst? f (before ++ l) = (editFirst? f l).map (Prod.map id (before ++ ·)) := by
  induction before with
  | nil => exact (congrFun Option.map_id (editFirst? f l)).symm
  | cons a before ih =>
      rw [List.cons_append, editFirst?_cons_of_none (h a List.mem_cons_self),
        ih fun x hx => h x (List.mem_cons_of_mem _ hx), Option.map_map]
      rfl

/-- One edit in a changed list, if the change of its items has nothing to do with their
replacement. -/
theorem editFirst?_map_of_mem {g : α → α} {l : List α}
    (h : ∀ a ∈ l, f (g a) = (f a).map (Prod.map id g)) :
    editFirst? f (l.map g) = (editFirst? f l).map (Prod.map id (List.map g)) := by
  induction l with
  | nil => rfl
  | cons a l ih =>
      rw [List.map_cons]
      have hga := h a List.mem_cons_self
      have hl := ih fun b hb => h b (List.mem_cons_of_mem a hb)
      cases ha : f a with
      | some r =>
          rw [ha] at hga
          rw [editFirst?_cons_of_some hga, editFirst?_cons_of_some ha]
          rfl
      | none =>
          rw [ha] at hga
          rw [editFirst?_cons_of_none hga, editFirst?_cons_of_none ha, hl, Option.map_map,
            Option.map_map]
          rfl

/-- The same for a change that never has to do with the replacement. -/
theorem editFirst?_map {g : α → α} (h : ∀ a, f (g a) = (f a).map (Prod.map id g)) (l : List α) :
    editFirst? f (l.map g) = (editFirst? f l).map (Prod.map id (List.map g)) :=
  editFirst?_map_of_mem fun a _ => h a

end EditFirst

/-! ### Editing -/

section Editing

variable {σ : Type} {f : Node → Option (σ × Node)}

/-- An edit that leaves the walk and every node as they are leaves the list. -/
theorem editEach_of_unchanged {g : Nat → Node → Walking σ → Walking σ × Node} {w : Walking σ}
    (h : ∀ index n, g index n w = (w, n)) (index : Nat) (ns : List Node) :
    editEach g index ns w = (w, ns) := by
  induction ns generalizing index with
  | nil => rfl
  | cons n ns ih => simp only [editEach, h, ih]

/-- An edit that ends the walk at the first node it can replace makes one edit in the list. -/
theorem editEach_first {g : Nat → Node → Walking σ → Walking σ × Node} {s : σ}
    (hsome : ∀ index n s' n', f n = some (s', n') → g index n ⟨s, false⟩ = (⟨s', true⟩, n'))
    (hnone : ∀ index n, f n = none → g index n ⟨s, false⟩ = (⟨s, false⟩, n))
    (hover : ∀ index n s', g index n ⟨s', true⟩ = (⟨s', true⟩, n)) (index : Nat) (ns : List Node) :
    editEach g index ns ⟨s, false⟩ =
      match editFirst? f ns with
      | some (s', ns') => (⟨s', true⟩, ns')
      | none => (⟨s, false⟩, ns) := by
  induction ns generalizing index with
  | nil => rfl
  | cons n ns ih =>
      cases hn : f n with
      | some r =>
          rw [editFirst?_cons_of_some hn]
          simp only [editEach, hsome index n r.1 r.2 hn,
            editEach_of_unchanged fun index n => hover index n r.1]
      | none =>
          rw [editFirst?_cons_of_none hn]
          simp only [editEach, hnone index n hn, ih]
          cases editFirst? f ns <;> rfl

/-- **Editing one statement.** A visitor that ends the walk at the first statement it can replace,
and passes by all others, makes one edit in the body. -/
theorem Module.editWalk_first {visit : σ → Node → Place → σ × Node × Control}
    (hf : ∀ n r, f n = some r → n.isModuleDeclaration = false)
    (hsome : ∀ s n place s' n', f n = some (s', n') → visit s n place = (s', n', .exit))
    (hnone : ∀ s n place, f n = none → visit s n place = (s, n, .skip))
    (levels : Nat) (m : Module) (s : σ) :
    m.editWalk visit levels s =
      match editFirst? f m.body with
      | some (s', body) => (s', { m with body })
      | none => (s, m) := by
  rw [Module.editWalk, editBody, editEach_first (f := f)]
  · cases editFirst? f m.body <;> rfl
  · intro index n s' n' hn
    rw [hf n _ hn, if_neg Bool.false_ne_true, editStatement, if_neg Bool.false_ne_true]
    simp only [hsome _ _ _ _ _ hn]
  · intro index n hn
    rw [editStatement, if_neg Bool.false_ne_true]
    simp only [hnone _ _ _ hn, ite_self]
  · intro index n s'
    rw [editStatement, if_pos rfl, ite_self]

end Editing

end HostProps
