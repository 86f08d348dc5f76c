import HostProps.Proofs.Held

/-!
# What Editing leaves

Editing a statement replaces the statements that it holds, one after the other, and leaves all else
of it. Here the first half is told by what is held (`Node.held`), and the second by the *frame* of a
statement, which is what is left of it with `;` in place of each statement that it holds. The two
together make up a statement (`Node.eq_of_frame`), so an edit is known by what it does to what is
held.

A part that is a statement must stay one, since a missing part holds nothing.

## Main results

* `Node.editHeld_held`: an edit goes by what is held.
* `Node.frame_editStatements`: it leaves the frame.
* `Node.eq_of_frame`: a statement is its frame and what it holds.
* `editHeld_bodyHeld`, `getElem?_editItem_iff`: what an edit does to a body.
* `eq_of_bodyHeld`: a body is known by its length, its declarations about modules, and what it
  holds.
-/

namespace HostProps

/-! ### Editing statements one after the other -/

section EditHeld

variable {σ : Type} (f : Nat → Node → Walking σ → Walking σ × Node)

/-- Edit some statements from first to last; `f` is told the index of each. -/
def editHeld : List (Step × Node) → Walking σ → Walking σ × List (Step × Node)
  | [], w => (w, [])
  | (step, n) :: held, w =>
    let (w, n) := f step.index n w
    let (w, held) := editHeld held w
    (w, (step, n) :: held)

/-- Editing keeps what is there: what was not missing is not missing after it. -/
def KeepsPresent : Prop :=
  ∀ index n w, n.isAbsent = false → (f index n w).2.isAbsent = false

/-- The statements of a list, with their steps. -/
def listHeld (part entry index : Nat) (ns : List Node) : List (Step × Node) :=
  (ns.zipIdx index).map fun (n, index) => (⟨part, entry, index⟩, n)

/-- Some statements are edited after others. -/
theorem editHeld_append (held more : List (Step × Node)) (w : Walking σ) :
    editHeld f (held ++ more) w =
      ((editHeld f more (editHeld f held w).1).1,
        (editHeld f held w).2 ++ (editHeld f more (editHeld f held w).1).2) := by
  induction held generalizing w with
  | nil => rfl
  | cons e held ih => simp only [List.cons_append, editHeld, ih]

/-- The statements of a list are edited in place. -/
theorem editHeld_listHeld (part entry index : Nat) (ns : List Node) (w : Walking σ) :
    editHeld f (listHeld part entry index ns) w =
      ((editEach f index ns w).1, listHeld part entry index (editEach f index ns w).2) := by
  induction ns generalizing index w with
  | nil => rfl
  | cons n ns ih =>
      have hcons : listHeld part entry index (n :: ns) =
          (⟨part, entry, index⟩, n) :: listHeld part entry (index + 1) ns := rfl
      simp only [hcons, editHeld, ih, editEach]
      rfl

namespace Node

variable (n : Node) (w : Walking σ)

/-- Editing a list edits its items. -/
theorem editEach_items :
    editEach f 0 n.items w = ((n.editItems f w).1, (n.editItems f w).2.items) := by
  rw [editItems.eq_def]
  split
  · rfl
  · rename_i hn
    rw [items.eq_def]
    split
    · exact absurd rfl (hn _)
    · rfl

/-- Editing a block edits its statements. -/
theorem editEach_blockStatements :
    editEach f 0 n.blockStatements w =
      ((n.editBlock f w).1, (n.editBlock f w).2.blockStatements) := by
  rw [editBlock.eq_def]
  split
  · exact editEach_items f _ w
  · rename_i hn
    rw [blockStatements.eq_def]
    split
    · exact absurd rfl (hn _ _)
    · rfl

/-- Editing a case edits its statements. -/
theorem editEach_caseStatements :
    editEach f 0 n.caseStatements w = ((n.editCase f w).1, (n.editCase f w).2.caseStatements) := by
  rw [editCase.eq_def]
  split
  · exact editEach_items f _ w
  · rename_i hn
    rw [caseStatements.eq_def]
    split
    · exact absurd rfl (hn _ _ _)
    · rfl

/-- Editing a handler edits its statements. -/
theorem editEach_handlerStatements :
    editEach f 0 n.handlerStatements w =
      ((n.editHandler f w).1, (n.editHandler f w).2.handlerStatements) := by
  rw [editHandler.eq_def]
  split
  · exact editEach_blockStatements f _ w
  · rename_i hn
    rw [handlerStatements.eq_def]
    split
    · exact absurd rfl (hn _ _ _)
    · rfl

end Node

/-! ### Parts and statements -/

/-- The statements that a site finds in a part, with their steps. -/
def Site.held (site : Site) (k : Nat) (part : Node) : List (Step × Node) :=
  (site.lists part).zipIdx.flatMap fun (l, entry) => listHeld k entry 0 l

namespace Site

/-- What is held in a part with one list of statements, which is empty if the part is missing. -/
theorem held_of_statements {site : Site} {statements : Node → List Node}
    (h : ∀ part, site.lists part = if part.isAbsent then [] else [statements part])
    (habsent : ∀ ps, statements (.mk .absent ps) = []) (k : Nat) (part : Node) :
    site.held k part = listHeld k 0 0 (statements part) := by
  rw [held, h, Node.isAbsent.eq_def]
  split
  · rw [habsent]
    rfl
  · exact List.flatMap_singleton _ _

/-- What is held in a part that is a list of cases. -/
theorem held_cases (k : Nat) (part : Node) :
    cases.held k part =
      (part.items.zipIdx).flatMap fun (c, entry) => listHeld k entry 0 c.caseStatements := by
  rw [held, lists_cases, List.zipIdx_map, List.flatMap_map]
  rfl

variable {f}

/-- Editing a part that is missing leaves it. -/
theorem edit_of_isAbsent (site : Site) {part : Node} (h : part.isAbsent = true) (w : Walking σ) :
    site.edit f part w = (w, part) := by
  rw [edit.eq_def, if_pos h]

/-- Editing cases edits their statements, one case after the other. -/
theorem editHeld_cases (k entry : Nat) (cs : List Node) (w : Walking σ) :
    editHeld f ((cs.zipIdx entry).flatMap fun (c, entry) =>
        listHeld k entry 0 c.caseStatements) w =
      ((editEach (fun _ c w => c.editCase f w) entry cs w).1,
        ((editEach (fun _ c w => c.editCase f w) entry cs w).2.zipIdx entry).flatMap
          fun (c, entry) => listHeld k entry 0 c.caseStatements) := by
  induction cs generalizing entry w with
  | nil => rfl
  | cons c cs ih =>
      rw [List.zipIdx_cons, List.flatMap_cons, editHeld_append, editHeld_listHeld,
        Node.editEach_caseStatements, ih]
      rfl

/-- **An edit of a part goes by what it holds.** -/
theorem editHeld_held (hf : KeepsPresent f) (site : Site) (k : Nat) (part : Node) (w : Walking σ) :
    editHeld f (site.held k part) w =
      ((site.edit f part w).1, site.held k (site.edit f part w).2) := by
  by_cases habsent : part.isAbsent = true
  · rw [edit_of_isAbsent site habsent, held, lists.eq_def, if_pos habsent]
    rfl
  · rw [edit.eq_def, if_neg habsent]
    cases site with
    | inert =>
        rw [held, lists, ite_self]
        rfl
    | statement =>
        have hpart : part.isAbsent = false := Bool.eq_false_iff.2 habsent
        rw [held, held, lists, lists, if_neg habsent, if_neg (by simp [hf 0 part w hpart])]
        rfl
    | statements =>
        rw [held_of_statements (fun _ => rfl) fun _ => rfl, editHeld_listHeld, Node.editEach_items,
          held_of_statements (fun _ => rfl) fun _ => rfl]
    | block =>
        rw [held_of_statements (fun _ => rfl) fun _ => rfl, editHeld_listHeld,
          Node.editEach_blockStatements, held_of_statements (fun _ => rfl) fun _ => rfl]
    | handler =>
        rw [held_of_statements (fun _ => rfl) fun _ => rfl, editHeld_listHeld,
          Node.editEach_handlerStatements, held_of_statements (fun _ => rfl) fun _ => rfl]
    | cases =>
        rw [held_cases, held_cases, editHeld_cases, Node.editEach_items]

/-- An edit of several parts goes by what they hold. -/
theorem editHeld_heldParts (hf : KeepsPresent f) (k : Nat) (sites : List Site) (ps : List Node)
    (w : Walking σ) :
    editHeld f (((sites.zip ps).zipIdx k).flatMap fun (holder, part) =>
        holder.1.held part holder.2) w =
      ((editParts f sites ps w).1,
        ((sites.zip (editParts f sites ps w).2).zipIdx k).flatMap fun (holder, part) =>
          holder.1.held part holder.2) := by
  induction sites generalizing k ps w with
  | nil => rfl
  | cons site sites ih =>
      cases ps with
      | nil => rfl
      | cons p ps =>
          rw [List.zip_cons_cons, List.zipIdx_cons, List.flatMap_cons, editHeld_append,
            editHeld_held hf, ih]
          rfl

end Site

/-- **An edit of a statement goes by what it holds.** -/
theorem Node.editHeld_held {f : Nat → Node → Walking σ → Walking σ × Node} (hf : KeepsPresent f)
    (n : Node) (w : Walking σ) :
    editHeld f n.held w = ((n.editStatements f w).1, (n.editStatements f w).2.held) := by
  cases n with
  | mk h ps => exact Site.editHeld_heldParts hf 0 h.sites ps w

end EditHeld

/-! ### What is left of a statement without those in it -/

namespace Node

/-- An empty statement, in place of another one. -/
def blank : Node := plain .empty .generated []

/-- A list, with its items blank. -/
def frameItems : Node → Node
  | mk .sequence ps => list (ps.map fun _ => blank)
  | n => n

/-- A block, with its statements blank. -/
def frameBlock : Node → Node
  | plain .block o [statements] => plain .block o [statements.frameItems]
  | n => n

/-- A case, with its statements blank. -/
def frameCase : Node → Node
  | plain .switchCase o [test, statements] => plain .switchCase o [test, statements.frameItems]
  | n => n

/-- A list of cases, with their statements blank. -/
def frameCases : Node → Node
  | mk .sequence cs => list (cs.map frameCase)
  | n => n

/-- A handler, with its statements blank. -/
def frameHandler : Node → Node
  | plain .catchClause o [param, block] => plain .catchClause o [param, block.frameBlock]
  | n => n

end Node

/-- A part, with the statements blank that a site finds in it. -/
def Site.frame : Site → Node → Node
  | inert, part => part
  | statement, part => if part.isAbsent then part else Node.blank
  | statements, part => part.frameItems
  | block, part => part.frameBlock
  | cases, part => part.frameCases
  | handler, part => part.frameHandler

/-- **The frame of a statement**: all of it but the statements that it holds, which are blank. -/
def Node.frame : Node → Node
  | mk h ps => mk h (ps.mapIdx fun k p => (h.sites.getD k .inert).frame p)

section Frame

variable {σ : Type} (f : Nat → Node → Walking σ → Walking σ × Node)

/-- Editing a list keeps its length. -/
theorem length_editEach (index : Nat) (ns : List Node) (w : Walking σ) :
    (editEach f index ns w).2.length = ns.length := by
  induction ns generalizing index w with
  | nil => rfl
  | cons n ns ih => simp only [editEach, List.length_cons, ih]

namespace Node

variable (n : Node) (w : Walking σ)

/-- Editing a list leaves its frame. -/
theorem frameItems_editItems : (n.editItems f w).2.frameItems = n.frameItems := by
  rw [editItems.eq_def]
  split
  · simp only [frameItems, List.map_const', length_editEach]
  · rfl

/-- Editing a block leaves its frame. -/
theorem frameBlock_editBlock : (n.editBlock f w).2.frameBlock = n.frameBlock := by
  rw [editBlock.eq_def]
  split
  · simp only [frameBlock, frameItems_editItems]
  · rfl

/-- Editing a case leaves its frame. -/
theorem frameCase_editCase : (n.editCase f w).2.frameCase = n.frameCase := by
  rw [editCase.eq_def]
  split
  · simp only [frameCase, frameItems_editItems]
  · rfl

/-- Editing cases leaves their frames. -/
theorem map_frameCase_editEach (index : Nat) (cs : List Node) (w : Walking σ) :
    (editEach (fun _ c w => c.editCase f w) index cs w).2.map frameCase = cs.map frameCase := by
  induction cs generalizing index w with
  | nil => rfl
  | cons c cs ih => simp only [editEach, List.map_cons, frameCase_editCase, ih]

/-- Editing a handler leaves its frame. -/
theorem frameHandler_editHandler : (n.editHandler f w).2.frameHandler = n.frameHandler := by
  rw [editHandler.eq_def]
  split
  · simp only [frameHandler, frameBlock_editBlock]
  · rfl

end Node

variable {f}

/-- Editing a part leaves its frame. -/
theorem Site.frame_edit (hf : KeepsPresent f) (site : Site) (part : Node) (w : Walking σ) :
    site.frame (site.edit f part w).2 = site.frame part := by
  by_cases habsent : part.isAbsent = true
  · rw [edit_of_isAbsent site habsent]
  · rw [edit.eq_def, if_neg habsent]
    cases site with
    | inert => rfl
    | statement =>
        have hpart : part.isAbsent = false := Bool.eq_false_iff.2 habsent
        rw [frame, frame, if_neg habsent, if_neg (by simp [hf 0 part w hpart])]
    | statements => exact part.frameItems_editItems f w
    | block => exact part.frameBlock_editBlock f w
    | handler => exact part.frameHandler_editHandler f w
    | cases =>
        show (part.editItems _ w).2.frameCases = part.frameCases
        rw [Node.editItems.eq_def]
        split
        · simp only [Node.frameCases, Node.list, Node.map_frameCase_editEach]
        · rfl

/-- Editing several parts leaves their frames. -/
theorem Site.frame_editParts (hf : KeepsPresent f) (sites : List Site) (ps : List Node)
    (w : Walking σ) :
    (editParts f sites ps w).2.mapIdx (fun k p => (sites.getD k .inert).frame p) =
      ps.mapIdx fun k p => (sites.getD k .inert).frame p := by
  induction sites generalizing ps w with
  | nil => rfl
  | cons site sites ih =>
      cases ps with
      | nil => rfl
      | cons p ps =>
          simp only [editParts, List.mapIdx_cons, List.getD_cons_zero, List.getD_cons_succ,
            frame_edit hf, ih]

/-- **An edit of a statement leaves its frame.** -/
theorem Node.frame_editStatements (hf : KeepsPresent f) (n : Node) (w : Walking σ) :
    (n.editStatements f w).2.frame = n.frame := by
  cases n with
  | mk h ps => exact congrArg (mk h) (Site.frame_editParts hf h.sites ps w)

end Frame

/-! ### A statement is its frame and what it holds -/

/-- Lists with the same items are the same. -/
theorem eq_of_getElem?_eq_some_iff {α : Type} {l l' : List α}
    (h : ∀ (index : Nat) (a : α), l[index]? = some a ↔ l'[index]? = some a) : l = l' :=
  List.ext_getElem? fun index => Option.ext fun a => h index a

namespace Node

variable {n n' : Node}

/-- A list is its frame and its items. -/
theorem eq_of_frameItems (hframe : n.frameItems = n'.frameItems) (hitems : n.items = n'.items) :
    n = n' := by
  rw [frameItems.eq_def, frameItems.eq_def] at hframe
  split at hframe
  · split at hframe
    · exact congrArg list hitems
    · rename_i hn'
      exact absurd hframe.symm (hn' _)
  · rename_i hn
    split at hframe
    · exact absurd hframe (hn _)
    · exact hframe

/-- A block is its frame and its statements. -/
theorem eq_of_frameBlock (hframe : n.frameBlock = n'.frameBlock)
    (hstatements : n.blockStatements = n'.blockStatements) : n = n' := by
  rw [frameBlock.eq_def, frameBlock.eq_def] at hframe
  split at hframe
  · split at hframe
    · rw [plain, plain, mk.injEq, Head.plain.injEq, List.cons.injEq] at hframe
      obtain ⟨⟨-, rfl⟩, hitems, -⟩ := hframe
      rw [eq_of_frameItems hitems hstatements]
    · rename_i hn'
      exact absurd hframe.symm (hn' _ _)
  · rename_i hn
    split at hframe
    · exact absurd hframe (hn _ _)
    · exact hframe

/-- A case is its frame and its statements. -/
theorem eq_of_frameCase (hframe : n.frameCase = n'.frameCase)
    (hstatements : n.caseStatements = n'.caseStatements) : n = n' := by
  rw [frameCase.eq_def, frameCase.eq_def] at hframe
  split at hframe
  · split at hframe
    · rw [plain, plain, mk.injEq, Head.plain.injEq, List.cons.injEq, List.cons.injEq] at hframe
      obtain ⟨⟨-, rfl⟩, rfl, hitems, -⟩ := hframe
      rw [eq_of_frameItems hitems hstatements]
    · rename_i hn'
      exact absurd hframe.symm (hn' _ _ _)
  · rename_i hn
    split at hframe
    · exact absurd hframe (hn _ _ _)
    · exact hframe

/-- A handler is its frame and its statements. -/
theorem eq_of_frameHandler (hframe : n.frameHandler = n'.frameHandler)
    (hstatements : n.handlerStatements = n'.handlerStatements) : n = n' := by
  rw [frameHandler.eq_def, frameHandler.eq_def] at hframe
  split at hframe
  · split at hframe
    · rw [plain, plain, mk.injEq, Head.plain.injEq, List.cons.injEq, List.cons.injEq] at hframe
      obtain ⟨⟨-, rfl⟩, rfl, hblock, -⟩ := hframe
      rw [eq_of_frameBlock hblock hstatements]
    · rename_i hn'
      exact absurd hframe.symm (hn' _ _ _)
  · rename_i hn
    split at hframe
    · exact absurd hframe (hn _ _ _)
    · exact hframe

end Node

namespace Site

variable {site : Site} {p q : Node}

/-- Parts with one list of statements, in which the same is found. -/
theorem statements_eq_of_finds {statements : Node → List Node}
    (h : ∀ part, site.lists part = if part.isAbsent then [] else [statements part])
    (habsent : ∀ ps, statements (.mk .absent ps) = [])
    (hfinds : ∀ entry index n, site.Finds p entry index n ↔ site.Finds q entry index n) :
    statements p = statements q := by
  refine eq_of_getElem?_eq_some_iff fun index n => ?_
  have hindex := hfinds 0 index n
  rwa [finds_iff_of_statements (h p) habsent, finds_iff_of_statements (h q) habsent,
    and_iff_right rfl, and_iff_right rfl] at hindex

/-- What is found among some cases. -/
theorem finds_cases_iff_getElem? {n : Node} {entry index : Nat} :
    cases.Finds p entry index n ↔
      ∃ c, p.items[entry]? = some c ∧ c.caseStatements[index]? = some n := by
  simp only [Finds, lists_cases, List.getElem?_map, Option.map_eq_some_iff]
  constructor
  · rintro ⟨_, ⟨c, hc, rfl⟩, hn⟩
    exact ⟨c, hc, hn⟩
  · rintro ⟨c, hc, hn⟩
    exact ⟨_, ⟨c, hc, rfl⟩, hn⟩

/-- Lists of cases with the same frames, in which the same is found. -/
theorem items_eq_of_finds_cases
    (hframes : p.items.map Node.frameCase = q.items.map Node.frameCase)
    (hfinds : ∀ entry index n, cases.Finds p entry index n ↔ cases.Finds q entry index n) :
    p.items = q.items := by
  refine List.ext_getElem? fun entry => ?_
  have hframe := congrArg (·[entry]?) hframes
  simp only [List.getElem?_map] at hframe
  cases hp : p.items[entry]? with
  | none =>
      rw [hp, Option.map_none, eq_comm, Option.map_eq_none_iff] at hframe
      exact hframe.symm
  | some c =>
      rw [hp, Option.map_some, eq_comm, Option.map_eq_some_iff] at hframe
      obtain ⟨d, hq, hcases⟩ := hframe
      have hstatements : c.caseStatements = d.caseStatements := by
        refine eq_of_getElem?_eq_some_iff fun index n => ?_
        have hindex := hfinds entry index n
        simpa only [finds_cases_iff_getElem?, hp, hq, Option.some.injEq, exists_eq_left']
          using hindex
      rw [hq, Node.eq_of_frameCase hcases.symm hstatements]

/-- **A part is its frame and what a site finds in it.** -/
theorem eq_of_frame (hframe : site.frame p = site.frame q)
    (hfinds : ∀ entry index n, site.Finds p entry index n ↔ site.Finds q entry index n) :
    p = q := by
  cases site with
  | inert => exact hframe
  | statement =>
      rw [frame, frame] at hframe
      by_cases hp : p.isAbsent = true
      · rw [if_pos hp] at hframe
        split at hframe
        · exact hframe
        · rw [hframe] at hp
          cases hp
      · have hself : statement.Finds p 0 0 p :=
          finds_statement_iff.2 ⟨rfl, rfl, rfl, Bool.eq_false_iff.2 hp⟩
        obtain ⟨-, -, rfl, -⟩ := finds_statement_iff.1 ((hfinds 0 0 p).1 hself)
        rfl
  | statements =>
      exact Node.eq_of_frameItems hframe
        (statements_eq_of_finds (fun _ => rfl) (fun _ => rfl) hfinds)
  | block =>
      exact Node.eq_of_frameBlock hframe
        (statements_eq_of_finds (fun _ => rfl) (fun _ => rfl) hfinds)
  | handler =>
      exact Node.eq_of_frameHandler hframe
        (statements_eq_of_finds (fun _ => rfl) (fun _ => rfl) hfinds)
  | cases =>
      rw [frame, frame, Node.frameCases.eq_def, Node.frameCases.eq_def] at hframe
      split at hframe
      · split at hframe
        · rename_i cs _ ds
          have hitems : cs = ds :=
            items_eq_of_finds_cases (p := .list cs) (q := .list ds) (Node.mk.inj hframe).2 hfinds
          exact congrArg Node.list hitems
        · rename_i hq
          exact absurd hframe.symm (hq _)
      · rename_i hp
        split at hframe
        · exact absurd hframe (hp _)
        · exact hframe

end Site

namespace Node

/-- **A statement is its frame and what it holds.** -/
theorem eq_of_frame {n n' : Node} (hframe : n.frame = n'.frame) (hheld : n.held = n'.held) :
    n = n' := by
  obtain ⟨h, ps⟩ := n
  obtain ⟨h', qs⟩ := n'
  obtain ⟨rfl, hparts⟩ := mk.inj hframe
  have hfinds : ∀ step k, (mk h ps).Finds step k ↔ (mk h qs).Finds step k := by
    intro step k
    rw [← holds_iff_finds, ← holds_iff_finds, ← mem_held_iff, ← mem_held_iff, hheld]
  refine congrArg (mk h) (List.ext_getElem? fun k => ?_)
  have hpart := congrArg (·[k]?) hparts
  simp only [List.getElem?_mapIdx] at hpart
  cases hp : ps[k]? with
  | none =>
      rw [hp, Option.map_none, eq_comm, Option.map_eq_none_iff] at hpart
      exact hpart.symm
  | some p =>
      rw [hp, Option.map_some, eq_comm, Option.map_eq_some_iff] at hpart
      obtain ⟨q, hq, hframe⟩ := hpart
      rw [hq]
      refine congrArg some (Site.eq_of_frame hframe.symm fun entry index m => ?_)
      cases hsite : h.sites[k]? with
      | none =>
          rw [List.getD_eq_getElem?_getD, hsite, Option.getD_none]
          exact iff_of_false Site.not_finds_inert Site.not_finds_inert
      | some site =>
          have hstep := hfinds ⟨k, entry, index⟩ m
          rw [List.getD_eq_getElem?_getD, hsite, Option.getD_some]
          simpa only [Finds, head_mk, parts_mk, hsite, hp, hq, Option.some.injEq, exists_and_left,
            exists_eq_left'] using hstep

/-- Edits that leave the same of what is held leave the same statement. -/
theorem editStatements_snd_eq {σ τ : Type} {f : Nat → Node → Walking σ → Walking σ × Node}
    {g : Nat → Node → Walking τ → Walking τ × Node} (hf : KeepsPresent f) (hg : KeepsPresent g)
    {n : Node} {w : Walking σ} {w' : Walking τ}
    (h : (editHeld f n.held w).2 = (editHeld g n.held w').2) :
    (n.editStatements f w).2 = (n.editStatements g w').2 := by
  rw [n.editHeld_held hf, n.editHeld_held hg] at h
  refine eq_of_frame ?_ h
  rw [n.frame_editStatements hf, n.frame_editStatements hg]

end Node

/-! ### Bodies -/

section Bodies

variable {σ : Type} {f : Nat → Node → Walking σ → Walking σ × Node}

/-- Edit an item of a body, unless it is a declaration about modules. -/
def editItem (f : Nat → Node → Walking σ → Walking σ × Node) (index : Nat) (n : Node)
    (w : Walking σ) : Walking σ × Node :=
  if n.isModuleDeclaration then (w, n) else f index n w

/-- Editing keeps statements: what was no declaration about modules is none after it. -/
def KeepsStatements (f : Nat → Node → Walking σ → Walking σ × Node) : Prop :=
  ∀ index n w, n.isModuleDeclaration = false → (f index n w).2.isModuleDeclaration = false

/-- The statements of a body from an index on, with their steps. -/
def bodyHeld (index : Nat) (ns : List Node) : List (Step × Node) :=
  ((ns.zipIdx index).filter (!·.1.isModuleDeclaration)).map fun (n, index) => (⟨0, 0, index⟩, n)

/-- **An edit of a body goes by what it holds.** -/
theorem editHeld_bodyHeld (hf : KeepsStatements f) (index : Nat) (ns : List Node) (w : Walking σ) :
    editHeld f (bodyHeld index ns) w =
      ((editEach (editItem f) index ns w).1,
        bodyHeld index (editEach (editItem f) index ns w).2) := by
  induction ns generalizing index w with
  | nil => rfl
  | cons n ns ih =>
      have hcons : ∀ n ns, bodyHeld index (n :: ns) =
          if n.isModuleDeclaration then bodyHeld (index + 1) ns
          else (⟨0, 0, index⟩, n) :: bodyHeld (index + 1) ns := by
        intro n ns
        rw [bodyHeld, List.zipIdx_cons, List.filter_cons]
        cases n.isModuleDeclaration <;> rfl
      cases hn : n.isModuleDeclaration with
      | true =>
          simp only [editEach, editItem, hcons, hn, if_true, ih]
      | false =>
          simp only [editEach, editItem, hcons, hn, hf index n w hn, if_false,
            Bool.false_eq_true, editHeld, ih]

/-- **An edit of a body leaves the declarations about modules**, and makes no new ones. -/
theorem getElem?_editItem_iff (hf : KeepsStatements f) {index k : Nat} {ns : List Node} {n : Node}
    (hn : n.isModuleDeclaration = true) (w : Walking σ) :
    (editEach (editItem f) index ns w).2[k]? = some n ↔ ns[k]? = some n := by
  induction ns generalizing index k w with
  | nil => rfl
  | cons m ns ih =>
      cases k with
      | succ k => exact ih _
      | zero =>
          simp only [editEach, List.getElem?_cons_zero, Option.some.injEq, editItem]
          split
          · rfl
          · rename_i hm
            refine iff_of_false ?_ ?_
            · rintro rfl
              rw [hf index m w (Bool.eq_false_iff.2 hm)] at hn
              cases hn
            · rintro rfl
              exact hm hn

/-- A body is known by its length, its declarations about modules, and what it holds. -/
theorem eq_of_bodyHeld {ns ns' : List Node} (hlength : ns'.length = ns.length)
    (hdeclarations : ∀ (k : Nat) (n : Node), ns[k]? = some n → n.isModuleDeclaration = true →
      ns'[k]? = some n)
    (hheld : bodyHeld 0 ns' = bodyHeld 0 ns) : ns' = ns := by
  have hmem : ∀ (body : List Node) (k : Nat) (n : Node),
      (⟨0, 0, k⟩, n) ∈ bodyHeld 0 body ↔ body[k]? = some n ∧ n.isModuleDeclaration = false := by
    intro body k n
    rw [show bodyHeld 0 body = Module.held ⟨Span.dummy, body, none⟩ from rfl, Module.mem_held_iff]
    simp
  refine List.ext_getElem? fun k => ?_
  cases hk : ns[k]? with
  | none =>
      rw [List.getElem?_eq_none_iff] at hk ⊢
      omega
  | some n =>
      cases hn : n.isModuleDeclaration with
      | true => exact hdeclarations k n hk hn
      | false => exact ((hmem ns' k n).1 (hheld ▸ (hmem ns k n).2 ⟨hk, hn⟩)).1

end Bodies

end HostProps
