import HostProps.Syntax.View

/-!
# Walking statements

Statements are visited from the outside in and from first to last, and the visitor says after each
one where to go next: into it, past it, or nowhere.  Expressions are not entered, so the bodies of
function expressions and classes are not walked, while those of function declarations are.

`Head.sites` says where the statements in a statement are.  `Module.walk` only looks at them;
`Module.editWalk` lets the visitor replace each statement it is given and then enters the
replacement.  Both carry a state of the visitor along.
-/

namespace HostProps

/-- Where to go after a visit. -/
inductive Control where
  /-- Into the statement. -/
  | enter
  /-- On to the statement after it. -/
  | skip
  /-- Nowhere: the walk is over. -/
  | exit
deriving DecidableEq, Inhabited, Repr

/-- Where a visited statement stands: in how many statements, and at which index of its list.  For
the body of a module the index counts module declarations too, though they are not visited. -/
structure Place where
  depth : Nat
  index : Nat
deriving DecidableEq, Inhabited, Repr

/-- A walk under way: the state of the visitor, and whether the walk is over. -/
structure Walking (σ : Type) where
  state : σ
  isOver : Bool

/-! ### Where statements are -/

/-- How a part of a statement holds statements.  A part that is missing holds none. -/
inductive Site where
  /-- Not at all. -/
  | inert
  /-- It is one, the only one of its list. -/
  | statement
  /-- It is a list of them. -/
  | statements
  /-- It is a block of them. -/
  | block
  /-- It is a list of cases, each with a list of them. -/
  | cases
  /-- It is the handler of a `try`, which has a block of them. -/
  | handler
deriving DecidableEq, Repr

/-- How the parts of a statement hold statements.  The branches of an `if`, the cases of a `switch`
and the blocks of a `try` are lists of their own. -/
def Head.sites : Head → List Site
  | plain .block _ => [.statements]
  | plain .ifStatement _ => [.inert, .statement, .statement]
  | plain .withStatement _ | plain .labeled _ | plain .whileStatement _ | plain .doWhile _ =>
    [.inert, .statement]
  | plain .forStatement _ => [.inert, .inert, .inert, .statement]
  | plain .forIn _ | forOf _ _ => [.inert, .inert, .statement]
  | plain .switchStatement _ => [.inert, .cases]
  | plain .tryStatement _ => [.block, .handler, .block]
  | function .declaration _ _ _ => [.inert, .inert, .inert, .block]
  | _ => []

namespace Node

/-- The statements of a block. -/
def blockStatements : Node → List Node
  | plain .block _ [statements] => statements.items
  | _ => []

/-- The statements after a case of a `switch`. -/
def caseStatements : Node → List Node
  | plain .switchCase _ [_, statements] => statements.items
  | _ => []

/-- The statements of the handler of a `try`. -/
def handlerStatements : Node → List Node
  | plain .catchClause _ [_, block] => block.blockStatements
  | _ => []

end Node

/-- The lists of statements that a part holds. -/
def Site.lists (site : Site) (part : Node) : List (List Node) :=
  if part.isAbsent then []
  else match site with
    | inert => []
    | statement => [[part]]
    | statements => [part.items]
    | block => [part.blockStatements]
    | cases => part.items.map Node.caseStatements
    | handler => [part.handlerStatements]

/-- The lists of statements that some parts hold. -/
def Site.listsOfParts : List Site → List Node → List (List Node)
  | site :: sites, part :: parts => site.lists part ++ listsOfParts sites parts
  | _, _ => []

/-- The lists of statements directly in a statement. -/
def Node.statementLists : Node → List (List Node)
  | mk h ps => Site.listsOfParts h.sites ps

/-! ### Size

The statements in a statement are together smaller than it, so walks end. -/

/-- The size of the nodes of a list, without the list itself. -/
noncomputable def Node.totalSize : List Node → Nat
  | [] => 0
  | n :: ns => sizeOf n + totalSize ns

/-- The size of the nodes of some lists, without the lists themselves. -/
noncomputable def Node.totalSizeOfLists : List (List Node) → Nat
  | [] => 0
  | l :: ls => totalSize l + totalSizeOfLists ls

namespace Node

@[simp] theorem totalSize_nil : totalSize [] = 0 := rfl

@[simp] theorem totalSize_cons (n : Node) (ns : List Node) :
    totalSize (n :: ns) = sizeOf n + totalSize ns := rfl

@[simp] theorem totalSizeOfLists_nil : totalSizeOfLists [] = 0 := rfl

@[simp] theorem totalSizeOfLists_cons (l : List Node) (ls : List (List Node)) :
    totalSizeOfLists (l :: ls) = totalSize l + totalSizeOfLists ls := rfl

theorem totalSizeOfLists_append (a b : List (List Node)) :
    totalSizeOfLists (a ++ b) = totalSizeOfLists a + totalSizeOfLists b := by
  induction a with
  | nil => simp
  | cons l ls ih => simp [ih, Nat.add_assoc]

theorem totalSize_lt_sizeOf (ns : List Node) : totalSize ns < sizeOf ns := by
  induction ns with
  | nil => simp
  | cons n ns ih => simp; omega

theorem totalSize_items_le (n : Node) : totalSize n.items ≤ sizeOf n := by
  unfold items
  split
  · rename_i ps
    have := totalSize_lt_sizeOf ps
    simp; omega
  · simp

theorem totalSize_blockStatements_le (n : Node) : totalSize n.blockStatements ≤ sizeOf n := by
  unfold blockStatements
  split
  · rename_i statements
    have := statements.totalSize_items_le
    simp; omega
  · simp

theorem totalSize_caseStatements_le (n : Node) : totalSize n.caseStatements ≤ sizeOf n := by
  unfold caseStatements
  split
  · rename_i statements
    have := statements.totalSize_items_le
    simp; omega
  · simp

theorem totalSize_handlerStatements_le (n : Node) : totalSize n.handlerStatements ≤ sizeOf n := by
  unfold handlerStatements
  split
  · rename_i block
    have := block.totalSize_blockStatements_le
    simp; omega
  · simp

theorem totalSizeOfLists_cases_le (cases : List Node) :
    totalSizeOfLists (cases.map caseStatements) ≤ totalSize cases := by
  induction cases with
  | nil => simp
  | cons c cs ih =>
    have := c.totalSize_caseStatements_le
    simp; omega

end Node

theorem Site.totalSizeOfLists_lists_le (site : Site) (part : Node) :
    Node.totalSizeOfLists (site.lists part) ≤ sizeOf part := by
  unfold Site.lists
  split
  · simp
  · cases site with
    | inert => simp
    | statement => simp
    | statements => simpa using part.totalSize_items_le
    | block => simpa using part.totalSize_blockStatements_le
    | handler => simpa using part.totalSize_handlerStatements_le
    | cases =>
      exact Nat.le_trans (Node.totalSizeOfLists_cases_le _) part.totalSize_items_le

theorem Site.totalSizeOfLists_listsOfParts_le (sites : List Site) (parts : List Node) :
    Node.totalSizeOfLists (listsOfParts sites parts) ≤ sizeOf parts := by
  induction sites generalizing parts with
  | nil => simp [listsOfParts]
  | cons site sites ih =>
    cases parts with
    | nil => simp [listsOfParts]
    | cons part parts =>
      have h₁ := site.totalSizeOfLists_lists_le part
      have h₂ := ih parts
      simp only [listsOfParts, Node.totalSizeOfLists_append, List.cons.sizeOf_spec]
      omega

/-- The statements in a statement are together smaller than it. -/
theorem Node.totalSizeOfLists_statementLists_lt (n : Node) :
    totalSizeOfLists n.statementLists < sizeOf n := by
  cases n with
  | mk h ps =>
    have := Site.totalSizeOfLists_listsOfParts_le h.sites ps
    simp only [statementLists, mk.sizeOf_spec]
    omega

/-! ### Looking -/

section Looking

variable {σ : Type} (visit : σ → Node → Place → σ × Control)

mutual

/-- Visit a statement, and those in it if the visitor says so. -/
def walkStatement (place : Place) (n : Node) (w : Walking σ) : Walking σ :=
  if w.isOver then w
  else
    match visit w.state n place with
    | (state, .exit) => ⟨state, true⟩
    | (state, .skip) => ⟨state, false⟩
    | (state, .enter) => walkLists (place.depth + 1) n.statementLists ⟨state, false⟩
termination_by (sizeOf n, 0)
decreasing_by exact Prod.Lex.left _ _ n.totalSizeOfLists_statementLists_lt

/-- Visit the statements of some lists. -/
def walkLists (depth : Nat) (lists : List (List Node)) (w : Walking σ) : Walking σ :=
  match lists with
  | [] => w
  | l :: ls => walkLists depth ls (walkList depth 0 l w)
termination_by (Node.totalSizeOfLists lists, sizeOf lists)
decreasing_by
  · have h : Node.totalSize l ≤ Node.totalSizeOfLists (l :: ls) := by simp
    rcases Nat.lt_or_eq_of_le h with h | h
    · exact Prod.Lex.left _ _ h
    · rw [h]; exact Prod.Lex.right _ (by simp only [List.cons.sizeOf_spec]; omega)
  · have h : Node.totalSizeOfLists ls ≤ Node.totalSizeOfLists (l :: ls) := by simp
    rcases Nat.lt_or_eq_of_le h with h | h
    · exact Prod.Lex.left _ _ h
    · rw [h]; exact Prod.Lex.right _ (by simp only [List.cons.sizeOf_spec]; omega)

/-- Visit the statements of a list, the first of which is at an index. -/
def walkList (depth index : Nat) (ns : List Node) (w : Walking σ) : Walking σ :=
  match ns with
  | [] => w
  | n :: ns => walkList depth (index + 1) ns (walkStatement ⟨depth, index⟩ n w)
termination_by (Node.totalSize ns, sizeOf ns)
decreasing_by
  · have h : sizeOf n ≤ Node.totalSize (n :: ns) := by simp
    rcases Nat.lt_or_eq_of_le h with h | h
    · exact Prod.Lex.left _ _ h
    · rw [h]; exact Prod.Lex.right _ (by simp only [List.cons.sizeOf_spec]; omega)
  · have h : Node.totalSize ns ≤ Node.totalSize (n :: ns) := by simp
    rcases Nat.lt_or_eq_of_le h with h | h
    · exact Prod.Lex.left _ _ h
    · rw [h]; exact Prod.Lex.right _ (by simp only [List.cons.sizeOf_spec]; omega)

end

/-- Visit the statements of the body of a module; declarations about modules are passed by. -/
def walkBody (index : Nat) : List Node → Walking σ → Walking σ
  | [], w => w
  | n :: ns, w =>
    walkBody (index + 1) ns
      (if n.isModuleDeclaration then w else walkStatement visit ⟨0, index⟩ n w)

/-- Visit the statements of a module; what is left is the last state of the visitor. -/
def Module.walk (m : Module) (state : σ) : σ :=
  (walkBody visit 0 m.body ⟨state, false⟩).state

end Looking

/-! ### Editing -/

section Editing

variable {σ : Type}

/-- Edit the nodes of a list from first to last; `f` is told the index of each. -/
def editEach (f : Nat → Node → Walking σ → Walking σ × Node) (index : Nat) :
    List Node → Walking σ → Walking σ × List Node
  | [], w => (w, [])
  | n :: ns, w =>
    let (w, n) := f index n w
    let (w, ns) := editEach f (index + 1) ns w
    (w, n :: ns)

variable (f : Nat → Node → Walking σ → Walking σ × Node)

/-- Edit the nodes of a part that is a list. -/
def Node.editItems : Node → Walking σ → Walking σ × Node
  | mk .sequence ps, w =>
    let (w, ps) := editEach f 0 ps w
    (w, list ps)
  | n, w => (w, n)

/-- Edit the statements of a block. -/
def Node.editBlock : Node → Walking σ → Walking σ × Node
  | plain .block o [statements], w =>
    let (w, statements) := statements.editItems f w
    (w, plain .block o [statements])
  | n, w => (w, n)

/-- Edit the statements of a case of a `switch`. -/
def Node.editCase : Node → Walking σ → Walking σ × Node
  | plain .switchCase o [test, statements], w =>
    let (w, statements) := statements.editItems f w
    (w, plain .switchCase o [test, statements])
  | n, w => (w, n)

/-- Edit the statements of the handler of a `try`. -/
def Node.editHandler : Node → Walking σ → Walking σ × Node
  | plain .catchClause o [param, block], w =>
    let (w, block) := block.editBlock f w
    (w, plain .catchClause o [param, block])
  | n, w => (w, n)

/-- Edit the statements that a part holds. -/
def Site.edit (site : Site) (part : Node) (w : Walking σ) : Walking σ × Node :=
  if part.isAbsent then (w, part)
  else match site with
    | inert => (w, part)
    | statement => f 0 part w
    | statements => part.editItems f w
    | block => part.editBlock f w
    | cases => part.editItems (fun _ c w => c.editCase f w) w
    | handler => part.editHandler f w

/-- Edit the statements that some parts hold. -/
def Site.editParts : List Site → List Node → Walking σ → Walking σ × List Node
  | site :: sites, part :: parts, w =>
    let (w, part) := site.edit f part w
    let (w, parts) := editParts sites parts w
    (w, part :: parts)
  | _, parts, w => (w, parts)

/-- Edit the statements directly in a statement. -/
def Node.editStatements : Node → Walking σ → Walking σ × Node
  | mk h ps, w =>
    let (w, ps) := Site.editParts f h.sites ps w
    (w, mk h ps)

end Editing

section EditWalk

variable {σ : Type} (visit : σ → Node → Place → σ × Node × Control)

/-- Replace a statement by what the visitor makes of it, and those in the replacement if the
visitor says so.  The replacement may be larger than the statement, so statements are entered at
most `levels` deep. -/
def editStatement : Nat → Place → Node → Walking σ → Walking σ × Node
  | levels, place, n, w =>
    if w.isOver then (w, n)
    else
      match visit w.state n place with
      | (state, n, .exit) => (⟨state, true⟩, n)
      | (state, n, .skip) => (⟨state, false⟩, n)
      | (state, n, .enter) =>
        match levels with
        | 0 => (⟨state, false⟩, n)
        | levels + 1 =>
          n.editStatements
            (fun index n w => editStatement levels ⟨place.depth + 1, index⟩ n w) ⟨state, false⟩

/-- Edit the statements of the body of a module; declarations about modules are passed by. -/
def editBody (levels : Nat) : List Node → Walking σ → Walking σ × List Node :=
  editEach (fun index n w =>
    if n.isModuleDeclaration then (w, n) else editStatement visit levels ⟨0, index⟩ n w) 0

/-- Edit the statements of a module, at most `levels` deep; with it comes the last state of the
visitor. -/
def Module.editWalk (levels : Nat) (m : Module) (state : σ) : σ × Module :=
  let (w, body) := editBody visit levels m.body ⟨state, false⟩
  (w.state, { m with body := body })

end EditWalk

mutual

/-- How many nodes deep a tree is. -/
def Node.height : Node → Nat
  | .mk _ ps => Node.heightOfParts ps + 1

/-- How many nodes deep the deepest of some trees is. -/
def Node.heightOfParts : List Node → Nat
  | [] => 0
  | n :: ns => max n.height (heightOfParts ns)

end

/-- How many nodes deep a module is: no statement is nested deeper. -/
def Module.height (m : Module) : Nat := Node.heightOfParts m.body

end HostProps
