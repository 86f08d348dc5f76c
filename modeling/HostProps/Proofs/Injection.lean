import HostProps.Proofs.Generated
import Mathlib.Algebra.BigOperators.Ring.List
import Mathlib.Algebra.Ring.Nat
import Mathlib.Data.List.Basic

/-!
# Injection as a Function on Trees

`Node.injectProperties` counts the elements that it changes while it changes them. Here the two are
taken apart: `Node.elementCount` counts the elements of a tree, which has nothing to do with the
properties, and `Node.injected` is the tree that injection leaves. The second is nearly a map:

* it keeps the head of every node (`Node.head_injected`);
* away from calls it only changes the parts (`Node.injected_mk_of_not_call`), and nothing else
  becomes such a node (`Node.injected_eq_mk`);
* a call keeps its callee and its first argument, up to what happens inside of them
  (`Node.injected_call`).

So whatever the pass asks about a node, injection changes the answer at most inside of what the
question yields. A tree without elements stays as it is, and generated nodes are such trees.

## Main results

* `Node.injectProperties_eq`: injection is `elementCount` together with `injected`.
* `Node.injected_eq_mk`, `Node.injected_eq_call`: inversion of injection by construct.
* `Node.Compositional.injected`: what injection does not change.
* `Node.isElement_map_injected`: injection makes no elements and loses none.
* `Node.sum_injected`: what injection adds, for all that is counted node by node.
* `Node.injected_eq_self`, `Node.map_injected_eq_self`: trees without elements.
* `Module.injectProperties_eq`: injection into a module.
-/

namespace HostProps

/-- What is mapped to two items was two items. -/
theorem exists_of_map_eq_pair {α β : Type} {f : α → β} {l : List α} {b c : β}
    (h : l.map f = [b, c]) : ∃ x y, l = [x, y] ∧ f x = b ∧ f y = c := by
  have hlength : l.length = 2 := by rw [← List.length_map f, h]; rfl
  obtain ⟨x, y, rfl⟩ := List.length_eq_two.1 hlength
  obtain ⟨hx, hy⟩ := List.cons.inj h
  exact ⟨x, y, rfl, hx, (List.cons.inj hy).1⟩

namespace Node

/-- **The calls that get properties**: the callee is the bare name of a factory, the first argument
is the bare name of a component, the second one is an object, and neither of the two is spread. -/
inductive IsElement (components : List String) : Node → Prop
  | intro {callOrigin factoryOrigin componentOrigin objectOrigin : Origin}
      {factory component : String} {factoryParts componentParts own others : List Node} :
      factory ∈ ["_jsx", "_jsxs", "_jsxDEV"] → component ∈ components →
      IsElement components (plain .call callOrigin
        [mk (.reference factoryOrigin factory) factoryParts,
          list (mk (.argument none) [mk (.reference componentOrigin component) componentParts] ::
            mk (.argument none) [plain .object objectOrigin [list own]] :: others)])

/-- An expression that is a variable with one of some names. -/
theorem exists_of_any_reference? {n : Node} {names : List String}
    (h : n.reference?.any names.contains = true) :
    ∃ o name ps, n = mk (.reference o name) ps ∧ name ∈ names := by
  rw [reference?.eq_def] at h
  split at h
  · rename_i o name ps
    exact ⟨o, name, ps, rfl, List.contains_iff_mem.1 h⟩
  · cases h

/-- Matching finds exactly the calls of that form. -/
theorem isElementOf_iff {components : List String} {n : Node} :
    isElementOf components n = true ↔ IsElement components n := by
  constructor
  · intro h
    rw [isElementOf.eq_def] at h
    split at h
    · obtain ⟨hcallee, hfirst⟩ := Bool.and_eq_true_iff.1 h
      obtain ⟨_, _, _, rfl, hfactory⟩ := exists_of_any_reference? hcallee
      obtain ⟨_, _, _, rfl, hcomponent⟩ := exists_of_any_reference? hfirst
      exact .intro hfactory hcomponent
    · cases h
  · rintro ⟨hfactory, hcomponent⟩
    exact Bool.and_eq_true_iff.2
      ⟨List.contains_iff_mem.2 hfactory, List.contains_iff_mem.2 hcomponent⟩

instance (components : List String) (n : Node) : Decidable (IsElement components n) :=
  decidable_of_iff _ isElementOf_iff

mutual

/-- How many elements of some components are in a tree. -/
def elementCount (components : List String) : Node → Nat
  | mk h ps => elementCountOfParts components ps + if isElementOf components (mk h ps) then 1 else 0

/-- How many elements of some components are in some trees. -/
def elementCountOfParts (components : List String) : List Node → Nat
  | [] => 0
  | n :: ns => elementCount components n + elementCountOfParts components ns

end

/-- What injection makes of a tree. -/
def injected (components : List String) (properties : List Node) (n : Node) : Node :=
  (injectProperties components properties n).2

section Injected

variable {components : List String} {properties : List Node}

/-! ### Counting and changing apart -/

/-- The elements of some trees are those of each tree. -/
theorem elementCountOfParts_eq_sum (ns : List Node) :
    elementCountOfParts components ns = (ns.map (elementCount components)).sum := by
  induction ns with
  | nil => rfl
  | cons n ns ih => rw [elementCountOfParts, ih, List.map_cons, List.sum_cons]

/-- The elements of a node: itself, if it is one, and those of its parts. -/
theorem elementCount_mk (h : Head) (ps : List Node) :
    (mk h ps).elementCount components = (ps.map (elementCount components)).sum +
      if IsElement components (mk h ps) then 1 else 0 := by
  rw [elementCount, elementCountOfParts_eq_sum]
  exact congrArg _ (if_congr isElementOf_iff rfl rfl)

/-- Injection into some trees changes each of them. -/
theorem injectIntoParts_snd (ns : List Node) :
    (injectIntoParts components properties ns).2 = ns.map (injected components properties) := by
  induction ns with
  | nil => rfl
  | cons n ns ih => rw [injectIntoParts, List.map_cons, ← ih, injected]

/-- Injection into a node: into its parts, and in front of its own properties if it is an
element. -/
theorem injected_mk (h : Head) (ps : List Node) :
    injected components properties (mk h ps) =
      if isElementOf components (mk h ps) then
        (mk h (ps.map (injected components properties))).prependProperties properties
      else mk h (ps.map (injected components properties)) := by
  rw [injected, injectProperties, ← injectIntoParts_snd]
  cases isElementOf components (mk h ps) <;> rfl

/-- Injection into some trees counts the elements of each, if it does so for every one of them. -/
theorem injectIntoParts_fst {ns : List Node}
    (h : ∀ n ∈ ns, (injectProperties components properties n).1 = n.elementCount components) :
    (injectIntoParts components properties ns).1 = elementCountOfParts components ns := by
  induction ns with
  | nil => rfl
  | cons n ns ih =>
      have hn := h n List.mem_cons_self
      have hns := ih fun m hm => h m (List.mem_cons_of_mem n hm)
      show (injectProperties components properties n).1 +
        (injectIntoParts components properties ns).1 = _
      rw [hn, hns, elementCountOfParts]

/-- Injection counts the elements of a tree as it was. -/
theorem injectProperties_fst (n : Node) :
    (injectProperties components properties n).1 = n.elementCount components := by
  induction n with
  | mk h ps ih =>
      rw [injectProperties, elementCount, ← injectIntoParts_fst ih]
      cases isElementOf components (mk h ps) <;> rfl

/-- **Injection taken apart**: it counts the elements of a tree and changes the tree. -/
theorem injectProperties_eq (n : Node) :
    injectProperties components properties n =
      (n.elementCount components, injected components properties n) :=
  Prod.ext (injectProperties_fst n) rfl

/-- Injection into some trees counts the elements of each and changes each. -/
theorem injectIntoParts_eq (ns : List Node) :
    injectIntoParts components properties ns =
      ((ns.map (elementCount components)).sum, ns.map (injected components properties)) := by
  induction ns with
  | nil => rfl
  | cons n ns ih => rw [injectIntoParts, ih, injectProperties_eq]; rfl

/-! ### Away from calls -/

/-- Only calls are elements. -/
theorem isElementOf_of_not_call {h : Head} (hc : h.isCall = false) (ps : List Node) :
    isElementOf components (mk h ps) = false := by
  rw [isElementOf.eq_def]
  split
  · rename_i heq
    obtain ⟨rfl, rfl⟩ := Node.mk.inj heq
    exact absurd hc (by simp only [Head.isCall, Bool.true_eq_false, not_false_eq_true])
  · rfl

/-- Away from calls the elements of a node are those of its parts. -/
theorem elementCount_mk_of_not_call {h : Head} (hc : h.isCall = false) (ps : List Node) :
    elementCount components (mk h ps) = (ps.map (elementCount components)).sum := by
  rw [elementCount, isElementOf_of_not_call hc, elementCountOfParts_eq_sum]
  rfl

/-- Away from calls injection only changes the parts. -/
theorem injected_mk_of_not_call {h : Head} (hc : h.isCall = false) (ps : List Node) :
    injected components properties (mk h ps) = mk h (ps.map (injected components properties)) := by
  rw [injected_mk, isElementOf_of_not_call hc]
  rfl

/-- Putting properties into a call leaves its head. -/
theorem head_prependProperties (n : Node) : (n.prependProperties properties).head = n.head := by
  rw [prependProperties.eq_def]
  split <;> rfl

/-- Injection keeps the head of every node. -/
@[simp] theorem head_injected (n : Node) : (injected components properties n).head = n.head := by
  cases n with
  | mk h ps =>
      rw [injected_mk]
      split
      · exact head_prependProperties _
      · rfl

/-- Inversion away from calls: what becomes a node was a node of the same head. -/
theorem injected_eq_mk {h : Head} (hc : h.isCall = false) {n : Node} {ps : List Node} :
    injected components properties n = mk h ps ↔
      ∃ qs, n = mk h qs ∧ qs.map (injected components properties) = ps := by
  constructor
  · intro heq
    have hhead : n.head = h := (head_injected n).symm.trans (congrArg head heq)
    cases n with
    | mk h' qs =>
        obtain rfl : h' = h := hhead
        rw [injected_mk_of_not_call hc] at heq
        exact ⟨qs, rfl, (Node.mk.inj heq).2⟩
  · rintro ⟨qs, rfl, rfl⟩
    exact injected_mk_of_not_call hc qs

/-- Putting properties into a call leaves the number of its parts. -/
theorem length_parts_prependProperties (n : Node) :
    (n.prependProperties properties).parts.length = n.parts.length := by
  rw [prependProperties.eq_def]
  split <;> rfl

/-- Injection keeps the number of parts of every node. -/
theorem length_parts_injected (n : Node) :
    (injected components properties n).parts.length = n.parts.length := by
  cases n with
  | mk h ps =>
      rw [injected_mk]
      split
      · rw [length_parts_prependProperties]
        exact List.length_map _
      · exact List.length_map _

/-! ### Lists and arguments -/

/-- Injection into a list changes its items. -/
theorem injected_list (ps : List Node) :
    injected components properties (list ps) = list (ps.map (injected components properties)) :=
  injected_mk_of_not_call rfl ps

/-- The items of a part after injection are those before, changed. -/
theorem items_injected (n : Node) :
    (injected components properties n).items = n.items.map (injected components properties) := by
  rw [items.eq_def, items.eq_def]
  split
  · rename_i ps heq
    obtain ⟨qs, rfl, rfl⟩ := (injected_eq_mk rfl).1 heq
    rfl
  · rename_i hne
    split
    · exact absurd (injected_list _) (hne _)
    · rfl

/-- The first argument after injection is the one before, changed. -/
theorem firstArgument?_map_injected (ns : List Node) :
    firstArgument? (ns.map (injected components properties)) =
      (firstArgument? ns).map (injected components properties) := by
  cases ns with
  | nil => rfl
  | cons n ns =>
      rw [List.map_cons]
      rw [firstArgument?.eq_def, firstArgument?.eq_def]
      split
      · rename_i heq
        obtain ⟨hn, -⟩ := List.cons.inj heq
        obtain ⟨qs, rfl, hqs⟩ := (injected_eq_mk rfl).1 hn
        obtain ⟨e, rfl, rfl⟩ := List.map_eq_singleton_iff.1 hqs
        rfl
      · rename_i hne
        split
        · rename_i heq
          obtain ⟨rfl, -⟩ := List.cons.inj heq
          exact (hne _ _ rfl).elim
        · rfl

/-! ### Calls -/

/-- A call keeps its callee and its first argument, up to what happens inside of them. -/
theorem injected_call (o : Origin) (callee arguments : Node) :
    ∃ arguments', injected components properties (plain .call o [callee, arguments]) =
        plain .call o [injected components properties callee, arguments'] ∧
      firstArgument? arguments'.items =
        (firstArgument? arguments.items).map (injected components properties) := by
  -- Properties go into the second argument, so an element keeps its first one as any call does.
  by_cases he : isElementOf components (mk (.plain .call o) [callee, arguments]) = true
  · rw [plain, injected_mk, if_pos he]
    rw [isElementOf.eq_def] at he
    split at he
    · rename_i heq
      obtain ⟨-, hps⟩ := Node.mk.inj heq
      obtain ⟨rfl, rfl⟩ : callee = _ ∧ arguments = _ := by simpa using hps
      exact ⟨_, rfl, rfl⟩
    · exact absurd he (by simp)
  · rw [plain, injected_mk, if_neg he]
    refine ⟨injected components properties arguments, rfl, ?_⟩
    rw [items_injected, firstArgument?_map_injected]

/-- Inversion of calls: what becomes a call was one, with the same callee and first argument. -/
theorem injected_eq_call {n : Node} {o : Origin} {callee arguments : Node}
    (heq : injected components properties n = plain .call o [callee, arguments]) :
    ∃ callee' arguments', n = plain .call o [callee', arguments'] ∧
      callee = injected components properties callee' ∧
      firstArgument? arguments.items =
        (firstArgument? arguments'.items).map (injected components properties) := by
  have hhead : n.head = .plain .call o := (head_injected n).symm.trans (congrArg head heq)
  have hlength : n.parts.length = 2 :=
    (length_parts_injected n).symm.trans (congrArg (·.parts.length) heq)
  cases n with
  | mk h ps =>
      obtain rfl : h = .plain .call o := hhead
      obtain ⟨callee', arguments', rfl⟩ := List.length_eq_two.1 hlength
      obtain ⟨arguments'', hcall, hfirst⟩ := injected_call o callee' arguments'
      obtain ⟨-, hps⟩ := Node.mk.inj (hcall.symm.trans heq)
      obtain ⟨rfl, rfl⟩ : injected components properties callee' = callee ∧
        arguments'' = arguments := by simpa using hps
      exact ⟨callee', arguments', rfl, rfl, hfirst⟩

/-! ### Parentheses and strings -/

/-- Injection goes on inside of parentheses. -/
theorem unwrapParens_injected (n : Node) :
    (injected components properties n).unwrapParens =
      injected components properties n.unwrapParens := by
  fun_induction unwrapParens n with
  | case1 o e ih =>
      rw [injected_mk_of_not_call rfl]
      exact ih
  | case2 n hn =>
      rw [unwrapParens.eq_def]
      split
      · rename_i heq
        obtain ⟨qs, rfl, hqs⟩ := (injected_eq_mk rfl).1 heq
        obtain ⟨e, rfl, -⟩ := List.map_eq_singleton_iff.1 hqs
        exact absurd rfl (hn _ e)
      · rfl

/-- Injection changes no string. -/
theorem string?_injected (n : Node) : (injected components properties n).string? = n.string? := by
  rw [string?.eq_def, string?.eq_def, unwrapParens_injected]
  generalize n.unwrapParens = e
  split
  · rename_i heq
    obtain ⟨ps, rfl, -⟩ := (injected_eq_mk rfl).1 heq
    rfl
  · rename_i hne
    split
    · exact (hne _ _ _ _ rfl).elim
    · rfl

/-! ### What injection does not change -/

section Compositional

variable {α : Type} {F : Node → α}

/-- Properties in front of those of an element make no difference, if they make none in front of
those of an object. -/
theorem prependProperties_congr (hcall : ∀ o, CompositionalAt F (.plain .call o))
    (hlist : CompositionalAt F .sequence) (hargument : CompositionalAt F (.argument none))
    (hobject : ∀ o own, F (plain .object o [list (properties ++ own)]) =
      F (plain .object o [list own])) (n : Node) : F (n.prependProperties properties) = F n := by
  rw [prependProperties.eq_def]
  split
  · rename_i o callee first objectOrigin own others
    have hsecond : F (mk (.argument none) [plain .object objectOrigin [list (properties ++ own)]]) =
        F (mk (.argument none) [plain .object objectOrigin [list own]]) :=
      hargument _ _ (congrArg (fun a => [a]) (hobject objectOrigin own))
    refine hcall o _ _ (congrArg (fun a => [F callee, a]) (hlist _ _ ?_))
    exact congrArg (fun a => F first :: a :: others.map F) hsecond
  · rfl

/-- **What injection does not change**: whatever is computed from the inside out, and does not see
the properties in front of those of an object. -/
theorem Compositional.injected (hF : Compositional F)
    (hobject : ∀ o own, F (plain .object o [list (properties ++ own)]) =
      F (plain .object o [list own])) (n : Node) :
    F (injected components properties n) = F n := by
  induction n with
  | mk h ps ih =>
      have hparts : (ps.map (Node.injected components properties)).map F = ps.map F := by
        rw [List.map_map]
        exact List.map_congr_left ih
      rw [injected_mk]
      split
      · rw [prependProperties_congr (fun _ => hF _) (hF _) (hF _) hobject]
        exact hF h _ _ hparts
      · exact hF h _ _ hparts

end Compositional

/-! ### Elements stay elements -/

/-- What becomes of an argument that is not spread. -/
theorem injected_argument (e : Node) :
    injected components properties (mk (.argument none) [e]) =
      mk (.argument none) [injected components properties e] :=
  injected_mk_of_not_call rfl [e]

/-- What becomes of an object. -/
theorem injected_object (o : Origin) (own : List Node) :
    injected components properties (plain .object o [list own]) =
      plain .object o [list (own.map (injected components properties))] := by
  rw [plain, injected_mk_of_not_call rfl, List.map_singleton, injected_list]
  rfl

/-- What becomes of a variable. -/
theorem injected_reference (o : Origin) (name : String) (ps : List Node) :
    injected components properties (mk (.reference o name) ps) =
      mk (.reference o name) (ps.map (injected components properties)) :=
  injected_mk_of_not_call rfl ps

/-- **What happens inside of a call does not change whether it is an element**, also not when it is
one of its properties that changes, nor when injection is for other components. -/
theorem isElement_map_injected {names : List String} {h : Head} {ps : List Node} :
    IsElement names (mk h (ps.map (injected components properties))) ↔
      IsElement names (mk h ps) := by
  constructor
  · intro he
    generalize hn : mk h (ps.map (injected components properties)) = n at he
    obtain ⟨hfactory, hcomponent⟩ := he
    obtain ⟨rfl, hps⟩ := Node.mk.inj hn
    obtain ⟨callee, arguments, rfl, hcallee, harguments⟩ := exists_of_map_eq_pair hps
    obtain ⟨_, rfl, -⟩ := (injected_eq_mk rfl).1 hcallee
    obtain ⟨_, rfl, hitems⟩ := (injected_eq_mk rfl).1 harguments
    obtain ⟨first, rest, rfl, hfirst, hrest⟩ := List.map_eq_cons_iff.1 hitems
    obtain ⟨second, others, rfl, hsecond, -⟩ := List.map_eq_cons_iff.1 hrest
    obtain ⟨_, rfl, hvariables⟩ := (injected_eq_mk rfl).1 hfirst
    obtain ⟨_, rfl, hvariable⟩ := List.map_eq_singleton_iff.1 hvariables
    obtain ⟨_, rfl, -⟩ := (injected_eq_mk rfl).1 hvariable
    obtain ⟨_, rfl, hobjects⟩ := (injected_eq_mk rfl).1 hsecond
    obtain ⟨_, rfl, hobject⟩ := List.map_eq_singleton_iff.1 hobjects
    obtain ⟨_, rfl, hlists⟩ := (injected_eq_mk rfl).1 hobject
    obtain ⟨_, rfl, hlist⟩ := List.map_eq_singleton_iff.1 hlists
    obtain ⟨own, rfl, -⟩ := (injected_eq_mk rfl).1 hlist
    exact .intro hfactory hcomponent
  · intro he
    generalize hn : mk h ps = n at he
    obtain ⟨hfactory, hcomponent⟩ := he
    obtain ⟨rfl, rfl⟩ := Node.mk.inj hn
    simp only [List.map_cons, List.map_nil, injected_reference, injected_list, injected_argument,
      injected_object]
    exact .intro hfactory hcomponent

/-- **Injection from the bottom up**: a node is looked at when its parts are done. -/
theorem injected_eq_ite (h : Head) (ps : List Node) :
    injected components properties (mk h ps) =
      if IsElement components (mk h (ps.map (injected components properties))) then
        (mk h (ps.map (injected components properties))).prependProperties properties
      else mk h (ps.map (injected components properties)) := by
  rw [injected_mk]
  exact if_congr (isElementOf_iff.trans isElement_map_injected.symm) rfl rfl

/-! ### What injection adds -/

section Additive

variable {F : Node → Nat} {g : Head → Nat}

/-- Properties in front of those of an element add what they hold. -/
theorem IsElement.sum_prependProperties (hF : ∀ h ps, F (mk h ps) = g h + (ps.map F).sum) {n : Node}
    (hn : IsElement components n) :
    F (n.prependProperties properties) = F n + (properties.map F).sum := by
  obtain ⟨-, -⟩ := hn
  simp only [prependProperties, plain, list, hF, List.map_cons, List.map_nil, List.map_append,
    List.sum_cons, List.sum_nil, List.sum_append]
  omega

/-- What injection adds to some trees, told by what it adds to each. -/
theorem sum_map_injected {added : Nat} {ns : List Node}
    (h : ∀ n ∈ ns, F (injected components properties n) =
      F n + n.elementCount components * added) :
    ((ns.map (injected components properties)).map F).sum =
      (ns.map F).sum + (ns.map (elementCount components)).sum * added := by
  rw [List.map_map, ← List.sum_map_mul_right, ← List.sum_map_add]
  exact congrArg List.sum (List.map_congr_left h)

/-- **What injection adds**: whatever is counted node by node grows by that of the properties once
for each element. -/
theorem sum_injected (hF : ∀ h ps, F (mk h ps) = g h + (ps.map F).sum) (n : Node) :
    F (injected components properties n) =
      F n + n.elementCount components * (properties.map F).sum := by
  induction n with
  | mk h ps ih =>
      have hsum := sum_map_injected ih
      rw [injected_eq_ite, elementCount_mk]
      by_cases he : IsElement components (mk h (ps.map (injected components properties)))
      · rw [if_pos he, if_pos (isElement_map_injected.1 he), he.sum_prependProperties hF, hF, hF,
          hsum, Nat.add_mul]
        omega
      · rw [if_neg he, if_neg (mt isElement_map_injected.2 he), Nat.add_zero, hF, hF, hsum,
          Nat.add_assoc]

end Additive

/-! ### Trees without elements -/

/-- A node is without elements if it is none and its parts are without. -/
theorem elementCount_mk_eq_zero_iff {h : Head} {ps : List Node} :
    (mk h ps).elementCount components = 0 ↔
      ¬IsElement components (mk h ps) ∧ ∀ p ∈ ps, p.elementCount components = 0 := by
  rw [elementCount_mk, Nat.add_eq_zero_iff, List.sum_eq_zero_iff_forall_eq_nat, List.forall_mem_map,
    and_comm, ite_eq_right_iff]
  exact and_congr_left fun _ => imp_congr_right fun _ => iff_of_false Nat.one_ne_zero id

/-- A tree without elements stays as it is. -/
theorem injected_eq_self {n : Node} (hn : n.elementCount components = 0) :
    injected components properties n = n := by
  induction n with
  | mk h ps ih =>
      obtain ⟨hself, hparts⟩ := elementCount_mk_eq_zero_iff.1 hn
      have hmap : ps.map (injected components properties) = ps.map id :=
        List.map_congr_left fun n hn => ih n hn (hparts n hn)
      rw [injected_mk, if_neg (mt isElementOf_iff.1 hself), hmap, List.map_id]

/-- Trees without elements stay as they are. -/
theorem map_injected_eq_self {ns : List Node} (hns : ∀ n ∈ ns, n.elementCount components = 0) :
    ns.map (injected components properties) = ns := by
  have hmap : ns.map (injected components properties) = ns.map id :=
    List.map_congr_left fun n hn => injected_eq_self (hns n hn)
  rw [hmap, List.map_id]

/-- Generated properties hold no elements. -/
theorem IsGenerated.elementCount {n : Node} (h : n.IsGenerated) :
    n.elementCount components = 0 := by
  induction h with
  | mk hh _ ih =>
      rw [elementCount_mk_of_not_call hh.isCall, List.sum_eq_zero_iff_forall_eq_nat]
      intro count hcount
      obtain ⟨n, hn, rfl⟩ := List.mem_map.1 hcount
      exact ih n hn

variable (components)

/-- The declaration of an argument holds no elements. -/
theorem elementCount_argumentDeclaration (name : String) :
    (argumentDeclaration name).elementCount components = 0 := by
  rw [argumentDeclaration, generatedProperty]
  split <;> rfl

end Injected

end Node

/-! ### Modules -/

/-- Injection into a module: nothing happens if there is nothing to pass or nobody to pass it to. -/
theorem Module.injectProperties_eq (i : Injection) (m : Module) :
    m.injectProperties i =
      if i.isIdle then (0, m, [])
      else
        let count := (m.body.map (Node.elementCount i.components)).sum
        (count, { m with body := m.body.map (Node.injected i.components i.generated) },
          [.propertiesInjected count]) := by
  rw [Module.injectProperties]
  split
  · rfl
  · rw [Node.injectIntoParts_eq]

end HostProps
