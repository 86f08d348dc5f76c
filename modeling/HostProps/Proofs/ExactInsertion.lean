import HostProps.Proofs.Arguments

/-!
# Insertion is exact

Insertion changes one place of a body: the least index at which a statement declares variables.
What it puts there is a declaration for each name that can be declared, in the order of the list,
and repeated names are declared again. If there is no such place or no such name, nothing happens.

Everything follows from the cut of a body. What is in front of the cut stays in front, and with it
the directives that the body may start with (`Module.prologue`). Declared arguments declare
variables themselves, so after one insertion the cut is where it was, and the next one puts its
declarations in front of those of the first.

## Main results

* `Module.insertArguments_prologue`: the directives stay first.
* `Module.insertArguments_insertArguments`: two insertions are one.
* `Module.exactInsertion_insertArguments`: what insertion does, for all names.
-/

namespace HostProps

namespace Node

/-- Is this a directive, a statement that consists of a string literal? A string in parentheses is
none. -/
def isDirective : Node → Bool
  | plain .expressionStatement _ [mk (.string _ _ _) _] => true
  | _ => false

/-- Statements that declare variables are no directives. -/
theorem isDirective_of_isVariableDeclaration {n : Node} (h : n.isVariableDeclaration = true) :
    n.isDirective = false := by
  rw [isVariableDeclaration.eq_def] at h
  split at h
  · rfl
  · cases h

/-- The declaration `const name = arguments[0].name;` of an identifier name, written out. -/
theorem argumentDeclaration_of_isIdentifierName {name : String}
    (h : isIdentifierName name = true) :
    argumentDeclaration name =
      mk (.variableDeclaration .generated .const)
        [list [plain .declarator .generated
          [generatedBinding name,
            generatedMember
              (generatedMember (generatedReference "arguments")
                (generatedComputed (generatedNumber .zero)))
              (generatedName name)]]] := by
  rw [argumentDeclaration, generatedProperty, if_pos h]
  rfl

end Node

/-! ### The cut -/

namespace Cut

variable {body before after : List Node}

/-- The cut stays where it is when arguments are declared at it. -/
theorem declare (h : Cut body before after) (names : List String) :
    Cut (before ++ names.map Node.argumentDeclaration ++ after) before
      (names.map Node.argumentDeclaration ++ after) := by
  refine ⟨List.append_assoc _ _ _, h.before, ?_⟩
  -- What comes after the cut now starts with a declaration, if there is a name at all.
  cases names with
  | nil => exact h.after
  | cons name names =>
      intro n hn
      obtain rfl := Option.some.inj hn
      rfl

/-- The directives of a body are in front of the cut. -/
theorem takeWhile_isDirective (h : Cut body before after) :
    body.takeWhile Node.isDirective = before.takeWhile Node.isDirective := by
  have hafter : after.takeWhile Node.isDirective = [] := by
    cases after with
    | nil => rfl
    | cons n ns =>
        have hn := Node.isDirective_of_isVariableDeclaration (h.after n rfl)
        exact List.takeWhile_cons_of_neg (by rw [hn]; exact Bool.false_ne_true)
  rw [h.append, List.takeWhile_append, hafter, List.append_nil]
  split
  · rename_i hall
    exact ((List.takeWhile_prefix Node.isDirective).eq_of_length hall).symm
  · rfl

end Cut

namespace Module

/-- The directives that a module starts with. -/
def prologue (m : Module) : List Node := m.body.takeWhile Node.isDirective

/-- An index is the least at which a statement of the body declares variables. Declarations about
modules count for the index, also those that export variables, but they are none of these
statements. -/
structure IsInsertionPoint (m : Module) (index : Nat) : Prop where
  /-- There variables are declared. -/
  declares : ∃ n, m.body[index]? = some n ∧ n.isVariableDeclaration = true
  /-- Nowhere before are they. -/
  least : ∀ (j : Nat) n, m.body[j]? = some n → n.isVariableDeclaration = true → index ≤ j

/-- There is at most one such index. -/
theorem IsInsertionPoint.unique {m : Module} {i j : Nat} (hi : m.IsInsertionPoint i)
    (hj : m.IsInsertionPoint j) : i = j := by
  obtain ⟨n, hn, hnVar⟩ := hi.declares
  obtain ⟨p, hp, hpVar⟩ := hj.declares
  exact Nat.le_antisymm (hi.least j p hp hpVar) (hj.least i n hn hnVar)

/-- The place of a cut with something after it. -/
theorem isInsertionPoint_of_cut {m : Module} {before after : List Node}
    (h : Cut m.body before after) (hafter : after ≠ []) : m.IsInsertionPoint before.length := by
  constructor
  · obtain ⟨n, ns, rfl⟩ := List.exists_cons_of_ne_nil hafter
    refine ⟨n, ?_, h.after n rfl⟩
    rw [h.append, List.getElem?_append_right (Nat.le_refl _), Nat.sub_self]
    rfl
  · intro j n hn hvar
    by_contra hlt
    rw [h.append, List.getElem?_append_left (Nat.not_le.1 hlt)] at hn
    rw [h.before n (List.mem_of_getElem? hn)] at hvar
    cases hvar

/-- Something is after the cut of a module just if one of its statements declares variables. -/
theorem ne_nil_iff_of_cut {m : Module} {before after : List Node} (h : Cut m.body before after) :
    after ≠ [] ↔ ∃ n ∈ m.body, n.isVariableDeclaration = true := by
  constructor
  · intro hafter
    obtain ⟨n, ns, rfl⟩ := List.exists_cons_of_ne_nil hafter
    refine ⟨n, ?_, h.after n rfl⟩
    rw [h.append]
    exact List.mem_append_right before List.mem_cons_self
  · rintro ⟨n, hn, hvar⟩ rfl
    rw [h.append, List.append_nil] at hn
    rw [h.before n hn] at hvar
    cases hvar

/-- Insertion into a module that has a place for it. Without names that can be declared, nothing is
put there. -/
theorem insertArguments_of_cut_of_ne_nil {m : Module} {before after : List Node}
    (h : Cut m.body before after) (hafter : after ≠ []) (names : List String) :
    (m.insertArguments names).1 =
        (if (names.filter isIdentifierName).isEmpty then none else some before.length) ∧
      (m.insertArguments names).2.1 =
        { m with
          body := before ++ (names.filter isIdentifierName).map Node.argumentDeclaration ++
            after } := by
  rw [insertArguments_of_cut h, List.isEmpty_eq_false_iff.2 hafter, Bool.or_false]
  cases hnames : (names.filter isIdentifierName).isEmpty with
  | true =>
      refine ⟨rfl, ?_⟩
      rw [List.isEmpty_iff.1 hnames, List.map_nil, List.append_nil, ← h.append]
      rfl
  | false => exact ⟨rfl, rfl⟩

variable (m : Module)

/-- **Nothing is inserted** if no name can be declared, or no statement of the body declares
variables. -/
theorem insertArguments_of_idle {names : List String}
    (h : names.filter isIdentifierName = [] ∨ ¬ ∃ n ∈ m.body, n.isVariableDeclaration = true) :
    m.insertArguments names = (none, m, []) := by
  obtain ⟨before, after, hcut⟩ := Cut.exists_of_body m.body
  rw [← ne_nil_iff_of_cut hcut, not_not] at h
  rw [insertArguments_of_cut hcut]
  obtain hnames | rfl := h
  · rw [hnames]
    rfl
  · rw [List.isEmpty_nil, Bool.or_true]
    rfl

/-- **Otherwise the declarations are inserted** in front of the first such statement. -/
theorem exists_isInsertionPoint {names : List String}
    (hnames : names.filter isIdentifierName ≠ [])
    (hbody : ∃ n ∈ m.body, n.isVariableDeclaration = true) :
    ∃ index, m.IsInsertionPoint index ∧ (m.insertArguments names).1 = some index ∧
      (m.insertArguments names).2.1 =
        { m with
          body := m.body.take index ++
            (names.filter isIdentifierName).map Node.argumentDeclaration ++
            m.body.drop index } := by
  obtain ⟨before, after, hcut⟩ := Cut.exists_of_body m.body
  have hafter := (ne_nil_iff_of_cut hcut).2 hbody
  obtain ⟨hindex, hmodule⟩ := insertArguments_of_cut_of_ne_nil hcut hafter names
  refine ⟨before.length, isInsertionPoint_of_cut hcut hafter, ?_, ?_⟩
  · rw [hindex, List.isEmpty_eq_false_iff.2 hnames]
    rfl
  · rw [hmodule, hcut.append, List.take_left, List.drop_left]

/-- **The directives stay first.** -/
theorem insertArguments_prologue (names : List String) :
    (m.insertArguments names).2.1.prologue = m.prologue := by
  obtain ⟨before, names', after, hcut, h⟩ := exists_insertArguments_body names m
  rw [h, prologue, prologue, (hcut.declare names').takeWhile_isDirective,
    hcut.takeWhile_isDirective]

/-- **Two insertions are one**: what is inserted later stands first. The place is that of the
first of the two that inserts something. -/
theorem insertArguments_insertArguments (first second : List String) :
    ((m.insertArguments first).2.1.insertArguments second).2.1 =
        (m.insertArguments (second ++ first)).2.1 ∧
      (m.insertArguments first).1.or ((m.insertArguments first).2.1.insertArguments second).1 =
        (m.insertArguments (second ++ first)).1 := by
  by_cases hbody : ∃ n ∈ m.body, n.isVariableDeclaration = true
  · obtain ⟨before, after, hcut⟩ := Cut.exists_of_body m.body
    have hafter := (ne_nil_iff_of_cut hcut).2 hbody
    obtain ⟨hindex₁, hmodule₁⟩ := insertArguments_of_cut_of_ne_nil hcut hafter first
    -- The first insertion leaves the cut in front of what it declared.
    have hcut' : Cut (m.insertArguments first).2.1.body before
        ((first.filter isIdentifierName).map Node.argumentDeclaration ++ after) := by
      rw [hmodule₁]
      exact hcut.declare _
    obtain ⟨hindex₂, hmodule₂⟩ := insertArguments_of_cut_of_ne_nil hcut'
      (List.append_ne_nil_of_right_ne_nil _ hafter) second
    obtain ⟨hindex, hmodule⟩ := insertArguments_of_cut_of_ne_nil hcut hafter (second ++ first)
    constructor
    · rw [hmodule₂, hmodule, hmodule₁]
      simp only [List.filter_append, List.map_append, List.append_assoc]
    · rw [hindex₁, hindex₂, hindex, List.filter_append]
      cases first.filter isIdentifierName <;> cases second.filter isIdentifierName <;> rfl
  · have hidle : ∀ names, m.insertArguments names = (none, m, []) :=
      fun names => m.insertArguments_of_idle (.inr hbody)
    rw [hidle first, hidle second, hidle (second ++ first)]
    exact ⟨rfl, rfl⟩

/-- **Insertion is exact.** For all names, with those of them that can be declared:

* if there are none, or no statement of the body declares variables, the module stays as it is and
  no index is told;
* otherwise the index that is told is the least of such a statement, and the declarations stand
  there, one for each name and in order, with the body up to the index in front of them and the
  rest of it after them;
* each of them is `const name = arguments[0].name;`, and the directives of the module stay first.

Inserting names and then others is inserting the others followed by them. -/
theorem exactInsertion_insertArguments :
    (∀ names : List String,
      (names.filter isIdentifierName = [] ∨ (∀ n ∈ m.body, n.isVariableDeclaration = false) →
        (m.insertArguments names).1 = none ∧ (m.insertArguments names).2.1 = m) ∧
      (names.filter isIdentifierName ≠ [] → (∃ n ∈ m.body, n.isVariableDeclaration = true) →
        ∃ index, m.IsInsertionPoint index ∧ (m.insertArguments names).1 = some index ∧
          (m.insertArguments names).2.1 =
            { m with
              body := m.body.take index ++
                (names.filter isIdentifierName).map Node.argumentDeclaration ++
                m.body.drop index }) ∧
      (∀ name ∈ names.filter isIdentifierName,
        Node.argumentDeclaration name =
          .mk (.variableDeclaration .generated .const)
            [.list [.plain .declarator .generated
              [.generatedBinding name,
                .generatedMember
                  (.generatedMember (.generatedReference "arguments")
                    (.generatedComputed (.generatedNumber .zero)))
                  (.generatedName name)]]]) ∧
      (m.insertArguments names).2.1.prologue = m.prologue) ∧
    ∀ first second : List String,
      ((m.insertArguments first).2.1.insertArguments second).2.1 =
          (m.insertArguments (second ++ first)).2.1 ∧
        (m.insertArguments first).1.or ((m.insertArguments first).2.1.insertArguments second).1 =
          (m.insertArguments (second ++ first)).1 := by
  refine ⟨?_, m.insertArguments_insertArguments⟩
  intro names
  refine ⟨?_, m.exists_isInsertionPoint, ?_, m.insertArguments_prologue names⟩
  · intro h
    have hidle : m.insertArguments names = (none, m, []) := by
      refine m.insertArguments_of_idle (h.imp_right ?_)
      rintro hnone ⟨n, hn, hvar⟩
      rw [hnone n hn] at hvar
      cases hvar
    rw [hidle]
    exact ⟨rfl, rfl⟩
  · intro name hname
    exact Node.argumentDeclaration_of_isIdentifierName (List.mem_filter.1 hname).2

/-- The module `"use strict"; import "a"; export let b; let c;`, as it is written. -/
def startsStrict : Module where
  span := ⟨1, 47⟩
  body :=
    [.plain .expressionStatement (.written ⟨1, 14⟩)
      [.mk (.string ⟨1, 13⟩ "use strict" (some "\"use strict\"")) []],
    .mk (.importDeclaration (.written ⟨15, 26⟩) "evaluation")
      [.list [], .mk (.string ⟨22, 25⟩ "a" (some "\"a\"")) [], .absent],
    .plain .exportDeclaration (.written ⟨27, 40⟩)
      [.mk (.variableDeclaration (.written ⟨34, 40⟩) .let)
        [.list [.plain .declarator (.written ⟨38, 39⟩)
          [.mk (.binding (.written ⟨38, 39⟩) "b") [], .absent]]]],
    .mk (.variableDeclaration (.written ⟨41, 47⟩) .let)
      [.list [.plain .declarator (.written ⟨45, 46⟩)
        [.mk (.binding (.written ⟨45, 46⟩) "c") [], .absent]]]]
  interpreter := none

/-- The place in this module is in front of its last statement. -/
theorem isInsertionPoint_startsStrict : startsStrict.IsInsertionPoint 3 := by
  refine ⟨⟨_, rfl, rfl⟩, ?_⟩
  rintro (_ | _ | _ | j) n hn hvar
  · obtain rfl := Option.some.inj hn
    cases hvar
  · obtain rfl := Option.some.inj hn
    cases hvar
  · obtain rfl := Option.some.inj hn
    cases hvar
  · exact Nat.le_add_left 3 j

/-- The empty name cannot be declared. -/
theorem filter_isIdentifierName_empty :
    ["", "React"].filter isIdentifierName ≠ [] ∧ [""].filter isIdentifierName = [] := by
  decide +kernel

/-- Declarations go behind the directive, the import and the export of this module, in front of its
last statement. Without a name that can be declared there are none. -/
theorem exactInsertion_startsStrict :
    ["", "React"].filter isIdentifierName ≠ [] ∧
      (∃ n ∈ startsStrict.body, n.isVariableDeclaration = true) ∧
      (startsStrict.insertArguments ["", "React"]).1 = some 3 ∧
      [""].filter isIdentifierName = [] ∧
      (startsStrict.insertArguments [""]).2.1 = startsStrict := by
  obtain ⟨hnames, hidle⟩ := filter_isIdentifierName_empty
  have hbody : ∃ n ∈ startsStrict.body, n.isVariableDeclaration = true := by
    obtain ⟨n, hn, hvar⟩ := isInsertionPoint_startsStrict.declares
    exact ⟨n, List.mem_of_getElem? hn, hvar⟩
  obtain ⟨hexact, -⟩ := startsStrict.exactInsertion_insertArguments
  obtain ⟨index, hpoint, hindex, -⟩ := (hexact ["", "React"]).2.1 hnames hbody
  obtain ⟨-, hsame⟩ := (hexact [""]).1 (.inl hidle)
  rw [hpoint.unique isInsertionPoint_startsStrict] at hindex
  exact ⟨hnames, hbody, hindex, hidle, hsame⟩

end Module

end HostProps
