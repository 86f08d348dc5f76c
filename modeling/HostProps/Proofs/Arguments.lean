import HostProps.Proofs.Injection
import HostProps.Proofs.Walk

/-!
# Where Arguments are Declared

The body of a module is cut in front of its first declaration of variables (`Cut`), and there the
declarations of arguments go. Every body has such a cut, and what insertion does is said in terms of
it alone, so that an operation on the body needs to be followed through the two sides of the cut and
no index has to be computed.

## Main results

* `Cut.exists_of_body`: every body has a cut.
* `Module.insertArguments_of_cut`: what insertion does at a cut.
* `Module.exists_insertArguments_body`: the same without the case in which nothing is inserted.
-/

namespace HostProps

namespace Node

/-- Statements that declare variables are not about modules. -/
theorem isModuleDeclaration_of_isVariableDeclaration {n : Node}
    (h : n.isVariableDeclaration = true) : n.isModuleDeclaration = false := by
  rw [isVariableDeclaration.eq_def] at h
  split at h
  · rfl
  · cases h

/-- Only statements that declare variables have declarators. -/
theorem declarators?_of_not_isVariableDeclaration {n : Node}
    (h : n.isVariableDeclaration = false) : n.declarators? = none := by
  rw [declarators?.eq_def]
  split
  · cases h
  · rfl

/-- The declarator of `const name = arguments[0].name;`. -/
def argumentDeclarator (name : String) : Node :=
  plain .declarator .generated
    [generatedBinding name, generatedMember firstArgument (generatedProperty name)]

/-- The declaration of an argument has one declarator. -/
theorem declarators?_argumentDeclaration (name : String) :
    (argumentDeclaration name).declarators? = some [argumentDeclarator name] := rfl

end Node

/-! ### The cut -/

/-- A body is cut in front of its first declaration of variables, at the end if it has none. -/
structure Cut (body before after : List Node) : Prop where
  /-- The two sides are the body. -/
  append : body = before ++ after
  /-- Nothing in front of the cut declares variables. -/
  before : ∀ n ∈ before, n.isVariableDeclaration = false
  /-- The first statement after the cut declares variables. -/
  after : ∀ n ∈ after.head?, n.isVariableDeclaration = true

namespace Cut

/-- Every body has a cut. -/
theorem exists_of_body (body : List Node) : ∃ before after, Cut body before after := by
  induction body with
  | nil => exact ⟨[], [], rfl, by simp, by simp⟩
  | cons n ns ih =>
      by_cases hn : n.isVariableDeclaration = true
      · exact ⟨[], n :: ns, rfl, by simp, by simpa using hn⟩
      · obtain ⟨before, after, happend, hbefore, hafter⟩ := ih
        refine ⟨n :: before, after, congrArg (n :: ·) happend, ?_, hafter⟩
        intro x hx
        obtain rfl | hx := List.mem_cons.1 hx
        · exact Bool.eq_false_iff.2 hn
        · exact hbefore x hx

variable {body before after : List Node}

/-- The first declaration of variables is at the cut. -/
theorem findIdx?_eq (h : Cut body before after) :
    body.findIdx? Node.isVariableDeclaration =
      if after.isEmpty then none else some before.length := by
  have hnone : before.findIdx? Node.isVariableDeclaration = none :=
    List.findIdx?_eq_none_iff.2 h.before
  rw [h.append, List.findIdx?_append, hnone]
  cases after with
  | nil => rfl
  | cons n ns =>
      rw [List.findIdx?_cons, if_pos (h.after n rfl)]
      simp only [Option.map_some, Nat.zero_add, Option.none_or]
      rfl

/-- A cut moves with a change that keeps the heads of statements. -/
theorem map {f : Node → Node} (h : Cut body before after) (hf : ∀ n, (f n).head = n.head) :
    Cut (body.map f) (before.map f) (after.map f) := by
  have hvar : ∀ n, (f n).isVariableDeclaration = n.isVariableDeclaration :=
    fun n => Node.isVariableDeclaration_congr (hf n)
  refine ⟨?_, ?_, ?_⟩
  · rw [h.append, List.map_append]
  · intro x hx
    obtain ⟨n, hn, rfl⟩ := List.mem_map.1 hx
    rw [hvar, h.before n hn]
  · intro x hx
    rw [List.head?_map] at hx
    obtain ⟨n, hn, rfl⟩ := Option.map_eq_some_iff.1 hx
    rw [hvar, h.after n hn]

end Cut

/-! ### Insertion -/

namespace Module

/-- The first declaration of variables, as a search in the body. -/
theorem firstVariableDeclaration?_eq (m : Module) :
    m.firstVariableDeclaration? = m.body.findIdx? Node.isVariableDeclaration :=
  m.walk_find fun _ => Node.isModuleDeclaration_of_isVariableDeclaration

/-- **Insertion at the cut.** The declarations of all names that can be declared go in between the
two sides; nothing happens if there are none, or nothing is after the cut. -/
theorem insertArguments_of_cut {m : Module} {before after : List Node}
    (h : Cut m.body before after) (names : List String) :
    m.insertArguments names =
      if (names.filter isIdentifierName).isEmpty || after.isEmpty then (none, m, [])
      else
        (some before.length,
          { m with
            body := before ++ (names.filter isIdentifierName).map Node.argumentDeclaration ++
              after },
          [.argumentsInserted before.length (names.filter isIdentifierName)]) := by
  rw [insertArguments]
  cases hnames : (names.filter isIdentifierName).isEmpty with
  | true => simp
  | false =>
      rw [if_neg Bool.false_ne_true, firstVariableDeclaration?_eq, h.findIdx?_eq]
      cases hafter : after.isEmpty with
      | true => simp
      | false =>
          simp [insertAt, h.append]

/-- The body after insertion, whether or not something is inserted. -/
theorem exists_insertArguments_body (names : List String) (m : Module) :
    ∃ (before : List Node) (names' : List String) (after : List Node), Cut m.body before after ∧
      (m.insertArguments names).2.1 =
        { m with body := before ++ names'.map Node.argumentDeclaration ++ after } := by
  obtain ⟨before, after, h⟩ := Cut.exists_of_body m.body
  rw [insertArguments_of_cut h]
  split
  · refine ⟨before, [], after, h, ?_⟩
    rw [List.map_nil, List.append_nil, ← h.append]
  · exact ⟨before, _, after, h, rfl⟩

end Module

end HostProps
