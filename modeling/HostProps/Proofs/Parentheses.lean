import HostProps.Proofs.Tree

/-!
# Up to Parentheses

What the pass looks for may stand in parentheses, in as many as an author likes and at every level.
`Node.UpToParens` says so as a relation, and `Node.unwrapParens` finds the expression inside. The
two agree on every expression that is no pair of parentheses itself, and each form that is looked
for is none.

## Main results

* `Node.upToParens_iff`: the relation against the function.
* `Node.string?_eq_some_iff`: string literals, up to parentheses.
-/

namespace HostProps

namespace Node

/-- An expression is another one in any number of parentheses. -/
inductive UpToParens : Node → Node → Prop
  | refl (e : Node) : UpToParens e e
  | parenthesis {n e : Node} (o : Origin) :
      UpToParens n e → UpToParens (plain .parenthesis o [n]) e

/-- Parentheses may stand around parentheses. -/
theorem UpToParens.trans {n m e : Node} (h₁ : n.UpToParens m) (h₂ : m.UpToParens e) :
    n.UpToParens e := by
  induction h₁ with
  | refl => exact h₂
  | parenthesis o _ ih => exact .parenthesis o (ih h₂)

/-- Every expression is what is inside of its parentheses, in parentheses. -/
theorem upToParens_unwrapParens (n : Node) : n.UpToParens n.unwrapParens := by
  induction n with
  | mk h ps ih =>
      rw [unwrapParens.eq_def]
      split
      · rename_i o e heq
        obtain ⟨rfl, rfl⟩ := Node.mk.inj heq
        exact .parenthesis o (ih e (List.mem_singleton_self e))
      · exact .refl (mk h ps)

/-- Parentheses make no difference to what is inside of them. -/
theorem UpToParens.unwrapParens_eq {n e : Node} (h : n.UpToParens e) :
    n.unwrapParens = e.unwrapParens := by
  induction h with
  | refl => rfl
  | parenthesis o _ ih =>
      rw [plain, unwrapParens]
      exact ih

/-- **The relation against the function**: an expression that is no pair of parentheses is the one
inside of all parentheses around it. -/
theorem upToParens_iff {n e : Node} (he : e.unwrapParens = e) :
    n.UpToParens e ↔ n.unwrapParens = e := by
  constructor
  · intro h
    exact h.unwrapParens_eq.trans he
  · rintro rfl
    exact n.upToParens_unwrapParens

/-! ### String literals -/

/-- An expression is a string literal with some value, up to parentheses. -/
def IsString (n : Node) (value : String) : Prop :=
  ∃ s raw ps, n.UpToParens (mk (.string s value raw) ps)

/-- **String literals** are what has the value of a string. -/
theorem string?_eq_some_iff {n : Node} {value : String} :
    n.string? = some value ↔ n.IsString value := by
  constructor
  · intro h
    rw [string?] at h
    split at h
    · rename_i s v raw ps hn
      obtain rfl := Option.some.inj h
      exact ⟨s, raw, ps, (upToParens_iff rfl).2 hn⟩
    · cases h
  · rintro ⟨s, raw, ps, hn⟩
    rw [string?, (upToParens_iff rfl).1 hn]

end Node

end HostProps
