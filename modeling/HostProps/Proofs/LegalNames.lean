import HostProps.Lexer.Keyword
import HostProps.Proofs.Provision

/-!
# Names in Generated Code

A name that stands for a variable of a module must fit the grammar of identifier names, and must not
be reserved in strict code. A name that is bound must not be `eval` or `arguments` either.

The pass takes such names from three places: from the arguments and from the values of properties
that the options list, and from the local names of runtime keys. The last are legal. The others are
checked by `isIdentifierName`, character by character, so they fit the grammar. But no word is
refused for being reserved: with the argument `class` the pass declares
`const class = arguments[0].class;`.

## Main results

* `isName_of_isIdentifierName`: what the check accepts fits the grammar.
* `Program.legal_handOver_iff`: which names that the pass binds or refers to are legal.
-/

namespace HostProps

/-! ### The language -/

/-- The grammar of identifier names. A dollar sign may stand anywhere in them. -/
def IsName (s : String) : Prop :=
  ∃ c rest, s.toList = c :: rest ∧ (c = '$' ∨ c = '_' ∨ isIdStart c = true) ∧
    ∀ d ∈ rest, d = '$' ∨ d = '\u200c' ∨ d = '\u200d' ∨ isIdContinue d = true

/-- The words that are reserved in the strict code of modules. -/
def reservedWords : List String := "await" :: keywords ++ strictWords

/-- A name may refer to a variable. -/
structure IsReferable (name : String) : Prop where
  grammar : IsName name
  unreserved : name ∉ reservedWords

/-- A name may be bound. -/
structure IsBindable (name : String) : Prop extends IsReferable name where
  unrestricted : name ∉ ["eval", "arguments"]

/-! ### The check -/

/-- **What the check accepts fits the grammar.** It is stricter: a dollar sign may only come
first. -/
theorem isName_of_isIdentifierName {s : String} (h : isIdentifierName s = true) : IsName s := by
  rw [isIdentifierName] at h
  split at h
  · cases h
  · rename_i c rest hs
    obtain ⟨hc, hrest⟩ := Bool.and_eq_true_iff.1 h
    refine ⟨c, rest, hs, ?_, ?_⟩
    · simpa [startsName, or_assoc] using hc
    · intro d hd
      have hcontinues : continuesName d = true := List.all_eq_true.1 hrest d hd
      right
      simpa [continuesName, or_assoc] using hcontinues

/-- The local names of runtime keys may be bound. -/
theorem isBindable_runtimeVariable {r : Runtime} {key : String} (h : key ∈ r.keys) :
    IsBindable (runtimeVariable key) := by
  have hall : ∀ r : Runtime, ∀ key ∈ r.keys, isIdentifierName (runtimeVariable key) = true ∧
      runtimeVariable key ∉ reservedWords ∧
      runtimeVariable key ∉ ["eval", "arguments"] := by
    intro r
    cases r <;> decide +kernel
  obtain ⟨hname, hfree, hspecial⟩ := hall r key h
  exact ⟨⟨isName_of_isIdentifierName hname, hfree⟩, hspecial⟩

/-- Declarations refer to `arguments`, which is no reserved word. -/
theorem isReferable_arguments : IsReferable "arguments" :=
  ⟨isName_of_isIdentifierName (by decide +kernel), by decide +kernel⟩

/-! ### The pass -/

namespace Program

section Legal

variable {o : Options} {p : Program} {name : String}

/-- What the pass binds is an argument that it declares, or may be bound. -/
theorem mem_declaredArguments_or_isBindable (h : p.module.BindsMore (p.handOver o).1.module name) :
    name ∈ p.module.declaredArguments o.resolve.1.arguments ∨ IsBindable name := by
  obtain hdeclared | hadded := bindsMore_handOver_iff.1 h
  · exact .inl hdeclared
  · obtain ⟨key, hkey, rfl⟩ := List.mem_map.1 hadded
    obtain ⟨r, -, hr⟩ := Module.exists_mem_keys_of_mem_addRuntimeExports hkey
    exact .inr (isBindable_runtimeVariable hr)

/-- An argument that the pass declares is one that the options list, and an identifier name. -/
theorem isName_of_mem_declaredArguments
    (h : name ∈ p.module.declaredArguments o.resolve.1.arguments) :
    name ∈ o.argumentsToAdd.getD [] ∧ IsName name := by
  obtain ⟨hsettings, hname⟩ := Module.mem_of_mem_declaredArguments h
  rw [o.arguments_resolve] at hsettings
  exact ⟨(List.mem_filter.1 hsettings).1, isName_of_isIdentifierName hname⟩

/-- The value of a property is one that the options list, or may be referred to. -/
theorem exists_pair_or_isReferable (h : name ∈ o.resolve.1.properties.map (·.2)) :
    IsName name ∧
      ((∃ key, .pair key name ∈ o.propertiesToInject.getD []) ∨ IsReferable name) := by
  obtain ⟨⟨key, value⟩, hpair, rfl⟩ := List.mem_map.1 h
  obtain ⟨⟨source, hsource, hsourcePair⟩, hname⟩ := Options.exists_source_of_mem_resolve hpair
  refine ⟨isName_of_isIdentifierName hname, ?_⟩
  cases source with
  | pair k v =>
      obtain ⟨rfl, rfl⟩ := Prod.mk.inj (List.mem_singleton.1 hsourcePair)
      exact .inl ⟨key, hsource⟩
  | runtime r =>
      obtain ⟨hkey, hvalue⟩ := Runtime.mem_pairs_iff.1 hsourcePair
      right
      rw [hvalue]
      exact (isBindable_runtimeVariable hkey).toIsReferable

/-- Everything that the pass binds may be bound just if that holds of the arguments that it
declares. -/
theorem forall_isBindable_iff :
    (∀ name, p.module.BindsMore (p.handOver o).1.module name → IsBindable name) ↔
      ∀ name ∈ p.module.declaredArguments o.resolve.1.arguments,
        name ∉ reservedWords ∧ name ∉ ["eval", "arguments"] := by
  constructor
  · intro hlegal name hdeclared
    have h := hlegal name (bindsMore_handOver_iff.2 (.inl hdeclared))
    exact ⟨h.unreserved, h.unrestricted⟩
  · intro hfree name h
    obtain hdeclared | hlegal := mem_declaredArguments_or_isBindable h
    · obtain ⟨hunreserved, hunrestricted⟩ := hfree name hdeclared
      exact ⟨⟨(isName_of_mem_declaredArguments hdeclared).2, hunreserved⟩, hunrestricted⟩
    · exact hlegal

/-- Everything that the pass refers to may be referred to just if it changes no call, or that holds
of the values of all properties. -/
theorem forall_isReferable_iff :
    (∀ name, p.module.RefersMore (p.handOver o).1.module name → IsReferable name) ↔
      (p.module.injectProperties (o.phases p.module.components.1).injection).1 = 0 ∨
        ∀ pair ∈ o.resolve.1.properties, pair.2 ∉ reservedWords := by
  constructor
  · intro hlegal
    by_cases hcount : (p.module.injectProperties
        (o.phases p.module.components.1).injection).1 = 0
    · exact .inl hcount
    · right
      intro pair hpair
      have hvalue : pair.2 ∈ o.resolve.1.properties.map (·.2) := List.mem_map_of_mem hpair
      exact (hlegal pair.2 (refersMore_handOver_iff.2 (.inr ⟨hcount, hvalue⟩))).unreserved
  · intro hfree name h
    obtain ⟨-, rfl⟩ | ⟨hcount, hvalue⟩ := refersMore_handOver_iff.1 h
    · exact isReferable_arguments
    · obtain ⟨pair, hpair, rfl⟩ := List.mem_map.1 hvalue
      have hunreserved := (hfree.resolve_left hcount) pair hpair
      exact ⟨(exists_pair_or_isReferable hvalue).1, hunreserved⟩

end Legal

/-- **Which names that the pass binds or refers to are legal.** All of them fit the grammar. The
only ones that may be illegal are arguments and values that the options list. All bound names are
legal if and only if no declared argument is reserved, `eval` or `arguments`; all names referred to
are legal if and only if the pass changes no call or no value of a property is reserved. -/
theorem legal_handOver_iff (o : Options) (p : Program) :
    (∀ name, p.module.BindsMore (p.handOver o).1.module name →
      IsName name ∧ (name ∈ o.argumentsToAdd.getD [] ∨ IsBindable name)) ∧
    (∀ name, p.module.RefersMore (p.handOver o).1.module name →
      IsName name ∧
        ((∃ key, .pair key name ∈ o.propertiesToInject.getD []) ∨ IsReferable name)) ∧
    ((∀ name, p.module.BindsMore (p.handOver o).1.module name → IsBindable name) ↔
      ∀ name ∈ p.module.declaredArguments o.resolve.1.arguments,
        name ∉ reservedWords ∧ name ∉ ["eval", "arguments"]) ∧
    ((∀ name, p.module.RefersMore (p.handOver o).1.module name → IsReferable name) ↔
      (p.module.injectProperties (o.phases p.module.components.1).injection).1 = 0 ∨
        ∀ pair ∈ o.resolve.1.properties, pair.2 ∉ reservedWords) := by
  refine ⟨?_, ?_, forall_isBindable_iff, forall_isReferable_iff⟩
  · intro name h
    obtain hdeclared | hlegal := mem_declaredArguments_or_isBindable h
    · obtain ⟨hlisted, hname⟩ := isName_of_mem_declaredArguments hdeclared
      exact ⟨hname, .inl hlisted⟩
    · exact ⟨hlegal.grammar, .inr hlegal⟩
  · intro name h
    obtain ⟨-, rfl⟩ | ⟨-, hvalue⟩ := refersMore_handOver_iff.1 h
    · exact ⟨isReferable_arguments.grammar, .inr isReferable_arguments⟩
    · exact exists_pair_or_isReferable hvalue

/-- The document `let a;`, as it is written. -/
def declaresVariable : Program where
  path := none
  module :=
    { span := ⟨1, 7⟩
      body :=
        [.mk (.variableDeclaration (.written ⟨1, 7⟩) .let)
          [.list [.plain .declarator (.written ⟨5, 6⟩)
            [.mk (.binding (.written ⟨5, 6⟩) "a") [], .absent]]]]
      interpreter := none }
  comments := []

/-- **The pass can bind a reserved word**: it declares `class` in front of `let a;`. -/
theorem illegal_declaresVariable :
    let o : Options := ⟨some ["class"], none, none⟩
    declaresVariable.module.BindsMore (declaresVariable.handOver o).1.module "class" ∧
      ¬ IsBindable "class" := by
  intro o
  refine ⟨bindsMore_handOver_iff.2 (.inl (by decide +kernel)), ?_⟩
  intro h
  exact h.unreserved (by decide +kernel)

end Program

end HostProps
