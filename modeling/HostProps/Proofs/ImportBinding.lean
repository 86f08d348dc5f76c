import HostProps.Proofs.Operation
import HostProps.Proofs.RuntimeExports

/-!
# Import Bindings after an Operation

Whether a declarator binds an import depends on its pattern, on the form of its initialiser and on
one string. Injection may change calls inside of all three, but neither the forms that are asked for
nor any string. Widening changes the pattern of a declarator only if its initialiser is
`arguments[0]`, which is no import. And no declaration of an argument binds an import, not even
`const default = arguments[0].default;`, for what has the member `default` there is no `await`.

## Main results

* `Node.importBinding?_injected`: injection into a declarator.
* `Node.importBinding?_of_widenDeclarator?`: widening of a declarator.
* `Node.importBinding?_argumentDeclarator`: declarations of arguments.
-/

namespace HostProps

namespace Node

/-! ### Injection -/

section Injected

variable {components : List String} {properties : List Node}

/-- Injection leaves what `import(x)` imports, up to what happens inside of it. -/
theorem importSource?_injected (n : Node) :
    (injected components properties n).importSource? =
      n.importSource?.map (injected components properties) := by
  rw [importSource?.eq_def, importSource?.eq_def, unwrapParens_injected]
  generalize n.unwrapParens = e
  split
  · rename_i heq
    obtain ⟨callee, arguments, rfl, rfl, hfirst⟩ := injected_eq_call heq
    rw [unwrapParens_injected]
    dsimp only [plain]
    generalize callee.unwrapParens = c
    split
    · rename_i hkeyword
      obtain ⟨ps, rfl, -⟩ := (injected_eq_mk rfl).1 hkeyword
      exact hfirst
    · rename_i hne
      split
      · exact (hne _ _ _ rfl).elim
      · rfl
  · rename_i hne
    split
    · obtain ⟨arguments', hcall, -⟩ := injected_call _ _ _
      exact (hne _ _ _ hcall).elim
    · rfl

/-- Injection leaves what `await import(x)` imports, up to what happens inside of it. -/
theorem awaitedImportSource?_injected (n : Node) :
    (injected components properties n).awaitedImportSource? =
      n.awaitedImportSource?.map (injected components properties) := by
  rw [awaitedImportSource?.eq_def, awaitedImportSource?.eq_def, unwrapParens_injected]
  generalize n.unwrapParens = e
  split
  · rename_i heq
    obtain ⟨qs, rfl, hqs⟩ := (injected_eq_mk rfl).1 heq
    obtain ⟨argument, rfl, rfl⟩ := List.map_eq_singleton_iff.1 hqs
    exact importSource?_injected argument
  · rename_i hne
    split
    · exact (hne _ _ rfl).elim
    · rfl

/-- Injection leaves what `(await import(x)).default` imports, up to what happens inside of it. -/
theorem defaultMemberSource?_injected (n : Node) :
    (injected components properties n).defaultMemberSource? =
      n.defaultMemberSource?.map (injected components properties) := by
  rw [defaultMemberSource?.eq_def, defaultMemberSource?.eq_def, unwrapParens_injected]
  generalize n.unwrapParens = e
  split
  · rename_i heq
    obtain ⟨qs, rfl, hqs⟩ := (injected_eq_mk rfl).1 heq
    obtain ⟨object, property, rfl, rfl, hproperty⟩ := exists_of_map_eq_pair hqs
    obtain ⟨ps, rfl, -⟩ := (injected_eq_mk rfl).1 hproperty
    exact awaitedImportSource?_injected object
  · rename_i hne
    split
    · exact (hne _ _ _ _ rfl).elim
    · rfl

/-- Injection leaves the specifier that a source names. -/
theorem specifier?_injected (n : Node) :
    (injected components properties n).specifier? = n.specifier? := by
  rw [specifier?.eq_def, specifier?.eq_def, unwrapParens_injected]
  generalize n.unwrapParens = e
  split
  · rename_i heq
    obtain ⟨callee, arguments, rfl, rfl, hfirst⟩ := injected_eq_call heq
    rw [unwrapParens_injected, hfirst]
    dsimp only [plain]
    generalize callee.unwrapParens = c
    split
    · rename_i hkeyword
      obtain ⟨ps, rfl, -⟩ := (injected_eq_mk rfl).1 hkeyword
      rfl
    · rename_i hsuper
      obtain ⟨ps, rfl, -⟩ := (injected_eq_mk rfl).1 hsuper
      rfl
    · rename_i hkeyword hsuper
      split
      · exact (hkeyword _ _ _ rfl).elim
      · exact (hsuper _ _ rfl).elim
      · cases firstArgument? arguments.items with
        | none => rfl
        | some e => exact string?_injected e
  · rename_i hne
    split
    · obtain ⟨arguments', hcall, -⟩ := injected_call _ _ _
      exact (hne _ _ _ hcall).elim
    · exact string?_injected e

/-- Injection leaves the variable that `{default: A, …}` binds. -/
theorem destructuredDefault?_injected (n : Node) :
    (injected components properties n).destructuredDefault? = n.destructuredDefault? := by
  rw [destructuredDefault?.eq_def, destructuredDefault?.eq_def]
  split
  · rename_i heq
    obtain ⟨qs, rfl, hqs⟩ := (injected_eq_mk rfl).1 heq
    obtain ⟨list, rfl, rfl⟩ := List.map_eq_singleton_iff.1 hqs
    rw [items_injected]
    dsimp only [plain]
    cases list.items with
    | nil => rfl
    | cons q qs =>
        rw [List.map_cons]
        split
        · rename_i hcons
          obtain ⟨hq, -⟩ := List.cons.inj hcons
          obtain ⟨ps, rfl, hps⟩ := (injected_eq_mk rfl).1 hq
          obtain ⟨key, value, rfl, rfl, rfl⟩ := exists_of_map_eq_pair hps
          rw [staticKey?_congr (head_injected key), binding?_congr (head_injected value)]
        · rename_i hpair
          split
          · rename_i hcons
            obtain ⟨rfl, -⟩ := List.cons.inj hcons
            exact (hpair _ _ _ _ rfl).elim
          · rfl
  · rename_i hne
    split
    · exact (hne _ _ rfl).elim
    · rfl

/-- Injection changes the pattern and the initialiser of a declarator. -/
theorem declarator?_injected (n : Node) :
    (injected components properties n).declarator? =
      n.declarator?.map (Prod.map (injected components properties)
        (Option.map (injected components properties))) := by
  rw [declarator?.eq_def, declarator?.eq_def]
  split
  · rename_i heq
    obtain ⟨qs, rfl, hqs⟩ := (injected_eq_mk rfl).1 heq
    obtain ⟨pattern, init, rfl, rfl, rfl⟩ := exists_of_map_eq_pair hqs
    rw [isAbsent_congr (head_injected init)]
    show _ = Option.map _ (some (pattern, if init.isAbsent then none else some init))
    cases init.isAbsent <;> rfl
  · rename_i hne
    split
    · exact (hne _ _ _ rfl).elim
    · rfl

/-- Injection changes each declarator of a declaration. -/
theorem declarators?_injected (n : Node) :
    (injected components properties n).declarators? =
      n.declarators?.map (List.map (injected components properties)) := by
  rw [declarators?.eq_def, declarators?.eq_def]
  split
  · rename_i heq
    obtain ⟨qs, rfl, hqs⟩ := (injected_eq_mk rfl).1 heq
    obtain ⟨declarators, rfl, rfl⟩ := List.map_eq_singleton_iff.1 hqs
    rw [items_injected]
    rfl
  · rename_i hne
    split
    · exact (hne _ _ _ rfl).elim
    · rfl

/-- Injection leaves the variable that a pattern of some shape binds. -/
theorem boundName?_injected (shape : ImportShape) (n : Node) :
    shape.boundName? (injected components properties n) = shape.boundName? n := by
  cases shape with
  | destructuredDefaultMember | destructuredDefault => exact destructuredDefault?_injected n
  | defaultMember | wholeModule => exact binding?_congr (head_injected n)

/-- Injection leaves what an initialiser of some shape imports, up to what happens inside of it. -/
theorem source?_injected (shape : ImportShape) (n : Node) :
    shape.source? (injected components properties n) =
      (shape.source? n).map (injected components properties) := by
  cases shape with
  | destructuredDefaultMember | defaultMember => exact defaultMemberSource?_injected n
  | destructuredDefault | wholeModule => exact awaitedImportSource?_injected n

/-- Injection leaves what a declarator of some shape binds. -/
theorem match?_injected (shape : ImportShape) (pattern init : Node) :
    shape.match? (injected components properties pattern) (injected components properties init) =
      shape.match? pattern init := by
  rw [ImportShape.match?, ImportShape.match?, boundName?_injected, source?_injected]
  cases shape.boundName? pattern with
  | none => rfl
  | some name =>
      cases shape.source? init with
      | none => rfl
      | some source =>
          show Option.bind (injected components properties source).specifier? _ = _
          rw [specifier?_injected]
          rfl

/-- **Injection leaves the import that a declarator binds.** -/
theorem importBinding?_injected (d : Node) :
    (injected components properties d).importBinding? = d.importBinding? := by
  rw [importBinding?.eq_def, importBinding?.eq_def, declarator?_injected]
  cases d.declarator? with
  | none => rfl
  | some r =>
      obtain ⟨pattern, init⟩ := r
      cases init with
      | none => rfl
      | some init =>
          show ImportShape.all.findSome? _ = ImportShape.all.findSome? _
          congr 1
          funext shape
          exact match?_injected shape pattern init

end Injected

/-! ### Initialisers that are no imports -/

/-- `arguments[0]` is no import. -/
theorem source?_of_isFirstArgument {n : Node} (h : n.isFirstArgument = true)
    (shape : ImportShape) : shape.source? n = none := by
  rw [isFirstArgument.eq_def] at h
  split at h
  · rename_i o object computedOrigin index hunwrap
    have hawaited : n.awaitedImportSource? = none := by
      rw [awaitedImportSource?.eq_def, hunwrap]
    have hmember : n.defaultMemberSource? = none := by
      rw [defaultMemberSource?.eq_def, hunwrap]
    cases shape with
    | destructuredDefaultMember | defaultMember => exact hmember
    | destructuredDefault | wholeModule => exact hawaited
  · cases h

/-- `arguments[0].name` is no import, also if `name` is `default`. -/
theorem source?_argument (name : String) (shape : ImportShape) :
    shape.source? (generatedMember firstArgument (generatedProperty name)) = none := by
  have hmember : (generatedMember firstArgument (generatedProperty name)).defaultMemberSource? =
      none := by
    rw [defaultMemberSource?.eq_def]
    split
    · rename_i hunwrap
      obtain ⟨rfl, -⟩ := List.cons.inj (Node.mk.inj hunwrap).2
      rfl
    · rfl
  cases shape with
  | destructuredDefaultMember | defaultMember => exact hmember
  | destructuredDefault | wholeModule => rfl

/-- A declarator binds no import if its initialiser is none. -/
theorem importBinding?_of_source? {o : Origin} {pattern init : Node}
    (h : ∀ shape : ImportShape, shape.source? init = none) :
    (plain .declarator o [pattern, init]).importBinding? = none := by
  have hmatch : ∀ shape : ImportShape, shape.match? pattern init = none := by
    intro shape
    rw [ImportShape.match?, h shape]
    cases shape.boundName? pattern <;> rfl
  have hdeclarator : (plain .declarator o [pattern, init]).declarator? =
      some (pattern, if init.isAbsent then none else some init) := rfl
  rw [importBinding?.eq_def, hdeclarator]
  cases init.isAbsent with
  | true => rfl
  | false => exact List.findSome?_eq_none_iff.2 fun shape _ => hmatch shape

/-- **Declarations of arguments bind no import.** -/
theorem importBinding?_argumentDeclarator (name : String) :
    (argumentDeclarator name).importBinding? = none :=
  importBinding?_of_source? (source?_argument name)

/-- **Widening leaves the import that a declarator binds**: none. -/
theorem importBinding?_of_widenDeclarator? {runtimes : List Runtime} {d d' : Node}
    {keys : List String} (h : d.widenDeclarator? runtimes = some (keys, d')) :
    d'.importBinding? = d.importBinding? := by
  obtain ⟨o, patternOrigin, properties, init, rfl, hinit, -, rfl⟩ :=
    widenDeclarator?_eq_some_iff.1 h
  rw [importBinding?_of_source? (source?_of_isFirstArgument hinit),
    importBinding?_of_source? (source?_of_isFirstArgument hinit)]

end Node

end HostProps
