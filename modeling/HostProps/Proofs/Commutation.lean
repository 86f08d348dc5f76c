import HostProps.Proofs.RuntimeExports

/-!
# Operations commute

Each of the three operations decides where to act by looking at a module that the others may have
changed, but none of them changes what another looks for:

* insertion looks for the first declaration of variables. The others keep the head of every
  statement, so it stays where it is;
* injection looks for elements. There are none in what the others generate, and the others touch no
  call;
* widening looks for a pattern of an object with `arguments[0]` as its initialiser, for the keys in
  it and for its rest element. Injection keeps all of that, and a declaration of an argument has no
  such pattern.

So two operations leave the same module in either order, and each tells the same as it does alone.

## Main results

* `Node.widenStatement?_injected`: widening after injection, in a statement.
* `Node.elementCount_of_widenStatement?`: elements after widening.
* `Cut.of_editFirst?`: the place of declarations after widening.
* `Module.insertArguments_injectProperties`, `Module.addRuntimeExports_injectProperties`,
  `Module.addRuntimeExports_insertArguments`: pairs of operations.
-/

namespace HostProps

namespace Node

/-! ### Widening after injection -/

section Injected

variable {components : List String} {properties : List Node}

/-- Injection leaves whether an expression is `arguments[0]`. -/
theorem isFirstArgument_injected (n : Node) :
    (injected components properties n).isFirstArgument = n.isFirstArgument := by
  rw [isFirstArgument.eq_def, isFirstArgument.eq_def, unwrapParens_injected]
  generalize n.unwrapParens = e
  split
  · rename_i heq
    obtain ⟨ps, rfl, hps⟩ := (injected_eq_mk rfl).1 heq
    obtain ⟨object, computed, rfl, rfl, hcomputed⟩ := exists_of_map_eq_pair hps
    obtain ⟨qs, rfl, hqs⟩ := (injected_eq_mk rfl).1 hcomputed
    obtain ⟨index, rfl, rfl⟩ := List.map_eq_singleton_iff.1 hqs
    rw [unwrapParens_injected, unwrapParens_injected, reference?_congr (head_injected _)]
    dsimp only [plain]
    congr 1
    generalize index.unwrapParens = e
    split
    · rename_i heq
      obtain ⟨rs, rfl, -⟩ := (injected_eq_mk rfl).1 heq
      rfl
    · rename_i hne
      split
      · exact (hne _ _ _ _ rfl).elim
      · rfl
  · rename_i hne
    split
    · exact (hne _ _ _ _ rfl).elim
    · rfl

/-- Injection leaves the key of a property of a pattern. -/
theorem patternKey?_injected (n : Node) :
    (injected components properties n).patternKey? = n.patternKey? := by
  rw [patternKey?.eq_def, patternKey?.eq_def]
  split
  · rename_i heq
    obtain ⟨ps, rfl, hps⟩ := (injected_eq_mk rfl).1 heq
    obtain ⟨key, value, rfl, rfl, -⟩ := exists_of_map_eq_pair hps
    exact staticKey?_congr (head_injected key)
  · rename_i heq
    obtain ⟨ps, rfl, hps⟩ := (injected_eq_mk rfl).1 heq
    obtain ⟨name, value, rfl, rfl, -⟩ := exists_of_map_eq_pair hps
    exact binding?_congr (head_injected name)
  · rename_i hpair hshorthand
    split
    · exact (hpair _ _ _ rfl).elim
    · exact (hshorthand _ _ _ rfl).elim
    · rfl

end Injected

end Node

/-- Widening the properties of a pattern after injection: the same keys are missing, and what is
added for them holds no elements. -/
theorem widenProperties_map_injected {components : List String} {generated : List Node}
    (runtimes : List Runtime) (properties : List Node) :
    widenProperties runtimes (properties.map (Node.injected components generated)) =
      Prod.map id (List.map (Node.injected components generated))
        (widenProperties runtimes properties) := by
  have hkeys : (properties.map (Node.injected components generated)).filterMap Node.patternKey? =
      properties.filterMap Node.patternKey? := by
    rw [List.filterMap_map]
    exact List.filterMap_congr fun n _ => Node.patternKey?_injected n
  have hrest : (fun n : Node => !n.isRest) ∘ Node.injected components generated =
      fun n => !n.isRest := by
    funext n
    exact congrArg not (Node.isRest_congr (Node.head_injected n))
  have hadded : ∀ keys, (exportPairs keys).map (Node.injected components generated) =
      exportPairs keys := by
    intro keys
    have hself := List.map_congr_left (l := exportPairs keys) (g := id)
      (f := Node.injected components generated)
      fun q hq => Node.injected_eq_self (isGenerated_of_mem_exportPairs hq).elementCount
    rw [hself, List.map_id]
  simp only [widenProperties, hkeys]
  rw [List.takeWhile_map, List.dropWhile_map, hrest]
  refine Prod.ext rfl ?_
  show _ = List.map (Node.injected components generated) (_ ++ exportPairs _ ++ _)
  rw [List.map_append, List.map_append, hadded]
  rfl

namespace Node

section Injected

variable {components : List String} {properties : List Node} {runtimes : List Runtime}

/-- Widening a declarator has nothing to do with injection into it. -/
theorem widenDeclarator?_injected (d : Node) :
    (injected components properties d).widenDeclarator? runtimes =
      (d.widenDeclarator? runtimes).map (Prod.map id (injected components properties)) := by
  rw [widenDeclarator?.eq_def, widenDeclarator?.eq_def]
  split
  · rename_i heq
    obtain ⟨ps, rfl, hps⟩ := (injected_eq_mk rfl).1 heq
    obtain ⟨pattern, init, rfl, hpattern, rfl⟩ := exists_of_map_eq_pair hps
    obtain ⟨qs, rfl, hqs⟩ := (injected_eq_mk rfl).1 hpattern
    obtain ⟨l, rfl, hl⟩ := List.map_eq_singleton_iff.1 hqs
    obtain ⟨own, rfl, rfl⟩ := (injected_eq_mk rfl).1 hl
    rw [isFirstArgument_injected, widenProperties_map_injected]
    show _ = Option.map _ (if init.isFirstArgument then _ else none)
    cases init.isFirstArgument with
    | false => rfl
    | true =>
        have hwidened : ∀ o patternOrigin l,
            injected components properties
                (plain .declarator o [plain .objectPattern patternOrigin [list l], init]) =
              plain .declarator o [plain .objectPattern patternOrigin
                [list (l.map (injected components properties))],
                injected components properties init] := by
          intro o patternOrigin l
          rw [plain, injected_mk_of_not_call rfl, List.map_cons, plain, injected_mk_of_not_call rfl,
            List.map_singleton, injected_list]
          rfl
        exact congrArg (fun d => some (_, d)) (hwidened _ _ _).symm
  · rename_i hne
    split
    · exact (hne _ _ _ _ rfl).elim
    · rfl

/-- Nor has widening a statement. -/
theorem widenStatement?_injected (n : Node) :
    (injected components properties n).widenStatement? runtimes =
      (n.widenStatement? runtimes).map (Prod.map id (injected components properties)) := by
  rw [widenStatement?.eq_def, widenStatement?.eq_def]
  split
  · rename_i heq
    obtain ⟨ps, rfl, hps⟩ := (injected_eq_mk rfl).1 heq
    obtain ⟨l, rfl, hl⟩ := List.map_eq_singleton_iff.1 hps
    obtain ⟨ds, rfl, rfl⟩ := (injected_eq_mk rfl).1 hl
    rw [widenFirst?_eq_editFirst?, editFirst?_map widenDeclarator?_injected]
    show _ = Option.map _ (Option.map _ (widenFirst? runtimes ds))
    rw [widenFirst?_eq_editFirst?]
    cases editFirst? (widenDeclarator? runtimes) ds with
    | none => rfl
    | some r =>
        have hwidened : ∀ o kind l,
            injected components properties (mk (.variableDeclaration o kind) [list l]) =
              mk (.variableDeclaration o kind) [list (l.map (injected components properties))] := by
          intro o kind l
          rw [injected_mk_of_not_call rfl, List.map_singleton, injected_list]
        exact congrArg (fun d => some (_, d)) (hwidened _ _ _).symm
  · rename_i hne
    split
    · exact (hne _ _ _ rfl).elim
    · rfl

end Injected

/-! ### Elements after widening -/

section Elements

variable (components : List String)

/-- Away from calls, the elements of a tree are counted from the inside out. -/
theorem compositionalAt_elementCount {h : Head} (hc : h.isCall = false) :
    CompositionalAt (elementCount components) h := by
  intro ps qs heq
  rw [elementCount_mk_of_not_call hc, elementCount_mk_of_not_call hc, heq]

/-- There is no element in the properties that widening puts into a pattern. -/
theorem elementCount_exportPairs (o : Origin) (before : List Node) (keys : List String)
    (after : List Node) :
    (plain .objectPattern o [list (before ++ exportPairs keys ++ after)]).elementCount components =
      (plain .objectPattern o [list (before ++ after)]).elementCount components := by
  have hnone : ((exportPairs keys).map (elementCount components)).sum = 0 := by
    rw [List.sum_eq_zero_iff_forall_eq_nat]
    intro count hcount
    obtain ⟨pair, hpair, rfl⟩ := List.mem_map.1 hcount
    exact (isGenerated_of_mem_exportPairs hpair).elementCount
  have hlist : (list (before ++ exportPairs keys ++ after)).elementCount components =
      (list (before ++ after)).elementCount components := by
    rw [list, list, elementCount_mk_of_not_call rfl, elementCount_mk_of_not_call rfl]
    simp only [List.map_append, List.sum_append, hnone, Nat.add_zero]
  exact compositionalAt_elementCount components rfl _ _ (congrArg (fun a => [a]) hlist)

/-- Widening leaves the number of elements. -/
theorem elementCount_of_widenStatement? {runtimes : List Runtime} {n n' : Node}
    {keys : List String} (h : n.widenStatement? runtimes = some (keys, n')) :
    n'.elementCount components = n.elementCount components :=
  widenStatement?_congr (compositionalAt_elementCount components rfl)
    (fun _ _ => compositionalAt_elementCount components rfl)
    (fun _ _ _ => widenDeclarator?_congr (fun _ => compositionalAt_elementCount components rfl)
      (elementCount_exportPairs components)) h

end Elements

end Node

/-! ### Pairs of operations -/

namespace Cut

variable {body before after : List Node} {runtimes : List Runtime}

/-- Nothing in front of the cut can be widened. -/
theorem widenStatement?_before (h : Cut body before after) :
    ∀ n ∈ before, n.widenStatement? runtimes = none := by
  intro n hn
  cases hwiden : n.widenStatement? runtimes with
  | none => rfl
  | some r =>
      have hvar := Node.isVariableDeclaration_of_widenStatement? hwiden
      rw [h.before n hn] at hvar
      cases hvar

/-- Neither can it once arguments are declared at the cut. -/
theorem widenStatement?_declared (h : Cut body before after) (names : List String) :
    ∀ n ∈ before ++ names.map Node.argumentDeclaration, n.widenStatement? runtimes = none := by
  intro n hn
  obtain hn | hn := List.mem_append.1 hn
  · exact h.widenStatement?_before n hn
  · obtain ⟨name, -, rfl⟩ := List.mem_map.1 hn
    exact Node.widenStatement?_argumentDeclaration name

/-- A cut stays where it is when a statement after it is widened, for that keeps all heads. -/
theorem of_editFirst? {keys : List String} {after' : List Node} (h : Cut body before after)
    (hedit : editFirst? (Node.widenStatement? runtimes) after = some (keys, after')) :
    Cut (before ++ after') before after' ∧ after'.isEmpty = after.isEmpty := by
  have hmap : after'.map Node.isVariableDeclaration = after.map Node.isVariableDeclaration :=
    map_of_editFirst? (fun _ _ _ hwiden =>
      Node.isVariableDeclaration_congr (Node.head_of_widenStatement? hwiden)) hedit
  refine ⟨⟨rfl, h.before, ?_⟩, ?_⟩
  · intro n hn
    have hhead : (after.map Node.isVariableDeclaration).head? = some n.isVariableDeclaration := by
      rw [← hmap, List.head?_map, Option.mem_def.1 hn]
      rfl
    rw [List.head?_map] at hhead
    obtain ⟨x, hx, heq⟩ := Option.map_eq_some_iff.1 hhead
    rw [← heq]
    exact h.after x hx
  · rw [← List.isEmpty_map (f := Node.isVariableDeclaration), hmap, List.isEmpty_map]

end Cut

namespace Module

section Pairs

variable (names : List String) (i : Injection) (runtimes : List Runtime) (m : Module)

/-- Insertion after injection tells the same as before it, and leaves what injection leaves after
insertion. -/
theorem insertArguments_injectProperties :
    (m.injectProperties i).2.1.insertArguments names =
      ((m.insertArguments names).1, ((m.insertArguments names).2.1.injectProperties i).2.1,
        (m.insertArguments names).2.2) := by
  obtain ⟨before, after, hcut⟩ := Cut.exists_of_body m.body
  rw [injectProperties_eq i m]
  split
  · rename_i hidle
    rw [injectProperties_eq, if_pos hidle]
  · rename_i hidle
    have hcut' := hcut.map (f := Node.injected i.components i.generated) Node.head_injected
    have harguments : ∀ names : List String,
        (names.map Node.argumentDeclaration).map (Node.injected i.components i.generated) =
          names.map Node.argumentDeclaration := by
      intro names
      rw [List.map_map]
      refine List.map_congr_left fun name _ => ?_
      exact Node.injected_eq_self (Node.elementCount_argumentDeclaration _ name)
    rw [insertArguments_of_cut hcut', insertArguments_of_cut hcut, List.isEmpty_map,
      List.length_map]
    split
    · rw [injectProperties_eq, if_neg hidle]
    · rw [injectProperties_eq, if_neg hidle]
      simp only [List.map_append, harguments]

/-- Injection tells the same about any two bodies with equally many elements. -/
theorem injectProperties_report {m m' : Module}
    (h : (m'.body.map (Node.elementCount i.components)).sum =
      (m.body.map (Node.elementCount i.components)).sum) :
    (m'.injectProperties i).1 = (m.injectProperties i).1 ∧
      (m'.injectProperties i).2.2 = (m.injectProperties i).2.2 := by
  rw [injectProperties_eq, injectProperties_eq]
  split
  · exact ⟨rfl, rfl⟩
  · rw [h]
    exact ⟨rfl, rfl⟩

/-- Insertion leaves the number of elements. -/
theorem sum_elementCount_insertArguments :
    ((m.insertArguments names).2.1.body.map (Node.elementCount i.components)).sum =
      (m.body.map (Node.elementCount i.components)).sum := by
  obtain ⟨before, names', after, hcut, h⟩ := exists_insertArguments_body names m
  have hnone : ((names'.map Node.argumentDeclaration).map
      (Node.elementCount i.components)).sum = 0 := by
    rw [List.sum_eq_zero_iff_forall_eq_nat]
    intro count hcount
    obtain ⟨n, hn, rfl⟩ := List.mem_map.1 hcount
    obtain ⟨name, -, rfl⟩ := List.mem_map.1 hn
    exact Node.elementCount_argumentDeclaration _ name
  rw [h, hcut.append]
  simp only [List.map_append, List.sum_append, hnone, Nat.add_zero]

/-- Widening leaves the number of elements. -/
theorem sum_elementCount_addRuntimeExports :
    ((m.addRuntimeExports runtimes).2.1.body.map (Node.elementCount i.components)).sum =
      (m.body.map (Node.elementCount i.components)).sum := by
  rw [map_body_addRuntimeExports fun _ _ _ => Node.elementCount_of_widenStatement? i.components]

/-- Widening after injection tells the same as before it, and leaves what injection leaves after
widening. -/
theorem addRuntimeExports_injectProperties :
    (m.injectProperties i).2.1.addRuntimeExports runtimes =
      ((m.addRuntimeExports runtimes).1,
        ((m.addRuntimeExports runtimes).2.1.injectProperties i).2.1,
        (m.addRuntimeExports runtimes).2.2) := by
  rw [injectProperties_eq i m]
  split
  · rename_i hidle
    rw [injectProperties_eq, if_pos hidle]
  · rename_i hidle
    rw [addRuntimeExports_eq, addRuntimeExports_eq]
    split
    · rw [injectProperties_eq, if_neg hidle]
    · rw [editFirst?_map Node.widenStatement?_injected]
      cases editFirst? (Node.widenStatement? runtimes) m.body with
      | none => rw [injectProperties_eq, if_neg hidle]; rfl
      | some r => rw [injectProperties_eq, if_neg hidle]; rfl

/-- Widening does not look at statements in front that cannot be widened. -/
theorem addRuntimeExports_of_append {m : Module} {front after : List Node}
    (hbody : m.body = front ++ after) (hfront : ∀ n ∈ front, n.widenStatement? runtimes = none) :
    m.addRuntimeExports runtimes =
      if runtimes.isEmpty then ([], m, [])
      else
        match editFirst? (Node.widenStatement? runtimes) after with
        | some (keys, after') =>
          (keys, { m with body := front ++ after' }, keys.map exportAddedEvent)
        | none => ([], m, []) := by
  rw [addRuntimeExports_eq, hbody, editFirst?_append hfront]
  cases editFirst? (Node.widenStatement? runtimes) after <;> rfl

/-- Widening after insertion tells the same as before it, and leaves what insertion leaves after
widening; and insertion tells the same after widening. -/
theorem addRuntimeExports_insertArguments :
    (m.insertArguments names).2.1.addRuntimeExports runtimes =
        ((m.addRuntimeExports runtimes).1,
          ((m.addRuntimeExports runtimes).2.1.insertArguments names).2.1,
          (m.addRuntimeExports runtimes).2.2) ∧
      ((m.addRuntimeExports runtimes).2.1.insertArguments names).1 =
        (m.insertArguments names).1 ∧
      ((m.addRuntimeExports runtimes).2.1.insertArguments names).2.2 =
        (m.insertArguments names).2.2 := by
  obtain ⟨before, after, hcut⟩ := Cut.exists_of_body m.body
  have hbefore : ∀ n ∈ before, n.widenStatement? runtimes = none := hcut.widenStatement?_before
  have hdeclared : ∀ names : List String, ∀ n ∈ before ++ names.map Node.argumentDeclaration,
      n.widenStatement? runtimes = none := hcut.widenStatement?_declared
  rw [addRuntimeExports_of_append runtimes hcut.append hbefore]
  -- Only what is after the cut is widened, and that does not depend on what stands in front of it.
  cases hruntimes : runtimes.isEmpty with
  | true =>
      rw [if_pos rfl, addRuntimeExports_eq, if_pos hruntimes]
      exact ⟨rfl, rfl, rfl⟩
  | false =>
      rw [if_neg Bool.false_ne_true]
      cases hedit : editFirst? (Node.widenStatement? runtimes) after with
      | none =>
          refine ⟨?_, rfl, rfl⟩
          rw [insertArguments_of_cut hcut]
          split
          · rw [addRuntimeExports_of_append runtimes hcut.append hbefore, hruntimes, hedit]
            rfl
          · rw [addRuntimeExports_of_append runtimes rfl (hdeclared _), hruntimes, hedit]
            rfl
      | some r =>
          obtain ⟨keys, after'⟩ := r
          obtain ⟨hcut', hempty⟩ := hcut.of_editFirst? hedit
          have hwidened := insertArguments_of_cut (m := { m with body := before ++ after' }) hcut'
          rw [insertArguments_of_cut hcut, hwidened, hempty]
          split
          · refine ⟨?_, rfl, rfl⟩
            rw [addRuntimeExports_of_append runtimes hcut.append hbefore, hruntimes, hedit]
            rfl
          · refine ⟨?_, rfl, rfl⟩
            rw [addRuntimeExports_of_append runtimes rfl (hdeclared _), hruntimes, hedit]
            rfl

end Pairs

end Module

end HostProps
