import HostProps.Proofs.RuntimeExports

/-!
# Variables in Trees

Two lists of names are read off a tree.

* `Node.boundNames`: the variables that a pattern binds, or a declaration of variables in all of its
  patterns, from first to last. A default, a computed key and an initialiser are expressions, so
  nothing in them counts, whatever functions they hold.
* `Node.references`: the identifiers that are neither bound by a pattern nor only the name of a
  property, once for each place where they stand.

Both are lists, not sets: a variable that is bound twice occurs twice, and what an operation adds to
a tree is told by how often a name occurs before and after it.

Injection leaves the bound names of every tree, and adds the references of the injected properties
once for each element. Widening adds the local names of the missing keys to the bound names of the
statement that it changes, and leaves its references.

## Main results

* `Node.boundNames_injected`, `Node.count_references_injected`: injection.
* `Node.boundNames_widenProperties`, `Node.boundNames_of_widenStatement?`,
  `Node.references_of_widenStatement?`: widening.
* `Injection.references_generated`: injected properties refer to the values of their pairs.
-/

namespace HostProps

namespace Head

/-- The variables that a node binds, told by what each of its parts binds. -/
def boundNames (parts : List (List String)) : Head → List String
  | .binding _ text => [text]
  | .sequence | .rest _ _ | .plain .objectPattern _ | .plain .arrayPattern _
  | .variableDeclaration _ _ | .plain .exportDeclaration _ => parts.flatten
  | .plain .declarator _ | .plain .assignmentPattern _ | .plain .shorthandPattern _ =>
    (parts.take 1).flatten
  | .plain .keyValuePattern _ => (parts.drop 1).flatten
  | _ => []

/-- The identifier that a node consists of. -/
def references : Head → List String
  | .reference _ text => [text]
  | _ => []

end Head

namespace Node

/-! ### Bound names -/

mutual

/-- The variables that a pattern or a declaration of variables binds, from first to last. -/
def boundNames : Node → List String
  | mk h ps => h.boundNames (boundNamesOfParts ps)

/-- The variables that each of some trees binds. -/
def boundNamesOfParts : List Node → List (List String)
  | [] => []
  | n :: ns => boundNames n :: boundNamesOfParts ns

end

/-- The variables that the parts bind are those of each part. -/
theorem boundNamesOfParts_eq_map (ns : List Node) : boundNamesOfParts ns = ns.map boundNames := by
  induction ns with
  | nil => rfl
  | cons n ns ih => rw [boundNamesOfParts, ih, List.map_cons]

/-- The variables that a node binds: those of some of its parts. -/
theorem boundNames_mk (h : Head) (ps : List Node) :
    (mk h ps).boundNames = h.boundNames (ps.map boundNames) := by
  rw [boundNames, boundNamesOfParts_eq_map]

/-- Bound names are collected from the inside out. -/
theorem compositional_boundNames : Compositional boundNames := by
  intro h ps qs heq
  rw [boundNames_mk, boundNames_mk, heq]

/-- A list binds what its items bind. -/
theorem boundNames_list (ns : List Node) : (list ns).boundNames = ns.flatMap boundNames := by
  rw [list, boundNames_mk, List.flatMap_def]
  rfl

/-- The pattern of an object binds what its properties bind. -/
theorem boundNames_objectPattern (o : Origin) (properties : List Node) :
    (plain .objectPattern o [list properties]).boundNames = properties.flatMap boundNames := by
  rw [plain, boundNames_mk, List.map_singleton, boundNames_list]
  simp [Head.boundNames]

/-- A declarator binds what its pattern binds. -/
theorem boundNames_declarator (o : Origin) (pattern init : Node) :
    (plain .declarator o [pattern, init]).boundNames = pattern.boundNames := by
  rw [plain, boundNames_mk]
  simp [Head.boundNames]

/-- A declaration binds what its declarators bind. -/
theorem boundNames_variableDeclaration (o : Origin) (kind : VariableKind) (ds : List Node) :
    (mk (.variableDeclaration o kind) [list ds]).boundNames = ds.flatMap boundNames := by
  rw [boundNames_mk, List.map_singleton, boundNames_list]
  simp [Head.boundNames]

/-- The declaration of an argument binds its name. -/
theorem boundNames_argumentDeclaration (name : String) :
    (argumentDeclaration name).boundNames = [name] := rfl

/-- A generated pair of a pattern binds its name. -/
theorem boundNames_generatedPatternPair (key name : String) :
    (generatedPatternPair key name).boundNames = [name] := rfl

/-- The pairs for some keys bind the local names of these keys. -/
theorem flatMap_boundNames_exportPairs (keys : List String) :
    (exportPairs keys).flatMap boundNames = keys.map runtimeVariable := by
  rw [exportPairs, List.flatMap_map]
  simp only [boundNames_generatedPatternPair, ← List.map_eq_flatMap]

/-! ### References -/

mutual

/-- The identifiers of a tree that are neither bound by a pattern nor only the name of a property:
the uses of variables. Labels, and the names of functions and classes, look the same and are among
them. -/
def references : Node → List String
  | mk h ps => h.references ++ referencesOfParts ps

/-- The uses of variables in some trees. -/
def referencesOfParts : List Node → List String
  | [] => []
  | n :: ns => references n ++ referencesOfParts ns

end

/-- The uses of variables in some trees are those in each tree. -/
theorem referencesOfParts_eq_flatMap (ns : List Node) :
    referencesOfParts ns = ns.flatMap references := by
  induction ns with
  | nil => rfl
  | cons n ns ih => rw [referencesOfParts, ih, List.flatMap_cons]

/-- The uses of variables in a node: itself, if it is one, and those in its parts. -/
theorem references_mk (h : Head) (ps : List Node) :
    (mk h ps).references = h.references ++ ps.flatMap references := by
  rw [references, referencesOfParts_eq_flatMap]

/-- Uses of variables are collected from the inside out. -/
theorem compositional_references : Compositional references := by
  intro h ps qs heq
  rw [references_mk, references_mk, List.flatMap_def, List.flatMap_def, heq]

/-- The declaration of an argument refers to `arguments`, and to nothing else. -/
theorem references_argumentDeclaration (name : String) :
    (argumentDeclaration name).references = ["arguments"] := by
  rw [argumentDeclaration, generatedProperty]
  split <;> rfl

/-- A generated key refers to nothing. -/
theorem references_generatedKey (name : String) : (generatedKey name).references = [] := by
  rw [generatedKey]
  split <;> rfl

/-- A generated pair refers to its value, also if it has no key of its own. -/
theorem references_generatedPair (key value : String) :
    (generatedPair key value).references = [value] := by
  rw [generatedPair]
  split
  · rename_i h
    obtain ⟨heq, -⟩ := Bool.and_eq_true_iff.1 h
    rw [eq_of_beq heq]
    rfl
  · have hkey := references_generatedKey key
    rw [plain, references_mk]
    simp only [List.flatMap_cons, hkey]
    rfl

/-- The pairs for some keys refer to nothing. -/
theorem flatMap_references_exportPairs (keys : List String) :
    (exportPairs keys).flatMap references = [] := by
  rw [List.flatMap_eq_nil_iff]
  intro pair hpair
  obtain ⟨key, -, rfl⟩ := List.mem_map.1 hpair
  have hkey := references_generatedKey key
  rw [generatedPatternPair, plain, references_mk]
  simp only [List.flatMap_cons, hkey]
  rfl

end Node

/-- **Injected properties refer to the values of their pairs**, whether or not they are wrapped. -/
theorem Injection.references_generated (i : Injection) :
    i.generated.flatMap Node.references = i.properties.map (·.2) := by
  have hpairs : (i.properties.map fun p => Node.generatedPair p.1 p.2).flatMap Node.references =
      i.properties.map (·.2) := by
    rw [List.flatMap_map]
    simp only [Node.references_generatedPair, ← List.map_eq_flatMap]
  rw [Injection.generated]
  cases i.wrapperKey with
  | none => exact hpairs
  | some key =>
      have hkey := Node.references_generatedKey key
      have hobject : (Node.generatedObject
          (i.properties.map fun p => Node.generatedPair p.1 p.2)).references =
            i.properties.map (·.2) := by
        rw [Node.generatedObject, Node.plain, Node.references_mk, List.flatMap_singleton, Node.list,
          Node.references_mk, hpairs]
        rfl
      rw [List.flatMap_singleton, Node.generatedWrapper, Node.plain, Node.references_mk]
      simp only [List.flatMap_cons, hkey, hobject]
      simp [Head.references]

namespace Node

/-! ### Injection -/

section Injected

variable {components : List String} {properties : List Node}

/-- **Injection binds nothing**: every tree binds what it bound. -/
theorem boundNames_injected (n : Node) :
    (injected components properties n).boundNames = n.boundNames :=
  compositional_boundNames.injected (fun _ _ => rfl) n

/-- References are counted node by node. -/
theorem count_references_mk (name : String) (h : Head) (ps : List Node) :
    (mk h ps).references.count name =
      h.references.count name + (ps.map fun n => n.references.count name).sum := by
  rw [references_mk, List.count_append, List.count_flatMap]
  rfl

/-- **Injection adds the references of the properties once for each element**, and takes none
away. -/
theorem count_references_injected (n : Node) (name : String) :
    (injected components properties n).references.count name =
      n.references.count name +
        n.elementCount components * (properties.flatMap references).count name := by
  rw [List.count_flatMap]
  exact sum_injected (F := fun n => n.references.count name)
    (g := fun h => h.references.count name) (count_references_mk name) n

/-- Injection into some trees adds the references of the properties for all of their elements. -/
theorem count_flatMap_references_injected (ns : List Node) (name : String) :
    ((ns.map (injected components properties)).flatMap references).count name =
      (ns.flatMap references).count name +
        (ns.map (elementCount components)).sum * (properties.flatMap references).count name := by
  rw [List.count_flatMap, List.count_flatMap]
  exact sum_map_injected (F := fun n => n.references.count name)
    fun n _ => n.count_references_injected name

end Injected

end Node

/-! ### Widening -/

/-- If editing an item adds something to what is collected from it, then one edit adds the same to
what is collected from all items. -/
theorem flatMap_perm_of_editFirst? {α β γ : Type} {f : α → Option (β × α)} {g : α → List γ}
    {e : β → List γ} (hg : ∀ a b a', f a = some (b, a') → (g a').Perm (g a ++ e b)) {l l' : List α}
    {b : β} (h : editFirst? f l = some (b, l')) : (l'.flatMap g).Perm (l.flatMap g ++ e b) := by
  obtain ⟨before, a, a', after, rfl, rfl, ha, -⟩ := editFirst?_eq_some_iff.1 h
  simp only [List.flatMap_append, List.flatMap_cons, List.append_assoc]
  have hfirst : (g a' ++ after.flatMap g).Perm (g a ++ e b ++ after.flatMap g) :=
    (hg a b a' ha).append_right _
  have hlast : (g a ++ e b ++ after.flatMap g).Perm (g a ++ (after.flatMap g ++ e b)) := by
    rw [List.append_assoc]
    exact List.perm_append_comm.append_left _
  exact (hfirst.trans hlast).append_left _

namespace Node

variable {runtimes : List Runtime}

/-- **Widened properties also bind the local names of the keys that were added.** -/
theorem boundNames_widenProperties (runtimes : List Runtime) (properties : List Node) :
    ((widenProperties runtimes properties).2.flatMap boundNames).Perm
      (properties.flatMap boundNames ++
        (widenProperties runtimes properties).1.map runtimeVariable) := by
  obtain ⟨before, after, hproperties, hwidened⟩ := exists_widenProperties runtimes properties
  rw [hwidened]
  generalize (widenProperties runtimes properties).1 = keys
  rw [hproperties]
  simp only [List.flatMap_append, flatMap_boundNames_exportPairs, List.append_assoc]
  exact List.perm_append_comm.append_left _

/-- A widened declarator also binds the local names of the keys that were added. -/
theorem boundNames_of_widenDeclarator? {d d' : Node} {keys : List String}
    (h : d.widenDeclarator? runtimes = some (keys, d')) :
    d'.boundNames.Perm (d.boundNames ++ keys.map runtimeVariable) := by
  obtain ⟨o, patternOrigin, properties, init, rfl, -, rfl, rfl⟩ := widenDeclarator?_eq_some_iff.1 h
  rw [boundNames_declarator, boundNames_declarator, boundNames_objectPattern,
    boundNames_objectPattern]
  exact boundNames_widenProperties runtimes properties

/-- **A widened statement also binds the local names of the keys that were added.** -/
theorem boundNames_of_widenStatement? {n n' : Node} {keys : List String}
    (h : n.widenStatement? runtimes = some (keys, n')) :
    n'.boundNames.Perm (n.boundNames ++ keys.map runtimeVariable) := by
  obtain ⟨o, kind, ds, ds', rfl, hds, rfl⟩ := widenStatement?_eq_some_iff.1 h
  rw [boundNames_variableDeclaration, boundNames_variableDeclaration]
  exact flatMap_perm_of_editFirst? (fun _ _ _ hd => boundNames_of_widenDeclarator? hd) hds

/-- **A widened statement refers to what it referred to.** -/
theorem references_of_widenStatement? {n n' : Node} {keys : List String}
    (h : n.widenStatement? runtimes = some (keys, n')) : n'.references = n.references := by
  refine compositional_references.widenStatement? ?_ h
  intro o before keys after
  simp only [plain, list, references_mk, List.flatMap_cons, List.flatMap_append,
    flatMap_references_exportPairs, List.append_nil]

end Node

end HostProps
