import HostProps.Proofs.ExactWidening
import HostProps.Proofs.WithoutParentheses

/-!
# Parentheses are Transparent

Neither the search for imports nor the search for the first argument is stopped by parentheses, and
widening leaves those that there are. So a module can just as well be searched and widened without
any: what is found is the same, and what widening leaves is the same without parentheses.

Each rule of the grammar of imports looks through the parentheses at its own level, so each has a
lemma of its own: what fits the rule without parentheses fits it with them, its parts being those
without parentheses. The other places that are looked at are none for parentheses
(`Node.ParensInPlace`).

## Main results

* `Node.ParensInPlace.calls_withoutParens_iff` and its likes: the rules of the grammar.
* `Node.ParensInPlace.importBinding?_withoutParens`: what declarators bind.
* `Module.ParensInPlace.components_withoutParens`: the components of a module.
* `Module.ParensInPlace.addRuntimeExports_withoutParens`: widening a module.
* `Module.transparent_withoutParens`: all of it.
-/

namespace HostProps

namespace Node

/-! ### Recognising imports -/

/-- Some head is found by looking through parentheses, with or without them. -/
theorem exists_upToParens_withoutParens_iff {n : Node} {h : Head}
    (hparens : ∀ ps, (mk h ps).isParens = false) :
    (∃ ps, n.withoutParens.UpToParens (mk h ps)) ↔ ∃ ps, n.UpToParens (mk h ps) := by
  constructor
  · rintro ⟨ps, h⟩
    obtain ⟨qs, hqs, -⟩ := (upToParens_withoutParens_iff (hparens ps)).1 h
    exact ⟨qs, hqs⟩
  · rintro ⟨qs, hqs⟩
    exact ⟨_, (upToParens_withoutParens_iff (hparens _)).2 ⟨qs, hqs, rfl⟩⟩

/-- Strings stay strings. -/
theorem isString_withoutParens_iff {n : Node} {value : String} :
    n.withoutParens.IsString value ↔ n.IsString value :=
  exists₂_congr fun _ _ => exists_upToParens_withoutParens_iff fun _ => rfl

/-- The callee `import` stays what it is. -/
theorem isImport_withoutParens_iff {n : Node} : n.withoutParens.IsImport ↔ n.IsImport :=
  exists₂_congr fun _ _ => exists_upToParens_withoutParens_iff fun _ => rfl

/-- So does the callee `super`. -/
theorem isSuper_withoutParens_iff {n : Node} : n.withoutParens.IsSuper ↔ n.IsSuper :=
  exists_congr fun _ => exists_upToParens_withoutParens_iff fun _ => rfl

/-- A node that is not in parentheses keeps its head. -/
theorem head_withoutParens {n : Node} (hn : n.isParens = false) :
    n.withoutParens.head = n.head := by
  cases n with
  | mk h ps => rw [withoutParens_mk hn, head_mk, head_mk]

theorem withoutParens_list (ps : List Node) :
    (list ps).withoutParens = list (ps.map withoutParens) :=
  withoutParens_mk rfl

/-- Keys that are not in parentheses stay what they are. -/
theorem isStaticKey_withoutParens_iff {n : Node} (hn : n.isParens = false) {key : String} :
    n.withoutParens.IsStaticKey key ↔ n.IsStaticKey key := by
  rw [← staticKey?_eq_some_iff, staticKey?_congr (head_withoutParens hn), staticKey?_eq_some_iff]

/-- Variables by their form. -/
theorem isVariable_iff {n : Node} {name : String} :
    n.IsVariable name ↔ ∃ o ps, n = mk (.binding o name) ps := by
  constructor
  · rintro ⟨o, name, ps⟩
    exact ⟨o, ps, rfl⟩
  · rintro ⟨o, ps, rfl⟩
    exact .binding o name ps

/-- Patterns that take out `default` by their form. -/
theorem takesDefault_iff {n : Node} {name : String} :
    n.TakesDefault name ↔ ∃ o pair key value others,
      n = plain .objectPattern o [list (plain .keyValuePattern pair [key, value] :: others)] ∧
        key.IsStaticKey "default" ∧ value.IsVariable name := by
  constructor
  · rintro ⟨o, pair, others, hkey, hvalue⟩
    exact ⟨o, pair, _, _, others, rfl, hkey, hvalue⟩
  · rintro ⟨o, pair, key, value, others, rfl, hkey, hvalue⟩
    exact .pattern o pair others hkey hvalue

namespace ParensInPlace

variable {n : Node}

/-- What is called and its first argument have their parentheses in place. -/
theorem of_calls {callee argument : Node} (hn : n.ParensInPlace) (h : n.Calls callee argument) :
    callee.ParensInPlace ∧ argument.ParensInPlace := by
  obtain ⟨o, others, h⟩ := h
  have hcall := hn.of_upToParens h
  have harguments := hcall.second
  have hfirst := harguments.first
  exact ⟨hcall.first, hfirst.first⟩

/-- **Calls** have the callee and the argument that they had, without parentheses. -/
theorem calls_withoutParens_iff (hn : n.ParensInPlace) {callee argument : Node} :
    n.withoutParens.Calls callee argument ↔
      ∃ c a, n.Calls c a ∧ c.withoutParens = callee ∧ a.withoutParens = argument := by
  constructor
  · rintro ⟨o, others, h⟩
    obtain ⟨qs, hqs, hmap⟩ := (upToParens_withoutParens_iff rfl).1 h
    obtain ⟨c, arguments, rfl, rfl, harguments⟩ := exists_of_map_eq_pair hmap
    have hlist : arguments.ParensInPlace := (hn.of_upToParens hqs).second
    obtain ⟨rs, rfl, hrs⟩ := (hlist.withoutParens_eq_mk_iff rfl).1 harguments
    obtain ⟨first, rest, rfl, hfirst, -⟩ := List.map_eq_cons_iff.1 hrs
    have hfirst' : first.ParensInPlace := hlist.first
    obtain ⟨es, rfl, hes⟩ := (hfirst'.withoutParens_eq_mk_iff rfl).1 hfirst
    obtain ⟨a, rfl, rfl⟩ := List.map_eq_singleton_iff.1 hes
    exact ⟨c, a, .call o rest hqs, rfl, rfl⟩
  · rintro ⟨c, a, ⟨o, others, h⟩, rfl, rfl⟩
    refine .call o (others.map withoutParens)
      ((upToParens_withoutParens_iff rfl).2 ⟨_, h, ?_⟩)
    rw [List.map_cons, List.map_cons, List.map_nil, withoutParens_list, List.map_cons,
      withoutParens_mk rfl, List.map_cons, List.map_nil]

/-- **Awaited imports** import what they did, without parentheses. -/
theorem awaitsImport_withoutParens_iff (hn : n.ParensInPlace) {source : Node} :
    n.withoutParens.AwaitsImport source ↔
      ∃ s, n.AwaitsImport s ∧ s.withoutParens = source := by
  constructor
  · rintro ⟨o, h, hcall, himport⟩
    obtain ⟨qs, hqs, hmap⟩ := (upToParens_withoutParens_iff rfl).1 h
    obtain ⟨call, rfl, rfl⟩ := List.map_eq_singleton_iff.1 hmap
    have hplace : call.ParensInPlace := (hn.of_upToParens hqs).first
    obtain ⟨c, s, hcall', rfl, rfl⟩ := hplace.calls_withoutParens_iff.1 hcall
    exact ⟨s, .await o hqs hcall' (isImport_withoutParens_iff.1 himport), rfl⟩
  · rintro ⟨s, ⟨o, h, hcall, himport⟩, rfl⟩
    have hplace := (hn.of_upToParens h).first
    exact .await o ((upToParens_withoutParens_iff rfl).2 ⟨_, h, rfl⟩)
      (hplace.calls_withoutParens_iff.2 ⟨_, s, hcall, rfl, rfl⟩)
      (isImport_withoutParens_iff.2 himport)

/-- So do their members `default`. -/
theorem awaitsDefault_withoutParens_iff (hn : n.ParensInPlace) {source : Node} :
    n.withoutParens.AwaitsDefault source ↔
      ∃ s, n.AwaitsDefault s ∧ s.withoutParens = source := by
  constructor
  · rintro ⟨o, span, ps, h, hobject⟩
    obtain ⟨qs, hqs, hmap⟩ := (upToParens_withoutParens_iff rfl).1 h
    obtain ⟨object, property, rfl, rfl, hproperty⟩ := exists_of_map_eq_pair hmap
    have hmember := hn.of_upToParens hqs
    have hplace : property.ParensInPlace := hmember.second
    obtain ⟨rs, rfl, -⟩ := (hplace.withoutParens_eq_mk_iff rfl).1 hproperty
    obtain ⟨s, hs, rfl⟩ := hmember.first.awaitsImport_withoutParens_iff.1 hobject
    exact ⟨s, .member o span rs hqs hs, rfl⟩
  · rintro ⟨s, ⟨o, span, ps, h, hobject⟩, rfl⟩
    have hplace := (hn.of_upToParens h).first
    refine .member o span (ps.map withoutParens)
      ((upToParens_withoutParens_iff rfl).2 ⟨_, h, ?_⟩)
      (hplace.awaitsImport_withoutParens_iff.2 ⟨s, hobject, rfl⟩)
    rw [List.map_cons, List.map_cons, List.map_nil, withoutParens_mk rfl]

/-- **Sources** name the specifier that they did. -/
theorem namesSpecifier_withoutParens_iff (hn : n.ParensInPlace) {specifier : String} :
    n.withoutParens.NamesSpecifier specifier ↔ n.NamesSpecifier specifier := by
  constructor
  · rintro (h | ⟨hcall, himport, hsuper, hargument⟩)
    · exact .string (isString_withoutParens_iff.1 h)
    · obtain ⟨c, a, hcall', rfl, rfl⟩ := hn.calls_withoutParens_iff.1 hcall
      exact .call hcall' (mt isImport_withoutParens_iff.2 himport)
        (mt isSuper_withoutParens_iff.2 hsuper) (isString_withoutParens_iff.1 hargument)
  · rintro (h | ⟨hcall, himport, hsuper, hargument⟩)
    · exact .string (isString_withoutParens_iff.2 h)
    · exact .call (hn.calls_withoutParens_iff.2 ⟨_, _, hcall, rfl, rfl⟩)
        (mt isImport_withoutParens_iff.1 himport) (mt isSuper_withoutParens_iff.1 hsuper)
        (isString_withoutParens_iff.2 hargument)

/-- The same as what the recogniser says. -/
theorem specifier?_withoutParens (hn : n.ParensInPlace) :
    n.withoutParens.specifier? = n.specifier? := by
  refine Option.ext fun specifier => ?_
  rw [specifier?_eq_some_iff, hn.namesSpecifier_withoutParens_iff, specifier?_eq_some_iff]

/-- **Variables** stay variables. -/
theorem isVariable_withoutParens_iff (hn : n.ParensInPlace) {name : String} :
    n.withoutParens.IsVariable name ↔ n.IsVariable name := by
  rw [isVariable_iff, isVariable_iff]
  exact exists_congr fun o => hn.exists_withoutParens_eq_mk_iff rfl

/-- The key of a property of a pattern is not in parentheses. -/
theorem isParens_key {o : Origin} {key value : Node}
    (hn : (plain .keyValuePattern o [key, value]).ParensInPlace) : key.isParens = false := by
  have hkeeps := hn _ (mem_nodes_self _)
  rwa [plain, keepsParensInPlace, Bool.not_eq_true'] at hkeeps

/-- **Patterns of objects** take out `default` as they did. -/
theorem takesDefault_withoutParens_iff (hn : n.ParensInPlace) {name : String} :
    n.withoutParens.TakesDefault name ↔ n.TakesDefault name := by
  rw [takesDefault_iff, takesDefault_iff]
  constructor
  · rintro ⟨o, pair, key, value, others, hpattern, hkey, hvalue⟩
    obtain ⟨qs, rfl, hqs⟩ := (hn.withoutParens_eq_mk_iff rfl).1 hpattern
    obtain ⟨properties, rfl, hproperties⟩ := List.map_eq_singleton_iff.1 hqs
    have hlist : properties.ParensInPlace := hn.first
    obtain ⟨rs, rfl, hrs⟩ := (hlist.withoutParens_eq_mk_iff rfl).1 hproperties
    obtain ⟨first, rest, rfl, hfirst, -⟩ := List.map_eq_cons_iff.1 hrs
    have hplace : first.ParensInPlace := hlist.first
    obtain ⟨ps, rfl, hps⟩ := (hplace.withoutParens_eq_mk_iff rfl).1 hfirst
    obtain ⟨key, value, rfl, rfl, rfl⟩ := exists_of_map_eq_pair hps
    exact ⟨o, pair, key, value, rest, rfl,
      (isStaticKey_withoutParens_iff hplace.isParens_key).1 hkey,
      hplace.second.isVariable_withoutParens_iff.1 hvalue⟩
  · rintro ⟨o, pair, key, value, others, rfl, hkey, hvalue⟩
    have hplace := hn.first.first
    refine ⟨o, pair, key.withoutParens, value.withoutParens, others.map withoutParens, ?_,
      (isStaticKey_withoutParens_iff hplace.isParens_key).2 hkey,
      hplace.second.isVariable_withoutParens_iff.2 hvalue⟩
    rw [plain, withoutParens_mk rfl, List.map_singleton, withoutParens_list, List.map_cons, plain,
      withoutParens_mk rfl, List.map_cons, List.map_cons, List.map_nil]
    rfl

/-- A pattern binds the name that it did, for an import of whatever shape. -/
theorem boundName?_withoutParens (hn : n.ParensInPlace) (shape : ImportShape) :
    shape.boundName? n.withoutParens = shape.boundName? n := by
  refine Option.ext fun name => ?_
  cases shape with
  | destructuredDefaultMember | destructuredDefault =>
      exact destructuredDefault?_eq_some_iff.trans
        (hn.takesDefault_withoutParens_iff.trans destructuredDefault?_eq_some_iff.symm)
  | defaultMember | wholeModule =>
      exact binding?_eq_some_iff.trans
        (hn.isVariable_withoutParens_iff.trans binding?_eq_some_iff.symm)

/-- An initialiser imports the source that it did, without parentheses. -/
theorem source?_withoutParens_eq_some_iff (hn : n.ParensInPlace) (shape : ImportShape)
    {source : Node} :
    shape.source? n.withoutParens = some source ↔
      ∃ s, shape.source? n = some s ∧ s.withoutParens = source := by
  cases shape with
  | destructuredDefaultMember | defaultMember =>
      refine defaultMemberSource?_eq_some_iff.trans (hn.awaitsDefault_withoutParens_iff.trans ?_)
      exact exists_congr fun s => and_congr_left fun _ => defaultMemberSource?_eq_some_iff.symm
  | destructuredDefault | wholeModule =>
      refine awaitedImportSource?_eq_some_iff.trans (hn.awaitsImport_withoutParens_iff.trans ?_)
      exact exists_congr fun s => and_congr_left fun _ => awaitedImportSource?_eq_some_iff.symm

/-- The parentheses of what is imported are in place. -/
theorem of_source? (hn : n.ParensInPlace) {shape : ImportShape} {source : Node}
    (h : shape.source? n = some source) : source.ParensInPlace := by
  have hawaited : ∀ n : Node, n.ParensInPlace → n.AwaitsImport source → source.ParensInPlace := by
    rintro n hn ⟨o, h, hcall, -⟩
    have hplace := (hn.of_upToParens h).first
    exact (hplace.of_calls hcall).2
  cases shape with
  | destructuredDefaultMember | defaultMember =>
      obtain ⟨o, s, ps, h, hobject⟩ := defaultMemberSource?_eq_some_iff.1 h
      exact hawaited _ (hn.of_upToParens h).first hobject
  | destructuredDefault | wholeModule =>
      exact hawaited n hn (awaitedImportSource?_eq_some_iff.1 h)

/-- **Declarators bind the import that they did.** -/
theorem importBinding?_withoutParens (hn : n.ParensInPlace) :
    n.withoutParens.importBinding? = n.importBinding? := by
  refine Option.ext fun b => ?_
  rw [importBinding?_eq_some_iff_exists, importBinding?_eq_some_iff_exists]
  constructor
  · rintro ⟨o, pattern, init, source, hdeclarator, hname, hsource, hspecifier⟩
    obtain ⟨qs, rfl, hqs⟩ := (hn.withoutParens_eq_mk_iff rfl).1 hdeclarator
    obtain ⟨pattern, init, rfl, rfl, rfl⟩ := exists_of_map_eq_pair hqs
    have hpattern : pattern.ParensInPlace := hn.first
    have hinit : init.ParensInPlace := hn.second
    obtain ⟨s, hs, rfl⟩ := (hinit.source?_withoutParens_eq_some_iff b.shape).1 hsource
    rw [hpattern.boundName?_withoutParens] at hname
    rw [(hinit.of_source? hs).specifier?_withoutParens] at hspecifier
    exact ⟨o, pattern, init, s, rfl, hname, hs, hspecifier⟩
  · rintro ⟨o, pattern, init, source, rfl, hname, hsource, hspecifier⟩
    have hpattern : pattern.ParensInPlace := hn.first
    have hinit : init.ParensInPlace := hn.second
    refine ⟨o, pattern.withoutParens, init.withoutParens, source.withoutParens,
      withoutParens_mk rfl, ?_, ?_, ?_⟩
    · rw [hpattern.boundName?_withoutParens, hname]
    · exact (hinit.source?_withoutParens_eq_some_iff b.shape).2 ⟨source, hsource, rfl⟩
    · rw [(hinit.of_source? hsource).specifier?_withoutParens, hspecifier]

end ParensInPlace

/-- The declarators in a tree are those that were there, each without parentheses. -/
theorem declaratorsIn_withoutParens (n : Node) :
    n.withoutParens.declaratorsIn = n.declaratorsIn.map withoutParens := by
  induction n with
  | mk h ps ih =>
      have hparts : (ps.map withoutParens).flatMap declaratorsIn =
          (ps.flatMap declaratorsIn).map withoutParens := by
        rw [List.flatMap_map, List.map_flatMap]
        exact List.flatMap_congr ih
      cases hparens : (mk h ps).isParens with
      | false =>
          rw [withoutParens_mk hparens, declaratorsIn_mk, declaratorsIn_mk, hparts, List.map_append]
          cases h.isDeclarator with
          | true => rw [if_pos rfl, if_pos rfl, List.map_singleton, withoutParens_mk hparens]
          | false => rfl
      | true =>
          obtain ⟨o, e, heq⟩ := isParens_iff.1 hparens
          obtain ⟨rfl, rfl⟩ := Node.mk.inj heq
          rw [← plain, withoutParens_parens, plain, declaratorsIn_mk_of_not_declarator rfl,
            ih e (List.mem_singleton_self e), List.flatMap_singleton]

/-- The declarators in a tree are nodes of it. -/
theorem mem_nodes_of_mem_declaratorsIn {d n : Node} (h : d ∈ n.declaratorsIn) : d ∈ n.nodes := by
  induction n with
  | mk hd ps ih =>
      rw [declaratorsIn_mk] at h
      rw [nodes_mk]
      rcases List.mem_append.1 h with h | h
      · split at h
        · rw [List.mem_singleton.1 h]
          exact List.mem_cons_self
        · cases h
      · obtain ⟨p, hp, h⟩ := List.mem_flatMap.1 h
        exact List.mem_cons_of_mem _ (List.mem_flatMap.2 ⟨p, hp, ih p hp h⟩)

/-! ### Recognising the first argument -/

/-- Rest elements by their form. -/
theorem isRest_iff {n : Node} : n.isRest = true ↔ ∃ o dots ps, n = mk (.rest o dots) ps := by
  constructor
  · intro h
    rw [isRest.eq_def] at h
    split at h
    · exact ⟨_, _, _, rfl⟩
    · cases h
  · rintro ⟨o, dots, ps, rfl⟩
    rfl

namespace ParensInPlace

variable {n : Node}

/-- **The first argument** stays what it is. -/
theorem isArgumentsZero_withoutParens_iff (hn : n.ParensInPlace) :
    n.withoutParens.IsArgumentsZero ↔ n.IsArgumentsZero := by
  constructor
  · rintro ⟨o, c, reference, s, raw, ps, qs, h, hobject, hindex, hzero⟩
    obtain ⟨rs, hrs, hmap⟩ := (upToParens_withoutParens_iff rfl).1 h
    obtain ⟨object, computed, rfl, rfl, hcomputed⟩ := exists_of_map_eq_pair hmap
    have hplace : computed.ParensInPlace := (hn.of_upToParens hrs).second
    obtain ⟨is, rfl, his⟩ := (hplace.withoutParens_eq_mk_iff rfl).1 hcomputed
    obtain ⟨index, rfl, rfl⟩ := List.map_eq_singleton_iff.1 his
    obtain ⟨ps, hobject, -⟩ := (upToParens_withoutParens_iff rfl).1 hobject
    obtain ⟨qs, hindex, -⟩ := (upToParens_withoutParens_iff rfl).1 hindex
    exact .member o c reference s raw ps qs hrs hobject hindex hzero
  · rintro ⟨o, c, reference, s, raw, ps, qs, h, hobject, hindex, hzero⟩
    refine .member o c reference s raw (ps.map withoutParens) (qs.map withoutParens)
      ((upToParens_withoutParens_iff rfl).2 ⟨_, h, ?_⟩)
      ((upToParens_withoutParens_iff rfl).2 ⟨ps, hobject, rfl⟩)
      ((upToParens_withoutParens_iff rfl).2 ⟨qs, hindex, rfl⟩) hzero
    rw [List.map_cons, List.map_singleton, plain, withoutParens_mk rfl]
    rfl

/-- The same as what the search says. -/
theorem isFirstArgument_withoutParens (hn : n.ParensInPlace) :
    n.withoutParens.isFirstArgument = n.isFirstArgument := by
  rw [Bool.eq_iff_iff, isFirstArgument_iff, hn.isArgumentsZero_withoutParens_iff,
    isFirstArgument_iff]

/-- **Properties of patterns** have the static key that they had. -/
theorem hasKey_withoutParens_iff (hn : n.ParensInPlace) {key : String} :
    n.withoutParens.HasKey key ↔ n.HasKey key := by
  constructor
  · generalize hproperty : n.withoutParens = property
    rintro (⟨o, hkey⟩ | ⟨o, hname⟩)
    · obtain ⟨qs, rfl, hqs⟩ := (hn.withoutParens_eq_mk_iff rfl).1 hproperty
      obtain ⟨name, value, rfl, rfl, -⟩ := exists_of_map_eq_pair hqs
      exact .keyValue o ((isStaticKey_withoutParens_iff hn.isParens_key).1 hkey)
    · obtain ⟨qs, rfl, hqs⟩ := (hn.withoutParens_eq_mk_iff rfl).1 hproperty
      obtain ⟨name, value, rfl, rfl, -⟩ := exists_of_map_eq_pair hqs
      exact .shorthand o (hn.first.isVariable_withoutParens_iff.1 hname)
  · rintro (⟨o, hkey⟩ | ⟨o, hname⟩)
    · rw [plain, withoutParens_mk rfl, List.map_cons, List.map_singleton]
      exact .keyValue o ((isStaticKey_withoutParens_iff hn.isParens_key).2 hkey)
    · rw [plain, withoutParens_mk rfl, List.map_cons, List.map_singleton]
      exact .shorthand o (hn.first.isVariable_withoutParens_iff.2 hname)

/-- Rest elements stay rest elements. -/
theorem isRest_withoutParens (hn : n.ParensInPlace) : n.withoutParens.isRest = n.isRest := by
  rw [Bool.eq_iff_iff, isRest_iff, isRest_iff]
  exact exists₂_congr fun o dots => hn.exists_withoutParens_eq_mk_iff rfl

end ParensInPlace

/-- Generated pairs have no parentheses. -/
theorem withoutParens_generatedPatternPair (key name : String) :
    (generatedPatternPair key name).withoutParens = generatedPatternPair key name := by
  have hkey : (generatedKey key).withoutParens = generatedKey key := by
    rw [generatedKey]
    split <;> exact withoutParens_mk rfl
  have hname : (generatedBinding name).withoutParens = generatedBinding name :=
    withoutParens_mk rfl
  rw [generatedPatternPair, plain, withoutParens_mk rfl, List.map_cons, List.map_singleton, hkey,
    hname]

end Node

/-! ### Widening -/

section Widening

variable {runtimes : List Runtime} {properties : List Node}

/-- The first rest element stays where it is. -/
theorem findIdx_isRest_withoutParens (h : ∀ p ∈ properties, p.ParensInPlace) :
    (properties.map Node.withoutParens).findIdx Node.isRest = properties.findIdx Node.isRest := by
  induction properties with
  | nil => rfl
  | cons p ps ih =>
      obtain ⟨hp, hps⟩ := List.forall_mem_cons.1 h
      rw [List.map_cons, List.findIdx_cons, List.findIdx_cons, hp.isRest_withoutParens, ih hps]

/-- **Widening the properties of a pattern**: the same keys are missing, and what is added for them
has no parentheses. -/
theorem widenProperties_withoutParens (h : ∀ p ∈ properties, p.ParensInPlace) :
    widenProperties runtimes (properties.map Node.withoutParens) =
      Prod.map id (List.map Node.withoutParens) (widenProperties runtimes properties) := by
  have hkeys : absentKeys runtimes (properties.map Node.withoutParens) =
      absentKeys runtimes properties := by
    have hexists : ∀ key, (∃ p ∈ properties.map Node.withoutParens, p.HasKey key) ↔
        ∃ p ∈ properties, p.HasKey key := by
      intro key
      simp only [List.mem_map, exists_exists_and_eq_and]
      exact exists_congr fun p => and_congr_right fun hp => (h p hp).hasKey_withoutParens_iff
    rw [absentKeys, absentKeys]
    simp only [hexists]
  have hadded : ∀ keys, (exportPairs keys).map Node.withoutParens = exportPairs keys := by
    intro keys
    rw [exportPairs, List.map_map]
    exact List.map_congr_left fun key _ => Node.withoutParens_generatedPatternPair key _
  refine Prod.ext ?_ ?_
  · rw [Prod.map_fst, id, widenProperties_fst, widenProperties_fst, hkeys]
  · rw [Prod.map_snd, widenProperties_snd, widenProperties_snd, hkeys,
      findIdx_isRest_withoutParens h, List.map_append, List.map_append, hadded, List.map_take,
      List.map_drop]

namespace Node

/-- A declarator with the pattern of an object, without parentheses. -/
theorem withoutParens_declarator (o patternOrigin : Origin) (properties : List Node) (init : Node) :
    (plain .declarator o
      [plain .objectPattern patternOrigin [list properties], init]).withoutParens =
      plain .declarator o [plain .objectPattern patternOrigin [list (properties.map withoutParens)],
        init.withoutParens] := by
  rw [plain, withoutParens_mk rfl, List.map_cons, List.map_singleton, plain, withoutParens_mk rfl,
    List.map_singleton, withoutParens_list]
  rfl

/-- A declaration of variables, without parentheses. -/
theorem withoutParens_variableDeclaration (o : Origin) (kind : VariableKind) (ds : List Node) :
    (mk (.variableDeclaration o kind) [list ds]).withoutParens =
      mk (.variableDeclaration o kind) [list (ds.map withoutParens)] := by
  rw [withoutParens_mk rfl, List.map_singleton, withoutParens_list]

namespace ParensInPlace

variable {n : Node}

/-- The parentheses in a declarator with the pattern of an object are in place. -/
theorem of_declarator {o patternOrigin : Origin} {properties : List Node} {init : Node}
    (hn : (plain .declarator o
      [plain .objectPattern patternOrigin [list properties], init]).ParensInPlace) :
    (∀ p ∈ properties, p.ParensInPlace) ∧ init.ParensInPlace := by
  have hlist := hn.first.first
  exact ⟨fun p hp => hlist.of_mem_parts hp, hn.second⟩

/-- The declarators with the pattern of an object are those that were. -/
theorem exists_of_withoutParens_eq_declarator (hn : n.ParensInPlace) {o patternOrigin : Origin}
    {properties : List Node} {init : Node}
    (h : n.withoutParens =
      plain .declarator o [plain .objectPattern patternOrigin [list properties], init]) :
    ∃ ps i, n = plain .declarator o [plain .objectPattern patternOrigin [list ps], i] ∧
      ps.map withoutParens = properties ∧ i.withoutParens = init := by
  obtain ⟨qs, rfl, hqs⟩ := (hn.withoutParens_eq_mk_iff rfl).1 h
  obtain ⟨pattern, i, rfl, hpattern, hinit⟩ := exists_of_map_eq_pair hqs
  have hplace : pattern.ParensInPlace := hn.first
  obtain ⟨rs, rfl, hrs⟩ := (hplace.withoutParens_eq_mk_iff rfl).1 hpattern
  obtain ⟨items, rfl, hitems⟩ := List.map_eq_singleton_iff.1 hrs
  have hlist : items.ParensInPlace := hplace.first
  obtain ⟨ps, rfl, hps⟩ := (hlist.withoutParens_eq_mk_iff rfl).1 hitems
  exact ⟨ps, i, rfl, hps, hinit⟩

/-- So are the declarations of variables. -/
theorem exists_of_withoutParens_eq_variableDeclaration (hn : n.ParensInPlace) {o : Origin}
    {kind : VariableKind} {ds : List Node}
    (h : n.withoutParens = mk (.variableDeclaration o kind) [list ds]) :
    ∃ ps, n = mk (.variableDeclaration o kind) [list ps] ∧ ps.map withoutParens = ds := by
  obtain ⟨qs, rfl, hqs⟩ := (hn.withoutParens_eq_mk_iff rfl).1 h
  obtain ⟨items, rfl, hitems⟩ := List.map_eq_singleton_iff.1 hqs
  have hlist : items.ParensInPlace := hn.first
  obtain ⟨ps, rfl, hps⟩ := (hlist.withoutParens_eq_mk_iff rfl).1 hitems
  exact ⟨ps, rfl, hps⟩

/-- **Widening a declarator** has nothing to do with its parentheses. -/
theorem widenDeclarator?_withoutParens (hn : n.ParensInPlace) :
    n.withoutParens.widenDeclarator? runtimes =
      (n.widenDeclarator? runtimes).map (Prod.map id withoutParens) := by
  refine Option.ext fun ⟨keys, d⟩ => ?_
  rw [widenDeclarator?_eq_some_iff, Option.map_eq_some_iff]
  constructor
  · rintro ⟨o, patternOrigin, properties, init, hform, hfirst, rfl, rfl⟩
    obtain ⟨ps, i, rfl, rfl, rfl⟩ := hn.exists_of_withoutParens_eq_declarator hform
    obtain ⟨hproperties, hinit⟩ := hn.of_declarator
    rw [hinit.isFirstArgument_withoutParens] at hfirst
    refine ⟨_, widenDeclarator?_eq_some_iff.2 ⟨o, patternOrigin, ps, i, rfl, hfirst, rfl, rfl⟩, ?_⟩
    rw [widenProperties_withoutParens hproperties, Prod.map_apply, withoutParens_declarator]
    rfl
  · rintro ⟨⟨keys', d'⟩, hd, heq⟩
    obtain ⟨o, patternOrigin, ps, i, rfl, hfirst, rfl, rfl⟩ := widenDeclarator?_eq_some_iff.1 hd
    obtain ⟨rfl, rfl⟩ := Prod.mk.inj heq
    obtain ⟨hproperties, hinit⟩ := hn.of_declarator
    refine ⟨o, patternOrigin, _, _, withoutParens_declarator o patternOrigin ps i, ?_, ?_, ?_⟩
    · rw [hinit.isFirstArgument_withoutParens, hfirst]
    · rw [widenProperties_withoutParens hproperties]
      rfl
    · rw [widenProperties_withoutParens hproperties, withoutParens_declarator]
      rfl

/-- Nor has widening a statement. -/
theorem widenStatement?_withoutParens (hn : n.ParensInPlace) :
    n.withoutParens.widenStatement? runtimes =
      (n.widenStatement? runtimes).map (Prod.map id withoutParens) := by
  have hedit : ∀ {o kind ds}, (mk (.variableDeclaration o kind) [list ds]).ParensInPlace →
      editFirst? (widenDeclarator? runtimes) (ds.map withoutParens) =
        (editFirst? (widenDeclarator? runtimes) ds).map (Prod.map id (List.map withoutParens)) := by
    intro o kind ds hplace
    have hlist := hplace.first
    exact editFirst?_map_of_mem fun d hd => (hlist.of_mem_parts hd).widenDeclarator?_withoutParens
  refine Option.ext fun ⟨keys, n'⟩ => ?_
  rw [widenStatement?_eq_some_iff, Option.map_eq_some_iff]
  constructor
  · rintro ⟨o, kind, ds, ds', hform, hds, rfl⟩
    obtain ⟨ps, rfl, rfl⟩ := hn.exists_of_withoutParens_eq_variableDeclaration hform
    rw [hedit hn, Option.map_eq_some_iff] at hds
    obtain ⟨⟨keys, ps'⟩, hps, heq⟩ := hds
    obtain ⟨rfl, rfl⟩ := Prod.mk.inj heq
    refine ⟨_, widenStatement?_eq_some_iff.2 ⟨o, kind, ps, ps', rfl, hps, rfl⟩, ?_⟩
    rw [Prod.map_apply, withoutParens_variableDeclaration]
  · rintro ⟨⟨keys', n''⟩, hn', heq⟩
    obtain ⟨o, kind, ps, ps', rfl, hps, rfl⟩ := widenStatement?_eq_some_iff.1 hn'
    obtain ⟨rfl, rfl⟩ := Prod.mk.inj heq
    refine ⟨o, kind, _, _, withoutParens_variableDeclaration o kind ps, ?_,
      withoutParens_variableDeclaration o kind ps'⟩
    rw [hedit hn, hps]
    rfl

end ParensInPlace

end Node

end Widening

/-! ### Modules -/

namespace Node

/-- Other statements than declarations of variables have no declarators. -/
theorem getD_declarators?_eq_nil {n : Node}
    (h : ¬ ∃ o kind ds, n = mk (.variableDeclaration o kind) [list ds]) :
    (n.declarators?).getD [] = [] := by
  rw [declarators?.eq_def]
  split
  · rename_i o kind part
    rw [Option.getD_some, items.eq_def]
    split
    · rename_i ds
      exact (h ⟨o, kind, ds, rfl⟩).elim
    · rfl
  · rfl

namespace ParensInPlace

variable {n : Node}

/-- The parentheses in the declarators of a statement are in place. -/
theorem of_mem_declarators? (hn : n.ParensInPlace) {d : Node}
    (hd : d ∈ (n.declarators?).getD []) : d.ParensInPlace := by
  by_cases h : ∃ o kind ds, n = mk (.variableDeclaration o kind) [list ds]
  · obtain ⟨o, kind, ds, rfl⟩ := h
    exact hn.first.of_mem_parts hd
  · rw [getD_declarators?_eq_nil h] at hd
    exact (List.not_mem_nil hd).elim

/-- The declarators of a statement are those that it had, each without parentheses. -/
theorem declarators?_withoutParens (hn : n.ParensInPlace) :
    (n.withoutParens.declarators?).getD [] =
      ((n.declarators?).getD []).map Node.withoutParens := by
  by_cases h : ∃ o kind ds, n = mk (.variableDeclaration o kind) [list ds]
  · obtain ⟨o, kind, ds, rfl⟩ := h
    rw [withoutParens_variableDeclaration]
    rfl
  · have h' : ¬ ∃ o kind ds, n.withoutParens = mk (.variableDeclaration o kind) [list ds] := by
      rintro ⟨o, kind, ds, hform⟩
      obtain ⟨ps, hps, -⟩ := hn.exists_of_withoutParens_eq_variableDeclaration hform
      exact h ⟨o, kind, ps, hps⟩
    rw [getD_declarators?_eq_nil h, getD_declarators?_eq_nil h', List.map_nil]

end ParensInPlace

end Node

namespace Module

/-- A module without parentheses. -/
def withoutParens (m : Module) : Module := { m with body := m.body.map Node.withoutParens }

/-- The parentheses of a module are in place. -/
def ParensInPlace (m : Module) : Prop := ∀ n ∈ m.body, n.ParensInPlace

instance (m : Module) : Decidable m.ParensInPlace :=
  inferInstanceAs (Decidable (∀ n ∈ m.body, n.ParensInPlace))

namespace ParensInPlace

variable {m : Module}

/-- The declarators at the top level are those that were there, each without parentheses. -/
theorem declarators_withoutParens (hm : m.ParensInPlace) :
    m.withoutParens.declarators = m.declarators.map Node.withoutParens := by
  rw [declarators, declarators, withoutParens, List.flatMap_map, List.map_flatMap]
  exact List.flatMap_congr fun n hn => (hm n hn).declarators?_withoutParens

/-- **The components** of a module, and what is told about its imports, are the same without
parentheses. -/
theorem components_withoutParens (hm : m.ParensInPlace) :
    m.withoutParens.components = m.components := by
  have hfound : m.withoutParens.walk Findings.visit ⟨[], []⟩ = m.walk Findings.visit ⟨[], []⟩ := by
    rw [walk_visit_eq_foldl, walk_visit_eq_foldl, hm.declarators_withoutParens, List.foldl_map]
    refine List.foldl_ext _ _ _ fun f d hd => ?_
    obtain ⟨n, hn, hd⟩ := List.mem_flatMap.1 hd
    have hplace : d.ParensInPlace := (hm n hn).of_mem_declarators? hd
    rw [Findings.addDeclarator, hplace.importBinding?_withoutParens, Findings.addDeclarator]
  rw [components, components, hfound]

/-- **Widening** has nothing to do with the parentheses of a module. -/
theorem addRuntimeExports_withoutParens (hm : m.ParensInPlace) (runtimes : List Runtime) :
    m.withoutParens.addRuntimeExports runtimes =
      ((m.addRuntimeExports runtimes).1, (m.addRuntimeExports runtimes).2.1.withoutParens,
        (m.addRuntimeExports runtimes).2.2) := by
  have hedit : editFirst? (Node.widenStatement? runtimes) m.withoutParens.body =
      (editFirst? (Node.widenStatement? runtimes) m.body).map
        (Prod.map id (List.map Node.withoutParens)) :=
    editFirst?_map_of_mem fun n hn => (hm n hn).widenStatement?_withoutParens
  rw [addRuntimeExports_eq, addRuntimeExports_eq, hedit]
  split
  · rfl
  · cases editFirst? (Node.widenStatement? runtimes) m.body with
    | none => rfl
    | some r => rfl

end ParensInPlace

/-- **Parentheses are transparent** to the search for imports and to widening. For every module in
which parentheses stand where the syntax lets them, and the module that is left when all of them are
dropped:

* none are left in the latter;
* its declarators, at whatever depth, are those of the former without parentheses, and each binds
  the import that the former binds, or none like it;
* the same components are found in it, and the same is told about them;
* widening it for any runtimes adds the same keys, tells the same and leaves what is left of the
  widened module when its parentheses are dropped. -/
theorem transparent_withoutParens (m : Module) (hm : m.ParensInPlace) :
    (∀ n ∈ m.withoutParens.body.flatMap Node.nodes, n.isParens = false) ∧
    (m.withoutParens.body.flatMap Node.declaratorsIn =
        (m.body.flatMap Node.declaratorsIn).map Node.withoutParens ∧
      ∀ d ∈ m.body.flatMap Node.declaratorsIn, d.withoutParens.importBinding? = d.importBinding?) ∧
    m.withoutParens.components = m.components ∧
    ∀ runtimes, m.withoutParens.addRuntimeExports runtimes =
      ((m.addRuntimeExports runtimes).1, (m.addRuntimeExports runtimes).2.1.withoutParens,
        (m.addRuntimeExports runtimes).2.2) := by
  refine ⟨?_, ⟨?_, ?_⟩, hm.components_withoutParens, hm.addRuntimeExports_withoutParens⟩
  · intro n hn
    obtain ⟨n', hn', hn⟩ := List.mem_flatMap.1 hn
    obtain ⟨n₀, -, rfl⟩ := List.mem_map.1 hn'
    exact n₀.isParens_of_mem_nodes_withoutParens n hn
  · rw [withoutParens, List.flatMap_map, List.map_flatMap]
    exact List.flatMap_congr fun n _ => n.declaratorsIn_withoutParens
  · intro d hd
    obtain ⟨n, hn, hd⟩ := List.mem_flatMap.1 hd
    exact ((hm n hn).of_mem_nodes
      (Node.mem_nodes_of_mem_declaratorsIn hd)).importBinding?_withoutParens

/-- The module `const A = ((await (import((resolve)(("./a.js"))))).default), {jsx: b} =
((arguments)[(0)]);`, with parentheses wherever they may stand. -/
def inParentheses : Module :=
  let parens (e : Node) := Node.plain .parenthesis .generated [e]
  let call (callee argument : Node) :=
    Node.plain .call .generated [callee, .list [.mk (.argument none) [argument]]]
  let source := call (parens (Node.generatedReference "resolve"))
    (parens (parens (Node.generatedString "./a.js")))
  let imported := call (.mk (.importKeyword Span.dummy "evaluation") []) (parens source)
  let first := Node.generatedMember (parens (Node.generatedReference "arguments"))
    (Node.generatedComputed (parens (Node.generatedNumber .zero)))
  ⟨Span.dummy,
    [.mk (.variableDeclaration .generated .const) [.list [
      .plain .declarator .generated
        [Node.generatedBinding "A", parens (Node.generatedMember
          (parens (.plain .await .generated [parens imported])) (Node.generatedName "default"))],
      .plain .declarator .generated
        [.plain .objectPattern .generated
          [.list [Node.generatedPatternPair "jsx" "b"]], parens first]]]], none⟩

/-- Its component is found, and its pattern is widened, with and without the parentheses. -/
theorem transparent_withoutParens_inParentheses :
    inParentheses.ParensInPlace ∧
    inParentheses.withoutParens.components.1 = ["A"] ∧
    inParentheses.components.1 = ["A"] ∧
    (inParentheses.withoutParens.addRuntimeExports [.production]).1 = ["Fragment", "jsxs"] ∧
    (inParentheses.withoutParens.addRuntimeExports [.production]).2.1 =
      (inParentheses.addRuntimeExports [.production]).2.1.withoutParens := by
  have hplace : inParentheses.ParensInPlace := by decide +kernel
  have hfound : inParentheses.components.1 = ["A"] := by
    rw [components_eq]
    decide +kernel
  have hadded : (inParentheses.addRuntimeExports [.production]).1 = ["Fragment", "jsxs"] := by
    decide +kernel
  obtain ⟨-, -, hcomponents, hwidened⟩ := inParentheses.transparent_withoutParens hplace
  refine ⟨hplace, ?_, hfound, ?_, ?_⟩
  · rw [hcomponents, hfound]
  · rw [hwidened, hadded]
  · rw [hwidened]

end Module

end HostProps
