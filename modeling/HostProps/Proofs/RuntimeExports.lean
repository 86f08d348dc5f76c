import HostProps.Proofs.Arguments
import Mathlib.Data.List.DropRight

/-!
# Widening as one Edit

`Module.addRuntimeExports` makes one edit in the body: in the first statement that has a declarator
to widen, and in it the first such declarator. Both searches are `editFirst?`, so the edit is known
from its innermost step, which puts generated pairs into the properties of a pattern in front of the
first rest element.

## Main results

* `span_isRest_widenProperties`: a widened pattern in front of its rest element and behind.
* `Node.widenDeclarator?_eq_some_iff`, `Node.widenStatement?_eq_some_iff`: inversion of widening.
* `Node.Compositional.widenStatement?`: what widening does not change.
* `Module.addRuntimeExports_eq`: widening a module is one edit in its body.
* `Module.map_body_addRuntimeExports`: what widening one statement keeps, widening a module keeps.
-/

namespace HostProps

/-- The properties of a pattern that take some keys out of the first argument. -/
def exportPairs (keys : List String) : List Node :=
  keys.map fun key => Node.generatedPatternPair key (runtimeVariable key)

/-- These properties are generated trees. -/
theorem isGenerated_of_mem_exportPairs {keys : List String} {n : Node} (hn : n ∈ exportPairs keys) :
    n.IsGenerated := by
  obtain ⟨key, -, rfl⟩ := List.mem_map.1 hn
  exact Node.isGenerated_generatedPatternPair key _

/-- Widening puts generated pairs for the keys that it adds in front of the first rest element. -/
theorem widenProperties_span (runtimes : List Runtime) (properties : List Node) :
    (widenProperties runtimes properties).2 =
      properties.takeWhile (!·.isRest) ++ exportPairs (widenProperties runtimes properties).1 ++
        properties.dropWhile (!·.isRest) := rfl

/-- A list that was cut where a test fails first can be cut there again, with more in front that
passes the test. -/
theorem takeWhile_append_dropWhile {α : Type} {p : α → Bool} {front l : List α}
    (hfront : ∀ a ∈ front, p a = true) : (front ++ l.dropWhile p).takeWhile p = front := by
  have hcut : (l.dropWhile p).takeWhile p = [] :=
    List.takeWhile_eq_nil_iff.2 fun hl => List.dropWhile_get_zero_not p l hl
  rw [List.takeWhile_append_of_pos hfront, hcut, List.append_nil]

/-- **What is in front of the first rest element** of a widened pattern, and what is behind: widening
adds to the former, and keeps the latter. -/
theorem span_isRest_widenProperties (runtimes : List Runtime) (properties : List Node) :
    (widenProperties runtimes properties).2.takeWhile (!·.isRest) =
        properties.takeWhile (!·.isRest) ++
          exportPairs (widenProperties runtimes properties).1 ∧
      (widenProperties runtimes properties).2.dropWhile (!·.isRest) =
        properties.dropWhile (!·.isRest) := by
  have hfront : ∀ p ∈ properties.takeWhile (!·.isRest) ++
      exportPairs (widenProperties runtimes properties).1, (!p.isRest) = true := by
    intro p hp
    obtain hp | hp := List.mem_append.1 hp
    · exact List.mem_takeWhile_imp (p := fun p : Node => !p.isRest) hp
    · obtain ⟨key, -, rfl⟩ := List.mem_map.1 hp
      rfl
  rw [widenProperties_span]
  refine ⟨takeWhile_append_dropWhile hfront, ?_⟩
  rw [List.dropWhile_append_of_pos hfront, List.dropWhile_idempotent]

/-- Widening puts generated pairs for missing keys between two parts of the properties. -/
theorem exists_widenProperties (runtimes : List Runtime) (properties : List Node) :
    ∃ before after, properties = before ++ after ∧
      (widenProperties runtimes properties).2 =
        before ++ exportPairs (widenProperties runtimes properties).1 ++ after :=
  ⟨properties.takeWhile (!·.isRest), properties.dropWhile (!·.isRest),
    List.takeWhile_append_dropWhile.symm, widenProperties_span runtimes properties⟩

/-- What editing an item keeps, one edit keeps in all items. -/
theorem map_of_editFirst? {α β γ : Type} {f : α → Option (β × α)} {g : α → γ}
    (hg : ∀ a b a', f a = some (b, a') → g a' = g a) {l l' : List α} {b : β}
    (h : editFirst? f l = some (b, l')) : l'.map g = l.map g := by
  obtain ⟨before, a, a', after, rfl, rfl, ha, -⟩ := editFirst?_eq_some_iff.1 h
  simp only [List.map_append, List.map_cons, hg a b a' ha]

namespace Node

variable {runtimes : List Runtime}

/-- Only a declarator that destructures the first argument is widened, and only its pattern
changes. -/
theorem widenDeclarator?_eq_some_iff {d d' : Node} {keys : List String} :
    d.widenDeclarator? runtimes = some (keys, d') ↔
      ∃ o patternOrigin properties init,
        d = plain .declarator o [plain .objectPattern patternOrigin [list properties], init] ∧
        init.isFirstArgument = true ∧ keys = (widenProperties runtimes properties).1 ∧
        d' = plain .declarator o [plain .objectPattern patternOrigin
          [list (widenProperties runtimes properties).2], init] := by
  constructor
  · intro h
    rw [widenDeclarator?.eq_def] at h
    split at h
    · rename_i o patternOrigin properties init
      split at h
      · rename_i hinit
        obtain ⟨rfl, rfl⟩ := Prod.mk.inj (Option.some.inj h)
        exact ⟨o, patternOrigin, properties, init, rfl, hinit, rfl, rfl⟩
      · cases h
    · cases h
  · rintro ⟨o, patternOrigin, properties, init, rfl, hinit, rfl, rfl⟩
    exact if_pos hinit

/-- The search for a declarator to widen is one edit. -/
theorem widenFirst?_eq_editFirst? (ds : List Node) :
    widenFirst? runtimes ds = editFirst? (widenDeclarator? runtimes) ds := by
  induction ds with
  | nil => rfl
  | cons d ds ih =>
      rw [widenFirst?, ih]
      cases hd : d.widenDeclarator? runtimes with
      | some r => rw [editFirst?_cons_of_some hd]
      | none =>
          rw [editFirst?_cons_of_none hd]
          rfl

/-- Only a statement that declares variables is widened, in one of its declarators. -/
theorem widenStatement?_eq_some_iff {n n' : Node} {keys : List String} :
    n.widenStatement? runtimes = some (keys, n') ↔
      ∃ o kind ds ds', n = mk (.variableDeclaration o kind) [list ds] ∧
        editFirst? (widenDeclarator? runtimes) ds = some (keys, ds') ∧
        n' = mk (.variableDeclaration o kind) [list ds'] := by
  constructor
  · intro h
    rw [widenStatement?.eq_def] at h
    split at h
    · rename_i o kind ds
      obtain ⟨⟨keys', ds'⟩, hds, heq⟩ := Option.map_eq_some_iff.1 h
      obtain ⟨rfl, rfl⟩ := Prod.mk.inj heq
      rw [widenFirst?_eq_editFirst?] at hds
      exact ⟨o, kind, ds, ds', rfl, hds, rfl⟩
    · cases h
  · rintro ⟨o, kind, ds, ds', rfl, hds, rfl⟩
    rw [← widenFirst?_eq_editFirst?] at hds
    exact Option.map_eq_some_iff.2 ⟨(keys, ds'), hds, rfl⟩

/-- Widening a statement keeps its head. -/
theorem head_of_widenStatement? {n n' : Node} {keys : List String}
    (h : n.widenStatement? runtimes = some (keys, n')) : n'.head = n.head := by
  obtain ⟨o, kind, ds, ds', rfl, -, rfl⟩ := widenStatement?_eq_some_iff.1 h
  rfl

/-- Only statements that declare variables are widened. -/
theorem isVariableDeclaration_of_widenStatement? {n : Node} {r : List String × Node}
    (h : n.widenStatement? runtimes = some r) : n.isVariableDeclaration = true := by
  obtain ⟨o, kind, ds, ds', rfl, -, -⟩ := widenStatement?_eq_some_iff.1 h
  rfl

/-- Declarations of arguments are not widened: they do not destructure. -/
theorem widenStatement?_argumentDeclaration (name : String) :
    (argumentDeclaration name).widenStatement? runtimes = none := rfl

/-! ### What widening does not change -/

section Congruence

variable {α : Type} {F : Node → α}

/-- Widening makes no difference to a declarator, if generated pairs make none among the properties
of its pattern. -/
theorem widenDeclarator?_congr (hdeclarator : ∀ o, CompositionalAt F (.plain .declarator o))
    (hpattern : ∀ o before keys after,
      F (plain .objectPattern o [list (before ++ exportPairs keys ++ after)]) =
      F (plain .objectPattern o [list (before ++ after)]))
    {d d' : Node} {keys : List String} (h : d.widenDeclarator? runtimes = some (keys, d')) :
    F d' = F d := by
  obtain ⟨o, patternOrigin, properties, init, rfl, -, rfl, rfl⟩ := widenDeclarator?_eq_some_iff.1 h
  obtain ⟨before, after, hproperties, hwidened⟩ := exists_widenProperties runtimes properties
  have heq := hpattern patternOrigin before (widenProperties runtimes properties).1 after
  rw [← hwidened, ← hproperties] at heq
  exact hdeclarator o _ _ (congrArg (fun a => [a, F init]) heq)

/-- Widening makes no difference to a statement, if it makes none to any declarator. -/
theorem widenStatement?_congr (hlist : CompositionalAt F .sequence)
    (hdeclaration : ∀ o kind, CompositionalAt F (.variableDeclaration o kind))
    (hdeclarator : ∀ d keys d', d.widenDeclarator? runtimes = some (keys, d') → F d' = F d)
    {n n' : Node} {keys : List String} (h : n.widenStatement? runtimes = some (keys, n')) :
    F n' = F n := by
  obtain ⟨o, kind, ds, ds', rfl, hds, rfl⟩ := widenStatement?_eq_some_iff.1 h
  have hmap : ds'.map F = ds.map F := map_of_editFirst? hdeclarator hds
  exact hdeclaration o kind _ _ (congrArg (fun a => [a]) (hlist _ _ hmap))

/-- **What widening does not change**: whatever is computed from the inside out, and does not see
generated pairs among the properties of a pattern. -/
theorem Compositional.widenStatement? (hF : Compositional F)
    (hpattern : ∀ o before keys after,
      F (plain .objectPattern o [list (before ++ exportPairs keys ++ after)]) =
      F (plain .objectPattern o [list (before ++ after)]))
    {n n' : Node} {keys : List String} (h : n.widenStatement? runtimes = some (keys, n')) :
    F n' = F n :=
  widenStatement?_congr (hF _) (fun _ _ => hF _)
    (fun _ _ _ => widenDeclarator?_congr (fun _ => hF _) hpattern) h

end Congruence

end Node

namespace Module

/-- **Widening a module** is one edit in its body, in the first statement that can be widened. -/
theorem addRuntimeExports_eq (runtimes : List Runtime) (m : Module) :
    m.addRuntimeExports runtimes =
      if runtimes.isEmpty then ([], m, [])
      else
        match editFirst? (Node.widenStatement? runtimes) m.body with
        | some (keys, body) => (keys, { m with body }, keys.map exportAddedEvent)
        | none => ([], m, []) := by
  rw [addRuntimeExports, m.editWalk_first (f := Node.widenStatement? runtimes)]
  · cases editFirst? (Node.widenStatement? runtimes) m.body <;> rfl
  · intro n r h
    exact Node.isModuleDeclaration_of_isVariableDeclaration
      (Node.isVariableDeclaration_of_widenStatement? h)
  · intro keys n place keys' n' h
    simp only [h]
  · intro keys n place h
    simp only [h]

/-- Widening changes nothing of a module but its body. -/
theorem exists_addRuntimeExports_body (runtimes : List Runtime) (m : Module) :
    ∃ body, (m.addRuntimeExports runtimes).2.1 = { m with body } ∧
      (body = m.body ∨
        ∃ keys, editFirst? (Node.widenStatement? runtimes) m.body = some (keys, body)) := by
  rw [addRuntimeExports_eq]
  split
  · exact ⟨m.body, rfl, .inl rfl⟩
  · cases h : editFirst? (Node.widenStatement? runtimes) m.body with
    | none => exact ⟨m.body, rfl, .inl rfl⟩
    | some r => exact ⟨r.2, rfl, .inr ⟨r.1, rfl⟩⟩

/-- What widening keeps of every statement, it keeps of the body of a module. -/
theorem map_body_addRuntimeExports {γ : Type} {g : Node → γ} {runtimes : List Runtime}
    (hg : ∀ n keys n', n.widenStatement? runtimes = some (keys, n') → g n' = g n) (m : Module) :
    (m.addRuntimeExports runtimes).2.1.body.map g = m.body.map g := by
  obtain ⟨body, h, rfl | ⟨keys, hbody⟩⟩ := exists_addRuntimeExports_body runtimes m
  · rw [h]
  · rw [h]
    exact map_of_editFirst? hg hbody

end Module

end HostProps
