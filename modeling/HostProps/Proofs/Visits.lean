import HostProps.Proofs.Held
import HostProps.Proofs.Walk

/-!
# What a Walk Visits

A visitor of statements may answer each visit as it likes, from all that it has seen so far, and the
walk must go where the answers say. Here this is told by the visits of a walk alone: where each of
them was, and what the answer was.

`Obeys` says when some visits are those of a walk over some statements: they were at these
statements, in the order of the text, with none after an exit, and a statement was visited if and
only if it was due: all statements around it were entered, and there was no exit before it. Nothing
in this mentions how the answers came about, or how statements are walked.

The visits of an actual walk are those that its visitor sees, so they are found by giving it a
visitor that keeps a record (`recorded`).

## Main results

* `Obeys.skipped`, `Obeys.entered`: the visits of one statement.
* `Obeys.cons`, `Obeys.stopped`: the visits of several.
* `walkObeys`, `exists_visits_held`: walks of statements obey their answers.
* `Module.exists_visits_walk`: the walk of a module obeys its answers.
-/

namespace HostProps

/-! ### Visits that obey -/

/-- A visit: where it was, at which statement, and what was answered. -/
structure Visit where
  path : List Step
  statement : Node
  answer : Control

/-- A visit of something inside of a statement, seen from outside. -/
def Visit.under (step : Step) (v : Visit) : Visit := { v with path := step :: v.path }

/-- A statement at a path is due if each one around it was entered and there was no exit before
it. -/
def Due (Reaches : List Step → Node → Prop) (visits : List Visit) (path : List Step) : Prop :=
  (∀ outer k, Reaches outer k → Encloses outer path →
    ∃ v ∈ visits, v.path = outer ∧ v.answer = .enter) ∧
  ∀ v ∈ visits, Precedes v.path path → v.answer ≠ .exit

/-- **What it is to obey the answers**, for the visits of a walk over the statements that `Reaches`
finds at their paths. -/
structure Obeys (Reaches : List Step → Node → Prop) (visits : List Visit) : Prop where
  /-- Visits are at statements. -/
  reached : ∀ v ∈ visits, Reaches v.path v.statement
  /-- They come in the order of the text, an outer statement first, and each statement once. -/
  ordered : visits.Pairwise fun v w => Precedes v.path w.path
  /-- Nothing is visited after an exit. -/
  last : visits.Pairwise fun v _ => v.answer ≠ .exit
  /-- A statement is visited if and only if it is due. -/
  visited : ∀ path n, Reaches path n → ((∃ v ∈ visits, v.path = path) ↔ Due Reaches visits path)

namespace Obeys

/-- Each statement is visited once. -/
theorem nodup {Reaches : List Step → Node → Prop} {visits : List Visit} (h : Obeys Reaches visits) :
    (visits.map Visit.path).Nodup := by
  rw [List.Nodup, List.pairwise_map]
  refine h.ordered.imp fun hprec heq => ?_
  rw [heq] at hprec
  exact Precedes.irrefl _ hprec

/-! ### One statement -/

/-- A statement that is not entered is the only one visited in it. -/
theorem skipped (n : Node) {answer : Control} (h : answer ≠ .enter) :
    Obeys n.Reaches [⟨[], n, answer⟩] where
  reached := by
    rw [List.forall_mem_singleton]
    exact .self n
  ordered := List.pairwise_singleton _ _
  last := List.pairwise_singleton _ _
  visited := by
    intro path k hpath
    simp only [Due, List.mem_singleton, exists_eq_left, forall_eq]
    cases path with
    | nil =>
        refine iff_of_true rfl ⟨fun outer k _ henc => absurd henc not_encloses_nil, ?_⟩
        exact fun hprec => absurd hprec not_precedes_nil
    | cons step path =>
        refine iff_of_false (List.cons_ne_nil step path).symm fun hentered => ?_
        obtain ⟨-, henter⟩ := hentered.1 [] n (.self n) encloses_nil_cons
        exact h henter

/-- A statement that is entered is visited before what it holds. -/
theorem entered {n : Node} {visits : List Visit} (h : Obeys (ReachesIn n.held) visits) :
    Obeys n.Reaches (⟨[], n, .enter⟩ :: visits) where
  reached := by
    rw [List.forall_mem_cons]
    exact ⟨.self n, fun v hv => Node.reaches_iff.2 (.inr (h.reached v hv))⟩
  ordered := by
    refine List.pairwise_cons.2 ⟨fun v hv => ?_, h.ordered⟩
    obtain ⟨step, _, path, hpath, -⟩ := (h.reached v hv).exists_cons
    rw [hpath]
    exact precedes_nil_cons
  last := List.pairwise_cons.2 ⟨fun _ _ => nofun, h.last⟩
  visited := by
    intro path k hpath
    have hexits : (∀ v ∈ ⟨[], n, .enter⟩ :: visits, Precedes v.path path → v.answer ≠ .exit) ↔
        ∀ v ∈ visits, Precedes v.path path → v.answer ≠ .exit := by
      rw [List.forall_mem_cons]
      exact and_iff_right fun _ => nofun
    rw [Due, hexits]
    cases path with
    | nil =>
        refine iff_of_true ⟨_, List.mem_cons_self, rfl⟩
          ⟨fun outer k _ henc => absurd henc not_encloses_nil, ?_⟩
        exact fun v _ hprec => absurd hprec not_precedes_nil
    | cons step path =>
        have hinside : ReachesIn n.held (step :: path) k :=
          (Node.reaches_iff.1 hpath).resolve_left fun hself => List.cons_ne_nil _ _ hself.1
        simp only [List.mem_cons, or_and_right, exists_or, exists_eq_left, reduceCtorEq, false_or]
        rw [h.visited _ _ hinside, Due]
        refine and_congr_left fun _ => ⟨fun hentered outer k' houter henc => ?_,
          fun hentered outer k' houter henc => ?_⟩
        · obtain ⟨rfl, -⟩ | houter := Node.reaches_iff.1 houter
          · exact .inl ⟨rfl, trivial⟩
          · exact .inr (hentered outer k' houter henc)
        · obtain ⟨_, _, _, rfl, -⟩ := houter.exists_cons
          exact (hentered _ k' (Node.reaches_iff.2 (.inr houter)) henc).resolve_left fun hself =>
            (List.cons_ne_nil _ _ hself.1.symm)

/-! ### Several statements -/

/-- Nothing is visited where nothing is held. -/
theorem nil : Obeys (ReachesIn []) [] where
  reached := List.forall_mem_nil _
  ordered := List.Pairwise.nil
  last := List.Pairwise.nil
  visited := by
    rintro path k ⟨hheld, -⟩
    cases hheld

section Cons

variable {step : Step} {m : Node} {held : List (Step × Node)} {first others : List Visit}

/-- Visits of the first of some statements and of the others, one list after the other. -/
theorem exists_mem_append_iff {Q : Visit → Prop} :
    (∃ v ∈ first.map (.under step) ++ others, Q v) ↔
      (∃ v ∈ first, Q (v.under step)) ∨ ∃ v ∈ others, Q v := by
  simp only [List.mem_append, List.mem_map, or_and_right, exists_or, exists_exists_and_eq_and]

/-- Conditions on the visits of the first of some statements and of the others. -/
theorem forall_mem_append_iff {Q : Visit → Prop} :
    (∀ v ∈ first.map (.under step) ++ others, Q v) ↔
      (∀ v ∈ first, Q (v.under step)) ∧ ∀ v ∈ others, Q v := by
  rw [List.forall_mem_append, List.forall_mem_map]

/-- A visit behind another step than that of the first statement is one of the others. -/
theorem exists_mem_others_iff {Q : Visit → Prop} {step' : Step} (hne : step ≠ step')
    (path : List Step) :
    (∃ v ∈ first.map (.under step) ++ others, v.path = step' :: path ∧ Q v) ↔
      ∃ v ∈ others, v.path = step' :: path ∧ Q v := by
  rw [exists_mem_append_iff, or_iff_right]
  rintro ⟨v, -, heq, -⟩
  exact hne (List.cons.inj heq).1

variable (hafter : ∀ e ∈ held, step.Before e.1)
  (hothers : ∀ v ∈ others, ReachesIn held v.path v.statement)

include hafter hothers

/-- A visit behind the step of the first statement is none of the others. -/
theorem exists_mem_first_iff {Q : Visit → Prop} (path : List Step) :
    (∃ v ∈ first.map (.under step) ++ others, v.path = step :: path ∧ Q v) ↔
      ∃ v ∈ first, v.path = path ∧ Q (v.under step) := by
  rw [exists_mem_append_iff, or_iff_left]
  · simp only [Visit.under, List.cons.injEq, true_and]
  · rintro ⟨v, hv, heq, -⟩
    obtain ⟨step', _, path', hpath, hheld, -⟩ := (hothers v hv).exists_cons
    obtain ⟨rfl, -⟩ := List.cons.inj (hpath.symm.trans heq)
    exact Step.Before.irrefl _ (hafter _ hheld)

/-- The visits of the others do not come before the first statement or anything inside of it. -/
theorem not_precedes_of_mem_others {v : Visit} (hv : v ∈ others) (path : List Step) :
    ¬Precedes v.path (step :: path) := by
  obtain ⟨step', _, path', hpath, hheld, -⟩ := (hothers v hv).exists_cons
  rw [hpath]
  exact (hafter _ hheld).not_precedes

/-- The first of some statements, and what is inside of it, is visited as it is alone. -/
theorem visited_first (h : Obeys m.Reaches first) {path : List Step} {k : Node}
    (hpath : m.Reaches path k) :
    (∃ v ∈ first.map (.under step) ++ others, v.path = step :: path) ↔
      Due (ReachesIn ((step, m) :: held)) (first.map (.under step) ++ others) (step :: path) := by
  have hvisited : (∃ v ∈ first.map (.under step) ++ others, v.path = step :: path) ↔
      ∃ v ∈ first, v.path = path := by
    simpa only [and_true] using
      exists_mem_first_iff hafter hothers path (Q := fun _ => True)
  rw [hvisited, h.visited path k hpath, Due, Due, forall_mem_append_iff]
  refine and_congr ⟨fun hentered outer k' houter henc => ?_,
    fun hentered outer k' houter henc => ?_⟩ ?_
  · obtain ⟨step', m', outer, rfl, hheld, hinner⟩ := houter.exists_cons
    obtain rfl := henc.eq_of_cons
    obtain ⟨-, rfl⟩ : step' = step' ∧ m' = m := by
      refine (List.mem_cons.1 hheld).elim Prod.mk.inj fun hlater => ?_
      exact absurd (hafter _ hlater) (Step.Before.irrefl _)
    exact (exists_mem_first_iff hafter hothers outer).2
      (hentered outer k' hinner (encloses_cons_cons.1 henc))
  · exact (exists_mem_first_iff hafter hothers outer).1
      (hentered (step :: outer) k' (.intro List.mem_cons_self houter) (encloses_cons_cons.2 henc))
  · rw [and_iff_left fun v hv hprec =>
      absurd hprec (not_precedes_of_mem_others hafter hothers hv path)]
    simp only [Visit.under, precedes_cons_cons]

omit hothers in
/-- The others are visited as they are alone, unless there was an exit in the first. -/
theorem visited_others (h : Obeys (ReachesIn held) others)
    (hgoes : ∀ v ∈ first, v.answer ≠ .exit) {path : List Step} {k : Node}
    (hpath : ReachesIn held path k) :
    (∃ v ∈ first.map (.under step) ++ others, v.path = path) ↔
      Due (ReachesIn ((step, m) :: held)) (first.map (.under step) ++ others) path := by
  obtain ⟨step', _, rest, rfl, hheld, -⟩ := hpath.exists_cons
  have hne : step ≠ step' := by
    rintro rfl
    exact Step.Before.irrefl _ (hafter _ hheld)
  have hvisited : (∃ v ∈ first.map (.under step) ++ others, v.path = step' :: rest) ↔
      ∃ v ∈ others, v.path = step' :: rest := by
    simpa only [and_true] using exists_mem_others_iff hne rest (Q := fun _ => True)
  have hfirst : ∀ v ∈ first, Precedes (v.under step).path (step' :: rest) →
      (v.under step).answer ≠ .exit := fun v hv _ => hgoes v hv
  rw [hvisited, h.visited _ k hpath, Due, Due, forall_mem_append_iff, and_iff_right hfirst]
  refine and_congr_left fun _ => ⟨fun hentered outer k' houter henc => ?_,
    fun hentered outer k' houter henc => ?_⟩
  · obtain ⟨s, m', outer, rfl, hs, hinner⟩ := houter.exists_cons
    obtain rfl := henc.eq_of_cons
    have hlater : (s, m') ∈ held := (List.mem_cons.1 hs).resolve_left fun heq =>
      hne (Prod.mk.inj heq).1.symm
    exact (exists_mem_others_iff hne outer).2 (hentered _ k' (.intro hlater hinner) henc)
  · obtain ⟨s, m', outer, rfl, hs, hinner⟩ := houter.exists_cons
    obtain rfl := henc.eq_of_cons
    exact (exists_mem_others_iff hne outer).1
      (hentered _ k' (.intro (List.mem_cons_of_mem _ hs) hinner) henc)

/-- Visits of the first of some statements and then of the others, if none of the others is visited
after an exit in the first. -/
theorem append (hfirst : Obeys m.Reaches first)
    (hordered : others.Pairwise fun v w => Precedes v.path w.path)
    (hlast : others.Pairwise fun v _ => v.answer ≠ .exit)
    (hgoes : ∀ v ∈ first, others ≠ [] → v.answer ≠ .exit)
    (hvisited : ∀ path n, ReachesIn held path n →
      ((∃ v ∈ first.map (.under step) ++ others, v.path = path) ↔
        Due (ReachesIn ((step, m) :: held)) (first.map (.under step) ++ others) path)) :
    Obeys (ReachesIn ((step, m) :: held)) (first.map (.under step) ++ others) where
  reached := by
    rw [forall_mem_append_iff]
    refine ⟨fun v hv => .intro List.mem_cons_self (hfirst.reached v hv), fun v hv => ?_⟩
    obtain ⟨step', m', path, hpath, hheld, hinner⟩ := (hothers v hv).exists_cons
    rw [hpath]
    exact .intro (List.mem_cons_of_mem _ hheld) hinner
  ordered := by
    rw [List.pairwise_append, List.pairwise_map, List.forall_mem_map]
    refine ⟨hfirst.ordered.imp precedes_cons_cons.2, hordered, fun v _ w hw => ?_⟩
    obtain ⟨step', m', path, hpath, hheld, -⟩ := (hothers w hw).exists_cons
    rw [hpath]
    exact (hafter _ hheld).precedes
  last := by
    rw [List.pairwise_append, List.pairwise_map, List.forall_mem_map]
    exact ⟨hfirst.last, hlast, fun v hv w hw => hgoes v hv (List.ne_nil_of_mem hw)⟩
  visited := by
    intro path k hpath
    obtain ⟨step', m', path, rfl, hheld, hinner⟩ := hpath.exists_cons
    obtain heq | hlater := List.mem_cons.1 hheld
    · obtain ⟨rfl, rfl⟩ := Prod.mk.inj heq
      exact visited_first hafter hothers hfirst hinner
    · exact hvisited _ k (.intro hlater hinner)

omit hothers in
/-- **The visits of several statements**, if there was no exit in the first. -/
theorem cons (hfirst : Obeys m.Reaches first) (hgoes : ∀ v ∈ first, v.answer ≠ .exit)
    (h : Obeys (ReachesIn held) others) :
    Obeys (ReachesIn ((step, m) :: held)) (first.map (.under step) ++ others) :=
  append hafter h.reached hfirst h.ordered h.last (fun v hv _ => hgoes v hv)
    fun _ _ hpath => visited_others hafter h hgoes hpath

omit hothers in
/-- **The visits of several statements**, if there was an exit in the first. -/
theorem stopped (hfirst : Obeys m.Reaches first) (hexit : ∃ v ∈ first, v.answer = .exit) :
    Obeys (ReachesIn ((step, m) :: held)) (first.map (.under step)) := by
  obtain ⟨w, hw, hanswer⟩ := hexit
  rw [← List.append_nil (first.map _)]
  refine append hafter (List.forall_mem_nil _) hfirst .nil .nil (fun _ _ hne => absurd rfl hne) ?_
  intro path k hpath
  obtain ⟨step', m', path, rfl, hheld, -⟩ := hpath.exists_cons
  have hbefore := hafter _ hheld
  rw [Due, exists_mem_append_iff, forall_mem_append_iff]
  refine iff_of_false ?_ fun hgoes => hgoes.2.1 w hw hbefore.precedes hanswer
  rintro (⟨v, -, heq⟩ | ⟨v, hv, -⟩)
  · obtain ⟨rfl, -⟩ := List.cons.inj heq
    exact Step.Before.irrefl _ hbefore
  · cases hv

end Cons

end Obeys

/-! ### Walks that are recorded -/

/-- A call of a visitor: the statement and the place that it was told, and its answer. -/
structure Call where
  statement : Node
  place : Place
  answer : Control

/-- The call at a visit. -/
def Visit.call (place : Visit → Place) (v : Visit) : Call := ⟨v.statement, place v, v.answer⟩

section Walks

variable {σ : Type} (visit : σ → Node → Place → σ × Control)

/-- A visitor that keeps a record of its calls, and else is as another. -/
def recorded (s : σ × List Call) (n : Node) (place : Place) : (σ × List Call) × Control :=
  let (state, answer) := visit s.1 n place
  ((state, s.2 ++ [⟨n, place, answer⟩]), answer)

/-- The place of a statement inside of one at some place. -/
def Place.along (place : Place) : List Step → Place
  | [] => place
  | step :: path => along ⟨place.depth + 1, step.index⟩ path

/-- The place of a visit in some statements at some depth. -/
def Visit.placeIn (depth : Nat) (v : Visit) : Place :=
  match v.path with
  | [] => ⟨depth, 0⟩
  | step :: path => Place.along ⟨depth, step.index⟩ path

/-- **What a walk did**: it called its visitor at some visits that obey the answers, and it is over
if and only if one of the answers was to exit. `w` is the walk, and `w'` the walk with a record of
`calls` from before. -/
structure Follows (Reaches : List Step → Node → Prop) (place : Visit → Place) (w : Walking σ)
    (w' : Walking (σ × List Call)) (calls : List Call) (visits : List Visit) : Prop where
  eq_walk : w' = ⟨(w.state, calls ++ visits.map (Visit.call place)), w.isOver⟩
  obeys : Obeys Reaches visits
  isOver_iff : w.isOver = true ↔ ∃ v ∈ visits, v.answer = .exit

/-- The walk of a statement obeys its answers, wherever and whenever it begins. -/
def WalkObeys (n : Node) : Prop :=
  ∀ (place : Place) (s : σ) (calls : List Call), ∃ visits,
    Follows n.Reaches (fun v => place.along v.path) (walkStatement visit place n ⟨s, false⟩)
      (walkStatement (recorded visit) place n ⟨(s, calls), false⟩) calls visits

/-- A visitor that enters a statement goes on with what it holds. -/
theorem walkStatement_of_enter {s s' : σ} {n : Node} {place : Place}
    (h : visit s n place = (s', .enter)) :
    walkStatement visit place n ⟨s, false⟩ =
      n.held.foldl (walkHeld visit (place.depth + 1)) ⟨s', false⟩ := by
  rw [walkStatement, if_neg Bool.false_ne_true]
  simp only [h]
  exact walkLists_statementLists visit _ n _

/-- A walk that is over visits none of some statements. -/
theorem foldl_walkHeld_of_isOver (depth : Nat) (held : List (Step × Node)) {w : Walking σ}
    (h : w.isOver = true) : held.foldl (walkHeld visit depth) w = w := by
  induction held with
  | nil => rfl
  | cons e held ih => rw [List.foldl_cons, walkHeld, walkStatement_of_isOver h, ih]

/-- **The walk of several statements** obeys its answers if that of each of them does. -/
theorem exists_visits_held {held : List (Step × Node)}
    (hordered : held.Pairwise fun a b => a.1.Before b.1)
    (hobeys : ∀ e ∈ held, WalkObeys visit e.2) (depth : Nat) (s : σ) (calls : List Call) :
    ∃ visits, Follows (ReachesIn held) (Visit.placeIn depth)
      (held.foldl (walkHeld visit depth) ⟨s, false⟩)
      (held.foldl (walkHeld (recorded visit) depth) ⟨(s, calls), false⟩) calls visits := by
  induction held generalizing s calls with
  | nil =>
      refine ⟨[], ?_, .nil, by simp⟩
      rw [List.map_nil, List.append_nil]
      rfl
  | cons e held ih =>
      obtain ⟨step, m⟩ := e
      obtain ⟨hafter, hrest⟩ := List.pairwise_cons.1 hordered
      rw [List.forall_mem_cons] at hobeys
      obtain ⟨first, heq, hfirst, hover⟩ := hobeys.1 ⟨depth, step.index⟩ s calls
      rw [List.foldl_cons, List.foldl_cons, walkHeld, walkHeld, heq]
      generalize hw : walkStatement visit ⟨depth, step.index⟩ m ⟨s, false⟩ = w at hover
      obtain ⟨state, isOver⟩ := w
      have hmap : first.map (Visit.call fun v => Place.along ⟨depth, step.index⟩ v.path) =
          (first.map (Visit.under step)).map (Visit.call (Visit.placeIn depth)) := by
        rw [List.map_map]
        rfl
      cases isOver with
      | true =>
          have hexit := hover.1 rfl
          refine ⟨first.map (.under step), ?_, .stopped hafter hfirst hexit, ?_⟩
          · rw [foldl_walkHeld_of_isOver _ _ _ rfl, foldl_walkHeld_of_isOver _ _ _ rfl, hmap]
          · rw [foldl_walkHeld_of_isOver _ _ _ rfl, hover]
            simp only [List.mem_map, exists_exists_and_eq_and, Visit.under]
      | false =>
          have hgoes : ∀ v ∈ first, v.answer ≠ .exit := fun v hv hexit =>
            Bool.false_ne_true (hover.2 ⟨v, hv, hexit⟩)
          obtain ⟨others, heq', hothers, hover'⟩ := ih hrest hobeys.2 state _
          refine ⟨first.map (.under step) ++ others, ?_, .cons hafter hfirst hgoes hothers, ?_⟩
          · rw [heq', hmap, List.map_append, List.append_assoc]
          · rw [hover', Obeys.exists_mem_append_iff]
            exact (or_iff_right fun ⟨v, hv, hexit⟩ => hgoes v hv hexit).symm

/-- **The walk of a statement obeys its answers.** -/
theorem walkObeys (n : Node) : WalkObeys visit n := by
  intro place s calls
  cases hanswer : visit s n place with
  | mk s' answer =>
      have hrecorded : recorded visit (s, calls) n place =
          ((s', calls ++ [⟨n, place, answer⟩]), answer) := by
        rw [recorded, hanswer]
      cases answer with
      | exit =>
          rw [walkStatement_of_exit hanswer, walkStatement_of_exit hrecorded]
          exact ⟨[⟨[], n, .exit⟩], rfl, .skipped n nofun, by simp⟩
      | skip =>
          rw [walkStatement_of_skip hanswer, walkStatement_of_skip hrecorded]
          exact ⟨[⟨[], n, .skip⟩], rfl, .skipped n nofun, by simp⟩
      | enter =>
          obtain ⟨visits, heq, hobeys, hover⟩ := exists_visits_held visit n.pairwise_held
            (fun e he => walkObeys e.2) (place.depth + 1) s' (calls ++ [⟨n, place, .enter⟩])
          rw [walkStatement_of_enter visit hanswer, walkStatement_of_enter _ hrecorded, heq]
          refine ⟨⟨[], n, .enter⟩ :: visits, ?_, hobeys.entered, ?_⟩
          · have hplaces : visits.map (Visit.call (Visit.placeIn (place.depth + 1))) =
                visits.map (Visit.call fun v => place.along v.path) := by
              refine List.map_congr_left fun v hv => ?_
              obtain ⟨step, _, path, hpath, -⟩ := (hobeys.reached v hv).exists_cons
              rw [Visit.call, Visit.call, Visit.placeIn, hpath]
              rfl
            rw [List.map_cons, hplaces, List.append_assoc]
            rfl
          · rw [hover]
            simp
termination_by sizeOf n
decreasing_by exact (Node.mem_held_iff.1 he).sizeOf_lt

end Walks

/-! ### Where a visitor is told that it is -/

/-- The place of the statement at a path: one less deep than the path is long, at the index of the
last step. -/
def Place.ofPath (path : List Step) : Place :=
  ⟨path.length - 1, (path.getLast?.map Step.index).getD 0⟩

/-- The place of a statement inside of another is that at the end of the path to it. -/
theorem Place.along_eq (place : Place) (path : List Step) :
    place.along path =
      ⟨place.depth + path.length, (path.getLast?.map Step.index).getD place.index⟩ := by
  induction path generalizing place with
  | nil => rfl
  | cons step path ih =>
      rw [along, ih, List.length_cons, List.getLast?_cons]
      cases path.getLast? <;> simp [Nat.add_assoc, Nat.add_comm 1]

/-- At the top level the place of a visit is that at its path. -/
theorem Visit.placeIn_zero {v : Visit} (h : v.path ≠ []) : v.placeIn 0 = Place.ofPath v.path := by
  obtain ⟨step, path, hpath⟩ := List.exists_cons_of_ne_nil h
  rw [placeIn, hpath, Place.ofPath, List.getLast?_cons]
  simp only [Place.along_eq]
  cases path.getLast? <;> simp

namespace Module

/-- **What a place tells** about the statement at a path of a module. -/
structure Placed (m : Module) (path : List Step) (n : Node) (place : Place) : Prop where
  /-- It is the only statement at its path. -/
  reached : ∀ k, m.Reaches path k ↔ k = n
  /-- As many statements are around it as the depth says. -/
  around : ∃ outers : List (List Step), outers.Nodup ∧ outers.length = place.depth ∧
    ∀ outer, outer ∈ outers ↔ Encloses outer path ∧ ∃ k, m.Reaches outer k
  /-- At the top level it is the item of the body at the index. -/
  top : place.depth = 0 → m.body[place.index]? = some n ∧ n.isModuleDeclaration = false
  /-- Below it is at the index of a list of the statement right around it. -/
  nested : 0 < place.depth → ∃ outer o step, path = outer ++ [step] ∧ m.Reaches outer o ∧
    o.Holds step n ∧ step.index = place.index

/-- **The place at a path tells where the statement is.** -/
theorem Reaches.placed {m : Module} {path : List Step} {n : Node} (h : m.Reaches path n) :
    m.Placed path n (Place.ofPath path) where
  reached := by
    intro k
    exact ⟨fun hk => hk.unique h, fun hk => hk ▸ h⟩
  around := h.around
  top := by
    intro hdepth
    obtain ⟨hindex, hstatement, hpath⟩ := h
    obtain rfl : _ = [] := List.eq_nil_of_length_eq_zero hdepth
    cases hpath
    exact ⟨hindex, hstatement⟩
  nested := by
    intro hdepth
    obtain ⟨outer, step, rfl⟩ := (List.eq_nil_or_concat' path).resolve_left h.ne_nil
    have hne : outer ≠ [] := by
      rintro rfl
      exact absurd hdepth (Nat.lt_irrefl 0)
    obtain ⟨o, houter, _ | ⟨hholds, hlast⟩⟩ := (reaches_append_iff hne).1 h
    cases hlast
    exact ⟨outer, o, step, rfl, houter, hholds, by simp [Place.ofPath]⟩

/-- **The walk of a module obeys its answers.** Whatever a visitor answers, from whatever state it
keeps, there are visits of statements of the module that obey these answers, and they are all that
the visitor is called for: with the statements, the places where they are, and in this order. -/
theorem exists_visits_walk {σ : Type} (m : Module) (visit : σ → Node → Place → σ × Control)
    (s : σ) :
    ∃ visits : List Visit,
      m.walk (recorded visit) (s, []) =
        (m.walk visit s, visits.map (Visit.call fun v => Place.ofPath v.path)) ∧
      Obeys m.Reaches visits ∧ (visits.map Visit.path).Nodup ∧
      ∀ v ∈ visits, m.Placed v.path v.statement (Place.ofPath v.path) := by
  obtain ⟨visits, heq, hobeys, -⟩ := exists_visits_held visit m.pairwise_held
    (fun e _ => walkObeys visit e.2) 0 s []
  have hreaches : ReachesIn m.held = m.Reaches := by
    funext path n
    exact propext reaches_iff.symm
  rw [hreaches] at hobeys
  refine ⟨visits, ?_, hobeys, hobeys.nodup, fun v hv => (hobeys.reached v hv).placed⟩
  have hplaces : visits.map (Visit.call (Visit.placeIn 0)) =
      visits.map (Visit.call fun v => Place.ofPath v.path) := by
    refine List.map_congr_left fun v hv => ?_
    rw [Visit.call, Visit.call, Visit.placeIn_zero (hobeys.reached v hv).ne_nil]
  rw [Module.walk, Module.walk, walkBody_eq_foldl, walkBody_eq_foldl, heq, hplaces]
  rfl

end Module

end HostProps
