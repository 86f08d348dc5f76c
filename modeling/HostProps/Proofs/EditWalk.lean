import HostProps.Proofs.Editing
import HostProps.Proofs.Tree
import HostProps.Proofs.Visits

/-!
# What an Edit Walk does

A walk that edits lets its visitor replace each statement that it is given, and then goes on with
what the replacement holds. So the tree changes under the walk, and two things must be shown: that
nothing changes but what the visitor changes, and that the walk goes where the answers say, in the
tree that is there by then.

A visitor that leaves statements alone makes both easy: the walk is the one that only looks, and the
module stays as it is (`editStatement_leaving`).

For all other visitors the walk is told by its `Rewriting`s: where each of them was, what the
visitor was given and what it made of it, what was left of that when the walk was over, and the
answer. Each rewriting is consistent with those inside of it (`Rewriting.Consistent`), and they obey
their answers in the module that is left as visits of a walk that only looks do
(`Obeys`). So `exists_rewritings_held` and `editObeys` follow the proofs for such walks, with the
frames of statements in addition.

The number of levels is scaffolding: it bounds how deep statements are entered, since a visitor may
put statements into statements without end. If it bounds nothing, then any larger number does the
same.

## Main results

* `editStatement_leaving`: edit walks that leave statements alone.
* `exists_rewritings_held`, `editObeys`: the rewritings of statements.
* `Module.editWalk_refines`: both for modules.
-/

namespace HostProps

/-! ### One statement -/

/-- A visitor of statements makes statements of them: what was one is one, and no part goes
missing. -/
structure MakesStatements {σ : Type} (visit : σ → Node → Place → σ × Node × Control) : Prop where
  present : ∀ s n place, n.isAbsent = false → (visit s n place).2.1.isAbsent = false
  statement : ∀ s n place, n.isModuleDeclaration = false →
    (visit s n place).2.1.isModuleDeclaration = false

section Editing

variable {σ : Type} {visit : σ → Node → Place → σ × Node × Control}

/-- An edit walk that is over leaves everything. -/
theorem editStatement_of_isOver {w : Walking σ} (h : w.isOver = true) (levels : Nat) (place : Place)
    (n : Node) : editStatement visit levels place n w = (w, n) := by
  rw [editStatement, if_pos h]

/-- A visitor that does not enter what it makes leaves it as it is. -/
theorem editStatement_of_ne_enter {s s' : σ} {n made : Node} {place : Place} {answer : Control}
    (h : visit s n place = (s', made, answer)) (hanswer : answer ≠ .enter) (levels : Nat) :
    editStatement visit levels place n ⟨s, false⟩ = (⟨s', decide (answer = .exit)⟩, made) := by
  rw [editStatement, if_neg Bool.false_ne_true]
  cases answer with
  | enter => exact absurd rfl hanswer
  | skip | exit => simp only [h]; rfl

/-- At the last level nothing is entered. -/
theorem editStatement_zero {s s' : σ} {n made : Node} {place : Place} {answer : Control}
    (h : visit s n place = (s', made, answer)) :
    editStatement visit 0 place n ⟨s, false⟩ = (⟨s', decide (answer = .exit)⟩, made) := by
  cases answer with
  | enter =>
      rw [editStatement, if_neg Bool.false_ne_true]
      simp only [h]
      rfl
  | skip | exit => exact editStatement_of_ne_enter h (by decide) 0

/-- How a visitor edits what is held at some depth. -/
def editAt (visit : σ → Node → Place → σ × Node × Control) (levels depth index : Nat) (n : Node)
    (w : Walking σ) : Walking σ × Node :=
  editStatement visit levels ⟨depth, index⟩ n w

/-- A visitor that enters what it makes goes on with what that holds. -/
theorem editStatement_succ_of_enter {s s' : σ} {n made : Node} {place : Place}
    (h : visit s n place = (s', made, .enter)) (levels : Nat) :
    editStatement visit (levels + 1) place n ⟨s, false⟩ =
      made.editStatements (editAt visit levels (place.depth + 1)) ⟨s', false⟩ := by
  rw [editStatement, if_neg Bool.false_ne_true]
  simp only [h]
  rfl

/-- An edit of the statements in a statement leaves its head. -/
theorem Node.head_editStatements (f : Nat → Node → Walking σ → Walking σ × Node) (n : Node)
    (w : Walking σ) : (n.editStatements f w).2.head = n.head := by
  cases n
  rfl

/-- What is left of a statement has the head of what the visitor made of it. -/
theorem head_editStatement (levels : Nat) (place : Place) (n : Node) (w : Walking σ) :
    (editStatement visit levels place n w).2.head =
      if w.isOver then n.head else (visit w.state n place).2.1.head := by
  obtain ⟨s, isOver⟩ := w
  cases isOver with
  | true => rw [editStatement_of_isOver rfl, if_pos rfl]
  | false =>
      rw [if_neg Bool.false_ne_true]
      cases hvisit : visit s n place with
      | mk s' r =>
          obtain ⟨made, answer⟩ := r
          by_cases hanswer : answer = .enter
          · subst hanswer
            cases levels with
            | zero => rw [editStatement_zero hvisit]
            | succ levels => rw [editStatement_succ_of_enter hvisit, Node.head_editStatements]
          · rw [editStatement_of_ne_enter hvisit hanswer]

/-- What depends on the head of a statement alone is kept by an edit if the visitor keeps it. -/
theorem editStatement_keeps {p : Node → Bool} (hp : ∀ {n m : Node}, n.head = m.head → p n = p m)
    (hvisit : ∀ s n place, p n = false → p (visit s n place).2.1 = false) (levels : Nat)
    (place : Place) {n : Node} (hn : p n = false) (w : Walking σ) :
    p (editStatement visit levels place n w).2 = false := by
  have hhead : (editStatement visit levels place n w).2.head = _ :=
    head_editStatement levels place n w
  by_cases hover : w.isOver = true
  · rw [if_pos hover] at hhead
    rw [hp hhead, hn]
  · rw [if_neg hover] at hhead
    rw [hp hhead, hvisit w.state n place hn]

/-- No part goes missing in an edit walk. -/
theorem MakesStatements.keepsPresent (h : MakesStatements visit) (levels depth : Nat) :
    KeepsPresent (editAt visit levels depth) :=
  fun _ _ w hn => editStatement_keeps Node.isAbsent_congr h.present levels _ hn w

/-- Two nodes of one head are both declarations about modules or both not. -/
theorem Node.isModuleDeclaration_congr {n m : Node} (h : n.head = m.head) :
    n.isModuleDeclaration = m.isModuleDeclaration := by
  refine congr_of_head (fun h _ _ => ?_) h
  cases h with
  | plain form o => cases form <;> rfl
  | _ => rfl

/-- Statements stay statements in an edit walk. -/
theorem MakesStatements.keepsStatements (h : MakesStatements visit) (levels depth : Nat) :
    KeepsStatements (editAt visit levels depth) :=
  fun _ _ w hn => editStatement_keeps Node.isModuleDeclaration_congr h.statement levels _ hn w

end Editing

/-! ### Leaving statements alone -/

section Leaving

variable {σ : Type} (visit : σ → Node → Place → σ × Control)

/-- A visitor that only looks, as one that could edit. -/
def leaving (s : σ) (n : Node) (place : Place) : σ × Node × Control :=
  ((visit s n place).1, n, (visit s n place).2)

/-- A visitor that only looks makes statements of statements. -/
theorem makesStatements_leaving : MakesStatements (leaving visit) where
  present _ _ _ hn := hn
  statement _ _ _ hn := hn

/-- Editing that leaves some statements alone folds over them. -/
theorem editHeld_of_unchanged {f : Nat → Node → Walking σ → Walking σ × Node}
    {g : Walking σ → Step × Node → Walking σ} {held : List (Step × Node)}
    (h : ∀ e ∈ held, ∀ w, f e.1.index e.2 w = (g w e, e.2)) (w : Walking σ) :
    editHeld f held w = (held.foldl g w, held) := by
  induction held generalizing w with
  | nil => rfl
  | cons e held ih =>
      rw [List.forall_mem_cons] at h
      simp only [editHeld, h.1, ih h.2, List.foldl_cons]

/-- **An edit walk that leaves statements alone only looks**, if it may enter as deep as the
statement is high. -/
theorem editStatement_leaving {levels : Nat} {n : Node} (hlevels : n.height ≤ levels)
    (place : Place) (w : Walking σ) :
    editStatement (leaving visit) levels place n w = (walkStatement visit place n w, n) := by
  induction levels generalizing n place w with
  | zero =>
      cases n
      exact absurd hlevels (Nat.not_succ_le_zero _)
  | succ levels ih =>
      obtain ⟨s, isOver⟩ := w
      cases isOver with
      | true => rw [editStatement_of_isOver rfl, walkStatement_of_isOver rfl]
      | false =>
          cases hvisit : visit s n place with
          | mk s' answer =>
              have hleaving : leaving visit s n place = (s', n, answer) := by
                rw [leaving, hvisit]
              cases answer with
              | exit =>
                  rw [editStatement_of_ne_enter hleaving nofun, walkStatement_of_exit hvisit]
                  rfl
              | skip =>
                  rw [editStatement_of_ne_enter hleaving nofun, walkStatement_of_skip hvisit]
                  rfl
              | enter =>
                  have hkeeps := (makesStatements_leaving visit).keepsPresent levels
                    (place.depth + 1)
                  have hheld := n.editHeld_held hkeeps ⟨s', false⟩
                  rw [editHeld_of_unchanged (g := walkHeld visit (place.depth + 1)) ?_,
                    Prod.mk.injEq] at hheld
                  · rw [editStatement_succ_of_enter hleaving, walkStatement_of_enter visit hvisit,
                      hheld.1]
                    refine Prod.ext rfl (Node.eq_of_frame ?_ hheld.2.symm)
                    exact n.frame_editStatements hkeeps ⟨s', false⟩
                  · intro e he w
                    have hlower := (Node.mem_held_iff.1 he).height_lt
                    exact ih (by omega) ⟨place.depth + 1, e.1.index⟩ w

end Leaving

/-! ### Rewritings -/

/-- A call of a visitor that edits: the statement and the place that it was told, what it made of
the statement, and its answer. -/
structure EditCall where
  statement : Node
  place : Place
  made : Node
  answer : Control

/-- A visitor that keeps a record of its calls, and else is as another. -/
def recordedEdit {σ : Type} (visit : σ → Node → Place → σ × Node × Control)
    (s : σ × List EditCall) (n : Node) (place : Place) : (σ × List EditCall) × Node × Control :=
  let (state, made, answer) := visit s.1 n place
  ((state, s.2 ++ [⟨n, place, made, answer⟩]), made, answer)

/-- A visit that edits: where it was, at which statement, what the visitor made of that, what was
left of it when the walk was over, and what was answered. -/
structure Rewriting where
  path : List Step
  given : Node
  made : Node
  left : Node
  answer : Control

namespace Rewriting

/-- The call at a rewriting. -/
def call (place : Rewriting → Place) (r : Rewriting) : EditCall :=
  ⟨r.given, place r, r.made, r.answer⟩

/-- A rewriting of something inside of a statement, seen from outside. -/
def under (step : Step) (r : Rewriting) : Rewriting := { r with path := step :: r.path }

/-- A rewriting as a visit of what is left. Where its path has `bound` steps or more, the statement
is too deep to be entered. -/
def visit (bound : Nat) (r : Rewriting) : Visit :=
  ⟨r.path, r.left, if r.answer = .enter ∧ bound ≤ r.path.length then .skip else r.answer⟩

/-- **What becomes of the statement at a path**: what is left of it, if it is visited, and else the
statement itself. -/
def Turns (rewritings : List Rewriting) (path : List Step) (n n' : Node) : Prop :=
  (∃ r ∈ rewritings, r.path = path ∧ r.given = n ∧ r.left = n') ∨
    (∀ r ∈ rewritings, r.path ≠ path) ∧ n' = n

/-- **What is left of a rewriting**: what the visitor made, except for the statements in that, if
they are visited. -/
structure Consistent (rewritings : List Rewriting) (r : Rewriting) : Prop where
  /-- What is not entered is left as it was made. -/
  passed : r.answer ≠ .enter → r.left = r.made
  /-- Nothing changes outside of the statements that are held. -/
  frame : r.left.frame = r.made.frame
  /-- Each statement that was made becomes what is left of it. -/
  held : ∀ step k, r.made.Holds step k →
    ∃ k', r.left.Holds step k' ∧ Turns rewritings (r.path ++ [step]) k k'

/-! ### What becomes of statements, one list of rewritings after the other -/

section Turns

variable {rewritings more first others : List Rewriting} {path : List Step} {step step' : Step}
  {n n' : Node} {r : Rewriting}

/-- What becomes of the statement at a path depends on the rewritings there alone. -/
theorem turns_congr (h : ∀ r : Rewriting, r.path = path → (r ∈ rewritings ↔ r ∈ more)) :
    Turns rewritings path n n' ↔ Turns more path n n' := by
  refine or_congr (exists_congr fun r => ?_) (and_congr_left fun _ => forall_congr' fun r => ?_)
  · constructor
    · rintro ⟨hr, hpath, hrest⟩
      exact ⟨(h r hpath).1 hr, hpath, hrest⟩
    · rintro ⟨hr, hpath, hrest⟩
      exact ⟨(h r hpath).2 hr, hpath, hrest⟩
  · exact ⟨fun hne hr hpath => hne ((h r hpath).2 hr) hpath,
      fun hne hr hpath => hne ((h r hpath).1 hr) hpath⟩

/-- What becomes of a statement does not depend on a rewriting somewhere else. -/
theorem turns_cons (h : r.path ≠ path) :
    Turns (r :: rewritings) path n n' ↔ Turns rewritings path n n' := by
  refine turns_congr fun q hpath => ?_
  rw [List.mem_cons, or_iff_right]
  rintro rfl
  exact h hpath

/-- Behind a step the same becomes of statements as before it. -/
theorem turns_map_under :
    Turns (first.map (under step)) (step :: path) n n' ↔ Turns first path n n' := by
  simp only [Turns, List.mem_map, exists_exists_and_eq_and, forall_exists_index, and_imp,
    forall_apply_eq_imp_iff₂, under, List.cons.injEq, true_and, ne_eq]

/-- What becomes of the first of some statements, and of what is inside of it. -/
theorem turns_append_first
    (hothers : ∀ r ∈ others, ∃ step' rest, r.path = step' :: rest ∧ step ≠ step') :
    Turns (first.map (under step) ++ others) (step :: path) n n' ↔ Turns first path n n' := by
  have hunder : Turns (first.map (under step)) (step :: path) n n' ↔ Turns first path n n' :=
    turns_map_under
  refine (turns_congr fun r hpath => ?_).trans hunder
  rw [List.mem_append, or_iff_left]
  intro hr
  obtain ⟨step', rest, hpath', hne⟩ := hothers r hr
  exact hne (List.cons.inj (hpath.symm.trans hpath')).1

/-- What becomes of the other ones. -/
theorem turns_append_others (hne : step ≠ step') :
    Turns (first.map (under step) ++ others) (step' :: path) n n' ↔
      Turns others (step' :: path) n n' := by
  refine turns_congr fun r hpath => ?_
  rw [List.mem_append, or_iff_right]
  rintro hr
  obtain ⟨r, -, rfl⟩ := List.mem_map.1 hr
  exact hne (List.cons.inj hpath).1

/-- A rewriting is consistent with others if the same becomes of the statements in it. -/
theorem Consistent.of_turns {r' : Rewriting} (h : r.Consistent rewritings)
    (hmade : r'.made = r.made) (hleft : r'.left = r.left) (hanswer : r'.answer = r.answer)
    (hturns : ∀ step k k', Turns rewritings (r.path ++ [step]) k k' →
      Turns more (r'.path ++ [step]) k k') : r'.Consistent more where
  passed := by
    rw [hanswer, hleft, hmade]
    exact h.passed
  frame := by
    rw [hleft, hmade]
    exact h.frame
  held := by
    rw [hleft, hmade]
    intro step k hk
    obtain ⟨k', hk', hturn⟩ := h.held step k hk
    exact ⟨k', hk', hturns step k k' hturn⟩

/-- Rewritings of the first of some statements and of the other ones are consistent if they are so
on their own. -/
theorem consistent_append (hfirst : ∀ r ∈ first, r.Consistent first)
    (hothers : ∀ r ∈ others, r.Consistent others)
    (hpaths : ∀ r ∈ others, ∃ step' rest, r.path = step' :: rest ∧ step ≠ step') :
    ∀ r ∈ first.map (under step) ++ others, r.Consistent (first.map (under step) ++ others) := by
  rw [List.forall_mem_append, List.forall_mem_map]
  refine ⟨fun r hr => (hfirst r hr).of_turns rfl rfl rfl fun _ _ _ => ?_,
    fun r hr => (hothers r hr).of_turns rfl rfl rfl fun _ _ _ => ?_⟩
  · exact (turns_append_first hpaths).2
  · obtain ⟨step', rest, hpath, hne⟩ := hpaths r hr
    rw [hpath, List.cons_append]
    exact (turns_append_others hne).2

end Turns

/-! ### Rewritings as visits -/

/-- A rewriting behind a step, as a visit, is the visit behind that step. -/
theorem visit_under (bound : Nat) (step : Step) (r : Rewriting) :
    (r.under step).visit (bound + 1) = (r.visit bound).under step := by
  simp only [visit, under, Visit.under, List.length_cons, Nat.add_le_add_iff_right]

/-- Rewritings exit as visits if and only if they do so themselves. -/
theorem visit_answer_eq_exit_iff {bound : Nat} {r : Rewriting} :
    (r.visit bound).answer = .exit ↔ r.answer = .exit := by
  rw [visit]
  split
  · rename_i h
    simp [h.1]
  · rfl

/-- Rewritings behind a step, as visits, are the visits behind that step. -/
theorem map_visit_under (bound : Nat) (step : Step) (rewritings : List Rewriting) :
    (rewritings.map (under step)).map (visit (bound + 1)) =
      (rewritings.map (visit bound)).map (.under step) := by
  rw [List.map_map, List.map_map]
  exact List.map_congr_left fun r _ => r.visit_under bound step

/-- Rewritings behind a step are called for at the places inside of the statement there. -/
theorem map_call_under (depth : Nat) (step : Step) (rewritings : List Rewriting) :
    (rewritings.map (under step)).map (call fun r => (r.visit 0).placeIn depth) =
      rewritings.map (call fun r => Place.along ⟨depth, step.index⟩ r.path) := by
  rw [List.map_map]
  rfl

/-- Rewritings inside of a statement are called for at the places along their paths. -/
theorem map_call_inside (place : Place) {rewritings : List Rewriting}
    (hpaths : ∀ r ∈ rewritings, r.path ≠ []) :
    rewritings.map (call fun r => (r.visit 0).placeIn (place.depth + 1)) =
      rewritings.map (call fun r => place.along r.path) := by
  refine List.map_congr_left fun r hr => ?_
  obtain ⟨step, rest, hpath⟩ := List.exists_cons_of_ne_nil (hpaths r hr)
  rw [call, call, visit, Visit.placeIn, hpath]
  rfl

/-- Rewritings in a body are called for at the places of their paths. -/
theorem map_call_body {rewritings : List Rewriting} (hpaths : ∀ r ∈ rewritings, r.path ≠ []) :
    rewritings.map (call fun r => (r.visit 0).placeIn 0) =
      rewritings.map (call fun r => Place.ofPath r.path) := by
  refine List.map_congr_left fun r hr => ?_
  rw [call, call, Visit.placeIn_zero (hpaths r hr)]
  rfl

end Rewriting

/-! ### Walks that edit obey -/

/-- **What a walk that edits did**: it called its visitor for some rewritings, which obey their
answers and are consistent with each other, and it is over if and only if one of the answers was to
exit. If no statement was too deep to be entered, it does the same with `more` levels. -/
structure EditFollows {σ α : Type} (bound : Nat) (Reaches : List Step → Node → Prop)
    (place : Rewriting → Place) (edited : Walking σ × α) (longer : Nat → Walking σ × α)
    (recorded : Walking (σ × List EditCall) × α) (calls : List EditCall)
    (rewritings : List Rewriting) : Prop where
  eq_edit : recorded =
    (⟨(edited.1.state, calls ++ rewritings.map (Rewriting.call place)), edited.1.isOver⟩, edited.2)
  obeys : Obeys Reaches (rewritings.map (Rewriting.visit bound))
  isOver_iff : edited.1.isOver = true ↔ ∃ r ∈ rewritings, r.answer = .exit
  consistent : ∀ r ∈ rewritings, r.Consistent rewritings
  unbounded : (∀ r ∈ rewritings, r.answer = .enter → r.path.length < bound) →
    ∀ more, longer more = edited

section Walks

variable {σ : Type} (visit : σ → Node → Place → σ × Node × Control)

/-- The walk of each statement obeys its answers, at most some levels deep, and tells what becomes
of the statement. -/
def EditObeys (levels : Nat) : Prop :=
  ∀ (n : Node) (place : Place) (s : σ) (calls : List EditCall),
    let edited := editStatement visit levels place n ⟨s, false⟩
    ∃ rewritings,
      EditFollows levels edited.2.Reaches (fun r => place.along r.path) edited
        (fun more => editStatement visit (levels + more) place n ⟨s, false⟩)
        (editStatement (recordedEdit visit) levels place n ⟨(s, calls), false⟩) calls rewritings ∧
      Rewriting.Turns rewritings [] n edited.2

/-- A walk that is over edits none of some statements. -/
theorem editHeld_over (levels depth : Nat) (held : List (Step × Node)) (s : σ) :
    editHeld (editAt visit levels depth) held ⟨s, true⟩ = (⟨s, true⟩, held) := by
  induction held with
  | nil => rfl
  | cons e held ih => simp only [editHeld, editAt, editStatement_of_isOver, ih]

/-- Editing leaves the steps of statements. -/
theorem forall_mem_editHeld (f : Nat → Node → Walking σ → Walking σ × Node) {Q : Step → Prop}
    {held : List (Step × Node)} (h : ∀ e ∈ held, Q e.1) (w : Walking σ) :
    ∀ e ∈ (editHeld f held w).2, Q e.1 := by
  induction held generalizing w with
  | nil => exact h
  | cons e held ih =>
      rw [List.forall_mem_cons] at h
      exact List.forall_mem_cons.2 ⟨h.1, ih h.2 _⟩

section Several

variable {visit}
variable {levels depth : Nat} {step : Step} {m m' : Node} {held : List (Step × Node)} {s state : σ}
  {calls : List EditCall} {first : List Rewriting}

/-- The rewritings of statements behind a step are behind other ones. -/
theorem EditFollows.exists_step_ne {bound : Nat} {place : Rewriting → Place}
    {edited : Walking σ × List (Step × Node)} {longer : Nat → Walking σ × List (Step × Node)}
    {recorded : Walking (σ × List EditCall) × List (Step × Node)} {rewritings : List Rewriting}
    (h : EditFollows bound (ReachesIn edited.2) place edited longer recorded calls rewritings)
    (hafter : ∀ e ∈ edited.2, step.Before e.1) :
    ∀ r ∈ rewritings, ∃ step' rest, r.path = step' :: rest ∧ step ≠ step' := by
  intro r hr
  obtain ⟨step', _, rest, hpath, hheld, -⟩ :=
    (h.obeys.reached _ (List.mem_map_of_mem hr)).exists_cons
  exact ⟨step', rest, hpath, (hafter _ hheld).ne⟩

/-- **A walk that is over after the first of some statements** leaves the other ones. -/
theorem EditFollows.stopped (hafter : ∀ e ∈ held, step.Before e.1)
    (h : EditFollows levels m'.Reaches (fun r => Place.along ⟨depth, step.index⟩ r.path)
      (⟨state, true⟩, m')
      (fun more => editStatement visit (levels + more) ⟨depth, step.index⟩ m ⟨s, false⟩)
      (editStatement (recordedEdit visit) levels ⟨depth, step.index⟩ m ⟨(s, calls), false⟩) calls
      first) :
    EditFollows (levels + 1) (ReachesIn ((step, m') :: held)) (fun r => (r.visit 0).placeIn depth)
      (⟨state, true⟩, (step, m') :: held)
      (fun more => editHeld (editAt visit (levels + more) depth) ((step, m) :: held) ⟨s, false⟩)
      (editHeld (editAt (recordedEdit visit) levels depth) ((step, m) :: held) ⟨(s, calls), false⟩)
      calls (first.map (.under step)) := by
  obtain ⟨r, hr, hanswer⟩ := h.isOver_iff.1 rfl
  refine ⟨?_, ?_, iff_of_true rfl ⟨_, List.mem_map_of_mem hr, hanswer⟩, ?_, ?_⟩
  · simp only [editHeld, editAt, h.eq_edit, editHeld_over, Rewriting.map_call_under]
  · rw [Rewriting.map_visit_under]
    exact .stopped hafter h.obeys
      ⟨_, List.mem_map_of_mem hr, Rewriting.visit_answer_eq_exit_iff.2 hanswer⟩
  · rw [List.forall_mem_map]
    intro r hr
    exact (h.consistent r hr).of_turns rfl rfl rfl fun _ _ _ => Rewriting.turns_map_under.2
  · rw [List.forall_mem_map]
    intro hlevels more
    have hlonger := h.unbounded
      (fun r hr henter => Nat.lt_of_succ_lt_succ (hlevels r hr henter)) more
    simp only [editHeld, editAt, hlonger, editHeld_over]

/-- **A walk that goes on after the first of some statements** goes on with the other ones. -/
theorem EditFollows.cons {edited : Walking σ × List (Step × Node)} {others : List Rewriting}
    (hafter : ∀ e ∈ edited.2, step.Before e.1)
    (h : EditFollows levels m'.Reaches (fun r => Place.along ⟨depth, step.index⟩ r.path)
      (⟨state, false⟩, m')
      (fun more => editStatement visit (levels + more) ⟨depth, step.index⟩ m ⟨s, false⟩)
      (editStatement (recordedEdit visit) levels ⟨depth, step.index⟩ m ⟨(s, calls), false⟩) calls
      first)
    (hothers : EditFollows (levels + 1) (ReachesIn edited.2) (fun r => (r.visit 0).placeIn depth)
      edited (fun more => editHeld (editAt visit (levels + more) depth) held ⟨state, false⟩)
      (editHeld (editAt (recordedEdit visit) levels depth) held
        ⟨(state,
          calls ++ first.map (Rewriting.call fun r => Place.along ⟨depth, step.index⟩ r.path)),
          false⟩)
      (calls ++ first.map (Rewriting.call fun r => Place.along ⟨depth, step.index⟩ r.path))
      others) :
    EditFollows (levels + 1) (ReachesIn ((step, m') :: edited.2))
      (fun r => (r.visit 0).placeIn depth) (edited.1, (step, m') :: edited.2)
      (fun more => editHeld (editAt visit (levels + more) depth) ((step, m) :: held) ⟨s, false⟩)
      (editHeld (editAt (recordedEdit visit) levels depth) ((step, m) :: held) ⟨(s, calls), false⟩)
      calls (first.map (.under step) ++ others) := by
  have hgoes : ∀ r ∈ first, r.answer ≠ .exit :=
    fun r hr hanswer => Bool.false_ne_true (h.isOver_iff.2 ⟨r, hr, hanswer⟩)
  refine ⟨?_, ?_, ?_, ?_, ?_⟩
  · simp only [editHeld, editAt, h.eq_edit]
    rw [hothers.eq_edit, List.map_append, Rewriting.map_call_under, List.append_assoc]
  · rw [List.map_append, Rewriting.map_visit_under]
    refine .cons hafter h.obeys ?_ hothers.obeys
    rw [List.forall_mem_map]
    exact fun r hr => mt Rewriting.visit_answer_eq_exit_iff.1 (hgoes r hr)
  · rw [hothers.isOver_iff]
    constructor
    · rintro ⟨r, hr, hanswer⟩
      exact ⟨r, List.mem_append_right _ hr, hanswer⟩
    · rintro ⟨r, hr, hanswer⟩
      refine ⟨r, (List.mem_append.1 hr).resolve_left fun hr => ?_, hanswer⟩
      obtain ⟨r', hr', rfl⟩ := List.mem_map.1 hr
      exact hgoes r' hr' hanswer
  · refine Rewriting.consistent_append h.consistent hothers.consistent fun r hr => ?_
    exact hothers.exists_step_ne hafter r hr
  · rw [List.forall_mem_append, List.forall_mem_map]
    intro hlevels more
    have hlonger := h.unbounded
      (fun r hr henter => Nat.lt_of_succ_lt_succ (hlevels.1 r hr henter)) more
    simp only [editHeld, editAt, hlonger, hothers.unbounded hlevels.2]

end Several

/-- **The walk of several statements** obeys its answers if that of each of them does, and tells
what becomes of each of them. -/
theorem exists_rewritings_held {levels : Nat} (hlevel : EditObeys visit levels)
    {held : List (Step × Node)} (hordered : held.Pairwise fun a b => a.1.Before b.1) (depth : Nat)
    (s : σ) (calls : List EditCall) :
    let edited := editHeld (editAt visit levels depth) held ⟨s, false⟩
    ∃ rewritings,
      EditFollows (levels + 1) (ReachesIn edited.2) (fun r => (r.visit 0).placeIn depth) edited
        (fun more => editHeld (editAt visit (levels + more) depth) held ⟨s, false⟩)
        (editHeld (editAt (recordedEdit visit) levels depth) held ⟨(s, calls), false⟩) calls
        rewritings ∧
      ∀ e ∈ held, ∃ n', (e.1, n') ∈ edited.2 ∧ Rewriting.Turns rewritings [e.1] e.2 n' := by
  induction held generalizing s calls with
  | nil =>
      refine ⟨[], ⟨?_, .nil, by simp [editHeld], by simp, fun _ _ => rfl⟩, by simp⟩
      rw [List.map_nil, List.append_nil]
      rfl
  | cons e held ih =>
      obtain ⟨step, m⟩ := e
      obtain ⟨hafter, hrest⟩ := List.pairwise_cons.1 hordered
      obtain ⟨first, hfirst, hturn⟩ := hlevel m ⟨depth, step.index⟩ s calls
      obtain ⟨⟨⟨state, isOver⟩, m'⟩, hedit⟩ :
          ∃ r, editStatement visit levels ⟨depth, step.index⟩ m ⟨s, false⟩ = r := ⟨_, rfl⟩
      simp only [hedit] at hfirst hturn
      cases isOver with
      | true =>
          have hover : editHeld (editAt visit levels depth) ((step, m) :: held) ⟨s, false⟩ =
              (⟨state, true⟩, (step, m') :: held) := by
            simp only [editHeld, editAt, hedit, editHeld_over]
          simp only [hover]
          refine ⟨_, hfirst.stopped hafter, List.forall_mem_cons.2 ⟨?_, fun e he => ?_⟩⟩
          · exact ⟨m', List.mem_cons_self, Rewriting.turns_map_under.2 hturn⟩
          · refine ⟨e.2, List.mem_cons_of_mem _ he, .inr ⟨?_, rfl⟩⟩
            rw [List.forall_mem_map]
            exact fun r _ hpath => (hafter e he).ne (List.cons.inj hpath).1
      | false =>
          have hgoes : editHeld (editAt visit levels depth) ((step, m) :: held) ⟨s, false⟩ =
              ((editHeld (editAt visit levels depth) held ⟨state, false⟩).1,
                (step, m') :: (editHeld (editAt visit levels depth) held ⟨state, false⟩).2) := by
            simp only [editHeld, editAt, hedit]
          obtain ⟨others, hothers, hturns⟩ := ih hrest state
            (calls ++ first.map (Rewriting.call fun r => Place.along ⟨depth, step.index⟩ r.path))
          have hafter' := forall_mem_editHeld (editAt visit levels depth) hafter ⟨state, false⟩
          have hpaths := hothers.exists_step_ne hafter'
          simp only [hgoes]
          refine ⟨_, .cons hafter' hfirst hothers, List.forall_mem_cons.2 ⟨?_, fun e he => ?_⟩⟩
          · exact ⟨m', List.mem_cons_self, (Rewriting.turns_append_first hpaths).2 hturn⟩
          · obtain ⟨n', hn', hturn'⟩ := hturns e he
            exact ⟨n', List.mem_cons_of_mem _ hn',
              (Rewriting.turns_append_others (hafter e he).ne).2 hturn'⟩

variable {visit}

/-- A visitor that keeps a record makes statements if the other one does. -/
theorem MakesStatements.recordedEdit (h : MakesStatements visit) :
    MakesStatements (recordedEdit visit) where
  present s n place hn := h.present s.1 n place hn
  statement s n place hn := h.statement s.1 n place hn

/-- A visitor that keeps a record makes the same of statements, and answers the same. -/
theorem recordedEdit_eq {n made : Node} {place : Place} {s s' : σ} {answer : Control}
    (h : visit s n place = (s', made, answer)) (calls : List EditCall) :
    recordedEdit visit (s, calls) n place =
      ((s', calls ++ [⟨n, place, made, answer⟩]), made, answer) := by
  rw [recordedEdit, h]

/-- A statement that is not entered is the only one visited in it, and is left as it is made. -/
theorem editFollows_single {bound : Nat} {n made : Node} {place : Place} {s : σ}
    {calls : List EditCall} {answer : Control} {longer : Nat → Walking σ × Node}
    (hanswer : answer = .enter → bound = 0)
    (hlonger : answer ≠ .enter → ∀ more, longer more = (⟨s, decide (answer = .exit)⟩, made)) :
    EditFollows bound made.Reaches (fun r => place.along r.path)
      (⟨s, decide (answer = .exit)⟩, made) longer
      (⟨(s, calls ++ [⟨n, place, made, answer⟩]), decide (answer = .exit)⟩, made) calls
      [⟨[], n, made, made, answer⟩] where
  eq_edit := rfl
  obeys := by
    refine .skipped made ?_
    split
    · nofun
    · rename_i h
      exact fun heq => h ⟨heq, (hanswer heq).le⟩
  isOver_iff := by simp
  consistent := by
    rw [List.forall_mem_singleton]
    refine ⟨fun _ => rfl, rfl, fun step k hk => ⟨k, hk, .inr ⟨?_, rfl⟩⟩⟩
    rw [List.forall_mem_singleton]
    exact (List.cons_ne_nil _ _).symm
  unbounded := by
    rw [List.forall_mem_singleton]
    intro h
    refine hlonger fun heq => ?_
    have hpos := h heq
    rw [hanswer heq] at hpos
    exact Nat.not_lt_zero _ hpos

/-- A statement that is entered is visited before what the visitor has put into it. -/
theorem exists_rewritings_entered (hvisit : MakesStatements visit) {levels : Nat}
    (hlevel : EditObeys visit levels) (n made : Node) (place : Place) (s : σ)
    (calls : List EditCall) :
    let edited := made.editStatements (editAt visit levels (place.depth + 1)) ⟨s, false⟩
    ∃ rewritings,
      EditFollows (levels + 1) edited.2.Reaches (fun r => place.along r.path) edited
        (fun more =>
          made.editStatements (editAt visit (levels + more) (place.depth + 1)) ⟨s, false⟩)
        (made.editStatements (editAt (recordedEdit visit) levels (place.depth + 1))
          ⟨(s, calls ++ [⟨n, place, made, .enter⟩]), false⟩) calls rewritings ∧
      Rewriting.Turns rewritings [] n edited.2 := by
  intro edited
  have hheld : editHeld (editAt visit levels (place.depth + 1)) made.held ⟨s, false⟩ =
      (edited.1, edited.2.held) :=
    made.editHeld_held (hvisit.keepsPresent levels _) _
  obtain ⟨others, hothers, hturns⟩ := exists_rewritings_held visit hlevel made.pairwise_held
    (place.depth + 1) s (calls ++ [⟨n, place, made, .enter⟩])
  simp only [hheld] at hothers hturns
  obtain ⟨heq, hobeys, hover, hconsistent, hunbounded⟩ := hothers
  have hpaths : ∀ r ∈ others, r.path ≠ [] := by
    intro r hr hnil
    obtain ⟨_, _, _, hpath, -⟩ := (hobeys.reached _ (List.mem_map_of_mem hr)).exists_cons
    cases hnil.symm.trans hpath
  -- What is known by now is about the statements that `made` holds; that these make up the whole of
  -- it is due to its frame, which no edit changes.
  refine ⟨⟨[], n, made, edited.2, .enter⟩ :: others, ⟨?_, ?_, ?_, ?_, ?_⟩,
    .inl ⟨_, List.mem_cons_self, rfl, rfl, rfl⟩⟩
  · have hkeeps := hvisit.recordedEdit.keepsPresent levels (place.depth + 1)
    have hrecorded := made.editHeld_held hkeeps ⟨(s, calls ++ [⟨n, place, made, .enter⟩]), false⟩
    rw [heq, Rewriting.map_call_inside place hpaths, List.append_assoc, Prod.mk.injEq] at hrecorded
    refine Prod.ext hrecorded.1.symm (Node.editStatements_snd_eq hkeeps
      (hvisit.keepsPresent levels _) ?_)
    rw [heq, hheld]
  · rw [List.map_cons, Rewriting.visit, if_neg fun h => Nat.not_succ_le_zero _ h.2]
    exact hobeys.entered
  · rw [hover]
    simp
  · rw [List.forall_mem_cons]
    constructor
    · refine ⟨fun h => absurd rfl h, made.frame_editStatements (hvisit.keepsPresent levels _) _, ?_⟩
      intro step k hk
      obtain ⟨k', hk', hturn⟩ := hturns (step, k) (Node.mem_held_iff.2 hk)
      have hne : [] ≠ [step] := (List.cons_ne_nil _ _).symm
      exact ⟨k', Node.mem_held_iff.1 hk', (Rewriting.turns_cons hne).2 hturn⟩
    · intro r hr
      refine (hconsistent r hr).of_turns rfl rfl rfl fun step k k' => ?_
      exact (Rewriting.turns_cons (by simp)).2
  · intro h more
    have hlonger := hunbounded (fun r hr => h r (List.mem_cons_of_mem _ hr)) more
    have hkeeps := hvisit.keepsPresent (levels + more) (place.depth + 1)
    refine Prod.ext ?_ (Node.editStatements_snd_eq hkeeps (hvisit.keepsPresent levels _) ?_)
    · rw [made.editHeld_held hkeeps, Prod.mk.injEq] at hlonger
      exact hlonger.1
    · rw [hlonger, hheld]

/-- **The walk of a statement obeys its answers**, and tells what becomes of the statement. -/
theorem editObeys (hvisit : MakesStatements visit) (levels : Nat) : EditObeys visit levels := by
  induction levels with
  | zero =>
      intro n place s calls
      cases hmade : visit s n place with
      | mk s' r =>
          obtain ⟨made, answer⟩ := r
          have hrecorded := recordedEdit_eq hmade calls
          rw [editStatement_zero hmade, editStatement_zero hrecorded]
          refine ⟨_, editFollows_single (fun _ => rfl) fun hanswer more => ?_, ?_⟩
          · rw [editStatement_of_ne_enter hmade hanswer]
          · exact .inl ⟨_, List.mem_singleton_self _, rfl, rfl, rfl⟩
  | succ levels ih =>
      intro n place s calls
      cases hmade : visit s n place with
      | mk s' r =>
          obtain ⟨made, answer⟩ := r
          have hrecorded := recordedEdit_eq hmade calls
          by_cases hanswer : answer = .enter
          · subst hanswer
            simp only [Nat.succ_add_eq_add_succ levels 0, Nat.add_right_comm levels 1,
              editStatement_succ_of_enter hmade, editStatement_succ_of_enter hrecorded]
            exact exists_rewritings_entered hvisit ih n made place s' calls
          · rw [editStatement_of_ne_enter hmade hanswer,
              editStatement_of_ne_enter hrecorded hanswer]
            refine ⟨_, editFollows_single (fun heq => absurd heq hanswer) fun _ more => ?_, ?_⟩
            · rw [editStatement_of_ne_enter hmade hanswer]
            · exact .inl ⟨_, List.mem_singleton_self _, rfl, rfl, rfl⟩

end Walks

/-! ### Modules -/

namespace Module

/-- **What an edit walk leaves of a module.** -/
structure Rewritten (m m' : Module) (rewritings : List Rewriting) : Prop where
  /-- Nothing changes outside of the body. -/
  outside : m'.span = m.span ∧ m'.interpreter = m.interpreter
  /-- The body keeps its length. -/
  length : m'.body.length = m.body.length
  /-- Declarations about modules stay as they are and where they are. -/
  declarations : ∀ (index : Nat) (n : Node), m.body[index]? = some n →
    n.isModuleDeclaration = true → m'.body[index]? = some n
  /-- Each statement of the body becomes what is left of it, and stays as it is if it is not
  visited. -/
  statements : ∀ (index : Nat) (n : Node), m.body[index]? = some n →
    n.isModuleDeclaration = false →
      ∃ n', m'.body[index]? = some n' ∧ Rewriting.Turns rewritings [⟨0, 0, index⟩] n n'
  /-- So does each statement that the visitor has put somewhere. -/
  consistent : ∀ r ∈ rewritings, r.Consistent rewritings
  /-- At each path at most one statement is visited. -/
  nodup : (rewritings.map Rewriting.path).Nodup

variable {σ : Type} (m : Module)

/-- An edit walk of a module goes by what its body holds. -/
theorem editHeld_held {visit : σ → Node → Place → σ × Node × Control}
    (hvisit : MakesStatements visit) (levels : Nat) (s : σ) :
    editHeld (editAt visit levels 0) m.held ⟨s, false⟩ =
      ((editBody visit levels m.body ⟨s, false⟩).1, (m.editWalk visit levels s).2.held) :=
  editHeld_bodyHeld (hvisit.keepsStatements levels 0) 0 m.body ⟨s, false⟩

/-- An edit walk of a module keeps the length of its body. -/
theorem length_body_editWalk (visit : σ → Node → Place → σ × Node × Control) (levels : Nat)
    (s : σ) : (m.editWalk visit levels s).2.body.length = m.body.length :=
  length_editEach _ 0 m.body ⟨s, false⟩

/-- An edit walk of a module leaves declarations about modules, and makes no new ones. -/
theorem getElem?_body_editWalk_iff {visit : σ → Node → Place → σ × Node × Control}
    (hvisit : MakesStatements visit) (levels : Nat) (s : σ) {index : Nat} {n : Node}
    (hn : n.isModuleDeclaration = true) :
    (m.editWalk visit levels s).2.body[index]? = some n ↔ m.body[index]? = some n :=
  getElem?_editItem_iff (hvisit.keepsStatements levels 0) hn ⟨s, false⟩

/-- What an edit walk leaves of a module is known by what its body holds. -/
theorem editWalk_snd_eq {visit : σ → Node → Place → σ × Node × Control}
    (hvisit : MakesStatements visit) {levels : Nat} {s : σ} {m' : Module}
    (houtside : m'.span = m.span ∧ m'.interpreter = m.interpreter)
    (hlength : m'.body.length = m.body.length)
    (hdeclarations : ∀ (index : Nat) (n : Node), n.isModuleDeclaration = true →
      m.body[index]? = some n → m'.body[index]? = some n)
    (hheld : m'.held = (m.editWalk visit levels s).2.held) :
    m' = (m.editWalk visit levels s).2 := by
  have hbody : m'.body = (m.editWalk visit levels s).2.body := by
    refine eq_of_bodyHeld ?_ (fun index n hn hdeclaration => ?_) hheld
    · rw [hlength, length_body_editWalk]
    · exact hdeclarations index n hdeclaration
        ((m.getElem?_body_editWalk_iff hvisit levels s hdeclaration).1 hn)
  obtain ⟨span, body, interpreter⟩ := m'
  obtain ⟨rfl, rfl⟩ := houtside
  exact congrArg (fun body => { m with body }) hbody

/-- **An edit walk that leaves statements alone only looks**, and leaves the module, if it may enter
as deep as the module is high. -/
theorem editWalk_leaving (visit : σ → Node → Place → σ × Control) {levels : Nat}
    (hlevels : m.height ≤ levels) (s : σ) :
    m.editWalk (leaving visit) levels s = (m.walk visit s, m) := by
  have hvisit := makesStatements_leaving visit
  have hheld := m.editHeld_held hvisit levels s
  rw [editHeld_of_unchanged (g := walkHeld visit 0) ?_, Prod.mk.injEq] at hheld
  · obtain ⟨hstate, hbody⟩ := hheld
    refine Prod.ext ?_ (m.editWalk_snd_eq hvisit ⟨rfl, rfl⟩ rfl (fun _ _ _ h => h) hbody).symm
    rw [walk, walkBody_eq_foldl, hstate]
    rfl
  · intro e he w
    obtain ⟨index, -, hn, -⟩ := mem_held_iff.1 he
    have hheight := Node.height_le_heightOfParts (List.mem_of_getElem? hn)
    exact editStatement_leaving visit (hheight.trans hlevels) ⟨0, e.1.index⟩ w

/-- **An edit walk of a module obeys its answers**, and leaves what its rewritings tell. -/
theorem exists_rewritings_editWalk {visit : σ → Node → Place → σ × Node × Control}
    (hvisit : MakesStatements visit) (levels : Nat) (s : σ) :
    ∃ rewritings : List Rewriting,
      m.editWalk (recordedEdit visit) levels (s, []) =
        (((m.editWalk visit levels s).1,
          rewritings.map (Rewriting.call fun r => Place.ofPath r.path)),
          (m.editWalk visit levels s).2) ∧
      m.Rewritten (m.editWalk visit levels s).2 rewritings ∧
      Obeys (m.editWalk visit levels s).2.Reaches (rewritings.map (Rewriting.visit (levels + 1))) ∧
      ((∀ r ∈ rewritings, r.answer = .enter → r.path.length ≤ levels) →
        ∀ more, m.editWalk visit (levels + more) s = m.editWalk visit levels s) := by
  obtain ⟨rewritings, hfollows, hturns⟩ := exists_rewritings_held visit (editObeys hvisit levels)
    m.pairwise_held 0 s []
  simp only [m.editHeld_held hvisit levels s] at hfollows hturns
  obtain ⟨heq, hobeys, -, hconsistent, hunbounded⟩ := hfollows
  have hreaches : ReachesIn (m.editWalk visit levels s).2.held =
      (m.editWalk visit levels s).2.Reaches := by
    funext path n
    exact propext reaches_iff.symm
  rw [hreaches] at hobeys
  refine ⟨rewritings, ?_, ⟨⟨rfl, rfl⟩, m.length_body_editWalk visit levels s, ?_, ?_, hconsistent,
    ?_⟩, hobeys, fun hlevels more => ?_⟩
  · have hpaths : ∀ r ∈ rewritings, r.path ≠ [] :=
      fun r hr => (hobeys.reached _ (List.mem_map_of_mem hr)).ne_nil
    rw [m.editHeld_held hvisit.recordedEdit, Rewriting.map_call_body hpaths, Prod.mk.injEq] at heq
    refine Prod.ext (congrArg Walking.state heq.1) ?_
    exact m.editWalk_snd_eq hvisit ⟨rfl, rfl⟩ (m.length_body_editWalk _ levels _)
      (fun _ _ h => (m.getElem?_body_editWalk_iff hvisit.recordedEdit levels _ h).2) heq.2
  · exact fun _ _ hn h => (m.getElem?_body_editWalk_iff hvisit levels s h).2 hn
  · intro index n hn hstatement
    obtain ⟨n', hn', hturn⟩ := hturns (⟨0, 0, index⟩, n)
      (mem_held_iff.2 ⟨index, rfl, hn, hstatement⟩)
    obtain ⟨_, heq, hindex, -⟩ := mem_held_iff.1 hn'
    cases heq
    exact ⟨n', hindex, hturn⟩
  · have hnodup := hobeys.nodup
    rw [List.map_map] at hnodup
    exact hnodup
  · have hlonger := hunbounded (fun r hr henter => Nat.lt_succ_of_le (hlevels r hr henter)) more
    rw [m.editHeld_held hvisit, Prod.mk.injEq] at hlonger
    refine Prod.ext (congrArg Walking.state hlonger.1) ?_
    exact m.editWalk_snd_eq hvisit ⟨rfl, rfl⟩ (m.length_body_editWalk _ _ s)
      (fun _ _ h => (m.getElem?_body_editWalk_iff hvisit _ s h).2) hlonger.2

/-- **The walk that edits refines the walk that looks.** For every module:

* With a visitor that leaves statements alone, whatever it answers from whatever state it keeps, the
  two walks make the same calls, with the same statements and places in the same order, and the
  module stays as it is.
* With a visitor that may make other statements of those that it is given, there are rewritings that
  it is called for, at the places of their paths and in this order. The body keeps its length and
  its declarations about modules. A statement that is not visited stays as it is, and one that is
  visited becomes what the visitor makes of it; if that is entered, then the same holds for the
  statements that were made, not for those that were there. And the rewritings obey their answers in
  the module that is left: a statement of it is visited if and only if all around it were entered
  and there was no exit before it.

A statement that is too deep for the number of levels counts as skipped. If there is none, then more
levels make no difference. -/
theorem editWalk_refines (σ : Type) :
    (∀ (visit : σ → Node → Place → σ × Control) (levels : Nat) (s : σ), m.height ≤ levels →
      m.editWalk (leaving (recorded visit)) levels (s, []) = (m.walk (recorded visit) (s, []), m)) ∧
    ∀ (visit : σ → Node → Place → σ × Node × Control), MakesStatements visit →
      ∀ (levels : Nat) (s : σ), ∃ (s' : σ) (m' : Module) (rewritings : List Rewriting),
        m.editWalk visit levels s = (s', m') ∧
        m.editWalk (recordedEdit visit) levels (s, []) =
          ((s', rewritings.map (Rewriting.call fun r => Place.ofPath r.path)), m') ∧
        m.Rewritten m' rewritings ∧
        Obeys m'.Reaches (rewritings.map (Rewriting.visit (levels + 1))) ∧
        ((∀ r ∈ rewritings, r.answer = .enter → r.path.length ≤ levels) →
          ∀ more, m.editWalk visit (levels + more) s = (s', m')) := by
  constructor
  · intro visit levels s hlevels
    exact m.editWalk_leaving (recorded visit) hlevels (s, [])
  · intro visit hvisit levels s
    obtain ⟨rewritings, hrecorded, hrewritten, hobeys, hlonger⟩ :=
      m.exists_rewritings_editWalk hvisit levels s
    exact ⟨_, _, rewritings, rfl, hrecorded, hrewritten, hobeys, hlonger⟩

/-- A module of a declaration about modules and a statement. -/
def exportsAndDebugs : Module :=
  ⟨Span.dummy, [.plain .exportAll .generated [], .plain .debugger .generated []], none⟩

/-- A visitor that counts, puts two copies of each statement of a body into a block, and ends the
walk at the first copy. -/
def doubling (count : Nat) (n : Node) (place : Place) : Nat × Node × Control :=
  if place.depth = 0 then (count + 1, .plain .block .generated [.list [n, n]], .enter)
  else (count + 1, n, .exit)

/-- Of this module the statement is visited, and then the first of its copies. -/
theorem editWalk_refines_doubling :
    let everything (count : Nat) (_ : Node) (_ : Place) := (count + 1, Control.enter)
    let doubled : Module := { exportsAndDebugs with
      body := [.plain .exportAll .generated [],
        .plain .block .generated
          [.list [.plain .debugger .generated [], .plain .debugger .generated []]]] }
    exportsAndDebugs.height ≤ 1 ∧
      exportsAndDebugs.editWalk (leaving (recorded everything)) 1 (0, []) =
        (exportsAndDebugs.walk (recorded everything) (0, []), exportsAndDebugs) ∧
      MakesStatements doubling ∧
      ∃ rewritings : List Rewriting,
        exportsAndDebugs.editWalk (recordedEdit doubling) 1 (0, []) =
          ((2, rewritings.map (Rewriting.call fun r => Place.ofPath r.path)), doubled) ∧
        exportsAndDebugs.Rewritten doubled rewritings ∧
        Obeys doubled.Reaches (rewritings.map (Rewriting.visit 2)) := by
  intro everything doubled
  have hheight : exportsAndDebugs.height ≤ 1 := by decide
  have hmakes : MakesStatements doubling := by
    refine ⟨fun s n place hn => ?_, fun s n place hn => ?_⟩ <;> rw [doubling] <;> split
    · rfl
    · exact hn
    · rfl
    · exact hn
  obtain ⟨hlooks, hrewrites⟩ := exportsAndDebugs.editWalk_refines Nat
  obtain ⟨s', m', rewritings, heq, hrecorded, hrewritten, hobeys, -⟩ :=
    hrewrites doubling hmakes 1 0
  have hdoubled : exportsAndDebugs.editWalk doubling 1 0 = (2, doubled) := rfl
  obtain ⟨rfl, rfl⟩ := Prod.mk.inj (heq.symm.trans hdoubled)
  exact ⟨hheight, hlooks everything 1 0 hheight, hmakes, rewritings, hrecorded, hrewritten, hobeys⟩

end Module

end HostProps
