import SignOut.Proofs.Parts
import SignOut.Proofs.Watching

/-!
# Normal forms of boolean combinations

A combination is in normal form if it complements single leaves only and no conjunction stands
directly in a conjunction, no disjunction directly in a disjunction.  Every combination has such a
form: complements are pushed to the leaves, where two of them cancel and a conjunction and a
disjunction change places, and nested combinations of one kind are merged.  Main statement: the
normal form asks the same leaves in the same order and in the same exchanges as the combination
does, and it gives the same answer or stops at the same fault, whatever the leaves do.
-/

namespace SignOut

namespace Formula

variable {α : Type}

/-! ## Normal forms -/

/-- Complements stand in front of leaves only, and combinations of one kind are merged. -/
inductive IsNormal : Formula α → Prop
  | atom (a : α) : IsNormal (.atom a)
  | complement (a : α) : IsNormal (.negation (.atom a))
  | all {parts : List (Formula α)} (hparts : ∀ part ∈ parts, IsNormal part)
      (hmerged : ∀ inner, .all inner ∉ parts) : IsNormal (.all parts)
  | any {parts : List (Formula α)} (hparts : ∀ part ∈ parts, IsNormal part)
      (hmerged : ∀ inner, .any inner ∉ parts) : IsNormal (.any parts)

/-- The conjunction or the disjunction of some parts. -/
def many (conjunctive : Bool) (parts : List (Formula α)) : Formula α :=
  if conjunctive then .all parts else .any parts

mutual

/-- A combination, or its complement, with all complements pushed to the leaves. -/
def pushed (positive : Bool) : Formula α → Formula α
  | .atom a => if positive then .atom a else .negation (.atom a)
  | .all parts => many positive (pushedOf positive parts)
  | .any parts => many (!positive) (pushedOf positive parts)
  | .negation part => pushed (!positive) part

/-- Several combinations, or the complements of all of them, with complements pushed to the
leaves. -/
def pushedOf (positive : Bool) : List (Formula α) → List (Formula α)
  | [] => []
  | part :: rest => pushed positive part :: pushedOf positive rest

end

/-- What a combination contributes to a surrounding one: its parts, if both are of one kind. -/
def contributed (conjunctive : Bool) : Formula α → List (Formula α)
  | .all parts => if conjunctive then parts else [.all parts]
  | .any parts => if conjunctive then [.any parts] else parts
  | part => [part]

mutual

/-- A combination in which nested ones of one kind are merged. -/
def merged : Formula α → Formula α
  | .atom a => .atom a
  | .all parts => .all (mergedOf true parts)
  | .any parts => .any (mergedOf false parts)
  | .negation part => .negation (merged part)

/-- What the parts of a combination contribute to it once they are merged themselves. -/
def mergedOf (conjunctive : Bool) : List (Formula α) → List (Formula α)
  | [] => []
  | part :: rest => contributed conjunctive (merged part) ++ mergedOf conjunctive rest

end

/-- The normal form of a combination. -/
def normalForm (f : Formula α) : Formula α :=
  merged (pushed true f)

theorem pushedOf_eq_map (positive : Bool) (parts : List (Formula α)) :
    pushedOf positive parts = parts.map (pushed positive) := by
  induction parts with
  | nil => rfl
  | cons part rest ih => rw [pushedOf, ih, List.map_cons]

theorem mergedOf_eq_flatMap (conjunctive : Bool) (parts : List (Formula α)) :
    mergedOf conjunctive parts =
      parts.flatMap fun part => contributed conjunctive (merged part) := by
  induction parts with
  | nil => rfl
  | cons part rest ih => rw [mergedOf, ih, List.flatMap_cons]

theorem merged_many (conjunctive : Bool) (parts : List (Formula α)) :
    merged (many conjunctive parts) = many conjunctive (mergedOf conjunctive parts) := by
  cases conjunctive with
  | true => rfl
  | false => rfl

theorem isNormal_many {conjunctive : Bool} {parts : List (Formula α)}
    (hparts : ∀ part ∈ parts, part.IsNormal) (hmerged : ∀ inner, many conjunctive inner ∉ parts) :
    (many conjunctive parts).IsNormal := by
  cases conjunctive with
  | true => exact .all hparts hmerged
  | false => exact .any hparts hmerged

/-- What a normal combination contributes to another is normal, and to be merged no further. -/
theorem IsNormal.contributed {conjunctive : Bool} {f part : Formula α} (h : f.IsNormal)
    (hpart : part ∈ f.contributed conjunctive) :
    part.IsNormal ∧ ∀ inner, part ≠ many conjunctive inner := by
  cases h with
  | atom a =>
      obtain rfl := List.mem_singleton.mp hpart
      exact ⟨.atom a, fun inner => by cases conjunctive <;> nofun⟩
  | complement a =>
      obtain rfl := List.mem_singleton.mp hpart
      exact ⟨.complement a, fun inner => by cases conjunctive <;> nofun⟩
  | all hparts hmerged =>
      cases conjunctive with
      | true =>
          refine ⟨hparts part hpart, ?_⟩
          rintro inner rfl
          exact hmerged inner hpart
      | false =>
          obtain rfl := List.mem_singleton.mp hpart
          exact ⟨.all hparts hmerged, nofun⟩
  | any hparts hmerged =>
      cases conjunctive with
      | true =>
          obtain rfl := List.mem_singleton.mp hpart
          exact ⟨.any hparts hmerged, nofun⟩
      | false =>
          refine ⟨hparts part hpart, ?_⟩
          rintro inner rfl
          exact hmerged inner hpart

/-- Merging the parts of a combination makes it normal, if each of them is made normal so. -/
theorem isNormal_merged_many {conjunctive : Bool} {parts : List (Formula α)}
    (hparts : ∀ part ∈ parts, part.merged.IsNormal) :
    (many conjunctive parts).merged.IsNormal := by
  -- a combination of the same kind is taken apart where it is contributed, so none is left
  have hcontributed : ∀ part ∈ mergedOf conjunctive parts,
      part.IsNormal ∧ ∀ inner, part ≠ many conjunctive inner := by
    intro part hpart
    rw [mergedOf_eq_flatMap] at hpart
    obtain ⟨whole, hwhole, hpart⟩ := List.mem_flatMap.mp hpart
    exact (hparts whole hwhole).contributed hpart
  rw [merged_many]
  exact isNormal_many (fun part hpart => (hcontributed part hpart).1)
    fun inner hinner => (hcontributed _ hinner).2 inner rfl

theorem isNormal_merged_pushed (f : Formula α) (positive : Bool) :
    (f.pushed positive).merged.IsNormal := by
  induction f using Formula.induction generalizing positive with
  | atom a =>
      cases positive with
      | true => exact .atom a
      | false => exact .complement a
  | all parts ih =>
      refine isNormal_merged_many fun part hpart => ?_
      rw [pushedOf_eq_map] at hpart
      obtain ⟨original, horiginal, rfl⟩ := List.mem_map.mp hpart
      exact ih original horiginal positive
  | any parts ih =>
      refine isNormal_merged_many fun part hpart => ?_
      rw [pushedOf_eq_map] at hpart
      obtain ⟨original, horiginal, rfl⟩ := List.mem_map.mp hpart
      exact ih original horiginal positive
  | negation part ih => exact ih (!positive)

theorem isNormal_normalForm (f : Formula α) : f.normalForm.IsNormal :=
  isNormal_merged_pushed f true

/-! ## Evaluation of normal forms -/

section Evaluation

variable {m : Type → Type} [Monad m]

/-- A conjunction goes on as long as its parts agree, a disjunction as long as they decline. -/
theorem eval_many (leaf : α → m Bool) (conjunctive : Bool) (parts : List (Formula α)) :
    (many conjunctive parts).eval leaf = askWhile conjunctive (eval leaf) parts := by
  cases conjunctive with
  | true => exact evalAll_eq_askWhile leaf parts
  | false => exact evalAny_eq_askWhile leaf parts

variable [LawfulMonad m]

theorem eval_negation (leaf : α → m Bool) (part : Formula α) :
    (Formula.negation part).eval leaf = (fun given => !given) <$> part.eval leaf :=
  (map_eq_pure_bind _ _).symm

mutual

/-- Pushing complements to the leaves changes nothing but the answer that is complemented. -/
theorem eval_pushed (leaf : α → m Bool) (positive : Bool) : (f : Formula α) →
    (f.pushed positive).eval leaf = (· == positive) <$> f.eval leaf
  | .atom a => by
      cases positive with
      | true => simp [pushed]
      | false => simp [pushed, eval_negation]
  | .all parts => by
      have hparts := askWhile_pushedOf leaf positive true parts
      rw [Bool.true_beq] at hparts
      rw [pushed, eval_many, hparts, ← evalAll_eq_askWhile]
      rfl
  | .any parts => by
      have hparts := askWhile_pushedOf leaf positive false parts
      rw [Bool.false_beq] at hparts
      rw [pushed, eval_many, hparts, ← evalAny_eq_askWhile]
      rfl
  | .negation part => by
      have hcomplement : ∀ given : Bool, (given == !positive) = ((!given) == positive) := by
        decide +revert
      rw [pushed, eval_pushed, eval_negation, Functor.map_map]
      exact congrArg (· <$> part.eval leaf) (funext hcomplement)

theorem askWhile_pushedOf (leaf : α → m Bool) (positive answer : Bool) :
    (parts : List (Formula α)) →
      askWhile (answer == positive) (eval leaf) (pushedOf positive parts) =
        (· == positive) <$> askWhile answer (eval leaf) parts
  | [] => by
      rw [pushedOf, askWhile, askWhile, map_pure]
  | part :: rest => by
      -- complementing both sides of the test, the evaluation goes on behind the same parts
      have hgoes : ∀ given : Bool,
          ((given == positive) = (answer == positive)) = (given = answer) := by
        decide +revert
      rw [pushedOf, askWhile, askWhile, eval_pushed, askWhile_pushedOf, map_bind, bind_map_left]
      refine congrArg (part.eval leaf >>= ·) (funext fun given => ?_)
      simp only [hgoes]
      split
      · rfl
      · rw [map_pure]

end

theorem askWhile_append {ι : Type} (act : ι → m Bool) (answer : Bool) (before after : List ι) :
    askWhile answer act (before ++ after) = (do
      let given ← askWhile answer act before
      if given = answer then askWhile answer act after else pure given) := by
  induction before with
  | nil => simp [askWhile]
  | cons part rest ih =>
      rw [List.cons_append, askWhile, askWhile, bind_assoc]
      refine congrArg (act part >>= ·) (funext fun given => ?_)
      split
      · exact ih
      · rw [pure_bind, if_neg ‹_›]

theorem askWhile_singleton {ι : Type} (act : ι → m Bool) (answer : Bool) (part : ι) :
    askWhile answer act [part] = act part := by
  have hgiven : ∀ given : Bool,
      (if given = answer then askWhile answer act [] else pure given) =
        (pure given : m Bool) := by
    intro given
    split
    · rename_i heq
      rw [askWhile, heq]
    · rfl
  rw [askWhile]
  simp only [hgiven, bind_pure]

/-- What a combination contributes to another answers as the combination does. -/
theorem askWhile_contributed (leaf : α → m Bool) (answer : Bool) (f : Formula α) :
    askWhile answer (eval leaf) (f.contributed answer) = f.eval leaf := by
  cases f with
  | atom a => exact askWhile_singleton (eval leaf) answer _
  | negation part => exact askWhile_singleton (eval leaf) answer _
  | all parts =>
      cases answer with
      | true => exact (evalAll_eq_askWhile leaf parts).symm
      | false => exact askWhile_singleton (eval leaf) false _
  | any parts =>
      cases answer with
      | true => exact askWhile_singleton (eval leaf) true _
      | false => exact (evalAny_eq_askWhile leaf parts).symm

mutual

/-- Merging nested combinations changes nothing. -/
theorem eval_merged (leaf : α → m Bool) : (f : Formula α) → f.merged.eval leaf = f.eval leaf
  | .atom a => rfl
  | .all parts => by
      show evalAll leaf (mergedOf true parts) = evalAll leaf parts
      rw [evalAll_eq_askWhile, evalAll_eq_askWhile, askWhile_mergedOf]
  | .any parts => by
      show evalAny leaf (mergedOf false parts) = evalAny leaf parts
      rw [evalAny_eq_askWhile, evalAny_eq_askWhile, askWhile_mergedOf]
  | .negation part => by
      rw [merged, eval_negation, eval_negation, eval_merged]

theorem askWhile_mergedOf (leaf : α → m Bool) (answer : Bool) : (parts : List (Formula α)) →
    askWhile answer (eval leaf) (mergedOf answer parts) = askWhile answer (eval leaf) parts
  | [] => rfl
  | part :: rest => by
      rw [mergedOf, askWhile_append, askWhile_contributed, eval_merged, askWhile_mergedOf,
        askWhile]

end

/-- The normal form does what the combination does, whatever the leaves do. -/
theorem eval_normalForm (leaf : α → m Bool) (f : Formula α) :
    f.normalForm.eval leaf = f.eval leaf := by
  have hsame : ((· == true) : Bool → Bool) = id := by
    funext given
    exact beq_true given
  rw [normalForm, eval_merged, eval_pushed, hsame, id_map]

end Evaluation

/-! ## The leaves that are asked -/

/-- The leaves that an evaluation asks, in their order, each with the exchange in which it is
asked. -/
def asked (leaf : α → Run Bool) (f : Formula α) (e : Exchange) : List (Station α) :=
  Watched.visits (f.eval (Watched.noting leaf)) e

mutual

/-- Watching the leaves changes nothing about an evaluation. -/
theorem follows_eval (leaf : α → Run Bool) : (f : Formula α) →
    Watched.Follows (f.eval (Watched.noting leaf)) (f.eval leaf)
  | .atom a => Watched.follows_note a (leaf a)
  | .all parts => follows_evalAll leaf parts
  | .any parts => follows_evalAny leaf parts
  | .negation part => (follows_eval leaf part).bind fun given => Watched.follows_pure (!given)

theorem follows_evalAll (leaf : α → Run Bool) : (parts : List (Formula α)) →
    Watched.Follows (evalAll (Watched.noting leaf) parts) (evalAll leaf parts)
  | [] => Watched.follows_pure true
  | part :: rest => by
      refine (follows_eval leaf part).bind fun given => ?_
      cases given with
      | true => exact follows_evalAll leaf rest
      | false => exact Watched.follows_pure false

theorem follows_evalAny (leaf : α → Run Bool) : (parts : List (Formula α)) →
    Watched.Follows (evalAny (Watched.noting leaf) parts) (evalAny leaf parts)
  | [] => Watched.follows_pure false
  | part :: rest => by
      refine (follows_eval leaf part).bind fun given => ?_
      cases given with
      | true => exact Watched.follows_pure true
      | false => exact follows_evalAny leaf rest

end

end Formula

/-! ## Matchers -/

namespace Matcher

/-- A matcher that the combinations accept can be made of matchers that are there. -/
inductive Made : Matcher → Prop
  | atom {a : Atom} (hgiven : Matcher.isNothing (.atom a) = false) : Made (.atom a)
  | conjunction {parts : List Matcher} {made : Matcher} (hparts : ∀ part ∈ parts, Made part)
      (hmade : Matcher.conjunction parts = .ok made) : Made made
  | disjunction {parts : List Matcher} {made : Matcher} (hparts : ∀ part ∈ parts, Made part)
      (hmade : Matcher.disjunction parts = .ok made) : Made made
  | complement {part made : Matcher} (hpart : Made part)
      (hmade : Matcher.complement part = .ok made) : Made made

variable {parts : List Matcher} {part made : Matcher}

/-- Parts are accepted exactly if there are some and none of them is nothing. -/
theorem parts_eq_ok_iff {accepted : List Matcher} :
    Matcher.parts parts = .ok accepted ↔
      parts ≠ [] ∧ (∀ part ∈ parts, part.isNothing = false) ∧ accepted = parts := by
  unfold Matcher.parts
  cases parts with
  | nil => exact ⟨nofun, fun h => absurd rfl h.1⟩
  | cons first rest =>
      rw [List.isEmpty_cons, if_neg Bool.false_ne_true,
        Checks.mapM_given_eq_ok_iff fun _ _ => require_eq_ok_iff]
      exact ⟨fun h => ⟨List.cons_ne_nil _ _, h⟩, fun h => h.2⟩

/-- A combination is accepted exactly if its parts are. -/
theorem combination_eq_ok_iff {combine : List Matcher → Matcher} :
    (do return combine (← Matcher.parts parts) : Except InvalidArgument Matcher) = .ok made ↔
      parts ≠ [] ∧ (∀ part ∈ parts, part.isNothing = false) ∧ made = combine parts := by
  refine Checks.bind_eq_ok_iff.trans ⟨?_, ?_⟩
  · rintro ⟨accepted, hparts, hmade⟩
    obtain ⟨hne, hgiven, rfl⟩ := parts_eq_ok_iff.mp hparts
    exact ⟨hne, hgiven, (Except.ok.inj hmade).symm⟩
  · rintro ⟨hne, hgiven, rfl⟩
    exact ⟨parts, parts_eq_ok_iff.mpr ⟨hne, hgiven, rfl⟩, rfl⟩

theorem conjunction_eq_ok_iff :
    Matcher.conjunction parts = .ok made ↔
      parts ≠ [] ∧ (∀ part ∈ parts, part.isNothing = false) ∧ made = .all parts :=
  combination_eq_ok_iff

theorem disjunction_eq_ok_iff :
    Matcher.disjunction parts = .ok made ↔
      parts ≠ [] ∧ (∀ part ∈ parts, part.isNothing = false) ∧ made = .any parts :=
  combination_eq_ok_iff

theorem complement_eq_ok_iff :
    Matcher.complement part = .ok made ↔ part.isNothing = false ∧ made = .negation part := by
  unfold complement
  refine Checks.bind_eq_ok_iff.trans ⟨?_, ?_⟩
  · rintro ⟨accepted, hpart, hmade⟩
    obtain ⟨hgiven, rfl⟩ := require_eq_ok_iff.mp hpart
    exact ⟨hgiven, (Except.ok.inj hmade).symm⟩
  · rintro ⟨hgiven, rfl⟩
    exact ⟨part, require_eq_ok_iff.mpr ⟨hgiven, rfl⟩, rfl⟩

theorem Made.isNothing_eq_false (h : Made made) : made.isNothing = false := by
  cases h with
  | atom hgiven => exact hgiven
  | conjunction hparts hmade =>
      obtain ⟨-, -, rfl⟩ := conjunction_eq_ok_iff.mp hmade
      rfl
  | disjunction hparts hmade =>
      obtain ⟨-, -, rfl⟩ := disjunction_eq_ok_iff.mp hmade
      rfl
  | complement hpart hmade =>
      obtain ⟨-, rfl⟩ := complement_eq_ok_iff.mp hmade
      rfl

/-- Made matchers can be combined, if there are some. -/
theorem made_many (conjunctive : Bool) (hne : parts ≠ []) (hparts : ∀ part ∈ parts, Made part) :
    Made (Formula.many conjunctive parts) := by
  have hgiven : ∀ part ∈ parts, part.isNothing = false :=
    fun part hmem => (hparts part hmem).isNothing_eq_false
  cases conjunctive with
  | true => exact .conjunction hparts (conjunction_eq_ok_iff.mpr ⟨hne, hgiven, rfl⟩)
  | false => exact .disjunction hparts (disjunction_eq_ok_iff.mpr ⟨hne, hgiven, rfl⟩)

/-- What a made matcher contributes to a combination is something, and made. -/
theorem Made.contributed (h : Made made) (conjunctive : Bool) :
    made.contributed conjunctive ≠ [] ∧ ∀ part ∈ made.contributed conjunctive, Made part := by
  have hwhole : [made] ≠ [] ∧ ∀ part ∈ [made], Made part :=
    ⟨List.cons_ne_nil _ _, fun part hmem => List.mem_singleton.mp hmem ▸ h⟩
  cases h with
  | atom hgiven => exact hwhole
  | conjunction hparts hmade =>
      obtain ⟨hne, -, rfl⟩ := conjunction_eq_ok_iff.mp hmade
      cases conjunctive with
      | true => exact ⟨hne, hparts⟩
      | false => exact hwhole
  | disjunction hparts hmade =>
      obtain ⟨hne, -, rfl⟩ := disjunction_eq_ok_iff.mp hmade
      cases conjunctive with
      | true => exact hwhole
      | false => exact ⟨hne, hparts⟩
  | complement hpart hmade =>
      obtain ⟨-, rfl⟩ := complement_eq_ok_iff.mp hmade
      exact hwhole

/-- Parts that become made when they are pushed and merged make a made combination. -/
theorem made_merged_many {positive conjunctive : Bool} (hne : parts ≠ [])
    (hparts : ∀ part ∈ parts, Made (part.pushed positive).merged) :
    Made (Formula.many conjunctive (Formula.pushedOf positive parts)).merged := by
  rw [Formula.merged_many, Formula.mergedOf_eq_flatMap, Formula.pushedOf_eq_map, List.flatMap_map]
  refine made_many conjunctive ?_ ?_
  · -- an empty combination would be refused, but every part contributes something
    obtain ⟨first, hfirst⟩ := List.exists_mem_of_ne_nil parts hne
    intro hnil
    have hempty := List.flatMap_eq_nil_iff.mp hnil first hfirst
    exact ((hparts first hfirst).contributed conjunctive).1 hempty
  · intro part hpart
    obtain ⟨original, horiginal, hpart⟩ := List.mem_flatMap.mp hpart
    exact ((hparts original horiginal).contributed conjunctive).2 part hpart

/-- The normal form of a made matcher can be made as well. -/
theorem Made.merged_pushed (h : Made made) (positive : Bool) :
    Made (made.pushed positive).merged := by
  induction h generalizing positive with
  | @atom a hgiven =>
      have hatom : Made (.atom a) := .atom hgiven
      cases positive with
      | true => exact hatom
      | false => exact .complement hatom (complement_eq_ok_iff.mpr ⟨hgiven, rfl⟩)
  | conjunction hparts hmade ih =>
      obtain ⟨hne, -, rfl⟩ := conjunction_eq_ok_iff.mp hmade
      exact made_merged_many hne fun part hmem => ih part hmem positive
  | disjunction hparts hmade ih =>
      obtain ⟨hne, -, rfl⟩ := disjunction_eq_ok_iff.mp hmade
      exact made_merged_many hne fun part hmem => ih part hmem positive
  | complement hpart hmade ih =>
      obtain ⟨-, rfl⟩ := complement_eq_ok_iff.mp hmade
      exact ih (!positive)

/-- Every combination has a normal form, which asks the same leaves in the same order and in the
same exchanges, and gives the same answer or stops at the same fault in the same exchange.  The
normal form of a matcher can be made wherever the matcher can. -/
theorem ask_normalForm :
    (∀ {α : Type} (f : Formula α), f.normalForm.IsNormal ∧
      ∀ (leaf : α → Run Bool) (e : Exchange),
        Run.exec (f.normalForm.eval leaf) e = Run.exec (f.eval leaf) e ∧
        f.normalForm.asked leaf e = f.asked leaf e ∧
        Watched.Follows (f.eval (Watched.noting leaf)) (f.eval leaf)) ∧
    ∀ matcher : Matcher, (matcher.Made → Made matcher.normalForm) ∧
      ∀ e : Exchange, Run.exec (ask matcher.normalForm) e = Run.exec matcher.ask e := by
  refine ⟨fun f => ⟨f.isNormal_normalForm, fun leaf e => ⟨?_, ?_, f.follows_eval leaf⟩⟩,
    fun matcher => ⟨fun h => h.merged_pushed true, fun e => ?_⟩⟩
  · rw [Formula.eval_normalForm]
  · rw [Formula.asked, Formula.eval_normalForm, Formula.asked]
  · rw [ask, Formula.eval_normalForm, ask]

/-- A matcher that always gives the same answer, and records that it was asked. -/
def sampleProbe (name : String) (answer : Bool) : Matcher :=
  .atom (.probe name (.ok answer))

/-- A complement of nested combinations of both kinds. -/
def sampleNested : Matcher :=
  .negation (.all [sampleProbe "first" true,
    .negation (.any [sampleProbe "second" false, sampleProbe "third" true]),
    .negation (.negation (.all [sampleProbe "fourth" true]))])

theorem made_sampleNested : sampleNested.Made := by
  have hprobe : ∀ name answer, Made (sampleProbe name answer) := fun _ _ => .atom rfl
  have hinner : Made (.any [sampleProbe "second" false, sampleProbe "third" true]) :=
    made_many false (by simp) (by simp [hprobe])
  have hlast : Made (.all [sampleProbe "fourth" true]) :=
    made_many true (by simp) (by simp [hprobe])
  have hcomplement : ∀ {part : Matcher}, Made part → Made (.negation part) := fun hpart =>
    .complement hpart (complement_eq_ok_iff.mpr ⟨hpart.isNothing_eq_false, rfl⟩)
  refine hcomplement (made_many true (by simp) ?_)
  simp [hprobe, hcomplement hinner, hcomplement (hcomplement hlast)]

theorem ask_normalForm_sample :
    sampleNested.Made ∧ Made sampleNested.normalForm ∧ sampleNested.normalForm.IsNormal ∧
      sampleNested.normalForm =
        .any [.negation (sampleProbe "first" true), sampleProbe "second" false,
          sampleProbe "third" true, .negation (sampleProbe "fourth" true)] ∧
      Run.exec (ask sampleNested.normalForm) Stage.sampleExchange =
        Run.exec sampleNested.ask Stage.sampleExchange :=
  ⟨made_sampleNested, (ask_normalForm.2 sampleNested).1 made_sampleNested,
    (ask_normalForm.1 sampleNested).1, by rfl, (ask_normalForm.2 sampleNested).2 _⟩

end Matcher

end SignOut
