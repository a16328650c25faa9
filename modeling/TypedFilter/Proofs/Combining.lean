import TypedFilter.Proofs.Flattening
import TypedFilter.Proofs.Placeholders
import TypedFilter.Query.Basic

/-!
Conditions that are joined one after the other. Main statement: a query to which conditions are
added is true of the records that their truth values say when they are combined from the left, with
those that say nothing left out.
-/

namespace TypedFilter

namespace Connective

/-- The connective on two conditions. -/
def join : Connective → Expr → Expr → Expr
  | .and, l, e => l.andAlso e
  | .or, l, e => l.orElse e

/-- Truth values combined from the left. The first one stands alone, and none at all is true. -/
def combine : List (Connective × Bool) → Bool
  | [] => true
  | (_, b) :: rest => rest.foldl (fun a next => next.1.apply a next.2) b

end Connective

namespace Expr

variable {r : Record} {l e : Expr}

/-! ### Truth of joined conditions -/

theorem test_and (es : List Expr) : (and es).test r = es.all (·.test r) := by
  have h := test_node .and r es
  rwa [Connective.holds, List.all_map] at h

theorem test_or (es : List Expr) : (or es).test r = (es.isEmpty || es.any (·.test r)) := by
  have h := test_node .or r es
  rwa [Connective.holds, List.any_map, List.isEmpty_map] at h

theorem test_of_isEmptyCondition (h : e.isEmptyCondition = true) : e.test r = true := by
  cases e with
  | all => rfl
  | and es => rw [test_and, List.isEmpty_iff.1 h, List.all_nil]
  | or es => rw [test_or, List.isEmpty_iff.1 h, List.isEmpty_nil, Bool.true_or]
  | _ => cases h

theorem isEmptyCondition_node (c : Connective) (es : List Expr) :
    (c.node es).isEmptyCondition = es.isEmpty := by
  cases c <;> rfl

/-! ### Joining two conditions -/

theorem join_of_isEmptyCondition_left (c : Connective) (hl : l.isEmptyCondition = true) :
    c.join l e = e := by
  cases c with
  | and =>
    rw [Connective.join]
    unfold andAlso
    rw [if_pos hl]
  | or =>
    rw [Connective.join]
    unfold orElse
    rw [if_pos hl]

theorem join_of_isEmptyCondition_right (c : Connective) (hl : l.isEmptyCondition = false)
    (he : e.isEmptyCondition = true) : c.join l e = l := by
  cases c with
  | and =>
    rw [Connective.join]
    unfold andAlso
    rw [hl, if_neg Bool.false_ne_true, if_pos he]
  | or =>
    rw [Connective.join]
    unfold orElse
    rw [hl, if_neg Bool.false_ne_true, if_pos he]

/-- Two conditions that say something are joined, behind those that the first one joins. -/
theorem join_eq (c : Connective) (hl : l.isEmptyCondition = false)
    (he : e.isEmptyCondition = false) :
    (∃ es, l = c.node es ∧ c.join l e = c.node (es ++ [e])) ∨ c.join l e = c.node [l, e] := by
  cases c with
  | and =>
    rw [Connective.join]
    unfold andAlso
    rw [hl, he, if_neg Bool.false_ne_true, if_neg Bool.false_ne_true]
    cases l with
    | and es => exact .inl ⟨es, rfl, rfl⟩
    | _ => exact .inr rfl
  | or =>
    rw [Connective.join]
    unfold orElse
    rw [hl, he, if_neg Bool.false_ne_true, if_neg Bool.false_ne_true]
    cases l with
    | or es => exact .inl ⟨es, rfl, rfl⟩
    | _ => exact .inr rfl

theorem test_join (c : Connective) (hl : l.isEmptyCondition = false)
    (he : e.isEmptyCondition = false) :
    (c.join l e).test r = c.apply (l.test r) (e.test r) := by
  rcases join_eq c hl he with ⟨es, rfl, hjoin⟩ | hjoin
  · have hne : es.map (·.test r) ≠ [] := by simpa [isEmptyCondition_node] using hl
    rw [hjoin, test_node, test_node, List.map_append, List.map_singleton, c.holds_concat hne]
  · rw [hjoin, test_node, List.map_cons, List.map_singleton, c.holds_cons_cons, c.holds_singleton]

theorem isEmptyCondition_join (c : Connective) (hl : l.isEmptyCondition = false)
    (he : e.isEmptyCondition = false) : (c.join l e).isEmptyCondition = false := by
  rcases join_eq c hl he with ⟨es, rfl, hjoin⟩ | hjoin
  · simp [hjoin, isEmptyCondition_node]
  · rw [hjoin, isEmptyCondition_node, List.isEmpty_cons]

/-- Joining keeps the literals in order, whatever is left out. -/
theorem literals_join (c : Connective) (l e : Expr) :
    (c.join l e).literals = l.literals ++ e.literals := by
  cases hl : l.isEmptyCondition with
  | true =>
    rw [join_of_isEmptyCondition_left c hl, literals_of_isEmptyCondition hl, List.nil_append]
  | false =>
    cases he : e.isEmptyCondition with
    | true =>
      rw [join_of_isEmptyCondition_right c hl he, literals_of_isEmptyCondition he, List.append_nil]
    | false =>
      rcases join_eq c hl he with ⟨es, rfl, hjoin⟩ | hjoin
      · simp [hjoin, literals_node]
      · simp [hjoin, literals_node]

end Expr

/-! ### Conditions in a row -/

namespace Connective

variable {r : Record}

/-- Conditions joined from the left to one that is there before. -/
def joinAll (l : Expr) (conditions : List (Connective × Expr)) : Expr :=
  conditions.foldl (fun l next => next.1.join l next.2) l

/-- The truth values of those conditions that say something. -/
def truths (r : Record) (conditions : List (Connective × Expr)) : List (Connective × Bool) :=
  (conditions.filter fun c => !c.2.isEmptyCondition).map fun c => (c.1, c.2.test r)

theorem truths_cons_of_empty {c : Connective × Expr} (rest : List (Connective × Expr))
    (h : c.2.isEmptyCondition = true) : truths r (c :: rest) = truths r rest := by
  rw [truths, List.filter_cons_of_neg (by simp [h]), truths]

theorem truths_cons_of_nonempty {c : Connective × Expr} (rest : List (Connective × Expr))
    (h : c.2.isEmptyCondition = false) :
    truths r (c :: rest) = (c.1, c.2.test r) :: truths r rest := by
  rw [truths, List.filter_cons_of_pos (by simp [h]), truths, List.map_cons]

/-- Behind a condition that says something, each one is combined with what there is. -/
theorem test_joinAll_of_nonempty {l : Expr} (hl : l.isEmptyCondition = false)
    (conditions : List (Connective × Expr)) :
    (joinAll l conditions).test r =
      (truths r conditions).foldl (fun a next => next.1.apply a next.2) (l.test r) := by
  induction conditions generalizing l with
  | nil => rfl
  | cons c rest ih =>
    rw [joinAll, List.foldl_cons, ← joinAll]
    cases hc : c.2.isEmptyCondition with
    | true => rw [Expr.join_of_isEmptyCondition_right c.1 hl hc, ih hl, truths_cons_of_empty rest hc]
    | false =>
      rw [ih (Expr.isEmptyCondition_join c.1 hl hc), Expr.test_join c.1 hl hc,
        truths_cons_of_nonempty rest hc, List.foldl_cons]

/-- Behind one that says nothing, the first condition that says something takes its place. -/
theorem test_joinAll_of_empty {l : Expr} (hl : l.isEmptyCondition = true)
    (conditions : List (Connective × Expr)) :
    (joinAll l conditions).test r = combine (truths r conditions) := by
  induction conditions generalizing l with
  | nil => exact Expr.test_of_isEmptyCondition hl
  | cons c rest ih =>
    rw [joinAll, List.foldl_cons, ← joinAll, Expr.join_of_isEmptyCondition_left c.1 hl]
    cases hc : c.2.isEmptyCondition with
    | true => rw [ih hc, truths_cons_of_empty rest hc]
    | false => rw [test_joinAll_of_nonempty hc, truths_cons_of_nonempty rest hc, combine]

theorem literals_joinAll (l : Expr) (conditions : List (Connective × Expr)) :
    (joinAll l conditions).literals = l.literals ++ conditions.flatMap (·.2.literals) := by
  induction conditions generalizing l with
  | nil => exact (List.append_nil _).symm
  | cons c rest ih =>
    rw [joinAll, List.foldl_cons, ← joinAll, ih, Expr.literals_join, List.flatMap_cons,
      List.append_assoc]

theorem parameters_joinAll (l : Expr) (conditions : List (Connective × Expr)) :
    (joinAll l conditions).parameters = l.parameters ++ conditions.flatMap (·.2.parameters) := by
  simp only [Expr.parameters_eq, literals_joinAll, List.map_append, List.map_flatMap]

end Connective

/-! ### Lists of conditions -/

namespace Expr

theorem test_allOf (es : List Expr) (r : Record) : (allOf es).test r = es.all (·.test r) := by
  rw [allOf, test_and, List.all_filter]
  refine List.all_congr rfl fun e => ?_
  cases he : e.isEmptyCondition with
  | true => rw [test_of_isEmptyCondition he, Bool.or_true]
  | false => rfl

theorem test_anyOf (es : List Expr) (r : Record) :
    (anyOf es).test r =
      (es.all isEmptyCondition || es.any fun e => !e.isEmptyCondition && e.test r) := by
  have hempty : (es.filter fun e => !e.isEmptyCondition).isEmpty = es.all isEmptyCondition := by
    rw [Bool.eq_iff_iff, List.isEmpty_iff, List.filter_eq_nil_iff, List.all_eq_true]
    simp
  rw [anyOf, test_or, List.any_filter, hempty]

end Expr

/-! ### Queries -/

namespace Query

/-- The query with one condition more. -/
def join (q : Query) : Connective × Expr → Query
  | (.and, e) => q.andAlso e
  | (.or, e) => q.orElse e

/-- Without a definition, conditions are joined as they are. -/
theorem condition_foldl_join {q : Query} (hq : q.definition = none)
    (conditions : List (Connective × Expr)) :
    (conditions.foldl join q).condition = Connective.joinAll q.condition conditions := by
  induction conditions generalizing q with
  | nil => rfl
  | cons c rest ih =>
    obtain ⟨connective, e⟩ := c
    have hbind : q.bindCondition e = e := by rw [bindCondition, hq]
    rw [List.foldl_cons]
    cases connective with
    | and =>
      have hq' : (q.andAlso e).definition = none := hq
      rw [join, ih hq', andAlso, hbind]
      rfl
    | or =>
      have hq' : (q.orElse e).definition = none := hq
      rw [join, ih hq', orElse, hbind]
      rfl

/-- A query that conditions are added to one after the other is true of the records that they say
from the left, and takes their parameters in order; so do lists of conditions that are joined at
once. -/
theorem joined_conditions {q : Query} (hq : q.definition = none) (hall : q.condition = .all)
    (conditions : List (Connective × Expr)) :
    (∀ r, (conditions.foldl join q).condition.test r =
        Connective.combine (Connective.truths r conditions)) ∧
      (conditions.foldl join q).condition.parameters = conditions.flatMap (·.2.parameters) ∧
      ∀ (es : List Expr) (r : Record), (Expr.allOf es).test r = es.all (·.test r) ∧
        (Expr.anyOf es).test r =
          (es.all Expr.isEmptyCondition || es.any fun e => !e.isEmptyCondition && e.test r) := by
  rw [condition_foldl_join hq, hall]
  refine ⟨fun r => Connective.test_joinAll_of_empty rfl conditions, ?_, fun es r => ?_⟩
  · rw [Connective.parameters_joinAll]
    rfl
  · exact ⟨Expr.test_allOf es r, Expr.test_anyOf es r⟩

/-- A conjunction that is handed over as a whole, an OR of one condition, and two conditions that
say nothing. The last condition rules out what the first one lets in. -/
theorem joined_conditions_mixed :
    let age : Expr := .ofName "age"
    let number (n : Int) (h : IntWidth.int.Holds n) : Expr := .ofValue (.integer .int ⟨n, h⟩)
    let grown : Expr := .and [.compare .greater age (number 18 (by decide)), .isNotNull age]
    let old : Expr := .or [.compare .greater age (number 90 (by decide))]
    let young : Expr := .compare .less age (number 20 (by decide))
    let conditions : List (Connective × Expr) :=
      [(.and, .or []), (.or, grown), (.or, .all), (.or, old), (.and, young)]
    let q := ofPath "/people"
    let d : Definition := { path := "/people", fields := [.ofType "age" (.integer .int)] }
    let r : Record := .ofValues d [.integer .int ⟨30, by decide⟩]
    q.definition = none ∧ q.condition = .all ∧
      (conditions.foldl join q).condition = .and [.or [grown, old], young] ∧
      (conditions.foldl join q).condition.test r = false ∧
      (conditions.foldl join q).condition.parameters =
        [.integer .int ⟨18, by decide⟩, .integer .int ⟨90, by decide⟩,
          .integer .int ⟨20, by decide⟩] := by
  intro age number grown old young conditions q d r
  obtain ⟨htest, hparameters, -⟩ := joined_conditions (q := q) rfl rfl conditions
  exact ⟨rfl, rfl, by decide +kernel, (htest r).trans (by decide +kernel),
    hparameters.trans (by decide +kernel)⟩

end Query

end TypedFilter
