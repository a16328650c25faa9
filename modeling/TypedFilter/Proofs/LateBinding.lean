import TypedFilter.Proofs.LateTrees
import TypedFilter.Proofs.Statements
import TypedFilter.Store

/-!
Clauses that are bound late. Main statement: a clause that is accepted under a definition is accepted
without one too, and what it means then is, bound to the definition, what it means under it. Two
things have to be left out: names with double quotes of their own, and colons in texts that are
looked up in code tables.
-/

namespace TypedFilter

/-! ### Results -/

/-- Whether the first result is there whenever the second one is, and related to it. -/
def Follows {α β : Type} (R : α → β → Prop) (x : Result α) (y : Result β) : Prop :=
  ∀ b, y = .ok b → ∃ a, x = .ok a ∧ R a b

namespace Follows

variable {α β γ δ : Type} {R : α → β → Prop} {S : γ → δ → Prop} {x : Result α} {y : Result β}

theorem ok {a : α} {b : β} (h : R a b) : Follows R (.ok a) (.ok b) := by
  rintro _ ⟨⟩
  exact ⟨a, rfl, h⟩

theorem error (e : FilterError) : Follows R x (.error e) := by
  rintro _ ⟨⟩

theorem bind {f : α → Result γ} {g : β → Result δ} (h : Follows R x y)
    (hfg : ∀ a b, R a b → Follows S (f a) (g b)) : Follows S (x >>= f) (y >>= g) := by
  intro s hs
  obtain ⟨b, rfl, hg⟩ := exists_of_bind_ok hs
  obtain ⟨a, rfl, hab⟩ := h b rfl
  exact hfg a b hab s hg

end Follows

namespace Expr

variable {d : Definition} {u t l r l' r' : Expr}

/-! ### Operators -/

theorem follows_resolveColumn (name : String) :
    Follows (IsLate d) (resolveColumn none name) (resolveColumn (some d) name) := by
  intro t h
  obtain ⟨f, hf, rfl⟩ := exists_of_resolveColumn h
  refine ⟨ofName name, rfl, ?_⟩
  constructor
  case literal => rfl
  case column => rfl
  case free => exact Column.field_ofName name
  case fresh =>
    intro l hl
    cases hl
  case bind =>
    intro hnamed _
    have hname : ¬Column.IsWrapped name := fun hwrapped =>
      hnamed.node ((Definition.isWrapped_of_field? hf).2 hwrapped)
    rw [ofName, Column.ofName_of_not_wrapped hname, Expr.bind, Column.bind, hf]
    rfl

theorem follows_compareOperands {op : CompareOp} (hop : op ≠ .like) (hl : IsLate d l l')
    (hr : IsLate d r r') :
    Follows (IsLate d) (compareOperands op l r) (compareOperands op l' r') := by
  intro t h
  obtain ⟨rfl, hone, hone', rfl⟩ | ⟨x, rfl, hx⟩ := compareOperands_cases h
  · -- The text of the condition that is always true.
    refine ⟨.all, ?_, .all⟩
    unfold compareOperands
    rw [if_pos (by rw [isOne_congr hl.literal, isOne_congr hr.literal, hone, hone']; rfl)]
  · obtain ⟨hmarker, hnull, -⟩ := compareOperands_eq_ok_iff.1 h
    refine ⟨.compare op l r, compareOperands_eq_ok_iff.2 ⟨?_, ?_, ?_⟩, ?_⟩
    · rwa [isOne_congr hl.literal, isOne_congr hr.literal]
    · rintro hcolumn
      rw [isNullLiteral_congr hr.literal]
      exact hnull ((isColumn_iff l').1 (hl.column ▸ (isColumn_iff l).2 hcolumn))
    · rw [hl.free, coerceOperand_none]
    · refine .node rfl rfl rfl rfl fun hnamed hwhole => ?_
      have hcompared : (compare op l r).compared = some (l, [r]) := by
        cases op with
        | like => exact absurd rfl hop
        | _ => rfl
      have hbind : l.bind d = l' :=
        hl.bind_operand hnamed hwhole (by simp [operands]) (by simp [operands])
      have hright : r.bind d = r' :=
        hr.bind
          (every_of_coerceOperand (fun _ => trivial) hx (hnamed.operand (by simp [operands])))
          (hwhole.operand (by simp [operands]))
      rw [Expr.bind, boundCompare_eq hop, hbind, hright,
        boundBeside_of_coerceOperand hwhole.node hcompared (by simp) hl hbind hr hx]

theorem follows_applyBinary (op : Sql.BinaryOp) (hl : IsLate d l l') (hr : IsLate d r r') :
    Follows (IsLate d) (applyBinary op l r) (applyBinary op l' r') := by
  cases op with
  | and => exact .ok (Connective.isLate_joinRead (c := .and) hl hr)
  | or => exact .ok (Connective.isLate_joinRead (c := .or) hl hr)
  | concat => exact .error _
  | plus | minus | multiply | divide | modulo => exact .ok (hl.arithmetic hr _)
  | equal | notEqual | less | greater | lessEqual | greaterEqual =>
    exact follows_compareOperands (by decide) hl hr

/-- A literal with the other sign is a value of its own. -/
theorem exists_value_of_minus {l : Literal} {e : Expr}
    (h : applyUnary .minus (.literal l) = .ok e) : ∃ v, e = ofValue v := by
  obtain ⟨v, display, field⟩ := l
  cases field with
  | none =>
    rw [applyUnary] at h
    split at h
    · cases h
      exact ⟨_, rfl⟩
    · cases h
  | some f => cases h

theorem follows_applyUnary (op : Sql.UnaryOp) (h : IsLate d u t) :
    Follows (IsLate d) (applyUnary op u) (applyUnary op t) := by
  cases op with
  | not => exact .ok h.not
  | plus => exact .ok h
  | minus =>
    intro x hx
    cases t with
    | literal lit =>
      obtain ⟨v, rfl⟩ := exists_value_of_minus hx
      rw [eq_of_literal? h.literal]
      exact ⟨_, hx, .value v⟩
    | _ => cases hx

theorem follows_callNamed (name : String) {us ts : List Expr} (h : AreLate d .ok us ts) :
    Follows (IsLate d) (callNamed name us) (callNamed name ts) := by
  unfold callNamed
  split
  · exact .error _
  · rw [List.Forall₂.length_eq h]
    split
    · exact .ok (.call h _)
    · exact .error _

/-! ### Expressions -/

theorem follows_ofExpressions (finish : Expr → Result Expr) {xs : List Sql.Expression}
    (h : ∀ x ∈ xs, Follows (IsLate d) (ofExpression none x) (ofExpression (some d) x)) :
    Follows (AreLate d finish) (ofExpressions none .ok xs) (ofExpressions (some d) finish xs) := by
  induction xs with
  | nil => exact .ok .nil
  | cons x xs ih =>
    rw [ofExpressions, ofExpressions]
    refine (h x (List.mem_cons_self ..)).bind fun u t' hlate => ?_
    have hfinish : Follows (fun u t => ∃ t', IsLate d u t' ∧ finish t' = .ok t) (.ok u)
        (finish t') := fun t ht => ⟨u, rfl, t', hlate, ht⟩
    refine hfinish.bind fun u t hut => ?_
    exact (ih fun y hy => h y (List.mem_cons_of_mem x hy)).bind fun us ts hrest =>
      .ok (.cons hut hrest)

/-- What an expression means without a definition follows what it means under one. -/
theorem follows_ofExpression {x : Sql.Expression} (hx : Sql.IsRead x) :
    Follows (IsLate d) (ofExpression none x) (ofExpression (some d) x) := by
  induction hx with
  | literal => exact .ok (.value _)
  | null => exact .ok (.value _)
  | column name => exact follows_resolveColumn name
  | qualified => exact .error _
  | binary op _ _ ihl ihr =>
    rw [ofExpression, ofExpression]
    exact ihl.bind fun l l' hl => ihr.bind fun r r' hr => follows_applyBinary op hl hr
  | unary op _ ih =>
    rw [ofExpression, ofExpression]
    exact ih.bind fun u t h => follows_applyUnary op h
  | function name _ ih =>
    rw [ofExpression, ofExpression]
    exact (follows_ofExpressions .ok ih).bind fun us ts h => follows_callNamed name h
  | case => exact .error _
  | cast type _ ih =>
    rw [ofExpression, ofExpression]
    exact ih.bind fun u t h => .ok (h.cast type)
  | inList negated _ _ _ ih ihs =>
    rw [ofExpression, ofExpression]
    refine ih.bind fun l l' hl => ?_
    have hnone : coerceOperand l.columnField? "IN" = .ok := by
      rw [hl.free]
      exact funext (coerceOperand_none "IN")
    rw [hnone]
    exact (follows_ofExpressions _ ihs).bind fun us ts h => .ok ((hl.inList h).negatedIf negated)
  | between negated _ _ _ ih ihlow ihhigh =>
    rw [ofExpression, ofExpression]
    refine ih.bind fun l l' hl => ?_
    cases l' with
    | column c' =>
      obtain ⟨c, rfl⟩ := (isColumn_iff l).1 hl.column
      have hcoerce : ∀ (e : Expr) (y : Result Expr), Follows (fun u x => u = e ∧ y = .ok x)
          (coerceOperand c.field "BETWEEN" e) y := by
        intro e y x hx
        have hfree : c.field = none := hl.free
        rw [hfree, coerceOperand_none]
        exact ⟨e, rfl, rfl, hx⟩
      refine ihlow.bind fun low low' hlow => (hcoerce low _).bind ?_
      rintro _ x ⟨rfl, hx⟩
      refine ihhigh.bind fun high high' hhigh => (hcoerce high _).bind ?_
      rintro _ y ⟨rfl, hy⟩
      exact .ok ((hl.between hlow hhigh hx hy).negatedIf negated)
    | _ => exact .error _
  | like escape negated _ _ ih ihp =>
    cases escape with
    | some => exact .error _
    | none =>
      rw [ofExpression, ofExpression]
      exact ih.bind fun l l' hl => ihp.bind fun r r' hr => .ok ((hl.like hr).negatedIf negated)
  | isNull negated _ ih =>
    rw [ofExpression, ofExpression]
    refine ih.bind fun u t h => .ok ?_
    split
    · exact h.isNotNull
    · exact h.isNull
  | @row es _ ih =>
    rw [ofExpression, ofExpression]
    cases es with
    | nil => exact .error _
    | cons x xs => exact ih x (List.mem_cons_self ..)
  | «exists» => exact .error _
  | subquery => exact .error _

theorem follows_ofClause (d : Definition) (clause : String) :
    Follows (IsLate d) (ofClause none clause) (ofClause (some d) clause) := by
  intro t h
  rcases exists_expression_of_ofClause h with hall | ⟨x, hx, hclause⟩
  · rw [hall] at h
    cases h
    exact ⟨.all, hall none, .all⟩
  · rw [hclause] at h ⊢
    exact follows_ofExpression hx t h

end Expr

/-! ### Queries -/

/-- A query without a definition finds what it finds when the definition of its path is set. -/
theorem Store.exists_found_of_withDefinition {s : Store} {q : Query} {d : Definition}
    (hs : s.definition? d.path = some d) (hpath : q.path = d.path) (hq : q.definition = none) :
    ∃ found, s.query q = .ok found ∧ s.query (q.withDefinition d) = .ok found := by
  have hearly : s.definition? (q.withDefinition d).path = some d := hs
  have hpaths : (q.withDefinition d).path = q.path := hpath.symm
  have hsame : s.query q = s.query (q.withDefinition d) := by
    rw [Store.query, Store.query, hearly, hpath, hs]
    simp only [hq, Option.isSome_none, Bool.false_eq_true, if_false]
    rfl
  have hfound : ∃ found, s.query (q.withDefinition d) = .ok found := by
    rw [Store.query, hearly]
    cases hlabel : q.label with
    | none => exact ⟨_, by simp only [Query.withDefinition, hlabel]; rfl⟩
    | some label => exact ⟨_, by simp only [Query.withDefinition, hlabel]; rfl⟩
  obtain ⟨found, hfound⟩ := hfound
  exact ⟨found, hsame.trans hfound, hfound⟩

namespace Query

open TypedFilter.Expr (IsNamed IsWhole)

/-- A clause that is accepted under a definition is accepted without one. Unless a name has double
quotes of its own or a text that is looked up in a code table has colons, what it means is the same
when it is bound to the definition afterwards, and a store finds the same records. -/
theorem late_binding_agrees {d : Definition} {clause : String} {t : Expr}
    (h : Expr.ofClause (some d) clause = .ok t) :
    ∃ u, Expr.ofClause none clause = .ok u ∧
      (t.Every IsNamed → u.Every (IsWhole d) →
        (u.bind d).sql = t.sql ∧ (u.bind d).parameters = t.parameters ∧
        (u.bind d).text = t.text ∧
        ∀ (s : Store) (q : Query), s.definition? d.path = some d → q.path = d.path →
          q.definition = none → ∃ late early found, q.withClause clause = .ok late ∧
            (q.withDefinition d).withClause clause = .ok early ∧
            s.query late = .ok found ∧ s.query early = .ok found) := by
  obtain ⟨u, hu, hlate⟩ := Expr.follows_ofClause d clause t h
  refine ⟨u, hu, fun hnamed hwhole => ?_⟩
  have hbind : u.bind d = t := hlate.bind hnamed hwhole
  refine ⟨by rw [hbind], by rw [hbind], by rw [hbind], fun s q hs hpath hq => ?_⟩
  let late : Query := { q with condition := u }
  have hread : q.withClause clause = .ok late := by
    have hclause : Expr.ofClause q.definition clause = .ok u := by rw [hq, hu]
    exact congrArg (Except.map _) hclause
  have hwith : (q.withDefinition d).withClause clause = .ok (late.withDefinition d) := by
    have hcondition : late.withDefinition d = { q.withDefinition d with condition := t } :=
      congrArg (fun e => { q.withDefinition d with condition := e }) hbind
    rw [hcondition]
    exact congrArg (Except.map _) h
  obtain ⟨found, hfound⟩ := Store.exists_found_of_withDefinition (q := late) hs hpath hq
  exact ⟨late, _, found, hread, hwith, hfound⟩

/-- A display value in another case, a number for a decimal field, and a list with a text that has
colons for a field without a code table. The store has a record for each state. -/
theorem late_binding_agrees_codes :
    let codes : List (Value × List Value) := [
      (.integer .int ⟨1, by decide⟩, [.string "Open"]),
      (.integer .int ⟨2, by decide⟩, [.string "Sold", .string "Out"])]
    let state : Field :=
      { name := "state", title := "State", type := .integer .int,
        codeTable := some (.ofCodes "states" codes) }
    let label : Field := .ofType "label" .string
    let d : Definition := { path := "/shop", fields := [state, label] }
    let clause := "State = 'OPEN' AND label IN ('a:b', 7)"
    let one : Value := .integer .int ⟨1, by decide⟩
    let seven : Value := .integer .int ⟨7, by decide⟩
    let u : Expr := .and [
      .equal (.ofName "State") (.ofValue (.string "OPEN")),
      .inList (.ofName "label") [.ofValue (.string "a:b"), .ofValue seven]]
    let t : Expr := .and [
      .equal (.ofField state) (.literal ⟨one, some (.string "Open"), some state⟩),
      .inList (.ofField label) [.literal ⟨.string "a:b", none, some label⟩,
        .literal ⟨.string "7", none, some label⟩]]
    let shown : Record := .ofValues d [one, .string "a:b"]
    let s : Store :=
      { definitions := [("/shop", d)],
        tables := [("/shop", [.ofValues d [.integer .int ⟨2, by decide⟩, .string "7"], shown])] }
    let q := ofPath "/shop"
    Expr.ofClause (some d) clause = .ok t ∧ Expr.ofClause none clause = .ok u ∧
      t.Every IsNamed ∧ u.Every (IsWhole d) ∧
      (u.bind d).sql = t.sql ∧ (u.bind d).parameters = t.parameters ∧
      (u.bind d).text = t.text ∧
      s.definition? d.path = some d ∧ q.path = d.path ∧ q.definition = none ∧
      ∃ late early, q.withClause clause = .ok late ∧
        (q.withDefinition d).withClause clause = .ok early ∧
        s.query late = .ok [shown] ∧ s.query early = .ok [shown] := by
  intro codes state label d clause one seven u t shown s q
  have ht : Expr.ofClause (some d) clause = .ok t := eq_ok_of_toOption (by decide +kernel)
  have hu : Expr.ofClause none clause = .ok u := eq_ok_of_toOption (by decide +kernel)
  have hnamed : t.Every IsNamed := by
    have hliteral : ∀ l, (Expr.literal l).Every IsNamed := fun l => .leaf trivial rfl
    have hstate : (Expr.ofField state).Every IsNamed :=
      .leaf (by decide : ¬Column.IsWrapped "state") rfl
    have hlabel : (Expr.ofField label).Every IsNamed :=
      .leaf (by decide : ¬Column.IsWrapped "label") rfl
    exact .two trivial rfl (.two trivial rfl hstate (hliteral _))
      (.two trivial rfl hlabel (.two trivial rfl (hliteral _) (hliteral _)))
  have hwhole : u.Every (IsWhole d) := by
    have hleaf : ∀ e : Expr, e.operands = [] → e.compared = none → e.Every (IsWhole d) :=
      fun e hoperands hcompared => .leaf (Expr.isWhole_of_compared hcompared) hoperands
    have hopen : Expr.IsWhole d (.equal (.ofName "State") (.ofValue (.string "OPEN"))) := by
      rintro c others f ⟨⟩ hf l hl
      cases List.mem_singleton.1 hl
      exact fun _ => by decide
    have hlabels : Expr.IsWhole d
        (.inList (.ofName "label") [.ofValue (.string "a:b"), .ofValue seven]) := by
      rintro c others f ⟨⟩ hf l hl
      have hlabel : d.field? "label" = some label := by decide +kernel
      cases hlabel.symm.trans hf
      exact Field.looksUpWhole_of_codeTable rfl l.value
    exact .two (Expr.isWhole_of_compared rfl) rfl
      (.two hopen rfl (hleaf _ rfl rfl) (hleaf _ rfl rfl))
      (.two hlabels rfl (hleaf _ rfl rfl)
        (.two (Expr.isWhole_of_compared rfl) rfl (hleaf _ rfl rfl) (hleaf _ rfl rfl)))
  have hs : s.definition? d.path = some d := by decide +kernel
  obtain ⟨u', hu', h⟩ := late_binding_agrees ht
  cases hu.symm.trans hu'
  obtain ⟨hsql, hparameters, htext, hquery⟩ := h hnamed hwhole
  obtain ⟨late, early, found, hlate, hearly, hfoundLate, hfoundEarly⟩ := hquery s q hs rfl rfl
  have hfound : found = [shown] := by
    have hrun : ((q.withClause clause).toOption.bind fun q => (s.query q).toOption) =
        some [shown] := by decide +kernel
    rw [hlate] at hrun
    exact Option.some.inj ((congrArg Except.toOption hfoundLate).symm.trans hrun)
  rw [hfound] at hfoundLate hfoundEarly
  exact ⟨ht, hu, hnamed, hwhole, hsql, hparameters, htext, hs, rfl, rfl, late, early, hlate, hearly,
    hfoundLate, hfoundEarly⟩

/-- A display value of two parts is not found when it is looked up as one text, and a name in double
quotes of its own loses them when it is read without a definition. The store finds nothing then. -/
theorem late_binding_differs :
    let seven : Value := .integer .int ⟨7, by decide⟩
    let region : Field :=
      { name := "region", title := "Region", type := .integer .int,
        codeTable := some (.ofCodes "regions" [(seven, [.string "North", .string "Coast"])]) }
    let wrapped : Field := { name := "\"a\"", title := "A", type := .integer .int }
    let d : Definition := { path := "/shop", fields := [region, wrapped] }
    let shown : Record := .ofValues d [seven, seven]
    let s : Store := { definitions := [("/shop", d)], tables := [("/shop", [shown])] }
    let q := ofPath "/shop"
    let found (q : Query) (clause : String) : Option (List Record) :=
      (q.withClause clause).toOption.bind fun q => (s.query q).toOption
    let regionClause := "region = 'North:Coast'"
    let wrappedClause := "\"\"\"a\"\"\" = 7"
    (∃ t u, Expr.ofClause (some d) regionClause = .ok t ∧ Expr.ofClause none regionClause = .ok u ∧
      t.parameters = [seven] ∧ (u.bind d).parameters = [.string "North:Coast"] ∧
      found (q.withDefinition d) regionClause = some [shown] ∧ found q regionClause = some []) ∧
    ∃ t u, Expr.ofClause (some d) wrappedClause = .ok t ∧
      Expr.ofClause none wrappedClause = .ok u ∧
      t.sql = "\"\"\"a\"\"\" = ?" ∧ (u.bind d).sql = "a = ?" ∧
      found (q.withDefinition d) wrappedClause = some [shown] ∧
      found q wrappedClause = some [] := by
  intro seven region wrapped d shown s q found regionClause wrappedClause
  let coast : Expr := .literal ⟨seven, some (.string "North:Coast"), some region⟩
  refine ⟨⟨.equal (.ofField region) coast,
    .equal (.ofName "region") (.ofValue (.string "North:Coast")), ?_, ?_, by decide +kernel⟩,
    .equal (.ofField wrapped) (.literal ⟨seven, none, some wrapped⟩),
    .equal (.ofName "a") (.ofValue seven), ?_, ?_, by decide +kernel⟩
  all_goals exact eq_ok_of_toOption (by decide +kernel)

end Query

end TypedFilter
