import TypedFilter.Proofs.Derivations

/-!
Clauses as bound conditions. Main statement: the condition that a clause means under a definition
leaves nothing to bind.
-/

namespace TypedFilter.Expr

variable {d : Option Definition}

/-- What a node of a condition has that comes from a clause: it is bound to the definition, if there
is one. -/
def ComesBound (d : Option Definition) (e : Expr) : Prop :=
  e.IsSearch ∧ ∀ d' ∈ d, e.IsBoundTo d'

theorem field_forFieldStrict {f : Field} {v : Value} {l : Literal}
    (h : Literal.forFieldStrict f v = .ok l) : l.field = some f := by
  obtain ⟨-, w, -, rfl⟩ | ⟨table, id, w, -, -, -, -, rfl⟩ := forFieldStrict_eq_ok_iff.1 h
  · rfl
  · rfl

/-- A literal is bound to the field beside it. -/
theorem isBeside_of_isCoercedBeside {x l : Expr} (h : x.IsCoercedBeside l) :
    x.IsBeside l.columnField? := by
  obtain ⟨op, y, h⟩ := h
  cases hfield : l.columnField? with
  | none => exact isBeside_none x
  | some f =>
    rw [hfield] at h
    cases y with
    | literal =>
      obtain ⟨-, bound, hbound, -, rfl⟩ := coerceLiteral_eq_ok_iff.1 h
      rintro g ⟨⟩
      exact field_forFieldStrict hbound
    | _ =>
      cases h
      trivial

theorem isBoundTo_of_compared {d : Definition} {e l : Expr} {others : List Expr}
    (h : e.compared = some (l, others)) (hbeside : ∀ x ∈ others, x.IsBeside l.columnField?) :
    e.IsBoundTo d := by
  cases e with
  | compare op left right =>
    intro hop
    cases op with
    | like => exact absurd rfl hop
    | _ =>
      cases h
      exact hbeside right (List.mem_singleton_self right)
  | between e low high =>
    cases h
    exact ⟨hbeside low (by simp), hbeside high (by simp)⟩
  | isIn e values =>
    cases h
    exact fun x hx => hbeside x (List.mem_cons_of_mem values hx)
  | _ => cases h

theorem isNodeProperty_comesBound (d : Option Definition) : IsNodeProperty d (ComesBound d) where
  column name e h := by
    cases d with
    | none =>
      cases h
      exact ⟨trivial, fun d' hd => by cases hd⟩
    | some d =>
      obtain ⟨f, hf, rfl⟩ := exists_of_resolveColumn h
      refine ⟨trivial, ?_⟩
      rintro d' ⟨⟩
      exact isBoundTo_ofField hf
  plain e h hc := by
    cases e with
    | column => cases hc
    | between | isIn => cases h
    | compare op =>
      cases op with
      | like => exact ⟨trivial, fun _ _ hop => absurd rfl hop⟩
      | _ => cases h
    | _ => exact ⟨trivial, fun _ _ => trivial⟩
  comparing e l others h hsearch _ hothers :=
    ⟨hsearch, fun _ _ =>
      isBoundTo_of_compared h fun x hx => isBeside_of_isCoercedBeside (hothers x hx)⟩

/-- The condition that a clause means under a definition leaves nothing to bind. -/
theorem every_ofClause {clause : String} {e : Expr} (h : ofClause d clause = .ok e) :
    e.Every (ComesBound d) :=
  (isNodeProperty_comesBound d).every_ofClause h

end TypedFilter.Expr
