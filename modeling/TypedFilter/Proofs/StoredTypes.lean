import TypedFilter.Proofs.BoundClauses
import TypedFilter.Proofs.Conversions

/-!
Types of the values that clauses compare columns with. Main statement: in what a clause means under
a definition, a column that values are compared with is a field, and a literal among them holds a
value of the field's type, whatever the identifiers of the field's code table are.
-/

namespace TypedFilter

/-! ### Converted values -/

/-- Whether a value is one of the type: of this very type, or of any that it stands for. -/
def DataType.holds (t : DataType) (v : Value) : Bool :=
  match t with
  | .geometry => v.dataType?.any isGeometry
  | .object => !v.isNull
  | t => v.dataType? = some t

namespace Value

variable {v w : Value} {t : DataType}

theorem kind_of_geometryOf? {kind : ShapeKind} {g : Geometry}
    (h : DataType.geometryOf? (some kind) v = some g) : g.kind = kind := by
  cases v with
  | geometry =>
    rw [DataType.geometryOf?] at h
    split at h
    · rename_i hkind
      cases h
      rcases hkind with hkind | hkind
      · cases hkind
      · exact (Option.some.inj hkind).symm
    · cases h
  | box =>
    rw [DataType.geometryOf?] at h
    split at h
    · rename_i hkind
      obtain ⟨p, -, rfl⟩ := Option.map_eq_some_iff.1 h
      rcases hkind with hkind | hkind
      · cases hkind
      · exact (Option.some.inj hkind).symm
    · cases h
  | _ => cases h

theorem holds_of_cast? (h : t.cast? v = some w) (hw : w.isNull = false) : t.holds w = true := by
  cases t with
  | boolean | integer | decimal | string | date | time | timestamp =>
    exact decide_eq_true (dataType?_of_cast? trivial h)
  | float | double | geometry =>
    obtain ⟨_, -, rfl⟩ := Option.map_eq_some_iff.1 h
    rfl
  | shape kind =>
    obtain ⟨g, hg, rfl⟩ := Option.map_eq_some_iff.1 h
    exact decide_eq_true (congrArg (some ∘ DataType.shape) (kind_of_geometryOf? hg))
  | object =>
    rw [DataType.holds, hw]
    rfl

/-- A conversion gives a value of the type or none at all. -/
theorem holds_of_convert (h : t.convert v = .ok w) (hw : w.isNull = false) :
    t.holds w = true := by
  rw [DataType.convert] at h
  split at h
  · cases h
    cases hw
  · split at h
    · rename_i hcast
      cases h
      exact holds_of_cast? hcast hw
    · cases h

end Value

/-- Whether the literal is bound to a field and holds a value of its type. -/
def Literal.IsStoredBy (f : Field) (l : Literal) : Prop :=
  l.field = some f ∧ l.value.isNull = false ∧ f.type.holds l.value = true

theorem holds_of_store {f : Field} {v w : Value} (h : f.store v = .ok w)
    (hw : w.isNull = false) : f.type.holds w = true := by
  rw [Field.store] at h
  split at h
  · cases h
    cases hw
  · exact Value.holds_of_convert (eq_ok_of_mapError h) hw

/-- The identifier that a code table has for a value is converted like any other value. -/
theorem isStoredBy_of_forFieldStrict {f : Field} {v : Value} {l : Literal}
    (h : Literal.forFieldStrict f v = .ok l) (hl : l.value.isNull = false) : l.IsStoredBy f := by
  obtain ⟨-, w, hw, rfl⟩ | ⟨table, id, w, -, -, -, hw, rfl⟩ := Expr.forFieldStrict_eq_ok_iff.1 h
  · exact ⟨rfl, hl, holds_of_store hw hl⟩
  · exact ⟨rfl, hl, Value.holds_of_convert hw hl⟩

/-! ### Clauses -/

/-- Whether the column is a field of the definition. -/
def Column.IsFieldOf (d : Definition) (c : Column) (f : Field) : Prop :=
  f ∈ d.fields ∧ d.field? c.name = some f ∧ c = .ofField f

namespace Expr

variable {d : Definition}

/-- Whether values are compared with a column at a node only if the column is a field and each
literal among them is stored by it. -/
def IsWellTyped (d : Definition) (e : Expr) : Prop :=
  ∀ c others, e.compared = some (.column c, others) →
    ∃ f, c.IsFieldOf d f ∧ ∀ l, .literal l ∈ others → l.IsStoredBy f

/-- What a node of a condition has that comes from a clause: a column is a field, and so is one that
values are compared with. -/
def ComesTyped (d : Definition) (e : Expr) : Prop :=
  (∀ c, e = .column c → ∃ f, c.IsFieldOf d f) ∧ e.IsWellTyped d

theorem isFieldOf_ofField {name : String} {f : Field} (h : d.field? name = some f) :
    (Column.ofField f).IsFieldOf d f :=
  ⟨Definition.mem_of_field? h, Definition.field?_name h, rfl⟩

theorem isStoredBy_of_isCoercedBeside {c : Column} {f : Field} {l : Literal}
    (hc : c.field = some f) (h : (literal l).IsCoercedBeside (column c)) : l.IsStoredBy f := by
  obtain ⟨op, y, h⟩ := h
  rw [columnField?, hc] at h
  cases y with
  | literal =>
    obtain ⟨-, bound, hbound, hvalue, hl⟩ := coerceLiteral_eq_ok_iff.1 h
    cases hl
    exact isStoredBy_of_forFieldStrict hbound hvalue
  | _ => cases h

theorem isNodeProperty_comesTyped (d : Definition) :
    IsNodeProperty (some d) (ComesTyped d) where
  column name e h := by
    obtain ⟨f, hf, rfl⟩ := exists_of_resolveColumn h
    refine ⟨?_, fun c others hcompared => by cases hcompared⟩
    rintro c ⟨⟩
    exact ⟨f, isFieldOf_ofField hf⟩
  plain e h hc := by
    refine ⟨?_, fun c others hcompared => by cases h.symm.trans hcompared⟩
    rintro c rfl
    cases hc
  comparing e l others h _ hl hothers := by
    refine ⟨?_, fun c others' hcompared => ?_⟩
    · rintro c rfl
      cases h
    · cases h.symm.trans hcompared
      obtain ⟨f, hf⟩ := hl.1 c rfl
      have hfield : c.field = some f := congrArg Column.field hf.2.2
      exact ⟨f, hf, fun l hmem => isStoredBy_of_isCoercedBeside hfield (hothers _ hmem)⟩

/-- What a clause means under a definition compares columns with values of their types only. -/
theorem isWellTyped_ofClause {clause : String} {e : Expr} (h : ofClause (some d) clause = .ok e) :
    e.Every (IsWellTyped d) :=
  ((isNodeProperty_comesTyped d).every_ofClause h).imp fun _ hx => hx.2

/-- A field of whole numbers with texts for the identifiers of its codes; a display value of two
parts, one in another case, and blanks around an identifier. -/
theorem isWellTyped_ofClause_codes :
    let codes : List (Value × List Value) := [
      (.string "1", [.string "Open", .string "Air"]),
      (.string " 2 ", [.string "Closed"])]
    let state : Field :=
      { name := "state", title := "State", type := .integer .int,
        codeTable := some (.ofCodes "states" codes) }
    let d : Definition := { path := "/shop", fields := [state] }
    let clause := "State <> 'Open:Air' AND state BETWEEN 1 AND 'CLOSED' AND state NOT IN ('1')"
    let one : Expr :=
      .literal ⟨.integer .int ⟨1, by decide⟩, some (.string "Open:Air"), some state⟩
    let two : Expr := .literal ⟨.integer .int ⟨2, by decide⟩, some (.string "Closed"), some state⟩
    let e : Expr := .and [
      .compare .notEqual (ofField state) one,
      .between (ofField state) one two,
      .not (inList (ofField state) [one])]
    ofClause (some d) clause = .ok e ∧ e.Every (IsWellTyped d) := by
  intro codes state d clause one two e
  have h : ofClause (some d) clause = .ok e := eq_ok_of_toOption (by decide +kernel)
  exact ⟨h, isWellTyped_ofClause h⟩

end Expr

end TypedFilter
