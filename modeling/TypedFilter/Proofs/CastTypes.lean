import TypedFilter.Proofs.RoundTrip
import TypedFilter.Proofs.Translation

/-!
Casts in the text of conditions. The text of what a clause means without a definition is read as the
same tree, made flat, in which the name of each column is read once more. Main statement: if the
types of its casts are written with bare words, the text can be read and has the same casts.
-/

namespace TypedFilter

/-- The column that the name of a column is read as. -/
def Column.reread (c : Column) : Column :=
  .ofName c.name

namespace Expr

/-! ### Types of casts -/

mutual

/-- The types that the tree casts to, in order. -/
def castTypes : Expr → List String
  | .literal _ | .column _ | .all => []
  | .collection es | .call _ es | .and es | .or es => castTypesOf es
  | .cast e type => type :: castTypes e
  | .not e | .isNull e | .isNotNull e | .paren e => castTypes e
  | .arithmetic _ l r | .compare _ l r | .isIn l r => castTypes l ++ castTypes r
  | .between e l h => castTypes e ++ castTypes l ++ castTypes h

/-- The types that trees cast to, in order. -/
def castTypesOf : List Expr → List String
  | [] => []
  | e :: es => castTypes e ++ castTypesOf es

end

theorem castTypesOf_eq_flatMap (es : List Expr) : castTypesOf es = es.flatMap castTypes := by
  induction es with
  | nil => rfl
  | cons e es ih => rw [castTypesOf, ih, List.flatMap_cons]

theorem castTypes_mapOperands {change : Expr → Expr} {e : Expr}
    (h : ∀ x ∈ e.operands, (change x).castTypes = x.castTypes) :
    (e.mapOperands change).castTypes = e.castTypes := by
  cases e with
  | literal | column | all => rfl
  | collection es | call f es | and es | or es =>
    rw [mapOperands, castTypes, castTypes, castTypesOf_eq_flatMap, castTypesOf_eq_flatMap,
      List.flatMap_map]
    exact List.flatMap_congr h
  | _ =>
    simp only [operands, List.mem_cons, List.not_mem_nil, or_false, forall_eq_or_imp,
      forall_eq] at h
    simp [mapOperands, castTypes, h]

theorem castTypes_flatten (e : Expr) : e.flatten.castTypes = e.castTypes :=
  collect_flatten (fun c es => by cases c <;> exact castTypesOf_eq_flatMap es)
    (fun _ h => castTypes_mapOperands h) e

/-! ### Columns that are read again -/

mutual

/-- The tree with a change of its columns. -/
def mapColumns (change : Column → Column) : Expr → Expr
  | .literal l => .literal l
  | .column c => .column (change c)
  | .collection es => .collection (mapColumnsAll change es)
  | .cast e type => .cast (mapColumns change e) type
  | .arithmetic op l r => .arithmetic op (mapColumns change l) (mapColumns change r)
  | .call f es => .call f (mapColumnsAll change es)
  | .all => .all
  | .and es => .and (mapColumnsAll change es)
  | .or es => .or (mapColumnsAll change es)
  | .not e => .not (mapColumns change e)
  | .between e low high =>
    .between (mapColumns change e) (mapColumns change low) (mapColumns change high)
  | .isIn e values => .isIn (mapColumns change e) (mapColumns change values)
  | .isNull e => .isNull (mapColumns change e)
  | .isNotNull e => .isNotNull (mapColumns change e)
  | .compare op l r => .compare op (mapColumns change l) (mapColumns change r)
  | .paren e => .paren (mapColumns change e)

/-- Trees with a change of their columns. -/
def mapColumnsAll (change : Column → Column) : List Expr → List Expr
  | [] => []
  | e :: es => mapColumns change e :: mapColumnsAll change es

end

variable {change : Column → Column} {e x : Expr}

theorem mapColumnsAll_eq_map (es : List Expr) :
    mapColumnsAll change es = es.map (mapColumns change) := by
  induction es with
  | nil => rfl
  | cons e es ih => rw [mapColumnsAll, ih, List.map_cons]

theorem mapColumns_eq_mapOperands (h : e.isColumn = false) :
    e.mapColumns change = e.mapOperands (mapColumns change) := by
  cases e with
  | column => cases h
  | _ => simp [mapColumns, mapOperands, mapColumnsAll_eq_map]

theorem operands_mapColumns (e : Expr) :
    (e.mapColumns change).operands = e.operands.map (mapColumns change) := by
  cases e with
  | column => rfl
  | _ => rw [mapColumns_eq_mapOperands rfl, operands_mapOperands]

theorem castTypes_mapColumns (e : Expr) : (e.mapColumns change).castTypes = e.castTypes := by
  induction e using Expr.induction with
  | h e ih =>
    cases e with
    | column => rfl
    | _ =>
      rw [mapColumns_eq_mapOperands rfl]
      exact castTypes_mapOperands ih

theorem isJoined_mapColumns (c : Connective) (e : Expr) :
    c.isJoined (e.mapColumns change) = c.isJoined e := by
  cases e with
  | and es | or es => cases c <;> cases es <;> rfl
  | _ => cases c <;> rfl

theorem keepsKinds_mapColumns : KeepsKinds (mapColumns change) where
  literal? e := by cases e <;> rfl
  isColumn e := by cases e <;> rfl
  isJoined := isJoined_mapColumns

/-! ### Trees without fields -/

theorem columnField?_reread (h : e.columnField? = none) :
    (e.mapColumns Column.reread).columnField? = e.columnField? := by
  rw [h]
  cases e with
  | column c => exact Column.field_ofName c.name
  | _ => rfl

/-- What a node of a tree has that a clause means without a definition. -/
structure IsNameless (e : Expr) : Prop where
  settled : e.isColumn = false → e.IsSettled none
  field : e.columnField? = none

theorem every_isSettledIn_reread (h : e.Every IsNameless) :
    e.Every (IsSettledIn none (mapColumns Column.reread)) := by
  induction h with
  | intro e hp ho ih =>
    refine ⟨e, ?_, ih⟩
    cases hc : e.isColumn with
    | true =>
      obtain ⟨c, rfl⟩ := (isColumn_iff e).1 hc
      rfl
    | false =>
      have hnode := keepsKinds_mapColumns.isSettled (hp.settled hc)
        (fun x hx => columnField?_reread (ho x hx).node.field)
        fun _ values _ => operands_mapColumns values
      cases e with
      | column => cases hc
      | _ => exact hnode

theorem every_isNameless_flatten (hl : e.Every IsLegible) (h : e.Every IsNameless) :
    e.flatten.Every IsNameless := by
  refine (hl.and h).flatten (fun e hjunction hp => ⟨fun hc => ?_, ?_⟩) fun c es hes hp => ?_
  · refine isSettled_mapOperands_flatten hp.1 (hp.2.settled ?_)
    cases e <;> exact hc
  · rw [← flatten_eq_mapOperands hjunction, columnField?_flatten]
    exact hp.2.field
  · have hcolumn : ∀ es, (c.node es).isColumn = false :=
      fun es => isColumn_of_isCondition (c.isCondition_node es)
    have hjoined : ∀ x ∈ es, c.isJoined x.flatten = true → x.flatten.IsSettled none :=
      fun x hx hc => (hes x hx).settled (isColumn_of_isJoined hc)
    exact ⟨fun _ => isSettled_node_flatten hjoined (hp.2.settled (hcolumn es)),
      columnField?_of_isColumn (hcolumn _)⟩

/-- The text of a tree without fields means the tree made flat with its names read again. -/
theorem ofClause_text_of_isNameless (hl : e.Every IsLegible) (h : e.Every IsNameless)
    (hc : e.isCollection = false) :
    ofClause none e.text = .ok (e.flatten.mapColumns Column.reread).unbound := by
  have hflat := every_isLegible_flatten hl
  have hc' : e.flatten.isCollection = false := (isCollection_flatten e).trans hc
  have hmeans := meansChanged_of_settledIn (fun _ => mapColumns_eq_mapOperands) hflat
    (every_isSettledIn_reread (every_isNameless_flatten hl h))
  have htext : e.text = e.flatten.text := (write_flatten _ e).symm
  rw [htext, ofClause_text none hflat (every_isFlat_flatten e) hc']
  exact (meansChanged_iff hc').1 hmeans

/-- What a clause means without a definition. -/
theorem every_isNameless_ofClause {clause : String} (h : ofClause none clause = .ok e) :
    e.Every IsNameless := by
  refine (isComposed_ofClause h).every.imp fun x hx => ⟨hx.settled, ?_⟩
  cases hfield : x.columnField? with
  | none => rfl
  | some f =>
    obtain ⟨d, hd, -⟩ := hx.field f hfield
    cases hd

/-- If the types of the casts in a clause are written with bare words, the text of what it means can
be read, and what is read has casts to the same types in the same order. It is the tree made flat in
which the name of each column is read once more. -/
theorem text_keeps_cast_types {clause : String} {e : Expr} (h : ofClause none clause = .ok e)
    (htypes : e.Every IsTyped) :
    ∃ e', ofClause none e.text = .ok e' ∧ e'.castTypes = e.castTypes ∧
      e' = e.flatten.mapColumns Column.reread := by
  have he := isComposed_ofClause h
  have hlegible : e.Every IsLegible := (htypes.and he.every).imp fun _ hx => hx.2.legible hx.1
  refine ⟨e.flatten.mapColumns Column.reread, ?_, ?_, rfl⟩
  · rw [ofClause_text_of_isNameless hlegible (every_isNameless_ofClause h) he.single,
      keepsKinds_mapColumns.unbound, keepsKinds_flatten.unbound, he.free]
  · rw [castTypes_mapColumns, castTypes_flatten]

/-- A type of two words, one of numbers and one in double quotes, inside an AND that goes; a column
whose name stands between double quotes of its own. -/
theorem text_keeps_cast_types_nested :
    let clause := "a = 1 AND (CAST(CAST(\"\"\"b\"\"\" AS \"text\") AS double precision) > 2 AND " ++
      "NOT CAST(c AS decimal(10, 2)) IS NULL)"
    ∃ e e', ofClause none clause = .ok e ∧ e.Every IsTyped ∧
      ofClause none e.text = .ok e' ∧
      e'.castTypes = ["double precision", "text", "decimal(10,2)"] := by
  intro clause
  let one (n : Int) (h : IntWidth.int.Holds n) : Expr := .ofValue (.integer .int ⟨n, h⟩)
  let first : Expr := .compare .equal (.ofName "a") (one 1 (by decide))
  let second : Expr := .compare .greater
    (.cast (.cast (.column ⟨"b", none⟩) "text") "double precision") (one 2 (by decide))
  let third : Expr := .not (.isNull (.cast (.ofName "c") "decimal(10,2)"))
  have hclause : ofClause none clause = .ok (.and [first, .and [second, third]]) :=
    eq_ok_of_toOption (by decide +kernel)
  have hnumber : ∀ d ∈ ["10", "2"], Sql.IsNumeral d := by
    intro d hd
    rcases List.mem_pair.1 hd with rfl | rfl
    · exact ⟨['1', '0'], by decide, by decide, .inl rfl⟩
    · exact ⟨['2'], by decide, by decide, .inl rfl⟩
  have htext : Sql.IsTypeName "text" :=
    ⟨"text", [], [], by simpa using by decide, by simp, rfl⟩
  have hdouble : Sql.IsTypeName "double precision" := by
    refine ⟨"double", ["precision"], [], fun w hw => ?_, by simp, rfl⟩
    rcases List.mem_pair.1 hw with rfl | rfl <;> decide
  have hdecimal : Sql.IsTypeName "decimal(10,2)" :=
    ⟨"decimal", [], ["10", "2"], by simpa using by decide, hnumber, rfl⟩
  have hleaf : ∀ e : Expr, e.operands = [] → e.IsTyped → e.Every IsTyped :=
    fun e ho he => .leaf he ho
  have hfirst : first.Every IsTyped := .two trivial rfl (hleaf _ rfl trivial) (hleaf _ rfl trivial)
  have hsecond : second.Every IsTyped :=
    .two trivial rfl (.one hdouble rfl (.one htext rfl (hleaf _ rfl trivial)))
      (hleaf _ rfl trivial)
  have hthird : third.Every IsTyped :=
    .one trivial rfl (.one trivial rfl (.one hdecimal rfl (hleaf _ rfl trivial)))
  have htyped : (and [first, .and [second, third]]).Every IsTyped :=
    .two trivial rfl hfirst (.two trivial rfl hsecond hthird)
  obtain ⟨e', hread, htypes, -⟩ := text_keeps_cast_types hclause htyped
  exact ⟨_, e', hclause, htyped, hread, htypes.trans (by decide +kernel)⟩

/-- A type in double quotes that ends its cast where it stands without them, and one without a
word. -/
theorem text_loses_cast_types :
    let two : Expr := .ofValue (.integer .int ⟨2, by decide⟩)
    let e (type : String) : Expr := .compare .equal (.cast (.ofName "a") type) two
    ofClause none "CAST(a AS \"x) = 1 OR (b\") = 2" = .ok (e "x) = 1 OR (b") ∧
      (∃ e', ofClause none (e "x) = 1 OR (b").text = .ok e' ∧ e'.castTypes = ["x"]) ∧
      ofClause none "CAST(a AS \"\") = 2" = .ok (e "") ∧
      ∀ e', ofClause none (e "").text ≠ .ok e' := by
  intro two e
  let left : Expr :=
    .compare .equal (.cast (.ofName "a") "x") (.ofValue (.integer .int ⟨1, by decide⟩))
  let right : Expr := .compare .equal (.ofName "b") two
  have hread : ofClause none (e "x) = 1 OR (b").text = .ok (.or [left, right]) :=
    eq_ok_of_toOption (by decide +kernel)
  have hfails : (ofClause none (e "").text).toOption = none := by decide +kernel
  refine ⟨eq_ok_of_toOption (by decide +kernel), ⟨_, hread, by decide +kernel⟩,
    eq_ok_of_toOption (by decide +kernel), fun e' h => ?_⟩
  rw [h] at hfails
  cases hfails

end Expr

end TypedFilter
