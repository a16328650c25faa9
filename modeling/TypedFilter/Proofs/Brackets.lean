import TypedFilter.Expr.Extent
import TypedFilter.Proofs.Flattening
import TypedFilter.Proofs.Placeholders
import TypedFilter.Proofs.Rebinding

/-!
Brackets around parts of a tree. Main statement: they change neither what the tree is of a record
nor its parameters. Two readers do not look into brackets: binding, which wants a literal directly
beside its column, and the extent, which wants the distance of a spatial function to be a literal.
Brackets that stand nowhere there change neither of them.
-/

namespace TypedFilter.Expr

variable {keeps : Expr → Expr → Prop} {e e' x x' : Expr} {d : Definition} {f : Field}

/-! ### Operands of a node -/

/-- The node with other operands, if they are as many as it has. -/
def withOperands : Expr → List Expr → Expr
  | .collection _, es => .collection es
  | .call f _, es => .call f es
  | .and _, es => .and es
  | .or _, es => .or es
  | .cast _ type, [e] => .cast e type
  | .not _, [e] => .not e
  | .isNull _, [e] => .isNull e
  | .isNotNull _, [e] => .isNotNull e
  | .paren _, [e] => .paren e
  | .arithmetic op _ _, [l, r] => .arithmetic op l r
  | .compare op _ _, [l, r] => .compare op l r
  | .isIn _ _, [l, r] => .isIn l r
  | .between _ _ _, [e, low, high] => .between e low high
  | e, _ => e

theorem operands_withOperands {es : List Expr} (h : es.length = e.operands.length) :
    (e.withOperands es).operands = es := by
  cases e with
  | literal | column | all => exact (List.eq_nil_of_length_eq_zero h).symm
  | collection | call | and | or => rfl
  | cast | not | isNull | isNotNull | paren =>
    obtain ⟨x, rfl⟩ := List.length_eq_one_iff.1 h
    rfl
  | arithmetic | compare | isIn =>
    obtain ⟨x, y, rfl⟩ := List.length_eq_two.1 h
    rfl
  | between =>
    obtain ⟨x, y, z, rfl⟩ := List.length_eq_three.1 h
    rfl

theorem withOperands_operands (e : Expr) : e.withOperands e.operands = e := by
  cases e <;> rfl

theorem eq_literal_of_withOperands {es : List Expr} {l : Literal}
    (h : e.withOperands es = .literal l) : e = .literal l := by
  unfold withOperands at h
  split at h <;> first | exact h | cases h

theorem eq_column_of_withOperands {es : List Expr} {c : Column}
    (h : e.withOperands es = .column c) : e = .column c := by
  unfold withOperands at h
  split at h <;> first | exact h | cases h

/-- The literals of a node that is none itself are those of its operands. -/
theorem literals_eq_flatMap (h : ∀ l, e ≠ .literal l) :
    e.literals = e.operands.flatMap literals := by
  cases e with
  | literal l => exact absurd rfl (h l)
  | _ => simp [literals, operands, literalsOf_eq_flatMap]

/-- The parameters of a node that is no literal are those of its operands. -/
theorem parameters_of_node (h : ∀ l, e ≠ .literal l) :
    e.parameters = (e.operands.map parameters).flatten := by
  rw [parameters_eq, literals_eq_flatMap h, List.map_flatMap, List.flatMap_def]
  exact congrArg List.flatten (List.map_congr_left fun x _ => (parameters_eq x).symm)

/-! ### Brackets around parts -/

/-- Whether the second tree is the first one with brackets around some of its parts; `keeps` tells
of a node, as it was and as it is, whether brackets can stand around its operands as they do. -/
inductive Brackets (keeps : Expr → Expr → Prop) : Expr → Expr → Prop
  | around {e e' : Expr} (h : Brackets keeps e e') : Brackets keeps e (.paren e')
  | node {e : Expr} {es : List Expr} (hlength : es.length = e.operands.length)
      (hoperands : ∀ p ∈ e.operands.zip es, Brackets keeps p.1 p.2)
      (hkeeps : keeps e (e.withOperands es)) : Brackets keeps e (e.withOperands es)

namespace Brackets

/-- Brackets around parts of each operand. -/
theorem ofOperands (es : List Expr) (hkeeps : keeps e (e.withOperands es))
    (h : List.Forall₂ (Brackets keeps) e.operands es) : Brackets keeps e (e.withOperands es) :=
  .node h.length_eq.symm (fun _ hmem => (List.forall₂_iff_zip.1 h).2 hmem) hkeeps

/-- A tree is itself with no brackets added. -/
theorem refl (h : e.Every fun x => keeps x x) : Brackets keeps e e := by
  induction h with
  | intro e hkeeps _ ih =>
    have hself : Brackets keeps e (e.withOperands e.operands) :=
      .ofOperands _ (by rwa [withOperands_operands]) (List.forall₂_same.2 ih)
    rwa [withOperands_operands] at hself

theorem mono {keeps' : Expr → Expr → Prop} (h : Brackets keeps e e')
    (hkeeps : ∀ x x', keeps x x' → keeps' x x') : Brackets keeps' e e' := by
  induction h with
  | around _ ih => exact .around ih
  | node hlength _ hnode ih => exact .node hlength ih (hkeeps _ _ hnode)

@[elab_as_elim]
theorem induction {motive : Expr → Expr → Prop} (h : Brackets keeps e e')
    (around : ∀ e e', motive e e' → motive e (.paren e'))
    (node : ∀ e es, keeps e (e.withOperands es) → es.length = e.operands.length →
      List.Forall₂ (fun x x' => Brackets keeps x x' ∧ motive x x') e.operands es →
      motive e (e.withOperands es)) : motive e e' := by
  induction h with
  | around _ ih => exact around _ _ ih
  | node hlength hoperands hkeeps ih =>
    exact node _ _ hkeeps hlength (List.forall₂_iff_zip.2
      ⟨hlength.symm, fun hmem => ⟨hoperands _ hmem, ih _ hmem⟩⟩)

/-- Operands with equal views are equal in a view of all of them. -/
theorem map_eq {α : Type} {view view' : Expr → α} {p : Expr → Expr → Prop} {xs es : List Expr}
    (h : List.Forall₂ (fun x x' => p x x' ∧ view' x' = view x) xs es) :
    es.map view' = xs.map view := by
  induction h with
  | nil => rfl
  | cons hx _ ih => rw [List.map_cons, List.map_cons, hx.2, ih]

theorem eq_literal {l : Literal} (h : Brackets keeps e e') (he : e' = .literal l) :
    e = .literal l := by
  cases h with
  | around => cases he
  | node => exact eq_literal_of_withOperands he

theorem eq_column {c : Column} (h : Brackets keeps e e') (he : e' = .column c) :
    e = .column c := by
  cases h with
  | around => cases he
  | node => exact eq_column_of_withOperands he

/-! ### Values and parameters -/

theorem evaluate_eq (h : Brackets keeps e e') (r : Record) : e'.evaluate r = e.evaluate r := by
  refine h.induction (fun e e' ih => ih) fun e es _ _ hops => ?_
  have hmap : es.map (evaluate r) = e.operands.map (evaluate r) := map_eq hops
  cases e with
  | literal | column | all => rfl
  | collection xs | call f xs | and xs =>
    simp only [operands] at hmap
    simp only [withOperands, evaluate, evaluateAll_eq_map, hmap]
  | or xs =>
    simp only [operands] at hmap
    have hempty : es.isEmpty = xs.isEmpty := by
      rw [← List.isEmpty_map (f := evaluate r), hmap, List.isEmpty_map]
    simp only [withOperands, evaluate, evaluateAll_eq_map, hmap, hempty]
  | cast | not | isNull | isNotNull | paren =>
    obtain _ | ⟨hx, _ | _⟩ := hops
    simp only [withOperands, evaluate, hx.2]
  | arithmetic | compare | isIn =>
    obtain _ | ⟨hx, _ | ⟨hy, _ | _⟩⟩ := hops
    simp only [withOperands, evaluate, hx.2, hy.2]
  | between =>
    obtain _ | ⟨hx, _ | ⟨hy, _ | ⟨hz, _ | _⟩⟩⟩ := hops
    simp only [withOperands, evaluate, hx.2, hy.2, hz.2]

theorem literals_eq (h : Brackets keeps e e') : e'.literals = e.literals := by
  refine h.induction (fun e e' ih => ih) fun e es _ hlength hops => ?_
  by_cases hl : ∃ l, e = .literal l
  · obtain ⟨l, rfl⟩ := hl
    rfl
  · have hne : ∀ l, e ≠ .literal l := not_exists.1 hl
    rw [literals_eq_flatMap hne, literals_eq_flatMap fun l => mt eq_literal_of_withOperands (hne l),
      operands_withOperands hlength, List.flatMap_def, List.flatMap_def, map_eq hops]

theorem parameters_eq (h : Brackets keeps e e') : e'.parameters = e.parameters := by
  rw [Expr.parameters_eq, Expr.parameters_eq, h.literals_eq]

end Brackets

/-! ### Extents -/

/-- Whether the distance of a spatial function has no brackets around it that it had not before; for
a distance of zero they do not matter. -/
def KeepsDistance : Expr → Expr → Prop
  | .call .withinDistance [_, _, x], .call _ [_, _, x'] =>
    x.operandNumber ≠ .zero false → x' = x
  | _, _ => True

theorem extentsOf_eq_flatMap (es : List Expr) : extentsOf es = es.flatMap extents := by
  induction es with
  | nil => rfl
  | cons e es ih => rw [extentsOf, ih, List.flatMap_cons]

theorem operandNumber_of_ne_literal (h : ∀ l, e ≠ .literal l) : e.operandNumber = .zero false := by
  cases e with
  | literal l => exact absurd rfl (h l)
  | _ => rfl

namespace Brackets

theorem operandExtent_eq (h : Brackets keeps e e') : e'.operandExtent = e.operandExtent := by
  refine h.induction (fun e e' ih => ih) fun e es _ _ hops => ?_
  cases e with
  | literal | column | all | collection | call | and | or => rfl
  | paren =>
    obtain _ | ⟨hx, _ | _⟩ := hops
    exact hx.2
  | cast | not | isNull | isNotNull =>
    obtain _ | ⟨_, _ | _⟩ := hops
    rfl
  | arithmetic | compare | isIn =>
    obtain _ | ⟨_, _ | ⟨_, _ | _⟩⟩ := hops
    rfl
  | between =>
    obtain _ | ⟨_, _ | ⟨_, _ | ⟨_, _ | _⟩⟩⟩ := hops
    rfl

/-- A number between brackets is not read, so the distance is zero there. -/
theorem operandNumber_eq (h : Brackets keeps e e')
    (hkept : e.operandNumber ≠ .zero false → e' = e) : e'.operandNumber = e.operandNumber := by
  by_cases hzero : e.operandNumber = .zero false
  · rw [hzero]
    by_cases hl : ∃ l, e' = .literal l
    · obtain ⟨l, rfl⟩ := hl
      rw [← h.eq_literal rfl, hzero]
    · exact operandNumber_of_ne_literal (not_exists.1 hl)
  · rw [hkept hzero]

theorem extents_eq (h : Brackets KeepsDistance e e') : e'.extents = e.extents := by
  refine h.induction (fun e e' ih => ih) fun e es hkeeps _ hops => ?_
  have hmap : es.map extents = e.operands.map extents := map_eq hops
  cases e with
  | literal | column | all => rfl
  | call f xs =>
    cases f with
    | upper | lower =>
      simp only [operands] at hmap
      simp only [withOperands, extents, extentsOf_eq_flatMap, List.flatMap_def, hmap]
    | envelopeIntersects =>
      have hoperand : es.map operandExtent = xs.map operandExtent :=
        map_eq (hops.imp fun _ _ hx => ⟨hx.1, hx.1.operandExtent_eq⟩)
      simp only [withOperands, extents, hoperand]
    | withinDistance =>
      obtain _ | ⟨ha, _ | ⟨hb, _ | ⟨hx, _ | _⟩⟩⟩ := hops
      case cons.cons.cons.nil =>
        simp only [withOperands, extents, ha.1.operandExtent_eq, hb.1.operandExtent_eq,
          hx.1.operandNumber_eq hkeeps]
      all_goals rfl
  | collection | and | or =>
    simp only [operands] at hmap
    simp only [withOperands, extents, extentsOf_eq_flatMap, List.flatMap_def, hmap]
  | cast | not | isNull | isNotNull | paren =>
    obtain _ | ⟨hx, _ | _⟩ := hops
    simp only [withOperands, extents, hx.2]
  | arithmetic | compare | isIn =>
    obtain _ | ⟨hx, _ | ⟨hy, _ | _⟩⟩ := hops
    simp only [withOperands, extents, hx.2, hy.2]
  | between =>
    obtain _ | ⟨hx, _ | ⟨hy, _ | ⟨hz, _ | _⟩⟩⟩ := hops
    simp only [withOperands, extents, hx.2, hy.2, hz.2]

theorem boundingBox_eq (h : Brackets KeepsDistance e e') : e'.boundingBox = e.boundingBox := by
  rw [boundingBox, boundingBox, h.extents_eq]

end Brackets

/-! ### Binding -/

/-- The field of the definition that a column is. -/
def fieldIn? (d : Definition) : Expr → Option Field
  | .column c => d.field? c.name
  | _ => none

/-- An operand bound to a definition, beside what may be a field of it. -/
def bindBeside (d : Definition) (field : Option Field) (e : Expr) : Expr :=
  match field with
  | some f => (e.bind d).bindLiteral f
  | none => e.bind d

/-- Whether brackets leave a literal directly beside its column; they do not matter where binding
the literal to the field leaves its parameter as it is. -/
def StaysBeside (d : Definition) (e e' x x' : Expr) : Prop :=
  ∀ f l, e.fieldIn? d = some f → x = .literal l → (l.bindTo f).bound ≠ l.bound →
    e' = e ∧ x' = x

/-- Whether no brackets come between a column and the literals that it is directly compared with,
and none around the collection of a search. -/
def KeepsBeside (d : Definition) : Expr → Expr → Prop
  | .compare op e x, .compare _ e' x' => op ≠ .like → StaysBeside d e e' x x'
  | .between e low high, .between e' low' high' =>
    StaysBeside d e e' low low' ∧ StaysBeside d e e' high high'
  | .isIn e values, .isIn e' values' =>
    ∃ items items', values = .collection items ∧ values' = .collection items' ∧
      ∀ p ∈ items.zip items', StaysBeside d e e' p.1 p.2
  | _, _ => True

/-- Only a literal becomes one when it is bound to a definition, and it stays as it is. -/
theorem eq_literal_of_bind {l : Literal} (h : e.bind d = .literal l) : e = .literal l := by
  have houtline := outline_bind d e
  rw [h] at houtline
  cases e with
  | literal => exact h
  | _ => cases houtline

theorem columnField?_bind (d : Definition) (e : Expr) : (e.bind d).columnField? = e.fieldIn? d := by
  by_cases hc : ∃ c, e = .column c
  · obtain ⟨c, rfl⟩ := hc
    show (c.bind d).field = d.field? c.name
    rw [Column.bind]
    cases d.field? c.name with
    | some f => rfl
    | none =>
      cases hf : c.field with
      | none => simpa using hf
      | some f => simpa using Column.field_ofName c.name
  · have houtline := outline_bind d e
    have hnone : e.fieldIn? d = none := by
      cases e with
      | column c => exact absurd ⟨c, rfl⟩ hc
      | _ => rfl
    cases hb : e.bind d with
    | column =>
      rw [hb] at houtline
      cases e with
      | column c => exact absurd ⟨c, rfl⟩ hc
      | _ => cases houtline
    | _ => exact hnone.symm

theorem bind_compare {op : CompareOp} (hop : op ≠ .like) :
    (compare op e x).bind d = .compare op (e.bind d) (bindBeside d (e.fieldIn? d) x) := by
  simp only [bind]
  unfold boundCompare
  rw [columnField?_bind]
  cases e.fieldIn? d with
  | none => cases op <;> rfl
  | some f =>
    cases op with
    | like => exact absurd rfl hop
    | _ => rfl

theorem bind_between (e low high : Expr) :
    (between e low high).bind d =
      .between (e.bind d) (bindBeside d (e.fieldIn? d) low) (bindBeside d (e.fieldIn? d) high) := by
  rw [bind, boundBetween, columnField?_bind]
  cases e.fieldIn? d <;> rfl

theorem bind_isIn (e : Expr) (items : List Expr) :
    (isIn e (.collection items)).bind d =
      .isIn (e.bind d) (.collection (items.map (bindBeside d (e.fieldIn? d)))) := by
  rw [bind, boundIn, columnField?_bind, bind, bindAll_eq_map]
  cases e.fieldIn? d with
  | none => rfl
  | some f =>
    simp only [mapOperands, List.map_map]
    rfl

/-- Beside a field, binding changes the parameters only of a literal that the field reads
otherwise. -/
theorem parameters_bindBeside {field : Option Field}
    (h : ∀ f l, field = some f → x = .literal l → (l.bindTo f).bound = l.bound) :
    (bindBeside d field x).parameters = (x.bind d).parameters := by
  cases field with
  | none => rfl
  | some f =>
    rw [bindBeside]
    cases hb : x.bind d with
    | literal l =>
      have hbound := h f l rfl (eq_literal_of_bind hb)
      simp only [bindLiteral, parameters_eq, literals, List.map_cons, hbound]
    | _ => rfl

namespace Brackets

/-- Brackets around columns do not make them fields. -/
theorem fieldIn?_eq_some (h : Brackets keeps e e') (hf : e'.fieldIn? d = some f) :
    e.fieldIn? d = some f := by
  cases e' with
  | column c => rwa [h.eq_column rfl]
  | _ => cases hf

theorem parameters_bindBeside_eq (he : Brackets keeps e e') (hx : Brackets keeps x x')
    (hstays : StaysBeside d e e' x x')
    (hparameters : (x'.bind d).parameters = (x.bind d).parameters) :
    (bindBeside d (e'.fieldIn? d) x').parameters = (bindBeside d (e.fieldIn? d) x).parameters := by
  by_cases hall : ∀ f l, e.fieldIn? d = some f → x = .literal l → (l.bindTo f).bound = l.bound
  · have hall' : ∀ f l, e'.fieldIn? d = some f → x' = .literal l →
        (l.bindTo f).bound = l.bound :=
      fun f l hf hl => hall f l (he.fieldIn?_eq_some hf) (hx.eq_literal hl)
    rw [parameters_bindBeside hall', parameters_bindBeside hall, hparameters]
  · push Not at hall
    obtain ⟨f, l, hf, hl, hne⟩ := hall
    obtain ⟨rfl, rfl⟩ := hstays f l hf hl hne
    rfl

/-- Whether trees have equal parameters once they are bound, and collections item by item, since
binding a search looks at the items. -/
structure BindAlike (d : Definition) (e e' : Expr) : Prop where
  parameters : (e'.bind d).parameters = (e.bind d).parameters
  items : ∀ xs xs', e = .collection xs → e' = .collection xs' →
    List.Forall₂ (fun x x' => Brackets (KeepsBeside d) x x' ∧
      (x'.bind d).parameters = (x.bind d).parameters) xs xs'

theorem parameters_bind_node {es : List Expr} (hkeeps : KeepsBeside d e (e.withOperands es))
    (hops : List.Forall₂ (fun x x' => Brackets (KeepsBeside d) x x' ∧ BindAlike d x x')
      e.operands es) :
    ((e.withOperands es).bind d).parameters = (e.bind d).parameters := by
  have hmap : es.map (fun x => (x.bind d).parameters) =
      e.operands.map fun x => (x.bind d).parameters :=
    map_eq (hops.imp fun _ _ hx => ⟨hx.1, hx.2.parameters⟩)
  cases e with
  | literal | column | all => rfl
  | collection | call | and | or =>
    simp only [operands] at hmap
    simp [withOperands, bind, bindAll_eq_map, parameters_of_node, operands, Function.comp_def, hmap]
  | cast | not | isNull | isNotNull | paren =>
    obtain _ | ⟨⟨-, hx⟩, _ | _⟩ := hops
    simp [withOperands, bind, parameters_of_node, operands, hx.parameters]
  | arithmetic =>
    obtain _ | ⟨⟨-, hx⟩, _ | ⟨⟨-, hy⟩, _ | _⟩⟩ := hops
    simp [withOperands, bind, parameters_of_node, operands, hx.parameters, hy.parameters]
  | compare op =>
    obtain _ | ⟨⟨hl, hx⟩, _ | ⟨⟨hr, hy⟩, _ | _⟩⟩ := hops
    by_cases hop : op = .like
    · subst hop
      simp [withOperands, bind, boundCompare, parameters_of_node, operands, hx.parameters,
        hy.parameters]
    · have hbeside := hl.parameters_bindBeside_eq hr (hkeeps hop) hy.parameters
      simp [withOperands, bind_compare hop, parameters_of_node, operands, hx.parameters, hbeside]
  | between =>
    obtain _ | ⟨⟨he, hx⟩, _ | ⟨⟨hl, hy⟩, _ | ⟨⟨hh, hz⟩, _ | _⟩⟩⟩ := hops
    have hlow := he.parameters_bindBeside_eq hl hkeeps.1 hy.parameters
    have hhigh := he.parameters_bindBeside_eq hh hkeeps.2 hz.parameters
    simp [withOperands, bind_between, parameters_of_node, operands, hx.parameters, hlow, hhigh]
  | isIn =>
    obtain _ | ⟨⟨he, hx⟩, _ | ⟨⟨-, hy⟩, _ | _⟩⟩ := hops
    obtain ⟨items, items', rfl, rfl, hstays⟩ := hkeeps
    -- each item stands beside the column, so the parameters of the whole collection say too little
    obtain ⟨hlength, hitems⟩ := List.forall₂_iff_zip.1 (hy.items items items' rfl rfl)
    have hbeside := map_eq (List.forall₂_iff_zip.2 ⟨hlength, fun hmem =>
      ⟨(hitems hmem).1, he.parameters_bindBeside_eq (hitems hmem).1 (hstays _ hmem)
        (hitems hmem).2⟩⟩)
    simp [withOperands, bind_isIn, parameters_of_node, operands, hx.parameters,
      Function.comp_def, hbeside]

theorem bindAlike (h : Brackets (KeepsBeside d) e e') : BindAlike d e e' := by
  refine h.induction (fun e e' ih => ?_) fun e es hkeeps _ hops => ?_
  · refine ⟨?_, fun _ _ _ hcollection => by cases hcollection⟩
    simpa [bind, parameters_of_node, operands] using ih.parameters
  · refine ⟨parameters_bind_node hkeeps hops, ?_⟩
    rintro xs _ rfl ⟨rfl⟩
    exact hops.imp fun _ _ hx => ⟨hx.1, hx.2.parameters⟩

end Brackets

/-! ### All readers -/

/-- Brackets around parts of a tree change neither its value for a record nor its parameters. They
leave its extent as it is if none are around the distance of a spatial function, and the parameters
of the tree bound to a definition if none come between a column and its literals. -/
theorem brackets_group (e e' : Expr) :
    (∀ keeps, Brackets keeps e e' →
      (∀ r, e'.evaluate r = e.evaluate r ∧ e'.test r = e.test r) ∧
        e'.parameters = e.parameters) ∧
    (Brackets KeepsDistance e e' → e'.boundingBox = e.boundingBox) ∧
    ∀ d, Brackets (KeepsBeside d) e e' → (e'.bind d).parameters = (e.bind d).parameters := by
  refine ⟨fun keeps h => ⟨fun r => ⟨h.evaluate_eq r, ?_⟩, h.parameters_eq⟩,
    fun h => h.boundingBox_eq, fun d h => h.bindAlike.parameters⟩
  rw [test, test, h.evaluate_eq r]

/-- Brackets around the whole, around a comparison, around a spatial function and its two places,
and around a sum and its column. -/
theorem brackets_group_places :
    let d : Definition := .ofFields "/people" 0 [.ofType "age" (.integer .int)]
    let r : Record := .ofValues d [.integer .int ⟨30, by decide⟩]
    let age : Expr := .ofName "age"
    let place : Expr := .ofName "place"
    let text : Expr := .ofValue (.string "30")
    let ten : Expr := .ofValue (.integer .int ⟨10, by decide⟩)
    let point : BoundingBox := .ofCorners (.zero false) (.zero false) (.zero false) (.zero false)
    let origin : Expr := .ofValue (.box point)
    let e : Expr := .and [.compare .equal age text,
      .or [.call .withinDistance [place, origin, ten],
        .compare .less ten (.arithmetic .add age ten)]]
    let e' : Expr := .paren (.and [.paren (.compare .equal age text),
      .or [.paren (.call .withinDistance [.paren place, .paren (.paren origin), ten]),
        .compare .less (.paren ten) (.paren (.arithmetic .add (.paren age) ten))]])
    Brackets (fun x x' => KeepsDistance x x' ∧ KeepsBeside d x x') e e' ∧
      e'.test r = true ∧ e'.parameters = e.parameters ∧ e'.boundingBox = e.boundingBox ∧
      (e'.bind d).parameters =
        [.integer .int ⟨30, by decide⟩, .box point, .integer .int ⟨10, by decide⟩,
          .integer .int ⟨10, by decide⟩, .integer .int ⟨10, by decide⟩] := by
  intro d r age place text ten point origin e e'
  let keeps (x x' : Expr) : Prop := KeepsDistance x x' ∧ KeepsBeside d x x'
  have hage : Brackets keeps age age := .refl (.leaf ⟨trivial, trivial⟩ rfl)
  have hplace : Brackets keeps place place := .refl (.leaf ⟨trivial, trivial⟩ rfl)
  have htext : Brackets keeps text text := .refl (.leaf ⟨trivial, trivial⟩ rfl)
  have hten : Brackets keeps ten ten := .refl (.leaf ⟨trivial, trivial⟩ rfl)
  have horigin : Brackets keeps origin origin := .refl (.leaf ⟨trivial, trivial⟩ rfl)
  have hequal : Brackets keeps (compare .equal age text) (compare .equal age text) :=
    .ofOperands [age, text] ⟨trivial, fun _ _ _ _ _ _ => ⟨rfl, rfl⟩⟩
      (.cons hage (.cons htext .nil))
  have hnear : Brackets keeps (call .withinDistance [place, origin, ten])
      (call .withinDistance [paren place, paren (paren origin), ten]) :=
    .ofOperands [paren place, paren (paren origin), ten] ⟨fun _ => rfl, trivial⟩
      (.cons (.around hplace) (.cons (.around (.around horigin)) (.cons hten .nil)))
  have hsum : Brackets keeps (arithmetic .add age ten) (arithmetic .add (paren age) ten) :=
    .ofOperands [paren age, ten] ⟨trivial, trivial⟩ (.cons (.around hage) (.cons hten .nil))
  have hless : Brackets keeps (compare .less ten (arithmetic .add age ten))
      (compare .less (paren ten) (paren (arithmetic .add (paren age) ten))) :=
    .ofOperands [paren ten, paren (arithmetic .add (paren age) ten)]
      ⟨trivial, fun _ _ _ hfield => by cases hfield⟩
      (.cons (.around hten) (.cons (.around hsum) .nil))
  have hor : Brackets keeps (or _) (or _) :=
    .ofOperands _ ⟨trivial, trivial⟩ (.cons (.around hnear) (.cons hless .nil))
  have he : Brackets keeps e e' :=
    .around (.ofOperands _ ⟨trivial, trivial⟩ (.cons (.around hequal) (.cons hor .nil)))
  obtain ⟨hvalue, hbox, hbind⟩ := brackets_group e e'
  refine ⟨he, (((hvalue keeps he).1 r).2).trans ?_, (hvalue keeps he).2,
    hbox (he.mono fun _ _ => And.left), (hbind d (he.mono fun _ _ => And.right)).trans ?_⟩
  · decide +kernel
  · decide +kernel

/-- Brackets around a column or a literal of a comparison, which keep the literal as it is, and
brackets around a distance, which are read as no distance. -/
theorem brackets_hide_literals :
    let anywhere : Expr → Expr → Prop := fun _ _ => True
    let d : Definition := .ofFields "/people" 0 [.ofType "age" (.integer .int)]
    let age : Expr := .ofName "age"
    let text : Expr := .ofValue (.string "30")
    let equal (l r : Expr) : Expr := .compare .equal l r
    let place : Expr := .ofName "place"
    let ten : Expr := .ofValue (.integer .int ⟨10, by decide⟩)
    let point : BoundingBox := .ofCorners (.zero false) (.zero false) (.zero false) (.zero false)
    let near (distance : Expr) : Expr :=
      .call .withinDistance [place, .ofValue (.box point), distance]
    Brackets anywhere (equal age text) (equal (.paren age) text) ∧
      Brackets anywhere (equal age text) (equal age (.paren text)) ∧
      ((equal age text).bind d).parameters = [.integer .int ⟨30, by decide⟩] ∧
      ((equal (.paren age) text).bind d).parameters = [.string "30"] ∧
      ((equal age (.paren text)).bind d).parameters = [.string "30"] ∧
      Brackets anywhere (near ten) (near (.paren ten)) ∧
      (near ten).boundingBox ≠ some point ∧ (near (.paren ten)).boundingBox = some point := by
  intro anywhere d age text equal place ten point near
  have hage : Brackets anywhere age age := .refl (.leaf trivial rfl)
  have htext : Brackets anywhere text text := .refl (.leaf trivial rfl)
  have hplace : Brackets anywhere place place := .refl (.leaf trivial rfl)
  have hten : Brackets anywhere ten ten := .refl (.leaf trivial rfl)
  have hpoint : Brackets anywhere (ofValue (.box point)) (ofValue (.box point)) :=
    .refl (.leaf trivial rfl)
  have hnear : Brackets anywhere (near ten) (near (paren ten)) :=
    .ofOperands _ trivial (.cons hplace (.cons hpoint (.cons (.around hten) .nil)))
  refine ⟨.ofOperands [paren age, text] trivial (.cons (.around hage) (.cons htext .nil)),
    .ofOperands [age, paren text] trivial (.cons hage (.cons (.around htext) .nil)),
    ?_, ?_, ?_, hnear, ?_, ?_⟩ <;> decide +kernel

end TypedFilter.Expr
