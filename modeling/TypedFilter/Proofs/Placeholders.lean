import TypedFilter.Expr.Literals
import TypedFilter.Expr.Text
import TypedFilter.Query.Statement

/-!
The places that the text of a tree has for its literals. Main statement: what stands between the
literals depends on none of them, both texts put the literals in the same places, and the statement
of a query has the text of its condition in its WHERE and the values of the literals in the order of
the places.
-/

namespace TypedFilter

/-- A text with places in it: what stands before the first place, and what stands after each. -/
structure Template where
  before : String
  after : List String

namespace Template

/-- A piece of text, and behind it what stands in each place and the piece after that. -/
def fillFrom : String → List String → List String → String
  | s, t :: ts, d :: ds => s ++ d ++ fillFrom t ts ds
  | s, _, _ => s

/-- The text with something in each place. -/
def fill (t : Template) (shown : List String) : String :=
  fillFrom t.before t.after shown

/-- A text without places. -/
def plain (s : String) : Template :=
  ⟨s, []⟩

/-- One place, and nothing around it. -/
def hole : Template :=
  ⟨"", [""]⟩

/-- Puts a template behind a text with places. -/
def extend (tail : Template) : String → List String → Template
  | s, [] => ⟨s ++ tail.before, tail.after⟩
  | s, t :: ts => ⟨s, (extend tail t ts).before :: (extend tail t ts).after⟩

instance : Append Template :=
  ⟨fun a b => extend b a.before a.after⟩

/-- Templates one after the other, with a text between them. -/
def intercalate (separator : String) : List Template → Template
  | [] => plain ""
  | [t] => t
  | t :: ts => t ++ plain separator ++ intercalate separator ts

/-- The template has a place for each of some texts, and with these in the places it is `s`. -/
structure Filled (t : Template) (shown : List String) (s : String) : Prop where
  length_eq : t.after.length = shown.length
  fill_eq : t.fill shown = s

theorem filled_plain (s : String) : Filled (plain s) [] s :=
  ⟨rfl, rfl⟩

theorem filled_hole (d : String) : Filled hole [d] d :=
  ⟨rfl, by simp [hole, fill, fillFrom]⟩

theorem length_extend (tail : Template) (s : String) (ts : List String) :
    (extend tail s ts).after.length = ts.length + tail.after.length := by
  induction ts generalizing s with
  | nil => simp [extend]
  | cons t ts ih =>
    simp only [extend, List.length_cons, ih]
    omega

theorem fill_extend (tail : Template) (s : String) (ts ds es : List String)
    (h : ts.length = ds.length) :
    (extend tail s ts).fill (ds ++ es) = fillFrom s ts ds ++ tail.fill es := by
  induction ts generalizing s ds with
  | nil =>
    obtain rfl : ds = [] := List.eq_nil_of_length_eq_zero h.symm
    cases ha : tail.after <;> cases es <;> simp [extend, fill, fillFrom, ha, String.append_assoc]
  | cons t ts ih =>
    cases ds with
    | nil => cases h
    | cons d ds =>
      have hf := ih t ds (Nat.succ.inj h)
      simp only [fill] at hf
      simp only [extend, fill, List.cons_append, fillFrom, hf, String.append_assoc]

theorem Filled.append {a b : Template} {ds es : List String} {s s' : String}
    (ha : Filled a ds s) (hb : Filled b es s') : Filled (a ++ b) (ds ++ es) (s ++ s') := by
  refine ⟨?_, ?_⟩
  · rw [List.length_append, ← ha.length_eq, ← hb.length_eq]
    exact length_extend b a.before a.after
  · rw [← ha.fill_eq, ← hb.fill_eq]
    exact fill_extend b a.before a.after ds es ha.length_eq

/-- A text with places stays one when a text is put before it and another behind it. -/
theorem Filled.between {t : Template} {ds : List String} {s : String} (before after : String)
    (h : Filled t ds s) : Filled (plain before ++ t ++ plain after) ds (before ++ s ++ after) := by
  have h₁ := ((filled_plain before).append h).append (filled_plain after)
  rwa [List.nil_append, List.append_nil] at h₁

/-- Two texts with places stay one with a text between them. -/
theorem Filled.join {a b : Template} {ds es : List String} {s s' : String} (middle : String)
    (ha : Filled a ds s) (hb : Filled b es s') :
    Filled (a ++ plain middle ++ b) (ds ++ es) (s ++ middle ++ s') := by
  have h := (ha.append (filled_plain middle)).append hb
  rwa [List.append_nil] at h

/-- Each of some templates is filled with its own texts. -/
inductive FilledAll : List Template → List String → List String → Prop
  | nil : FilledAll [] [] []
  | cons {t : Template} {ts : List Template} {ds es : List String} {s : String}
      {ss : List String} (h : Filled t ds s) (hs : FilledAll ts es ss) :
      FilledAll (t :: ts) (ds ++ es) (s :: ss)

theorem filled_intercalate (separator : String) {ts : List Template} {ds ss : List String}
    (h : FilledAll ts ds ss) :
    Filled (intercalate separator ts) ds (String.intercalate separator ss) := by
  induction h with
  | nil => exact filled_plain ""
  | @cons t ts ds es s ss ht hs ih =>
    cases hs with
    | nil => simpa [intercalate] using ht
    | cons =>
      rw [String.intercalate_cons_cons]
      exact ht.join separator ih

end Template

namespace Expr

open Template

/-! ### The template of a tree -/

/-- The template of an operand, between brackets if it binds less tightly than its place asks
for. -/
def enclosedTemplate (least : Nat) (e : Expr) (t : Template) : Template :=
  if e.precedence < least then plain "(" ++ t ++ plain ")" else t

mutual

/-- The text of the tree with a place for each literal. -/
def template : Expr → Template
  | .literal _ => hole
  | .column c => plain (Sql.quoteName c.name)
  | .collection es => plain "(" ++ intercalate ", " (templates 0 es) ++ plain ")"
  | .cast e type => plain "CAST(" ++ template e ++ plain (" AS " ++ type ++ ")")
  | .arithmetic op l r =>
    enclosedTemplate op.precedence l (template l) ++ plain (" " ++ op.text ++ " ") ++
      enclosedTemplate (op.precedence + 1) r (template r)
  | .call f es => plain (f.name ++ "(") ++ intercalate ", " (templates 0 es) ++ plain ")"
  | .all => plain trueText
  | .and es => if es.isEmpty then plain trueText else intercalate " AND " (templates 2 es)
  | .or es => if es.isEmpty then plain trueText else intercalate " OR " (templates 1 es)
  | .not e => plain "NOT " ++ enclosedTemplate 3 e (template e)
  | .between e l h =>
    enclosedTemplate 5 e (template e) ++ plain " BETWEEN " ++ enclosedTemplate 5 l (template l) ++
      plain " AND " ++ enclosedTemplate 5 h (template h)
  | .isIn e values => enclosedTemplate 5 e (template e) ++ plain " IN " ++ template values
  | .isNull e => enclosedTemplate 5 e (template e) ++ plain " IS NULL"
  | .isNotNull e => enclosedTemplate 5 e (template e) ++ plain " IS NOT NULL"
  | .compare op l r =>
    enclosedTemplate 5 l (template l) ++ plain (" " ++ op.text ++ " ") ++
      enclosedTemplate 5 r (template r)
  | .paren e => plain "(" ++ template e ++ plain ")"

/-- The templates of operands in places that ask for a level. -/
def templates (least : Nat) : List Expr → List Template
  | [] => []
  | e :: es => enclosedTemplate least e (template e) :: templates least es

end

theorem filled_enclosed (least : Nat) (e : Expr) {t : Template} {ds : List String} {s : String}
    (h : Filled t ds s) : Filled (enclosedTemplate least e t) ds (enclosed least e s) := by
  rw [enclosedTemplate, enclosed]
  split
  · exact h.between "(" ")"
  · exact h

mutual

theorem filled_template (shown : Literal → String) (e : Expr) :
    Filled e.template (e.literals.map shown) (e.write shown) := by
  cases e with
  | literal l => exact filled_hole (shown l)
  | column c => exact filled_plain _
  | all => exact filled_plain _
  | collection es =>
    exact (filled_intercalate ", " (filled_templates shown 0 es)).between "(" ")"
  | call f es =>
    exact (filled_intercalate ", " (filled_templates shown 0 es)).between (f.name ++ "(") ")"
  | cast e type =>
    have h := (filled_template shown e).between "CAST(" (" AS " ++ type ++ ")")
    simpa only [template, literals, write, String.append_assoc] using h
  | arithmetic op l r =>
    rw [literals, List.map_append]
    have h := (filled_enclosed op.precedence l (filled_template shown l)).join
      (" " ++ op.text ++ " ") (filled_enclosed (op.precedence + 1) r (filled_template shown r))
    simpa only [template, write, String.append_assoc] using h
  | compare op l r =>
    rw [literals, List.map_append]
    have h := (filled_enclosed 5 l (filled_template shown l)).join (" " ++ op.text ++ " ")
      (filled_enclosed 5 r (filled_template shown r))
    simpa only [template, write, String.append_assoc] using h
  | and es =>
    cases es with
    | nil => exact filled_plain _
    | cons e es => exact filled_intercalate " AND " (filled_templates shown 2 (e :: es))
  | or es =>
    cases es with
    | nil => exact filled_plain _
    | cons e es => exact filled_intercalate " OR " (filled_templates shown 1 (e :: es))
  | not e => exact (filled_plain "NOT ").append (filled_enclosed 3 e (filled_template shown e))
  | between e l h =>
    rw [literals, List.map_append, List.map_append]
    exact ((filled_enclosed 5 e (filled_template shown e)).join " BETWEEN "
      (filled_enclosed 5 l (filled_template shown l))).join " AND "
        (filled_enclosed 5 h (filled_template shown h))
  | isIn e values =>
    rw [literals, List.map_append]
    exact (filled_enclosed 5 e (filled_template shown e)).join " IN "
      (filled_template shown values)
  | isNull e =>
    have h := (filled_enclosed 5 e (filled_template shown e)).append (filled_plain " IS NULL")
    rwa [List.append_nil] at h
  | isNotNull e =>
    have h := (filled_enclosed 5 e (filled_template shown e)).append
      (filled_plain " IS NOT NULL")
    rwa [List.append_nil] at h
  | paren e => exact (filled_template shown e).between "(" ")"

theorem filled_templates (shown : Literal → String) (least : Nat) (es : List Expr) :
    FilledAll (templates least es) ((literalsOf es).map shown) (writeAll shown least es) := by
  cases es with
  | nil => exact .nil
  | cons e es =>
    rw [literalsOf, List.map_append]
    exact .cons (filled_enclosed least e (filled_template shown e))
      (filled_templates shown least es)

end

/-! ### Other literals in the same places -/

theorem precedence_mapLiterals (change : Nat → Literal → Literal) (start : Nat) (e : Expr) :
    (e.mapLiterals change start).precedence = e.precedence := by
  cases e with
  | and es => cases es <;> rfl
  | or es => cases es <;> rfl
  | _ => rfl

theorem isEmpty_mapLiteralsOf (change : Nat → Literal → Literal) (start : Nat) (es : List Expr) :
    (mapLiteralsOf change start es).isEmpty = es.isEmpty := by
  cases es <;> rfl

mutual

theorem template_mapLiterals (change : Nat → Literal → Literal) (start : Nat) (e : Expr) :
    (e.mapLiterals change start).template = e.template := by
  cases e <;> simp only [mapLiterals, template, enclosedTemplate, isEmpty_mapLiteralsOf,
    precedence_mapLiterals, template_mapLiterals, templates_mapLiteralsOf]

theorem templates_mapLiteralsOf (change : Nat → Literal → Literal) (start least : Nat)
    (es : List Expr) : templates least (mapLiteralsOf change start es) = templates least es := by
  cases es <;> simp only [mapLiteralsOf, templates, enclosedTemplate, precedence_mapLiterals,
    template_mapLiterals, templates_mapLiteralsOf]

end

/-- Changing two rows of literals one after the other changes the row of both, where the second
starts at the place after the first. -/
theorem mapIdx_append_add (change : Nat → Literal → Literal) (start n : Nat)
    (ls ms : List Literal) (h : ls.length = n) :
    (ls ++ ms).mapIdx (fun i l => change (start + i) l) =
      ls.mapIdx (fun i l => change (start + i) l) ++
        ms.mapIdx (fun i l => change (start + n + i) l) := by
  subst h
  simp only [List.mapIdx_append]
  congr 2
  funext i l
  rw [Nat.add_comm i, Nat.add_assoc]

mutual

theorem literals_mapLiterals (change : Nat → Literal → Literal) (start : Nat) (e : Expr) :
    (e.mapLiterals change start).literals =
      e.literals.mapIdx fun i l => change (start + i) l := by
  cases e with
  | literal l => rfl
  | column c => rfl
  | all => rfl
  | between e l h =>
    have hel : (e.literals ++ l.literals).length = e.parameterCount + l.parameterCount := by
      rw [List.length_append, length_literals, length_literals]
    simp only [mapLiterals, literals, literals_mapLiterals, mapIdx_append_add _ _ _ _ _ hel,
      mapIdx_append_add _ _ _ _ _ (length_literals e), Nat.add_assoc]
  | _ =>
    simp only [mapLiterals, literals, literals_mapLiterals, literalsOf_mapLiteralsOf,
      mapIdx_append_add _ _ _ _ _ (length_literals _)]

theorem literalsOf_mapLiteralsOf (change : Nat → Literal → Literal) (start : Nat)
    (es : List Expr) :
    literalsOf (mapLiteralsOf change start es) =
      (literalsOf es).mapIdx fun i l => change (start + i) l := by
  cases es with
  | nil => rfl
  | cons e es =>
    simp only [mapLiteralsOf, literalsOf, literals_mapLiterals, literalsOf_mapLiteralsOf,
      mapIdx_append_add _ _ _ _ _ (length_literals e)]

end

/-- With other literals, a tree fills the same template with what is shown of these. -/
theorem filled_mapLiterals (shown : Literal → String) (change : Nat → Literal → Literal)
    (start : Nat) (e : Expr) :
    Filled e.template ((e.literals.mapIdx fun i l => change (start + i) l).map shown)
      ((e.mapLiterals change start).write shown) := by
  have h := filled_template shown (e.mapLiterals change start)
  rwa [template_mapLiterals, literals_mapLiterals] at h

/-- The statement of a tree does not show its literals. -/
theorem sql_mapLiterals (change : Nat → Literal → Literal) (start : Nat) (e : Expr) :
    (e.mapLiterals change start).sql = e.sql := by
  have hold := (filled_template (fun _ => "?") e).fill_eq
  have hnew := (filled_mapLiterals (fun _ => "?") change start e).fill_eq
  rw [List.map_const', List.length_mapIdx, ← List.map_const'] at hnew
  exact hnew.symm.trans hold

/-! ### The values for the places -/

/-- What a receiver has become after some literals, of which the first has the place `place`. -/
def receive {σ : Type} (bind : σ → Nat → Value → σ) (place : Nat) (held : σ)
    (ls : List Literal) : σ :=
  (ls.mapIdx fun i l => (place + i, l.bound)).foldl (fun held p => bind held p.1 p.2) held

section

variable {σ : Type} (bind : σ → Nat → Value → σ)

theorem receive_append (place : Nat) (held : σ) (ls ms : List Literal) :
    receive bind place held (ls ++ ms) =
      receive bind (place + ls.length) (receive bind place held ls) ms := by
  have hm : ∀ i : Nat, place + (i + ls.length) = place + ls.length + i := fun i => by omega
  simp only [receive, List.mapIdx_append, List.foldl_append, hm]

mutual

/-- A receiver is handed the literals in order, each with the place after the one before. -/
theorem bindParameters_eq (place : Nat) (held : σ) (e : Expr) :
    e.bindParameters bind place held =
      (receive bind place held e.literals, place + e.literals.length) := by
  cases e with
  | literal l => rfl
  | column c => rfl
  | all => rfl
  | _ =>
    simp only [bindParameters, literals, bindParameters_eq, bindParametersOf_eq, receive_append,
      List.length_append, Nat.add_assoc]

theorem bindParametersOf_eq (place : Nat) (held : σ) (es : List Expr) :
    bindParametersOf bind place held es =
      (receive bind place held (literalsOf es), place + (literalsOf es).length) := by
  cases es with
  | nil => rfl
  | cons e es =>
    simp only [bindParametersOf, literalsOf, bindParameters_eq, bindParametersOf_eq,
      receive_append, List.length_append, Nat.add_assoc]

end

end

theorem receive_values (place : Nat) (values : List Value) (ls : List Literal) :
    receive (fun values _ v => values ++ [v]) place values ls = values ++ ls.map Literal.bound := by
  induction ls generalizing place values with
  | nil => simp [receive]
  | cons l ls ih =>
    have h := receive_append (fun (values : List Value) _ v => values ++ [v]) place values [l] ls
    rw [List.singleton_append] at h
    rw [h, ih]
    simp [receive]

theorem addParameters_eq (values : List Value) (e : Expr) :
    e.addParameters values = values ++ e.literals.map Literal.bound := by
  rw [addParameters, bindParameters_eq, receive_values]

theorem parameters_eq (e : Expr) : e.parameters = e.literals.map Literal.bound := by
  rw [parameters, addParameters_eq, List.nil_append]

theorem literals_of_isEmptyCondition {e : Expr} (h : e.isEmptyCondition = true) :
    e.literals = [] := by
  cases e with
  | all => rfl
  | and es => rw [List.isEmpty_iff.1 h]; rfl
  | or es => rw [List.isEmpty_iff.1 h]; rfl
  | _ => cases h

end Expr

/-! ### Statements -/

namespace Query

/-- What a query selects and from where: the statement up to the place of its WHERE. -/
def headText (q : Query) : String :=
  "SELECT " ++ (if q.distinct then "DISTINCT " else "") ++ q.columns ++ q.fromText

/-- How the records are sorted, paged and locked: the statement from behind that place. -/
def tailText (q : Query) : String :=
  q.orderText ++ q.pageText ++ q.lock.text

variable {q : Query}

/-- The statement of a query with one condition or another: the head and the tail are those of the
query, and what stands between them is the WHERE of the condition. -/
theorem sql_statement_of_condition (h : q.sql = none) (e : Expr) :
    ({ q with condition := e }).statement.sql =
      q.headText ++ ({ q with condition := e }).whereText ++ q.tailText := by
  have hhead : ({ q with condition := e }).headText = q.headText := rfl
  have htail : ({ q with condition := e }).tailText = q.tailText := rfl
  rw [← hhead, ← htail]
  simp only [statement, selectSql, h, generatedSql, headText, tailText, String.append_assoc]

theorem parameters_statement (h : q.sql = none) :
    q.statement.parameters = q.parameters ++ q.condition.literals.map Literal.bound := by
  simp only [statement, h, Option.isSome_none, Bool.false_eq_true, if_false, Expr.addParameters_eq]

/-- A query whose condition is empty has no WHERE. -/
theorem whereText_of_isEmptyCondition (h : q.condition.isEmptyCondition = true) :
    q.whereText = "" := by
  rw [whereText, if_pos h]

theorem whereText_of_condition (h : ¬q.condition.isEmptyCondition = true) :
    q.whereText = " WHERE " ++ q.condition.sql := by
  rw [whereText, if_neg h]

end Query

namespace Expr

open Template

/-! ### Places and values together -/

/-- Both texts of a tree are one template, filled with question marks or with the texts of the
literals; other literals in the tree leave the template as it is. A receiver is handed one value for
each place, in the order of the places, and so is the statement of a query. In that statement the
WHERE with the template of the condition stands between a head and a tail that are the same for
every condition; an empty condition has no WHERE, and brings no values. -/
theorem text_and_parameters (e : Expr) :
    ∃ t : Template, t.after.length = e.parameterCount ∧
      e.parameterCount = e.literals.length ∧
      e.sql = t.fill (e.literals.map fun _ => "?") ∧
      e.text = t.fill (e.literals.map fun l => l.displayed.text) ∧
      (∀ change : Nat → Literal → Literal,
        (e.mapLiterals change 0).literals = e.literals.mapIdx change ∧
        (e.mapLiterals change 0).sql = t.fill (e.literals.map fun _ => "?") ∧
        (e.mapLiterals change 0).text =
          t.fill ((e.literals.mapIdx change).map fun l => l.displayed.text)) ∧
      (∀ (σ : Type) (bind : σ → Nat → Value → σ) (place : Nat) (held : σ),
        e.bindParameters bind place held =
          ((e.literals.mapIdx fun i l => (place + i, l.bound)).foldl
            (fun held p => bind held p.1 p.2) held, place + e.parameterCount)) ∧
      ∀ q : Query, q.condition = e → q.sql = none →
        (∀ other : Expr, ({ q with condition := other }).statement.sql =
          q.headText ++ ({ q with condition := other }).whereText ++ q.tailText) ∧
        if e.isEmptyCondition then
          q.whereText = "" ∧ q.statement.sql = q.headText ++ q.tailText ∧
            q.statement.parameters = q.parameters
        else
          q.whereText = " WHERE " ++ t.fill (e.literals.map fun _ => "?") ∧
            q.statement.sql =
              q.headText ++ (" WHERE " ++ t.fill (e.literals.map fun _ => "?")) ++ q.tailText ∧
            q.statement.parameters = q.parameters ++ e.literals.map Literal.bound := by
  have hsql := filled_template (fun _ => "?") e
  have htext := filled_template (fun l => l.displayed.text) e
  have hcount := length_literals e
  refine ⟨e.template, ?_, hcount.symm, hsql.fill_eq.symm, htext.fill_eq.symm, ?_, ?_, ?_⟩
  · rw [hsql.length_eq, List.length_map, hcount]
  · intro change
    have hliterals := literals_mapLiterals change 0 e
    have hother := filled_mapLiterals (fun l => l.displayed.text) change 0 e
    simp only [Nat.zero_add] at hliterals hother
    exact ⟨hliterals, (sql_mapLiterals change 0 e).trans hsql.fill_eq.symm, hother.fill_eq.symm⟩
  · intro σ bind place held
    rw [bindParameters_eq, hcount, receive]
  · rintro q rfl hq
    have hstatement := Query.sql_statement_of_condition hq
    have hthis : q.statement.sql = q.headText ++ q.whereText ++ q.tailText :=
      hstatement q.condition
    have hparameters := Query.parameters_statement hq
    refine ⟨hstatement, ?_⟩
    split
    · rename_i he
      have hnone := Query.whereText_of_isEmptyCondition he
      rw [hnone, String.append_empty] at hthis
      rw [literals_of_isEmptyCondition he, List.map_nil, List.append_nil] at hparameters
      exact ⟨hnone, hthis, hparameters⟩
    · rename_i he
      have hwhere : q.whereText =
          " WHERE " ++ q.condition.template.fill (q.condition.literals.map fun _ => "?") :=
        hsql.fill_eq ▸ Query.whereText_of_condition he
      exact ⟨hwhere, hwhere ▸ hthis, hparameters⟩

/-- A search in a list beside a negation, in a statement that goes on behind its WHERE: the three
literals stand behind the added parameter. An OR of nothing leaves the WHERE out. -/
theorem text_and_parameters_isIn_and_not :
    let e : Expr := .and [
      .isIn (.ofName "a") (.collection [.ofValue (.string "x"), .ofValue .null]),
      .not (.compare .equal (.ofName "b") (.ofValue (.boolean true)))]
    let q : Query :=
      { path := "p", condition := e, sortKeys := [⟨"a", true⟩], limit := some 2,
        parameters := [.string "first"] }
    let all : Query := { q with condition := .or [] }
    q.condition = e ∧ q.sql = none ∧
      (∃ t : Template, t.after.length = 3 ∧
        q.whereText = " WHERE " ++ t.fill ["?", "?", "?"] ∧
        q.statement.sql = "SELECT * FROM p" ++ (" WHERE " ++ t.fill ["?", "?", "?"]) ++
          " ORDER BY a LIMIT 2") ∧
      q.statement.parameters = [.string "first", .string "x", .null, .boolean true] ∧
      all.statement.sql = "SELECT * FROM p" ++ " ORDER BY a LIMIT 2" ∧
      all.statement.parameters = [.string "first"] := by
  intro e q all
  obtain ⟨t, hlen, -, -, -, -, -, hq⟩ := text_and_parameters e
  obtain ⟨_, -, -, -, -, -, -, hall⟩ := text_and_parameters (.or [])
  have hhead : q.headText = "SELECT * FROM p" := by decide +kernel
  have htail : q.tailText = " ORDER BY a LIMIT 2" := by decide +kernel
  obtain ⟨-, h⟩ := hq q rfl rfl
  obtain ⟨-, hnone⟩ := hall all rfl rfl
  rw [if_neg (by decide)] at h
  rw [if_pos (by decide)] at hnone
  obtain ⟨hwhere, hsql, hparameters⟩ := h
  exact ⟨rfl, rfl, ⟨t, hlen, hwhere, hhead ▸ htail ▸ hsql⟩, hparameters,
    hhead ▸ htail ▸ hnone.2.1, hnone.2.2⟩

end Expr

end TypedFilter
