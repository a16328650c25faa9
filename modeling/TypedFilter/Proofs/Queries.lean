import TypedFilter.Proofs.BoundClauses
import TypedFilter.Query.Basic

/-!
Queries under changes of their condition. Main statement: however a query was made and in whatever
order its definition and its condition were changed, the condition is bound to the definition, and a
clause that cannot be read leaves the query as it is.
-/

namespace TypedFilter.Query

/-! ### Making and changing queries -/

/-- A query as it is made. Names that it is made with have no double quotes of their own, and a
condition that it is made with can be bound. -/
inductive IsMade : Query → Prop
  | ofPath (path : String) : IsMade (ofPath path)
  | ofDefinition (d : Definition) : IsMade (ofDefinition d)
  | ofSortNames (path : String) (names : List String) : IsMade (ofSortNames path names)
  | ofEqual {d : Definition} {name : String} {v : Value} {q : Query}
    (hname : ¬Column.IsWrapped name) (hq : ofEqual? d name v = some q) : IsMade q
  | ofExtent {d : Definition} {box : BoundingBox} {q : Query} (hd : d.IsBuilt)
    (hname : ∀ f ∈ d.geometryField?, ¬Column.IsWrapped f.name) (hq : ofExtent? d box = some q) :
    IsMade q
  | ofAllPairs (d : Definition) {pairs : List (String × Value)}
    (hnames : ∀ p ∈ pairs, ¬Column.IsWrapped p.1) : IsMade (ofAllPairs d pairs)
  | ofAnyPair (d : Definition) {pairs : List (String × Value)}
    (hnames : ∀ p ∈ pairs, ¬Column.IsWrapped p.1) : IsMade (ofAnyPair d pairs)
  | ofCondition (path : String) {e : Expr} (he : e.Every Expr.IsBindable) :
    IsMade (ofCondition path e)

/-- A change of the definition or of the condition. -/
inductive Change where
  | definition (d : Definition)
  | condition (e : Expr)
  | clause (text : String)
  | andAlso (e : Expr)
  | orElse (e : Expr)

/-- Makes a change, if it can be made. -/
def change (q : Query) : Change → Result Query
  | .definition d => .ok (q.withDefinition d)
  | .condition e => .ok (q.withCondition e)
  | .clause text => q.withClause text
  | .andAlso e => .ok (q.andAlso e)
  | .orElse e => .ok (q.orElse e)

/-- The query after a change; one that cannot be made leaves it as it is. -/
def changed (q : Query) (c : Change) : Query :=
  match q.change c with
  | .ok q' => q'
  | .error _ => q

/-- The query after changes in a row. A copy of a query goes on from the changes so far. -/
def run (q : Query) (changes : List Change) : Query :=
  changes.foldl changed q

/-- Whether the condition that a change brings can be bound. The searches of a clause always have
collections, so that only its names matter. -/
def Change.IsBindable (d : Option Definition) : Change → Prop
  | .definition _ => True
  | .condition e | .andAlso e | .orElse e => e.Every Expr.IsBindable
  | .clause text => ∀ e, Expr.ofClause d text = .ok e → e.Every Expr.IsNamed

/-- Whether the condition that each of some changes brings can be bound, in their order. -/
def AreBindable (q : Query) : List Change → Prop
  | [] => True
  | c :: rest => c.IsBindable q.definition ∧ (q.changed c).AreBindable rest

/-- Whether the condition can be bound to any definition, and is bound to that of the query. -/
structure IsBound (q : Query) : Prop where
  bindable : q.condition.Every Expr.IsBindable
  bound : ∀ d ∈ q.definition, q.condition.Every (Expr.IsBoundTo d)

/-! ### Made queries -/

theorem isBound_of_staysBound {q : Query} {d : Definition} (hd : q.definition = some d)
    (h : q.condition.Every (Expr.StaysBound d)) : q.IsBound := by
  refine ⟨h.imp fun _ hx => hx.1, fun d' hd' => ?_⟩
  rw [hd] at hd'
  cases hd'
  exact h.imp fun _ hx => hx.2

theorem isBound_all {q : Query} (h : q.condition = .all) : q.IsBound := by
  refine ⟨?_, fun d _ => ?_⟩
  · rw [h]
    exact .leaf ⟨trivial, trivial⟩ rfl
  · rw [h]
    exact .leaf trivial rfl

theorem condition_addSortKey (q : Query) (name : String) (ascending : Bool) :
    (q.addSortKey name ascending).condition = q.condition := by
  rw [addSortKey]
  split <;> rfl

theorem condition_addSortNames (q : Query) (names : List String) :
    (q.addSortNames names).condition = q.condition := by
  induction names generalizing q with
  | nil => rfl
  | cons name rest ih => exact (ih _).trans (condition_addSortKey q name true)

theorem isBound_of_isMade {q : Query} (h : q.IsMade) : q.IsBound := by
  cases h with
  | ofPath path => exact isBound_all rfl
  | ofDefinition d => exact isBound_all rfl
  | ofSortNames path names => exact isBound_all (condition_addSortNames _ names)
  | ofEqual hname hq =>
    obtain ⟨f, hf, rfl⟩ := Option.map_eq_some_iff.1 hq
    exact isBound_of_staysBound rfl (Expr.every_fieldEqual hf hname _)
  | @ofExtent d box _ hd hname hq =>
    obtain ⟨f, hf, rfl⟩ := Option.map_eq_some_iff.1 hq
    obtain ⟨i, -, hi⟩ := Option.bind_eq_some_iff.1 hf
    have hfield := Definition.field?_of_getElem? hd hi
    refine isBound_of_staysBound rfl (.two ⟨⟨trivial, trivial⟩, trivial⟩ rfl ?_ ?_)
    · exact .leaf (Expr.staysBound_ofField hfield (hname f hf)) rfl
    · exact .leaf (Expr.staysBound_literal _) rfl
  | ofAllPairs d hnames =>
    refine isBound_of_staysBound rfl
      (.allOf (fun _ => ⟨⟨trivial, trivial⟩, trivial⟩) fun e he => ?_)
    obtain ⟨p, hp, rfl⟩ := List.mem_map.1 he
    exact Expr.every_nameValue (hnames p hp) p.2
  | ofAnyPair d hnames =>
    refine isBound_of_staysBound rfl
      (.anyOf (fun _ => ⟨⟨trivial, trivial⟩, trivial⟩) fun e he => ?_)
    obtain ⟨p, hp, rfl⟩ := List.mem_map.1 he
    exact Expr.every_nameValue (hnames p hp) p.2
  | ofCondition path he => exact ⟨he, fun d hd => by cases hd⟩

/-! ### Changed queries -/

variable {q : Query}

theorem isBound_withDefinition (h : q.IsBound) (d : Definition) : (q.withDefinition d).IsBound :=
  isBound_of_staysBound rfl (Expr.every_bind d h.bindable)

/-- A condition that comes to the query can be bound again and is bound to the definition. -/
theorem isBound_withCondition (q : Query) {e : Expr} (he : e.Every Expr.IsBindable) :
    (q.withCondition e).IsBound := by
  cases hd : q.definition with
  | none =>
    have hcondition : (q.withCondition e).condition = e := by
      simp only [withCondition, bindCondition, hd]
    refine ⟨?_, fun d hd' => ?_⟩
    · rwa [hcondition]
    · cases hd.symm.trans hd'
  | some d =>
    have hcondition : (q.withCondition e).condition = e.bind d := by
      simp only [withCondition, bindCondition, hd]
    refine isBound_of_staysBound hd ?_
    rw [hcondition]
    exact Expr.every_bind d he

theorem isBound_withClause {q' : Query} {clause : String} (h : q.withClause clause = .ok q')
    (hnames : ∀ e, Expr.ofClause q.definition clause = .ok e → e.Every Expr.IsNamed) :
    q'.IsBound := by
  obtain ⟨e, he, rfl⟩ := exists_of_map_ok h
  have hbound := Expr.every_ofClause he
  exact ⟨(hnames e he).and (hbound.imp fun _ hx => hx.1),
    fun d hd => hbound.imp fun _ hx => hx.2 d hd⟩

theorem isBound_andAlso (h : q.IsBound) {e : Expr} (he : e.Every Expr.IsBindable) :
    (q.andAlso e).IsBound := by
  have hadded := isBound_withCondition q he
  exact ⟨h.bindable.andAlso (fun _ => ⟨trivial, trivial⟩) hadded.bindable,
    fun d hd => (h.bound d hd).andAlso (fun _ => trivial) (hadded.bound d hd)⟩

theorem isBound_orElse (h : q.IsBound) {e : Expr} (he : e.Every Expr.IsBindable) :
    (q.orElse e).IsBound := by
  have hadded := isBound_withCondition q he
  exact ⟨h.bindable.orElse (fun _ => ⟨trivial, trivial⟩) hadded.bindable,
    fun d hd => (h.bound d hd).orElse (fun _ => trivial) (hadded.bound d hd)⟩

/-- Every change keeps the condition bound, whether it can be made or not. -/
theorem isBound_changed (h : q.IsBound) {c : Change} (hc : c.IsBindable q.definition) :
    (q.changed c).IsBound := by
  cases c with
  | definition d => exact isBound_withDefinition h d
  | condition e => exact isBound_withCondition q hc
  | clause text =>
    rw [changed]
    split
    · rename_i q' hq
      exact isBound_withClause hq hc
    · exact h
  | andAlso e => exact isBound_andAlso h hc
  | orElse e => exact isBound_orElse h hc

theorem isBound_run (h : q.IsBound) {changes : List Change} (hc : q.AreBindable changes) :
    (q.run changes).IsBound := by
  induction changes generalizing q with
  | nil => exact h
  | cons c rest ih => exact ih (isBound_changed h hc.1) hc.2

/-- However a query was made and changed, its condition is bound to its definition: binding it again
changes nothing, the columns that the definition has fields for are these fields, and what they are
directly compared with is bound to them. A clause that cannot be read leaves the query as it is. -/
theorem condition_is_bound (hq : q.IsMade) {changes : List Change} (hc : q.AreBindable changes) :
    (∀ d, (q.run changes).definition = some d →
      (q.run changes).condition.bind d = (q.run changes).condition ∧
        (q.run changes).condition.Every (Expr.IsBoundTo d)) ∧
    ∀ clause error, (q.run changes).withClause clause = .error error →
      (q.run changes).changed (.clause clause) = q.run changes := by
  have hbound := isBound_run (isBound_of_isMade hq) hc
  refine ⟨fun d hd => ?_, fun clause error hfails => ?_⟩
  · have hevery := hbound.bound d hd
    exact ⟨Expr.bind_of_isBoundTo hevery, hevery⟩
  · simp only [changed, change, hfails]

/-- A clause is read without a definition and bound to one after the other, which have different
types for its column; the second one has no field for the other column. -/
theorem condition_is_bound_to_second :
    let people : Definition :=
      .ofFields "/people" 0 [.ofType "Age" .decimal, .ofType "name" .string]
    let trees : Definition := .ofFields "/trees" 1 [.ofType "AGE" (.integer .int)]
    let q := ofPath "/all"
    let changes : List Change := [
      .clause "age BETWEEN 1 AND '9' OR upper(name) = 'ADA'",
      .definition people,
      .orElse (.columnEqual "name" (.integer .int ⟨7, by decide⟩)),
      .definition trees]
    q.IsMade ∧ q.AreBindable changes ∧ (q.run changes).definition = some trees ∧
      (q.run changes).condition.bind trees = (q.run changes).condition ∧
      (q.run changes).condition.Every (Expr.IsBoundTo trees) ∧
      ∃ error, (q.run changes).withClause "name = 'Ada'" = .error error ∧
        (q.run changes).changed (.clause "name = 'Ada'") = q.run changes := by
  intro people trees q changes
  let ageBetween : Expr := .between (.ofName "age") (.ofValue (.integer .int ⟨1, by decide⟩))
    (.ofValue (.string "9"))
  let isAda : Expr := .equal (.call .upper [.ofName "name"]) (.ofValue (.string "ADA"))
  have hclause : Expr.ofClause none "age BETWEEN 1 AND '9' OR upper(name) = 'ADA'" =
      .ok (.or [ageBetween, isAda]) :=
    eq_ok_of_toOption (by decide +kernel)
  have hvalue : ∀ v, (Expr.ofValue v).Every Expr.IsBindable := fun _ => .leaf ⟨trivial, trivial⟩ rfl
  have hage : (Expr.ofName "age").Every Expr.IsBindable :=
    .leaf ⟨(by decide : ¬Column.IsWrapped "age"), trivial⟩ rfl
  have hname : (Expr.ofName "name").Every Expr.IsBindable :=
    .leaf ⟨(by decide : ¬Column.IsWrapped "name"), trivial⟩ rfl
  have hbetween : ageBetween.Every Expr.IsBindable :=
    ⟨_, ⟨trivial, trivial⟩, by simp [ageBetween, Expr.operands, hage, hvalue]⟩
  have hada : isAda.Every Expr.IsBindable :=
    .two ⟨trivial, trivial⟩ rfl (.one ⟨trivial, trivial⟩ rfl hname) (hvalue _)
  have hread : (Expr.or [ageBetween, isAda]).Every Expr.IsBindable :=
    .two ⟨trivial, trivial⟩ rfl hbetween hada
  have hbindable : q.AreBindable changes := by
    refine ⟨fun e he => ?_, trivial, .two ⟨trivial, trivial⟩ rfl hname (hvalue _), trivial, trivial⟩
    cases hclause.symm.trans he
    exact hread.imp fun _ hx => hx.1
  have hdefinition : (q.run changes).definition = some trees := rfl
  obtain ⟨hbound, hkept⟩ := condition_is_bound (.ofPath "/all") hbindable
  obtain ⟨hsame, hevery⟩ := hbound trees hdefinition
  have hfails : ∃ error, (q.run changes).withClause "name = 'Ada'" = .error error := by
    have hnone : (Expr.ofClause (some trees) "name = 'Ada'").toOption = none := by decide +kernel
    rw [withClause]
    rw [hdefinition]
    cases hresult : Expr.ofClause (some trees) "name = 'Ada'" with
    | error error => exact ⟨error, rfl⟩
    | ok e =>
      rw [hresult] at hnone
      cases hnone
  obtain ⟨error, herror⟩ := hfails
  exact ⟨.ofPath "/all", hbindable, hdefinition, hsame, hevery, error, herror, hkept _ error herror⟩

end TypedFilter.Query
