import TypedFilter.Proofs.Placeholders
import TypedFilter.Proofs.Translation

/-!
Texts that stay as they are. Main statement: the text of what a clause means under a definition
means under it a tree with the same text, the same statement and the same parameters.
-/

namespace TypedFilter.Expr

/-- The text of what a clause means is a fixed point: what it means has the same statement, the same
parameters and the same text. Types of casts have to be written with bare words. -/
theorem text_is_fixed {d : Definition} (hd : d.IsClear) {clause : String} {e : Expr}
    (h : ofClause (some d) clause = .ok e) (htypes : e.Every IsTyped) :
    ∃ e', ofClause (some d) e.text = .ok e' ∧ e'.sql = e.sql ∧ e'.parameters = e.parameters ∧
      e'.text = e.text := by
  have he := isTranslated_ofClause hd h
  have hlegible : e.Every IsLegible := (htypes.and he.every).imp fun _ hx => hx.2.1 hx.1
  have hsettled : e.Every (IsSettled (some d)) := he.every.imp fun _ hx => hx.2
  refine ⟨e.flatten, ?_, write_flatten _ e, ?_, write_flatten _ e⟩
  · rw [ofClause_text_of_settled hlegible he.single hsettled, keepsKinds_flatten.unbound,
      he.free]
  · rw [parameters_eq, parameters_eq, literals_flatten]

/-- A code by its display value in another case, a negative number of a decimal field and a cast;
the brackets around the second AND go. -/
theorem text_is_fixed_codes :
    let codes : List (Value × List Value) := [
      (.integer .int ⟨1, by decide⟩, [.string "Open"]),
      (.integer .int ⟨2, by decide⟩, [.string "Sold out"])]
    let state : Field :=
      { name := "state", title := "State", type := .integer .int,
        codeTable := some (.ofCodes "states" codes) }
    let price : Field := { name := "price", title := "Price", type := .decimal }
    let d : Definition := { path := "/shop", fields := [state, price] }
    let clause := "State = 'SOLD OUT' AND (price > -1.50 AND CAST(price AS text) LIKE '7%')"
    d.IsClear ∧ ∃ e e', ofClause (some d) clause = .ok e ∧ e.Every IsTyped ∧
      ofClause (some d) e.text = .ok e' ∧ e'.sql = e.sql ∧ e'.parameters = e.parameters ∧
      e'.text = e.text := by
  intro codes state price d clause
  have hcodes : CodeTable.AreOneToOne (.integer .int) codes := by
    refine ⟨by decide, ?_, by decide +kernel, by decide +kernel⟩
    intro c hc
    rcases List.mem_pair.1 hc with rfl | rfl
    · exact ⟨"Open", rfl, by decide⟩
    · exact ⟨"Sold out", rfl, by decide⟩
  have hd : d.IsClear := by
    intro f hf
    rcases List.mem_pair.1 hf with rfl | rfl
    · exact ⟨trivial, .inr ⟨"states", codes, rfl, hcodes⟩⟩
    · exact ⟨trivial, .inl rfl⟩
  let sold : Expr := .compare .equal (ofField state)
    (.literal ⟨.integer .int ⟨2, by decide⟩, some (.string "Sold out"), some state⟩)
  let dear : Expr := .compare .greater (ofField price)
    (.literal ⟨.decimal ⟨true, 150, 2, by decide, by decide⟩, none, some price⟩)
  let seven : Expr := .compare .like (.cast (ofField price) "text") (.ofValue (.string "7%"))
  have hclause : ofClause (some d) clause = .ok (.and [sold, .and [dear, seven]]) :=
    eq_ok_of_toOption (by decide +kernel)
  have hfield : ∀ f, (ofField f).Every IsTyped := fun f => .leaf trivial rfl
  have hliteral : ∀ l, (Expr.literal l).Every IsTyped := fun l => .leaf trivial rfl
  have htext : Sql.IsTypeName "text" := by
    refine ⟨"text", [], [], ?_, by simp, rfl⟩
    intro w hw
    rw [List.mem_singleton.1 hw]
    exact ⟨by decide, by decide⟩
  have hsold : sold.Every IsTyped := .two trivial rfl (hfield state) (hliteral _)
  have hdear : dear.Every IsTyped := .two trivial rfl (hfield price) (hliteral _)
  have hseven : seven.Every IsTyped :=
    .two trivial rfl (.one htext rfl (hfield price)) (hliteral _)
  have htyped : (and [sold, .and [dear, seven]]).Every IsTyped :=
    .two trivial rfl hsold (.two trivial rfl hdear hseven)
  obtain ⟨e', h⟩ := text_is_fixed hd hclause htyped
  exact ⟨hd, _, e', hclause, htyped, h⟩

end TypedFilter.Expr
