import TypedFilter.Proofs.Definitions

/-!
Code tables that are registered for the fields of a definition. A field that has no table takes one
that is registered for its name, and from then on it has one. Main statement: the table in force for
a name after any changes is that of the field last put in under it, or else the last table that was
registered before that field, or else the first one since.
-/

namespace TypedFilter.Definition

variable {d : Definition} {f : Field} {name : String}

/-! ### Tables of fields -/

/-- The table of the field with a name, if there is such a field. -/
def tableOf? (d : Definition) (name : String) : Option (Option CodeTable) :=
  (d.field? name).map (·.codeTable)

theorem codeTable?_eq (d : Definition) (name : String) :
    d.codeTable? name = ((d.tableOf? name).join <|> d.codeTables.get? (nameKey name)) := by
  rw [codeTable?, tableOf?]
  cases d.field? name <;> rfl

theorem isSome_tableOf? (d : Definition) (name : String) :
    (d.tableOf? name).isSome = (d.fieldIndex? name).isSome := by
  rw [tableOf?, Option.isSome_map, field?]
  cases h : d.fieldIndex? name with
  | none => rfl
  | some i =>
    obtain ⟨hlt, -⟩ := exists_of_fieldIndex? h
    simp [hlt]

/-- The table that a field has once it is put in. -/
def tableFor (d : Definition) (f : Field) : Option CodeTable :=
  f.codeTable <|> d.codeTables.get? (nameKey f.name)

theorem tableOf?_append (h : d.fieldIndex? f.name = none) :
    (d.append f h).tableOf? name =
      if nameKey f.name = nameKey name then some (d.tableFor f) else d.tableOf? name := by
  have hindex : (d.append f h).fieldIndex? name =
      if nameKey f.name = nameKey name then some d.fields.length else d.fieldIndex? name := by
    rw [fieldIndex?, append, Keyed.get?_put]
    simp only [eq_comm]
    rfl
  rw [tableOf?, field?, hindex]
  split
  · rw [Option.bind_some, fields_append h, if_pos rfl]
    rfl
  · rw [tableOf?, field?]
    cases hi : d.fieldIndex? name with
    | none => rfl
    | some i =>
      obtain ⟨hlt, -⟩ := exists_of_fieldIndex? hi
      rw [Option.bind_some, Option.bind_some, fields_append h, if_neg (Nat.ne_of_lt hlt)]

theorem tableOf?_install {i : Nat} (h : d.fieldIndex? f.name = some i) :
    (d.install i f h).tableOf? name =
      if nameKey f.name = nameKey name then some (d.tableFor f) else d.tableOf? name := by
  have hindex : (d.install i f h).fieldIndex? name = d.fieldIndex? name := rfl
  rw [tableOf?, field?, hindex]
  split
  · rename_i hname
    rw [fieldIndex?, hname] at h
    rw [fieldIndex?, h, Option.bind_some, fields_install, if_pos rfl]
    rfl
  · rename_i hname
    rw [tableOf?, field?]
    cases hj : d.fieldIndex? name with
    | none => rfl
    | some j =>
      have hji : j ≠ i := by
        rintro rfl
        obtain ⟨_, hkey⟩ := exists_of_fieldIndex? h
        obtain ⟨_, hkey'⟩ := exists_of_fieldIndex? hj
        exact hname (hkey.symm.trans hkey')
      rw [Option.bind_some, Option.bind_some, fields_install h, if_neg hji]

theorem tables_registerCodeTable (d : Definition) (other : String) (table : CodeTable) (j : Nat) :
    (d.registerCodeTable other table).fields[j]?.map (·.codeTable) =
      if d.fieldIndex? other = some j then d.fields[j]?.map (·.codeTable <|> some table)
      else d.fields[j]?.map (·.codeTable) := by
  rw [registerCodeTable]
  dsimp only
  split
  · rename_i hnone
    have hnone' : d.fieldIndex? other = none := hnone
    rw [hnone', if_neg (by simp)]
  · rename_i i hi
    have hi' : d.fieldIndex? other = some i := hi
    rw [hi', List.getElem?_modify]
    by_cases hij : i = j
    · subst hij
      cases d.fields[i]? with
      | none => simp
      | some f => cases hf : f.codeTable <;> simp [hf]
    · rw [if_neg (by simpa using hij)]
      simp [hij]

theorem tableOf?_registerCodeTable (d : Definition) (other : String) (table : CodeTable)
    (name : String) :
    (d.registerCodeTable other table).tableOf? name =
      if nameKey other = nameKey name then (d.tableOf? name).map (· <|> some table)
      else d.tableOf? name := by
  have hindex : (d.registerCodeTable other table).fieldIndex? name = d.fieldIndex? name := by
    rw [fieldIndex?, (rest_registerCodeTable d other table).1, fieldIndex?]
  have hother : nameKey other = nameKey name → d.fieldIndex? other = d.fieldIndex? name :=
    fun h => by rw [fieldIndex?, h, fieldIndex?]
  rw [tableOf?, field?, hindex, tableOf?, field?]
  cases hj : d.fieldIndex? name with
  | none => simp
  | some j =>
    rw [Option.bind_some, Option.bind_some, tables_registerCodeTable]
    by_cases hname : nameKey other = nameKey name
    · rw [if_pos hname, if_pos ((hother hname).trans hj), Option.map_map]
      rfl
    · rw [if_neg hname, if_neg]
      intro hi
      obtain ⟨_, hkey⟩ := exists_of_fieldIndex? hi
      obtain ⟨_, hkey'⟩ := exists_of_fieldIndex? hj
      exact hname (hkey.symm.trans hkey')

/-! ### What changes tell of a name -/

/-- What changes tell of a name: the field that was last put in under it, and the tables that were
registered for it, up to then and since. -/
structure Trail where
  field : Option Field := none
  earlier : List CodeTable := []
  later : List CodeTable := []

namespace Trail

/-- All tables that were registered for the name, in order. -/
def tables (t : Trail) : List CodeTable :=
  t.earlier ++ t.later

/-- A field is put in under the name. -/
def put (t : Trail) (f : Field) : Trail :=
  { field := some f, earlier := t.tables }

/-- What one more change tells of a name. A field can only be replaced by another of its name. -/
def add (name : String) (t : Trail) : Change → Trail
  | .addField f => if nameKey f.name = nameKey name then t.put f else t
  | .replaceField f =>
    if nameKey f.name = nameKey name ∧ t.field.isSome then t.put f else t
  | .registerCodeTable other table =>
    if nameKey other = nameKey name then { t with later := t.later ++ [table] } else t
  | .setIdFields _ | .setDefault _ _ | .renamed _ => t

/-- The table that a field has which was put in last: its own, or else the last one that was
registered before, or else the first one since. -/
def held (t : Trail) (f : Field) : Option CodeTable :=
  f.codeTable <|> t.earlier.getLast? <|> t.later.head?

theorem held_concat (t : Trail) (f : Field) (table : CodeTable) :
    held { t with later := t.later ++ [table] } f = (t.held f <|> some table) := by
  rw [held, held]
  dsimp only
  cases f.codeTable <;> cases t.earlier.getLast? <;> cases t.later <;> rfl

end Trail

/-- What changes in a row tell of a name. -/
def trail (name : String) (changes : List Change) : Trail :=
  changes.foldl (.add name) {}

/-- Whether a definition holds of a name what its trail tells. -/
structure Follows (d : Definition) (name : String) (t : Trail) : Prop where
  registered : d.codeTables.get? (nameKey name) = t.tables.getLast?
  held : d.tableOf? name = t.field.map t.held

variable {t : Trail}

/-- A field that is put in takes the last table of its name if it has none. -/
theorem follows_put {d' : Definition} (h : d.Follows name t) (htables : d'.codeTables = d.codeTables)
    (hheld : d'.tableOf? name =
      if nameKey f.name = nameKey name then some (d.tableFor f) else d.tableOf? name) :
    d'.Follows name (if nameKey f.name = nameKey name then t.put f else t) := by
  by_cases hname : nameKey f.name = nameKey name
  · rw [if_pos hname] at hheld ⊢
    constructor
    case registered =>
      rw [htables, h.registered]
      simp [Trail.put, Trail.tables]
    case held =>
      rw [hheld, tableFor, hname, h.registered]
      simp [Trail.put, Trail.held]
  · rw [if_neg hname] at hheld ⊢
    exact ⟨htables ▸ h.registered, hheld.trans h.held⟩

theorem follows_addField (h : d.Follows name t) (f : Field) :
    (d.addField f).Follows name (t.add name (.addField f)) := by
  rw [addField]
  split
  · rename_i i hi
    exact follows_put h rfl (tableOf?_install hi)
  · rename_i hnone
    exact follows_put h rfl (tableOf?_append hnone)

theorem isSome_field (h : d.Follows name t) : t.field.isSome = (d.fieldIndex? name).isSome := by
  rw [← isSome_tableOf?, h.held, Option.isSome_map]

theorem follows_replaceField (h : d.Follows name t) (f : Field) :
    (d.changed (.replaceField f)).Follows name (t.add name (.replaceField f)) := by
  have hfield : nameKey f.name = nameKey name →
      t.field.isSome = (d.fieldIndex? f.name).isSome := by
    intro hname
    rw [isSome_field h, fieldIndex?, ← hname, fieldIndex?]
  rw [changed, change, Trail.add]
  cases hd : d.replaceField f with
  | ok d' =>
    rw [replaceField] at hd
    split at hd
    · rename_i i hi
      cases hd
      have hput : (nameKey f.name = nameKey name ∧ t.field.isSome) ↔ nameKey f.name = nameKey name :=
        and_iff_left_of_imp fun hname => by rw [hfield hname, hi, Option.isSome_some]
      simp only [hput]
      exact follows_put h rfl (tableOf?_install hi)
    · cases hd
  | error e =>
    rw [replaceField] at hd
    split at hd
    · cases hd
    · rename_i hnone
      rw [if_neg]
      · exact h
      · rintro ⟨hname, hsome⟩
        rw [hfield hname, hnone] at hsome
        cases hsome

/-- The first table for a field that has none is written onto it. -/
theorem follows_registerCodeTable (h : d.Follows name t) (other : String) (table : CodeTable) :
    (d.registerCodeTable other table).Follows name
      (t.add name (.registerCodeTable other table)) := by
  have htables : (d.registerCodeTable other table).codeTables =
      d.codeTables.put (nameKey other) table := by
    rw [registerCodeTable]
    dsimp only
    split <;> rfl
  constructor
  case registered =>
    rw [htables, Keyed.get?_put, Trail.add]
    simp only [eq_comm (a := nameKey name)]
    split
    · simp [Trail.tables]
    · exact h.registered
  case held =>
    rw [tableOf?_registerCodeTable, Trail.add, h.held]
    split
    · rw [Option.map_map]
      exact congrArg (t.field.map ·) (funext fun f => (Trail.held_concat t f table).symm)
    · rfl

theorem follows_changed (h : d.Follows name t) (c : Change) :
    (d.changed c).Follows name (t.add name c) := by
  cases c with
  | addField f => exact follows_addField h f
  | replaceField f => exact follows_replaceField h f
  | registerCodeTable other table => exact follows_registerCodeTable h other table
  | setIdFields names =>
    rw [changed]
    split
    · rename_i d' hd
      obtain ⟨places, -, rfl⟩ := exists_of_map_ok hd
      exact ⟨h.registered, h.held⟩
    · exact h
  | setDefault other v =>
    rw [changed]
    split
    · rename_i d' hd
      rw [change, setDefault] at hd
      split at hd
      · cases hd
      · obtain ⟨w, -, rfl⟩ := exists_of_map_ok hd
        exact ⟨h.registered, h.held⟩
    · exact h
  | renamed path => exact ⟨h.registered, h.held⟩

theorem follows_run (h : d.Follows name t) (changes : List Change) :
    (d.run changes).Follows name (changes.foldl (.add name) t) := by
  induction changes generalizing d t with
  | nil => exact h
  | cons c rest ih => exact ih (follows_changed h c)

theorem follows_empty (path : String) (edition : Nat) (name : String) :
    Follows { path, edition } name {} :=
  ⟨rfl, rfl⟩

/-! ### The table in force -/

theorem codeTable?_of_follows (h : d.Follows name t) :
    d.codeTable? name = (t.field.bind t.held <|> t.tables.getLast?) := by
  rw [codeTable?_eq, h.registered, h.held]
  cases t.field <;> rfl

/-- Where there is no table for the field that was put in last, there is none at all. -/
theorem Trail.held_orElse (t : Trail) (f : Field) : (t.held f <|> t.tables.getLast?) = t.held f := by
  cases hheld : t.held f with
  | some table => rfl
  | none =>
    rw [held] at hheld
    obtain ⟨-, hearlier, hlater⟩ : f.codeTable = none ∧ t.earlier = [] ∧ t.later = [] := by
      cases hf : f.codeTable <;> cases he : t.earlier.getLast? <;> cases hl : t.later <;>
        simp_all
    rw [tables, hearlier, hlater]
    rfl

/-- The table that a field takes is the last one unless another one came since. -/
theorem taken_eq_getLast?_iff {α : Type} (xs ys : List α) :
    (xs.getLast? <|> ys.head?) = (xs ++ ys).getLast? ↔
      ∀ y ∈ ys.getLast?, (xs.getLast? <|> ys.head?) = some y := by
  rw [List.getLast?_append]
  cases hy : ys.getLast? with
  | none =>
    rw [List.getLast?_eq_none_iff] at hy
    subst hy
    cases xs.getLast? <;> simp
  | some y => simp

/-- After any changes, the table in force for a name is the last one that was registered for it, as
long as no field was put in under the name. With a field, it is the table that the field had when it
was put in last, or else the last one registered before, or else the first one since. So the field's
own table, or else the last one registered, is in force if and only if the last one that was
registered since, if any, is the one that the field took. -/
theorem code_table_in_force (path : String) (edition : Nat) (changes : List Change)
    (name : String) :
    let d := run { path, edition } changes
    let t := trail name changes
    (t.field = none → d.codeTable? name = t.tables.getLast?) ∧
      (∀ f ∈ t.field,
        d.codeTable? name = (f.codeTable <|> t.earlier.getLast? <|> t.later.head?)) ∧
      (d.codeTable? name = (t.field.bind (·.codeTable) <|> t.tables.getLast?) ↔
        ∀ f ∈ t.field, f.codeTable = none → ∀ table ∈ t.later.getLast?,
          (t.earlier.getLast? <|> t.later.head?) = some table) := by
  intro d t
  have hforce := codeTable?_of_follows (follows_run (follows_empty path edition name) changes)
  change d.codeTable? name = (t.field.bind t.held <|> t.tables.getLast?) at hforce
  cases hfield : t.field with
  | none =>
    rw [hfield] at hforce
    exact ⟨fun _ => hforce, by simp, iff_of_true hforce (by simp)⟩
  | some f =>
    rw [hfield, Option.bind_some, Trail.held_orElse] at hforce
    refine ⟨by simp, ?_, ?_⟩
    · rintro g ⟨⟩
      exact hforce
    rw [hforce, Trail.held, Option.bind_some]
    cases hown : f.codeTable with
    | some own => simp [hown]
    | none =>
      have htaken := taken_eq_getLast?_iff t.earlier t.later
      simpa [hown, Trail.tables] using htaken

/-- The second table that is registered for a field has no effect until the field is replaced. -/
theorem second_code_table_is_ignored :
    let status : Field := .ofType "status" (.integer .int)
    let first : CodeTable := .ofCodes "FIRST" [(.string "1", [.string "Open"])]
    let second : CodeTable := .ofCodes "SECOND" [(.string "1", [.string "Shut"])]
    let changes : List Change := [.addField status, .registerCodeTable "status" first,
      .registerCodeTable "STATUS" second]
    let t := trail "Status" changes
    (t.field.bind (·.codeTable) <|> t.tables.getLast?) = some second ∧
      (run { path := "/shop" } changes).codeTable? "Status" = some first ∧ first ≠ second ∧
      (run { path := "/shop" } (changes ++ [.replaceField status])).codeTable? "Status" =
        some second := by
  decide +kernel

end TypedFilter.Definition
