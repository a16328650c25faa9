import TypedFilter.Proofs.Names
import TypedFilter.Store

/-!
Stores under calls. Main statement: after any calls, a store holds under each path the records that
were put there with success, once each and in that order, and queries run on just these.
-/

namespace TypedFilter

/-- The query as a store runs it: on the definition that it has, or else on the one that is
registered for its path. -/
def Query.boundTo (q : Query) (registered : Definition) : Query :=
  if q.definition.isSome then q else q.withDefinition registered

namespace Store

/-! ### Calls -/

/-- A call of a store. -/
inductive Call where
  | register (d : Definition)
  | insert (r : Record)
  | query (q : Query)
  | size (path : String)

/-- What a call is answered with. -/
inductive Answer where
  | done
  | refused (cause : StoreError)
  | found (records : List Record)
  | count (n : Nat)
  deriving DecidableEq

/-- Carries out a call: the answer, and the store after it. -/
def call (s : Store) : Call → Answer × Store
  | .register d => (.done, s.register d)
  | .insert r =>
    match s.insert r with
    | .ok s' => (.done, s')
    | .error e => (.refused e, s)
  | .query q =>
    match s.query q with
    | .ok found => (.found found, s)
    | .error e => (.refused e, s)
  | .size path => (.count (s.size path), s)

/-- The store after a call. -/
def after (s : Store) (c : Call) : Store :=
  (s.call c).2

/-- The store after calls in a row, which begin with an empty one. -/
def run (calls : List Call) : Store :=
  calls.foldl after {}

/-! ### What was called -/

/-- The record that a call puts under a path, if it succeeds. -/
def taken (path : String) (s : Store) : Call → List Record
  | .insert r => if r.definition.path = path ∧ (s.call (.insert r)).1 = .done then [r] else []
  | _ => []

/-- The records that calls put under a path with success, in order. -/
def inserted (path : String) (s : Store) : List Call → List Record
  | [] => []
  | c :: rest => s.taken path c ++ (s.after c).inserted path rest

/-- The definition that a call registers. -/
def Call.registers? : Call → Option Definition
  | .register d => some d
  | _ => none

/-- The definition that calls registered for a path last. -/
def registered? (path : String) (calls : List Call) : Option Definition :=
  (calls.filterMap Call.registers?).reverse.find? (·.path = path)

theorem path_of_registered? {path : String} {calls : List Call} {d : Definition}
    (h : registered? path calls = some d) : d.path = path := by
  simpa using List.find?_some h

theorem registered?_cons (path : String) (c : Call) (rest : List Call) :
    registered? path (c :: rest) =
      (registered? path rest).or (c.registers?.filter (·.path = path)) := by
  cases c with
  | register d =>
    show ((d :: rest.filterMap Call.registers?).reverse.find? (·.path = path)) = _
    rw [List.reverse_cons, List.find?_append, List.find?_singleton]
    rfl
  | insert | query | size => exact (Option.or_none ..).symm

/-! ### What one call does -/

variable {s s' : Store} {r : Record} {q : Query} {path : String}

@[simp] theorem definition?_register (s : Store) (d : Definition) (path : String) :
    (s.register d).definition? path = if path = d.path then some d else s.definition? path :=
  Keyed.get?_put ..

/-- What a record has to be for a store to take it, and what the store is then. -/
theorem insert_eq_ok_iff : s.insert r = .ok s' ↔
    (s.definition? r.definition.path).isSome ∧ r.validate = .ok () ∧
      s' = { s with
        tables := s.tables.put r.definition.path (s.records r.definition.path ++ [r]) } := by
  rw [insert]
  cases s.definition? r.definition.path with
  | none => simp
  | some d =>
    cases r.validate with
    | error e => simp
    | ok => simp [eq_comm]

theorem done_insert_iff : (s.call (.insert r)).1 = .done ↔
    (s.definition? r.definition.path).isSome ∧ r.validate = .ok () := by
  have hok : (s.call (.insert r)).1 = .done ↔ ∃ s', s.insert r = .ok s' := by
    cases h : s.insert r <;> simp [call, h]
  simp only [hok, insert_eq_ok_iff, exists_and_left, exists_eq, and_true]

theorem after_insert (s : Store) (r : Record) :
    s.after (.insert r) =
      if (s.call (.insert r)).1 = .done then
        { s with tables := s.tables.put r.definition.path (s.records r.definition.path ++ [r]) }
      else s := by
  cases h : s.insert r with
  | ok s' => simp [after, call, h, (insert_eq_ok_iff.1 h).2.2]
  | error e => simp [after, call, h]

theorem after_query (s : Store) (q : Query) : s.after (.query q) = s := by
  cases h : s.query q <;> simp [after, call, h]

theorem records_after (s : Store) (c : Call) (path : String) :
    (s.after c).records path = s.records path ++ s.taken path c := by
  cases c with
  | insert r =>
    rw [after_insert, taken]
    by_cases hdone : (s.call (.insert r)).1 = .done
    · rw [if_pos hdone, records, Keyed.get?_put]
      by_cases hpath : path = r.definition.path
      · simp [hpath, hdone]
      · simp [records, hpath, Ne.symm hpath]
    · simp [hdone]
  | query q =>
    rw [after_query]
    exact (List.append_nil _).symm
  | register | size => exact (List.append_nil _).symm

theorem definition?_after (s : Store) (c : Call) (path : String) :
    (s.after c).definition? path =
      (c.registers?.filter (·.path = path)).or (s.definition? path) := by
  cases c with
  | register d =>
    show (s.register d).definition? path = _
    simp only [definition?_register, Call.registers?, Option.filter_some, decide_eq_true_eq,
      eq_comm (a := path)]
    split <;> rfl
  | insert r =>
    rw [after_insert]
    split <;> rfl
  | query q => rw [after_query]; rfl
  | size => rfl

theorem path_boundTo {d : Definition} (h : d.path = q.path) : (q.boundTo d).path = q.path := by
  rw [Query.boundTo]
  split
  · rfl
  · exact h

theorem label_boundTo (q : Query) (d : Definition) : (q.boundTo d).label = q.label := by
  rw [Query.boundTo]
  split <;> rfl

/-- A query gives what it filters from the records of its path, with its label if it has one. -/
theorem query_eq_ok {d : Definition} (hpath : d.path = q.path)
    (h : s.definition? q.path = some d) :
    s.query q = .ok (match q.label, (q.boundTo d).definition with
      | some label, some e =>
        relabel (e.renamed label) ((q.boundTo d).filter (s.records q.path))
      | _, _ => (q.boundTo d).filter (s.records q.path)) := by
  rw [query, h]
  show (match (q.boundTo d).label, (q.boundTo d).definition with
    | some label, some e => Except.ok (relabel (e.renamed label)
        ((q.boundTo d).filter (s.records (q.boundTo d).path)))
    | _, _ => .ok ((q.boundTo d).filter (s.records (q.boundTo d).path))) = _
  rw [label_boundTo, path_boundTo hpath]
  split <;> rfl

/-! ### What calls in a row do -/

theorem records_foldl_after (path : String) (calls : List Call) (s : Store) :
    (calls.foldl after s).records path = s.records path ++ s.inserted path calls := by
  induction calls generalizing s with
  | nil => exact (List.append_nil _).symm
  | cons c rest ih => rw [List.foldl_cons, ih, records_after, inserted, List.append_assoc]

theorem definition?_foldl_after (path : String) (calls : List Call) (s : Store) :
    (calls.foldl after s).definition? path =
      (registered? path calls).or (s.definition? path) := by
  induction calls generalizing s with
  | nil => rfl
  | cons c rest ih =>
    rw [List.foldl_cons, ih, definition?_after, registered?_cons, Option.or_assoc]

theorem records_run (path : String) (calls : List Call) :
    (run calls).records path = inserted path {} calls :=
  records_foldl_after path calls {}

/-- What was put under a path with success was valid. -/
theorem insert_mem_of_mem_inserted {calls : List Call} (h : r ∈ s.inserted path calls) :
    .insert r ∈ calls ∧ r.validate = .ok () := by
  induction calls generalizing s with
  | nil => cases h
  | cons c rest ih =>
    rcases List.mem_append.1 h with h | h
    · cases c with
      | insert r' =>
        rw [taken] at h
        split at h
        · rename_i hdone
          rw [List.mem_singleton.1 h]
          exact ⟨List.mem_cons_self .., (done_insert_iff.1 hdone.2).2⟩
        · cases h
      | register | query | size => cases h
    · exact ⟨List.mem_cons_of_mem _ (ih h).1, (ih h).2⟩

theorem definition?_run (path : String) (calls : List Call) :
    (run calls).definition? path = registered? path calls :=
  (definition?_foldl_after path calls {}).trans (Option.or_none ..)

/-! ### What queries find -/

/-- Whether a query asks for the records of its path as they are. -/
structure AsksForAll (q : Query) : Prop where
  condition : q.condition = .all
  sortKeys : q.sortKeys = []
  offset : q.offset = 0
  limit : q.limit = none

theorem asksForAll_ofPath (path : String) : AsksForAll (.ofPath path) :=
  ⟨rfl, rfl, rfl, rfl⟩

theorem AsksForAll.boundTo (h : AsksForAll q) (d : Definition) : AsksForAll (q.boundTo d) := by
  rw [Query.boundTo]
  split
  · exact h
  · refine ⟨?_, h.sortKeys, h.offset, h.limit⟩
    show q.condition.bind d = .all
    rw [h.condition]
    rfl

theorem AsksForAll.filter (h : AsksForAll q) (records : List Record) :
    q.filter records = records := by
  have htest : ∀ r ∈ records, q.condition.test r = true := fun r _ => by
    rw [h.condition]
    rfl
  rw [Query.filter, List.filter_eq_self.2 htest, Query.sort, h.sortKeys, Query.page, h.offset,
    h.limit]
  rfl

theorem fst_call_query (calls : List Call) (hlabel : q.label = none) :
    ((run calls).call (.query q)).1 =
      match registered? q.path calls with
      | some d => .found ((q.boundTo d).filter (inserted q.path {} calls))
      | none => .refused (.unregistered q.path) := by
  have hdefinition := definition?_run q.path calls
  cases hregistered : registered? q.path calls with
  | none =>
    rw [hregistered] at hdefinition
    rw [call, query, hdefinition]
  | some d =>
    rw [hregistered] at hdefinition
    rw [call, query_eq_ok (path_of_registered? hregistered) hdefinition, hlabel, records_run]

/-- Whatever was called, a record is put into the store just if a definition was registered for its
path and the record keeps its own, and there are as many records under a path as were put there with
success. A query without a label runs on these, in their order, and one that asks for all finds just
them. No other call changes what is there, and one that is refused changes nothing at all. -/
theorem run_keeps_inserted (calls : List Call) :
    let s := run calls
    (∀ r, (s.call (.insert r)).1 = .done ↔
      (registered? r.definition.path calls).isSome ∧ r.validate = .ok ()) ∧
    (∀ path, (s.call (.size path)).1 = .count (inserted path {} calls).length) ∧
    (∀ q, q.label = none → (s.call (.query q)).1 =
      match registered? q.path calls with
      | some d => .found ((q.boundTo d).filter (inserted q.path {} calls))
      | none => .refused (.unregistered q.path)) ∧
    (∀ q, q.label = none → AsksForAll q → (registered? q.path calls).isSome →
      (s.call (.query q)).1 = .found (inserted q.path {} calls)) ∧
    (∀ c path, (∀ r, c = .insert r → r.definition.path = path → (s.call c).1 ≠ .done) →
      (s.after c).records path = s.records path) ∧
    ∀ c e, (s.call c).1 = .refused e → s.after c = s := by
  intro s
  refine ⟨fun r => ?_, fun path => ?_, fun q => fst_call_query calls, fun q hlabel hall hpath => ?_,
    fun c path hother => ?_, fun c e hrefused => ?_⟩
  · rw [done_insert_iff, definition?_run]
  · rw [call, size, records_run]
  · obtain ⟨d, hd⟩ := Option.isSome_iff_exists.1 hpath
    rw [fst_call_query calls hlabel, hd]
    exact congrArg Answer.found ((hall.boundTo d).filter _)
  · rw [records_after]
    have htaken : s.taken path c = [] := by
      cases c with
      | insert r => exact if_neg fun h => hother r rfl h.1 h.2
      | register | query | size => rfl
    rw [htaken, List.append_nil]
  · cases c with
    | insert r => rw [after_insert, hrefused, if_neg (by simp)]
    | query q => exact after_query s q
    | register | size => cases hrefused

/-- Records of two paths that come in turn; one comes before its path is registered, one lacks the
amount that it needs, and a path is registered twice. -/
theorem run_keeps_inserted_interleaved :
    let shop : Definition := .ofFields "/shop" 0
      [{ Field.ofType "amount" (.integer .int) with required := true }]
    let wider : Definition := shop.addField (.ofType "state" .string)
    let bag : Definition := .ofFields "/bag" 0 [.ofType "amount" (.integer .int)]
    let of (d : Definition) (n : Nat) (h : IntWidth.int.Holds n) : Record :=
      .ofValues d [.integer .int ⟨n, h⟩]
    let one := of shop 1 (by decide)
    let inBag := of bag 2 (by decide)
    let three := of wider 3 (by decide)
    let lacking : Record := .ofDefaults shop
    let calls : List Call := [.insert one, .register shop, .insert one, .query (.ofPath "/shop"),
      .insert lacking, .register bag, .insert inBag, .register wider, .size "/bag", .insert three]
    let s := run calls
    let above : Query := .ofCondition "/shop"
      (.compare .greater (.ofName "Amount") (.ofValue (.integer .int ⟨1, by decide⟩)))
    (s.call (.size "/shop")).1 = .count 2 ∧ (s.call (.size "/bag")).1 = .count 1 ∧
      (s.call (.query (.ofPath "/shop"))).1 = .found [one, three] ∧
      (s.call (.query above)).1 = .found [three] ∧
      (s.call (.query (.ofPath "/box"))).1 = .refused (.unregistered "/box") ∧
      (s.call (.insert three)).1 = .done ∧
      (s.call (.insert lacking)).1 ≠ .done ∧
      (s.after (.insert inBag)).records "/shop" = s.records "/shop" := by
  intro shop wider bag of one inBag three lacking calls s above
  have hshop : inserted "/shop" {} calls = [one, three] := by decide +kernel
  have hbag : inserted "/bag" {} calls = [inBag] := by decide +kernel
  have hregistered : registered? "/shop" calls = some wider := by decide +kernel
  obtain ⟨hinsert, hsize, hquery, hall, hrest, -⟩ := run_keeps_inserted calls
  refine ⟨?_, ?_, ?_, ?_, ?_, ?_, ?_, ?_⟩
  · rw [hsize, hshop]
    rfl
  · rw [hsize, hbag]
    rfl
  · rw [hall _ rfl (asksForAll_ofPath _) (Option.isSome_of_eq_some hregistered)]
    exact congrArg Answer.found hshop
  · have hfound := hquery above rfl
    rw [show registered? above.path calls = some wider from hregistered,
      show inserted above.path {} calls = [one, three] from hshop] at hfound
    rw [hfound]
    decide +kernel
  · exact hquery _ rfl
  · refine (hinsert three).2 ⟨?_, eq_ok_of_toOption (by decide +kernel)⟩
    exact Option.isSome_of_eq_some hregistered
  · intro hdone
    have hkept := congrArg Except.toOption ((hinsert lacking).1 hdone).2
    exact absurd hkept (by decide +kernel)
  · exact hrest _ _ fun r hr hpath => by
      cases hr
      exact absurd hpath (by decide +kernel)

end Store

end TypedFilter
