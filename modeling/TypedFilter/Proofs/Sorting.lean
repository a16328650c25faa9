import TypedFilter.Proofs.SortOrders

/-!
Sorting and paging. Main statement: a query gives the records for which its condition is true, in
the order of its columns and otherwise in the order in which they came, and its pages are pieces of
that list which follow each other.
-/

namespace TypedFilter

/-! ### Sorting by any order -/

variable {order : Record → Record → Ordering}

theorem perm_insertRecord (r : Record) (sorted : List Record) :
    (insertRecord order r sorted).Perm (r :: sorted) := by
  induction sorted with
  | nil => exact .refl _
  | cons s rest ih =>
    rw [insertRecord]
    split
    · exact (ih.cons s).trans (.swap r s rest)
    · exact .refl _

theorem perm_foldl_insertRecord (records sorted : List Record) :
    (records.foldl (fun sorted r => insertRecord order r sorted) sorted).Perm
      (records ++ sorted) := by
  induction records generalizing sorted with
  | nil => exact .refl _
  | cons r rest ih =>
    refine (ih _).trans ?_
    exact ((perm_insertRecord r sorted).append_left rest).trans List.perm_middle

theorem perm_sortRecords (records : List Record) : (sortRecords order records).Perm records := by
  have h := @perm_foldl_insertRecord order records []
  rw [List.append_nil] at h
  exact (List.reverse_perm _).trans h

/-- A record is put in front of one that is not greater, and stays behind one that is. -/
theorem pairwise_insertRecord [Std.TransCmp order] (r : Record) {sorted : List Record}
    (h : sorted.Pairwise fun a b => (order b a).isLE = true) :
    (insertRecord order r sorted).Pairwise fun a b => (order b a).isLE = true := by
  induction sorted with
  | nil => exact List.pairwise_singleton _ _
  | cons s rest ih =>
    obtain ⟨hs, hrest⟩ := List.pairwise_cons.1 h
    rw [insertRecord]
    split
    · rename_i hlt
      refine List.pairwise_cons.2 ⟨fun b hb => ?_, ih hrest⟩
      rcases List.mem_cons.1 ((perm_insertRecord r rest).mem_iff.1 hb) with rfl | hb
      · rw [hlt]
        rfl
      · exact hs b hb
    · rename_i hge
      have hsr : (order s r).isLE = true := by
        have hswap : order s r = (order r s).swap := Std.OrientedCmp.eq_swap
        rw [hswap]
        cases hrs : order r s with
        | lt => exact absurd hrs hge
        | eq | gt => rfl
      refine List.pairwise_cons.2 ⟨fun b hb => ?_, h⟩
      rcases List.mem_cons.1 hb with rfl | hb
      · exact hsr
      · exact Std.TransCmp.isLE_trans (hs b hb) hsr

theorem pairwise_sortRecords [Std.TransCmp order] (records : List Record) :
    (sortRecords order records).Pairwise fun a b => (order a b).isLE = true := by
  have hrun : ∀ sorted : List Record, (sorted.Pairwise fun a b => (order b a).isLE = true) →
      (records.foldl (fun sorted r => insertRecord order r sorted) sorted).Pairwise
        fun a b => (order b a).isLE = true := by
    induction records with
    | nil => exact fun sorted h => h
    | cons r rest ih => exact fun sorted h => ih _ (pairwise_insertRecord r h)
  exact List.pairwise_reverse.2 (hrun [] .nil)

/-- Among the records that are as good as equal to one, a new one comes first. The records that it
stays behind are not among them. -/
theorem filter_insertRecord [Std.TransCmp order] (r s : Record) (sorted : List Record) :
    (insertRecord order s sorted).filter (order r · == .eq) =
      (s :: sorted).filter (order r · == .eq) := by
  induction sorted with
  | nil => rfl
  | cons t rest ih =>
    rw [insertRecord]
    split
    · rename_i hlt
      rw [List.filter_cons, ih, List.filter_cons, List.filter_cons, List.filter_cons]
      cases hrs : order r s with
      | lt | gt => rfl
      | eq =>
        have hrt : order r t = .lt := (Std.TransCmp.congr_left hrs).trans hlt
        simp [hrt]
    · rfl

/-- Records that are as good as equal stay in their order. -/
theorem filter_sortRecords [Std.TransCmp order] (r : Record) (records : List Record) :
    (sortRecords order records).filter (order r · == .eq) =
      records.filter (order r · == .eq) := by
  have hrun : ∀ sorted : List Record,
      (records.foldl (fun sorted r => insertRecord order r sorted) sorted).filter
          (order r · == .eq) =
        (records.filter (order r · == .eq)).reverse ++ sorted.filter (order r · == .eq) := by
    induction records with
    | nil => exact fun sorted => rfl
    | cons s rest ih =>
      intro sorted
      rw [List.foldl_cons, ih, filter_insertRecord, List.filter_cons, List.filter_cons]
      split <;> simp
  rw [sortRecords, List.filter_reverse, hrun [], List.filter_nil, List.append_nil,
    List.reverse_reverse]

/-- Sorting asks for the order of the records alone. -/
theorem sortRecords_congr {order' : Record → Record → Ordering} {records : List Record}
    (h : ∀ a ∈ records, ∀ b ∈ records, order a b = order' a b) :
    sortRecords order records = sortRecords order' records := by
  have hinsert : ∀ (r : Record) (sorted : List Record), (∀ s ∈ sorted, order r s = order' r s) →
      insertRecord order r sorted = insertRecord order' r sorted := by
    intro r sorted hr
    induction sorted with
    | nil => rfl
    | cons s rest ih =>
      obtain ⟨hs, hrest⟩ := List.forall_mem_cons.1 hr
      rw [insertRecord, insertRecord, hs, ih hrest]
  have hrun : ∀ rest sorted : List Record, (∀ r ∈ rest, r ∈ records) → (∀ s ∈ sorted, s ∈ records) →
      rest.foldl (fun sorted r => insertRecord order r sorted) sorted =
        rest.foldl (fun sorted r => insertRecord order' r sorted) sorted := by
    intro rest
    induction rest with
    | nil => exact fun _ _ _ => rfl
    | cons r rest ih =>
      intro sorted hrest hsorted
      obtain ⟨hr, hrest⟩ := List.forall_mem_cons.1 hrest
      rw [List.foldl_cons, List.foldl_cons, hinsert r sorted fun s hs => h r hr s (hsorted s hs)]
      refine ih _ hrest fun s hs => ?_
      rcases List.mem_cons.1 ((perm_insertRecord r sorted).mem_iff.1 hs) with rfl | hs
      · exact hr
      · exact hsorted s hs
  rw [sortRecords, sortRecords, hrun records [] (fun _ h => h) (by simp)]

/-! ### Sorting by columns -/

namespace Query

variable {q : Query} {records : List Record}

theorem perm_sort (q : Query) (records : List Record) : (q.sort records).Perm records := by
  rw [sort]
  split
  · exact .refl _
  · exact perm_sortRecords records

theorem pairwise_sort (h : ∀ k ∈ q.sortKeys, k.IsUniform records) :
    (q.sort records).Pairwise (InOrder q.sortKeys) := by
  rw [sort]
  split
  · rename_i hkeys
    rw [List.isEmpty_iff.1 hkeys]
    exact List.pairwise_of_forall fun _ _ => trivial
  · obtain ⟨order, _, horder⟩ := exists_order h
    rw [sortRecords_congr horder]
    refine (pairwise_sortRecords records).imp_of_mem fun {a b} ha hb hab => ?_
    have ha := (perm_sortRecords records).mem_iff.1 ha
    have hb := (perm_sortRecords records).mem_iff.1 hb
    rw [← isLE_orderBy_iff h ha hb, horder a ha b hb]
    exact hab

theorem filter_sort (h : ∀ k ∈ q.sortKeys, k.IsUniform records) {r : Record} (hr : r ∈ records) :
    (q.sort records).filter (tied q.sortKeys r) = records.filter (tied q.sortKeys r) := by
  obtain ⟨order, _, horder⟩ := exists_order h
  have htied : ∀ s ∈ records, tied q.sortKeys r s = (order r s == .eq) := fun s hs => by
    rw [Bool.eq_iff_iff, ← orderBy_eq_eq_iff h hr hs, horder r hr s hs, beq_iff_eq]
  rw [List.filter_congr fun s hs => htied s ((perm_sort q records).mem_iff.1 hs),
    List.filter_congr htied, sort]
  split
  · rfl
  · rw [sortRecords_congr horder, filter_sortRecords]

/-! ### Pages -/

theorem getElem?_page {α : Type} (q : Query) (items : List α) (i : Nat) :
    (q.page items)[i]? = if q.limit.all (i < ·) then items[q.offset + i]? else none := by
  rw [page]
  split
  · rename_i hlimit
    rw [hlimit, List.getElem?_drop]
    rfl
  · rename_i n hlimit
    rw [hlimit, Option.all_some, List.getElem?_take, List.getElem?_drop]
    simp only [decide_eq_true_eq]

/-- Pages of one size that follow each other. -/
theorem flatMap_pages {α : Type} (items : List α) (size pages : Nat) :
    ((List.range pages).flatMap fun i => (items.drop (i * size)).take size) =
      items.take (pages * size) := by
  induction pages with
  | zero => simp
  | succ pages ih =>
    rw [List.range_succ, List.flatMap_append, ih, List.flatMap_singleton, Nat.succ_mul,
      List.take_add]

/-- Where the values of each column to sort by belong to one class, the whole answer of a query is
made of the records for which its condition is true, stands in the order of the columns, and keeps
the order of records that these do not tell apart. A page of it begins at the offset and ends at the
limit, and pages that follow each other make the whole. -/
theorem filter_sorts_and_pages (h : ∀ k ∈ q.sortKeys, k.IsUniform records) :
    let passing := records.filter q.condition.test
    let whole := { q with offset := 0, limit := none }.filter records
    whole.Perm passing ∧ whole.Pairwise (InOrder q.sortKeys) ∧
      (∀ r ∈ passing, whole.filter (tied q.sortKeys r) = passing.filter (tied q.sortKeys r)) ∧
      (∀ offset limit i, ({ q with offset, limit }.filter records)[i]? =
        if limit.all (i < ·) then whole[offset + i]? else none) ∧
      ∀ size pages, whole.length ≤ pages * size →
        ((List.range pages).flatMap fun i =>
          { q with offset := i * size, limit := some size }.filter records) = whole := by
  intro passing whole
  have hpassing : ∀ k ∈ q.sortKeys, k.IsUniform passing := fun k hk => by
    obtain ⟨c, hc⟩ := h k hk
    exact ⟨c, fun r hr => hc r (List.mem_filter.1 hr).1⟩
  have hwhole : whole = q.sort passing := rfl
  refine ⟨perm_sort q passing, pairwise_sort hpassing, fun r hr => filter_sort hpassing hr,
    fun offset limit i => getElem?_page _ _ i, fun size pages hpages => ?_⟩
  rw [← List.take_of_length_le hpages, ← flatMap_pages]
  rfl

/-- Amounts of three types with the greatest first and what has none last, then days and timestamps.
Two records have the same amount at the same moment, and one is not among those asked for. -/
theorem filter_sorts_and_pages_mixed :
    let d : Definition := .ofFields "/sales" 0
      [.ofType "id" (.integer .int), .ofType "amount" .object, .ofType "at" .object]
    let day : Date := ⟨2024, 2, 29, by decide⟩
    let noon : Time := ⟨12, 0, 0, 0, by decide, by decide, by decide, by decide⟩
    let sale (id : Nat) (h : IntWidth.int.Holds id) (amount moment : Value) : Record :=
      .ofValues d [.integer .int ⟨id, h⟩, amount, moment]
    let two : Value := .integer .short ⟨2, by decide⟩
    let twoPointZero : Value := .decimal ⟨false, 20, 1, by decide, by decide⟩
    let three : Value := .integer .long ⟨3, by decide⟩
    let one := sale 1 (by decide) two (.timestamp ⟨day, noon⟩)
    let other := sale 2 (by decide) .null (.date day)
    let early := sale 3 (by decide) twoPointZero (.date day)
    let late := sale 4 (by decide) two (.timestamp ⟨day, .midnight⟩)
    let most := sale 5 (by decide) three .null
    let unasked := sale 6 (by decide) three (.date day)
    let q : Query :=
      { path := "/sales", sortKeys := [⟨"Amount", false⟩, ⟨"at", true⟩],
        condition := .compare .less (.ofName "id") (.ofValue (.integer .int ⟨6, by decide⟩)) }
    let records := [one, other, early, late, most, unasked]
    let whole := { q with offset := 0, limit := none }.filter records
    (∀ k ∈ q.sortKeys, k.IsUniform records) ∧ whole = [most, early, late, one, other] ∧
      whole.Perm [one, other, early, late, most] ∧ whole.Pairwise (InOrder q.sortKeys) ∧
      whole.filter (tied q.sortKeys late) = [early, late] ∧
      { q with offset := 1, limit := some 3 }.filter records = [early, late, one] ∧
      ((List.range 3).flatMap fun i =>
        { q with offset := i * 2, limit := some 2 }.filter records) = whole := by
  intro d day noon sale two twoPointZero three one other early late most unasked q records whole
  have hamounts : records.map (·.value "Amount") =
      [two, .null, twoPointZero, two, three, three] := by decide +kernel
  have hmoments : records.map (·.value "at") =
      [.timestamp ⟨day, noon⟩, .date day, .date day, .timestamp ⟨day, .midnight⟩, .null,
        .date day] := by decide +kernel
  have huniform : ∀ k ∈ q.sortKeys, k.IsUniform records := by
    have hmap : ∀ (c : SortClass) (name : String),
        (∀ v ∈ records.map (·.value name), c.Takes v) → ∀ r ∈ records, c.Takes (r.value name) :=
      fun c name h => List.forall_mem_map.1 h
    refine List.forall_mem_cons.2 ⟨⟨.number, hmap .number "Amount" ?_⟩,
      List.forall_mem_singleton.2 ⟨.moment, hmap .moment "at" ?_⟩⟩
    · rw [hamounts]
      simp [two, three, twoPointZero, SortClass.Takes.null, SortClass.Takes.integer,
        SortClass.Takes.decimal]
    · rw [hmoments]
      simp [SortClass.Takes.null, SortClass.Takes.date, SortClass.Takes.timestamp]
  have hpassing : records.filter q.condition.test = [one, other, early, late, most] := by
    decide +kernel
  have hwhole : whole = [most, early, late, one, other] := by decide +kernel
  obtain ⟨hperm, horder, htied, -, hpages⟩ := filter_sorts_and_pages huniform
  rw [hpassing] at hperm htied
  refine ⟨huniform, hwhole, hperm, horder, ?_, by decide +kernel, hpages 2 3 ?_⟩
  · exact (htied late (by simp)).trans (by decide +kernel)
  · have hlength : whole.length = 5 := by rw [hwhole]; rfl
    exact hlength ▸ by decide

end Query

end TypedFilter
