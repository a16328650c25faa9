import TypedFilter.Proofs.StoredOrders
import TypedFilter.Schema.Description

/-!
The constraints of a field without a code table. Main statement: what the field takes is a value
where one is required, is no longer than a text may be and is one of the values that are allowed;
and a number keeps a bound if and only if it has an order with it, which a number that is undefined
does not have.
-/

namespace TypedFilter

/-! ### Numbers that are not undefined -/

namespace Binary

variable {f : Format} {x y : Binary f}

theorem isNan_pack (negative : Bool) (m : Nat) (e : Int) : (pack f negative m e).isNan = false := by
  rw [pack]
  split <;> rfl

theorem isNegative_pack (negative : Bool) (m : Nat) (e : Int) :
    (pack f negative m e).isNegative = negative := by
  rw [pack]
  split <;> rfl

theorem isNan_ofRatio (negative : Bool) (num den : Nat) :
    (ofRatio f negative num den).isNan = false := by
  rw [ofRatio]
  split
  · exact isNan_pack _ _ _
  · dsimp only
    split <;> exact isNan_pack _ _ _

theorem isNegative_ofRatio (negative : Bool) (num den : Nat) :
    (ofRatio f negative num den).isNegative = negative := by
  rw [ofRatio]
  split
  · exact isNegative_pack _ _ _
  · dsimp only
    split <;> exact isNegative_pack _ _ _

theorem isNan_neg (x : Binary f) : x.neg.isNan = x.isNan := by
  cases x <;> rfl

theorem isNan_toWhole (w : Whole) (x : Binary f) : (x.toWhole w).isNan = x.isNan := by
  cases x with
  | nan | infinite => rfl
  | finite negative m e h =>
    rw [toWhole]
    split
    · rfl
    · exact isNan_ofRatio _ _ _

/-- Whether a number can be divided by. -/
def IsDivisor (x : Binary f) : Prop :=
  x.isFinite = true ∧ x.isZero = false

theorem isNan_mul (hx : x.isNan = false) (hy : y.IsDivisor) : (x.mul y).isNan = false := by
  obtain ⟨hfinite, hzero⟩ := hy
  cases y with
  | nan | infinite => cases hfinite
  | finite negative' m' e' h' =>
    cases x with
    | nan => cases hx
    | infinite negative =>
      simp only [mul, hzero]
      rfl
    | finite negative m e h => exact isNan_ofRatio _ _ _

theorem isNan_div (hx : x.isNan = false) (hy : y.IsDivisor) : (x.div y).isNan = false := by
  obtain ⟨hfinite, hzero⟩ := hy
  cases y with
  | nan | infinite => cases hfinite
  | finite negative' m' e' h' =>
    cases x with
    | nan => cases hx
    | infinite negative => rfl
    | finite negative m e h =>
      simp only [div, hzero]
      exact isNan_ofRatio _ _ _

theorem isNegative_div (hx : x.isNan = false) (hy : y.IsDivisor) :
    (x.div y).isNegative = (x.isNegative != y.isNegative) := by
  obtain ⟨hfinite, hzero⟩ := hy
  cases y with
  | nan | infinite => cases hfinite
  | finite negative' m' e' h' =>
    cases x with
    | nan => cases hx
    | infinite negative => rfl
    | finite negative m e h =>
      simp only [div, hzero]
      exact isNegative_ofRatio _ _ _

/-- Numbers of one sign have a sum. -/
theorem isNan_add (hx : x.isNan = false) (hy : y.isNan = false)
    (hsign : x.isNegative = y.isNegative) : (x.add y).isNan = false := by
  cases x with
  | nan => cases hx
  | infinite a =>
    cases y with
    | nan => cases hy
    | infinite b =>
      cases hsign
      rw [add, if_pos rfl]
      rfl
    | finite => rfl
  | finite =>
    cases y with
    | nan => cases hy
    | infinite b => rfl
    | finite =>
      show (ofUnits f _ _).isNan = false
      rw [ofUnits]
      split
      · exact isNan_pack _ _ _
      · exact isNan_ofRatio _ _ _

end Binary

theorem Decimal.isNan_toDouble (d : Decimal) : d.toDouble.isNan = false := by
  have hpower : ∀ scale : Fin 29, (Binary.ofInt .double (pow10 scale)).IsDivisor ∧
      (Binary.ofInt .double (pow10 scale)).isNegative = false := by
    unfold Binary.IsDivisor
    decide +kernel
  obtain ⟨hdivisor, hsign⟩ := hpower ⟨d.scale, Nat.lt_succ_of_le d.scale_le⟩
  have hnat (n : Nat) : (Binary.ofInt .double n).isNan = false ∧
      (Binary.ofInt .double n).isNegative = false :=
    ⟨Binary.isNan_ofRatio _ _ _, Binary.isNegative_ofRatio _ _ _⟩
  have hwhole := hnat (d.mantissa / pow10 d.scale)
  have hrest := hnat (d.mantissa % pow10 d.scale)
  have hfraction := Binary.isNan_div hrest.1 hdivisor
  have hfractionSign := Binary.isNegative_div hrest.1 hdivisor
  rw [hrest.2, hsign] at hfractionSign
  have hsum := Binary.isNan_add hwhole.1 hfraction (hwhole.2.trans hfractionSign.symm)
  have hrounded := Binary.isNan_div
    ((Binary.isNan_toWhole .round _).trans (Binary.isNan_mul hsum hdivisor)) hdivisor
  rw [toDouble]
  split
  · exact Binary.isNan_ofRatio _ _ _
  · dsimp only
    split
    · rw [Binary.isNan_neg]
      split
      · exact hwhole.1
      · exact hrounded
    · split
      · exact hwhole.1
      · exact hrounded

namespace Value

variable {v w bound : Value} {t : DataType}

theorem exists_toDouble? (hv : v.isNumeric = true) :
    ∃ y : Double, v.toDouble? = some y ∧ y.isNan = v.isNan := by
  cases v with
  | integer w n => exact ⟨_, rfl, Binary.isNan_ofRatio _ _ _⟩
  | float x =>
    refine ⟨_, rfl, ?_⟩
    cases hx : x.isNan with
    | false => exact (isNan_convert hx).trans hx.symm
    | true =>
      cases x with
      | nan => rfl
      | infinite | finite => cases hx
  | double x => exact ⟨x, rfl, rfl⟩
  | decimal d => exact ⟨_, rfl, d.isNan_toDouble⟩
  | _ => cases hv

theorem toDecimal?_of_isNan (h : v.isNan = true) : v.toDecimal? = none := by
  cases v with
  | float x =>
    cases x with
    | nan => rfl
    | infinite | finite => cases h
  | double x =>
    cases x with
    | nan => rfl
    | infinite | finite => cases h
  | _ => cases h

/-- Numbers are ordered unless one of them is undefined. -/
theorem isSome_compareNumbers?_iff (hv : v.isNumeric = true) (hw : w.isNumeric = true) :
    (v.compareNumbers? w).isSome = true ↔ v.isNan = false ∧ w.isNan = false := by
  obtain ⟨x, hx, hxnan⟩ := exists_toDouble? hv
  obtain ⟨y, hy, hynan⟩ := exists_toDouble? hw
  have hdoubles : (x.compare? y).isSome = true ↔ x.isNan = false ∧ y.isNan = false := by
    cases hxn : x.isNan with
    | true =>
      cases x with
      | nan => simp [Binary.compare?]
      | infinite | finite => cases hxn
    | false =>
      cases hyn : y.isNan with
      | true =>
        cases y with
        | nan => cases x <;> simp [Binary.compare?]
        | infinite | finite => cases hyn
      | false => simp [Binary.compare?_eq_compare_rank hxn hyn]
  rw [hxnan, hynan] at hdoubles
  rw [compareNumbers?]
  cases hvd : v.toDecimal? with
  | none => simpa only [hx, hy] using hdoubles
  | some c =>
    cases hwd : w.toDecimal? with
    | none => simpa only [hx, hy] using hdoubles
    | some d =>
      have hvn : v.isNan ≠ true := fun h => by
        rw [toDecimal?_of_isNan h] at hvd
        cases hvd
      have hwn : w.isNan ≠ true := fun h => by
        rw [toDecimal?_of_isNan h] at hwd
        cases hwd
      exact iff_of_true rfl ⟨Bool.not_eq_true _ ▸ hvn, Bool.not_eq_true _ ▸ hwn⟩

/-! ### Numbers and bounds -/

/-- Whether a number can be held against a bound: the bound is text, or both are numbers and neither
of them is undefined. -/
def HasOrderWith (v bound : Value) : Prop :=
  match bound with
  | .string _ => True
  | bound => bound.isNumeric = true ∧ v.isNan = false ∧ bound.isNan = false

theorem dataType?_of_holds (ht : t.isNumeric = true) (h : t.holds v = true) :
    v.dataType? = some t := by
  cases t with
  | integer | float | double | decimal => exact of_decide_eq_true h
  | _ => cases ht

theorem isNumeric_of_holds (ht : t.isNumeric = true) (h : t.holds v = true) :
    v.isNumeric = true := by
  have htype := dataType?_of_holds ht h
  cases v with
  | integer | float | double | decimal => rfl
  | null => cases htype
  | _ =>
    cases htype
    cases ht

/-- A text that a type of numbers leaves as it is is none that it converts. -/
theorem convert_ne_ok_of_gives_string {s : String} (ht : t.isNumeric = true)
    (h : t.Gives (.string s)) (u : Value) : t.convert (.string s) ≠ .ok u := by
  intro hu
  obtain rfl := h.eq_of_convert hu
  rcases DataType.eq_null_or_holds_of_convert hu with hnull | hholds
  · cases hnull
  · cases isNumeric_of_holds ht hholds

/-- A number of a type has an order with a bound that the type made just where both can be held
against each other. -/
theorem isSome_compare?_iff (ht : t.isNumeric = true) (hv : t.holds v = true)
    (hbound : t.Gives bound) : (v.compare? bound).isSome = true ↔ v.HasOrderWith bound := by
  have hnumber := isNumeric_of_holds ht hv
  cases hb : bound.isNumeric with
  | true =>
    rw [compare?_of_isNumeric hnumber hb, isSome_compareNumbers?_iff hnumber hb]
    cases bound with
    | integer | float | double | decimal => exact ⟨fun h => ⟨rfl, h⟩, fun h => h.2⟩
    | _ => cases hb
  | false =>
    cases bound with
    | integer | float | double | decimal => cases hb
    | string s =>
      rw [DataType.compare?_string (dataType?_of_holds ht hv)
        (convert_ne_ok_of_gives_string ht hbound)]
      exact iff_of_true rfl trivial
    | _ =>
      refine iff_of_false ?_ fun h => Bool.false_ne_true h.1
      cases v with
      | integer | float | double | decimal => exact Bool.false_ne_true
      | _ => cases hnumber

end Value

/-! ### Fields -/

namespace Field

variable {f : Field} {u v w bound : Value}

/-- Whether the bounds, if there are any, are as the type makes them. -/
structure IsBounded (f : Field) : Prop where
  minimum : ∀ v, f.minimum = some v → f.type.Gives v
  maximum : ∀ v, f.maximum = some v → f.type.Gives v

theorem isBounded_ofType (name : String) (type : DataType) : (ofType name type).IsBounded :=
  ⟨nofun, nofun⟩

theorem IsBounded.withMinimum (h : f.IsBounded) (v : Value) : (f.withMinimum v).IsBounded := by
  refine ⟨?_, h.maximum⟩
  rintro w ⟨⟩
  exact ⟨v, rfl⟩

theorem IsBounded.withMaximum (h : f.IsBounded) (v : Value) : (f.withMaximum v).IsBounded := by
  refine ⟨h.minimum, ?_⟩
  rintro w ⟨⟩
  exact ⟨v, rfl⟩

theorem IsBounded.withDefault (h : f.IsBounded) (v : Value) : (f.withDefault v).IsBounded :=
  ⟨h.minimum, h.maximum⟩

theorem IsBounded.foldl_withAllowed (h : f.IsBounded) (items : List Json) :
    (items.foldl (fun f j => f.withAllowed (.ofJson j)) f).IsBounded := by
  induction items generalizing f with
  | nil => exact h
  | cons j items ih => exact ih ⟨h.minimum, h.maximum⟩

/-- A part of a description that may be left out keeps the bounds in either case. -/
theorem IsBounded.setTo? {set : Field → Value → Field}
    (hset : ∀ g v, g.IsBounded → (set g v).IsBounded) (h : f.IsBounded) (o : Option Json) :
    (match o with
      | none => f
      | some j => set f (.ofJson j)).IsBounded := by
  cases o with
  | none => exact h
  | some j => exact hset f _ h

/-- The bounds of a field that is described are as its type makes them. -/
theorem isBounded_of_description {d : FieldDescription} (h : d.field = .ok f) : f.IsBounded := by
  unfold FieldDescription.field at h
  generalize DataType.ofName? d.type = type? at h
  cases type? with
  | none => cases h
  | some type =>
    have hplain : { ofType d.name type with
        length := d.length.getD 0
        scale := d.scale.getD 0
        required := d.required
        title := d.title.getD (ofType d.name type).title
        description := d.description }.IsBounded :=
      ⟨(isBounded_ofType d.name type).minimum, (isBounded_ofType d.name type).maximum⟩
    have hminimum := hplain.setTo? (fun _ v hg => hg.withMinimum v) d.minimum
    have hmaximum := hminimum.setTo? (fun _ v hg => hg.withMaximum v) d.maximum
    have hallowed := (hmaximum.setTo? (fun _ v hg => hg.withDefault v) d.default).foldl_withAllowed
      d.allowed
    rw [← Except.ok.inj h]
    exact ⟨hallowed.minimum, hallowed.maximum⟩

/-! ### Checks -/

theorem checkMinimum_eq_ok_iff :
    f.checkMinimum v = .ok () ↔ ∀ m, f.minimum = some m → v.compare? m ≠ some .lt := by
  rw [checkMinimum]
  cases f.minimum with
  | none => simp
  | some m =>
    simp only [reject]
    split <;> simp_all

theorem checkMaximum_eq_ok_iff :
    f.checkMaximum v = .ok () ↔ ∀ m, f.maximum = some m → v.compare? m ≠ some .gt := by
  rw [checkMaximum]
  cases f.maximum with
  | none => simp
  | some m =>
    simp only [reject]
    split <;> simp_all

theorem checkLength_eq_ok_iff {s : String} :
    f.checkLength (.string s) = .ok () ↔ f.length ≠ 0 → s.length ≤ f.length.toNat := by
  rw [checkLength]
  split <;> simp_all [reject]

theorem checkAllowed_eq_ok_iff :
    f.checkAllowed v = .ok () ↔ f.allowed ≠ [] → ∃ a ∈ f.allowed, a.1.equal v = true := by
  rw [checkAllowed]
  split
  · rename_i h
    rw [Bool.or_eq_true, List.isEmpty_iff, List.any_eq_true] at h
    exact iff_of_true rfl h.resolve_left
  · rename_i h
    rw [Bool.or_eq_true, List.isEmpty_iff, List.any_eq_true, not_or] at h
    exact iff_of_false nofun fun hallowed => h.2 (hallowed h.1)

theorem seq_eq_ok_iff {x y : Result Unit} : (do x; y) = .ok () ↔ x = .ok () ∧ y = .ok () := by
  rw [bind_eq_ok_iff]
  exact ⟨fun ⟨(), h⟩ => h, fun h => ⟨(), h⟩⟩

/-- A value keeps the constraints of a field without a code table if it keeps those of numbers or
those of other values, and is allowed. -/
theorem check_eq_ok_iff (hcodes : f.codeTable = none) :
    f.check v = .ok () ↔
      (if f.type.isNumeric then f.checkDigits v = .ok () ∧ f.checkMinimum v = .ok () ∧
          f.checkMaximum v = .ok ()
        else f.checkLength v = .ok ()) ∧ f.checkAllowed v = .ok () := by
  rw [check, hcodes]
  dsimp only
  split
  · rw [seq_eq_ok_iff, seq_eq_ok_iff, seq_eq_ok_iff, and_assoc, and_assoc]
  · exact seq_eq_ok_iff

/-- A number keeps its bounds unless it has no order with them. -/
theorem compare?_of_check (hbounded : f.IsBounded) (hcodes : f.codeTable = none)
    (hnumeric : f.type.isNumeric = true) (hholds : f.type.holds w = true)
    (h : f.check w = .ok ()) :
    (∀ m, f.minimum = some m →
      ((w.compare? m = some .eq ∨ w.compare? m = some .gt) ↔ w.HasOrderWith m)) ∧
    ∀ m, f.maximum = some m →
      ((w.compare? m = some .eq ∨ w.compare? m = some .lt) ↔ w.HasOrderWith m) := by
  have hcheck := ((check_eq_ok_iff hcodes).1 h).1
  rw [if_pos hnumeric] at hcheck
  obtain ⟨-, hmin, hmax⟩ := hcheck
  constructor
  · intro m hm
    rw [← Value.isSome_compare?_iff hnumeric hholds (hbounded.minimum m hm)]
    have hnot := checkMinimum_eq_ok_iff.1 hmin m hm
    cases hc : w.compare? m with
    | none => simp
    | some o => cases o <;> simp_all
  · intro m hm
    rw [← Value.isSome_compare?_iff hnumeric hholds (hbounded.maximum m hm)]
    have hnot := checkMaximum_eq_ok_iff.1 hmax m hm
    cases hc : w.compare? m with
    | none => simp
    | some o => cases o <;> simp_all

/-- What a field without a code table takes is a value where one is required. A text has no more
characters than the length, where there is one, and a value is equal to one of those that are
allowed, where there are any. A number keeps its bounds, the least and the greatest, if and only if
it has an order with them: they are texts, or numbers that are not undefined, as it is itself. -/
theorem taken_values_keep_constraints (hbounded : f.IsBounded) (hcodes : f.codeTable = none)
    (h : f.validate v = .ok w) :
    (f.required = true → w.isNull = false) ∧
    (w.isNull = false →
      (f.type.isNumeric = true →
        (∀ m, f.minimum = some m →
          ((w.compare? m = some .eq ∨ w.compare? m = some .gt) ↔ w.HasOrderWith m)) ∧
        ∀ m, f.maximum = some m →
          ((w.compare? m = some .eq ∨ w.compare? m = some .lt) ↔ w.HasOrderWith m)) ∧
      (∀ s, w = .string s → f.length ≠ 0 → s.length ≤ f.length.toNat) ∧
      (f.allowed ≠ [] → ∃ a ∈ f.allowed, a.1.equal w = true)) := by
  obtain ⟨hstore, hkeeps⟩ := validate_eq_ok_iff.1 h
  constructor
  · intro hrequired
    rw [Bool.eq_false_iff]
    intro hnull
    rw [Keeps, if_pos hnull, hrequired] at hkeeps
    cases hkeeps
  · intro hnull
    have hcheck := (store_and_check_of_validate h).2 hnull
    have hholds := holds_of_store hstore hnull
    obtain ⟨hkind, hallowed⟩ := (check_eq_ok_iff hcodes).1 hcheck
    refine ⟨fun hnumeric => compare?_of_check hbounded hcodes hnumeric hholds hcheck, ?_,
      checkAllowed_eq_ok_iff.1 hallowed⟩
    rintro s rfl hlength
    cases hnumeric : f.type.isNumeric with
    | true => cases Value.isNumeric_of_holds hnumeric hholds
    | false =>
      rw [hnumeric, if_neg Bool.false_ne_true] at hkind
      exact checkLength_eq_ok_iff.1 hkind hlength

/-- A price in bounds that were given as a whole number and as text, out of two that are allowed. -/
theorem taken_values_keep_constraints_price :
    let zero : Value := .integer .int ⟨0, by decide⟩
    let least : Value := .decimal ⟨false, 0, 0, by decide, by decide⟩
    let greatest : Value := .decimal ⟨false, 100, 0, by decide, by decide⟩
    let bounded := ((Field.ofType "price" .decimal).withMinimum zero).withMaximum (.string " 100 ")
    let price : Field := { ((bounded.withAllowed (.string "9.99")).withAllowed (.string "12.5")) with
      length := 4, scale := 2, required := true }
    let half : Value := .decimal ⟨false, 1250, 2, by decide, by decide⟩
    price.IsBounded ∧ price.codeTable = none ∧ price.validate (.string "12.50") = .ok half ∧
      price.minimum = some least ∧ half.compare? least = some .gt ∧
      price.maximum = some greatest ∧ half.compare? greatest = some .lt ∧
      ∃ a ∈ price.allowed, a.1.equal half = true := by
  intro zero least greatest bounded price half
  have hbounded : price.IsBounded :=
    have h := ((isBounded_ofType "price" .decimal).withMinimum zero).withMaximum (.string " 100 ")
    ⟨h.minimum, h.maximum⟩
  have hminimum : price.minimum = some least := by decide +kernel
  have hmaximum : price.maximum = some greatest := by decide +kernel
  have htaken : price.validate (.string "12.50") = .ok half := eq_ok_of_toOption (by decide +kernel)
  obtain ⟨-, hkept⟩ := taken_values_keep_constraints hbounded rfl htaken
  obtain ⟨hbounds, -, hallowed⟩ := hkept rfl
  obtain ⟨hleast, hgreatest⟩ := hbounds rfl
  have hunequal : half.compare? least ≠ some .eq ∧ half.compare? greatest ≠ some .eq := by
    decide +kernel
  have horders : half.HasOrderWith least ∧ half.HasOrderWith greatest :=
    ⟨⟨rfl, rfl, rfl⟩, ⟨rfl, rfl, rfl⟩⟩
  exact ⟨hbounded, rfl, htaken, hminimum,
    ((hleast least hminimum).2 horders.1).resolve_left hunequal.1, hmaximum,
    ((hgreatest greatest hmaximum).2 horders.2).resolve_left hunequal.2, hallowed (by decide +kernel)⟩

/-- An undefined number passes its bounds, and every number passes a bound that is a day: where there
is no order, none is the wrong one. -/
theorem unordered_values_pass_bounds :
    let number (n : Nat) (h : IntWidth.int.Holds n) : Value := .integer .int ⟨n, h⟩
    let ratio := ((Field.ofType "ratio" .double).withMinimum (number 0 (by decide))).withMaximum
      (number 10 (by decide))
    let day : Value := .date ⟨2024, 1, 5, by decide⟩
    let size := (Field.ofType "size" (.integer .int)).withMinimum day
    let zero : Value := .double (.zero false)
    let five := number 5 (by decide)
    (ratio.IsBounded ∧ ratio.codeTable = none ∧ ratio.minimum = some zero ∧
      ratio.validate (.string "NaN") = .ok (.double .nan) ∧
      (Value.double .nan).compare? zero = none) ∧
    size.IsBounded ∧ size.codeTable = none ∧ size.minimum = some day ∧
      size.validate five = .ok five ∧ five.compare? day = none := by
  intro number ratio day size zero five
  have hratio : ratio.IsBounded :=
    ((isBounded_ofType "ratio" .double).withMinimum _).withMaximum _
  have hsize : size.IsBounded := (isBounded_ofType "size" (.integer .int)).withMinimum day
  exact ⟨⟨hratio, rfl, by decide +kernel, eq_ok_of_toOption (by decide +kernel), by decide +kernel⟩,
    hsize, rfl, by decide +kernel, eq_ok_of_toOption (by decide +kernel), by decide +kernel⟩

end Field

end TypedFilter
