import TypedFilter.Proofs.CalendarText

/-!
The order of texts that are written for values. Main statement: days of years with four digits are
ordered as their texts are.
-/

namespace TypedFilter

/-! ### Rows of characters -/

theorem append_lt_append {cs ds : List Char} (h : cs < ds) (hlen : cs.length = ds.length)
    (es fs : List Char) : cs ++ es < ds ++ fs := by
  induction cs generalizing ds with
  | nil =>
    cases ds with
    | nil => exact absurd h (List.lt_irrefl _)
    | cons => cases hlen
  | cons c cs ih =>
    cases ds with
    | nil => cases hlen
    | cons d ds =>
      rcases List.cons_lt_cons_iff.1 h with hcd | ⟨rfl, hlt⟩
      · exact List.cons_lt_cons_iff.2 (.inl hcd)
      · exact List.cons_lt_cons_iff.2 (.inr ⟨rfl, ih hlt (Nat.succ.inj hlen)⟩)

/-! ### Numbers of a fixed width -/

/-- The last digit of a number that is filled up with zeros. -/
theorem padLeft_succ {width : Nat} (hw : 0 < width) (n : Nat) :
    padLeft (width + 1) (natDigits n) =
      padLeft width (natDigits (n / 10)) ++ [Nat.digitChar (n % 10)] := by
  have hlast : natDigits (n % 10) = [Nat.digitChar (n % 10)] :=
    Nat.toDigits_of_lt_base (Nat.mod_lt n (by decide))
  rcases Nat.eq_zero_or_pos (n / 10) with hzero | hpos
  · have hn : n % 10 = n := by omega
    have hwidth : width - 1 + 1 = width := by omega
    rw [hn] at hlast ⊢
    rw [hzero, hlast, padLeft, padLeft, show natDigits 0 = ['0'] from rfl, List.length_singleton,
      List.length_singleton, Nat.add_sub_cancel, ← List.replicate_succ', hwidth]
  · have hdigits : natDigits n = natDigits (n / 10) ++ [Nat.digitChar (n % 10)] := by
      have happend := Nat.toDigits_append_toDigits (by decide : 1 < 10) hpos
        (Nat.mod_lt n (by decide : 0 < 10))
      rw [Nat.div_add_mod] at happend
      exact happend.symm.trans (congrArg (natDigits (n / 10) ++ ·) hlast)
    rw [hdigits, padLeft, padLeft, List.length_append, List.length_singleton, Nat.add_sub_add_right,
      List.append_assoc]

theorem digitChar_lt {m n : Nat} (hn : n < 10) (h : m < n) : m.digitChar < n.digitChar := by
  have hall : ∀ b < 10, ∀ a < b, Nat.digitChar a < Nat.digitChar b := by decide
  exact hall n hn m h

/-- Numbers of one width are ordered as their digits are. -/
theorem padLeft_lt {width m n : Nat} (hw : 0 < width) (hn : n < pow10 width) (h : m < n) :
    padLeft width (natDigits m) < padLeft width (natDigits n) := by
  induction width generalizing m n with
  | zero => exact absurd hw (Nat.lt_irrefl 0)
  | succ width ih =>
    rcases Nat.eq_zero_or_pos width with rfl | hw
    · have hn : n < 10 := hn
      rw [natDigits, natDigits, Nat.toDigits_of_lt_base hn,
        Nat.toDigits_of_lt_base (Nat.lt_trans h hn)]
      exact List.cons_lt_cons_iff.2 (.inl (digitChar_lt hn h))
    have hdiv : n / 10 < pow10 width := by
      rw [pow10_succ] at hn
      omega
    have hwidth : ∀ k, k < pow10 width → (padLeft width (natDigits k)).length = width := fun k =>
      Calendar.length_padLeft_natDigits hw
    rw [padLeft_succ hw, padLeft_succ hw]
    rcases Nat.lt_or_ge (m / 10) (n / 10) with hlt | hge
    · exact append_lt_append (ih hw hdiv hlt)
        ((hwidth _ (Nat.lt_trans hlt hdiv)).trans (hwidth _ hdiv).symm) _ _
    · have heq : m / 10 = n / 10 := by omega
      rw [heq]
      refine List.append_left_lt (List.cons_lt_cons_iff.2 (.inl (digitChar_lt ?_ ?_)))
      · exact Nat.mod_lt n (by decide)
      · omega

/-- They are so before anything that follows. -/
theorem padLeft_append_lt {width m n : Nat} (hw : 0 < width) (hn : n < pow10 width) (h : m < n)
    (cs ds : List Char) :
    padLeft width (natDigits m) ++ cs < padLeft width (natDigits n) ++ ds := by
  have hm := Calendar.length_padLeft_natDigits hw (Nat.lt_trans h hn)
  have hlen := hm.trans (Calendar.length_padLeft_natDigits hw hn).symm
  exact append_lt_append (padLeft_lt hw hn h) hlen cs ds

/-! ### Days -/

namespace Date

/-- Whether the year has four digits and no sign. -/
def HasPlainYear (d : Date) : Prop :=
  0 ≤ d.year ∧ d.year ≤ 9999

instance (d : Date) : Decidable d.HasPlainYear :=
  inferInstanceAs (Decidable (_ ∧ _))

variable {d e : Date}

theorem toList_text (h : d.HasPlainYear) :
    d.text.toList = padLeft 4 (natDigits d.year.natAbs) ++
      '-' :: (padLeft 2 (natDigits d.month) ++ '-' :: padLeft 2 (natDigits d.day)) := by
  have hyear : Calendar.yearChars d.year = padLeft 4 (natDigits d.year.natAbs) := if_pos h
  rw [text, Calendar.write, String.toList_ofList, Calendar.datePattern]
  simp only [List.flatMap_cons, List.flatMap_nil, Calendar.Part.write, hyear, List.append_nil,
    List.cons_append, List.nil_append]

theorem natAbs_year_lt (h : d.HasPlainYear) : d.year.natAbs < pow10 4 := by
  have hpow : pow10 4 = 10000 := rfl
  obtain ⟨hlow, hhigh⟩ := h
  omega

theorem text_lt (hd : d.HasPlainYear) (he : e.HasPlainYear) (h : d.compare e = .lt) :
    d.text < e.text := by
  show d.text.toList < e.text.toList
  rw [toList_text hd, toList_text he]
  rw [compare, Ordering.then_eq_lt, Ordering.then_eq_lt] at h
  rcases h with hyear | ⟨hyear, hmonth | ⟨hmonth, hday⟩⟩
  · have hlt : d.year.natAbs < e.year.natAbs := by
      have := Int.compare_eq_lt.1 hyear
      obtain ⟨hlow, -⟩ := hd
      omega
    exact padLeft_append_lt (by decide) (natAbs_year_lt he) hlt _ _
  · rw [Int.compare_eq_eq.1 hyear]
    refine List.append_left_lt (List.cons_lt_cons_iff.2 (.inr ⟨rfl, ?_⟩))
    exact padLeft_append_lt (by decide) e.fit_numbers.month (Nat.compare_eq_lt.1 hmonth) _ _
  · rw [Int.compare_eq_eq.1 hyear, Nat.compare_eq_eq.1 hmonth]
    refine List.append_left_lt (List.cons_lt_cons_iff.2 (.inr ⟨rfl, ?_⟩))
    refine List.append_left_lt (List.cons_lt_cons_iff.2 (.inr ⟨rfl, ?_⟩))
    exact padLeft_lt (by decide) e.fit_numbers.day (Nat.compare_eq_lt.1 hday)

/-- Days of years with four digits are ordered as their texts are. -/
theorem compare_text (hd : d.HasPlainYear) (he : e.HasPlainYear) :
    Ord.compare d.text e.text = d.compare e := by
  cases h : d.compare e with
  | lt => exact compareOfLessAndEq_eq_lt.2 (text_lt hd he h)
  | eq =>
    have hyear := Ordering.then_eq_eq.1 h
    obtain ⟨hmonth, hday⟩ := Ordering.then_eq_eq.1 hyear.2
    have htext : d.text = e.text := by
      rw [text, text, Int.compare_eq_eq.1 hyear.1, Nat.compare_eq_eq.1 hmonth,
        Nat.compare_eq_eq.1 hday]
    rw [htext]
    exact Std.ReflCmp.compare_self
  | gt =>
    have hlt : e.compare d = .lt := by
      rw [compare_swap d e, h]
      rfl
    have htext : Ord.compare e.text d.text = .lt := compareOfLessAndEq_eq_lt.2 (text_lt he hd hlt)
    rw [Std.OrientedOrd.eq_swap (a := d.text), htext]
    rfl

end Date

end TypedFilter
