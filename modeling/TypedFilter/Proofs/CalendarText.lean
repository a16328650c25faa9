import TypedFilter.Calendar.Pattern
import TypedFilter.Proofs.Borders
import TypedFilter.Proofs.Numerals

/-!
Dates and times as text. Main statement: the text of a date, of a time and of a timestamp names it,
leap seconds and years of more than four digits included; a literal of it is read as its value.
-/

namespace TypedFilter

namespace Calendar

/-! ### Numbers of a fixed width -/

theorem length_natDigits_le {n width : Nat} (hw : 0 < width) (h : n < pow10 width) :
    (natDigits n).length ≤ width :=
  (Nat.length_toDigits_le_iff (by decide) hw).2 h

theorem length_padLeft_natDigits {n width : Nat} (hw : 0 < width) (h : n < pow10 width) :
    (padLeft width (natDigits n)).length = width := by
  rw [length_padLeft]
  exact Nat.max_eq_left (length_natDigits_le hw h)

theorem padLeft_eq_cons (width n : Nat) :
    ∃ c cs, padLeft width (natDigits n) = c :: cs ∧ c.isDigit = true := by
  obtain ⟨c, cs, h⟩ : ∃ c cs, padLeft width (natDigits n) = c :: cs := by
    refine List.exists_cons_of_ne_nil ?_
    rw [padLeft, Ne, List.append_eq_nil_iff]
    exact fun h => natDigits_ne_nil n h.2
  have hall := all_isDigit_padLeft width (all_isDigit_natDigits n)
  rw [h, List.all_cons, Bool.and_eq_true] at hall
  exact ⟨c, cs, h, hall.1⟩

theorem trimStart_padLeft (width n : Nat) (rest : List Char) :
    Text.trimStart (padLeft width (natDigits n) ++ rest) = padLeft width (natDigits n) ++ rest := by
  obtain ⟨c, cs, h, hc⟩ := padLeft_eq_cons width n
  rw [h, List.cons_append]
  exact Sql.trimStart_cons (Sql.isBlank_of_isPlainChar (Sql.isPlainChar_of_isDigit hc)) _

/-- A number of a fixed width is read, whatever follows it. -/
theorem readNumber?_padLeft {n width : Nat} (hw : 0 < width) (h : n < pow10 width)
    (rest : List Char) :
    readNumber? width (padLeft width (natDigits n) ++ rest) = some (n, rest) := by
  have hlen := length_padLeft_natDigits hw h
  have hall := all_isDigit_padLeft width (all_isDigit_natDigits n)
  have hval := ofDigits_padLeft width (natDigits n)
  have htrim := trimStart_padLeft width n rest
  rw [ofDigits_natDigits] at hval
  generalize padLeft width (natDigits n) = ds at hlen hall hval htrim ⊢
  have htake : ((ds ++ rest).takeWhile Char.isDigit).take width = ds := by
    rw [List.takeWhile_append_of_pos (List.all_eq_true.1 hall), ← hlen, List.take_left]
  have hne : ds.isEmpty = false := by
    cases ds with
    | nil => rw [List.length_nil] at hlen; omega
    | cons => rfl
  simp only [readNumber?, htrim, takeDigits, htake, hne, Bool.false_eq_true, if_false, hval,
    List.drop_left]

/-! ### Parts -/

/-- Digits after the sign of a year. -/
theorem takeDigits_padLeft (width n : Nat) (rest : List Char)
    (hrest : ∀ c ∈ rest.head?, c.isDigit = false) :
    takeDigits (padLeft width (natDigits n) ++ rest) = (padLeft width (natDigits n), rest) := by
  have hspan := Sql.span_append rest (all_isDigit_padLeft width (all_isDigit_natDigits n)) hrest
  rw [takeDigits, hspan.1, hspan.2]

/-- A year is read, before anything but a further digit. -/
theorem readYear?_yearChars (year : Int) (rest : List Char)
    (hrest : ∀ c ∈ rest.head?, c.isDigit = false) :
    readYear? (yearChars year ++ rest) = some (year, rest) := by
  have hval := ofDigits_padLeft 4 (natDigits year.natAbs)
  have htake := takeDigits_padLeft 4 year.natAbs rest hrest
  obtain ⟨c, cs, hcs, hc⟩ := padLeft_eq_cons 4 year.natAbs
  rw [ofDigits_natDigits] at hval
  by_cases hyear : 0 ≤ year ∧ year ≤ 9999
  · have hlt : year.natAbs < pow10 4 := by
      have : pow10 4 = 10000 := rfl
      omega
    have hread := readNumber?_padLeft (by decide) hlt rest
    have htrim := trimStart_padLeft 4 year.natAbs rest
    have habs : (year.natAbs : Int) = year := by omega
    rw [hcs, List.cons_append] at hread htrim
    simp only [yearChars, hyear, and_self, if_true, hcs, List.cons_append, readYear?, htrim]
    split
    · rename_i heq
      injection heq with hminus
      exact absurd (hminus ▸ hc) (by decide)
    · rename_i heq
      injection heq with hplus
      exact absurd (hplus ▸ hc) (by decide)
    · rw [hread, Option.map_some, habs]
  · rw [hcs] at htake hval
    by_cases hneg : year < 0
    · have habs : -(year.natAbs : Int) = year := by omega
      simp only [yearChars, hyear, hneg, if_true, if_false, hcs]
      have htrim := Sql.trimStart_cons (c := '-') (by decide) (c :: cs ++ rest)
      simp only [readYear?, List.cons_append] at htrim htake ⊢
      simp only [htrim, htake, hval, Option.map_some, habs]
    · have habs : (year.natAbs : Int) = year := by omega
      simp only [yearChars, hyear, hneg, if_false, hcs]
      have htrim := Sql.trimStart_cons (c := '+') (by decide) (c :: cs ++ rest)
      simp only [readYear?, List.cons_append] at htrim htake ⊢
      simp only [htrim, htake, hval, Option.map_some, habs]

/-- A fraction of a second is read at the end of a text. -/
theorem readFraction?_fractionChars {nano : Nat} (h : nano < pow10 9) :
    readFraction? (fractionChars nano) = some (nano, []) := by
  have hread : ∀ width n, 0 < width → width ≤ 9 → n < pow10 width →
      readFraction? ('.' :: padLeft width (natDigits n)) = some (n * pow10 (9 - width), []) := by
    intro width n hpos hwidth hn
    have htake := takeDigits_padLeft width n [] (by simp)
    have hlen := length_padLeft_natDigits hpos hn
    have hval := ofDigits_padLeft width (natDigits n)
    obtain ⟨c, cs, hcs, -⟩ := padLeft_eq_cons width n
    rw [ofDigits_natDigits] at hval
    rw [List.append_nil] at htake
    rw [hcs] at htake hlen hval ⊢
    have hkept : (c :: cs).take 9 = c :: cs := List.take_of_length_le (by omega)
    simp only [readFraction?, htake, hkept, hlen, hval]
  have h3 : pow10 3 = 1000 := rfl
  have h6 : pow10 6 = 1000000 := rfl
  have h9 : pow10 9 = 1000000000 := rfl
  have h0 : pow10 0 = 1 := rfl
  rw [fractionChars]
  split
  · rename_i hzero
    rw [hzero]
    rfl
  · split
    · rw [hread 3 _ (by decide) (by decide) (by omega)]
      simp only [Nat.reduceSub, h6, Option.some.injEq, Prod.mk.injEq, and_true]
      omega
    · split
      · rw [hread 6 _ (by decide) (by decide) (by omega)]
        simp only [Nat.reduceSub, h3, Option.some.injEq, Prod.mk.injEq, and_true]
        omega
      · rw [hread 9 _ (by decide) (by decide) h]
        simp only [Nat.reduceSub, h0, Option.some.injEq, Prod.mk.injEq, and_true]
        omega

/-! ### Patterns -/

/-- Whether the numbers have as many digits as their places in patterns. -/
structure Numbers.Fit (n : Numbers) : Prop where
  month : n.month < 100
  day : n.day < 100
  hour : n.hour < 100
  minute : n.minute < 100
  second : n.second < 100
  nano : n.nano < pow10 9

theorem readNumber?_two {v : Nat} (h : v < 100) (rest : List Char) :
    readNumber? 2 (padLeft 2 (natDigits v) ++ rest) = some (v, rest) :=
  readNumber?_padLeft (by decide) h rest

/-- A day is read, whatever follows it. -/
theorem readFrom?_datePattern {m : Numbers} (hm : m.Fit) (n : Numbers) (rest : List Char)
    (pattern : List Part) :
    readFrom? n (datePattern.flatMap (Part.write m) ++ rest) (datePattern ++ pattern) =
      readFrom? { n with year := m.year, month := m.month, day := m.day } rest pattern := by
  have htext : datePattern.flatMap (Part.write m) ++ rest = yearChars m.year ++
      '-' :: (padLeft 2 (natDigits m.month) ++ '-' :: (padLeft 2 (natDigits m.day) ++ rest)) := by
    simp [datePattern, Part.write]
  have hyear := readYear?_yearChars m.year
    ('-' :: (padLeft 2 (natDigits m.month) ++ '-' :: (padLeft 2 (natDigits m.day) ++ rest)))
    (by simp)
  rw [htext]
  simp only [datePattern, List.cons_append, List.nil_append, readFrom?, Part.read?, hyear,
    readNumber?_two hm.month, readNumber?_two hm.day, Option.map_some, Option.bind_some, if_true]

/-- A time of day is read to its end. -/
theorem readFrom?_timePattern {m : Numbers} (hm : m.Fit) (n : Numbers) :
    readFrom? n (timePattern.flatMap (Part.write m)) timePattern =
      some { n with hour := m.hour, minute := m.minute, second := m.second, nano := m.nano } := by
  have htext : timePattern.flatMap (Part.write m) = padLeft 2 (natDigits m.hour) ++
      ':' :: (padLeft 2 (natDigits m.minute) ++ ':' :: (padLeft 2 (natDigits m.second) ++
        fractionChars m.nano)) := by
    simp [timePattern, Part.write]
  rw [htext]
  simp only [timePattern, readFrom?, Part.read?, readNumber?_two hm.hour,
    readNumber?_two hm.minute, readNumber?_two hm.second, readFraction?_fractionChars hm.nano,
    Option.map_some, Option.bind_some, if_true, List.isEmpty_nil]

/-- A day and a time of day are read to their end. -/
theorem readFrom?_timestampPattern {m : Numbers} (hm : m.Fit) :
    readFrom? {} (timestampPattern.flatMap (Part.write m)) timestampPattern = some m := by
  have htext : timestampPattern.flatMap (Part.write m) =
      datePattern.flatMap (Part.write m) ++ ' ' :: timePattern.flatMap (Part.write m) := by
    rw [timestampPattern, List.flatMap_append, List.flatMap_cons]
    rfl
  have htrim : Text.trimStart (' ' :: timePattern.flatMap (Part.write m)) =
      timePattern.flatMap (Part.write m) := by
    rw [timePattern, List.flatMap_cons, Part.write]
    exact trimStart_padLeft 2 m.hour _
  rw [htext, timestampPattern, readFrom?_datePattern hm, readFrom?, Part.read?, Option.bind_some,
    htrim]
  exact readFrom?_timePattern hm _

end Calendar

open Calendar

namespace Date

theorem fit_numbers (d : Date) :
    Numbers.Fit { year := d.year, month := d.month, day := d.day } := by
  have h := d.isDay
  have hdays : daysInMonth d.year d.month ≤ 31 := by
    unfold daysInMonth
    split
    · split <;> decide
    all_goals decide
  rw [IsDay] at h
  have hmonth : d.month < 100 := by omega
  have hday : d.day < 100 := by omega
  exact ⟨hmonth, hday, by simp, by simp, by simp, pow10_pos 9⟩

/-- The text of a day names it. -/
theorem ofText?_text (d : Date) : ofText? d.text = some d := by
  have hread := readFrom?_datePattern d.fit_numbers {} [] []
  rw [List.append_nil, List.append_nil] at hread
  rw [ofText?, read?, text, write, String.toList_ofList, hread]
  simp only [readFrom?, List.isEmpty_nil, if_true, Option.bind_some, ofParts?, d.isDay, dif_pos]

end Date

namespace Time

/-- The numbers of a time are those of its text. -/
theorem ofNumbers?_numbers (t : Time) (n : Numbers) : ofNumbers? (t.numbers n) = some t := by
  obtain ⟨hour, minute, second, nano, hhour, hminute, hsecond, hnano⟩ := t
  show (if second + nano / 1000000000 = 60 then
      ofParts? hour minute 59 (nano % 1000000000 + 1000000000)
    else ofParts? hour minute (second + nano / 1000000000) (nano % 1000000000)) = _
  by_cases hleap : second + nano / 1000000000 = 60
  · obtain rfl : second = 59 := by
      split at hnano <;> omega
    have hsum : nano % 1000000000 + 1000000000 = nano := by
      simp only [if_true] at hnano
      omega
    rw [if_pos hleap, hsum]
    exact dif_pos ⟨hhour, hminute, hsecond, hnano⟩
  · have hnano' : nano < 1000000000 := by
      split at hnano
      · omega
      · exact hnano
    have hdiv : nano / 1000000000 = 0 := Nat.div_eq_of_lt hnano'
    have hmod : nano % 1000000000 = nano := Nat.mod_eq_of_lt hnano'
    rw [if_neg hleap, hdiv, hmod]
    exact dif_pos ⟨hhour, hminute, hsecond, hnano⟩

theorem fit_numbers (t : Time) {n : Numbers} (hmonth : n.month < 100) (hday : n.day < 100) :
    (t.numbers n).Fit := by
  have hhour := t.hour_lt
  have hminute := t.minute_lt
  have hsecond := t.second_lt
  have hnano := t.nano_lt
  have hlt : t.nano < 2000000000 := by
    split at hnano <;> omega
  have hpow : pow10 9 = 1000000000 := rfl
  refine ⟨hmonth, hday, ?_, ?_, ?_, ?_⟩ <;> simp only [numbers] <;> omega

/-- The text of a time of day names it. -/
theorem ofText?_text (t : Time) : ofText? t.text = some t := by
  have hread := readFrom?_timePattern (t.fit_numbers (n := {}) (by decide) (by decide)) {}
  rw [ofText?, read?, text, write, String.toList_ofList, hread]
  exact t.ofNumbers?_numbers {}

end Time

namespace Timestamp

/-- The text of a timestamp names it. -/
theorem ofText?_text (t : Timestamp) : ofText? t.text = some t := by
  have hday := t.date.fit_numbers
  have hfit := t.time.fit_numbers hday.month hday.day
  generalize hn : t.time.numbers _ = n at hfit
  have hread := readFrom?_timestampPattern hfit
  have hparts : Date.ofParts? n.year n.month n.day = some t.date := by
    rw [← hn]
    exact dif_pos t.date.isDay
  rw [ofText?, read?, text, write, hn, String.toList_ofList, hread, Option.bind_some, ofNumbers?,
    hparts, Option.bind_some, ← hn, t.time.ofNumbers?_numbers]
  rfl

end Timestamp

/-! ### Characters -/

namespace Calendar

/-- The characters of dates and of times of day. -/
def isCalendarChar (c : Char) : Bool :=
  c.isDigit || ['-', '+', ':', '.'].contains c

theorem isBlank_of_isCalendarChar {c : Char} (h : isCalendarChar c = true) :
    Text.isBlank c = false := by
  rcases Bool.or_eq_true _ _ ▸ h with hd | hm
  · exact Sql.isBlank_of_isPlainChar (Sql.isPlainChar_of_isDigit hd)
  · have hall : ['-', '+', ':', '.'].all (fun d => !Text.isBlank d) = true := by decide
    have hc := List.all_eq_true.1 hall c (List.contains_iff_mem.1 hm)
    rwa [Bool.not_eq_true'] at hc

theorem all_of_isDigit {cs : List Char} (h : cs.all Char.isDigit = true) :
    ∀ c ∈ cs, isCalendarChar c = true := fun c hc => by
  rw [isCalendarChar, List.all_eq_true.1 h c hc, Bool.true_or]

theorem isCalendarChar_padLeft (width n : Nat) :
    ∀ c ∈ padLeft width (natDigits n), isCalendarChar c = true :=
  all_of_isDigit (all_isDigit_padLeft width (all_isDigit_natDigits n))

theorem isCalendarChar_write (n : Numbers) {part : Part} (hgap : part ≠ .gap)
    (hmark : ∀ c, part = .mark c → isCalendarChar c = true) :
    ∀ c ∈ part.write n, isCalendarChar c = true := by
  cases part with
  | gap => exact absurd rfl hgap
  | mark d => simpa [Part.write] using hmark d rfl
  | year =>
    simp only [Part.write, yearChars]
    split
    · exact isCalendarChar_padLeft 4 _
    · rintro c (_ | ⟨_, hc⟩)
      · split <;> decide
      · exact isCalendarChar_padLeft 4 _ c hc
  | fraction =>
    have hpoint : ∀ width k, ∀ c ∈ '.' :: padLeft width (natDigits k), isCalendarChar c = true := by
      rintro width k c (_ | ⟨_, hc⟩)
      · decide
      · exact isCalendarChar_padLeft width k c hc
    simp only [Part.write, fractionChars]
    split
    · simp
    split
    · exact hpoint 3 _
    split
    · exact hpoint 6 _
    · exact hpoint 9 _
  | month | day | hour | minute | second => exact isCalendarChar_padLeft 2 _

theorem isCalendarChar_flatMap (n : Numbers) {pattern : List Part} (hgap : Part.gap ∉ pattern)
    (hmark : ∀ c, Part.mark c ∈ pattern → isCalendarChar c = true) :
    ∀ c ∈ pattern.flatMap (Part.write n), isCalendarChar c = true := by
  intro c hc
  obtain ⟨part, hpart, hc⟩ := List.mem_flatMap.1 hc
  refine isCalendarChar_write n ?_ ?_ c hc
  · rintro rfl
    exact hgap hpart
  · rintro d rfl
    exact hmark d hpart

theorem notMem_quote {cs : List Char} (h : ∀ c ∈ cs, isCalendarChar c = true) : '\'' ∉ cs :=
  fun hq => absurd (h _ hq) (by decide)

end Calendar

/-! ### Literals -/

namespace Date

theorem isCalendarChar_text (d : Date) : ∀ c ∈ d.text.toList, isCalendarChar c = true := by
  rw [text, write, String.toList_ofList]
  refine isCalendarChar_flatMap _ (by decide) fun c hc => ?_
  simp only [datePattern, List.mem_cons, reduceCtorEq, Part.mark.injEq, List.not_mem_nil, or_false,
    false_or, or_self] at hc
  rw [hc]
  decide

theorem bordered_text (d : Date) : Text.Bordered d.text := by
  refine .ofForall ?_ fun c hc => isBlank_of_isCalendarChar (d.isCalendarChar_text c hc)
  rw [text, write, String.toList_ofList]
  simp [datePattern, Part.write]

theorem convert_text (d : Date) : DataType.date.convert (.string d.text) = .ok (.date d) := by
  have hb := d.bordered_text
  simp only [DataType.convert, DataType.countsAsNull, hb.not_allBlank, Bool.false_and,
    Bool.false_eq_true, if_false, DataType.cast?, DataType.dateOf?, hb.trim, d.ofText?_text]
  rfl

theorem momentValue_text (d : Date) : Sql.momentValue .date d.text = .ok (.date d) := by
  rw [Sql.momentValue, Sql.MomentKind.type, d.convert_text]
  rfl

end Date

namespace Time

theorem isCalendarChar_text (t : Time) : ∀ c ∈ t.text.toList, isCalendarChar c = true := by
  rw [text, write, String.toList_ofList]
  refine isCalendarChar_flatMap _ (by decide) fun c hc => ?_
  simp only [timePattern, List.mem_cons, reduceCtorEq, Part.mark.injEq, List.not_mem_nil, or_false,
    false_or, or_self] at hc
  rw [hc]
  decide

theorem bordered_text (t : Time) : Text.Bordered t.text := by
  refine .ofForall ?_ fun c hc => isBlank_of_isCalendarChar (t.isCalendarChar_text c hc)
  rw [text, write, String.toList_ofList]
  simp [timePattern, Part.write]

theorem convert_text (t : Time) : DataType.time.convert (.string t.text) = .ok (.time t) := by
  have hb := t.bordered_text
  simp only [DataType.convert, DataType.countsAsNull, hb.not_allBlank, Bool.false_and,
    Bool.false_eq_true, if_false, DataType.cast?, DataType.timeOf?, hb.trim, t.ofText?_text]
  rfl

theorem momentValue_text (t : Time) : Sql.momentValue .time t.text = .ok (.time t) := by
  rw [Sql.momentValue, Sql.MomentKind.type, t.convert_text]
  rfl

end Time

namespace Timestamp

/-- The text of a timestamp is that of its day and that of its time with a blank between them. -/
theorem text_eq (t : Timestamp) : t.text = t.date.text ++ " " ++ t.time.text := by
  simp only [text, Date.text, Time.text, write, timestampPattern, List.flatMap_append,
    List.flatMap_cons, String.ofList_append]
  rw [String.append_assoc]
  rfl

theorem bordered_text (t : Timestamp) : Text.Bordered t.text := by
  rw [t.text_eq]
  exact t.date.bordered_text.around " " t.time.bordered_text

theorem notMem_quote_text (t : Timestamp) : '\'' ∉ t.text.toList := by
  have hdate := notMem_quote t.date.isCalendarChar_text
  have htime := notMem_quote t.time.isCalendarChar_text
  rw [t.text_eq]
  simp [hdate, htime]

theorem convert_text (t : Timestamp) :
    DataType.timestamp.convert (.string t.text) = .ok (.timestamp t) := by
  have hb := t.bordered_text
  simp only [DataType.convert, DataType.countsAsNull, hb.not_allBlank, Bool.false_and,
    Bool.false_eq_true, if_false, DataType.cast?, DataType.timestampOf?, hb.trim, t.ofText?_text]
  rfl

theorem momentValue_text (t : Timestamp) :
    Sql.momentValue .timestamp t.text = .ok (.timestamp t) := by
  rw [Sql.momentValue, Sql.MomentKind.type, t.convert_text]
  rfl

end Timestamp

end TypedFilter
