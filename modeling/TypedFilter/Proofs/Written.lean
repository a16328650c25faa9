import TypedFilter.Proofs.CalendarText
import TypedFilter.Proofs.TypeNames

/-!
Texts that are read as expressions. `Written p s x` says that the text `s`, wherever an expression
of level `p` can stand, is read as `x`. Main statements: the literals of plain values are such
texts, and so is what operators, tests, brackets and calls make of them.
-/

namespace TypedFilter

namespace Sql

/-! ### Texts of expressions -/

/-- The text is read as the expression by a level of the grammar. It neither starts nor ends with a
blank. -/
structure Written (p : Nat) (s : String) (x : Expression) : Prop where
  bordered : Text.Bordered s
  tokens : ∃ ts, Lexes s ts ∧ Reads p ts x

variable {p : Nat} {s a b : String} {x y : Expression}

namespace Written

theorem mono {q : Nat} (hq : 1 ≤ q) (hqp : q ≤ p) (hp : p ≤ 7) (h : Written p s x) :
    Written q s x := by
  obtain ⟨hb, ts, hl, hr⟩ := h
  exact ⟨hb, ts, hl, hr.mono hq hqp hp⟩

end Written

/-! ### Literals -/

theorem bordered_quoted {quote : Char} (hq : Text.isBlank quote = false) (s : String) :
    Text.Bordered (Text.quoted quote s) := by
  refine ⟨⟨quote, ?_, hq⟩, ⟨quote, ?_, hq⟩⟩
  · rw [toList_quoted]
    rfl
  · rw [toList_quoted, ← List.cons_append, List.getLast?_append]
    rfl

theorem bordered_quoteName (name : String) : Text.Bordered (quoteName name) := by
  rw [quoteName]
  split
  · rename_i h
    have hw := (isWordChars_of_isPlainName h).1
    refine .ofForall ?_ fun c hc => isBlank_of_isPlainChar (isPlainChar_of_isWordChars hw c hc)
    rintro hnil
    rw [hnil] at hw
    cases hw
  · exact bordered_quoted (by decide) name

theorem bordered_escapeText (kind text : String) :
    Text.Bordered (Value.escapeText kind text) := by
  have hopen : Text.Bordered "\x7b" := ⟨⟨'\x7b', rfl, rfl⟩, ⟨'\x7b', rfl, rfl⟩⟩
  have hclose : Text.Bordered "'\x7d" := ⟨⟨'\'', rfl, rfl⟩, ⟨'\x7d', rfl, rfl⟩⟩
  have h := hopen.around (kind ++ " '" ++ text) hclose
  simpa only [Value.escapeText, String.append_assoc] using h

theorem isCalendarChar_digits (d : Decimal) :
    ∀ c ∈ d.digits.toList, Calendar.isCalendarChar c = true := by
  obtain ⟨cs, ds, heq, -, hcs, rfl | ⟨es, rfl, -, hes⟩⟩ := d.isNumeral_digits
  · rw [heq, String.toList_ofList, List.append_nil]
    exact Calendar.all_of_isDigit hcs
  · rw [heq, String.toList_ofList]
    intro c hc
    rcases List.mem_append.1 hc with hc | _ | ⟨_, hc⟩
    · exact Calendar.all_of_isDigit hcs c hc
    · decide
    · exact Calendar.all_of_isDigit hes c hc

theorem digits_eq_cons (d : Decimal) : ∃ c cs, d.digits.toList = c :: cs ∧ c.isDigit = true := by
  obtain ⟨cs, ds, heq, hne, hcs, -⟩ := d.isNumeral_digits
  obtain ⟨c, cs, rfl⟩ := List.exists_cons_of_ne_nil hne
  refine ⟨c, cs ++ ds, ?_, List.all_eq_true.1 hcs c (List.mem_cons_self ..)⟩
  rw [heq, String.toList_ofList]
  rfl

theorem bordered_digits (d : Decimal) : Text.Bordered d.digits := by
  obtain ⟨c, cs, heq, -⟩ := digits_eq_cons d
  refine .ofForall (by rw [heq]; exact List.cons_ne_nil c cs) fun c hc => ?_
  exact Calendar.isBlank_of_isCalendarChar (isCalendarChar_digits d c hc)

theorem written_digits (d : Decimal) : Written 7 d.digits (.literal d.numeral) :=
  ⟨bordered_digits d, _, d.lexes_decimal, reads_number d.numberValue_digits⟩

/-- A minus sign right before the digits of a decimal. -/
theorem written_negative (d : Decimal) :
    Written 7 ("-" ++ d.digits) (.unary .minus (.literal d.numeral)) := by
  have hminus : Text.Bordered "-" := ⟨⟨'-', rfl, rfl⟩, ⟨'-', rfl, rfl⟩⟩
  obtain ⟨c, cs, heq, hc⟩ := digits_eq_cons d
  have hne : (c :: cs).head? ≠ some '-' := by
    rintro ⟨⟩
    exact absurd hc (by decide)
  have hdigits : String.ofList (c :: cs) = d.digits := by rw [← heq, String.ofList_toList]
  have hnumber : Lexes (String.ofList (c :: cs)) [.number d.digits] := by
    rw [hdigits]
    exact d.lexes_decimal
  have hlex := hnumber.negative hne (List.cons_ne_nil c cs)
  have htext : String.ofList ('-' :: c :: cs) = "-" ++ d.digits := by
    rw [← hdigits, ← List.singleton_append, String.ofList_append]
  rw [htext] at hlex
  exact ⟨hminus.append (bordered_digits d), _, hlex, (reads_number d.numberValue_digits).minus⟩

/-- A decimal with its sign. -/
theorem written_decimal (d : Decimal) : Written 7 d.text d.reading := by
  rw [Decimal.text, Decimal.reading]
  split
  · rw [String.ofList_append]
    exact written_negative d
  · exact written_digits d

end Sql

namespace Value

/-- Whether literals of the value can be read: values that conditions have a notation for. -/
def IsPlain : Value → Prop
  | .null | .boolean _ | .integer _ _ | .decimal _ | .string _ | .date _ | .time _
  | .timestamp _ => True
  | .float _ | .double _ | .geometry _ | .box _ | .list _ => False

/-- The expression that a literal of the value is read as. -/
def reading : Value → Sql.Expression
  | .null => .null
  | .integer _ n => n.toDecimal.reading
  | .decimal d => d.reading
  | v => .literal v

/-- The value that the literal of a value stands for. -/
def reread : Value → Value
  | .integer _ n => n.toDecimal.reread
  | .decimal d => d.reread
  | v => v

/-- Whether the literal of the value can be read and stands for the value itself. -/
def IsFresh (v : Value) : Prop :=
  v.IsPlain ∧ v.reread = v

theorem isFresh_reread (d : Decimal) : d.reread.IsFresh := by
  rcases d.reread_cases with ⟨w, n, hread, hagain⟩ | hread
  · rw [hread] at hagain ⊢
    exact ⟨trivial, hagain⟩
  · rw [hread]
    exact ⟨trivial, hread⟩

theorem text_integer {w : IntWidth} (n : SizedInt w) :
    (Value.integer w n).text = n.toDecimal.text := by
  simp only [text, intText, Decimal.text, SizedInt.toDecimal, Decimal.ofInt, pointed,
    decide_eq_true_eq]
  split <;> rfl

/-- The literal of a plain value is read as its expression. -/
theorem written (v : Value) (h : v.IsPlain) : Sql.Written 7 v.text v.reading := by
  cases v with
  | null =>
    exact ⟨⟨⟨'N', rfl, rfl⟩, ⟨'L', rfl, rfl⟩⟩, _, Sql.lexes_keyword (by decide) (by decide),
      Sql.reads_null⟩
  | boolean b =>
    cases b with
    | true =>
      exact ⟨⟨⟨'T', rfl, rfl⟩, ⟨'E', rfl, rfl⟩⟩, _, Sql.lexes_keyword (by decide) (by decide),
        Sql.reads_true⟩
    | false =>
      exact ⟨⟨⟨'F', rfl, rfl⟩, ⟨'E', rfl, rfl⟩⟩, _, Sql.lexes_keyword (by decide) (by decide),
        Sql.reads_false⟩
  | integer w n =>
    rw [text_integer]
    exact Sql.written_decimal _
  | decimal d => exact Sql.written_decimal d
  | string s =>
    exact ⟨Sql.bordered_quoted (by decide) s, _, Sql.lexes_string s, Sql.reads_string s⟩
  | date d =>
    exact ⟨Sql.bordered_escapeText _ _, _,
      Sql.lexes_moment .date (Calendar.notMem_quote d.isCalendarChar_text),
      Sql.reads_moment d.momentValue_text⟩
  | time t =>
    exact ⟨Sql.bordered_escapeText _ _, _,
      Sql.lexes_moment .time (Calendar.notMem_quote t.isCalendarChar_text),
      Sql.reads_moment t.momentValue_text⟩
  | timestamp t =>
    exact ⟨Sql.bordered_escapeText _ _, _, Sql.lexes_moment .timestamp t.notMem_quote_text,
      Sql.reads_moment t.momentValue_text⟩
  | float | double | geometry | box | list => exact h.elim

end Value

namespace Sql.Written

/-! ### Brackets and rows -/

theorem bordered_bracketed (s : String) : Text.Bordered ("(" ++ s ++ ")") :=
  Text.Bordered.around ⟨⟨'(', rfl, rfl⟩, ⟨'(', rfl, rfl⟩⟩ s ⟨⟨')', rfl, rfl⟩, ⟨')', rfl, rfl⟩⟩

theorem bracketed (h : Written 1 s x) : Written 7 ("(" ++ s ++ ")") x := by
  obtain ⟨-, ts, hl, hr⟩ := h
  exact ⟨bordered_bracketed s, _, hl.opened.closed, hr.bracketed⟩

variable {sep : String} {t : Token} {ss : List String} {xs : List Expression}

theorem exists_tokens (h : List.Forall₂ (Written p) ss xs) :
    ∃ tss, List.Forall₂ Lexes ss tss ∧ List.Forall₂ (Reads p) tss xs := by
  induction h with
  | nil => exact ⟨[], .nil, .nil⟩
  | cons hhead _ ih =>
    obtain ⟨-, ts, hl, hr⟩ := hhead
    obtain ⟨tss, hls, hrs⟩ := ih
    exact ⟨ts :: tss, .cons hl hls, .cons hr hrs⟩

theorem bordered_intercalate (sep : String) (hs : Text.Bordered s)
    (h : ∀ a ∈ ss, Text.Bordered a) : Text.Bordered (String.intercalate sep (s :: ss)) := by
  induction ss generalizing s with
  | nil => rwa [String.intercalate_singleton]
  | cons a ss ih =>
    rw [String.intercalate_cons_cons]
    exact hs.around sep (ih (h a (List.mem_cons_self ..))
      fun b hb => h b (List.mem_cons_of_mem _ hb))

theorem bordered_of_forall₂ (h : List.Forall₂ (Written p) ss xs) :
    ∀ a ∈ ss, Text.Bordered a := by
  induction h with
  | nil => exact fun a ha => absurd ha List.not_mem_nil
  | cons hhead _ ih =>
    rintro a (_ | ⟨_, ha⟩)
    · exact hhead.bordered
    · exact ih a ha

/-- A chain of one operator. -/
theorem foldl {op : BinaryOp} (hp : isChained p = true) (hop : chainOp? p t = some op)
    (hsep : Separates sep t) (h : Written p s x) (hs : List.Forall₂ (Written (p + 1)) ss xs) :
    Written p (String.intercalate sep (s :: ss)) (xs.foldl (.binary op) x) := by
  obtain ⟨hb, ts, hl, hr⟩ := h
  obtain ⟨tss, hls, hrs⟩ := exists_tokens hs
  exact ⟨bordered_intercalate sep hb (bordered_of_forall₂ hs), _, lexes_intercalate hsep hl hls,
    hr.foldl hp hop hrs⟩

/-! ### Operators and tests -/

/-- Two operands with an operator between them. -/
theorem binary {op : BinaryOp} {w : String} (hp : isChained p = true)
    (hop : chainOp? p t = some op) (hw : Lexes w [t]) (hx : Written p a x)
    (hy : Written (p + 1) b y) : Written p (a ++ (" " ++ w ++ " ") ++ b) (.binary op x y) := by
  obtain ⟨hb, ts, hl, hr⟩ := hx
  obtain ⟨hb', us, hl', hr'⟩ := hy
  exact ⟨hb.around _ hb', _, hl.around hw hl', hr.binary hp hop hr'⟩

theorem compare {op : BinaryOp} {w : String} (hop : comparisonOp? t = some op) (hw : Lexes w [t])
    (hx : Written 5 a x) (hy : Written 5 b y) :
    Written 4 (a ++ (" " ++ w ++ " ") ++ b) (.binary op x y) := by
  obtain ⟨hb, ts, hl, hr⟩ := hx
  obtain ⟨hb', us, hl', hr'⟩ := hy
  exact ⟨hb.around _ hb', _, hl.around hw hl', hr.compare hop hr'⟩

theorem like {w : String} (hw : Lexes w [.keyword .like]) (hx : Written 5 a x)
    (hy : Written 5 b y) : Written 4 (a ++ (" " ++ w ++ " ") ++ b) (.like x y none false) := by
  obtain ⟨hb, ts, hl, hr⟩ := hx
  obtain ⟨hb', us, hl', hr'⟩ := hy
  exact ⟨hb.around _ hb', _, hl.around hw hl', hr.like hr'⟩

theorem not (h : Written 3 s x) : Written 3 ("NOT " ++ s) (.unary .not x) := by
  obtain ⟨hb, ts, hl, hr⟩ := h
  have hword : Lexes "NOT" [.keyword .not] := lexes_keyword (by decide) (by decide)
  have hnot : Text.Bordered "NOT" := ⟨⟨'N', rfl, rfl⟩, ⟨'T', rfl, rfl⟩⟩
  exact ⟨hnot.around " " hb, _, hword.spaced hl, hr.not⟩

theorem isNull (h : Written 5 s x) : Written 4 (s ++ " IS NULL") (.isNull x false) := by
  obtain ⟨hb, ts, hl, hr⟩ := h
  have his : Lexes "IS" [.keyword .is] := lexes_keyword (by decide) (by decide)
  have hnull : Lexes "NULL" [.keyword .null] := lexes_keyword (by decide) (by decide)
  have hend : Text.Bordered "NULL" := ⟨⟨'N', rfl, rfl⟩, ⟨'L', rfl, rfl⟩⟩
  have hlex := hl.spaced (his.spaced hnull)
  have hborder := hb.around " IS " hend
  rw [String.append_assoc] at hlex hborder
  exact ⟨hborder, _, hlex, hr.isNull⟩

theorem isNotNull (h : Written 5 s x) : Written 4 (s ++ " IS NOT NULL") (.isNull x true) := by
  obtain ⟨hb, ts, hl, hr⟩ := h
  have his : Lexes "IS" [.keyword .is] := lexes_keyword (by decide) (by decide)
  have hnot : Lexes "NOT" [.keyword .not] := lexes_keyword (by decide) (by decide)
  have hnull : Lexes "NULL" [.keyword .null] := lexes_keyword (by decide) (by decide)
  have hend : Text.Bordered "NULL" := ⟨⟨'N', rfl, rfl⟩, ⟨'L', rfl, rfl⟩⟩
  have hlex := hl.spaced (his.spaced (hnot.spaced hnull))
  have hborder := hb.around " IS NOT " hend
  rw [String.append_assoc] at hlex hborder
  exact ⟨hborder, _, hlex, hr.isNotNull⟩

theorem between {c : String} {z : Expression} (hx : Written 5 s x) (hy : Written 5 a y)
    (hz : Written 5 c z) :
    Written 4 (s ++ " BETWEEN " ++ a ++ " AND " ++ c) (.between x y z false) := by
  obtain ⟨hb, ts, hl, hr⟩ := hx
  obtain ⟨-, us, hl', hr'⟩ := hy
  obtain ⟨hb'', vs, hl'', hr''⟩ := hz
  have hbetween : Lexes "BETWEEN" [.keyword .between] := lexes_keyword (by decide) (by decide)
  have hlex := hl.around hbetween (separates_and hl' hl'')
  have hborder := hb.around (" BETWEEN " ++ a ++ " AND ") hb''
  have hword : " " ++ "BETWEEN" ++ " " = " BETWEEN " := rfl
  rw [hword] at hlex
  simp only [String.append_assoc] at hlex hborder ⊢
  exact ⟨hborder, _, hlex, hr.between hr' hr''⟩

theorem inList (hx : Written 5 s x) (hy : Written 1 a y)
    (hs : List.Forall₂ (Written 1) ss xs) :
    Written 4 (s ++ " IN " ++ ("(" ++ String.intercalate ", " (a :: ss) ++ ")"))
      (.inList x (y :: xs) false) := by
  obtain ⟨hb, ts, hl, hr⟩ := hx
  obtain ⟨-, us, hl', hr'⟩ := hy
  obtain ⟨tss, hls, hrs⟩ := exists_tokens hs
  have hin : Lexes "IN" [.keyword .in] := lexes_keyword (by decide) (by decide)
  have hrow := (lexes_intercalate separates_comma hl' hls).opened.closed
  have hlex := hl.around hin hrow
  have hword : " " ++ "IN" ++ " " = " IN " := rfl
  rw [hword] at hlex
  exact ⟨hb.around " IN " (bordered_bracketed _), _, hlex, hr.inList hr' hrs⟩

theorem call {name : String} (hname : IsBareWord name) (hborder : Text.Bordered name)
    (hx : Written 1 a x) (hs : List.Forall₂ (Written 1) ss xs) :
    Written 7 (name ++ "(" ++ String.intercalate ", " (a :: ss) ++ ")")
      (.function name (x :: xs)) := by
  obtain ⟨-, ts, hl, hr⟩ := hx
  obtain ⟨tss, hls, hrs⟩ := exists_tokens hs
  have hlex := (lexes_intercalate separates_comma hl hls).closed.call hname.1
  have hclose : Text.Bordered ")" := ⟨⟨')', rfl, rfl⟩, ⟨')', rfl, rfl⟩⟩
  have hb := hborder.around ("(" ++ String.intercalate ", " (a :: ss)) hclose
  rw [wordToken, hname.2, ← String.append_assoc] at hlex
  rw [← String.append_assoc] at hb
  exact ⟨hb, _, hlex, hr.call name hrs⟩

theorem cast {type : String} (htype : IsTypeName type) (h : Written 1 s x) :
    Written 7 ("CAST(" ++ s ++ " AS " ++ type ++ ")") (.cast x type) := by
  obtain ⟨-, ts, hl, hr⟩ := h
  obtain ⟨vs, hlv, hrv⟩ := exists_tokens_typeName htype
  have has : Lexes "AS" [.keyword .as] := lexes_keyword (by decide) (by decide)
  have hcast : wordToken "CAST" = .keyword .cast := by decide
  have hopen : Text.Bordered "CAST(" := ⟨⟨'C', rfl, rfl⟩, ⟨'(', rfl, rfl⟩⟩
  have hclose : Text.Bordered ")" := ⟨⟨')', rfl, rfl⟩, ⟨')', rfl, rfl⟩⟩
  have hb := hopen.around (s ++ " AS " ++ type) hclose
  have hlex := (hl.around has hlv).closed.call (show isWordChars "CAST".toList = true by decide)
  have hword : " " ++ "AS" ++ " " = " AS " := rfl
  have hhead : "CAST" ++ "(" = "CAST(" := rfl
  rw [hcast, hword, hhead, ← String.append_assoc, ← String.append_assoc,
    ← String.append_assoc] at hlex
  rw [← String.append_assoc, ← String.append_assoc] at hb
  refine ⟨hb, _, hlex, ?_⟩
  rw [List.append_assoc, List.cons_append]
  exact hr.cast hrv

end Sql.Written

end TypedFilter
