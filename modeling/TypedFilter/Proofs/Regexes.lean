import Mathlib.Data.List.Basic
import TypedFilter.Text.Regex

/-!
Searches for regular expressions. Main statement: a search finds parts in a text if and only if the
text can be cut in front of a place from which the parts, one after the other, take what each of
them is for.
-/

namespace TypedFilter.Text.RegexPart

/-! ### What parts match -/

/-- What a part takes of a text, between the characters before it and those behind it. -/
inductive Takes (same : Char → Char → Bool) :
    RegexPart → List Char → List Char → List Char → Prop
  | start (after : List Char) : Takes same start [] [] after
  | stop (before : List Char) : Takes same stop before [] []
  | any (before : List Char) (c : Char) (after : List Char) : Takes same any before [c] after
  | run (before taken after : List Char) : Takes same run before taken after
  | char (before after : List Char) {p c : Char} (h : same p c = true) :
      Takes same (char p) before [c] after

/-- Parts that match from a place on, with the characters before the place and those behind it. -/
inductive MatchFrom (same : Char → Char → Bool) :
    List RegexPart → List Char → List Char → Prop
  | done (before after : List Char) : MatchFrom same [] before after
  | step {p : RegexPart} {parts : List RegexPart} {before taken after : List Char}
      (h : Takes same p before taken after) (hrest : MatchFrom same parts (before ++ taken) after) :
      MatchFrom same (p :: parts) before (taken ++ after)

/-- Parts that match somewhere in a text. -/
def Occurs (same : Char → Char → Bool) (parts : List RegexPart) (text : List Char) : Prop :=
  ∃ before after, text = before ++ after ∧ MatchFrom same parts before after

variable {same : Char → Char → Bool} {p c : Char} {parts : List RegexPart}
  {before text : List Char}

/-- A text is cut in front of its first character or behind it. -/
theorem exists_cut_cons_iff {describes : List Char → List Char → Prop} :
    (∃ taken after, c :: text = taken ++ after ∧ describes (before ++ taken) after) ↔
      describes before (c :: text) ∨
        ∃ taken after, text = taken ++ after ∧ describes (before ++ [c] ++ taken) after := by
  constructor
  · rintro ⟨_ | ⟨_, taken⟩, after, htext, h⟩
    · rw [List.append_nil] at h
      exact .inl (htext ▸ h)
    · cases htext
      exact .inr ⟨taken, after, rfl, by simpa using h⟩
  · rintro (h | ⟨taken, after, rfl, h⟩)
    · exact ⟨[], c :: text, rfl, by rwa [List.append_nil]⟩
    · exact ⟨c :: taken, after, rfl, by simpa using h⟩

theorem matchFrom_start_iff :
    MatchFrom same (start :: parts) before text ↔ before = [] ∧ MatchFrom same parts [] text := by
  constructor
  · rintro (_ | ⟨⟨⟩, h⟩)
    exact ⟨rfl, h⟩
  · rintro ⟨rfl, h⟩
    exact .step (.start text) h

theorem matchFrom_stop_iff :
    MatchFrom same (stop :: parts) before text ↔ text = [] ∧ MatchFrom same parts before [] := by
  constructor
  · rintro (_ | ⟨⟨⟩, h⟩)
    rw [List.append_nil] at h
    exact ⟨rfl, h⟩
  · rintro ⟨rfl, h⟩
    exact .step (.stop before) (by rwa [List.append_nil])

/-- A run takes any start of what is left. -/
theorem matchFrom_run_iff :
    MatchFrom same (run :: parts) before text ↔
      ∃ taken after, text = taken ++ after ∧ MatchFrom same parts (before ++ taken) after := by
  constructor
  · rintro (_ | ⟨h, hrest⟩)
    exact ⟨_, _, rfl, hrest⟩
  · rintro ⟨taken, after, rfl, h⟩
    exact .step (.run before taken after) h

theorem matchFrom_run_nil_iff :
    MatchFrom same (run :: parts) before [] ↔ MatchFrom same parts before [] := by
  simp [matchFrom_run_iff]

theorem matchFrom_run_cons_iff :
    MatchFrom same (run :: parts) before (c :: text) ↔
      MatchFrom same parts before (c :: text) ∨
        MatchFrom same (run :: parts) (before ++ [c]) text := by
  simp only [matchFrom_run_iff, exists_cut_cons_iff]

theorem matchFrom_any_iff :
    MatchFrom same (any :: parts) before text ↔
      ∃ c after, text = c :: after ∧ MatchFrom same parts (before ++ [c]) after := by
  constructor
  · rintro (_ | ⟨⟨⟩, h⟩)
    exact ⟨_, _, rfl, h⟩
  · rintro ⟨c, after, rfl, h⟩
    exact .step (.any before c after) h

theorem matchFrom_char_iff :
    MatchFrom same (char p :: parts) before text ↔
      ∃ c after, text = c :: after ∧ same p c = true ∧
        MatchFrom same parts (before ++ [c]) after := by
  constructor
  · rintro (_ | ⟨⟨⟩, h⟩)
    exact ⟨_, _, rfl, ‹_›, h⟩
  · rintro ⟨c, after, rfl, hc, h⟩
    exact .step (.char before after hc) h

/-! ### Marks -/

/-- One mark for every place of a text, its end included: whether the place is as described by what
stands before it and what stands behind it. -/
inductive AreMarks (describes : List Char → List Char → Prop) :
    List Char → List Char → List Bool → Prop
  | last {before : List Char} {b : Bool} (h : b = true ↔ describes before []) :
      AreMarks describes before [] [b]
  | step {before text : List Char} {c : Char} {b : Bool} {later : List Bool}
      (h : b = true ↔ describes before (c :: text))
      (hlater : AreMarks describes (before ++ [c]) text later) :
      AreMarks describes before (c :: text) (b :: later)

variable {describes : List Char → List Char → Prop} {marks : List Bool}

namespace AreMarks

/-- The first mark is that of the first place. -/
theorem head_iff (h : AreMarks describes before text marks) :
    marks.head?.getD false = true ↔ describes before text := by
  cases h with
  | last h => exact h
  | step h => exact h

/-- A mark is set if and only if one of the places is as described. -/
theorem any_iff (h : AreMarks describes before text marks) :
    marks.any id = true ↔
      ∃ taken after, text = taken ++ after ∧ describes (before ++ taken) after := by
  induction h with
  | last h => simp [h]
  | step h _ ih => rw [List.any_cons, Bool.or_eq_true, ih, id, h, exists_cut_cons_iff]

/-- Behind its last part, a match can end anywhere. -/
theorem done (same : Char → Char → Bool) (before text : List Char) :
    AreMarks (MatchFrom same []) before text (text.map (fun _ => true) ++ [true]) := by
  have hdone : ∀ before after, true = true ↔ MatchFrom same [] before after :=
    fun before after => iff_of_true rfl (.done before after)
  induction text generalizing before with
  | nil => exact .last (hdone before [])
  | cons c text ih => exact .step (hdone before (c :: text)) (ih _)

theorem not_start (c : Char) (before text : List Char) :
    AreMarks (MatchFrom same (.start :: parts)) (before ++ [c]) text
      ((c :: text).map fun _ => false) := by
  induction text generalizing before c with
  | nil => exact .last (by simp [matchFrom_start_iff])
  | cons d text ih => exact .step (by simp [matchFrom_start_iff]) (ih d _)

/-- The first place alone is the start. -/
theorem start (h : AreMarks (MatchFrom same parts) [] text marks) :
    AreMarks (MatchFrom same (.start :: parts)) [] text
      (marks.take 1 ++ text.map fun _ => false) := by
  cases h with
  | last h => exact .last (by simp [matchFrom_start_iff, h])
  | @step _ text c b later h _ =>
    exact .step (by simp [matchFrom_start_iff, h]) (not_start c [] text)

/-- The last place alone is the end. -/
theorem stop (h : AreMarks (MatchFrom same parts) before text marks) :
    AreMarks (MatchFrom same (.stop :: parts)) before text
      ((text.map fun _ => false) ++ marks.drop text.length) := by
  induction h with
  | last h => exact .last (by simp [matchFrom_stop_iff, h])
  | step _ _ ih => exact .step (by simp [matchFrom_stop_iff]) ih

/-- A run ends at any later place, so it starts where one of the marks from there on is set. -/
theorem run (h : AreMarks (MatchFrom same parts) before text marks) :
    AreMarks (MatchFrom same (.run :: parts)) before text (trueFrom marks) := by
  induction h with
  | last h =>
    refine .last ?_
    simp [trueFrom, matchFrom_run_nil_iff, h]
  | step h _ ih =>
    refine .step ?_ ih
    rw [Bool.or_eq_true, h, ih.head_iff, matchFrom_run_cons_iff]

/-- One character starts right before it, where the mark behind it is set. -/
theorem stepBack {p : RegexPart} {accepts : Char → Bool}
    (hnil : ∀ before, ¬MatchFrom same (p :: parts) before [])
    (hcons : ∀ before c after, MatchFrom same (p :: parts) before (c :: after) ↔
      accepts c = true ∧ MatchFrom same parts (before ++ [c]) after)
    (h : AreMarks (MatchFrom same parts) before text marks) :
    AreMarks (MatchFrom same (p :: parts)) before text (stepBack accepts text marks) := by
  induction h with
  | last => exact .last (by simp [hnil])
  | @step before text c b later _ hlater ih =>
    have hhead := hlater.head_iff
    cases hlater with
    | last | step =>
      refine .step ?_ ih
      simp only [List.head?_cons, Option.getD_some] at hhead
      rw [Bool.and_eq_true, hcons, hhead]

theorem marksBefore (p : RegexPart) (h : AreMarks (MatchFrom same parts) [] text marks) :
    AreMarks (MatchFrom same (p :: parts)) [] text (p.marksBefore same text marks) := by
  cases p with
  | start => exact h.start
  | stop => exact h.stop
  | run => exact h.run
  | any =>
    exact h.stepBack (fun _ => by simp [matchFrom_any_iff])
      fun _ _ _ => by simp [matchFrom_any_iff]
  | char p =>
    exact h.stepBack (fun _ => by simp [matchFrom_char_iff])
      fun _ _ _ => by simp [matchFrom_char_iff]

end AreMarks

/-- The marks in front of all parts are those of the places that the parts match from. -/
theorem areMarks_foldr (same : Char → Char → Bool) (parts : List RegexPart) (text : List Char) :
    AreMarks (MatchFrom same parts) [] text
      (parts.foldr (fun p marks => p.marksBefore same text marks)
        (text.map (fun _ => true) ++ [true])) := by
  induction parts with
  | nil => exact .done same [] text
  | cons p parts ih => exact ih.marksBefore p

/-- A search finds the parts if and only if they match somewhere in the text. -/
theorem search_iff (same : Char → Char → Bool) (parts : List RegexPart) (text : List Char) :
    search same parts text = true ↔ Occurs same parts text :=
  (areMarks_foldr same parts text).any_iff

end TypedFilter.Text.RegexPart
