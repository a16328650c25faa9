import TypedFilter.Text.Blank

/-!
Texts that neither start nor end with a blank. Main statement: cutting the blanks off such a text
leaves it as it is.
-/

namespace TypedFilter.Text

/-- Neither the first nor the last character is a blank. -/
structure Bordered (s : String) : Prop where
  first : ∃ c ∈ s.toList.head?, isBlank c = false
  last : ∃ c ∈ s.toList.getLast?, isBlank c = false

theorem trimStart_of_head {cs : List Char} (h : ∃ c ∈ cs.head?, isBlank c = false) :
    trimStart cs = cs := by
  obtain ⟨c, hc, hblank⟩ := h
  cases cs with
  | nil => cases hc
  | cons d cs =>
    cases hc
    rw [trimStart, List.dropWhile_cons_of_neg (by rw [hblank]; decide)]

theorem trimEnd_of_last {cs : List Char} (h : ∃ c ∈ cs.getLast?, isBlank c = false) :
    trimEnd cs = cs := by
  rw [trimEnd, ← trimStart, trimStart_of_head, List.reverse_reverse]
  rwa [List.head?_reverse]

namespace Bordered

variable {s a b : String}

theorem trim (h : Bordered s) : Text.trim s = s := by
  rw [Text.trim, trimStart_of_head h.first, trimEnd_of_last h.last, String.ofList_toList]

theorem not_allBlank (h : Bordered s) : allBlank s = false := by
  obtain ⟨c, hc, hblank⟩ := h.first
  rw [Bool.eq_false_iff]
  intro hall
  have := List.all_eq_true.1 hall c (List.mem_of_mem_head? hc)
  rw [hblank] at this
  cases this

theorem ne_empty (h : Bordered s) : s.isEmpty = false := by
  obtain ⟨c, hc, -⟩ := h.first
  rw [Bool.eq_false_iff, Ne, String.isEmpty_iff]
  rintro rfl
  cases hc

/-- A text that starts like one text and ends like another. -/
theorem around (ha : Bordered a) (m : String) (hb : Bordered b) : Bordered (a ++ m ++ b) := by
  obtain ⟨c, hc, hblank⟩ := ha.first
  obtain ⟨d, hd, hblank'⟩ := hb.last
  refine ⟨⟨c, ?_, hblank⟩, ⟨d, ?_, hblank'⟩⟩
  · rw [String.toList_append, String.toList_append, List.head?_append, List.head?_append,
      Option.mem_def.1 hc]
    rfl
  · rw [String.toList_append, List.getLast?_append, Option.mem_def.1 hd]
    rfl

theorem append (ha : Bordered a) (hb : Bordered b) : Bordered (a ++ b) := by
  have h := ha.around "" hb
  rwa [String.append_empty] at h

/-- A text without blanks. -/
theorem ofForall (hne : s.toList ≠ []) (h : ∀ c ∈ s.toList, isBlank c = false) : Bordered s := by
  obtain ⟨c, cs, hcs⟩ := List.exists_cons_of_ne_nil hne
  refine ⟨⟨c, by rw [hcs]; rfl, h c (by rw [hcs]; exact List.mem_cons_self ..)⟩, ?_⟩
  refine ⟨s.toList.getLast hne, List.getLast?_eq_some_getLast hne, h _ (List.getLast_mem hne)⟩

end Bordered

end TypedFilter.Text
