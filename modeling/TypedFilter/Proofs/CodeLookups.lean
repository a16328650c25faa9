import Mathlib.Data.List.Induction
import TypedFilter.Proofs.CodeTables
import TypedFilter.Proofs.DisplayKeys

/-!
Looking codes up by what is shown for them. Main statement: whatever codes were added and replaced,
an identifier that is found shows the parts that it was looked up by, and parts that a code shows
are found if and only if no code has lost them, for good, that shared them with another one.
-/

namespace TypedFilter.CodeTable

variable {t t' : CodeTable} {id : Value} {values parts : List Value} {place : Nat} {k : String}
  {name : String} {codes : List (Value × List Value)}

/-- Whether the code with an identifier has display values that agree with some parts one by one. -/
def Shows (t : CodeTable) (id : Value) (parts : List Value) : Prop :=
  ∃ values, t.values? id = some values ∧ List.Forall₂ Agree values parts

/-- Whether the code with an identifier is not the only one that shows some parts. -/
def Shares (t : CodeTable) (id : Value) (parts : List Value) : Prop :=
  t.Shows id parts ∧ ∃ id' ∈ t.identifiers, ¬Agree id' id ∧ t.Shows id' parts

/-- Whether parts that several codes show are never lost for good: where one of these codes is
replaced, a code that is added then or later has them. -/
def KeepsShared (name : String) (codes : List (Value × List Value)) (parts : List Value) : Prop :=
  ∀ before c after, codes = before ++ c :: after → (ofCodes name before).Shares c.1 parts →
    ∃ c' ∈ c :: after, List.Forall₂ Agree c'.2 parts

theorem ofCodes_concat (name : String) (codes : List (Value × List Value))
    (c : Value × List Value) :
    ofCodes name (codes ++ [c]) = (ofCodes name codes).add c.1 c.2 := by
  rw [ofCodes, ofCodes, List.foldl_append, List.foldl_cons, List.foldl_nil]

theorem ofCodes_append (name : String) (codes more : List (Value × List Value)) :
    ofCodes name (codes ++ more) =
      more.foldl (fun t code => t.add code.1 code.2) (ofCodes name codes) := by
  rw [ofCodes, ofCodes, List.foldl_append]

/-! ### Where keys lead -/

/-- Whether the display values of the code at a place have a key. -/
def HasAt (t : CodeTable) (place : Nat) (k : String) : Prop :=
  (t.codes[place]?.map fun c => key c.2) = some k

theorem hasAt_iff : t.HasAt place k ↔ ∃ id values, t.codes[place]? = some (id, values) ∧
    key values = k := by
  rw [HasAt, Option.map_eq_some_iff, Prod.exists]

theorem AddsAt.hasAt_iff (hadd : t.AddsAt id values place t') {p : Nat} :
    t'.HasAt p k ↔ if p = place then key values = k else t.HasAt p k := by
  rw [HasAt, hadd.codes]
  split
  · rw [Option.map_some, Option.some.injEq]
  · exact Iff.rfl

/-- Whether a key leads to a code if there is a code that has it. -/
def Finds (t : CodeTable) (k : String) : Prop :=
  ∀ place, t.HasAt place k → t.byValues.get? k ≠ none

theorem AddsAt.finds_self (hadd : t.AddsAt id values place t') : t'.Finds (key values) := by
  intro p _
  rw [hadd.byValues, if_pos rfl]
  exact Option.some_ne_none place

/-- Another key is still found, unless it is the key of the code that is replaced and of one that
stays. -/
theorem AddsAt.finds (hadd : t.AddsAt id values place t') (hk : key values ≠ k) (h : t.Finds k)
    (halone : t.HasAt place k → ∀ p, t.HasAt p k → p = place) : t'.Finds k := by
  intro p hp
  rw [hadd.hasAt_iff] at hp
  split at hp
  · exact absurd hp hk
  · rename_i hne
    have hold : ¬t.HasAt place k := fun hold => hne (halone hold p hp)
    have hsame : t'.byValues.get? k = t.byValues.get? k := by
      rw [hadd.byValues, if_neg (Ne.symm hk)]
      exact if_neg hold
    exact hsame ▸ h p hp

/-- A key that is lost stays lost until a code gets it. -/
theorem byValues_foldl_eq_none (h : t.IsIndexed) (hnone : t.byValues.get? k = none)
    (hk : ∀ c ∈ codes, key c.2 ≠ k) :
    (codes.foldl (fun t code => t.add code.1 code.2) t).byValues.get? k = none := by
  induction codes generalizing t with
  | nil => exact hnone
  | cons c codes ih =>
    obtain ⟨hc, hcodes⟩ := List.forall_mem_cons.1 hk
    obtain ⟨place, hadd⟩ := h.exists_addsAt c.1 c.2
    refine ih (hadd.isIndexed h) ?_ hcodes
    rw [hadd.byValues, if_neg (Ne.symm hc), hnone, ite_self]

/-! ### What codes show -/

/-- A code of the table is one of those that were added. -/
theorem mem_of_ofCodes {c : Value × List Value} (h : (ofCodes name codes).codes[place]? = some c) :
    c ∈ codes := by
  induction codes using List.reverseRecOn generalizing place with
  | nil => cases h
  | append_singleton codes c' ih =>
    obtain ⟨p, hadd⟩ := (isIndexed_ofCodes name codes).exists_addsAt c'.1 c'.2
    rw [ofCodes_concat, hadd.codes] at h
    split at h
    · cases h
      exact List.mem_append_right _ (List.mem_singleton_self _)
    · exact List.mem_append_left _ (ih h)

theorem IsIndexed.values?_eq_some_iff (h : t.IsIndexed) : t.values? id = some values ↔
    ∃ place id', t.byId.get? (key [id]) = some place ∧ t.codes[place]? = some (id', values) := by
  rw [values?, Option.map_eq_some_iff]
  constructor
  · rintro ⟨place, hplace, hvalues⟩
    obtain ⟨id', values', hcode, -⟩ := h.byId.1 hplace
    rw [valuesAt, hcode] at hvalues
    exact ⟨place, id', hplace, hvalues ▸ hcode⟩
  · rintro ⟨place, id', hplace, hcode⟩
    exact ⟨place, hplace, by rw [valuesAt, hcode]⟩

/-- A lookup among display values that have parts without the separator, for such parts. -/
structure IsClear (codes : List (Value × List Value)) (parts : List Value) : Prop where
  parts_ne : parts ≠ []
  parts_lack : ∀ v ∈ parts, LacksSeparator v
  codes_ne : ∀ c ∈ codes, c.2 ≠ []
  codes_lack : ∀ c ∈ codes, ∀ v ∈ c.2, LacksSeparator v

theorem IsClear.key_eq_iff (h : IsClear codes parts) {c : Value × List Value} (hc : c ∈ codes) :
    key c.2 = key parts ↔ List.Forall₂ Agree c.2 parts :=
  CodeTable.key_eq_iff (h.codes_ne c hc) h.parts_ne (h.codes_lack c hc) h.parts_lack

theorem IsClear.mono {more : List (Value × List Value)} (h : IsClear codes parts)
    (hmore : ∀ c ∈ more, c ∈ codes) : IsClear more parts :=
  ⟨h.parts_ne, h.parts_lack, fun c hc => h.codes_ne c (hmore c hc),
    fun c hc => h.codes_lack c (hmore c hc)⟩

/-- A code shows parts if and only if its display values have their key. -/
theorem shows_iff (hclear : IsClear codes parts) : (ofCodes name codes).Shows id parts ↔
    ∃ place, (ofCodes name codes).byId.get? (key [id]) = some place ∧
      (ofCodes name codes).HasAt place (key parts) := by
  simp only [Shows, (isIndexed_ofCodes name codes).values?_eq_some_iff, hasAt_iff]
  constructor
  · rintro ⟨values, ⟨place, id', hplace, hcode⟩, hagree⟩
    exact ⟨place, hplace, id', values, hcode, key_eq_of_agree hagree⟩
  · rintro ⟨place, hplace, id', values, hcode, hkey⟩
    exact ⟨values, ⟨place, id', hplace, hcode⟩,
      (hclear.key_eq_iff (mem_of_ofCodes hcode)).1 hkey⟩

/-- A code shares parts if and only if the code at another place has their key too. -/
theorem shares_iff (hclear : IsClear codes parts) : (ofCodes name codes).Shares id parts ↔
    ∃ place, (ofCodes name codes).byId.get? (key [id]) = some place ∧
      (ofCodes name codes).HasAt place (key parts) ∧
      ∃ p, p ≠ place ∧ (ofCodes name codes).HasAt p (key parts) := by
  have hindexed := isIndexed_ofCodes name codes
  rw [Shares, shows_iff hclear]
  constructor
  · rintro ⟨⟨place, hplace, hhas⟩, id', -, hne, hshows⟩
    obtain ⟨p, hp, hhas'⟩ := (shows_iff hclear).1 hshows
    refine ⟨place, hplace, hhas, p, ?_, hhas'⟩
    rintro rfl
    obtain ⟨id₁, values₁, hcode₁, hkey₁⟩ := hindexed.byId.1 hplace
    obtain ⟨id₂, values₂, hcode₂, hkey₂⟩ := hindexed.byId.1 hp
    cases hcode₁.symm.trans hcode₂
    exact hne (key_singleton_eq_iff.1 (hkey₂.symm.trans hkey₁))
  · rintro ⟨place, hplace, hhas, p, hne, hhas'⟩
    obtain ⟨id', values', hcode, hkey⟩ := hasAt_iff.1 hhas'
    have hp := hindexed.byId.2 ⟨id', values', hcode, rfl⟩
    refine ⟨⟨place, hplace, hhas⟩, id', ?_, fun hagree => ?_, (shows_iff hclear).2 ⟨p, hp, hhas'⟩⟩
    · exact List.mem_map.2 ⟨_, List.mem_of_getElem? hcode, rfl⟩
    · rw [key_singleton_eq_iff.2 hagree, hplace] at hp
      exact hne (Option.some.inj hp).symm

/-! ### Lookups after a run of additions -/

/-- Parts that no shared code lost are found. -/
theorem finds_ofCodes (hclear : IsClear codes parts) (h : KeepsShared name codes parts) :
    (ofCodes name codes).Finds (key parts) := by
  induction codes using List.reverseRecOn with
  | nil =>
    intro place hhas
    cases hhas
  | append_singleton codes c ih =>
    have hindexed := isIndexed_ofCodes name codes
    obtain ⟨place, hadd⟩ := hindexed.exists_addsAt c.1 c.2
    rw [ofCodes_concat]
    by_cases hc : key c.2 = key parts
    · exact hc ▸ hadd.finds_self
    have hdiffers : ¬List.Forall₂ Agree c.2 parts := fun hagree => hc (key_eq_of_agree hagree)
    have hclear' : IsClear codes parts := hclear.mono fun _ => List.mem_append_left _
    have hkeeps : KeepsShared name codes parts := by
      rintro before c' after rfl hshares
      obtain ⟨c'', hc'', hagree⟩ := h before c' (after ++ [c]) (by simp) hshares
      rw [← List.cons_append, List.mem_append, List.mem_singleton] at hc''
      rcases hc'' with hmem | rfl
      · exact ⟨c'', hmem, hagree⟩
      · exact absurd hagree hdiffers
    refine hadd.finds hc (ih hclear' hkeeps) fun hhas p hhas' => ?_
    by_contra hne
    -- the place that the code takes is that of its identifier, since another code was there
    have hplace : (ofCodes name codes).byId.get? (key [c.1]) = some place := by
      rcases hadd.free with hplace | ⟨-, hnone⟩
      · exact hplace
      · rw [HasAt, hnone] at hhas
        cases hhas
    have hshares := (shares_iff hclear').2 ⟨place, hplace, hhas, p, hne, hhas'⟩
    obtain ⟨c', hc', hagree⟩ := h codes c [] rfl hshares
    rw [List.mem_singleton.1 hc'] at hagree
    exact hdiffers hagree

/-- Parts that a shared code lost lead nowhere until a code gets them. -/
theorem keepsShared_of_byValues (hclear : IsClear codes parts)
    (h : (ofCodes name codes).byValues.get? (key parts) ≠ none) :
    KeepsShared name codes parts := by
  rintro before c after rfl hshares
  by_contra hlost
  have hindexed := isIndexed_ofCodes name before
  have hkey : ∀ c' ∈ c :: after, key c'.2 ≠ key parts := fun c' hc' heq =>
    hlost ⟨c', hc', (hclear.key_eq_iff (List.mem_append_right _ hc')).1 heq⟩
  obtain ⟨hc, hafter⟩ := List.forall_mem_cons.1 hkey
  obtain ⟨place, hplace, hhas, -⟩ :=
    (shares_iff (hclear.mono fun _ => List.mem_append_left _)).1 hshares
  obtain ⟨place', hadd⟩ := hindexed.exists_addsAt c.1 c.2
  obtain rfl : place = place' := by
    rcases hadd.free with hplace' | ⟨hnone, -⟩
    · exact Option.some.inj (hplace.symm.trans hplace')
    · cases hplace.symm.trans hnone
  have hnone : ((ofCodes name before).add c.1 c.2).byValues.get? (key parts) = none := by
    rw [hadd.byValues, if_neg (Ne.symm hc)]
    exact if_pos hhas
  refine h ?_
  rw [List.append_cons, ofCodes_append, ofCodes_concat]
  exact byValues_foldl_eq_none (hadd.isIndexed hindexed) hnone hafter

/-- Parts that are not a single identifier are looked up among the display values. -/
theorem identifier?_of_not_identifier (h : t.IsIndexed) (hnull : parts.all Value.isNull = false)
    (hid : ∀ v, parts = [v] → ∀ id ∈ t.identifiers, ¬Agree id v) :
    t.identifier? parts = (t.byValues.get? (key parts)).bind t.identifierAt? := by
  have hdirect : (if parts.length = 1 then t.byId.get? (key parts) else none) = none := by
    split
    · rename_i hlen
      obtain ⟨v, rfl⟩ := List.length_eq_one_iff.1 hlen
      rw [Option.eq_none_iff_forall_ne_some]
      intro place hplace
      obtain ⟨id, values, hcode, hkey⟩ := h.byId.1 hplace
      exact hid v rfl id (List.mem_map.2 ⟨_, List.mem_of_getElem? hcode, rfl⟩)
        (key_singleton_eq_iff.1 hkey)
    · rfl
  rw [identifier?, hnull, if_neg Bool.false_ne_true]
  simp only [hdirect, Option.orElse_eq_orElse, Option.orElse_eq_or, Option.none_or]

/-- Whatever codes were added and replaced, an identifier that is found for parts shows them; and if
a code shows them, then one is found if and only if they were never lost for good. The texts of all
parts lack the character that separates their keys. -/
theorem lookup_shows_iff_keepsShared (hnull : parts.all Value.isNull = false)
    (hid : ∀ v, parts = [v] → ∀ id ∈ (ofCodes name codes).identifiers, ¬Agree id v)
    (hparts : ∀ v ∈ parts, LacksSeparator v)
    (hcodes : ∀ c ∈ codes, c.2 ≠ [] ∧ ∀ v ∈ c.2, LacksSeparator v) :
    (∀ id, (ofCodes name codes).identifier? parts = some id →
      (ofCodes name codes).Shows id parts) ∧
    ∀ id, (ofCodes name codes).Shows id parts →
      ((∃ id', (ofCodes name codes).identifier? parts = some id') ↔
        KeepsShared name codes parts) := by
  have hclear : IsClear codes parts := by
    refine ⟨?_, hparts, fun c hc => (hcodes c hc).1, fun c hc => (hcodes c hc).2⟩
    rintro rfl
    cases hnull
  have hindexed := isIndexed_ofCodes name codes
  have hlookup := identifier?_of_not_identifier hindexed hnull hid
  have hfound : ∀ place, (ofCodes name codes).byValues.get? (key parts) = some place →
      ∃ id, (ofCodes name codes).identifierAt? place = some id ∧
        (ofCodes name codes).Shows id parts := by
    intro place hplace
    obtain ⟨id, values, hcode, hkey⟩ := hindexed.byValues hplace
    exact ⟨id, by rw [identifierAt?, hcode, Option.map_some], (shows_iff hclear).2
      ⟨place, hindexed.byId.2 ⟨id, values, hcode, rfl⟩, hasAt_iff.2 ⟨id, values, hcode, hkey⟩⟩⟩
  refine ⟨fun id hsome => ?_, fun id hshows => ⟨?_, fun hkeeps => ?_⟩⟩
  · rw [hlookup] at hsome
    obtain ⟨place, hplace, hat⟩ := Option.bind_eq_some_iff.1 hsome
    obtain ⟨id', hat', hshows⟩ := hfound place hplace
    cases hat.symm.trans hat'
    exact hshows
  · rintro ⟨id', hsome⟩
    rw [hlookup] at hsome
    obtain ⟨place, hplace, -⟩ := Option.bind_eq_some_iff.1 hsome
    exact keepsShared_of_byValues hclear (by rw [hplace]; exact Option.some_ne_none place)
  · obtain ⟨place, -, hhas⟩ := (shows_iff hclear).1 hshows
    obtain ⟨p, hp⟩ := Option.ne_none_iff_exists'.1 (finds_ofCodes hclear hkeeps place hhas)
    obtain ⟨id', hat, -⟩ := hfound p hp
    exact ⟨id', by rw [hlookup, hp]; exact hat⟩

/-- Two codes show the same part and one of them is replaced, but a third one gets the part then;
texts are found in any case and numbers with any number of places. -/
theorem lookup_shows_iff_keepsShared_levels :
    let one : Value := .integer .int ⟨1, by decide⟩
    let two : Value := .integer .long ⟨2, by decide⟩
    let three : Value := .integer .short ⟨3, by decide⟩
    let half : Value := .decimal ⟨false, 250, 2, by decide, by decide⟩
    let short : Value := .decimal ⟨false, 25, 1, by decide, by decide⟩
    let codes : List (Value × List Value) :=
      [(one, [.string "Open", half]), (two, [.string "OPEN", half]),
        (one, [.string "Closed", half]), (three, [.string "open", short])]
    let parts : List Value := [.string "oPEN", short]
    let t := ofCodes "LEVEL" codes
    parts.all Value.isNull = false ∧
      (∀ v, parts = [v] → ∀ id ∈ t.identifiers, ¬Agree id v) ∧
      (∀ v ∈ parts, LacksSeparator v) ∧
      (∀ c ∈ codes, c.2 ≠ [] ∧ ∀ v ∈ c.2, LacksSeparator v) ∧
      t.identifier? parts = some three ∧ t.Shows three parts ∧
      KeepsShared "LEVEL" codes parts := by
  intro one two three half short codes parts t
  have hnull : parts.all Value.isNull = false := by decide
  have hid : ∀ v, parts = [v] → ∀ id ∈ t.identifiers, ¬Agree id v := by
    intro v hv
    have hlen : 2 = 1 := congrArg List.length hv
    contradiction
  have hparts : ∀ v ∈ parts, LacksSeparator v := by decide +kernel
  have hcodes : ∀ c ∈ codes, c.2 ≠ [] ∧ ∀ v ∈ c.2, LacksSeparator v := by decide +kernel
  have hfound : t.identifier? parts = some three := by decide +kernel
  obtain ⟨hsound, hcomplete⟩ := lookup_shows_iff_keepsShared hnull hid hparts hcodes
  have hshows := hsound three hfound
  exact ⟨hnull, hid, hparts, hcodes, hfound, hshows, (hcomplete three hshows).1 ⟨three, hfound⟩⟩

/-- A part that two codes show is not found any more after one of them is replaced, a part that
contains the separator is found by two parts, and a number beyond the range of decimals is not found
in another width. -/
theorem shared_parts_are_lost :
    let one : Value := .integer .int ⟨1, by decide⟩
    let two : Value := .integer .int ⟨2, by decide⟩
    let shared := ofCodes "STATUS"
      [(one, [.string "A"]), (two, [.string "A"]), (one, [.string "B"])]
    let joined := ofCodes "STATUS" [(one, [.string "a\x1fb"])]
    let parts : List Value := [.string "a", .string "b"]
    let single : Value := .float (.ofInt .single (pow2 100))
    let double : Value := .double (.ofInt .double (pow2 100))
    let large := ofCodes "STATUS" [(one, [single])]
    (shared.Shows two [.string "A"] ∧ shared.identifier? [.string "A"] = none) ∧
      (joined.identifier? parts = some one ∧ ¬joined.Shows one parts) ∧
      single.equal double = true ∧ large.values? one = some [single] ∧
      large.identifier? [double] = none := by
  intro one two shared joined parts single double large
  have hshown : shared.values? two = some [.string "A"] := by decide +kernel
  have hjoined : joined.values? one = some [.string "a\x1fb"] := by decide +kernel
  refine ⟨⟨⟨_, hshown, by decide +kernel⟩, by decide +kernel⟩, ⟨by decide +kernel, ?_⟩,
    by decide +kernel, by decide +kernel, by decide +kernel⟩
  rintro ⟨values, hvalues, hagree⟩
  cases hjoined.symm.trans hvalues
  have hlen : 1 = 2 := hagree.length_eq
  contradiction

end TypedFilter.CodeTable
