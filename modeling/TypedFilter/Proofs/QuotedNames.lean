import TypedFilter.Proofs.Clauses
import TypedFilter.Proofs.Names

/-!
Column names in clauses. A name is written bare or in double quotes, and the lexer reads it back as
it was. Main statement: a clause that tests a column is always taken, and it is about the column of
that name unless the name stands between double quotes of its own.
-/

namespace TypedFilter

namespace Sql

theorem quoteName_injective {m n : String} (h : quoteName m = quoteName n) : m = n := by
  have hm := lexes_quoteName m 0 [] rfl
  have hn := lexes_quoteName n 0 [] rfl
  rw [h, hn, tokensFrom_nil] at hm
  injection hm with hm
  injection hm with hm
  injection hm with hm
  exact hm.symm

end Sql

namespace Column

theorem name_ofName_eq_iff (n : String) : (ofName n).name = n ↔ ¬IsWrapped n := by
  constructor
  · rintro hname hwrapped
    obtain ⟨rest, hn, hlast⟩ := (isWrapped_iff n).1 hwrapped
    have hlist : ((ofName n).name).toList = rest.dropLast := by
      rw [ofName, hn]
      simp [hlast]
    have hlen := congrArg List.length (hlist.symm.trans ((congrArg String.toList hname).trans hn))
    rw [List.length_dropLast, List.length_cons] at hlen
    omega
  · intro h
    rw [ofName_of_not_wrapped h]

end Column

namespace Expr

theorem ofClause_isNull (n : String) :
    ofClause none (Sql.quoteName n ++ " IS NULL") = .ok (.isNull (.ofName n)) := by
  have hname : Sql.Written 5 (Sql.quoteName n) (.column n) :=
    (written_column ⟨n, none⟩).mono (by decide) (by decide) (by decide)
  rw [ofClause_of_written none (hname.isNull.mono (by decide) (by decide) (by decide))]
  rfl

theorem sql_isNull (c : Column) : (isNull (.column c)).sql = Sql.quoteName c.name ++ " IS NULL" :=
  rfl

/-- A quoted name is always taken, as a column without a field. The column has that name, and the
tree is written as it was read, if and only if the name does not stand between double quotes. -/
theorem quoted_name_is_read (n : String) :
    ∃ c : Column, ofClause none (Sql.quoteName n ++ " IS NULL") = .ok (.isNull (.column c)) ∧
      c.field = none ∧ (c.name = n ↔ ¬Column.IsWrapped n) ∧
      ((isNull (.column c)).sql = Sql.quoteName n ++ " IS NULL" ↔ ¬Column.IsWrapped n) := by
  have hname := Column.name_ofName_eq_iff n
  refine ⟨.ofName n, ofClause_isNull n, Column.field_ofName n, hname, ?_⟩
  rw [sql_isNull, String.append_left_inj, ← hname]
  exact ⟨fun h => Sql.quoteName_injective h, congrArg Sql.quoteName⟩

/-- A name between double quotes of its own is read as the name between them. -/
theorem wrapped_name_loses_its_quotes :
    let n : String := "\"a\""
    Sql.quoteName n ++ " IS NULL" = "\"\"\"a\"\"\" IS NULL" ∧
      ofClause none (Sql.quoteName n ++ " IS NULL") = .ok (.isNull (.column ⟨"a", none⟩)) ∧
      (isNull (.column ⟨"a", none⟩)).sql = "a IS NULL" := by
  intro n
  have hname : Column.ofName n = ⟨"a", none⟩ := by decide +kernel
  have hread := ofClause_isNull n
  rw [ofName, hname] at hread
  exact ⟨by decide +kernel, hread, by decide +kernel⟩

end Expr

end TypedFilter
