/-
# `Storage.Placeholders` — placeholders outside literals

`to_postgres_placeholders` (`storage/sql.py`) walks a statement with a flag for the
literal it is in, and steps over a doubled quote there.  The flag is the parity of the
quotes it has passed (`placeholders_eq`): inside a literal their number is odd, and a
doubled quote does not change it.
-/
import ImpactRelay.Lib.Scan
import Mathlib

namespace ImpactRelay

/-! ## The loop -/

/-- The loop from a position on: the flag, what has been written, and what is left. -/
def placeholders (inLiteral : Bool) (out : List Char) : List Char → List Char
  | [] => out
  | '\'' :: rest =>
      match inLiteral, rest with
      | true, '\'' :: rest => placeholders true (out ++ ['\'', '\'']) rest
      | _, rest => placeholders (!inLiteral) (out ++ ['\'']) rest
  | c :: rest =>
      if c = '?' ∧ inLiteral = false then placeholders inLiteral (out ++ ['%', 's']) rest
      else placeholders inLiteral (out ++ [c]) rest

/-- Rewrite `?` placeholders as `%s`. -/
def toPostgresPlaceholders (statement : String) : String :=
  String.ofList (placeholders false [] statement.toList)

/-! ## By parity -/

/-- What stands for a character with this text before it. -/
def placeholderAfter (before : List Char) (c : Char) : List Char :=
  if c = '?' ∧ Even (before.count '\'') then ['%', 's'] else [c]

theorem placeholderAfter_of_ne {before : List Char} {c : Char} (h : c ≠ '?') :
    placeholderAfter before c = [c] :=
  if_neg fun hc => h hc.1

theorem count_append_of_ne {before : List Char} {c : Char} (h : ¬ c = '\'') :
    (before ++ [c]).count '\'' = before.count '\'' := by
  rw [List.count_append, List.count_singleton, if_neg (by simpa using h), Nat.add_zero]

/-- The flag says whether an odd number of quotes has been passed. -/
theorem placeholders_eq {inLiteral : Bool} {out before rest : List Char}
    (hflag : inLiteral = false ↔ Even (before.count '\'')) :
    placeholders inLiteral out rest = out ++ Scan.eachAfter placeholderAfter before rest := by
  induction inLiteral, out, rest using placeholders.induct generalizing before with
  | case1 inLiteral out => rw [placeholders, Scan.eachAfter, List.append_nil]
  | case2 out rest ih =>
      have htwo : true = false ↔ Even ((before ++ ['\''] ++ ['\'']).count '\'') := by
        rw [hflag]
        simp [Nat.even_add_one]
      rw [placeholders, ih htwo]
      simp [Scan.eachAfter, placeholderAfter_of_ne]
  | case3 inLiteral out rest hnot ih =>
      have hone : (!inLiteral) = false ↔ Even ((before ++ ['\'']).count '\'') := by
        rw [List.count_append, List.count_singleton_self, Nat.even_add_one, ← hflag]
        simp
      rw [placeholders, ih hone]
      · simp [Scan.eachAfter, placeholderAfter_of_ne]
      · exact hnot
  | case4 inLiteral out c rest hquote hmark ih =>
      rw [placeholders, if_pos hmark, ih ((count_append_of_ne hquote).symm ▸ hflag), Scan.eachAfter,
        placeholderAfter, if_pos ⟨hmark.1, hflag.mp hmark.2⟩, List.append_assoc]
      exact hquote
  | case5 inLiteral out c rest hquote hmark ih =>
      have hkept : ¬ (c = '?' ∧ Even (before.count '\'')) :=
        fun h => hmark ⟨h.1, hflag.mpr h.2⟩
      rw [placeholders, if_neg hmark, ih ((count_append_of_ne hquote).symm ▸ hflag), Scan.eachAfter,
        placeholderAfter, if_neg hkept, List.append_assoc]
      exact hquote

/-- Every `?` with an even number of quotes before it is a placeholder; no other character
is changed. -/
theorem rewrites_outside_literals (statement : String) :
    (toPostgresPlaceholders statement).toList =
      statement.toList.zipIdx.flatMap fun e =>
        if e.1 = '?' ∧ Even ((statement.toList.take e.2).count '\'') then ['%', 's'] else [e.1] := by
  have hstart : false = false ↔ Even (([] : List Char).count '\'') := ⟨fun _ => ⟨0, rfl⟩, fun _ => rfl⟩
  rw [toPostgresPlaceholders, String.toList_ofList, placeholders_eq hstart, Scan.eachAfter_eq]
  rfl

example : toPostgresPlaceholders "a = ? and b = 'it''s ?' or c = 'why?" =
    "a = %s and b = 'it''s ?' or c = 'why?" := by decide

end ImpactRelay
