import TableDdl.Proofs.Matching.Ways
import TableDdl.Proofs.Matching.Evaluate
import TableDdl.Reader.Column
import TableDdl.Render.Column

/-!
# Reading column lines

A column line is read by searching it with the full column grammar and, when that fails, with
the loose one. The searches are the compiled ones, and for these grammars they find the
leftmost-first match of the pattern (`Program.find?_agrees`), which decides every group the
column is built from. So reading a column line is a function of the leftmost-first matches
(`readColumn_eq_leftmost`), and that form can be evaluated on a fixed line.

The full grammar does not invert the way columns are written. Its generated expression runs to
the last closing parenthesis of the line, so a comment after it that holds a closing parenthesis
followed by a space is taken into the expression, and what is left of the comment ends up in the
catch-all extra text (`readColumn_takes_comment_into_generated`).
-/

namespace TableDdl.Reader

open Pattern

/-- A column is read the same way from two matches that agree on their bounds and groups. -/
theorem columnOfMatch_congr {q : Quoting} {reg : TypeRegistry} {s : List Char} {m m' : Match}
    (h : m.Agrees m') (full : Bool) :
    columnOfMatch q reg s m full = columnOfMatch q reg s m' full := by
  have hg : m.group? s = m'.group? s := funext (h.group? s)
  unfold columnOfMatch
  rw [hg]

/-- Reading a column line, with both searches replaced by the leftmost-first matches of the
grammars' patterns. -/
theorem readColumn_eq_leftmost {g : LineGrammars} (q : Quoting) (reg : TypeRegistry)
    (line : String)
    (hc : g.column.Progressive) (hcn : g.column.groupNames.Nodup)
    (hl : g.looseColumn.Progressive) (hln : g.looseColumn.groupNames.Nodup) :
    readColumn g q reg line =
      match g.column.leftmost line.toList with
      | some m =>
        (some (columnOfMatch q reg line.toList m true).1,
          (columnOfMatch q reg line.toList m true).2)
      | none =>
        match g.looseColumn.leftmost line.toList with
        | some m =>
          (some (columnOfMatch q reg line.toList m false).1,
            .incompleteColumnReflection line :: (columnOfMatch q reg line.toList m false).2)
        | none => (none, [.unknownColumnDefinition line]) := by
  have hfull := Program.find?_agrees hc hcn line.toList
  have hloose := Program.find?_agrees hl hln line.toList
  unfold readColumn
  dsimp only
  generalize g.column.find? line.toList = a at hfull ⊢
  generalize g.column.leftmost line.toList = b at hfull ⊢
  cases hfull with
  | some hm => simp [columnOfMatch_congr hm]
  | none =>
    -- the full grammar found nothing: the loose search decides
    generalize g.looseColumn.find? line.toList = a' at hloose ⊢
    generalize g.looseColumn.leftmost line.toList = b' at hloose ⊢
    cases hloose with
    | some hm => simp [columnOfMatch_congr hm]
    | none => rfl

/-- A generated column whose comment holds a closing parenthesis followed by a space, written in
the backtick convention and read back: the expression runs on into the comment, the column has
no comment, and the comment's tail is left as extra text. -/
theorem readColumn_takes_comment_into_generated :
    let written : ColumnLine :=
      ⟨"c", "int", .none, false, false, none, none, none, none, some ("(a)", none), false,
        some "x) y", none, none, false⟩
    (readColumn (LineGrammars.of .backtick) .backtick TypeRegistry.mysql
        (written.text .backtick)).1.map (fun c => (c.computed, c.comment, c.extra)) =
      some (some ⟨"(a) COMMENT 'x)", none⟩, none, some "y'") := by
  intro written
  rw [readColumn_eq_leftmost _ _ _ (by decide +kernel) (by decide +kernel) (by decide +kernel)
    (by decide +kernel)]
  simp only [LineGrammars.of, leftmost_eq_direct]
  decide +kernel

end TableDdl.Reader
