import TableDdl.Text.Literal
import TableDdl.Text.Replace

/-!
# Identifier quoting conventions

A convention has an initial quote, a final quote and the escaped form that a final quote takes
inside a name: MySQL writes `` `a``b` `` for the name ``a`b``, ANSI SQL writes `"a""b"`. A
`Quoting` carries the rules that make reading back possible: no token is empty and the escaped
form differs from the final quote.

`Quoting.quote` writes a name; `Quoting.unescape` undoes the escaping of a quoted body;
`Quoting.splitQualified` reads a dotted sequence of names, each quoted or bare. Every pass of
`splitQualified` reads at least one character, which `takeQuoted_shortens` and
`cutAtDot_shortens` state.
-/

namespace TableDdl

/-- Why three tokens do not form a quoting convention. -/
inductive QuotingError where
  /-- The initial or the final quote is empty. -/
  | emptyQuote
  /-- The escaped form of the final quote is empty. -/
  | emptyEscape
  /-- The escaped form is the final quote itself. -/
  | escapeIsFinal (escaped : String)
  /-- A custom style in a configuration lacks one of its three tokens. -/
  | incompleteCustom
  deriving Repr, DecidableEq

/-- The explanation of the error, as it follows the general message on quoting. -/
def QuotingError.detail : QuotingError → String
  | .emptyQuote => "起始引号和结束引号不能为空"
  | .emptyEscape => "结束引号的转义形式不能为空"
  | .escapeIsFinal e => "转义形式 " ++ Text.literal e ++ " 不能与结束引号相同"
  | .incompleteCustom => "custom 风格需要同时配置 initial、final 和 escaped_final"

/-- An identifier quoting convention whose tokens allow names to be read back. -/
structure Quoting where
  initial : String
  final : String
  escaped : String
  initial_ne : initial ≠ ""
  final_ne : final ≠ ""
  escaped_ne : escaped ≠ ""
  escaped_ne_final : escaped ≠ final

namespace Quoting

/-- Two conventions are equal when their tokens are. -/
instance : BEq Quoting := ⟨fun a b => a.initial == b.initial && a.final == b.final && a.escaped == b.escaped⟩

/-- The convention of the three tokens, or the first rule they break: empty quotes are reported
before an empty escape, and that before an escape equal to the final quote. -/
def make? (initial final escaped : String) : Except QuotingError Quoting :=
  if h₁ : initial = "" ∨ final = "" then .error .emptyQuote
  else if h₂ : escaped = "" then .error .emptyEscape
  else if h₃ : escaped = final then .error (.escapeIsFinal escaped)
  else .ok ⟨initial, final, escaped, fun h => h₁ (.inl h), fun h => h₁ (.inr h), h₂, h₃⟩

/-- MySQL's convention: backticks, a backtick doubled inside a name. -/
def backtick : Quoting where
  initial := "`"
  final := "`"
  escaped := "``"
  initial_ne := by decide
  final_ne := by decide
  escaped_ne := by decide
  escaped_ne_final := by decide

/-- ANSI SQL's convention: double quotes, a double quote doubled inside a name. -/
def ansi : Quoting where
  initial := "\""
  final := "\""
  escaped := "\"\""
  initial_ne := by decide
  final_ne := by decide
  escaped_ne := by decide
  escaped_ne_final := by decide

/-- The name between the quotes, each final quote in it written in its escaped form. -/
def quote (q : Quoting) (name : String) : String :=
  q.initial ++ Text.replace name q.final q.escaped ++ q.final

/-- The body of a quoted name with each escaped final quote turned back into a final quote. -/
def unescape (q : Quoting) (body : String) : String :=
  Text.replace body q.escaped q.final

theorem final_toList_ne (q : Quoting) : q.final.toList ≠ [] :=
  fun h => q.final_ne (String.toList_eq_nil_iff.1 h)

theorem escaped_toList_ne (q : Quoting) : q.escaped.toList ≠ [] :=
  fun h => q.escaped_ne (String.toList_eq_nil_iff.1 h)

/-- Reads the body of a quoted name up to its final quote: escaped final quotes and other
characters, kept as written. The final quote must end the text or stand before a dot. Gives the
body and the text after the final quote. -/
def scanBody (q : Quoting) (rest : List Char) : Option (List Char × List Char) :=
  if _hesc : q.escaped.toList.isPrefixOf rest then
    (q.scanBody (rest.drop q.escaped.length)).map fun (b, a) => (q.escaped.toList ++ b, a)
  else if q.final.toList.isPrefixOf rest then
    let after := rest.drop q.final.length
    if after.head? = none || after.head? = some '.' then some ([], after) else none
  else
    match rest with
    | [] => none
    | c :: r => (q.scanBody r).map fun (b, a) => (c :: b, a)
termination_by rest.length
decreasing_by
  · have := q.escaped_toList_ne
    have : q.escaped.length ≠ 0 := by
      rw [← String.length_toList]; simpa using this
    have hle : q.escaped.length ≤ rest.length := by
      rw [← String.length_toList]
      exact (List.isPrefixOf_iff_prefix.1 _hesc).length_le
    simp; omega
  · simp

/-- Reads a quoted name at the start of the text: the initial quote, then the body as
`scanBody` reads it. -/
def takeQuoted (q : Quoting) (s : List Char) : Option (List Char × List Char) :=
  if q.initial.toList.isPrefixOf s then q.scanBody (s.drop q.initial.length) else none

theorem scanBody_shortens (q : Quoting) (rest b a : List Char)
    (h : q.scanBody rest = some (b, a)) : a.length < rest.length := by
  fun_induction q.scanBody rest generalizing b a with
  | case1 rest _ ih =>
    obtain ⟨⟨b₁, a₁⟩, h₁, he⟩ := Option.map_eq_some_iff.1 h
    have := ih b₁ a₁ h₁
    simp only [Prod.mk.injEq] at he
    rw [← he.2]
    simp at this; omega
  | case2 rest _ hfin after _ =>
    simp only [Option.some.injEq, Prod.mk.injEq] at h
    rw [← h.2]
    have := q.final_toList_ne
    have : q.final.length ≠ 0 := by
      rw [← String.length_toList]; simpa using this
    have hle : q.final.length ≤ rest.length := by
      rw [← String.length_toList]
      exact (List.isPrefixOf_iff_prefix.1 hfin).length_le
    simp [after]; omega
  | case3 => cases h
  | case4 => cases h
  | case5 c r _ _ ih =>
    obtain ⟨⟨b₁, a₁⟩, h₁, he⟩ := Option.map_eq_some_iff.1 h
    have := ih b₁ a₁ h₁
    simp only [Prod.mk.injEq] at he
    rw [← he.2]
    simp; omega

theorem takeQuoted_shortens (q : Quoting) (s b a : List Char)
    (h : q.takeQuoted s = some (b, a)) : a.length < s.length := by
  unfold takeQuoted at h
  split at h
  · have := q.scanBody_shortens _ b a h
    simp at this; omega
  · cases h

/-- The text before the first dot, and the text after that dot; all of the text and nothing
when there is no dot. -/
def cutAtDot : List Char → List Char × List Char
  | [] => ([], [])
  | c :: r =>
    if c = '.' then ([], r)
    else let (a, b) := cutAtDot r; (c :: a, b)

theorem cutAtDot_shortens : ∀ (s : List Char), s ≠ [] → (cutAtDot s).2.length < s.length
  | [], h => absurd rfl h
  | c :: r, _ => by
    unfold cutAtDot
    split
    · simp
    · cases r with
      | nil => simp [cutAtDot]
      | cons d r' =>
        have := cutAtDot_shortens (d :: r') (by simp)
        simp only [List.length_cons] at this ⊢
        omega

/-- The text without one leading dot. -/
def dropDot : List Char → List Char
  | '.' :: r => r
  | r => r

theorem dropDot_length_le (s : List Char) : (dropDot s).length ≤ s.length := by
  unfold dropDot; split <;> simp

/-- Reads a dotted sequence of names, each quoted or bare, and unescapes the quoted ones. A
name is quoted when a whole quoted name starts it, ending at the end of the text or at a dot;
otherwise it runs up to the next dot. Empty names are dropped. -/
def splitNames (q : Quoting) (s : List Char) : List String :=
  if _hs : s = [] then []
  else
    match _h : q.takeQuoted s with
    | some (body, after) =>
      (if body.isEmpty then [] else [q.unescape (String.ofList body)]) ++
        q.splitNames (dropDot after)
    | none =>
      let part := (cutAtDot s).1
      (if part.isEmpty then [] else [q.unescape (String.ofList part)]) ++
        q.splitNames (cutAtDot s).2
termination_by s.length
decreasing_by
  · have := q.takeQuoted_shortens s body after _h
    have := dropDot_length_le after
    omega
  · exact cutAtDot_shortens s _hs

/-- The names of a dotted qualified name, as `splitNames` reads them. -/
def splitQualified (q : Quoting) (s : String) : List String :=
  q.splitNames s.toList

/-- The names quoted and joined by dots, as a qualified name is written. -/
def quoteQualified (q : Quoting) (names : List String) : String :=
  ".".intercalate (names.map q.quote)

end Quoting

end TableDdl
