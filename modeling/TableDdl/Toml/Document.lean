import TableDdl.Toml.Node
import TableDdl.Toml.Scalar

/-!
# TOML documents

`Toml.parse` reads a TOML 1.0 document into its root table, or gives nothing for a text that is
not TOML: a malformed line, a key defined twice, a table named twice or extended against the
rules, or nested too deep (`nestingLimit`). A document is a sequence of lines, each blank, a comment, a table header, an
array-of-tables header or a key with its value; a value may span lines when it is a multi-line
string or an array. The readers take a `fuel` bound, the length of the text, since each step
reads at least one character.
-/

namespace TableDdl.Toml

mutual

/-- Blanks, line breaks and comments at the start of the input, skipped. -/
def skipTrivia : List Char → Option (List Char)
  | [] => some []
  | ' ' :: r | '\t' :: r | '\n' :: r => skipTrivia r
  | '\r' :: '\n' :: r => skipTrivia r
  | '#' :: r => skipComment r
  | s => some s

/-- The rest of a comment, then the trivia after it. -/
def skipComment : List Char → Option (List Char)
  | [] => some []
  | '\n' :: r => skipTrivia r
  | '\r' :: '\n' :: r => skipTrivia r
  | c :: r => if isTextChar c then skipComment r else none

end

/-- The input after the rest of a comment line. -/
def afterComment : List Char → Option (List Char)
  | [] => some []
  | '\n' :: r => some r
  | '\r' :: '\n' :: r => some r
  | c :: r => if isTextChar c then afterComment r else none

/-- The input after blanks and an optional comment, at a line break or at the end. -/
def endOfLine (s : List Char) : Option (List Char) :=
  match skipBlanks s with
  | [] => some []
  | '#' :: r => afterComment r
  | s => afterNewline s

mutual

/-- A value at the start of the input, inside `depth` arrays and inline tables. -/
def value : Nat → Nat → List Char → Option (Value × List Char)
  | 0, _, _ => none
  | f + 1, depth, s =>
    match s with
    | '"' :: '"' :: '"' :: r =>
      (multilineBasicBody (f + 1) (dropFirstNewline r)).map fun (cs, rest) => (.string (String.ofList cs), rest)
    | '"' :: r => (basicBody r).map fun (cs, rest) => (.string (String.ofList cs), rest)
    | '\'' :: '\'' :: '\'' :: r =>
      (multilineLiteralBody (f + 1) (dropFirstNewline r)).map fun (cs, rest) => (.string (String.ofList cs), rest)
    | '\'' :: r => (literalBody r).map fun (cs, rest) => (.string (String.ofList cs), rest)
    | '[' :: r => do
      if depth + 1 ≥ nestingLimit then none
      let r ← skipTrivia r
      arrayItems f (depth + 1) r
    | '{' :: r =>
      if depth + 1 ≥ nestingLimit then none
      else match skipBlanks r with
      | '}' :: rest => some (.table [], rest)
      | r => do
        let (es, rest) ← inlineEntries f (depth + 1) [] r
        pure (.table (Node.entriesValue es), rest)
    | _ =>
      let (t, rest) := bareToken s
      (tokenValue t).map (·, rest)

/-- The items of an array after its opening bracket and the trivia after it; the array is the
`depth`-th container around its items. -/
def arrayItems : Nat → Nat → List Char → Option (Value × List Char)
  | 0, _, _ => none
  | f + 1, depth, s =>
    match s with
    | ']' :: rest => some (.array [], rest)
    | _ => do
      let (v, rest) ← value f depth s
      let rest ← skipTrivia rest
      match rest with
      | ']' :: rest => pure (.array [v], rest)
      | ',' :: rest =>
        let rest ← skipTrivia rest
        let (more, rest) ← arrayItems f depth rest
        match more with
        | .array vs => pure (.array (v :: vs), rest)
        | _ => none
      | _ => none

/-- The entries of an inline table, after its opening brace, defined into `es`; the table is the
`depth`-th container around its values. -/
def inlineEntries : Nat → Nat → List (String × Node) → List Char →
    Option (List (String × Node) × List Char)
  | 0, _, _, _ => none
  | f + 1, depth, es, s => do
    let (ks, rest) ← keyPath (f + 1) s
    let rest := skipBlanks rest
    match rest with
    | '=' :: rest =>
      let (v, rest) ← value f depth (skipBlanks rest)
      let es ← Node.insertDotted v ks es
      match skipBlanks rest with
      | '}' :: rest => pure (es, rest)
      | ',' :: rest => inlineEntries f depth es (skipBlanks rest)
      | _ => none
    | _ => none

end

/-- What has been read of a document: its root table and the path of the table that keys now
go to. -/
structure Reading where
  root : List (String × Node)
  current : List String

/-- Reads one line that is not blank or a comment: a header or a key with its value. Gives the
new state and the input after the value or header. -/
def statement (fuel : Nat) (st : Reading) (s : List Char) : Option (Reading × List Char) :=
  match s with
  | '[' :: '[' :: r => do
    let (ks, rest) ← keyPath fuel (skipBlanks r)
    match skipBlanks rest with
    | ']' :: ']' :: rest =>
      let root ← Node.openPath Node.appendTable ks st.root
      pure (⟨root, ks⟩, rest)
    | _ => none
  | '[' :: r => do
    let (ks, rest) ← keyPath fuel (skipBlanks r)
    match skipBlanks rest with
    | ']' :: rest =>
      let root ← Node.openPath Node.defineTable ks st.root
      pure (⟨root, ks⟩, rest)
    | _ => none
  | _ => do
    let (ks, rest) ← keyPath fuel s
    match skipBlanks rest with
    | '=' :: rest =>
      let (v, rest) ← value fuel 0 (skipBlanks rest)
      let root ← Node.modifyAt (Node.insertDotted v ks) st.current st.root
      pure (⟨root, st.current⟩, rest)
    | _ => none

/-- Reads the lines of a document from the input on. -/
def lines : Nat → Reading → List Char → Option Reading
  | 0, _, _ => none
  | f + 1, st, s =>
    match skipBlanks s with
    | [] => some st
    | s =>
      match afterNewline s with
      | some rest => lines f st rest
      | none =>
        match s with
        | '#' :: _ => do
          let rest ← endOfLine s
          lines f st rest
        | _ => do
          let (st, rest) ← statement (f + 1) st s
          let rest ← endOfLine rest
          lines f st rest

/-- The root table of a TOML document, or nothing if the text is not TOML. A byte order mark at
the very start is skipped. -/
def parse (text : String) : Option (List (String × Value)) :=
  let s := match text.toList with
    | '\uFEFF' :: r => r
    | s => s
  (lines (s.length + 1) ⟨[], []⟩ s).map fun st => Node.entriesValue st.root

end TableDdl.Toml
