import LogSql.Proofs.Sql.Pieces

/-! Lookups in columns of pairs. The text of a lookup is read for the columns and the keys that it names,
and has a value where the columns are lists of pairs. -/
namespace LogSql.Sql

/-- The pair of a column with a key. -/
structure PairAt where
  column : Text
  key : Text

/-- The value of the first pair with a key, of one column or of another. -/
inductive Lookup where
  | first (entry : PairAt)
  | choose (tested yes no : PairAt)

namespace PairAt

/-- The first value for the key, empty where there is none. -/
def value? (columns : Text → Option (List (Text × Text))) (e : PairAt) : Option Text :=
  (columns e.column).map fun pairs => (pairs.lookup e.key).getD []

def text (e : PairAt) : Text := .concat ["x -> x.1 = ", literal e.key, ", ", e.column, ")"]

end PairAt

namespace Lookup

def value? (columns : Text → Option (List (Text × Text))) : Lookup → Option Text
  | first e => e.value? columns
  | choose tested yes no =>
    (columns tested.column).bind fun pairs =>
      if (pairs.lookup tested.key).isSome then yes.value? columns else no.value? columns

def text : Lookup → Text
  | first e => .concat ["arrayFirst(", e.text, ".2"]
  | choose tested yes no =>
    .concat ["if(arrayExists(", tested.text, ", arrayFirst(", yes.text, ".2, arrayFirst(", no.text,
      ".2)"]

/-- The columns are words. -/
def Named : Lookup → Prop
  | first e => e.column.all isWordByte = true
  | choose tested yes no => ∀ e ∈ [tested, yes, no], e.column.all isWordByte = true

end Lookup

/-! ### Reading -/

/-- What stands behind the pieces of a text. -/
def behind? (head : Text) (ps : List Piece) : Option (List Piece) :=
  if (pieces head).isPrefixOf ps then some (ps.drop (pieces head).length) else none

/-- The word that pieces begin with, and what stands behind it. -/
def leadingWord : List Piece → Text × List Piece
  | .byte b :: ps =>
    if isWordByte b then
      let (word, rest) := leadingWord ps
      (b :: word, rest)
    else ([], .byte b :: ps)
  | ps => ([], ps)

def PairAt.read (ps : List Piece) : Option (PairAt × List Piece) := do
  match ← behind? "x -> x.1 = " ps with
  | .literal key :: ps =>
    let (column, ps) := leadingWord (← behind? ", " ps)
    return ({ column, key }, ← behind? ")" ps)
  | _ => none

def Lookup.read (ps : List Piece) : Option (Lookup × List Piece) :=
  match behind? "arrayFirst(" ps with
  | some ps => do
    let (entry, ps) ← PairAt.read ps
    return (.first entry, ← behind? ".2" ps)
  | none => do
    let (tested, ps) ← PairAt.read (← behind? "if(arrayExists(" ps)
    let (yes, ps) ← PairAt.read (← behind? ", arrayFirst(" ps)
    let (no, ps) ← PairAt.read (← behind? ".2, arrayFirst(" ps)
    return (.choose tested yes no, ← behind? ".2)" ps)

/-- The lookup that a text says as a whole. -/
def Lookup.read? (t : Text) : Option Lookup :=
  match Lookup.read (pieces t) with
  | some (l, []) => some l
  | _ => none

theorem behindText {head : Text} (closed : Closed head) (rest : Text) :
    behind? head (pieces (head ++ rest)) = some (pieces rest) := by
  simp [behind?,closed rest]

/-- Words have no quotes. -/
theorem wordPieces {word : Text} (plain : word.all isWordByte = true) (rest : Text) :
    pieces (word ++ rest) = word.map .byte ++ pieces rest := by
  have quote : isWordByte (Text.byte '\'') = false := by decide
  induction word with
  | nil => rfl
  | cons b word ih =>
    obtain ⟨here,later⟩ := Bool.and_eq_true _ _ ▸ (List.all_cons ▸ plain)
    have other : b ≠ Text.byte '\'' := by
      rintro rfl
      rw [quote] at here
      contradiction
    rw [List.cons_append,pieces,Place.pieces,if_neg other,List.map_cons]
    exact congrArg _ (ih later)

theorem leadingWordBehind {word : Text} (plain : word.all isWordByte = true) {b : UInt8}
    (stops : isWordByte b = false) (ps : List Piece) :
    leadingWord (word.map .byte ++ .byte b :: ps) = (word,.byte b :: ps) := by
  induction word with
  | nil => simp [leadingWord,stops]
  | cons c word ih =>
    obtain ⟨here,later⟩ := Bool.and_eq_true _ _ ▸ (List.all_cons ▸ plain)
    simp [leadingWord,here,ih later]

theorem PairAt.readText {e : PairAt} (named : e.column.all isWordByte = true) (rest : Text) :
    PairAt.read (pieces (e.text ++ rest)) = some (e,pieces rest) := by
  have split : e.text ++ rest = Text.ofString "x -> x.1 = " ++ (literal e.key ++
      (Text.ofString ", " ++ (e.column ++ (Text.ofString ")" ++ rest)))) := by
    simp [text,Text.concat]
  have close : Closed ")" := stringClosed rfl (by decide)
  have stops : leadingWord (e.column.map .byte ++ pieces (Text.ofString ")" ++ rest)) =
      (e.column,pieces (Text.ofString ")" ++ rest)) := by
    rw [close]
    exact leadingWordBehind named (b := Text.byte ')') (by decide) _
  rw [split,PairAt.read,behindText (stringClosed rfl (by decide)),literalClosed,literalPieces]
  simp only [Option.bind_eq_bind,Option.bind_some,List.cons_append,List.nil_append]
  rw [behindText (stringClosed rfl (by decide)),wordPieces named]
  simp only [Option.bind_some,stops,behindText close]
  rfl

theorem Lookup.readText {l : Lookup} (named : l.Named) : Lookup.read? l.text = some l := by
  cases l with
  | first e =>
    have split : (first e).text =
        Text.ofString "arrayFirst(" ++ (e.text ++ (Text.ofString ".2" ++ [])) := by
      simp [text,Text.concat]
    rw [read?,split,read,behindText (stringClosed rfl (by decide))]
    simp only [PairAt.readText named,Option.bind_eq_bind,Option.bind_some]
    rw [behindText (stringClosed rfl (by decide))]
    rfl
  | choose tested yes no =>
    have split : (choose tested yes no).text = Text.ofString "if(arrayExists(" ++ (tested.text ++
        (Text.ofString ", arrayFirst(" ++ (yes.text ++ (Text.ofString ".2, arrayFirst(" ++
          (no.text ++ (Text.ofString ".2)" ++ [])))))) := by
      simp [text,Text.concat]
    have other (rest : Text) :
        behind? "arrayFirst(" (pieces (Text.ofString "if(arrayExists(" ++ rest)) = none := by
      rw [stringClosed (s := "if(arrayExists(") rfl (by decide) rest]
      rfl
    have each := fun e mem => PairAt.readText (e := e) (named e mem)
    rw [read?,split,read,other]
    simp only [Option.bind_eq_bind]
    rw [behindText (stringClosed rfl (by decide)),Option.bind_some,each tested (by simp),
      Option.bind_some,behindText (stringClosed rfl (by decide)),Option.bind_some,each yes (by simp),
      Option.bind_some,behindText (stringClosed rfl (by decide)),Option.bind_some,each no (by simp),
      Option.bind_some,behindText (stringClosed rfl (by decide))]
    rfl

end LogSql.Sql
