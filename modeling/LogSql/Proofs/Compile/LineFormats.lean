import LogSql.Proofs.Compile.LabelPrecedence
import LogSql.Proofs.Template.Fields

/-! Lines that a template makes. A template of texts and labels is a concatenation in the statement and is
run by the formatter on the client. Both put the same labels into the line, but for the name that the
formatter keeps for the time of the row, which is a label like others to the statement. -/
namespace LogSql

/-! ### Texts joined end to end -/

section Joined

variable {α : Type} {f g : α → Text} {xs : List α}

theorem joinedShorter (le : ∀ x ∈ xs, (f x).length ≤ (g x).length) :
    (xs.flatMap f).length ≤ (xs.flatMap g).length := by
  induction xs with
  | nil => simp
  | cons x xs ih =>
    obtain ⟨here,later⟩ := List.forall_mem_cons.mp le
    have rest := ih later
    simp only [List.flatMap_cons,List.length_append]
    omega

/-- Where no part of one text is longer than that of the other, equal texts have equal parts. -/
theorem joinedEach (le : ∀ x ∈ xs, (f x).length ≤ (g x).length) (same : xs.flatMap f = xs.flatMap g) :
    ∀ x ∈ xs, f x = g x := by
  induction xs with
  | nil => simp
  | cons x xs ih =>
    obtain ⟨here,later⟩ := List.forall_mem_cons.mp le
    rw [List.flatMap_cons,List.flatMap_cons] at same
    have rest := joinedShorter later
    have whole := congrArg List.length same
    simp only [List.length_append] at whole
    obtain ⟨first,others⟩ := List.append_inj same (by omega)
    exact List.forall_mem_cons.mpr ⟨first,ih later others⟩

end Joined

namespace LineTemplate

/-- What the statement puts into a line for a piece. -/
def Piece.selected (r : Row) : Piece → Text
  | text t => t
  | label name => if name = ("_line" : Text) then r.line else r.label name

/-- The time is the only value that the two sides can have differently. -/
theorem valuesApart {P : Text → Text → Prop} (same : ∀ t, P t t) {r : Row} {piece : Piece}
    (time : piece = .label "_ts" → P (r.label "_ts") (Text.ofInt r.timestamp)) :
    P (piece.selected r) (piece.shown (dataOf r)) := by
  cases piece with
  | text t => exact same t
  | label name =>
    rw [Piece.shown,dataOf,Labels.getSet,Labels.getSet,Piece.selected]
    by_cases stamp : Text.ofString "_ts" = name
    · subst stamp
      rw [if_pos rfl,if_neg (by decide)]
      exact time rfl
    · by_cases line : name = Text.ofString "_line"
      · rw [if_pos line,if_neg stamp,if_pos line.symm]
        exact same _
      · rw [if_neg line,if_neg stamp,if_neg (Ne.symm line)]
        exact same _

/-- Both lines are the same just when the time is not asked for, or the row has it as a label. -/
theorem linesSame (r : Row) (pieces : List Piece) :
    pieces.flatMap (Piece.selected r) = pieces.flatMap (Piece.shown (dataOf r)) ↔
      (.label "_ts" ∈ pieces → r.label "_ts" = Text.ofInt r.timestamp) := by
  constructor
  · intro same asked
    have both : (Piece.label "_ts").selected r = (Piece.label "_ts").shown (dataOf r) := by
      -- On one side the time is not longer than on the other, and then no value is.
      rcases Nat.le_total (r.label "_ts").length (Text.ofInt r.timestamp).length with le | le
      · exact joinedEach (fun _ _ => valuesApart (P := fun a b => a.length ≤ b.length)
          (fun _ => Nat.le_refl _) fun _ => le) same _ asked
      · exact (joinedEach (fun _ _ => valuesApart (P := fun a b => b.length ≤ a.length)
          (fun _ => Nat.le_refl _) fun _ => le) same.symm _ asked).symm
    rw [Piece.selected,if_neg (by decide),Piece.shown,dataOf,Labels.getSet,if_pos rfl] at both
    exact both
  · intro agreed
    rw [List.flatMap_def,List.flatMap_def]
    refine congrArg _ (List.map_congr_left fun piece mem => ?_)
    exact valuesApart (fun _ => rfl) fun here => agreed (here ▸ mem)

end LineTemplate

namespace Compile

open Query
open Sql (Expr Lookup SelectOf Named)
open LineTemplate (Piece pieces?)

/-! ### Texts of the statement -/

section Values

variable (source : Text → Option Text) (columns : Text → Option (List (Text × Text)))

mutual

/-- The text that an expression stands for, where those of plain columns are given. -/
def textValue? : Expr → Option Text
  | .str t => some t
  | .raw t => (Lookup.read? t).elim (source t) fun l => l.value? columns
  | .call name args => if name = ("concat" : Text) then textsJoined? args else none
  | _ => none

def textsJoined? : List Expr → Option Text
  | [] => some []
  | e :: rest => do return (← textValue? e) ++ (← textsJoined? rest)

end

end Values

/-- The statement has the labels and the line of a row. -/
structure ShowsRow (given : Expr → Option (List (Text × Text))) (source : Text → Option Text)
    (stream : Labels) (d : Draft) (r : Row) : Prop where
  labels : Shows given stream d r
  line : textValue? source (labelColumns given d stream) d.lineExpr = some r.line

section Columns

variable {ε : Type} {name : Text} {new : ε}

theorem replacedAbsent {columns : List (Named ε)}
    (absent : columns.find? (fun c => c.name = name) = none) :
    SelectOf.replaceColumn.go name new columns = none := by
  induction columns with
  | nil => rfl
  | cons c columns ih =>
    rw [List.find?_eq_none,List.forall_mem_cons,← List.find?_eq_none] at absent
    rw [SelectOf.replaceColumn.go,if_neg (by simpa using absent.1),ih absent.2]
    rfl

/-- A column that is replaced has its new expression, also when it was not there before. -/
theorem columnPut (s : SelectOf ε) :
    ∃ c, (s.replaceColumn name new).column? name = some c ∧ c.expr = new := by
  cases column : s.column? name with
  | some c => exact ⟨_,columnRebound s column,rfl⟩
  | none =>
    have absent : s.columns.find? (fun c => c.name = name) = none := column
    simp [SelectOf.replaceColumn,replacedAbsent absent,SelectOf.addColumn,SelectOf.column?,
      List.find?_append,absent]

end Columns

section Formats

variable {given : Expr → Option (List (Text × Text))} {source : Text → Option Text} {stream : Labels}
  {d : Draft} {r : Row}

theorem pieceValue (shows : ShowsRow given source stream d r) (piece : Piece) :
    textValue? source (labelColumns given d stream) (pieceExpr d piece) = some (piece.selected r) := by
  cases piece with
  | text t => rfl
  | label name =>
    rw [pieceExpr,Piece.selected]
    split
    · exact shows.line
    · have value := showsLabel shows.labels name
      rw [lookedUp,labelText,Lookup.readText (labelNamed d name)] at value
      rw [textValue?,labelText,Lookup.readText (labelNamed d name)]
      exact value

theorem piecesValue (shows : ShowsRow given source stream d r) (pieces : List Piece) (n : Nat) :
    textsJoined? source (labelColumns given d stream)
        (pieces.map (pieceExpr d) ++ List.replicate n (Sql.Expr.str [])) =
      some (pieces.flatMap (Piece.selected r)) := by
  induction pieces with
  | nil =>
    induction n with
    | zero => rfl
    | succ n ih =>
      rw [List.replicate_succ]
      simp only [List.map_nil,List.nil_append] at ih ⊢
      simp [textsJoined?,ih,textValue?]
  | cons piece pieces ih => simp [textsJoined?,pieceValue shows,ih]

/-- A template of texts and labels is selected in the statement, and the formatter runs it to its end. -/
theorem lineFormatted {text : Text} {pieces : List Piece} (simple : pieces? text = some pieces)
    (clientTemplates : Bool) (server : d.onClient = false) (shows : ShowsRow given source stream d r)
    (f : Formatter) :
    ∃ next, lineFormat clientTemplates (some (Form.Stage.lineFormat text).node) d = .ok next ∧
      ShowsRow given source stream next { r with line := pieces.flatMap (Piece.selected r) } ∧
      (f.format text r).1 = some (pieces.flatMap (Piece.shown (LineTemplate.dataOf r)),true) ∧
      (pieces.flatMap (Piece.selected r) = pieces.flatMap (Piece.shown (LineTemplate.dataOf r)) ↔
        (.label "_ts" ∈ pieces → r.label "_ts" = Text.ofInt r.timestamp)) := by
  let padded := pieces.map (pieceExpr d) ++ List.replicate (2 - pieces.length) (Sql.Expr.str [])
  let next := d.mapSelect (·.replaceColumn lineColumn (.call "concat" padded))
  have extra : next.extraLabels? = d.extraLabels? :=
    congrArg (Option.map Named.expr) (columnReplaced d.select (by decide))
  obtain ⟨c,column,put⟩ := @columnPut _ lineColumn (.call "concat" padded) d.select
  have line : next.lineExpr = .call "concat" padded := by
    rw [Draft.lineExpr,show next.select.column? lineColumn = some c from column]
    exact put
  have columns : labelColumns given next stream = labelColumns given d stream := by
    funext name
    rw [labelColumns,labelColumns,extra]
  refine ⟨next,?_,⟨?_,?_⟩,LineTemplate.formatPieces simple f r,
    LineTemplate.linesSame r pieces⟩
  · have value : stageText (Form.Stage.lineFormat text).node = text := by
      simp [stageText,Form.Stage.node,Node.valueOfHead]
    simp only [lineFormat,onNode,Option.getD_some,value,server,Bool.false_eq_true,if_false,simple,
      List.length_map]
    rfl
  · have labels := shows.labels
    unfold Shows at labels ⊢
    rw [extra]
    exact labels
  · rw [line,columns,textValue?,if_pos rfl]
    exact piecesValue shows pieces _

end Formats

/-- A row without labels. -/
def bareRow : Row := { timestamp := 1, line := "line" }

/-- The statement that starts from the line shows it. -/
theorem startShows : ShowsRow (fun _ => none) (fun _ => some "line") [] (Draft.start {}) bareRow where
  labels := fun _ => rfl
  line := by decide +kernel

/-- The time of a row without labels is nothing to the statement, and the formatter prints it. -/
theorem timeDiffers :
    ∃ next, lineFormat true (some (Form.Stage.lineFormat "\x7b\x7b._ts\x7d\x7d").node) (Draft.start {}) =
        .ok next ∧
      ShowsRow (fun _ => none) (fun _ => some "line") [] next { bareRow with line := [] } ∧
      (({} : Formatter).format "\x7b\x7b._ts\x7d\x7d" bareRow).1 = some (Text.ofString "1",true) := by
  have simple : pieces? "\x7b\x7b._ts\x7d\x7d" = some [.label "_ts"] := by decide +kernel
  obtain ⟨next,ok,shows,printed,_⟩ := lineFormatted simple true rfl startShows {}
  exact ⟨next,ok,shows,printed.trans (by decide +kernel)⟩

end Compile
end LogSql
