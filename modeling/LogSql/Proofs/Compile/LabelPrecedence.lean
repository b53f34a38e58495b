import LogSql.Proofs.Compile.DocumentLabels
import LogSql.Proofs.Sql.Lookups

/-! Labels that several parsers give. The statement puts the pairs of each parser in front of those before
and takes the first one of a name; the client sets labels one after the other, so that the last one counts.
Both find the same value, also where a parser gives an empty one. -/
namespace LogSql

namespace Labels

theorem getLookup (ls : Labels) (name : Text) : ls.get? name = ls.lookup name := by
  induction ls with
  | nil => rfl
  | cons l ls ih =>
    rw [List.lookup_cons]
    by_cases here : l.1 = name
    · simp [get?,here]
    · have other : (name == l.1) = false := by simpa using Ne.symm here
      simp [get?,here,other,← ih]

/-- Where names differ it does not matter from which end they are looked up. -/
theorem lookupReverse {more : List (Text × Text)} (unique : (more.map Prod.fst).Nodup) (name : Text) :
    more.reverse.lookup name = more.lookup name := by
  induction more with
  | nil => rfl
  | cons l more ih =>
    obtain ⟨fresh,later⟩ := List.nodup_cons.mp (List.map_cons ▸ unique)
    rw [List.reverse_cons,List.lookup_append,ih later,List.lookup_cons,List.lookup_cons,List.lookup_nil]
    by_cases here : name = l.1
    · have absent : more.lookup name = none := by
        refine List.lookup_eq_none_iff.mpr fun p mem => ?_
        simpa using fun same : name = p.1 => fresh (here ▸ same ▸ List.mem_map_of_mem mem)
      simp [here ▸ absent,here]
    · have other : (name == l.1) = false := by simpa using here
      simp [other]

end Labels

namespace Compile

open Sql (Expr Lookup PairAt)

section Columns

variable (given : Expr → Option (List (Text × Text)))

mutual

/-- The pairs of an expression, where those of the parsers are given; arrays are joined end to end. -/
def pairs? : Expr → Option (List (Text × Text))
  | .call name args => if name = ("arrayConcat" : Text) then pairsJoined? args else given (.call name args)
  | e => given e

def pairsJoined? : List Expr → Option (List (Text × Text))
  | [] => some []
  | e :: rest => do return (← pairs? e) ++ (← pairsJoined? rest)

end

/-- The columns of pairs that a statement has for a row of a stream with labels. -/
def labelColumns (d : Draft) (stream : Labels) (column : Text) : Option (List (Text × Text)) :=
  if column = labelsColumn then some stream
  else if column = extraColumn then d.extraLabels?.bind (pairs? given)
  else none

/-- The value that a text of the statement has for a row. -/
def lookedUp (d : Draft) (stream : Labels) (t : Text) : Option Text :=
  (Lookup.read? t).bind fun l => l.value? (labelColumns given d stream)

end Columns

/-- The lookup of a label. -/
def labelLookup (d : Draft) (name : Text) : Lookup :=
  if d.extraLabels?.isSome then
    .choose ⟨extraColumn, name⟩ ⟨extraColumn, name⟩ ⟨labelsColumn, name⟩
  else .first ⟨labelsColumn, name⟩

theorem labelText (d : Draft) (name : Text) : d.labelValue name = (labelLookup d name).text := by
  -- The statement writes in one string what a lookup joins.
  have opens : Text.ofString "arrayFirst(x -> x.1 = " =
        Text.ofString "arrayFirst(" ++ Text.ofString "x -> x.1 = " ∧
      Text.ofString "if(arrayExists(x -> x.1 = " =
        Text.ofString "if(arrayExists(" ++ Text.ofString "x -> x.1 = " := by
    simp [← Text.ofStringAppend]
  have joins : Text.ofString ", arrayFirst(" = Text.ofString ", " ++ Text.ofString "arrayFirst(" ∧
      Text.ofString ".2, arrayFirst(" =
        Text.ofString ".2" ++ (Text.ofString ", " ++ Text.ofString "arrayFirst(") := by
    simp [← Text.ofStringAppend]
  have closes : Text.ofString "), " = Text.ofString ")" ++ Text.ofString ", " ∧
      Text.ofString ").2" = Text.ofString ")" ++ Text.ofString ".2" ∧
      Text.ofString ".2)" = Text.ofString ".2" ++ Text.ofString ")" := by
    simp [← Text.ofStringAppend]
  unfold Draft.labelValue labelLookup Draft.hasExtraLabels Draft.extraLabels?
  rw [Option.isSome_map]
  split <;> simp [Lookup.text,PairAt.text,Text.concat,opens,joins,closes]

theorem labelNamed (d : Draft) (name : Text) : (labelLookup d name).Named := by
  have words : extraColumn.all Sql.isWordByte = true ∧ labelsColumn.all Sql.isWordByte = true := by
    decide
  unfold labelLookup
  split
  · simp only [Lookup.Named,List.forall_mem_cons]
    exact ⟨words.1,words.1,words.2,by simp⟩
  · exact words.2

section Parsers

variable {given : Expr → Option (List (Text × Text))} {stream : Labels} {d : Draft} {r : Row}

/-- The columns of the statement have the labels of a row, the extracted ones before those of the stream. -/
def Shows (given : Expr → Option (List (Text × Text))) (stream : Labels) (d : Draft) (r : Row) : Prop :=
  match d.extraLabels? with
  | none => ∀ name, (r.labels.getD []).get? name = stream.lookup name
  | some e => ∃ pairs, pairs? given e = some pairs ∧
      ∀ name, (r.labels.getD []).get? name = (pairs.lookup name).or (stream.lookup name)

/-- What one parser gives comes before what the row had. -/
theorem showsParsed {e : Expr} {pairs : List (Text × Text)} (shows : Shows given stream d r)
    (value : pairs? given e = some pairs) (unique : (pairs.map Prod.fst).Nodup) :
    Shows given stream (d.addExtraLabels e) (r.withLabels pairs) := by
  have set (name : Text) : ((r.withLabels pairs).labels.getD []).get? name =
      (pairs.lookup name).or ((r.labels.getD []).get? name) := by
    rw [← Labels.lookupReverse unique]
    exact Labels.getSetLast ..
  unfold Shows at shows ⊢
  rw [extraLabelsAdded]
  cases before : d.extraLabels? with
  | none =>
    rw [before] at shows
    exact ⟨pairs,value,fun name => by rw [set,shows]⟩
  | some old =>
    rw [before] at shows
    obtain ⟨earlier,known,labels⟩ := shows
    refine ⟨pairs ++ earlier,?_,fun name => ?_⟩
    · simp [pairs?,pairsJoined?,value,known]
    · rw [set,labels,List.lookup_append,Option.or_assoc]

/-- The text of a label has the value that the row has. -/
theorem showsLabel (shows : Shows given stream d r) (name : Text) :
    lookedUp given d stream (d.labelValue name) = some (r.label name) := by
  have apart : extraColumn ≠ labelsColumn := by decide
  have labels : labelColumns given d stream labelsColumn = some stream := if_pos rfl
  rw [lookedUp,labelText,Lookup.readText (labelNamed d name),Option.bind_some,labelLookup,Row.label]
  unfold Shows at shows
  cases before : d.extraLabels? with
  | none =>
    rw [before] at shows
    rw [shows]
    simp [Lookup.value?,PairAt.value?,labels]
  | some e =>
    rw [before] at shows
    obtain ⟨pairs,known,each⟩ := shows
    have extra : labelColumns given d stream extraColumn = some pairs := by
      rw [labelColumns,if_neg apart,if_pos rfl,before]
      exact known
    rw [each]
    cases found : pairs.lookup name with
    | none => simp [Lookup.value?,PairAt.value?,labels,extra,found]
    | some value => simp [Lookup.value?,PairAt.value?,extra,found]

/-- However many parsers a statement has, the text of a label has the value that a row gets when the labels
of the parsers are set on it one after the other. -/
theorem labelsAgree (given : Expr → Option (List (Text × Text))) (fresh : d.extraLabels? = none)
    (r : Row) (outputs : List (Expr × List (Text × Text)))
    (values : ∀ o ∈ outputs, pairs? given o.1 = some o.2)
    (unique : ∀ o ∈ outputs, (o.2.map Prod.fst).Nodup) (name : Text) :
    let last := (outputs.map Prod.fst).foldl Draft.addExtraLabels d
    lookedUp given last (r.labels.getD []) (last.labelValue name) =
      some (((outputs.map Prod.snd).foldl Row.withLabels r).label name) := by
  have run (stream : Labels) (d : Draft) (r : Row) (shows : Shows given stream d r) :
      Shows given stream ((outputs.map Prod.fst).foldl Draft.addExtraLabels d)
        ((outputs.map Prod.snd).foldl Row.withLabels r) := by
    induction outputs generalizing d r with
    | nil => exact shows
    | cons o outputs ih =>
      obtain ⟨value,later⟩ := List.forall_mem_cons.mp values
      obtain ⟨keys,others⟩ := List.forall_mem_cons.mp unique
      exact ih later others _ _ (showsParsed shows value keys)
  refine showsLabel (run _ d r ?_) name
  unfold Shows
  rw [fresh]
  exact fun name => Labels.getLookup _ _

end Parsers

/-- What two parsers give for a row: the later one finds the label of the earlier one empty. -/
def parsedPairs : Expr → Option (List (Text × Text))
  | .raw t => [(Text.ofString "logfmt",[(Text.ofString "level",Text.ofString "info")]),
      (Text.ofString "json",[(Text.ofString "level",[])])].lookup t
  | _ => none

theorem emptyShadows :
    let last := ((Draft.start {}).addExtraLabels (.raw "logfmt")).addExtraLabels (.raw "json")
    lookedUp parsedPairs last [("level","warn")] (last.labelValue "level") = some [] :=
  have agree := labelsAgree (d := Draft.start {}) parsedPairs rfl
    { labels := some [("level","warn")] }
    [(.raw "logfmt",[("level","info")]), (.raw "json",[("level",[])])]
    (by decide +kernel) (by decide +kernel) "level"
  agree.trans (by decide +kernel)

end Compile
end LogSql
