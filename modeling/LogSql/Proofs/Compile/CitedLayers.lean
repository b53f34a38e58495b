import LogSql.Proofs.Compile.Cited

/-! The columns that layers mention. A layer names columns of the common table expression it reads
from, labels that it joins, and by their names alone the labels that it projects. -/
namespace LogSql.Compile

open Query
open Sql (Expr Mentions Written mentionsWord)

/-- Layers whose expressions name only some columns. -/
def Layer.Cited (columns : List Text) (l : Layer) : Prop :=
  ∀ e ∈ (l.body []).parts, Written (Mentions (Cites columns)) [limitCell] e

section Layers

variable {columns : List Text} {a : Text}

theorem Citing.cells {e : Expr} (citing : Citing columns e) (cells : List Sql.Cell) :
    Written (Mentions (Cites columns)) cells e :=
  citing.imp (fun _ => id) (List.nil_subset cells)

theorem intCites (n : Int) : Mentions (Cites columns) (Text.ofInt n) :=
  (citesNeutral columns).bytes (Sql.intBytes n)

theorem columnOfJoined (a : Text) (c : String) : a ++ Text.ofString ("." ++ c) = columnOf a c := by
  simp [columnOf,Text.concat,Text.ofStringAppend]

theorem columnCites {c : Text} (name : a.all Sql.isWordByte = true)
    (column : c.all Sql.isWordByte = true) (known : columnOf a c ∈ columns) :
    Mentions (Cites columns) (columnOf a c) := by
  refine mentionsWord ?_ (.inr known)
  have point : (Text.ofString ".").all Sql.isWordByte = true := by decide
  simp only [columnOf,Text.concat,List.flatten_cons,List.flatten_nil,List.all_append,name,column,point,
    List.all_nil,Bool.and_true]

theorem labelsEntryCites (known : columnOf streamSelection labelsColumn ∈ columns) :
    Citing columns labelsEntry.expr := by
  have column := columnCites (a := streamSelection) (c := labelsColumn) (by decide) (by decide) known
  have text : Text.concat ["JSONExtractKeysAndValues(", streamSelection, ".labels, 'String')"] =
      Text.concat ["JSONExtractKeysAndValues(", columnOf streamSelection labelsColumn,
        ", 'String')"] := by
    have split : (".labels, 'String')" : String) = "." ++ "labels" ++ ", 'String')" := by decide
    rw [split,Text.ofStringAppend,Text.ofStringAppend]
    simp [Text.concat,columnOf,labelsColumn]
  refine .raw ?_
  rw [text]
  exact templateCites (.fixed rfl (by decide) (.text column (.last rfl (by decide))))

theorem groupedCites {labels : Text} (known : Mentions (Cites columns) labels)
    (clause : Option Node) : Mentions (Cites columns) (grouped labels clause) := by
  cases clause with
  | none => exact known
  | some clause =>
    have names : Mentions (Cites columns)
        (Text.join ", " ((clause.findAll Kind.label).map fun n => Sql.literal n.value)) := by
      have listed : Mentions (Cites columns)
          (Text.join ", " (((clause.findAll Kind.label).map Node.value).map Sql.literal)) :=
        literalsCites _
      simpa only [List.map_map,Function.comp_def] using listed
    have set : Mentions (Cites columns) (.concat ["[",
        Text.join ", " ((clause.findAll Kind.label).map fun n => Sql.literal n.value), "]"]) :=
      templateCites (.fixed rfl (by decide) (.text names (.last rfl (by decide))))
    unfold grouped
    dsimp only
    split
    · exact templateCites (.fixed rfl (by decide) (.text set (.fixed rfl (by decide) (.text known
        (.last rfl (by decide))))))
    · split
      · exact stringCites rfl (by decide)
      · exact templateCites (.fixed rfl (by decide) (.text set (.fixed rfl (by decide) (.text known
          (.last rfl (by decide))))))

theorem perSecondCites {amount : Text} (known : Mentions (Cites columns) amount) (duration : Int) :
    Mentions (Cites columns) (perSecond amount duration) :=
  templateCites (.text known (.fixed rfl (by decide) (.text (intCites duration) .done)))

theorem matrixCited {labels timestamp : Text} {value : Expr} {filters groups : List Expr}
    {joins : List (Sql.Join Expr)} (series : Mentions (Cites columns) labels)
    (time : Mentions (Cites columns) timestamp) (known : Citing columns value)
    (tables : ∀ j ∈ joins, ∀ e ∈ j.table :: j.on.toList, Citing columns e)
    (tests : ∀ e ∈ filters, Citing columns e) (grouping : ∀ e ∈ groups, Citing columns e)
    (own : labelsColumn ∈ columns) :
    ({ columns := matrixEntries labels timestamp value, joins, filters, groups,
       orders := matrixOrder } : Layer).Cited columns := by
  have labelsOrder : Citing columns (.raw labelsColumn) :=
    .raw (mentionsWord (by decide) (.inr own))
  have timeOrder : Citing columns (.raw timestampColumn) := .raw (stringCites rfl (by decide))
  have all : ∀ e ∈ [Expr.raw labels, Expr.raw timestamp, value] ++
      joins.flatMap (fun j => j.table :: j.on.toList) ++ filters ++ groups ++
        [Expr.raw labelsColumn, Expr.raw timestampColumn], Citing columns e := by
    simp only [List.forall_mem_append,List.forall_mem_cons]
    refine ⟨⟨⟨⟨⟨.raw series,.raw time,known,by simp⟩,fun e mem => ?_⟩,tests⟩,grouping⟩,labelsOrder,
      timeOrder,by simp⟩
    obtain ⟨j,inside,mem⟩ := List.mem_flatMap.mp mem
    exact tables j inside e mem
  intro e mem
  refine Citing.cells (all e ?_) _
  simpa [Layer.body,Sql.SelectOf.parts,matrixEntries,matrixOrder] using mem

theorem sampleGroupsCited (own : labelsColumn ∈ columns) : ∀ e ∈ sampleGroups, Citing columns e := by
  simp only [sampleGroups,List.forall_mem_cons]
  exact ⟨.raw (mentionsWord (by decide) (.inr own)),.raw (stringCites rfl (by decide)),by simp⟩

section Over

variable (name : a.all Sql.isWordByte = true)

include name

theorem seriesCites {extra : Bool} (labels : columnOf a labelsColumn ∈ columns)
    (extracted : extra = true → columnOf a extraColumn ∈ columns) :
    Mentions (Cites columns) (seriesLabels a extra) := by
  have stream := columnCites name (by decide) labels
  unfold seriesLabels
  split
  · rename_i some
    have more := columnCites name (by decide) (extracted some)
    exact templateCites (.fixed rfl (by decide) (.text stream (.fixed rfl (by decide) (.text more
      (.last rfl (by decide))))))
  · exact templateCites (.fixed rfl (by decide) (.text stream (.last rfl (by decide))))

theorem cutTimeCites (time : columnOf a timestampColumn ∈ columns) (length : Int) :
    Mentions (Cites columns) (cutTime a length) :=
  templateCites (.fixed rfl (by decide) (.text (columnCites name (by decide) time)
    (.fixed rfl (by decide) (.text (intCites length) (.fixed rfl (by decide)
      (.text (intCites length) .done))))))

theorem logValueCites (line : columnOf a lineColumn ∈ columns) (fn : Text) (duration : Int) :
    Mentions (Cites columns) (logValue fn duration a) := by
  have rows : Mentions (Cites columns) (rowCount a) := stringCites rfl (by decide)
  have bytes : Mentions (Cites columns) (byteCount a) :=
    templateCites (.fixed rfl (by decide) (.text (columnCites name (by decide) line)
      (.last rfl (by decide))))
  unfold logValue
  split
  · exact rows
  · split
    · exact perSecondCites rows duration
    · split
      · exact bytes
      · exact perSecondCites bytes duration

theorem unwrapValueCites (numbers : columnOf a unwrappedColumn ∈ columns)
    (time : columnOf a timestampColumn ∈ columns) (fn : Text) (duration : Int) :
    Mentions (Cites columns) (unwrapValue fn duration a) := by
  have number := columnCites name (by decide) numbers
  have instant := columnCites name (by decide) time
  have combined {how : Text} (known : Mentions (Cites columns) how) :
      Mentions (Cites columns) (unwrapAggregate how a) :=
    templateCites (.text known (.fixed rfl (by decide) (.text number (.last rfl (by decide)))))
  have picked {how : Text} (known : Mentions (Cites columns) how) :
      Mentions (Cites columns) (unwrapByTime how a) :=
    templateCites (.text known (.fixed rfl (by decide) (.text number (.fixed rfl (by decide)
      (.text instant (.last rfl (by decide)))))))
  unfold unwrapValue
  split
  · exact perSecondCites (combined (stringCites rfl (by decide))) duration
  · split
    · exact picked (stringCites rfl (by decide))
    · split
      · exact picked (stringCites rfl (by decide))
      · refine combined ?_
        cases found : numberAggregates.lookup fn with
        | none => exact (citesNeutral columns).nil
        | some how =>
          obtain ⟨before,after,split,_⟩ := List.lookup_eq_some_iff.mp found
          have listed : (fn, how) ∈ numberAggregates := by simp [split]
          simp only [numberAggregates,List.mem_cons,Prod.mk.injEq,List.not_mem_nil,or_false] at listed
          rcases listed with ⟨_,rfl⟩ | ⟨_,rfl⟩ | ⟨_,rfl⟩ | ⟨_,rfl⟩ | ⟨_,rfl⟩ | ⟨_,rfl⟩ <;>
            exact stringCites rfl (by decide)

theorem quantileCites (numbers : columnOf a unwrappedColumn ∈ columns) (phi : Binary64) :
    Mentions (Cites columns) (quantileValue phi a) :=
  templateCites (.fixed rfl (by decide) (.text ((citesNeutral columns).bytes (Sql.floatBytes phi))
    (.fixed rfl (by decide) (.text (columnCites name (by decide) numbers) (.last rfl (by decide))))))

theorem bucketCited {extra : Bool} {duration : Int} {value : Text → Text} (clause : Option Node)
    (labels : columnOf a labelsColumn ∈ columns)
    (extracted : extra = true → columnOf a extraColumn ∈ columns)
    (time : columnOf a timestampColumn ∈ columns) (known : Mentions (Cites columns) (value a))
    (own : labelsColumn ∈ columns) : (bucketLayer extra clause duration value a).Cited columns :=
  matrixCited (groupedCites (seriesCites name labels extracted) clause)
    (cutTimeCites name time duration) (.raw known) (by simp) (by simp) (sampleGroupsCited own) own

theorem stepCited (step : Int) (labels : columnOf a labelsColumn ∈ columns)
    (time : columnOf a timestampColumn ∈ columns) (values : columnOf a valueColumn ∈ columns)
    (own : labelsColumn ∈ columns) : (stepLayer step a).Cited columns :=
  matrixCited (columnCites name (by decide) labels) (cutTimeCites name time step)
    (.raw (templateCites (.fixed rfl (by decide) (.text (columnCites name (by decide) values)
      (.fixed rfl (by decide) (.text (columnCites name (by decide) time) (.last rfl (by decide))))))))
    (by simp) (by simp) (sampleGroupsCited own) own

theorem mergeCited {fn : Text} (fnKnown : Mentions (Cites columns) fn) (clause : Option Node)
    (labels : columnOf a labelsColumn ∈ columns) (time : columnOf a timestampColumn ∈ columns)
    (values : columnOf a valueColumn ∈ columns) (own : labelsColumn ∈ columns) :
    (mergeLayer fn clause a).Cited columns := by
  refine matrixCited (groupedCites (columnCites name (by decide) labels) clause)
    (columnCites name (by decide) time) (.raw ?_) (by simp) (by simp) (sampleGroupsCited own) own
  split
  · exact stringCites rfl (by decide)
  · exact templateCites (.text fnKnown (.fixed rfl (by decide)
      (.text (columnCites name (by decide) values) (.last rfl (by decide)))))

theorem thresholdCited {op : Text} (opKnown : Mentions (Cites columns) op) (want : Binary64)
    (marked : Bool) (labels : columnOf a labelsColumn ∈ columns)
    (time : columnOf a timestampColumn ∈ columns) (values : columnOf a valueColumn ∈ columns)
    (own : labelsColumn ∈ columns) : (thresholdLayer op want marked a).Cited columns := by
  have sample : Citing columns (.raw (columnOf a valueColumn)) :=
    .raw (columnCites name (by decide) values)
  have cond : Citing columns (.binary op (.raw (columnOf a valueColumn)) (.float want)) :=
    .binary opKnown sample (.float want)
  refine matrixCited (columnCites name (by decide) labels) (columnCites name (by decide) time) ?_
    (by simp) (fun e mem => ?_) (by simp) own
  · split
    · exact .raw (templateCites (.fixed rfl (by decide) (.text cond.fixed (.last rfl (by decide)))))
    · exact sample
  · split at mem
    · contradiction
    · rw [List.mem_singleton.mp mem]
      exact cond

theorem topCited {sort : Text} (sortKnown : Mentions (Cites columns) sort) (k : Int)
    (labels : columnOf a labelsColumn ∈ columns) (time : columnOf a timestampColumn ∈ columns)
    (values : columnOf a valueColumn ∈ columns) : (topLayer sort k a).Cited columns := by
  have instant := columnCites name (by decide) time
  intro e mem
  refine Citing.cells ?_ _
  simp only [topLayer,Layer.body,Sql.SelectOf.parts,List.map_cons,List.map_nil,List.flatMap_nil,
    Option.toList_none,List.append_nil,List.cons_append,List.nil_append,List.mem_cons,
    List.not_mem_nil,or_false] at mem
  rcases mem with rfl | rfl | rfl
  · exact .raw instant
  · exact .raw (templateCites (.fixed rfl (by decide) (.text sortKnown (.fixed rfl (by decide)
      (.text (columnCites name (by decide) labels) (.fixed rfl (by decide)
        (.text (columnCites name (by decide) values) (.fixed rfl (by decide) (.text (intCites k)
          (.last rfl (by decide)))))))))))
  · exact .raw (stringCites rfl (by decide))

theorem spreadCited (time : columnOf a timestampColumn ∈ columns) (top : columnOf a "top" ∈ columns)
    (own : labelsColumn ∈ columns) : (spreadLayer a).Cited columns := by
  refine matrixCited (stringCites rfl (by decide)) (columnCites name (by decide) time)
    (.raw (stringCites rfl (by decide))) (fun j mem e inside => ?_) (by simp) (by simp) own
  rw [List.mem_singleton.mp mem] at inside
  simp only [Option.toList_none,List.mem_cons,List.not_mem_nil,or_false] at inside
  subst inside
  have joined : a ++ (".top" : Text) = columnOf a "top" := columnOfJoined a "top"
  rw [joined]
  exact .raw (columnCites name (by decide) top)

theorem joinCited (source : columnOf a "fingerprint" ∈ columns)
    (streams : columnOf streamSelection "fingerprint" ∈ columns) :
    ∀ e ∈ (labelsJoin a).table :: (labelsJoin a).on.toList, Citing columns e := by
  have left : a ++ (".fingerprint" : Text) = columnOf a "fingerprint" :=
    columnOfJoined a "fingerprint"
  have right : streamSelection ++ (".fingerprint" : Text) = columnOf streamSelection "fingerprint" :=
    columnOfJoined streamSelection "fingerprint"
  simp only [labelsJoin,Option.toList_some,List.forall_mem_cons,left,right]
  exact ⟨.raw (stringCites rfl (by decide)),.binary (stringCites rfl (by decide))
    (.raw (columnCites name (by decide) source)) (.raw (columnCites (by decide) (by decide) streams)),
    by simp⟩

theorem listingCited (direction : Text) {joinLabels : Bool}
    (source : joinLabels = false → columnOf a "fingerprint" ∈ columns ∧ columnOf a "*" ∈ columns)
    (streams : joinLabels = false → columnOf streamSelection "fingerprint" ∈ columns ∧
      columnOf streamSelection labelsColumn ∈ columns)
    (own : labelsColumn ∈ columns) : (listingLayer direction joinLabels a).Cited columns := by
  have orders : ∀ e ∈ [Expr.raw labelsColumn, .raw timestampColumn], Citing columns e := by
    simp only [List.forall_mem_cons]
    exact ⟨.raw (mentionsWord (by decide) (.inr own)),.raw (stringCites rfl (by decide)),by simp⟩
  -- Only the limit mentions a cell.
  have cells {parts : List Expr} (each : ∀ e ∈ parts, Citing columns e) {e : Expr}
      (mem : e ∈ parts ∨ e = .cell limitCell) : Written (Mentions (Cites columns)) [limitCell] e := by
    rcases mem with part | rfl
    · exact (each e part).cells _
    · exact .cell (by simp)
  intro e mem
  cases joined : joinLabels with
  | true =>
    refine cells orders ?_
    simpa [listingLayer,joined,Layer.body,Sql.SelectOf.parts,byTime,or_assoc] using mem
  | false =>
    have star : a ++ (".*" : Text) = columnOf a "*" := columnOfJoined a "*"
    have selected : ∀ e ∈ [labelsEntry.expr, .raw (a ++ (".*" : Text))], Citing columns e := by
      simp only [List.forall_mem_cons]
      refine ⟨labelsEntryCites (streams joined).2,.raw ?_,by simp⟩
      rw [star]
      exact columnCites name (by decide) (source joined).2
    have tables := joinCited name (source joined).1 (streams joined).1
    refine cells (List.forall_mem_append.mpr ⟨List.forall_mem_append.mpr ⟨selected,tables⟩,orders⟩) ?_
    simpa [listingLayer,joined,Layer.body,Sql.SelectOf.parts,byTime,or_assoc] using mem

end Over
end Layers
end LogSql.Compile
