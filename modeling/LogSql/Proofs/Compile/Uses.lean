import LogSql.Proofs.Compile.Stacks
import LogSql.Proofs.Sql.Identifiers

/-! The aliases that expressions use. An expression can use a column of its own select list by the alias
alone; the expressions of stages use the labels of the stream and the extracted labels in this way, and
the expressions of layers use no alias at all. -/
namespace LogSql.Compile

open Query
open Sql (Expr Named Naming Frame frameNaming)

/-- The aliases of all select lists. -/
def aliasNames : List Text :=
  [lineColumn, "fingerprint", timestampColumn, labelsColumn, extraColumn, unwrappedColumn, valueColumn,
    "top"]

theorem aliasApart : ∀ x ∈ aliasNames, ∃ b ∈ x, Sql.isNumberByte b = false := by
  have letters : ∀ x ∈ aliasNames, x.any (fun b => !Sql.isNumberByte b) = true := by decide
  intro x mem
  obtain ⟨b,inside,letter⟩ := List.any_eq_true.mp (letters x mem)
  exact ⟨b,inside,by simpa using letter⟩

/-- Texts that use exactly some aliases. -/
abbrev Uses (t : Text) (found : List Text) : Prop := Naming aliasNames t found

/-- Expressions whose text uses exactly some aliases, whatever is bound. -/
def Using (found : List Text) (e : Expr) : Prop := ∀ v, Uses (e.text v) found

section Expressions

variable {found others : List Text} {e l r : Expr} {t name : Text}

theorem usesLiteral (value : Text) : Uses (Sql.literal value) [] := Sql.literalNaming aliasApart value

theorem usesInt (n : Int) : Uses (Text.ofInt n) [] := Sql.numberNaming aliasApart (Sql.intBytes n)

theorem usesFloat (x : Binary64) : Uses x.general [] := Sql.numberNaming aliasApart (Sql.floatBytes x)

theorem usesCommas {ts : List Text} {each : List (List Text)} (known : List.Forall₂ Uses ts each) :
    Uses (Text.join ", " ts) each.flatten :=
  Naming.joined (Sql.stringNaming rfl (by decide)) (by decide) (by decide) known

theorem Using.congr (known : Using found e) (same : ∀ x, x ∈ found ↔ x ∈ others) : Using others e :=
  fun v => (known v).congr same

theorem usingRaw (known : Uses t found) : Using found (.raw t) := fun _ => known

theorem usingStr (value : Text) : Using [] (.str value) := fun _ => usesLiteral value

theorem usesTexts {es : List Expr} {each : List (List Text)}
    (known : List.Forall₂ (fun e found => Using found e) es each) (v : Sql.CellView) :
    List.Forall₂ Uses (Expr.texts v es) each := by
  rw [Expr.textsMap,List.forall₂_map_left_iff]
  exact known.imp fun _ _ each => each v

theorem usingCall {args : List Expr} {each : List (List Text)} (named : Uses name [])
    (known : List.Forall₂ (fun e found => Using found e) args each) :
    Using each.flatten (.call name args) := fun v =>
  (frameNaming (.text named (.fixed rfl (by decide) (.text (usesCommas (usesTexts known v))
    (.last rfl (by decide)))))).congr (by simp)

theorem usingTuple {args : List Expr} {each : List (List Text)}
    (known : List.Forall₂ (fun e found => Using found e) args each) :
    Using each.flatten (.tuple args) := fun v =>
  (frameNaming (.fixed rfl (by decide) (.text (usesCommas (usesTexts known v))
    (.last rfl (by decide))))).congr (by simp)

theorem usingArray {args : List Expr} {each : List (List Text)}
    (known : List.Forall₂ (fun e found => Using found e) args each) :
    Using each.flatten (.array args) := fun v =>
  (frameNaming (.fixed rfl (by decide) (.text (usesCommas (usesTexts known v))
    (.last rfl (by decide))))).congr (by simp)

theorem usingBinary (named : Uses name []) (left : Using found l) (right : Using others r) :
    Using (found ++ others) (.binary name l r) := fun v =>
  (frameNaming (.text (left v) (.fixed rfl (by decide) (.text named (.fixed rfl (by decide)
    (.text (right v) .done)))))).congr (by simp)

/-- Expressions in a list that all use the same aliases. -/
theorem usingEach {es : List Expr} (known : ∀ e ∈ es, Using found e) :
    List.Forall₂ (fun e found => Using found e) es (es.map fun _ => found) := by
  rw [List.forall₂_map_right_iff,List.forall₂_same]
  exact known

end Expressions

/-! ### Stages -/

/-- The aliases that the value of a label uses. -/
def labelUses (extracted : Bool) : List Text :=
  if extracted then [extraColumn, labelsColumn] else [labelsColumn]

section Stages

variable {found : List Text} {line : Text}

theorem usesFirst {set : Text} (known : Uses set found) (key : Text) :
    Uses (.concat ["arrayFirst(x -> x.1 = ", Sql.literal key, ", ", set, ").2"]) found :=
  (frameNaming (.fixed rfl (by decide) (.text (usesLiteral key) (.fixed rfl (by decide)
    (.text known (.last rfl (by decide))))))).congr (by simp)

theorem usesColumn {c : Text} (plain : c.all Sql.isWordByte = true) (heads : Sql.heads c = [c])
    (some : c ≠ []) : Uses c [c] := by
  have known : Uses c (Sql.heads c) := Sql.wordNaming plain some
  rwa [heads] at known

theorem usesLabel (d : Draft) (key : Text) : Uses (d.labelValue key) (labelUses d.hasExtraLabels) := by
  have labels : Uses labelsColumn [labelsColumn] := usesColumn (by decide) (by decide) (by decide)
  have extra : Uses extraColumn [extraColumn] := usesColumn (by decide) (by decide) (by decide)
  unfold Draft.labelValue labelUses
  dsimp only
  split
  · exact (frameNaming (.fixed rfl (by decide) (.text (usesLiteral key) (.fixed rfl (by decide)
      (.text extra (.fixed rfl (by decide) (.text (usesFirst extra key) (.fixed rfl (by decide)
        (.text (usesFirst labels key) (.last rfl (by decide))))))))))).congr (by simp)
  · exact usesFirst labels key

theorem usingAllFields (known : Uses line found) : Using found (Rows.allFields line) :=
  usingRaw ((frameNaming (.fixed rfl (by decide +kernel) (.fixed rfl (by decide) (.text known
    (.last rfl (by decide)))))).congr (by simp))

theorem usingPairFields (known : Uses line found) : Using found (Rows.pairFields line) := by
  have pairs : Uses (.concat ["extractKeyValuePairs(", line, ", '=', ' ', '\"')"]) found :=
    (frameNaming (.fixed rfl (by decide) (.text known (.last rfl (by decide))))).congr (by simp)
  exact usingRaw ((frameNaming (.fixed rfl (by decide) (.text pairs (.fixed rfl (by decide)
    (.text pairs (.last rfl (by decide))))))).congr (by simp))

theorem usesLiterals (values : List Text) : Uses (Text.join ", " (values.map Sql.literal)) [] := by
  have each : List.Forall₂ Uses (values.map Sql.literal) (values.map fun _ => []) := by
    rw [List.forall₂_map_left_iff,List.forall₂_map_right_iff,List.forall₂_same]
    exact fun value _ => usesLiteral value
  exact (usesCommas each).congr (by simp)

theorem usingGroupFields (known : Uses line found) (re : Text) (groups : List Text) :
    Using found (Rows.groupFields line re groups) :=
  usingRaw ((frameNaming (.fixed rfl (by decide) (.text known (.fixed rfl (by decide)
    (.text (usesLiteral re) (.fixed rfl (by decide) (.text (usesLiterals groups)
      (.fixed rfl (by decide) (.text known (.fixed rfl (by decide) (.text (usesLiteral re)
        (.last rfl (by decide))))))))))))).congr (by simp))

theorem usingIndexes {path rest : Text} {fuel : Nat} {es : List Expr}
    (ok : pathIndexes path fuel rest = .ok es) : ∀ e ∈ es, Using [] e := by
  induction fuel generalizing rest es with
  | zero =>
    cases ok
    simp
  | succ fuel ih =>
    unfold pathIndexes at ok
    split at ok
    · cases ok
      simp
    · split at ok
      · contradiction
      · split at ok
        · contradiction
        · split at ok
          · contradiction
          · obtain ⟨more,later,ok⟩ := bindOk ok
            cases ok
            exact List.forall_mem_cons.mpr ⟨fun _ => usesInt _,ih later⟩

theorem usingAccessors {path : Text} {es : List Expr} (ok : pathAccessors path = .ok es) :
    ∀ e ∈ es, Using [] e := by
  obtain ⟨segments,read,ok⟩ := bindOk ok
  split at ok
  · contradiction
  · cases ok
    intro e mem
    obtain ⟨es,inside,mem⟩ := List.mem_flatten.mp mem
    obtain ⟨part,_,ok⟩ := mapMOk read es inside
    rw [pathSegment] at ok
    generalize (Text.cut "[" part).getD (part,[]) = named at ok
    obtain ⟨name,rest⟩ := named
    obtain ⟨indexes,read,ok⟩ := bindOk ok
    dsimp only [pure,Except.pure] at ok
    cases ok
    split at mem
    · exact usingIndexes read e mem
    · exact List.forall_mem_cons.mpr ⟨usingStr name,usingIndexes read⟩ e mem

theorem usingJsonPair (known : Uses line found) {n : Node} {e : Expr}
    (ok : jsonPair line n = .ok e) : Using found e := by
  obtain ⟨path,read,ok⟩ := bindOk ok
  cases ok
  have call {fn : String} {cs : List Char} (spelled : fn = String.ofList cs)
      (pass : Sql.wordsPass (Sql.isForeign aliasNames) (cs.flatMap Text.ofChar) = true) :
      Using found (.call fn (.raw line :: path)) :=
    (usingCall (Sql.stringNaming spelled pass) (.cons (usingRaw known)
      (usingEach (usingAccessors read)))).congr (by simp)
  have test : Using found (.eq (.call "JSONType" (.raw line :: path)) (.str "String")) :=
    (usingBinary (Sql.stringNaming rfl (by decide)) (call rfl (by decide)) (usingStr _)).congr
      (by simp)
  have value : Using found (.call "if" [.eq (.call "JSONType" (.raw line :: path)) (.str "String"),
      .call "JSONExtractString" (.raw line :: path), .call "JSONExtractRaw" (.raw line :: path)]) :=
    (usingCall (Sql.stringNaming rfl (by decide)) (.cons test (.cons (call rfl (by decide))
      (.cons (call rfl (by decide)) .nil)))).congr (by simp)
  exact (usingTuple (.cons (usingStr _) (.cons value .nil))).congr (by simp)

theorem usingConversion {conv : Text} {value e : Expr} (known : Using found value)
    (ok : conversion conv value = .ok e) : Using found e := by
  have single {name : Text} {value : Expr} (named : Uses name []) (known : Using found value) :
      Using found (.call name [value]) := (usingCall named (.cons known .nil)).congr (by simp)
  unfold conversion at ok
  split at ok
  · cases ok
    exact single (Sql.stringNaming rfl (by decide)) known
  · split at ok
    · cases ok
      exact single (Sql.stringNaming rfl (by decide)) (single (Sql.stringNaming rfl (by decide))
        (single (Sql.stringNaming rfl (by decide)) known))
    · split at ok
      · cases ok
        exact single (Sql.stringNaming rfl (by decide)) known
      · contradiction

end Stages

/-! ### Layers -/

/-- Select lists with known aliases, whose expressions use none of them. -/
def Silent (columns : List (Named Expr)) : Prop :=
  ∀ c ∈ columns, c.name ∈ ([] : Text) :: aliasNames ∧ Using [] c.expr

theorem usingStreamLabels : Using [] labelsEntry.expr := by
  have text : Text.concat ["JSONExtractKeysAndValues(", streamSelection, ".labels, 'String')"] =
      Text.ofString "JSONExtractKeysAndValues(str_sel.labels, 'String')" := by decide
  refine usingRaw ?_
  rw [text]
  exact Sql.stringNaming rfl (by decide)

theorem splitFirst {sep : UInt8} {a : Text} (absent : sep ∉ a) (b : Text) :
    ∃ part parts, Text.splitByte sep b = part :: parts ∧
      Text.splitByte sep (a ++ b) = (a ++ part) :: parts := by
  have some : ∃ part parts, Text.splitByte sep b = part :: parts := by
    cases b with
    | nil => exact ⟨_,_,rfl⟩
    | cons byte b =>
      rw [Text.splitByte]
      split
      · exact ⟨_,_,rfl⟩
      · split
        · exact ⟨_,_,rfl⟩
        · exact ⟨_,_,rfl⟩
  obtain ⟨part,parts,split⟩ := some
  refine ⟨part,parts,split,?_⟩
  induction a with
  | nil => exact split
  | cons byte a ih =>
    simp only [List.mem_cons,not_or] at absent
    rw [List.cons_append,Text.splitByte,if_neg (Ne.symm absent.1),ih absent.2]
    rfl

/-- The names of common table expressions: they are no aliases. -/
structure Apart (a : Text) : Prop where
  parts : a.all Text.isNamePart = true
  other : a ∉ aliasNames

theorem nameApart {stem : Text} (known : stem ∈ stems) (n : Nat) : Apart (nameOf stem n) := by
  refine ⟨nameBytes known n,fun mem => ?_⟩
  have other : stem ∉ [("timestamp" : Text), "extra"] := by
    revert stem
    simp [stems,parameterizedFunctions,logRangeFunctions,unwrapFunctions,
      parameterizedUnwrappedFunctions]
  have under : Text.byte '_' ∈ nameOf stem n := by
    rw [nameOfSplit]
    simp
  have apart {before after : Text} (none : Text.byte '_' ∉ after) (different : stem ≠ before) :
      nameOf stem n ≠ before ++ Text.byte '_' :: after := by
    intro same
    rw [nameOfSplit] at same
    exact different (Text.splitLast (lettersAbsent (by decide) n) none same).1
  simp only [List.mem_cons,List.not_mem_nil,or_false,not_or] at other
  have time := @apart "timestamp" "ns" (by decide) other.1
  have extra := @apart "extra" "labels" (by decide) other.2
  have rest : ∀ x ∈ aliasNames, Text.byte '_' ∈ x →
      x = ("timestamp" : Text) ++ Text.byte '_' :: ("ns" : Text) ∨
        x = ("extra" : Text) ++ Text.byte '_' :: ("labels" : Text) := by decide
  rcases rest _ mem under with same | same
  · exact time same
  · exact extra same

section Layers

variable {a : Text} (apart : Apart a)

include apart

/-- A column of a common table expression is no alias. -/
theorem usesOf {c : Text} (word : c.all Sql.isWordByte = true)
    (stars : ∀ x ∈ (Sql.heads c).tail, x ∉ aliasNames) : Uses (columnOf a c) [] := by
  have star : Text.byte '*' ∉ a := fun mem => by
    have part := List.all_eq_true.mp apart.parts _ mem
    exact absurd part (by decide)
  have point := partPoint apart.parts
  have text : columnOf a c = (a ++ [Text.byte '.']) ++ c := by
    have single : Text.ofString "." = [Text.byte '.'] := by decide
    simp [columnOf,Text.concat,single]
  have absent : Text.byte '*' ∉ a ++ [Text.byte '.'] := by
    simp only [List.mem_append,List.mem_singleton,not_or]
    exact ⟨star,by decide⟩
  obtain ⟨part,parts,split,whole⟩ := splitFirst absent c
  have heads : Sql.heads (columnOf a c) = a :: (Sql.heads c).tail := by
    rw [Sql.heads,Sql.heads,text,whole,split,List.map_cons,List.map_cons,List.tail_cons,
      List.append_assoc,List.takeWhile_append_of_pos]
    · simp
    · intro b mem
      have other : b ≠ Text.byte '.' := fun same => point (same ▸ mem)
      simpa using other
  refine Sql.foreignNaming (Sql.mentionsWord ?_ ?_)
  · have dot : Sql.isWordByte (Text.byte '.') = true := by decide
    simp [text,List.all_append,partWord apart.parts,word,dot]
  · rw [Sql.isForeign,heads]
    exact List.all_eq_true.mpr (List.forall_mem_cons.mpr
      ⟨by simpa using apart.other,fun x mem => by simpa using stars x mem⟩)

theorem usesSeries (extra : Bool) : Uses (seriesLabels a extra) [] := by
  have labels : Uses (columnOf a labelsColumn) [] := usesOf apart (by decide) (by decide)
  have extracted : Uses (columnOf a extraColumn) [] := usesOf apart (by decide) (by decide)
  unfold seriesLabels
  split
  · exact (frameNaming (.fixed rfl (by decide) (.text labels (.fixed rfl (by decide)
      (.text extracted (.last rfl (by decide))))))).congr (by simp)
  · exact (frameNaming (.fixed rfl (by decide) (.text labels (.last rfl (by decide))))).congr (by simp)

theorem usesCutTime (length : Int) : Uses (cutTime a length) [] :=
  (frameNaming (.fixed rfl (by decide) (.text (usesOf apart (by decide) (by decide))
    (.fixed rfl (by decide) (.text (usesInt length) (.fixed rfl (by decide)
      (.text (usesInt length) .done))))))).congr (by simp)

omit apart in
theorem usesGrouped {labels : Text} (known : Uses labels []) (clause : Option Node) :
    Uses (grouped labels clause) [] := by
  cases clause with
  | none => exact known
  | some clause =>
    have names : Uses (Text.join ", " ((clause.findAll Kind.label).map fun n => Sql.literal n.value)) [] := by
      have listed := usesLiterals ((clause.findAll Kind.label).map Node.value)
      simpa only [List.map_map,Function.comp_def] using listed
    have set : Uses (.concat ["[",
        Text.join ", " ((clause.findAll Kind.label).map fun n => Sql.literal n.value), "]"]) [] :=
      (frameNaming (.fixed rfl (by decide) (.text names (.last rfl (by decide))))).congr (by simp)
    unfold grouped
    dsimp only
    split
    · exact (frameNaming (.fixed rfl (by decide) (.text set (.fixed rfl (by decide) (.text known
        (.last rfl (by decide))))))).congr (by simp)
    · split
      · exact Sql.stringNaming rfl (by decide)
      · exact (frameNaming (.fixed rfl (by decide) (.text set (.fixed rfl (by decide) (.text known
          (.last rfl (by decide))))))).congr (by simp)

omit apart in
theorem usesRate {amount : Text} (known : Uses amount []) (duration : Int) :
    Uses (perSecond amount duration) [] :=
  (frameNaming (.text known (.fixed rfl (by decide) (.text (usesInt duration) .done)))).congr (by simp)

theorem usesLogValue (fn : Text) (duration : Int) : Uses (logValue fn duration a) [] := by
  have rows : Uses (rowCount a) [] := Sql.stringNaming rfl (by decide)
  have bytes : Uses (byteCount a) [] :=
    (frameNaming (.fixed rfl (by decide) (.text (usesOf apart (by decide) (by decide))
      (.last rfl (by decide))))).congr (by simp)
  unfold logValue
  split
  · exact rows
  · split
    · exact usesRate rows duration
    · split
      · exact bytes
      · exact usesRate bytes duration

theorem usesUnwrapValue (fn : Text) (duration : Int) : Uses (unwrapValue fn duration a) [] := by
  have number : Uses (columnOf a unwrappedColumn) [] := usesOf apart (by decide) (by decide)
  have instant : Uses (columnOf a timestampColumn) [] := usesOf apart (by decide) (by decide)
  have combined {how : Text} (known : Uses how []) : Uses (unwrapAggregate how a) [] :=
    (frameNaming (.text known (.fixed rfl (by decide) (.text number
      (.last rfl (by decide)))))).congr (by simp)
  have picked {how : Text} (known : Uses how []) : Uses (unwrapByTime how a) [] :=
    (frameNaming (.text known (.fixed rfl (by decide) (.text number (.fixed rfl (by decide)
      (.text instant (.last rfl (by decide)))))))).congr (by simp)
  unfold unwrapValue
  split
  · exact usesRate (combined (Sql.stringNaming rfl (by decide))) duration
  · split
    · exact picked (Sql.stringNaming rfl (by decide))
    · split
      · exact picked (Sql.stringNaming rfl (by decide))
      · refine combined ?_
        cases found : numberAggregates.lookup fn with
        | none => exact Sql.nilNaming
        | some how =>
          obtain ⟨before,after,split,_⟩ := List.lookup_eq_some_iff.mp found
          have listed : (fn, how) ∈ numberAggregates := by simp [split]
          simp only [numberAggregates,List.mem_cons,Prod.mk.injEq,List.not_mem_nil,or_false] at listed
          rcases listed with ⟨_,rfl⟩ | ⟨_,rfl⟩ | ⟨_,rfl⟩ | ⟨_,rfl⟩ | ⟨_,rfl⟩ | ⟨_,rfl⟩ <;>
            exact Sql.stringNaming rfl (by decide)

theorem usesQuantile (phi : Binary64) : Uses (quantileValue phi a) [] :=
  (frameNaming (.fixed rfl (by decide) (.text (usesFloat phi) (.fixed rfl (by decide)
    (.text (usesOf apart (by decide) (by decide)) (.last rfl (by decide))))))).congr (by simp)

omit apart in
theorem matrixSilent {labels timestamp : Text} {value : Expr} (series : Uses labels [])
    (time : Uses timestamp []) (known : Using [] value) :
    Silent (matrixEntries labels timestamp value) := by
  simp only [Silent,matrixEntries,List.forall_mem_cons]
  exact ⟨⟨by decide,usingRaw series⟩,⟨by decide,usingRaw time⟩,⟨by decide,known⟩,by simp⟩

theorem bucketSilent {extra : Bool} {duration : Int} {value : Text → Text} (clause : Option Node)
    (known : Uses (value a) []) : Silent (bucketLayer extra clause duration value a).columns :=
  matrixSilent (usesGrouped (usesSeries apart extra) clause) (usesCutTime apart duration)
    (usingRaw known)

theorem stepSilent (step : Int) : Silent (stepLayer step a).columns :=
  matrixSilent (usesOf apart (by decide) (by decide)) (usesCutTime apart step)
    (usingRaw ((frameNaming (.fixed rfl (by decide) (.text (usesOf apart (by decide) (by decide))
      (.fixed rfl (by decide) (.text (usesOf apart (by decide) (by decide))
        (.last rfl (by decide))))))).congr (by simp)))

theorem mergeSilent {fn : Text} (known : Uses fn []) (clause : Option Node) :
    Silent (mergeLayer fn clause a).columns := by
  refine matrixSilent (usesGrouped (usesOf apart (by decide) (by decide)) clause)
    (usesOf apart (by decide) (by decide)) (usingRaw ?_)
  split
  · exact Sql.stringNaming rfl (by decide)
  · exact (frameNaming (.text known (.fixed rfl (by decide)
      (.text (usesOf apart (by decide) (by decide)) (.last rfl (by decide)))))).congr (by simp)

theorem thresholdSilent {op : Text} (known : Uses op []) (want : Binary64) (marked : Bool) :
    Silent (thresholdLayer op want marked a).columns := by
  have sample : Using [] (.raw (columnOf a valueColumn)) :=
    usingRaw (usesOf apart (by decide) (by decide))
  have cond : Using [] (.binary op (.raw (columnOf a valueColumn)) (.float want)) :=
    usingBinary known sample fun _ => usesFloat want
  refine matrixSilent (usesOf apart (by decide) (by decide)) (usesOf apart (by decide) (by decide)) ?_
  split
  · exact usingRaw ((frameNaming (.fixed rfl (by decide) (.text (cond _)
      (.last rfl (by decide))))).congr (by simp))
  · exact sample

theorem topSilent {sort : Text} (known : Uses sort []) (k : Int) :
    Silent (topLayer sort k a).columns := by
  simp only [Silent,topLayer,List.forall_mem_cons]
  refine ⟨⟨by decide,usingRaw (usesOf apart (by decide) (by decide))⟩,⟨by decide,usingRaw ?_⟩,by simp⟩
  exact (frameNaming (.fixed rfl (by decide) (.text known (.fixed rfl (by decide)
    (.text (usesOf apart (by decide) (by decide)) (.fixed rfl (by decide)
      (.text (usesOf apart (by decide) (by decide)) (.fixed rfl (by decide) (.text (usesInt k)
        (.last rfl (by decide))))))))))).congr (by simp)

theorem spreadSilent : Silent (spreadLayer a).columns :=
  matrixSilent (Sql.stringNaming rfl (by decide)) (usesOf apart (by decide) (by decide))
    (usingRaw (Sql.stringNaming rfl (by decide)))

theorem listingSilent (direction : Text) (joinLabels : Bool) :
    Silent (listingLayer direction joinLabels a).columns := by
  have star : a ++ (".*" : Text) = columnOf a "*" := columnOfJoined a "*"
  simp only [listingLayer]
  split
  · simp [Silent]
  · rw [star]
    simp only [Silent,List.forall_mem_cons]
    exact ⟨⟨by decide,usingStreamLabels⟩,⟨by simp,usingRaw (usesOf apart (by decide) (by decide))⟩,by simp⟩

end Layers
end LogSql.Compile
