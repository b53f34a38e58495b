import LogSql.Proofs.Compile.Built
import LogSql.Proofs.Compile.Filters
import LogSql.Proofs.Sql.Parts

/-! The columns that rows mention. Stages name columns of their own statement only: the labels of the
stream, which label filters and line templates read, and the labels that an earlier stage extracted. -/
namespace LogSql.Compile

open Query
open Sql (Expr Mentions Written Neutral Template wordsPass mentionsString mentionsLiteral mentionsWord)

/-- The columns that are named without their table. -/
def ownColumns : List Text := [labelsColumn, extraColumn, unwrappedColumn]

/-- The tables with an underscore in their name that are no common table expressions. -/
def plainTables : List Text := ["top_item", "time_series"]

/-- Words that name neither such a column nor a column of a common table expression; the names of
these have an underscore. -/
def isPlain (w : Text) : Bool :=
  match Text.cut "." w with
  | some (table, _) => !table.elem (Text.byte '_') || plainTables.elem table
  | none => !ownColumns.elem w

/-- Words that name one of some columns, or none. -/
def Cites (columns : List Text) (w : Text) : Prop := isPlain w = true ∨ w ∈ columns

section Words

variable {columns more : List Text} {t : Text}

theorem Cites.widen {w : Text} (cites : Cites columns w) (subset : columns ⊆ more) : Cites more w :=
  cites.imp id fun mem => subset mem

/-- No number names a column. -/
theorem numberPlain {w : Text} (number : w.all Sql.isNumberByte = true) : isPlain w = true := by
  rw [List.all_eq_true] at number
  unfold isPlain
  split
  · rename_i table rest found
    have inside : Text.byte '_' ∉ table := fun mem => by
      have byte := number (Text.byte '_') (by rw [Text.cutParts found]; simp [mem])
      exact absurd byte (by decide)
    simp [inside]
  · have own : w ∉ ownColumns := by
      intro mem
      have named : ∃ b ∈ w, Sql.isNumberByte b = false := by
        simp only [ownColumns,List.mem_cons,List.not_mem_nil,or_false] at mem
        rcases mem with rfl | rfl | rfl
        · exact ⟨Text.byte 'l',by decide,by decide⟩
        · exact ⟨Text.byte 'l',by decide,by decide⟩
        · exact ⟨Text.byte 'u',by decide,by decide⟩
      obtain ⟨b,mem,other⟩ := named
      rw [number b mem] at other
      contradiction
    simp [own]

theorem citesNeutral (columns : List Text) : Neutral (Cites columns) where
  empty := .inl (by decide)
  number _ number := .inl (numberPlain number)
  connective w known := by
    refine .inl ?_
    simp only [Sql.connectives,List.mem_cons,List.not_mem_nil,or_false] at known
    rcases known with rfl | rfl | rfl | rfl <;> decide

theorem stringCites {s : String} {cs : List Char} (spelled : s = String.ofList cs)
    (pass : wordsPass isPlain (cs.flatMap Text.ofChar) = true) :
    Mentions (Cites columns) (Text.ofString s) :=
  mentionsString (fun _ => .inl) spelled pass

theorem templateCites {parts : List Text} (template : Template isPlain (Cites columns) false parts) :
    Mentions (Cites columns) (Text.concat parts) :=
  template.mentions (fun _ => .inl) (citesNeutral columns).empty

theorem literalCites (value : Text) : Mentions (Cites columns) (Sql.literal value) :=
  mentionsLiteral (citesNeutral columns).empty value

end Words

/-! ### Expressions of stages -/

/-- Expressions that name some columns and no cells. -/
abbrev Citing (columns : List Text) (e : Expr) : Prop := Written (Mentions (Cites columns)) [] e

section Expressions

variable {columns more : List Text}

theorem Citing.widen {e : Expr} (citing : Citing columns e) (subset : columns ⊆ more) :
    Citing more e :=
  citing.imp (fun _ mentions => mentions.imp fun _ cites => cites.widen subset)
    (List.Subset.refl [])

theorem Citing.fixed {e : Expr} (citing : Citing columns e) :
    Mentions (Cites columns) (Draft.fixedText e) :=
  citing.mentions (citesNeutral columns) (by simp)

theorem negateCiting {e : Expr} (negated : Bool) (citing : Citing columns e) :
    Citing columns (negateIf negated e) := by
  unfold negateIf
  split
  · exact .not citing
  · exact citing

theorem firstCites {labels : Text} (known : Mentions (Cites columns) labels) (name : Text) :
    Mentions (Cites columns)
      (.concat ["arrayFirst(x -> x.1 = ", Sql.literal name, ", ", labels, ").2"]) :=
  templateCites (.fixed rfl (by decide) (.text (literalCites name) (.fixed rfl (by decide)
    (.text known (.last rfl (by decide))))))

/-- The value of a label names the labels of the stream, and extracted labels when there are some. -/
theorem labelValueCites {d : Draft} (labels : labelsColumn ∈ columns)
    (extra : d.hasExtraLabels = true → extraColumn ∈ columns) (name : Text) :
    Mentions (Cites columns) (d.labelValue name) := by
  have column : Mentions (Cites columns) labelsColumn := mentionsWord (by decide) (.inr labels)
  have stream := firstCites column name
  unfold Draft.labelValue
  dsimp only
  split
  · rename_i some
    have extracted : Mentions (Cites columns) extraColumn :=
      mentionsWord (by decide) (.inr (extra some))
    exact templateCites (.fixed rfl (by decide) (.text (literalCites name) (.fixed rfl (by decide)
      (.text extracted (.fixed rfl (by decide) (.text (firstCites extracted name)
        (.fixed rfl (by decide) (.text stream (.last rfl (by decide))))))))))
  · exact stream

theorem allFieldsCiting {line : Text} (known : Mentions (Cites columns) line) :
    Citing columns (Rows.allFields line) :=
  .raw (templateCites (.fixed rfl (by decide +kernel) (.fixed rfl (by decide) (.text known
    (.last rfl (by decide))))))

theorem pairFieldsCiting {line : Text} (known : Mentions (Cites columns) line) :
    Citing columns (Rows.pairFields line) := by
  have pairs : Mentions (Cites columns)
      (.concat ["extractKeyValuePairs(", line, ", '=', ' ', '\"')"]) :=
    templateCites (.fixed rfl (by decide) (.text known (.last rfl (by decide))))
  exact .raw (templateCites (.fixed rfl (by decide) (.text pairs (.fixed rfl (by decide)
    (.text pairs (.last rfl (by decide)))))))

theorem literalsCites (values : List Text) :
    Mentions (Cites columns) (Text.join ", " (values.map Sql.literal)) := by
  refine (citesNeutral columns).commas fun t mem => ?_
  obtain ⟨value,_,rfl⟩ := List.mem_map.mp mem
  exact literalCites value

theorem groupFieldsCiting {line : Text} (known : Mentions (Cites columns) line) (re : Text)
    (groups : List Text) : Citing columns (Rows.groupFields line re groups) :=
  .raw (templateCites (.fixed rfl (by decide) (.text known (.fixed rfl (by decide)
    (.text (literalCites re) (.fixed rfl (by decide) (.text (literalsCites groups)
      (.fixed rfl (by decide) (.text known (.fixed rfl (by decide) (.text (literalCites re)
        (.last rfl (by decide)))))))))))))

theorem indexesCiting {path rest : Text} {fuel : Nat} {es : List Expr}
    (ok : pathIndexes path fuel rest = .ok es) : ∀ e ∈ es, Citing columns e := by
  induction fuel generalizing rest es with
  | zero =>
    cases ok
    simp
  | succ fuel ih =>
    unfold pathIndexes at ok
    split at ok
    · cases ok
      simp
    · split at ok
      · contradiction
      · split at ok
        · contradiction
        · split at ok
          · contradiction
          · obtain ⟨more,later,ok⟩ := bindOk ok
            cases ok
            simp only [List.forall_mem_cons]
            exact ⟨.int _,ih later⟩

theorem segmentCiting {path part : Text} {es : List Expr} (ok : pathSegment path part = .ok es) :
    ∀ e ∈ es, Citing columns e := by
  rw [pathSegment] at ok
  generalize (Text.cut "[" part).getD (part,[]) = named at ok
  obtain ⟨name,rest⟩ := named
  obtain ⟨indexes,read,ok⟩ := bindOk ok
  have each : ∀ e ∈ indexes, Citing columns e := indexesCiting read
  dsimp only [pure,Except.pure] at ok
  cases ok
  split
  · exact each
  · simp only [List.forall_mem_cons]
    exact ⟨.str _,each⟩

theorem accessorsCiting {path : Text} {es : List Expr} (ok : pathAccessors path = .ok es) :
    ∀ e ∈ es, Citing columns e := by
  obtain ⟨segments,read,ok⟩ := bindOk ok
  split at ok
  · contradiction
  · cases ok
    intro e mem
    obtain ⟨found,inside,mem⟩ := List.mem_flatten.mp mem
    obtain ⟨part,_,segment⟩ := mapMOk read found inside
    exact segmentCiting segment e mem

theorem jsonPairCiting {line : Text} (known : Mentions (Cites columns) line) {n : Node} {e : Expr}
    (ok : jsonPair line n = .ok e) : Citing columns e := by
  obtain ⟨path,read,ok⟩ := bindOk ok
  cases ok
  have args : ∀ e ∈ Expr.raw line :: path, Citing columns e := by
    simp only [List.forall_mem_cons]
    exact ⟨.raw known,accessorsCiting read⟩
  have value : Citing columns (.call "if" [.eq (.call "JSONType" (.raw line :: path)) (.str "String"),
      .call "JSONExtractString" (.raw line :: path), .call "JSONExtractRaw" (.raw line :: path)]) := by
    refine .call (stringCites rfl (by decide)) ?_
    simp only [List.forall_mem_cons]
    exact ⟨.binary (stringCites rfl (by decide)) (.call (stringCites rfl (by decide)) args) (.str _),
      .call (stringCites rfl (by decide)) args,.call (stringCites rfl (by decide)) args,by simp⟩
  refine .tuple ?_
  simp only [List.forall_mem_cons]
  exact ⟨.str _,value,by simp⟩

theorem streamCiting (label : Text) :
    Citing [labelsColumn] (.call "JSONExtractString" ["labels", .str label]) := by
  refine .call (stringCites rfl (by decide)) ?_
  simp only [List.forall_mem_cons]
  exact ⟨.raw (mentionsWord (by decide) (.inr (by decide))),.str _,by simp⟩

theorem matchCiting {value : Expr} (known : Citing columns value) (re : Text) :
    Citing columns (.call "match" [value, .str re]) := by
  refine .call (stringCites rfl (by decide)) ?_
  simp only [List.forall_mem_cons]
  exact ⟨known,.str _,by simp⟩

theorem textConditionCiting {value e : Expr} {op want : Text} (known : Citing columns value)
    (ok : textCondition value op want = .ok e) : Citing columns e := by
  unfold textCondition at ok
  split at ok
  · cases ok
    exact .binary (stringCites rfl (by decide)) known (.str _)
  · split at ok
    · cases ok
      exact .binary (stringCites rfl (by decide)) known (.str _)
    · split at ok
      · obtain ⟨_,_,ok⟩ := bindOk ok
        cases ok
        have tested := matchCiting known (anchored want)
        split
        · exact .not tested
        · exact tested
      · contradiction

theorem testConditionCiting {value e : Expr} {t : Form.Test} (known : Citing columns value)
    (ok : testCondition value t = .ok e) : Citing columns e := by
  have operator {op : Text} (comparator : op ∈ Form.comparators) :
      Mentions (Cites columns) (((Comparison.ofOperator? op).map (·.text)).getD []) := by
    obtain ⟨how,found⟩ := comparatorKnown comparator
    rw [found]
    cases how <;> exact stringCites rfl (by decide)
  have single (value : Expr) (known : Citing columns value) : ∀ e ∈ [value], Citing columns e := by
    simpa using known
  obtain ⟨label,op,operand⟩ := t
  cases operand with
  | text t _ => exact textConditionCiting known ok
  | number t comparator =>
    obtain ⟨want,_,rfl⟩ := mapOk ok
    exact .binary (operator comparator) (.call (stringCites rfl (by decide)) (single _ known)) (.float _)
  | duration t comparator _ =>
    obtain ⟨want,_,rfl⟩ := mapOk ok
    exact .binary (operator comparator) (.call (stringCites rfl (by decide)) (single _ known)) (.float _)
  | bytes t comparator =>
    obtain ⟨want,_,rfl⟩ := mapOk ok
    exact .binary (operator comparator) (.call (stringCites rfl (by decide)) (single _ known)) (.float _)

theorem conditionCiting {d : Draft} (known : ∀ name, Mentions (Cites columns) (d.labelValue name))
    {n : Node} (form : Form.Filter n) {e : Expr} (ok : condition d n = .ok e) : Citing columns e := by
  induction form generalizing e with
  | test t =>
    rw [conditionTest] at ok
    exact testConditionCiting (.raw (known t.label)) ok
  | all two each ih =>
    rw [conditionAll] at ok
    obtain ⟨es,read,rfl⟩ := mapOk ok
    refine .all fun x mem => ?_
    obtain ⟨part,inside,found⟩ := mapMOk read x mem
    exact ih part inside found
  | any two each ih =>
    rw [conditionAny] at ok
    obtain ⟨es,read,rfl⟩ := mapOk ok
    refine .any fun x mem => ?_
    obtain ⟨part,inside,found⟩ := mapMOk read x mem
    exact ih part inside found

theorem conversionCiting {conv : Text} {value e : Expr} (known : Citing columns value)
    (ok : conversion conv value = .ok e) : Citing columns e := by
  have single {name : Text} {value : Expr} (named : Mentions (Cites columns) name)
      (known : Citing columns value) : Citing columns (.call name [value]) :=
    .call named (by simpa using known)
  unfold conversion at ok
  split at ok
  · cases ok
    exact single (stringCites rfl (by decide)) known
  · split at ok
    · cases ok
      exact single (stringCites rfl (by decide)) (single (stringCites rfl (by decide))
        (single (stringCites rfl (by decide)) known))
    · split at ok
      · cases ok
        exact single (stringCites rfl (by decide)) known
      · contradiction

end Expressions

/-! ### Rows -/

/-- Whether a stage reads labels. -/
def readsLabels : Form.Stage → Bool
  | .filter _ _ => true
  | .lineFormat _ => true
  | _ => false

namespace Rows

/-- The columns that rows may name: the labels of the stream when a stage reads labels, and extracted
labels when there are some. -/
def own (labelled : Bool) (r : Rows) : List Text :=
  (if labelled then [labelsColumn] else []) ++ (if r.extra.isSome then [extraColumn] else [])

/-- Rows whose expressions name only such columns. -/
structure Cited (labelled : Bool) (r : Rows) : Prop where
  streams : ∀ e ∈ r.streams, Citing [labelsColumn] e
  line : Citing (r.own labelled) r.line
  extra : ∀ e ∈ r.extra, Citing (r.own labelled) e
  filters : ∀ e ∈ r.filters, Citing (r.own labelled) e

variable {labelled clientTemplates : Bool} {r next : Rows}

theorem startCited : Cited labelled {} where
  streams := by simp
  line := .raw (stringCites rfl (by decide))
  extra := by simp
  filters := by simp

theorem Cited.choose (cited : r.Cited labelled) {cond : Expr} (known : Citing [labelsColumn] cond) :
    (r.choose cond).Cited labelled := by
  refine ⟨fun e mem => ?_,cited.line,cited.extra,cited.filters⟩
  rcases List.mem_append.mp mem with before | last
  · exact cited.streams e before
  · rw [List.mem_singleton.mp last]
    exact known

theorem Cited.keep (cited : r.Cited labelled) {cond : Expr} (known : Citing (r.own labelled) cond) :
    (r.keep cond).Cited labelled := by
  refine ⟨cited.streams,cited.line,cited.extra,fun e mem => ?_⟩
  rcases List.mem_append.mp mem with before | last
  · exact cited.filters e before
  · rw [List.mem_singleton.mp last]
    exact known

theorem Cited.leave (cited : r.Cited labelled) (h : Hook) : (r.leave h).Cited labelled :=
  ⟨cited.streams,cited.line,cited.extra,cited.filters⟩

theorem Cited.extract (cited : r.Cited labelled) {labels : Expr}
    (known : Citing (r.own labelled) labels) : (r.extract labels).Cited labelled := by
  have wider : r.own labelled ⊆ (r.extract labels).own labelled := by
    intro column mem
    simp only [own,Rows.extract,List.mem_append] at mem ⊢
    refine mem.imp id fun extracted => ?_
    split at extracted
    · exact extracted
    · contradiction
  refine ⟨cited.streams,cited.line.widen wider,fun e mem => ?_,
    fun e mem => (cited.filters e mem).widen wider⟩
  obtain rfl := Option.some.inj mem
  cases found : r.extra with
  | none => exact known.widen wider
  | some before =>
    refine .call (stringCites rfl (by decide)) ?_
    simp only [List.forall_mem_cons]
    exact ⟨known.widen wider,(cited.extra before found).widen wider,by simp⟩

/-- The value of a label can be named where labels are read. -/
theorem labelCites (r : Rows) (reads : labelled = true) (name : Text) :
    Mentions (Cites (r.own labelled)) (r.plain.labelValue name) := by
  refine labelValueCites ?_ (fun extracted => ?_) name
  · simp [own,reads]
  · rw [plain,draftHasExtra] at extracted
    simp [own,extracted]

theorem ruleCited (cited : r.Cited labelled) {rule : Form.Rule} (ok : r.rule rule = .ok next) :
    next.Cited labelled := by
  obtain ⟨cond,condition,rfl⟩ := mapOk ok
  refine cited.choose ?_
  have label := streamCiting rule.label
  unfold ruleCondition at condition
  dsimp only at condition
  split at condition
  · rename_i operator
    cases condition
    refine .binary ?_ label (.str _)
    rcases operator with same | same
    · rw [same]
      exact stringCites rfl (by decide)
    · rw [same]
      exact stringCites rfl (by decide)
  · obtain ⟨_,_,rfl⟩ := mapOk condition
    exact negateCiting _ (matchCiting label _)

theorem containsCited (cited : r.Cited labelled) (negated : Bool) (needle : Text) :
    (r.contains negated needle).Cited labelled := by
  unfold contains
  split
  · exact cited.leave _
  · split
    · split
      · exact cited.keep (.raw (stringCites rfl (by decide)))
      · exact cited
    · refine cited.keep (.binary ?_ (.call (stringCites rfl (by decide)) ?_) (.int 0))
      · split <;> exact stringCites rfl (by decide)
      · simp only [List.forall_mem_cons]
        exact ⟨cited.line,.str _,by simp⟩

theorem jsonCited (cited : r.Cited labelled) {params : List Node} (ok : r.json params = .ok next) :
    next.Cited labelled := by
  unfold json at ok
  split at ok
  · obtain ⟨fields,_,rfl⟩ := mapOk ok
    exact cited.leave _
  · split at ok
    · cases ok
      exact cited.extract (allFieldsCiting cited.line.fixed)
    · obtain ⟨pairs,read,rfl⟩ := mapOk ok
      refine cited.extract (.array fun e mem => ?_)
      obtain ⟨n,_,pair⟩ := mapMOk read e mem
      exact jsonPairCiting cited.line.fixed pair

theorem regexpCited (cited : r.Cited labelled) {re : Text} (ok : r.regexp re = .ok next) :
    next.Cited labelled := by
  obtain ⟨compiled,_,ok⟩ := bindOk ok
  split at ok
  · contradiction
  · split at ok
    · cases ok
      exact cited.leave _
    · cases ok
      exact cited.extract (groupFieldsCiting cited.line.fixed re _)

theorem formatCited (cited : r.Cited labelled) (reads : labelled = true) {text : Text}
    (ok : r.format clientTemplates text = .ok next) : next.Cited labelled := by
  unfold format at ok
  split at ok
  · rename_i pieces _
    cases ok
    refine ⟨cited.streams,.call (stringCites rfl (by decide)) fun e mem => ?_,cited.extra,
      cited.filters⟩
    rcases List.mem_append.mp mem with piece | padding
    · obtain ⟨p,_,rfl⟩ := List.mem_map.mp piece
      cases p with
      | text t => exact .str t
      | label name =>
        unfold pieceExpr
        dsimp only
        split
        · rw [plain,draftLine]
          exact cited.line
        · exact .raw (labelCites r reads name)
    · rw [(List.mem_replicate.mp padding).2]
      exact .str _
  · split at ok
    · contradiction
    · split at ok
      · cases ok
        exact cited.leave _
      · contradiction

theorem stageCited (cited : r.Cited labelled) {s : Form.Stage}
    (reads : readsLabels s = true → labelled = true) (ok : r.stage clientTemplates s = .ok next) :
    next.Cited labelled := by
  cases s with
  | line operator text known =>
    rw [stage] at ok
    split at ok
    · cases ok
      exact containsCited cited _ text
    · obtain ⟨compiled,_,rfl⟩ := mapOk ok
      split
      · exact cited.leave _
      · exact cited.keep (negateCiting _ (matchCiting cited.line text))
  | json params => exact jsonCited cited ok
  | logfmt =>
    cases ok
    unfold logfmt
    split
    · exact cited.leave _
    · exact cited.extract (pairFieldsCiting cited.line.fixed)
  | regexp re => exact regexpCited cited ok
  | filter body form =>
    rw [stage,filter] at ok
    split at ok
    · obtain ⟨p,_,rfl⟩ := mapOk ok
      exact cited.leave _
    · obtain ⟨cond,condition,rfl⟩ := mapOk ok
      exact cited.keep (conditionCiting (labelCites r (reads rfl)) form condition)
  | lineFormat text => exact formatCited cited (reads rfl) ok
  | labelsFormat rules => contradiction

/-- The rows of a source name labels only when a stage reads them. -/
theorem sourceCited {s : Form.Source} (ok : Rows.ofSource clientTemplates s = .ok next)
    (reads : s.stages.any readsLabels = true → labelled = true) : next.Cited labelled := by
  obtain ⟨chosen,rules,stages⟩ := bindOk ok
  have first : chosen.Cited labelled :=
    foldOk (fun rule _ rows after cited head => ruleCited cited head) startCited rules
  refine foldOk (fun stage mem rows after cited head => ?_) first stages
  exact stageCited cited (fun here => reads (List.any_eq_true.mpr ⟨stage,mem,here⟩)) head

end Rows

end LogSql.Compile
