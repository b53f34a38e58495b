import LogSql.Proofs.Compile.Extraction
import LogSql.Proofs.Compile.PathValues
import LogSql.Proofs.Labels

/-! The labels that a document gives by parameters. The statement puts a pair for each parameter into an
array, whatever the line is; the client sets a label only when the line is a document that has a value at
its path. -/
namespace LogSql

/-! ### What a hook sets -/

namespace Hook

/-- The hook gives the rows of a line a label, whatever labels they have. -/
def Sets (h : Hook) (line : Text) (name : Text) : Prop :=
  ∃ value, ∀ r : Row, r.line = line → ∃ out, h.apply r = some out ∧
    (out.labels.getD []).get? name = some value

/-- The members of a line that is a document. -/
def documentOf (line : Text) : Option (List (Text × Json)) := do
  let line := Text.trim line
  if line.head? ≠ some (Text.byte '\x7b') then none
  match ← (← Json.read? line).canonical? with
  | .object members => some members
  | _ => none

/-- The values of a document at paths, as labels. -/
def valuesAt (fields : List (Text × JsonPath)) (members : List (Text × Json)) : List (Text × Text) :=
  fields.filterMap fun (label, path) =>
    (jsonAt (.object members) path).map fun v => (label, jsonLabel v)

variable {fields : List (Text × JsonPath)}

theorem jsonLabelsAt (filled : fields ≠ []) (line : Text) :
    jsonLabels fields line = (documentOf line).map (valuesAt fields) := by
  have some : fields.isEmpty = false := by simpa using filled
  unfold jsonLabels documentOf
  dsimp only
  split
  · rfl
  · cases Json.read? (Text.trim line) with
    | none => rfl
    | some v =>
      cases same : v.canonical? with
      | none => simp [same]
      | some doc => cases doc <;> simp [same,some,valuesAt]

theorem jsonLeft (filled : fields ≠ []) {r : Row} (no : documentOf r.line = none) :
    (Hook.json fields).apply r = some r := by
  rw [apply,jsonLabelsAt filled,no]
  rfl

theorem jsonSet (filled : fields ≠ []) {r : Row} {members : List (Text × Json)}
    (document : documentOf r.line = some members) :
    ∃ out, (Hook.json fields).apply r = some out ∧ ∀ name, (out.labels.getD []).get? name =
      ((valuesAt fields members).reverse.lookup name).or ((r.labels.getD []).get? name) := by
  rw [apply,jsonLabelsAt filled,document]
  exact ⟨_,rfl,fun name => Labels.getSetLast _ _ _⟩

theorem valueFound {members : List (Text × Json)} {name : Text} :
    ((valuesAt fields members).reverse.lookup name).isSome = true ↔
      ∃ path, (name,path) ∈ fields ∧ (jsonAt (.object members) path).isSome = true := by
  simp only [List.lookup_isSome_iff,List.mem_reverse,valuesAt,List.mem_filterMap,beq_iff_eq]
  constructor
  · rintro ⟨_,⟨⟨label,path⟩,mem,value⟩,rfl⟩
    obtain ⟨v,found,rfl⟩ := Option.map_eq_some_iff.mp value
    exact ⟨path,mem,by simp [found]⟩
  · rintro ⟨path,mem,found⟩
    obtain ⟨v,found⟩ := Option.isSome_iff_exists.mp found
    exact ⟨(name,jsonLabel v),⟨(name,path),mem,by simp [found]⟩,rfl⟩

/-- A label is set when the line is a document with a value at one of the paths for the label. -/
theorem jsonSets (filled : fields ≠ []) {line name : Text} :
    (Hook.json fields).Sets line name ↔ ∃ members, documentOf line = some members ∧
      ∃ path, (name,path) ∈ fields ∧ (jsonAt (.object members) path).isSome = true := by
  constructor
  · rintro ⟨value,each⟩
    obtain ⟨out,ran,found⟩ := each ⟨0,line,none⟩ rfl
    cases document : documentOf line with
    | none =>
      cases ran.symm.trans (jsonLeft filled document)
      cases found
    | some members =>
      obtain ⟨_,same,read⟩ := @jsonSet _ filled ⟨0,line,none⟩ members document
      cases ran.symm.trans same
      rw [read name] at found
      have given : ((valuesAt fields members).reverse.lookup name).isSome = true := by
        simpa [Labels.get?] using congrArg Option.isSome found
      exact ⟨members,rfl,valueFound.mp given⟩
  · rintro ⟨members,document,given⟩
    obtain ⟨value,found⟩ := Option.isSome_iff_exists.mp (valueFound.mpr given)
    refine ⟨value,fun r here => ?_⟩
    obtain ⟨out,ran,read⟩ := jsonSet filled (here ▸ document)
    exact ⟨out,ran,by rw [read name,found]; rfl⟩

theorem jsonKeeps (filled : fields ≠ []) (r : Row) : ∃ out, (Hook.json fields).apply r = some out ∧
    ∀ name, ¬(Hook.json fields).Sets r.line name →
      (out.labels.getD []).get? name = (r.labels.getD []).get? name := by
  cases document : documentOf r.line with
  | none => exact ⟨r,jsonLeft filled document,fun _ _ => rfl⟩
  | some members =>
    obtain ⟨out,ran,read⟩ := jsonSet filled document
    refine ⟨out,ran,fun name unset => ?_⟩
    have absent : (valuesAt fields members).reverse.lookup name = none := by
      rw [← Option.not_isSome_iff_eq_none,valueFound]
      exact fun given => unset ((jsonSets filled).mpr ⟨members,document,given⟩)
    rw [read name,absent]
    rfl

end Hook

namespace Compile

open Query
open Sql (Expr)

/-! ### What the statement defines -/

/-- The expression of the extracted labels. -/
def Draft.extraLabels? (d : Draft) : Option Expr := (d.select.column? extraColumn).map (·.expr)

theorem extraLabelsAdded (d : Draft) (labels : Expr) :
    (d.addExtraLabels labels).extraLabels? = some (match d.extraLabels? with
      | some before => .call "arrayConcat" [labels, before]
      | none => labels) := by
  unfold Draft.extraLabels? Draft.addExtraLabels
  cases column : d.select.column? extraColumn with
  | none =>
    have absent : d.select.columns.find? (fun c => c.name = extraColumn) = none := column
    simp [Draft.mapSelect,Sql.SelectOf.addColumn,Sql.SelectOf.column?,List.find?_append,absent]
  | some c =>
    simp [Draft.mapSelect,columnRebound d.select column]

/-- The key of a pair of an array of labels. -/
def pairKey? : Expr → Option Text
  | .tuple (.str key :: _) => some key
  | _ => none

/-- The labels that an array of pairs defines. -/
def arrayKeys : Expr → List Text
  | .array pairs => pairs.filterMap pairKey?
  | _ => []

section Parameters

variable {params : List (Text × Text)} {d : Draft}

theorem pairsKeys {line : Text} {pairs : List Expr}
    (ok : (params.map Form.paramNode).mapM (jsonPair line) = .ok pairs) :
    arrayKeys (.array pairs) = params.map Prod.fst := by
  have each (n : Node) (e : Expr) (pair : jsonPair line n = .ok e) :
      pairKey? e = some (n.valueOf Kind.label) := by
    obtain ⟨path,_,pair⟩ := bindOk pair
    cases pair
    rfl
  have keys := mapMImage each ok
  have same : arrayKeys (.array pairs) = (pairs.map pairKey?).filterMap id := by
    simp [arrayKeys,List.filterMap_map]
  rw [same,keys]
  simp [List.filterMap_map]

theorem fieldsRead {fields : List (Text × JsonPath)}
    (ok : jsonFields (params.map Form.paramNode) = .ok fields) :
    fields = params.map fun p => (p.1,clientPath p.2) := by
  have each (n : Node) (field : Text × JsonPath)
      (read : (do
        let _ ← pathAccessors (n.valueOf Kind.quotedStr)
        return (n.valueOf Kind.label, clientPath (n.valueOf Kind.quotedStr)) : Except Error _) =
          .ok field) :
      id field = (n.valueOf Kind.label, clientPath (n.valueOf Kind.quotedStr)) := by
    obtain ⟨_,_,read⟩ := bindOk read
    cases read
    rfl
  have all := mapMImage each ok
  simpa [Function.comp_def] using all

theorem pairsAccepted (line : Text) :
    (∃ pairs, (params.map Form.paramNode).mapM (jsonPair line) = .ok pairs) ↔
      ∀ p ∈ params, ∃ es, pathAccessors p.2 = .ok es := by
  rw [mapMSucceeds,List.forall_mem_map]
  refine forall₂_congr fun p _ => ?_
  rw [jsonPair,Form.paramPath]
  cases pathAccessors p.2 with
  | error err => simp [bind,Except.bind]
  | ok es => simp [bind,Except.bind,pure,Except.pure]

theorem fieldsAccepted :
    (∃ fields, jsonFields (params.map Form.paramNode) = .ok fields) ↔
      ∀ p ∈ params, ∃ es, pathAccessors p.2 = .ok es := by
  rw [jsonFields,mapMSucceeds,List.forall_mem_map]
  refine forall₂_congr fun p _ => ?_
  rw [Form.paramPath]
  cases read : pathAccessors p.2 with
  | error err => simp [read,bind,Except.bind]
  | ok es => simp [read,bind,Except.bind,pure,Except.pure]

theorem parserServer (filled : params ≠ []) (server : d.onClient = false) :
    jsonParser (some (Form.Stage.json params).node) d =
      ((params.map Form.paramNode).mapM (jsonPair (Draft.fixedText d.lineExpr))).map fun pairs =>
        d.addExtraLabels (.array pairs) := by
  have some : (params.map Form.paramNode).isEmpty = false := by simpa using filled
  simp only [jsonParser,onNode,Option.getD_some,Form.jsonParameters,server,some]
  cases (params.map Form.paramNode).mapM (jsonPair (Draft.fixedText d.lineExpr)) <;> rfl

theorem parserClient (client : d.onClient = true) :
    jsonParser (some (Form.Stage.json params).node) d =
      (jsonFields (params.map Form.paramNode)).map fun fields => d.addHook (.json fields) := by
  simp only [jsonParser,onNode,Option.getD_some,Form.jsonParameters,client]
  cases jsonFields (params.map Form.paramNode) <;> rfl

end Parameters

/-! ### Both sides -/

/-- Whether a document has a value at a path for a label. -/
def Found (params : List (Text × Text)) (members : List (Text × Json)) (label : Text) : Prop :=
  ∃ path, (label,path) ∈ params ∧
    (Hook.jsonAt (.object members) (clientPath path)).isSome = true

theorem fieldFound {params : List (Text × Text)} {members : List (Text × Json)} {label : Text} :
    (∃ path, (label,path) ∈ params.map (fun p => (p.1,clientPath p.2)) ∧
      (Hook.jsonAt (.object members) path).isSome = true) ↔ Found params members label := by
  constructor
  · rintro ⟨_,mem,found⟩
    obtain ⟨p,inside,same⟩ := List.mem_map.mp mem
    cases same
    exact ⟨p.2,inside,found⟩
  · rintro ⟨path,mem,found⟩
    exact ⟨clientPath path,List.mem_map.mpr ⟨(label,path),mem,rfl⟩,found⟩

/-- Both sides accept the same parameters. The statement defines all their labels in front of those
extracted before; the client sets, of a line that is a document, the labels that it has a value for, and
leaves the others as they were. So they define the same ones just when the line is a document with a value
for every label. -/
theorem labelsDefined {params : List (Text × Text)} (filled : params ≠ []) {server client : Draft}
    (before : server.onClient = false) (behind : client.onClient = true) :
    ((∃ next, jsonParser (some (Form.Stage.json params).node) server = .ok next) ↔
      ∃ next, jsonParser (some (Form.Stage.json params).node) client = .ok next) ∧
    ∀ next later, jsonParser (some (Form.Stage.json params).node) server = .ok next →
      jsonParser (some (Form.Stage.json params).node) client = .ok later →
      ∃ labels hook, next = server.addExtraLabels labels ∧ later = client.addHook hook ∧
        next.extraLabels? = some (match server.extraLabels? with
          | some old => .call "arrayConcat" [labels, old]
          | none => labels) ∧
        (∀ label, label ∈ arrayKeys labels ↔ ∃ path, (label,path) ∈ params) ∧
        (∀ line label, hook.Sets line label ↔
          ∃ members, Hook.documentOf line = some members ∧ Found params members label) ∧
        (∀ r : Row, ∃ out, hook.apply r = some out ∧ ∀ label, ¬hook.Sets r.line label →
          (out.labels.getD []).get? label = (r.labels.getD []).get? label) ∧
        ∀ line, (∀ label, label ∈ arrayKeys labels ↔ hook.Sets line label) ↔
          ∃ members, Hook.documentOf line = some members ∧
            ∀ p ∈ params, Found params members p.1 := by
  refine ⟨?_,fun next later compiled left => ?_⟩
  · rw [parserServer filled before,parserClient behind]
    have both := (@pairsAccepted params (Draft.fixedText server.lineExpr)).trans fieldsAccepted.symm
    constructor
    · rintro ⟨next,ok⟩
      obtain ⟨pairs,read,_⟩ := mapOk ok
      obtain ⟨fields,known⟩ := both.mp ⟨pairs,read⟩
      exact ⟨_,by rw [known]; rfl⟩
    · rintro ⟨later,ok⟩
      obtain ⟨fields,known,_⟩ := mapOk ok
      obtain ⟨pairs,read⟩ := both.mpr ⟨fields,known⟩
      exact ⟨_,by rw [read]; rfl⟩
  · rw [parserServer filled before] at compiled
    rw [parserClient behind] at left
    obtain ⟨pairs,read,rfl⟩ := mapOk compiled
    obtain ⟨fields,known,rfl⟩ := mapOk left
    have named (label : Text) : label ∈ arrayKeys (.array pairs) ↔ ∃ path, (label,path) ∈ params := by
      rw [pairsKeys read]
      simp
    obtain rfl := fieldsRead known
    have some : params.map (fun p => (p.1,clientPath p.2)) ≠ [] := by simpa using filled
    have sets (line label : Text) := @Hook.jsonSets _ some line label
    simp only [fieldFound] at sets
    refine ⟨_,_,rfl,rfl,extraLabelsAdded _ _,named,sets,Hook.jsonKeeps some,fun line => ?_⟩
    simp only [named,sets]
    constructor
    · intro same
      obtain ⟨p,mem⟩ := List.exists_mem_of_ne_nil params filled
      obtain ⟨members,document,_⟩ := (same p.1).mp ⟨p.2,mem⟩
      refine ⟨members,document,fun q inside => ?_⟩
      obtain ⟨_,again,found⟩ := (same q.1).mp ⟨q.2,inside⟩
      cases document.symm.trans again
      exact found
    · rintro ⟨members,document,all⟩ label
      constructor
      · rintro ⟨path,mem⟩
        exact ⟨members,document,all (label,path) mem⟩
      · rintro ⟨_,_,path,mem,_⟩
        exact ⟨path,mem⟩

/-- The parameter that takes a label from the member of its name. -/
def levelParam : List (Text × Text) := [("level","level")]

/-- A line that is no document: the statement defines the label, empty, and the client does not. -/
theorem labelOfNoDocument :
    ∃ next later labels hook,
      jsonParser (some (Form.Stage.json levelParam).node) (Draft.start {}) = .ok next ∧
      jsonParser (some (Form.Stage.json levelParam).node) ((Draft.start {}).addHook .pass) = .ok later ∧
      next.extraLabels? = some labels ∧ (Text.ofString "level") ∈ arrayKeys labels ∧
      later = ((Draft.start {}).addHook .pass).addHook hook ∧ ¬hook.Sets "not json" "level" := by
  have accepted : pathAccessors "level" = .ok [.str "level"] := rfl
  obtain ⟨fields,known⟩ := (@fieldsAccepted levelParam).mpr (by simpa [levelParam] using ⟨_,accepted⟩)
  have both := @labelsDefined levelParam (by simp [levelParam]) (Draft.start {})
    ((Draft.start {}).addHook .pass) rfl rfl
  have left : jsonParser (some (Form.Stage.json levelParam).node) ((Draft.start {}).addHook .pass) =
      .ok (((Draft.start {}).addHook .pass).addHook (.json fields)) := by
    rw [parserClient rfl,known]
    rfl
  obtain ⟨next,compiled⟩ := both.1.mpr ⟨_,left⟩
  obtain ⟨labels,hook,_,hooked,column,named,sets,_⟩ := both.2 next _ compiled left
  refine ⟨next,_,labels,hook,compiled,left,column,(named _).mpr ⟨"level",by simp [levelParam]⟩,hooked,?_⟩
  intro set
  obtain ⟨members,document,_⟩ := (sets _ _).mp set
  have none : Hook.documentOf "not json" = none := by decide
  cases none.symm.trans document

end Compile
end LogSql
