import LogSql.Macro.Registry
import LogSql.Proofs.Computation
import LogSql.Proofs.Labels

/-! Sets of macro definitions that are accepted, and what a macro gives. A set is accepted as a whole:
every definition of it was checked, its name is no word of the query language, and the values of a call
are bound to its parameters by their places. -/
namespace LogSql

namespace Macro

/-! ### What is checked -/

theorem unseenCons {n : Text} {seen names : List Text} (fresh : n ∉ seen) :
    (names.Nodup ∧ ∀ m ∈ names, m ∉ n :: seen) ↔
      (n :: names).Nodup ∧ ∀ m ∈ n :: names, m ∉ seen := by
  rw [List.nodup_cons,List.forall_mem_cons]
  constructor
  · rintro ⟨unique,others⟩
    exact ⟨⟨fun again => others n again List.mem_cons_self,unique⟩,fresh,
      fun m mem old => others m mem (List.mem_cons_of_mem _ old)⟩
  · rintro ⟨⟨once,unique⟩,_,others⟩
    refine ⟨unique,fun m mem both => ?_⟩
    rcases List.mem_cons.mp both with rfl | old
    · exact once mem
    · exact others m mem old

theorem paramsChecked {name : Text} {seen params : List Text}
    (ok : Definition.checkParams name seen params = .ok ()) :
    (∀ p ∈ params, Text.isName p = true) ∧ params.Nodup ∧ ∀ p ∈ params, p ∉ seen := by
  induction params generalizing seen with
  | nil => simp
  | cons p params ih =>
    simp only [Definition.checkParams] at ok
    split at ok <;> try contradiction
    split at ok <;> try contradiction
    rename_i named fresh
    obtain ⟨others,apart⟩ := ih ok
    exact ⟨List.forall_mem_cons.mpr ⟨by simpa using named,others⟩,(unseenCons fresh).mp apart⟩

theorem repeatedNone {seen names : List Text} :
    firstRepeated seen names = none ↔ names.Nodup ∧ ∀ n ∈ names, n ∉ seen := by
  induction names generalizing seen with
  | nil => simp [firstRepeated]
  | cons n names ih =>
    rw [firstRepeated]
    split
    · rename_i old
      simp [old]
    · rename_i fresh
      rw [ih]
      exact unseenCons fresh

/-- What is known of a definition that was prepared. -/
structure Checked (d : Definition) (p : Prepared) : Prop where
  original : p.definition = d
  name : Text.isName d.name = true
  free : d.name ∉ reserved
  filled : (Text.trim d.template).isEmpty = false
  params : d.params.Nodup
  paramNames : ∀ n ∈ d.params, Text.isName n = true
  program : d.program? = some p.program
  rule : d.rule? = .ok p.rule

theorem checked {d : Definition} {p : Prepared} (ok : d.prepare = .ok p) : Checked d p := by
  simp only [Definition.prepare] at ok
  obtain ⟨name,ok⟩ := guardOk ok
  obtain ⟨free,ok⟩ := guardOk ok
  obtain ⟨filled,ok⟩ := guardOk ok
  obtain ⟨_,params,ok⟩ := bindOk ok
  split at ok <;> try contradiction
  rename_i program
  obtain ⟨rule,judged,ok⟩ := bindOk ok
  cases ok
  obtain ⟨named,unique,_⟩ := paramsChecked params
  exact ⟨rfl,by simpa using name,free,by simpa using filled,unique,named,program,mapErrorOk judged⟩

/-- What is known of the definitions of an accepted set, in their order. -/
inductive Accepted (names : List Text) : List Definition → List Prepared → Prop where
  | nil : Accepted names [] []
  | cons {d : Definition} {p : Prepared} {ds : List Definition} {ps : List Prepared}
      (prepared : d.prepare = .ok p)
      (opening : ∀ called, Definition.leadingCall? d.template = some called → called ∉ names)
      (rest : Accepted names ds ps) : Accepted names (d :: ds) (p :: ps)

theorem prepareNext {names : List Text} {d : Definition} {ds : List Definition}
    (opening : ∀ called, Definition.leadingCall? d.template = some called → called ∉ names) :
    Definition.prepareAll names (d :: ds) = d.prepare.bind fun p =>
      (Definition.prepareAll names ds).bind fun rest => .ok (p :: rest) := by
  rw [Definition.prepareAll]
  split
  · rw [if_neg (opening _ ‹_›)]
    rfl
  · rfl

theorem accepted {names : List Text} {ds : List Definition} {ps : List Prepared} :
    Definition.prepareAll names ds = .ok ps ↔ Accepted names ds ps := by
  constructor
  · intro ok
    induction ds generalizing ps with
    | nil =>
      cases ok
      exact .nil
    | cons d ds ih =>
      have opening : ∀ called, Definition.leadingCall? d.template = some called → called ∉ names := by
        intro called leads known
        simp [Definition.prepareAll,leads,known] at ok
        contradiction
      rw [prepareNext opening] at ok
      obtain ⟨p,prepared,ok⟩ := bindOk ok
      obtain ⟨rest,more,ok⟩ := bindOk ok
      cases ok
      exact .cons prepared opening (ih more)
  · intro all
    induction all with
    | nil => rfl
    | cons prepared opening _ ih =>
      rw [prepareNext opening,prepared,ih]
      rfl

theorem setAccepted {ds : List Definition} {ps : List Prepared} :
    Definition.prepareSet ds = .ok ps ↔
      (ds.map (·.name)).Nodup ∧ Accepted (ds.map (·.name)) ds ps := by
  have unique : firstRepeated [] (ds.map (·.name)) = none ↔ (ds.map (·.name)).Nodup := by
    simp [repeatedNone]
  simp only [Definition.prepareSet]
  cases repeated : firstRepeated [] (ds.map (·.name)) with
  | none => simp [unique.mp repeated,accepted]
  | some n =>
    have twice : ¬ (ds.map (·.name)).Nodup := fun once => by simp [unique.mpr once] at repeated
    exact ⟨fun ok => by contradiction,fun both => absurd both.1 twice⟩

namespace Accepted

variable {names : List Text} {ds : List Definition} {ps : List Prepared}

theorem definitions (all : Accepted names ds ps) : ps.map (·.definition) = ds := by
  induction all with
  | nil => rfl
  | cons prepared _ _ ih => rw [List.map_cons,ih,(checked prepared).original]

theorem macroNames (all : Accepted names ds ps) :
    (ps.map Prepared.toMacro).map (·.name) = ds.map (·.name) := by
  rw [← all.definitions,List.map_map,List.map_map]
  rfl

theorem each (all : Accepted names ds ps) : ∀ p ∈ ps, p.definition.prepare = .ok p ∧
    ∀ called, Definition.leadingCall? p.definition.template = some called → called ∉ names := by
  induction all with
  | nil => simp
  | cons prepared opening _ ih =>
    have own := checked prepared
    exact List.forall_mem_cons.mpr ⟨own.original.symm ▸ ⟨prepared,opening⟩,ih⟩

theorem origin (all : Accepted names ds ps) {m : LogSql.Macro} (mem : m ∈ ps.map Prepared.toMacro) :
    ∃ p ∈ ps, m = p.toMacro ∧ p.definition ∈ ds ∧ p.definition.prepare = .ok p := by
  obtain ⟨p,inside,rfl⟩ := List.mem_map.mp mem
  refine ⟨p,inside,rfl,?_,(all.each p inside).1⟩
  rw [← all.definitions]
  exact List.mem_map_of_mem inside

/-- No macro has the name of a function or another word of the query language. -/
theorem unreserved (all : Accepted names ds ps) : ∀ n ∈ ds.map (·.name), n ∉ reserved := by
  rw [← all.definitions]
  intro n mem
  obtain ⟨d,inside,rfl⟩ := List.mem_map.mp mem
  obtain ⟨p,found,rfl⟩ := List.mem_map.mp inside
  exact (checked (all.each p found).1).free

theorem ofEach (each : ∀ d ∈ ds, (∃ p, d.prepare = .ok p) ∧
      ∀ called, Definition.leadingCall? d.template = some called → called ∉ names) :
    ∃ ps, Accepted names ds ps := by
  induction ds with
  | nil => exact ⟨[],.nil⟩
  | cons d ds ih =>
    obtain ⟨⟨⟨p,prepared⟩,opening⟩,others⟩ := List.forall_mem_cons.mp each
    obtain ⟨ps,rest⟩ := ih others
    exact ⟨p :: ps,.cons prepared opening rest⟩

/-- What became of a definition of the set, and of those before it. -/
theorem split {before after : List Definition} {d : Definition}
    (all : Accepted names (before ++ d :: after) ps) :
    ∃ first p last, ps = first ++ p :: last ∧ Accepted names before first ∧ d.prepare = .ok p := by
  induction before generalizing ps with
  | nil =>
    cases all with
    | cons prepared _ _ => exact ⟨[],_,_,rfl,.nil,prepared⟩
  | cons b before ih =>
    cases all with
    | cons prepared opening rest =>
      obtain ⟨first,p,last,rfl,earlier,own⟩ := ih rest
      exact ⟨_ :: first,p,last,rfl,.cons prepared opening earlier,own⟩

end Accepted

theorem replaced {r next : Registry} {ds : List Definition} (ok : r.replace ds = .ok next) :
    (ds.map (·.name)).Nodup ∧ Accepted (ds.map (·.name)) ds next.active := by
  obtain ⟨ps,set,same⟩ := bindOk ok
  cases same
  exact setAccepted.mp set

/-- A registry takes a set exactly when its names differ and each of its definitions can be prepared and
opens with no call of the set. -/
theorem replaceable {r : Registry} {ds : List Definition} : (∃ next, r.replace ds = .ok next) ↔
    (ds.map (·.name)).Nodup ∧ ∀ d ∈ ds, (∃ p, d.prepare = .ok p) ∧
      ∀ called, Definition.leadingCall? d.template = some called → called ∉ ds.map (·.name) := by
  constructor
  · rintro ⟨next,ok⟩
    obtain ⟨unique,all⟩ := replaced ok
    refine ⟨unique,fun d mem => ?_⟩
    rw [← all.definitions] at mem
    obtain ⟨p,inside,rfl⟩ := List.mem_map.mp mem
    exact ⟨⟨p,(all.each p inside).1⟩,(all.each p inside).2⟩
  · rintro ⟨unique,each⟩
    obtain ⟨ps,all⟩ := Accepted.ofEach each
    refine ⟨{ r with active := ps },?_⟩
    rw [Registry.replace,setAccepted.mpr ⟨unique,all⟩]
    rfl

/-! ### What a macro gives -/

namespace Prepared

/-- Whether the rule of a macro lets arguments pass. -/
def judged (p : Prepared) (args : Labels) : Except ExpansionError Unit :=
  match p.rule with
  | none => .ok ()
  | some rule =>
    match Rule.accepts? rule args with
    | none => .error .ruleFailed
    | some false => .error (.rejected p.definition.validate)
    | some true => .ok ()

/-- What the template of a macro prints for arguments. -/
def printed (p : Prepared) (args : Labels) : Except ExpansionError Text :=
  let (text, ended) := p.program.run args
  if ended then .ok text else .error .templateFailed

/-- The text of a macro for arguments by parameter name. -/
def render (p : Prepared) (args : Labels) : Except ExpansionError Text :=
  (p.judged args).bind fun _ => p.printed args

theorem expandRender (p : Prepared) (call : Query.Node) :
    p.expand call = (p.arguments call).bind p.render := by
  refine congrArg (p.arguments call).bind (funext fun args => ?_)
  unfold render judged printed
  generalize p.program.run args = result
  obtain ⟨text,ended⟩ := result
  cases p.rule with
  | none => cases ended <;> rfl
  | some rule =>
    simp only
    cases Rule.accepts? rule args with
    | none => rfl
    | some passed => cases passed <;> cases ended <;> rfl

/-- What a macro gives for values: it counts them, or it renders its template with each parameter bound
to the value at its place. -/
inductive Gives (p : Prepared) (values : List Text) : Except ExpansionError Text → Prop where
  | miscounted (other : values.length ≠ p.definition.params.length) :
      Gives p values (.error (.argumentCount p.definition.params.length values.length))
  | rendered {args : Labels} (same : values.length = p.definition.params.length)
      (bound : ∀ i (inside : i < p.definition.params.length),
        args.get? p.definition.params[i] = values[i]?)
      (only : ∀ name ∉ p.definition.params, args.get? name = none) :
      Gives p values (p.render args)

/-- A macro that finds itself in a call gives what the arguments below its place say. -/
theorem gives {p : Prepared} (unique : p.definition.params.Nodup) {call body : Query.Node}
    {values : List Text} (found : call.find? p.definition.name = some body)
    (below : (body.findAll Query.Kind.macroArg).map (·.value) = values) :
    p.Gives values (p.expand call) := by
  rw [expandRender,arguments,found]
  simp only [below]
  split
  · exact .miscounted ‹_›
  · rename_i same
    have same : values.length = p.definition.params.length := by simpa using same
    refine .rendered same (Labels.getSetAll unique same []) fun name other => ?_
    rw [Labels.ofList,Labels.getSetAllOther other]
    rfl

end Prepared

/-- The logs of an app by its name. -/
def logsOf : Definition :=
  { name := "logs_of", params := ["app"], template := "\x7bapp=\x7b\x7bquote .app\x7d\x7d\x7d" }

theorem logsOfReady : (∃ p, logsOf.prepare = .ok p) ∧
    Definition.leadingCall? logsOf.template = none := by
  obtain ⟨p,ok,_⟩ := okAny (x := logsOf.prepare) (p := fun _ => true) (by decide +kernel)
  exact ⟨⟨p,ok⟩,by decide +kernel⟩

theorem logsOfTaken : ∃ registry, ({} : Registry).replace [logsOf] = .ok registry :=
  replaceable.mpr ⟨by simp,by simp [logsOfReady]⟩

end Macro
end LogSql
