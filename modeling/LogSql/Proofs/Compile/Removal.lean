import LogSql.Compile.Engine

/-! Compilers that lack some handlers. A handler is found by its table and symbol, or by its name when it
has no symbol, and nothing else stands in for it: what such a compiler gives is what it gives with all
handlers, or an error that names one of those it lacks. -/
namespace LogSql.Compile

open Query

/-! ### Handlers by their place -/

namespace Registry

/-- A table as errors name it. -/
def Table.title : Table → Text
  | streamSelector => "stream selector operator"
  | lineFilter => "line filter operator"
  | parser => "parser"
  | logRange => "log range aggregation"
  | aggregation => "aggregation operator"
  | unwrap => "unwrap function"
  | parameterizedUnwrapped => "parameterized unwrapped function"
  | parameterized => "parameterized aggregation"
  | numberOperator => "number operator"

/-- A handler without a symbol as errors name it. -/
def Slot.title : Slot → Text
  | labelFilter => "label filter"
  | lineFormat => "line format"
  | unwrapExpression => "unwrap expression"

/-- The place of a handler in a registry. -/
inductive Entry where
  | keyed (t : Table) (key : Text)
  | alone (s : Slot)
  deriving DecidableEq, Repr

namespace Entry

/-- The symbol of a handler, or its name when it has none. -/
def symbol : Entry → Text
  | keyed _ key => key
  | alone s => s.title

/-- The error of a request that needs a handler which is not there. -/
def missing : Entry → Error
  | keyed t key => .notImplemented t.title key
  | alone s => .notImplemented s.title s.title

end Entry

/-- The handler at a place. -/
def handlerAt? (r : Registry) : Entry → Option Handler
  | .keyed t key => ((r.table t).find? fun h => h.1 = key).map (·.2)
  | .alone s => r.slot s

/-- The registry without the handler at a place. -/
def dropEntry (r : Registry) : Entry → Registry
  | .keyed t key => r.dropKey t key
  | .alone s => r.dropSlot s

/-- The registry without the handlers at some places. -/
def without (r : Registry) (gone : List Entry) : Registry := gone.foldl dropEntry r

theorem dropKeyTable (r : Registry) (t : Table) (key : Text) :
    (r.dropKey t key).table t = (r.table t).filter fun h => h.1 ≠ key := by
  cases t <;> rfl

theorem dropKeyOther (r : Registry) {t u : Table} (other : u ≠ t) (key : Text) :
    (r.dropKey t key).table u = r.table u := by
  cases t <;> cases u <;> first | rfl | exact absurd rfl other

theorem dropSlotOther (r : Registry) {s u : Slot} (other : u ≠ s) :
    (r.dropSlot s).slot u = r.slot u := by
  cases s <;> cases u <;> first | rfl | exact absurd rfl other

theorem findOther (hs : HandlerTable) {key k : Text} (other : k ≠ key) :
    (hs.filter fun h => h.1 ≠ key).find? (fun h => h.1 = k) = hs.find? fun h => h.1 = k := by
  rw [List.find?_filter]
  refine congrArg (List.find? · hs) (funext fun h => ?_)
  by_cases here : h.1 = k <;> simp [here,other]

theorem dropEntryAt (r : Registry) (x y : Entry) :
    (r.dropEntry x).handlerAt? y = if y = x then none else r.handlerAt? y := by
  split
  · rename_i same
    subst same
    cases y with
    | keyed t key =>
      have none : ((r.table t).filter fun h => h.1 ≠ key).find? (fun h => h.1 = key) = none := by
        simp [List.find?_eq_none]
      simp only [dropEntry,handlerAt?,dropKeyTable,none,Option.map_none]
    | alone s => cases s <;> rfl
  · rename_i other
    cases x with
    | keyed t key =>
      cases y with
      | alone s => cases t <;> cases s <;> rfl
      | keyed u k =>
        by_cases same : u = t
        · subst same
          have apart : k ≠ key := fun same => other (same ▸ rfl)
          simp only [dropEntry,handlerAt?,dropKeyTable,findOther _ apart]
        · simp only [dropEntry,handlerAt?,dropKeyOther r same]
    | alone s =>
      cases y with
      | keyed t key => cases s <;> cases t <;> rfl
      | alone u => exact dropSlotOther r fun same => other (same ▸ rfl)

/-- A handler is found unless it is one of those that are gone. -/
theorem withoutAt (r : Registry) (gone : List Entry) (y : Entry) :
    (r.without gone).handlerAt? y = if y ∈ gone then none else r.handlerAt? y := by
  induction gone generalizing r with
  | nil => rfl
  | cons x gone ih =>
    have rest := ih (r.dropEntry x)
    rw [without] at rest ⊢
    rw [List.foldl_cons,rest,dropEntryAt]
    by_cases here : y = x <;> by_cases later : y ∈ gone <;> simp [here,later]

theorem getAt (r : Registry) (t : Table) (key : Text) :
    (r.table t).get t.title key = (r.handlerAt? (.keyed t key)).elim
      (.error (Entry.keyed t key).missing) .ok := by
  rw [HandlerTable.get,handlerAt?]
  cases (r.table t).find? fun h => h.1 = key <;> rfl

theorem singleAt (r : Registry) (s : Slot) :
    single s.title (r.slot s) = (r.handlerAt? (.alone s)).elim (.error (Entry.alone s).missing) .ok := by
  rw [handlerAt?]
  cases r.slot s <;> rfl

end Registry

open Registry (Entry Table Slot)

/-! ### Runs with fewer handlers -/

/-- An error that names a handler which a registry has and which is one of those that are gone. -/
def Misses (r : Registry) (gone : List Entry) (err : Error) : Prop :=
  ∃ x ∈ gone, (r.handlerAt? x).isSome = true ∧ err.cause = x.missing ∧
    err.class? = some .lookupFailed ∧ err.construct = x.symbol

/-- What a run gives without some handlers of a registry: what it gives with them, or an error that
names one of them. -/
def Kept (r : Registry) (gone : List Entry) {α : Type} (reduced whole : Except Error α) : Prop :=
  reduced = whole ∨ ∃ err, reduced = .error err ∧ Misses r gone err

section Kept

variable {r : Registry} {gone : List Entry} {α β : Type}

theorem Kept.same (x : Except Error α) : Kept r gone x x := .inl rfl

theorem Kept.bind {x y : Except Error α} {f g : α → Except Error β} (first : Kept r gone x y)
    (rest : ∀ a, Kept r gone (f a) (g a)) : Kept r gone (x.bind f) (y.bind g) := by
  rcases first with rfl | ⟨err,rfl,misses⟩
  · cases x with
    | error err => exact .same _
    | ok a => exact rest a
  · exact .inr ⟨err,rfl,misses⟩

theorem Kept.map {x y : Except Error α} (kept : Kept r gone x y) (f : α → β) :
    Kept r gone (x.map f) (y.map f) := by
  rcases kept with rfl | ⟨err,rfl,misses⟩
  · exact .same _
  · exact .inr ⟨err,rfl,misses⟩

theorem Kept.inMatch {x y : Except Error α} (kept : Kept r gone x y) (i : Nat) :
    Kept r gone (x.mapError (.inMatch i)) (y.mapError (.inMatch i)) := by
  rcases kept with rfl | ⟨err,rfl,misses⟩
  · exact .same _
  · exact .inr ⟨.inMatch i err,rfl,misses⟩

theorem Kept.ite {P : Prop} [Decidable P] {x y x' y' : Except Error α} (yes : Kept r gone x y)
    (no : Kept r gone x' y') : Kept r gone (if P then x else x') (if P then y else y') := by
  split
  · exact yes
  · exact no

theorem Kept.fold {f g : β → α → Except Error β} (each : ∀ b a, Kept r gone (f b a) (g b a))
    (xs : List α) (b : β) : Kept r gone (xs.foldlM f b) (xs.foldlM g b) := by
  induction xs generalizing b with
  | nil => exact .same _
  | cons x xs ih => exact (each b x).bind ih

/-- A handler is the one that the whole registry has, or it is named as missing. -/
theorem lookupKept (r : Registry) (gone : List Entry) (x : Entry) :
    Kept r gone (((r.without gone).handlerAt? x).elim (.error x.missing) .ok)
      ((r.handlerAt? x).elim (.error x.missing) .ok) := by
  rw [Registry.withoutAt]
  split
  · rename_i removed
    cases found : r.handlerAt? x with
    | none => exact .same _
    | some h => exact .inr ⟨x.missing,rfl,x,removed,by simp [found],by cases x <;> exact ⟨rfl,rfl,rfl⟩⟩
  · exact .same _

theorem tableKept (t : Table) (key : Text) {f g : Handler → Except Error α}
    (rest : ∀ h, Kept r gone (f h) (g h)) :
    Kept r gone ((((r.without gone).table t).get t.title key).bind f)
      (((r.table t).get t.title key).bind g) := by
  rw [Registry.getAt,Registry.getAt]
  exact (lookupKept r gone _).bind rest

theorem slotKept (s : Slot) {f g : Handler → Except Error α}
    (rest : ∀ h, Kept r gone (f h) (g h)) :
    Kept r gone ((single s.title ((r.without gone).slot s)).bind f)
      ((single s.title (r.slot s)).bind g) := by
  rw [Registry.singleAt,Registry.singleAt]
  exact (lookupKept r gone _).bind rest

end Kept

/-! ### Requests -/

namespace Engine

/-- The compiler without some of its handlers. -/
def without (e : Engine) (gone : List Entry) : Engine :=
  { e with registry := e.registry.without gone }

variable (e : Engine) (gone : List Entry)

theorem ruleKept (rule : Node) (d : Draft) :
    Kept e.registry gone ((e.without gone).selectorRule rule d) (e.selectorRule rule d) :=
  tableKept .streamSelector _ fun _ => .same _

theorem stageKept (n : Node) (d : Draft) :
    Kept e.registry gone ((e.without gone).stage n d) (e.stage n d) :=
  .ite (tableKept .lineFilter _ fun _ => .same _) <|
    .ite (tableKept .parser _ fun _ => .same _) <|
    .ite (slotKept .labelFilter fun _ => .same _) <|
    .ite (slotKept .lineFormat fun _ => .same _) <| .ite (.same _) (.same _)

theorem pipelineKept (n : Node) (d : Draft) :
    Kept e.registry gone ((e.without gone).selectorPipeline n d) (e.selectorPipeline n d) := by
  refine (Kept.fold (fun d rule => ruleKept e gone rule d) _ _).bind fun d => ?_
  refine Kept.fold (fun d p => ?_) _ _
  cases p.children with
  | nil => exact .same _
  | cons s _ => exact stageKept e gone s d

theorem logRangeKept (n : Node) (d : Draft) :
    Kept e.registry gone ((e.without gone).logRangeAggregation n d) (e.logRangeAggregation n d) :=
  tableKept .logRange _ fun _ => (pipelineKept e gone n d).bind fun _ => .same _

theorem unwrappedKept (n : Node) (d : Draft) :
    Kept e.registry gone ((e.without gone).unwrapped n d) (e.unwrapped n d) := by
  refine .ite (.same _) ((pipelineKept e gone n d).bind fun d => ?_)
  exact .ite (.same _) (slotKept .unwrapExpression fun _ => .same _)

theorem unwrapFunctionKept (n : Node) (d : Draft) :
    Kept e.registry gone ((e.without gone).unwrapFunction n d) (e.unwrapFunction n d) :=
  tableKept .unwrap _ fun _ => (unwrappedKept e gone n d).bind fun _ => .same _

theorem parameterizedKept (n : Node) (d : Draft) :
    Kept e.registry gone ((e.without gone).parameterizedUnwrapped n d) (e.parameterizedUnwrapped n d) :=
  tableKept .parameterizedUnwrapped _ fun _ => (unwrappedKept e gone n d).bind fun _ => .same _

theorem aggregationKept (n : Node) (d : Draft) :
    Kept e.registry gone ((e.without gone).aggregationOperator n d) (e.aggregationOperator n d) := by
  rw [aggregationOperator,aggregationOperator]
  cases n.child? Kind.logRangeAggregation with
  | some inner =>
    exact (logRangeKept e gone inner d).bind fun d => tableKept .aggregation _ fun _ => .same _
  | none =>
    cases n.child? Kind.unwrapFunction with
    | some inner =>
      exact (unwrapFunctionKept e gone inner d).bind fun d =>
        tableKept .aggregation _ fun _ => .same _
    | none => exact tableKept .aggregation _ fun _ => .same _

theorem familyKept (f : Family) (n : Node) (d : Draft) :
    Kept e.registry gone ((e.without gone).family f n d) (e.family f n d) := by
  cases f with
  | aggregation => exact aggregationKept e gone n d
  | unwrap => exact unwrapFunctionKept e gone n d
  | logRange => exact logRangeKept e gone n d
  | parameterizedUnwrapped => exact parameterizedKept e gone n d

theorem modifiersKept (root : Node) (d : Draft) :
    Kept e.registry gone ((e.without gone).modifiers root d) (e.modifiers root d) := by
  rw [modifiers,modifiers]
  cases root.find? Kind.parameterizedExpression with
  | none =>
    cases root.child? Kind.comparedAggStatementCmp with
    | none => exact .same _
    | some cmp =>
      cases root.find? Kind.aggStatement with
      | none => exact .same _
      | some _ => exact tableKept .numberOperator _ fun _ => .same _
  | some n =>
    have ranked (d : Draft) := @tableKept e.registry gone _ .parameterized
      (n.valueOf Kind.parameterizedExpressionFn) _ _ fun h => .same (h (some n) d)
    cases root.child? Kind.comparedAggStatementCmp with
    | none => exact ranked d
    | some cmp =>
      cases root.find? Kind.aggStatement with
      | none => exact ranked d
      | some _ => exact tableKept .numberOperator _ fun h => (Kept.same (h (some cmp) d)).bind ranked

theorem rootKept (r : Request) (root : Node) :
    Kept e.registry gone ((e.without gone).compileRoot r root) (e.compileRoot r root) := by
  refine .ite (.same _) (Kept.bind (.same (e.window r root)) fun w => ?_)
  dsimp only
  cases classify root with
  | none =>
    exact ((pipelineKept e gone root _).map _).bind fun d => (modifiersKept e gone root d).bind fun _ =>
      .same _
  | some found =>
    exact (familyKept e gone found.1 found.2 _).bind fun d => (modifiersKept e gone root d).bind fun _ =>
      .same _

theorem withinKept (expansions : Nat) (r : Request) :
    Kept e.registry gone ((e.without gone).compileWithin expansions r)
      (e.compileWithin expansions r) := by
  induction expansions generalizing r with
  | zero =>
    rw [compileWithin,compileWithin]
    refine Kept.bind (.same (e.parse r.query)) fun root => ?_
    cases root.find? Kind.userMacro with
    | none => exact rootKept e gone r root
    | some _ => exact .same _
  | succ expansions ih =>
    rw [compileWithin,compileWithin]
    refine Kept.bind (.same (e.parse r.query)) fun root => ?_
    cases root.find? Kind.userMacro with
    | none => exact rootKept e gone r root
    | some call => exact Kept.bind (.same (e.expand call)) fun text => ih _

theorem tailKept (query : Text) :
    Kept e.registry gone ((e.without gone).compileTail query) (e.compileTail query) := by
  rw [compileTail,compileTail]
  refine Kept.bind (.same (e.parse query)) fun root => ?_
  cases tailDenied.find? fun kind => (root.find? kind).isSome with
  | some kind => exact .same _
  | none => exact .ite (.same _) ((pipelineKept e gone root _).bind fun _ => .same _)

theorem memberKept (text : Text) :
    Kept e.registry gone ((e.without gone).seriesMember text) (e.seriesMember text) := by
  rw [seriesMember,seriesMember]
  refine Kept.bind (.same (e.parse text)) fun root => ?_
  exact .ite (.same _) ((pipelineKept e gone root _).bind fun _ => .same _)

theorem membersKept (i : Nat) (texts : List Text) :
    Kept e.registry gone ((e.without gone).seriesMembers i texts) (e.seriesMembers i texts) := by
  induction texts generalizing i with
  | nil => exact .same _
  | cons t texts ih =>
    rw [seriesMembers,seriesMembers]
    exact ((memberKept e gone t).inMatch i).bind fun _ => (ih (i + 1)).bind fun _ => .same _

theorem seriesKept (selectors : List Text) :
    Kept e.registry gone ((e.without gone).compileSeries selectors) (e.compileSeries selectors) :=
  .ite (.same _) ((membersKept e gone 0 selectors).bind fun _ => .same _)

end Engine

/-- Without some of its handlers a compiler gives what it gives with all of them, statement, matrix,
bucket length and stages of the client alike, or it fails for the lack of one of them and names it; so
do live tails and requests for series. -/
theorem removalNamesMissing (e : Engine) (gone : List Entry) :
    (∀ r : Request, (e.without gone).compile r = e.compile r ∨
      ∃ err, (e.without gone).compile r = .error err ∧ Misses e.registry gone err) ∧
    (∀ query : Text, (e.without gone).compileTail query = e.compileTail query ∨
      ∃ err, (e.without gone).compileTail query = .error err ∧ Misses e.registry gone err) ∧
    ∀ selectors : List Text,
      (e.without gone).compileSeries selectors = e.compileSeries selectors ∨
        ∃ err, (e.without gone).compileSeries selectors = .error err ∧ Misses e.registry gone err :=
  ⟨Engine.withinKept e gone maxExpansions,Engine.tailKept e gone,Engine.seriesKept e gone⟩

end LogSql.Compile
