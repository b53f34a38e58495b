import LogSql.Proofs.Compile.Paths
import LogSql.Proofs.Text.Fields

/-! What a path finds in a document. The database follows accessors, which say whether a member or a
position is meant; the client follows the pieces of the path, and each piece is a member in an object and
a position in an array. So the client also finds values where an accessor meets a value of the other
kind, and it takes a bracket inside a name for a separator. -/
namespace LogSql.Compile

open Sql (Expr)
open Int64Range (fits wrap least greatest)

/-- The value of a document at accessors: a text is a member of an object and a positive number a position
in an array, counted from one. Anything else finds nothing. -/
def extractAt : Json → List Expr → Option Json
  | v, [] => some v
  | .object members, .str name :: rest => do extractAt (← Json.member? members name) rest
  | .array items, .int i :: rest =>
    if 0 < i then do extractAt (← items[(i - 1).toNat]?) rest else none
  | _, _ => none

/-- Whether all values on the way are of the kinds that the accessors are for. -/
def meets : Json → List Expr → Bool
  | _, [] => true
  | .object members, .str name :: rest => (Json.member? members name).all fun v => meets v rest
  | .array items, .int i :: rest => 0 < i && (items[(i - 1).toNat]?).all fun v => meets v rest
  | _, _ => false

/-! ### The pieces of a path -/

theorem clientAppend {x : UInt8} (cut : x ∈ [Text.byte '.', Text.byte '[', Text.byte ']'])
    (a b : Text) : clientPath (a ++ x :: b) = clientPath a ++ clientPath b := by
  have marks : x = Text.byte '.' ∨ x = Text.byte '[' ∨ x = Text.byte ']' := by simpa using cut
  rcases marks with rfl | rfl | rfl
  all_goals exact Text.fieldsAppend (by decide) (by decide) a b

theorem clientWhole {t : Text} (plain : ∀ b ∈ t, b ≠ Text.byte '.' ∧ b ≠ Text.byte '[' ∧
    b ≠ Text.byte ']') : clientPath t = if t.isEmpty then [] else [t] := by
  refine Text.fieldsWhole fun g mem => ?_
  have decoded := Text.glyphsFromDecoded 0 t g mem
  have inside (b : UInt8) (byte : b ∈ g.raw) : b ∈ t := by
    rw [← Text.ofGlyphsText t]
    exact List.mem_flatMap_of_mem mem byte
  have other {c : Char} (ascii : c.toNat < 128) (absent : Text.byte c ∉ t) : g.char ≠ c := by
    rintro rfl
    exact absent (inside _ (by rw [decoded.raw ascii]; exact List.mem_singleton_self _))
  have point := other (c := '.') (by decide) fun mem => (plain _ mem).1 rfl
  have opening := other (c := '[') (by decide) fun mem => (plain _ mem).2.1 rfl
  have closing := other (c := ']') (by decide) fun mem => (plain _ mem).2.2 rfl
  simp [point,opening,closing]

theorem clientApart {path field : Text} (mem : field ∈ clientPath path) : Text.byte ']' ∉ field :=
  Text.fieldsApart (by decide) (by decide) mem

namespace Segment

/-- The pieces that the client follows for a segment. -/
def keys (s : Segment) : List Text := clientPath s.name ++ s.positions.map Position.text

theorem positionKey (p : Position) : clientPath p.text = [p.text] := by
  obtain ⟨d,rest,digits,_⟩ := p.someDigit
  rw [clientWhole p.unbracketed,if_neg (by simp [Position.text,digits])]

theorem Behind.keys {ps : List Position} {t : Text} (behind : Behind ps t) :
    clientPath t = ps.map Position.text := by
  induction behind with
  | nil => rfl
  | next p more ih =>
    rw [clientAppend (by simp),positionKey,ih]
    rfl
  | @opened p ps rest more ih =>
    have bracket : clientPath (Text.byte '[' :: rest) = clientPath rest :=
      clientAppend (by simp) [] rest
    rw [clientAppend (by simp),positionKey,bracket,ih]
    rfl

theorem Taken.keys {s : Segment} {t : Text} (taken : s.Taken t) : clientPath t = s.keys := by
  cases taken with
  | name alone => simp [Segment.keys,alone]
  | positions more => rw [clientAppend (by simp),more.keys,Segment.keys]

end Segment

theorem TakenPath.keys {segments : List Segment} {path : Text} (taken : TakenPath segments path) :
    clientPath path = segments.flatMap Segment.keys := by
  cases taken with
  | @intro parts some each =>
  clear some
  induction each with
  | nil => rfl
  | @cons s part segments parts head tail ih =>
    rw [List.flatMap_cons]
    cases tail with
    | nil => simpa [Text.join] using head.keys
    | cons next more =>
      have point : Text.ofString "." = [Text.byte '.'] := by decide
      rw [Text.joinCons _ _ (List.cons_ne_nil _ _),point,List.append_assoc,← head.keys,← ih,point]
      exact clientAppend (by simp) part _

/-! ### Steps -/

/-- A step into a document. -/
inductive Step where
  | name (t : Text)
  | position (p : Position)

namespace Step

def accessor : Step → Expr
  | name t => .str t
  | position p => p.accessor

def key : Step → Text
  | name t => t
  | position p => p.text

end Step

def Segment.steps (s : Segment) : List Step :=
  if s.name.isEmpty then s.positions.map .position else .name s.name :: s.positions.map .position

theorem stepAccessors (s : Segment) : s.steps.map Step.accessor = s.accessors := by
  unfold Segment.steps Segment.accessors
  split <;> simp [Step.accessor,Function.comp_def]

theorem stepKeys {s : Segment} (plain : Text.byte ']' ∉ s.name) : s.steps.map Step.key = s.keys := by
  have name : clientPath s.name = if s.name.isEmpty then [] else [s.name] := by
    refine clientWhole fun b mem => ⟨?_,?_,?_⟩
    · exact fun same => s.plain.1 (same ▸ mem)
    · exact fun same => s.plain.2 (same ▸ mem)
    · exact fun same => plain (same ▸ mem)
  unfold Segment.steps Segment.keys
  rw [name]
  split <;> simp [Step.key,Function.comp_def]

/-- Accessors find what the client finds on the way through values of their kinds. -/
theorem stepsFound {steps : List Step} (readable : ∀ p, .position p ∈ steps → p.Readable)
    (v w : Json) : extractAt v (steps.map Step.accessor) = some w ↔
      Hook.jsonAt v (steps.map Step.key) = some w ∧ meets v (steps.map Step.accessor) = true := by
  induction steps generalizing v with
  | nil => simp [extractAt,Hook.jsonAt,meets]
  | cons step steps ih =>
    have others := ih fun p mem => readable p (List.mem_cons_of_mem _ mem)
    rw [List.map_cons,List.map_cons]
    cases step with
    | name t =>
      cases v with
      | object members =>
        cases found : Json.member? members t with
        | none => simp [Step.accessor,Step.key,extractAt,Hook.jsonAt,meets,found]
        | some x => simpa [Step.accessor,Step.key,extractAt,Hook.jsonAt,meets,found] using others x
      | _ => simp [Step.accessor,extractAt,meets]
    | position p =>
      have bound := readable p List.mem_cons_self
      rw [Step.accessor,accessorValue bound,Step.key]
      cases v with
      | array items =>
        have number : Number.readInt p.text = .ok p.value := by
          rw [p.read,if_pos (Int64Range.fitsRange.mpr ⟨by unfold least; have := bound.1; omega,bound.2⟩)]
        have natural : ¬p.value < 0 := by
          have := bound.1
          omega
        split
        · have positive : 0 < p.value + 1 := by omega
          have place : p.value + 1 - 1 = p.value := by omega
          cases found : items[p.value.toNat]? with
          | none =>
            simp [extractAt,Hook.jsonAt,meets,number,natural,positive,place,found]
          | some x =>
            simpa [extractAt,Hook.jsonAt,meets,number,natural,positive,place,found] using others x
        · have wrapped : ¬0 < least := by decide
          simp [extractAt,meets,wrapped]
      | _ => simp [extractAt,meets]

/-- Names that are no positions find the same on both sides. -/
theorem namesFound {names : List Text}
    (other : ∀ name ∈ names, ∀ i, Number.readInt name = .ok i → i < 0) (v : Json) :
    extractAt v (names.map .str) = Hook.jsonAt v names := by
  induction names generalizing v with
  | nil => simp [extractAt,Hook.jsonAt]
  | cons name names ih =>
    obtain ⟨first,others⟩ := List.forall_mem_cons.mp other
    rw [List.map_cons]
    cases v with
    | object members =>
      cases found : Json.member? members name with
      | none => simp [extractAt,Hook.jsonAt,found]
      | some x => simpa [extractAt,Hook.jsonAt,found] using ih others x
    | array items =>
      cases number : Number.readInt name with
      | error err => simp [extractAt,Hook.jsonAt,number]
      | ok i => simp [extractAt,Hook.jsonAt,number,first i number]
    | _ => simp [extractAt,Hook.jsonAt]

theorem objectNames {names : List Text}
    (other : ∀ name ∈ names.tail, ∀ i, Number.readInt name = .ok i → i < 0)
    (members : List (Text × Json)) :
    extractAt (.object members) (names.map .str) = Hook.jsonAt (.object members) names := by
  cases names with
  | nil => simp [extractAt,Hook.jsonAt]
  | cons name names =>
    cases found : Json.member? members name with
    | none => simp [extractAt,Hook.jsonAt,found]
    | some x => simpa [extractAt,Hook.jsonAt,found] using namesFound other x

/-! ### Documents that tell accessors and pieces apart -/

/-- A value inside objects of one member each. -/
def within (keys : List Text) (v : Json) : Json := keys.foldr (fun key v => .object [(key,v)]) v

theorem memberAlone (key name : Text) (v : Json) :
    Json.member? [(key,v)] name = if name = key then some v else none := by
  by_cases same : name = key
  · simp [Json.member?,same]
  · have other : (name == key) = false := by simpa using same
    simp [Json.member?,List.lookup_cons,same,other]

theorem withinFound (keys rest : List Text) (v : Json) :
    Hook.jsonAt (within keys v) (keys ++ rest) = Hook.jsonAt v rest := by
  induction keys with
  | nil => rfl
  | cons key keys ih => simpa [within,Hook.jsonAt,memberAlone] using ih

theorem withinExtracted (keys : List Text) (rest : List Expr) (v : Json) :
    extractAt (within keys v) (keys.map .str ++ rest) = extractAt v rest := by
  induction keys with
  | nil => rfl
  | cons key keys ih => simpa [within,extractAt,memberAlone] using ih

/-- Accessors that find the empty object behind these keys name them. -/
theorem withinOnly {keys : List Text} {es : List Expr}
    (found : extractAt (within keys (.object [])) es = some (.object [])) : es = keys.map .str := by
  induction keys generalizing es with
  | nil =>
    cases es with
    | nil => rfl
    | cons e es => cases e <;> simp [within,extractAt,Json.member?] at found
  | cons key keys ih =>
    cases es with
    | nil => simp [within,extractAt] at found
    | cons e es =>
      cases e with
      | str name =>
        by_cases same : name = key
        · subst same
          obtain rfl := ih (by simpa [within,extractAt,memberAlone] using found)
          rfl
        · simp [within,extractAt,memberAlone,same] at found
      | _ => simp [within,extractAt] at found

theorem withinObject (keys : List Text) (members : List (Text × Json)) :
    ∃ inner, within keys (.object members) = .object inner := by
  cases keys <;> exact ⟨_,rfl⟩

section Same

variable {keys : List Text}

theorem sameNames {es : List Expr} (same : ∀ members w, extractAt (.object members) es = some w ↔
    Hook.jsonAt (.object members) keys = some w) : es = keys.map .str := by
  obtain ⟨members,object⟩ := withinObject keys []
  refine withinOnly ?_
  rw [object,same,← object]
  simpa [Hook.jsonAt] using withinFound keys [] (.object [])

/-- An array that is met at a name has a value there for the client alone. -/
theorem sameTail (same : ∀ members w, extractAt (.object members) (keys.map .str) = some w ↔
    Hook.jsonAt (.object members) keys = some w) :
    ∀ name ∈ keys.tail, ∀ i, Number.readInt name = .ok i → i < 0 := by
  intro name mem i number
  cases keys with
  | nil => contradiction
  | cons first keys =>
    obtain ⟨before,behind,rfl⟩ := List.append_of_mem mem
    by_contra natural
    obtain ⟨items,place⟩ : ∃ items : List Json,
        items[i.toNat]? = some (within behind (.object [])) :=
      ⟨List.replicate (i.toNat + 1) (within behind (.object [])),by simp⟩
    have client : Hook.jsonAt (within (first :: before) (.array items))
        ((first :: before) ++ name :: behind) = some (.object []) := by
      rw [withinFound]
      simpa [Hook.jsonAt,number,natural,place] using withinFound behind [] (.object [])
    have server : extractAt (within (first :: before) (.array items))
        (((first :: before) ++ name :: behind).map .str) = none := by
      rw [List.map_append,withinExtracted]
      simp [extractAt]
    exact absurd (server.symm.trans ((same _ _).mpr client)) (by simp)

end Same

/-! ### Paths compared -/

theorem stepPosition {s : Segment} {p : Position} (mem : .position p ∈ s.steps) :
    p ∈ s.positions := by
  unfold Segment.steps at mem
  split at mem <;> simpa using mem

/-- The steps of a path that is accepted; the client takes the same ones when no name has a bracket. -/
theorem pathSteps {path : Text} {es : List Expr} (ok : pathAccessors path = .ok es) :
    ∃ steps : List Step, es = steps.map Step.accessor ∧ (∀ p, .position p ∈ steps → p.Readable) ∧
      ((∀ name, .str name ∈ es → Text.byte ']' ∉ name) → clientPath path = steps.map Step.key) := by
  obtain ⟨segments,taken⟩ := takenPathOf ok
  obtain ⟨readable,rfl,_⟩ := (taken.read es).mp ok
  refine ⟨segments.flatMap Segment.steps,?_,fun p mem => ?_,fun plain => ?_⟩
  · rw [List.map_flatMap]
    exact (List.flatMap_congr fun s _ => stepAccessors s).symm
  · obtain ⟨s,inside,step⟩ := List.mem_flatMap.mp mem
    exact readable s inside p (stepPosition step)
  · rw [taken.keys,List.map_flatMap]
    refine (List.flatMap_congr fun s inside => stepKeys fun bracket => ?_).symm
    have named : s.name.isEmpty = false := by
      cases same : s.name with
      | nil => simp [same] at bracket
      | cons b t => rfl
    refine plain s.name (List.mem_flatMap.mpr ⟨s,inside,?_⟩) bracket
    simp [Segment.accessors,named]

/-- A path finds the same in all object documents on both sides only when it is made of names alone, and
no name behind the first is a position. Where no name has a bracket, what the accessors find is what the
client finds, less what it finds at values of the other kind. -/
theorem pathsCompared {path : Text} {es : List Expr} (ok : pathAccessors path = .ok es) :
    ((∀ members w, extractAt (.object members) es = some w ↔
        Hook.jsonAt (.object members) (clientPath path) = some w) ↔
      (∀ e ∈ es, ∃ name, e = .str name ∧ Text.byte ']' ∉ name) ∧
        ∀ name, .str name ∈ es.tail → ∀ i, Number.readInt name = .ok i → i < 0) ∧
    ((∀ name, .str name ∈ es → Text.byte ']' ∉ name) → ∀ v w, extractAt v es = some w ↔
      Hook.jsonAt v (clientPath path) = some w ∧ meets v es = true) := by
  obtain ⟨steps,accessors,readable,keys⟩ := pathSteps ok
  refine ⟨⟨fun same => ?_,fun ⟨named,other⟩ members w => ?_⟩,fun plain v w => ?_⟩
  · obtain rfl := sameNames same
    refine ⟨fun e mem => ?_,fun name mem => sameTail same name ?_⟩
    · obtain ⟨name,piece,rfl⟩ := List.mem_map.mp mem
      exact ⟨name,rfl,clientApart piece⟩
    · rw [← List.map_tail] at mem
      obtain ⟨_,piece,same⟩ := List.mem_map.mp mem
      cases same
      exact piece
  · have plain (name : Text) (mem : .str name ∈ es) : Text.byte ']' ∉ name := by
      obtain ⟨_,same,bracket⟩ := named _ mem
      cases same
      exact bracket
    have names : es = (clientPath path).map .str := by
      rw [keys plain,accessors,List.map_map]
      refine List.map_congr_left fun step mem => ?_
      cases step with
      | name t => rfl
      | position p =>
        obtain ⟨_,same,_⟩ := named p.accessor (accessors ▸ List.mem_map_of_mem mem)
        cases same
    rw [names] at other ⊢
    rw [objectNames fun name mem => other name (List.map_tail ▸ List.mem_map_of_mem mem)]
  · rw [keys plain,accessors]
    exact stepsFound readable v w

def firstPosition : Position := .unsigned "0" (by decide)

/-- A position at an object: the client takes it for the name of a member. -/
theorem positionMember :
    pathAccessors "x[0]" = .ok [.str "x", .int 1] ∧
      Hook.jsonAt (.object [("x",.object [("0",.string "v")])]) (clientPath "x[0]") =
        some (.string "v") ∧
      extractAt (.object [("x",.object [("0",.string "v")])]) [.str "x", .int 1] ≠
        some (.string "v") := by
  have value : firstPosition.value = 0 := by decide
  have raised : firstPosition.accessor = .int 1 := by
    rw [Position.accessor,value]
    rfl
  have accessors : pathAccessors "x[0]" = .ok [.str "x", .int 1] := by
    have readable : firstPosition.Readable := by
      rw [Position.Readable,value]
      decide
    have read := elementRead rfl readable
    rwa [raised] at read
  have plain : ∀ name, .str name ∈ [Expr.str "x", .int 1] → Text.byte ']' ∉ name := by
    intro name mem
    obtain rfl : name = "x" := by simpa using mem
    decide
  refine ⟨accessors,rfl,fun found => ?_⟩
  have met := (((pathsCompared accessors).2 plain _ _).mp found).2
  exact absurd met (by decide)

end LogSql.Compile
