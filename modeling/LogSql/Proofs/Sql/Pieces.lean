import LogSql.Proofs.Sql.Parts

/-! The pieces of written texts. A reader of literals sees a text as single bytes and whole literals
with the texts that they stand for. Texts that close their literals are read apart from what follows
them, so that two texts put together from such parts correspond when their parts do. -/
namespace LogSql.Sql

/-- The byte that a byte behind a backslash stands for. -/
def unescape (b : UInt8) : UInt8 :=
  if b = Text.byte 'n' then 10
  else if b = Text.byte 'r' then 13
  else if b = Text.byte 't' then 9
  else if b = Text.byte '0' then 0
  else b

/-- A byte outside literals, a literal by the text that it stands for, or the rest of a text from a
quote on that nothing closes. -/
inductive Piece where
  | byte (b : UInt8)
  | literal (value : Text)
  | unclosed (value : Text)
  deriving DecidableEq, Repr

/-- Where a reader stands: outside literals, in one whose value is read so far, or behind a backslash
in it. -/
inductive Place where
  | code
  | quoted (value : Text)
  | escaped (value : Text)

/-- The pieces of a text from a place on. -/
def Place.pieces : Place → Text → List Piece
  | code, [] => []
  | code, b :: rest =>
    if b = Text.byte '\'' then (quoted []).pieces rest else .byte b :: code.pieces rest
  | quoted value, [] => [.unclosed value]
  | quoted value, b :: rest =>
    if b = Text.byte '\\' then (escaped value).pieces rest
    else if b = Text.byte '\'' then .literal value :: code.pieces rest
    else (quoted (value ++ [b])).pieces rest
  | escaped value, [] => [.unclosed value]
  | escaped value, b :: rest => (quoted (value ++ [unescape b])).pieces rest

/-- The pieces of a text. -/
def pieces (t : Text) : List Piece := Place.code.pieces t

/-- The piece without the value of a literal. -/
def Piece.blank : Piece → Piece
  | literal _ => literal []
  | p => p

/-- A text with its literals blanked out. -/
def skeleton (t : Text) : List Piece := (pieces t).map Piece.blank

variable {P : Text → Prop} {a b t : Text}

theorem piecesSome (place : Place) (inside : place ≠ .code) (t : Text) : place.pieces t ≠ [] := by
  induction t generalizing place with
  | nil => cases place <;> simp_all [Place.pieces]
  | cons byte t ih =>
    cases place with
    | code => contradiction
    | quoted value =>
      rw [Place.pieces]
      split
      · exact ih _ (by simp)
      · split
        · simp
        · exact ih _ (by simp)
    | escaped value => exact ih _ (by simp)

theorem piecesNil : pieces t = [] ↔ t = [] := by
  cases t with
  | nil => simp [pieces,Place.pieces]
  | cons byte t =>
    rw [pieces,Place.pieces]
    split
    · simp [piecesSome (.quoted []) (by simp) t]
    · simp

/-! ### Closed texts -/

/-- Texts that are read apart from what follows them. -/
def Closed (t : Text) : Prop := ∀ rest, pieces (t ++ rest) = pieces t ++ pieces rest

theorem closedNil : Closed [] := fun _ => rfl

theorem Closed.append (first : Closed a) (second : Closed b) : Closed (a ++ b) := by
  intro rest
  rw [List.append_assoc,first,second,first b,List.append_assoc]

theorem closedConcat {ts : List Text} (each : ∀ t ∈ ts, Closed t) : Closed (Text.concat ts) := by
  induction ts with
  | nil => exact closedNil
  | cons t ts ih =>
    exact (each t List.mem_cons_self).append (ih fun u mem => each u (List.mem_cons_of_mem _ mem))

/-- Readers of words and readers of pieces that stand in the same kind of place. -/
def Mode.meets : Mode → Place → Prop
  | code _, .code => True
  | quoted, .quoted _ => True
  | escaped, .escaped _ => True
  | _, _ => False

/-- Both kinds of readers go on to the same kind of place. -/
theorem meetsStep {m : Mode} {place : Place} (meets : m.meets place) (byte : UInt8) :
    ∃ head next, (m.step byte).2.meets next ∧
      ∀ rest, place.pieces (byte :: rest) = head ++ next.pieces rest := by
  have quoteOutside : isWordByte (Text.byte '\'') = false := by decide +kernel
  have quoteSlash : Text.byte '\'' ≠ Text.byte '\\' := by decide
  cases m with
  | code word =>
    cases place with
    | code =>
      by_cases quote : byte = Text.byte '\''
      · exact ⟨[],.quoted [],by simp [Mode.step,quote,quoteOutside,Mode.meets],
          fun rest => by simp [Place.pieces,quote]⟩
      · refine ⟨[.byte byte],.code,?_,fun rest => by simp [Place.pieces,quote]⟩
        simp only [Mode.step,if_neg quote]
        split <;> trivial
    | quoted value => contradiction
    | escaped value => contradiction
  | quoted =>
    cases place with
    | code => contradiction
    | quoted value =>
      by_cases slash : byte = Text.byte '\\'
      · exact ⟨[],.escaped value,by simp [Mode.step,slash,Mode.meets],
          fun rest => by simp [Place.pieces,slash]⟩
      · by_cases quote : byte = Text.byte '\''
        · exact ⟨[.literal value],.code,by simp [Mode.step,quote,quoteSlash,Mode.meets],
            fun rest => by simp [Place.pieces,quote,quoteSlash]⟩
        · exact ⟨[],.quoted (value ++ [byte]),by simp [Mode.step,slash,quote,Mode.meets],
            fun rest => by simp [Place.pieces,slash,quote]⟩
    | escaped value => contradiction
  | escaped =>
    cases place with
    | code => contradiction
    | quoted value => contradiction
    | escaped value => exact ⟨[],.quoted (value ++ [unescape byte]),trivial,fun rest => rfl⟩

theorem mentionsClosed (mentions : Mentions P t) : Closed t := by
  -- Where the reader of words ends outside literals, so does the reader of pieces.
  have general (t : Text) (m : Mode) (place : Place) (meets : m.meets place) {w : Text}
      (ended : (scan m t).2 = .code w) (rest : Text) :
      place.pieces (t ++ rest) = place.pieces t ++ pieces rest := by
    induction t generalizing m place with
    | nil =>
      obtain rfl : m = .code w := ended
      cases place with
      | code => rfl
      | quoted value => contradiction
      | escaped value => contradiction
    | cons byte t ih =>
      obtain ⟨head,next,meets,read⟩ := meetsStep meets byte
      rw [List.cons_append,read,read,ih _ next meets ended,List.append_assoc]
  obtain ⟨ws,w,scanned,_⟩ := mentions
  exact general t (.code []) .code trivial (congrArg Prod.snd scanned)

/-- The signs of the escapes stand for what this reader takes them for. -/
theorem unescapeSign {x b : UInt8} (stands : signs.lookup x = some b) : unescape x = b := by
  have known : signs.all (fun p => unescape p.1 = p.2) = true := by decide
  obtain ⟨front,back,whole,_⟩ := List.lookup_eq_some_iff.mp stands
  exact of_decide_eq_true (List.all_eq_true.mp known (x, b) (by rw [whole]; simp))

/-- A literal is one piece, and it stands for its text. -/
theorem literalPieces (value : Text) : pieces (literal value) = [.literal value] := by
  have read {byte : UInt8} {written : Text} (escaped : Escaped byte written) (before rest : Text) :
      (Place.quoted before).pieces (written ++ rest) =
        (Place.quoted (before ++ [byte])).pieces rest := by
    cases escaped with
    | sign x stands =>
      show (Place.quoted before).pieces (Text.byte '\\' :: x :: rest) = _
      rw [Place.pieces,if_pos rfl,Place.pieces,unescapeSign stands]
    | plain slash quote => rw [List.singleton_append,Place.pieces,if_neg slash,if_neg quote]
  have inside (value before : Text) :
      (Place.quoted before).pieces (value.flatMap escapeByte ++ [Text.byte '\'']) =
        [.literal (before ++ value)] := by
    induction value generalizing before with
    | nil =>
      rw [List.flatMap_nil,List.nil_append,Place.pieces,if_neg (by decide),if_pos rfl,
        List.append_nil]
      rfl
    | cons byte value ih =>
      rw [List.flatMap_cons,List.append_assoc,read (byteEscaped byte),ih]
      simp
  rw [pieces,literal,List.cons_append,Place.pieces,if_pos rfl,inside,List.nil_append]

theorem literalClosed (value : Text) : Closed (literal value) :=
  mentionsClosed (P := fun _ => True) (mentionsLiteral trivial value)

/-! ### Corresponding texts -/

/-- Pieces that are the same apart from literals, which stand for given pairs of texts in order. -/
inductive Corresponds : List (Text × Text) → List Piece → List Piece → Prop where
  | done : Corresponds [] [] []
  | same {vs : List (Text × Text)} {ps qs : List Piece} (p : Piece) (rest : Corresponds vs ps qs) :
      Corresponds vs (p :: ps) (p :: qs)
  | value {vs : List (Text × Text)} {ps qs : List Piece} (a b : Text) (rest : Corresponds vs ps qs) :
      Corresponds ((a, b) :: vs) (.literal a :: ps) (.literal b :: qs)

section Correspondence

variable {vs ws : List (Text × Text)} {ps qs ps' qs' : List Piece}

theorem Corresponds.refl (ps : List Piece) : Corresponds [] ps ps := by
  induction ps with
  | nil => exact .done
  | cons p ps ih => exact .same p ih

theorem Corresponds.append (first : Corresponds vs ps qs) (second : Corresponds ws ps' qs') :
    Corresponds (vs ++ ws) (ps ++ ps') (qs ++ qs') := by
  induction first with
  | done => exact second
  | same p _ ih => exact .same p ih
  | value a b _ ih => exact .value a b ih

/-- Corresponding texts have one skeleton. -/
theorem Corresponds.blank (corresponds : Corresponds vs ps qs) :
    ps.map Piece.blank = qs.map Piece.blank := by
  induction corresponds with
  | done => rfl
  | same p _ ih => rw [List.map_cons,List.map_cons,ih]
  | value a b _ ih => rw [List.map_cons,List.map_cons,ih]; rfl

theorem Corresponds.nil (corresponds : Corresponds vs [] qs) : vs = [] ∧ qs = [] := by
  cases corresponds
  exact ⟨rfl,rfl⟩

theorem Corresponds.empty (corresponds : Corresponds vs ps qs) : ps = [] ↔ qs = [] := by
  cases corresponds <;> simp

end Correspondence

/-- Closed texts that differ in literals only. -/
structure Renders (vs : List (Text × Text)) (a b : Text) : Prop where
  left : Closed a
  right : Closed b
  corresponds : Corresponds vs (pieces a) (pieces b)

/-- Lists of such texts, with the literals of all of them. -/
inductive AllRender : List (Text × Text) → List Text → List Text → Prop where
  | nil : AllRender [] [] []
  | cons {vs ws : List (Text × Text)} {a b : Text} {as bs : List Text} (head : Renders vs a b)
      (tail : AllRender ws as bs) : AllRender (vs ++ ws) (a :: as) (b :: bs)

section Rendering

variable {vs ws : List (Text × Text)} {c d : Text} {as bs cs ds : List Text}

theorem Renders.same (closed : Closed t) : Renders [] t t := ⟨closed,closed,.refl _⟩

theorem Renders.literal (a b : Text) : Renders [(a, b)] (literal a) (literal b) := by
  refine ⟨literalClosed a,literalClosed b,?_⟩
  rw [literalPieces,literalPieces]
  exact .value a b .done

theorem Renders.append (first : Renders vs a b) (second : Renders ws c d) :
    Renders (vs ++ ws) (a ++ c) (b ++ d) := by
  refine ⟨first.left.append second.left,first.right.append second.right,?_⟩
  rw [first.left,first.right]
  exact first.corresponds.append second.corresponds

theorem Renders.after (closed : Closed t) (renders : Renders vs a b) : Renders vs (t ++ a) (t ++ b) :=
  (Renders.same closed).append renders

theorem Renders.before (renders : Renders vs a b) (closed : Closed t) : Renders vs (a ++ t) (b ++ t) := by
  have joined := renders.append (Renders.same closed)
  rwa [List.append_nil] at joined

/-- What follows corresponding texts need not close its literals. -/
theorem Renders.followed (renders : Renders vs a b) (rest : Text) :
    Corresponds vs (pieces (a ++ rest)) (pieces (b ++ rest)) := by
  rw [renders.left,renders.right]
  have joined := renders.corresponds.append (.refl (pieces rest))
  rwa [List.append_nil] at joined

theorem Renders.empty (renders : Renders vs a b) : a = [] ↔ b = [] := by
  rw [← piecesNil,← piecesNil]
  exact renders.corresponds.empty

theorem AllRender.append (first : AllRender vs as bs) (second : AllRender ws cs ds) :
    AllRender (vs ++ ws) (as ++ cs) (bs ++ ds) := by
  induction first with
  | nil => exact second
  | cons head _ ih =>
    rw [List.append_assoc]
    exact .cons head ih

theorem AllRender.same (each : ∀ t ∈ as, Closed t) : AllRender [] as as := by
  induction as with
  | nil => exact .nil
  | cons a as ih =>
    exact .cons (.same (each a List.mem_cons_self)) (ih fun t mem => each t (List.mem_cons_of_mem _ mem))

theorem AllRender.join {sep : Text} (closed : Closed sep) (all : AllRender vs as bs) :
    Renders vs (Text.join sep as) (Text.join sep bs) := by
  induction all with
  | nil => exact .same closedNil
  | cons head tail ih =>
    cases tail with
    | nil =>
      rw [List.append_nil]
      exact head
    | cons second more => exact (head.before closed).append ih

/-- Corresponding texts are left out together. -/
theorem AllRender.some (all : AllRender vs as bs) :
    AllRender vs (as.filter fun t => !t.isEmpty) (bs.filter fun t => !t.isEmpty) := by
  induction all with
  | nil => exact .nil
  | @cons vs ws a b as bs head tail ih =>
    by_cases left : a = []
    · have right := head.empty.mp left
      have corresponds := head.corresponds
      rw [left] at corresponds
      obtain ⟨rfl,_⟩ := corresponds.nil
      simpa [left,right] using ih
    · have right : b ≠ [] := fun none => left (head.empty.mpr none)
      rw [List.filter_cons_of_pos (by simpa using left),List.filter_cons_of_pos (by simpa using right)]
      exact .cons head ih

theorem stringClosed {s : String} {cs : List Char} (spelled : s = String.ofList cs)
    (pass : wordsPass (fun _ => true) (cs.flatMap Text.ofChar) = true) : Closed (Text.ofString s) :=
  mentionsClosed (P := fun _ => True) (mentionsString (fun _ _ => trivial) spelled pass)

theorem AllRender.conjunction (all : AllRender vs as bs) :
    Renders vs (Sql.conjunction as) (Sql.conjunction bs) :=
  all.some.join (stringClosed rfl (by decide))

theorem AllRender.logical {op : Text} (closed : Closed op) (all : AllRender vs as bs) :
    Renders vs (Sql.logical op as) (Sql.logical op bs) := by
  have some := all.some
  have space : Closed " " := stringClosed rfl (by decide)
  have sep : Closed (.concat [" ", op, " "]) :=
    closedConcat (by simp only [List.forall_mem_cons]; exact ⟨space,closed,space,by simp⟩)
  unfold Sql.logical
  generalize as.filter (fun t => !t.isEmpty) = kept at some
  generalize bs.filter (fun t => !t.isEmpty) = others at some
  cases some with
  | nil => exact .same closedNil
  | cons head tail =>
    cases tail with
    | nil =>
      rw [List.append_nil]
      exact head
    | cons second more =>
      have joined := ((AllRender.cons head (.cons second more)).join sep).after
        (stringClosed (s := "(") rfl (by decide))
      have whole := joined.before (stringClosed (s := ")") rfl (by decide))
      simpa [Text.concat] using whole

end Rendering

/-! ### Corresponding expressions -/

/-- Expressions that are written alike apart from literals. -/
def Varies (vs : List (Text × Text)) (e f : Expr) : Prop :=
  ∀ v : CellView, Renders vs (e.text v) (f.text v)

/-- Lists of such expressions, with the literals of all of them. -/
def AllVary (vs : List (Text × Text)) (es fs : List Expr) : Prop :=
  ∀ v : CellView, AllRender vs (Expr.texts v es) (Expr.texts v fs)

section Variation

variable {vs ws : List (Text × Text)} {e f l l' r r' : Expr} {es fs gs hs : List Expr}

theorem Varies.same (neutral : Neutral P) (written : Written (Mentions P) [] e) : Varies [] e e :=
  fun _ => .same (mentionsClosed (written.mentions neutral (by simp)))

theorem Varies.str (a b : Text) : Varies [(a, b)] (.str a) (.str b) := fun _ => .literal a b

theorem Varies.not (varies : Varies vs e f) : Varies vs (.not e) (.not f) := by
  intro v
  have whole := ((varies v).after (stringClosed (s := "NOT (") rfl (by decide))).before
    (stringClosed (s := ")") rfl (by decide))
  simpa [Expr.text,Text.concat] using whole

theorem Varies.binary {op : Text} (closed : Closed op) (left : Varies vs l l')
    (right : Varies ws r r') : Varies (vs ++ ws) (.binary op l r) (.binary op l' r') := by
  intro v
  have space : Closed " " := stringClosed rfl (by decide)
  have whole := (((left v).before space).before closed).before space |>.append (right v)
  simpa [Expr.text,Text.concat] using whole

theorem AllVary.nil : AllVary [] [] [] := fun _ => .nil

theorem AllVary.cons (head : Varies vs e f) (tail : AllVary ws es fs) :
    AllVary (vs ++ ws) (e :: es) (f :: fs) := fun v => .cons (head v) (tail v)

theorem AllVary.append (first : AllVary vs es fs) (second : AllVary ws gs hs) :
    AllVary (vs ++ ws) (es ++ gs) (fs ++ hs) := by
  intro v
  have whole := (first v).append (second v)
  simpa [Expr.textsMap] using whole

theorem AllVary.snoc (before : AllVary vs es fs) (last : Varies ws e f) :
    AllVary (vs ++ ws) (es ++ [e]) (fs ++ [f]) := by
  have single := AllVary.cons last .nil
  rw [List.append_nil] at single
  exact before.append single

theorem AllVary.call {name : Text} (closed : Closed name) (all : AllVary vs es fs) :
    Varies vs (.call name es) (.call name fs) := by
  intro v
  have args := (all v).join (stringClosed (s := ", ") rfl (by decide))
  have whole := ((args.after (stringClosed (s := "(") rfl (by decide))).after closed).before
    (stringClosed (s := ")") rfl (by decide))
  simpa [Expr.text,Text.concat] using whole

theorem AllVary.all (all : AllVary vs es fs) : Varies vs (.all es) (.all fs) :=
  fun v => (all v).logical (stringClosed rfl (by decide))

theorem AllVary.any (all : AllVary vs es fs) : Varies vs (.any es) (.any fs) :=
  fun v => (all v).logical (stringClosed rfl (by decide))

end Variation

/-! ### Corresponding statements -/

namespace SelectOf

/-- A statement without its common table expressions, up to its conditions. -/
def opening (s : SelectOf Text) : Text :=
  .concat [
    "SELECT ",
    if s.distinct then "DISTINCT " else [],
    if s.columns.isEmpty then "*" else Text.join ", " (s.columns.map columnText),
    s.sourceText,
    s.joins.flatMap fun j => Text.byte ' ' :: joinText j,
    clause " WHERE " (conjunction s.filters)]

/-- What follows the conditions of a statement. -/
def closing (s : SelectOf Text) : Text :=
  .concat [
    listClause " GROUP BY " s.groups,
    clause " HAVING " (conjunction s.havings),
    listClause " ORDER BY " (s.orders.map orderText),
    s.limitText]

theorem bareText {s : SelectOf Text} (bare : s.withs = []) : s.text = s.opening ++ s.closing := by
  simp [text,opening,closing,bare,Text.concat]

/-- Statements that are closed up to their conditions. -/
structure Opens (s : SelectOf Text) : Prop where
  columns : ∀ c ∈ s.columns, Closed c.expr ∧ Closed c.name
  source : ∀ t ∈ s.source, Closed t
  named : Closed s.sourceAlias
  joins : ∀ j ∈ s.joins, Closed j.kind ∧ Closed j.table ∧ Closed j.name ∧ ∀ t ∈ j.on, Closed t

theorem clauseClosed {keyword : Text} (known : Closed keyword) (closed : Closed t) :
    Closed (clause keyword t) := by
  rw [clause]
  split
  · exact closedNil
  · exact known.append closed

theorem columnsClosed {s : SelectOf Text} (opens : s.Opens) :
    Closed (if s.columns.isEmpty then "*" else Text.join ", " (s.columns.map columnText)) := by
  split
  · exact stringClosed rfl (by decide)
  · refine ((AllRender.same fun t mem => ?_).join (stringClosed rfl (by decide))).left
    obtain ⟨c,inside,rfl⟩ := List.mem_map.mp mem
    obtain ⟨expr,name⟩ := opens.columns c inside
    rw [columnText]
    split
    · exact expr
    · exact closedConcat (by
        simp only [List.forall_mem_cons]
        exact ⟨expr,stringClosed rfl (by decide),name,by simp⟩)

theorem sourceClosed {s : SelectOf Text} (opens : s.Opens) : Closed s.sourceText := by
  rw [sourceText]
  split
  · rename_i t found
    exact closedConcat (by
      simp only [List.forall_mem_cons]
      exact ⟨stringClosed rfl (by decide),opens.source t found,
        clauseClosed (stringClosed rfl (by decide)) opens.named,by simp⟩)
  · exact closedNil

theorem joinsClosed {s : SelectOf Text} (opens : s.Opens) :
    Closed (s.joins.flatMap fun j => Text.byte ' ' :: joinText j) := by
  refine closedConcat fun t mem => ?_
  obtain ⟨j,inside,rfl⟩ := List.mem_map.mp mem
  obtain ⟨kind,table,name,on⟩ := opens.joins j inside
  have matched : Closed (optClause " ON " j.on) := by
    cases found : j.on with
    | none => exact closedNil
    | some t => exact Closed.append (stringClosed rfl (by decide)) (on t found)
  refine Closed.append (a := " ") (stringClosed rfl (by decide)) (closedConcat ?_)
  simp only [List.forall_mem_cons]
  exact ⟨kind,stringClosed rfl (by decide),table,
    clauseClosed (stringClosed rfl (by decide)) name,matched,by simp⟩

/-- A clause of conditions is there for both statements or for neither. -/
theorem clauseRenders {vs : List (Text × Text)} {a b keyword : Text} (known : Closed keyword)
    (renders : Renders vs a b) : Renders vs (clause keyword a) (clause keyword b) := by
  have empty := renders.empty
  rw [clause,clause]
  by_cases none : a = []
  · simpa [none,empty.mp none] using renders
  · simpa [none,mt empty.mpr none] using renders.after known

/-- Statements that differ in their conditions only are written alike up to there. -/
theorem openingRenders {s : SelectOf Text} (opens : s.Opens) {vs : List (Text × Text)}
    {filters : List Text} (all : AllRender vs s.filters filters) :
    Renders vs s.opening ({ s with filters } : SelectOf Text).opening := by
  have distinct : Closed (if s.distinct then "DISTINCT " else [] : Text) := by
    split
    · exact stringClosed rfl (by decide)
    · exact closedNil
  have before : Closed (.concat ["SELECT ", if s.distinct then "DISTINCT " else [],
      if s.columns.isEmpty then "*" else Text.join ", " (s.columns.map columnText), s.sourceText,
      s.joins.flatMap fun j => Text.byte ' ' :: joinText j]) :=
    closedConcat (by
      simp only [List.forall_mem_cons]
      exact ⟨stringClosed rfl (by decide),distinct,columnsClosed opens,sourceClosed opens,
        joinsClosed opens,by simp⟩)
  have conditions := clauseRenders (stringClosed (s := " WHERE ") rfl (by decide)) all.conjunction
  have whole := conditions.after before
  simpa [opening,Text.concat,sourceText] using whole

theorem withsText (s : SelectOf Text) (w : Named Text) (ws : List (Named Text)) :
    ({ s with withs := w :: ws } : SelectOf Text).text =
      "WITH " ++ Text.join ", " (withText w :: ws.map withText) ++ " " ++
        ({ s with withs := [] } : SelectOf Text).text := by
  simp [text,listClause,Text.concat,sourceText,limitText]

/-- A statement with two common table expressions or more, up to some place in the second. -/
theorem secondText (s : SelectOf Text) (first second rest : Text) (more : List (Named Text)) :
    ∃ tail, ∀ a b : Text, ({ s with withs := ⟨a, first⟩ :: ⟨b ++ rest, second⟩ :: more } :
      SelectOf Text).text =
        .concat ["WITH ", first, " AS (", a, "), ", second, " AS (", b] ++ tail := by
  obtain ⟨after,joined⟩ : ∃ after, ∀ t : Text, Text.join ", " (t :: more.map withText) = t ++ after := by
    cases more.map withText with
    | nil => exact ⟨[],fun t => (List.append_nil t).symm⟩
    | cons u us => exact ⟨", " ++ Text.join ", " (u :: us),fun t => List.append_assoc ..⟩
  have closed : Text.ofString "), " = Text.ofString ")" ++ Text.ofString ", " := by decide
  refine ⟨rest ++ ")" ++ after ++ " " ++ ({ s with withs := [] } : SelectOf Text).text,fun a b => ?_⟩
  rw [withsText,List.map_cons,Text.join,joined]
  · simp only [withText,Text.concat,closed,List.flatten_cons,List.flatten_nil,List.append_assoc,
      List.append_nil]
  · simp

end SelectOf

end LogSql.Sql
