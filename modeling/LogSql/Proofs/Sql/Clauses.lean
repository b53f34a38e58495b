import LogSql.Proofs.Computation
import LogSql.Proofs.Text.Strings
import LogSql.Sql.Clause

/-! What stands behind the keywords of a statement given as clause trees. The text is told apart into
segments, so that one can ask what each keyword announces and what each pair of parentheses holds. A
list of named statements of which none is present, a clause that holds its operator alone and a clause
around one empty text all announce something and write nothing: the segments are whole exactly for the
statements without these, at any depth. -/
namespace LogSql.Sql.Clause

/-! ### Segments -/

/-- The keywords that announce something. -/
inductive Keyword where
  | withs | on | filter | having
  deriving DecidableEq, Repr

def Keyword.text : Keyword → Text
  | .withs => "WITH "
  | .on => " ON "
  | .filter => " WHERE "
  | .having => " HAVING "

/-- A stretch of the text of a statement: plain text, a keyword with what it announces, or a clause in
the parentheses of the clause around it. -/
inductive Segment where
  | raw (t : Text)
  | announced (k : Keyword) (content : List Segment)
  | nested (content : List Segment)

mutual

def Segment.text : Segment → Text
  | .raw t => t
  | .announced k content => k.text ++ spelled content
  | .nested content => .concat ["(", spelled content, ")"]

def spelled : List Segment → Text
  | [] => []
  | s :: rest => s.text ++ spelled rest

end

def Segment.content : Segment → List Segment
  | .raw _ => []
  | .announced _ content => content
  | .nested content => content

/-- A segment stands among the others, at any depth. -/
inductive Emits : List Segment → Segment → Prop where
  | here {ss : List Segment} {s : Segment} (mem : s ∈ ss) : Emits ss s
  | inside {ss : List Segment} {p s : Segment} (mem : p ∈ ss) (inner : Emits p.content s) : Emits ss s

/-- A keyword announces something, and the parentheses of a clause hold something. -/
def Segment.Full : Segment → Prop
  | .raw _ => True
  | .announced _ content => spelled content ≠ []
  | .nested content => spelled content ≠ []

def Whole (ss : List Segment) : Prop := ∀ s, Emits ss s → s.Full

@[simp] theorem spelledAppend (ss us : List Segment) : spelled (ss ++ us) = spelled ss ++ spelled us := by
  induction ss with
  | nil => rfl
  | cons s ss ih => simp [spelled,ih]

theorem emitsAppend {ss us : List Segment} {s : Segment} :
    Emits (ss ++ us) s ↔ Emits ss s ∨ Emits us s := by
  constructor
  · rintro (mem | ⟨mem,inner⟩)
    · exact (List.mem_append.mp mem).imp .here .here
    · exact (List.mem_append.mp mem).imp (.inside · inner) (.inside · inner)
  · rintro ((mem | ⟨mem,inner⟩) | (mem | ⟨mem,inner⟩))
    · exact .here (List.mem_append_left us mem)
    · exact .inside (List.mem_append_left us mem) inner
    · exact .here (List.mem_append_right ss mem)
    · exact .inside (List.mem_append_right ss mem) inner

theorem emitsSingle {p s : Segment} : Emits [p] s ↔ s = p ∨ Emits p.content s := by
  constructor
  · rintro (mem | ⟨mem,inner⟩)
    · exact .inl (List.mem_singleton.mp mem)
    · cases List.mem_singleton.mp mem
      exact .inr inner
  · rintro (rfl | inner)
    · exact .here (List.mem_singleton_self _)
    · exact .inside (List.mem_singleton_self _) inner

@[simp] theorem wholeNil : Whole [] := by
  rintro s (mem | ⟨mem,_⟩) <;> cases mem

@[simp] theorem wholeAppend {ss us : List Segment} : Whole (ss ++ us) ↔ Whole ss ∧ Whole us := by
  simp only [Whole,emitsAppend,or_imp,forall_and]

@[simp] theorem wholeSingle {p : Segment} : Whole [p] ↔ p.Full ∧ Whole p.content := by
  simp only [Whole,emitsSingle,or_imp,forall_and,forall_eq]

/-! ### The segments of a statement -/

/-- The parts one after the other, `sep` between each two. -/
def between (sep : Text) : List (List Segment) → List Segment
  | [] => []
  | [ss] => ss
  | ss :: rest => ss ++ [.raw sep] ++ between sep rest

mutual

/-- The segments of a clause. -/
def segments : List Operand → List Segment
  | .text op :: operands => between (.concat [" ", op, " "]) (operandSegments operands)
  | _ => []

/-- The segments of operands, one list for each. -/
def operandSegments : List Operand → List (List Segment)
  | [] => []
  | .text t :: rest => [.raw t] :: operandSegments rest
  | .clause items :: rest => [.nested (segments items)] :: operandSegments rest
  | .list items :: rest => [.nested (segments items)] :: operandSegments rest
  | _ :: rest => operandSegments rest

end

def joinSegments : List LeftJoin → List Segment
  | [] => []
  | j :: rest =>
    [.raw (.concat [" LEFT JOIN ", j.name]), .announced .on (segments j.on)] ++ joinSegments rest

/-- A boolean part is announced when the clause has any items. -/
def partSegments (k : Keyword) (c : List Operand) : List Segment :=
  if c.isEmpty then [] else [.announced k (segments c)]

def Body.segments (b : Body) : List Segment :=
  [Segment.raw (.concat ["SELECT ", if b.distinct then "DISTINCT " else [], Text.join ", " b.select, " FROM ",
    b.source, if b.final then " FINAL" else []])] ++
  joinSegments b.leftJoins ++
  partSegments .filter b.filter ++
  [Segment.raw (listPart " GROUP BY " b.groupBy)] ++
  partSegments .having b.having ++
  [Segment.raw (.concat [
    listPart " ORDER BY " (b.orderBy.map fun n => Text.trim (.concat [n, " ", b.direction])),
    part " LIMIT " b.limit, part " OFFSET " b.offset])]

mutual

/-- The segments of a request. -/
def Request.segments : Request → List Segment
  | .mk withs body =>
    (if withs.isEmpty then []
      else [.announced .withs (between ", " (withSegments withs)), .raw " "]) ++ body.segments

/-- The segments of the named statements that are present, one list for each. -/
def withSegments : List (Text × Option Request) → List (List Segment)
  | [] => []
  | (_, none) :: rest => withSegments rest
  | (name, some r) :: rest =>
    ([.raw (.concat [name, " AS ("])] ++ r.segments ++ [.raw ")"]) :: withSegments rest

end

/-- What can be written: one statement, or a union of several. -/
inductive Statement where
  | request (r : Request)
  | union (distinct : Bool) (members : List Request)

def Statement.text : Statement → Except Error Text
  | .request r => r.text
  | .union distinct members => unionText distinct members

def Statement.segments : Statement → List Segment
  | .request r => r.segments
  | .union distinct members =>
    between (if distinct then " UNION DISTINCT " else " UNION ALL ")
      (members.map fun r => [.raw "("] ++ r.segments ++ [.raw ")"])

/-! ### Filled statements -/

/-- Whether a clause writes anything: two operands have the operator between them, a nested clause its
parentheses, and a text stands for itself. -/
def speaks : List Operand → Bool
  | [] => false
  | [_] => false
  | [_, .text t] => !t.isEmpty
  | _ => true

/-- Whether the clauses inside a clause write something, at any depth. -/
def filled : List Operand → Bool
  | [] => true
  | .clause items :: rest => speaks items && filled items && filled rest
  | .list items :: rest => speaks items && filled items && filled rest
  | _ :: rest => filled rest

def partFilled (c : List Operand) : Bool := c.isEmpty || speaks c && filled c

def Body.filled (b : Body) : Bool :=
  (b.leftJoins.all fun j => speaks j.on && Clause.filled j.on) && partFilled b.filter &&
    partFilled b.having

mutual

/-- Whether a request writes something behind each of its keywords: it has named statements only with
one that is present, and none of its clauses is silent. -/
def Request.filled : Request → Bool
  | .mk withs body =>
    (withs.isEmpty || withs.any (·.2.isSome)) && withsFilled withs && body.filled

def withsFilled : List (Text × Option Request) → Bool
  | [] => true
  | (_, none) :: rest => withsFilled rest
  | (_, some r) :: rest => r.filled && withsFilled rest

end

def Statement.filled : Statement → Bool
  | .request r => r.filled
  | .union _ members => members.all Request.filled

/-! ### The segments spell the text -/

/-- Segments that spell a text and are whole under a condition. -/
structure Tells (ss : List Segment) (t : Text) (sound : Bool) : Prop where
  spelled : spelled ss = t
  whole : Whole ss ↔ sound

theorem tellsNil : Tells [] [] true := ⟨rfl,by simp⟩

theorem tellsRaw (t : Text) : Tells [.raw t] t true :=
  ⟨by simp [Clause.spelled,Segment.text],by simp [Segment.Full,Segment.content]⟩

theorem Tells.append {ss us : List Segment} {t u : Text} {a b : Bool} (front : Tells ss t a)
    (back : Tells us u b) : Tells (ss ++ us) (t ++ u) (a && b) :=
  ⟨by rw [spelledAppend,front.spelled,back.spelled],
    by rw [wholeAppend,front.whole,back.whole,Bool.and_eq_true]⟩

theorem Tells.announced {ss : List Segment} {t : Text} {a b : Bool} (told : Tells ss t a)
    (k : Keyword) (written : t ≠ [] ↔ b) : Tells [.announced k ss] (k.text ++ t) (b && a) :=
  ⟨by simp [Clause.spelled,Segment.text,told.spelled],
    by rw [wholeSingle,Segment.Full,Segment.content,told.spelled,told.whole,written,Bool.and_eq_true]⟩

theorem Tells.nested {ss : List Segment} {t : Text} {a b : Bool} (told : Tells ss t a)
    (written : t ≠ [] ↔ b) : Tells [.nested ss] (.concat ["(", t, ")"]) (b && a) :=
  ⟨by simp [Clause.spelled,Segment.text,told.spelled],
    by rw [wholeSingle,Segment.Full,Segment.content,told.spelled,told.whole,written,Bool.and_eq_true]⟩

/-- Lists of segments that spell texts, all whole under a condition. -/
structure AllTell (parts : List (List Segment)) (ts : List Text) (sound : Bool) : Prop where
  spelled : parts.map Clause.spelled = ts
  whole : (∀ ss ∈ parts, Whole ss) ↔ sound

theorem allTellNil : AllTell [] [] true := ⟨rfl,by simp⟩

theorem Tells.cons {ss : List Segment} {parts : List (List Segment)} {t : Text} {ts : List Text}
    {a b : Bool} (first : Tells ss t a) (rest : AllTell parts ts b) :
    AllTell (ss :: parts) (t :: ts) (a && b) :=
  ⟨by rw [List.map_cons,first.spelled,rest.spelled],
    by rw [List.forall_mem_cons,first.whole,rest.whole,Bool.and_eq_true]⟩

theorem AllTell.between {parts : List (List Segment)} {ts : List Text} {a : Bool}
    (all : AllTell parts ts a) (sep : Text) : Tells (between sep parts) (Text.join sep ts) a := by
  obtain ⟨rfl,whole⟩ := all
  constructor
  · clear whole
    induction parts using between.induct with
    | case1 => rfl
    | case2 ss => rfl
    | case3 ss rest some ih =>
      rw [Clause.between,List.map_cons,Text.joinCons sep _ (by simpa using some),spelledAppend,spelledAppend,
        ih,(tellsRaw sep).spelled]
      exact some
  · rw [← whole]
    clear whole
    induction parts using between.induct with
    | case1 => simp [Clause.between]
    | case2 ss => simp [Clause.between]
    | case3 ss rest some ih =>
      rw [Clause.between,wholeAppend,wholeAppend,ih,List.forall_mem_cons,(tellsRaw sep).whole]
      · simp
      · exact some

/-- What one operand writes. -/
inductive OperandText : Operand → Text → Prop where
  | text (t : Text) : OperandText (.text t) t
  | clause {items : List Operand} {inner : Text} (ok : Clause.text items = .ok inner) :
    OperandText (.clause items) (.concat ["(", inner, ")"])
  | list {items : List Operand} {inner : Text} (ok : Clause.text items = .ok inner) :
    OperandText (.list items) (.concat ["(", inner, ")"])

theorem operandTextsNil {ts : List Text} (ok : operandTexts [] = .ok ts) : ts = [] := by
  rw [operandTexts] at ok
  exact (Except.ok.inj ok).symm

theorem operandTextsCons {o : Operand} {os : List Operand} {ts : List Text}
    (ok : operandTexts (o :: os) = .ok ts) :
    ∃ t later, OperandText o t ∧ operandTexts os = .ok later ∧ ts = t :: later := by
  cases o with
  | text t =>
    rw [operandTexts] at ok
    obtain ⟨later,others,ok⟩ := bindOk ok
    exact ⟨t,later,.text t,others,(Except.ok.inj ok).symm⟩
  | clause items =>
    rw [operandTexts] at ok
    obtain ⟨inner,innerOk,ok⟩ := bindOk ok
    obtain ⟨later,others,ok⟩ := bindOk ok
    exact ⟨_,later,.clause innerOk,others,(Except.ok.inj ok).symm⟩
  | list items =>
    rw [operandTexts] at ok
    obtain ⟨inner,innerOk,ok⟩ := bindOk ok
    obtain ⟨later,others,ok⟩ := bindOk ok
    exact ⟨_,later,.list innerOk,others,(Except.ok.inj ok).symm⟩
  | number | truth | missing | record => simp [operandTexts] at ok

theorem clauseText {c : List Operand} {t : Text} (ok : text c = .ok t) :
    (c = [] ∧ t = []) ∨ ∃ op operands ts, c = .text op :: operands ∧
      operandTexts operands = .ok ts ∧ t = Text.join (.concat [" ", op, " "]) ts := by
  cases c with
  | nil =>
    rw [text] at ok
    exact .inl ⟨rfl,(Except.ok.inj ok).symm⟩
  | cons first operands =>
    cases first with
    | text op =>
      rw [text] at ok
      obtain ⟨ts,operandsOk,ok⟩ := bindOk ok
      exact .inr ⟨op,operands,ts,rfl,operandsOk,(Except.ok.inj ok).symm⟩
    | clause items | list items | number | truth | missing | record =>
      simp [text] at ok

theorem clauseSays {c : List Operand} {t : Text} (ok : text c = .ok t) : t ≠ [] ↔ speaks c := by
  obtain ⟨rfl,rfl⟩ | ⟨op,operands,ts,rfl,operandsOk,rfl⟩ := clauseText ok
  · simp [speaks]
  cases operands with
  | nil =>
    cases operandTextsNil operandsOk
    simp [speaks,Text.join]
  | cons first operands =>
    obtain ⟨t,later,firstOk,others,rfl⟩ := operandTextsCons operandsOk
    cases operands with
    | nil =>
      cases operandTextsNil others
      cases firstOk with
      | text t => simp [speaks,Text.join]
      | clause _ | list _ => simp [speaks,Text.join,Text.concat,Text.ofString,Text.ofChar]
    | cons second operands =>
      obtain ⟨u,rest,_,_,rfl⟩ := operandTextsCons others
      simp [speaks,Text.join,Text.concat,Text.ofString,Text.ofChar]

mutual

theorem clauseTells : ∀ {c : List Operand} {t : Text}, text c = .ok t →
    Tells (segments c) t (filled c)
  | [], _, ok => by
    rw [text] at ok
    cases ok
    simpa [segments,filled] using tellsNil
  | .text op :: operands, _, ok => by
    rw [text] at ok
    obtain ⟨ts,operandsOk,ok⟩ := bindOk ok
    cases ok
    simpa [segments,filled] using (operandsTell operandsOk).between (.concat [" ", op, " "])
  | .clause _ :: _, _, ok | .list _ :: _, _, ok | .number :: _, _, ok | .truth :: _, _, ok
  | .missing :: _, _, ok | .record :: _, _, ok => by simp [text] at ok

theorem operandsTell : ∀ {os : List Operand} {ts : List Text}, operandTexts os = .ok ts →
    AllTell (operandSegments os) ts (filled os)
  | [], _, ok => by
    cases operandTextsNil ok
    simpa [operandSegments,filled] using allTellNil
  | .text t :: rest, _, ok => by
    obtain ⟨_,later,first,others,rfl⟩ := operandTextsCons ok
    cases first
    simpa [operandSegments,filled] using (tellsRaw t).cons (operandsTell others)
  | .clause items :: rest, _, ok => by
    obtain ⟨_,later,first,others,rfl⟩ := operandTextsCons ok
    cases first with
    | clause innerOk =>
      rw [operandSegments,filled]
      exact ((clauseTells innerOk).nested (clauseSays innerOk)).cons (operandsTell others)
  | .list items :: rest, _, ok => by
    obtain ⟨_,later,first,others,rfl⟩ := operandTextsCons ok
    cases first with
    | list innerOk =>
      rw [operandSegments,filled]
      exact ((clauseTells innerOk).nested (clauseSays innerOk)).cons (operandsTell others)
  | .number :: _, _, ok | .truth :: _, _, ok | .missing :: _, _, ok | .record :: _, _, ok => by
    simp [operandTexts] at ok

end

theorem joinsTell {js : List LeftJoin} {t : Text} (ok : joinTexts js = .ok t) :
    Tells (joinSegments js) t (js.all fun j => speaks j.on && filled j.on) := by
  induction js generalizing t with
  | nil =>
    cases ok
    exact tellsNil
  | cons j js ih =>
    rw [joinTexts] at ok
    obtain ⟨on,onOk,ok⟩ := bindOk ok
    obtain ⟨later,others,ok⟩ := bindOk ok
    have onOk := mapErrorOk onOk
    have told := ((tellsRaw (.concat [" LEFT JOIN ", j.name])).append
      ((clauseTells onOk).announced .on (clauseSays onOk))).append (ih others)
    rw [← Except.ok.inj ok,joinSegments,List.all_cons]
    simpa [Text.concat,Keyword.text] using told

theorem partTells {c : List Operand} {t : Text} (k : Keyword) (ok : clausePart k.text c = .ok t) :
    Tells (partSegments k c) t (partFilled c) := by
  unfold clausePart at ok
  unfold partSegments partFilled
  split at ok
  · rename_i none
    cases ok
    simpa [none] using tellsNil
  · rename_i some
    obtain ⟨written,clauseOk,ok⟩ := bindOk ok
    cases ok
    simpa [some] using (clauseTells clauseOk).announced k (clauseSays clauseOk)

theorem bodyTells {b : Body} {t : Text} (ok : b.text = .ok t) : Tells b.segments t b.filled := by
  unfold Body.text at ok
  obtain ⟨joins,joinsOk,ok⟩ := bindOk ok
  obtain ⟨filter,filterOk,ok⟩ := bindOk ok
  obtain ⟨having,havingOk,ok⟩ := bindOk ok
  have told := (((((tellsRaw (.concat ["SELECT ", if b.distinct then "DISTINCT " else [],
    Text.join ", " b.select, " FROM ", b.source, if b.final then " FINAL" else []])).append
    (joinsTell joinsOk)).append (partTells .filter (mapErrorOk filterOk))).append
    (tellsRaw (listPart " GROUP BY " b.groupBy))).append
    (partTells .having (mapErrorOk havingOk))).append (tellsRaw (.concat [
      listPart " ORDER BY " (b.orderBy.map fun n => Text.trim (.concat [n, " ", b.direction])),
      part " LIMIT " b.limit, part " OFFSET " b.offset]))
  rw [← Except.ok.inj ok,Body.segments,Body.filled]
  simpa [Text.concat] using told

theorem joinSays {sep t : Text} {ts : List Text} (some : t ≠ []) : Text.join sep (t :: ts) ≠ [] := by
  cases ts with
  | nil => exact some
  | cons u ts => simp [Text.join,some]

theorem withsSay {withs : List (Text × Option Request)} {ts : List Text} (ok : withTexts withs = .ok ts) :
    Text.join ", " ts ≠ [] ↔ withs.any (·.2.isSome) := by
  induction withs generalizing ts with
  | nil =>
    rw [withTexts] at ok
    cases ok
    simp [Text.join]
  | cons w withs ih =>
    obtain ⟨name,r⟩ := w
    cases r with
    | none =>
      rw [withTexts] at ok
      simpa using ih ok
    | some r =>
      rw [withTexts] at ok
      obtain ⟨inner,_,ok⟩ := bindOk ok
      obtain ⟨later,_,ok⟩ := bindOk ok
      cases ok
      simpa using joinSays (by simp [Text.concat,Text.ofString,Text.ofChar])

/-- What stands before the body: the named statements, announced when any is listed. -/
theorem headTells {withs : List (Text × Option Request)} {named : List Text}
    (ok : withTexts withs = .ok named) (told : AllTell (withSegments withs) named (withsFilled withs)) :
    Tells (if withs.isEmpty then [] else [.announced .withs (between ", " (withSegments withs)), .raw " "])
      (if withs.isEmpty then [] else .concat ["WITH ", Text.join ", " named, " "])
      ((withs.isEmpty || withs.any (·.2.isSome)) && withsFilled withs) := by
  cases withs with
  | nil => simpa [withsFilled] using tellsNil
  | cons w withs =>
    have announced := (told.between ", ").announced .withs (withsSay ok)
    simpa [Text.concat,Keyword.text] using announced.append (tellsRaw " ")

mutual

theorem requestTells : ∀ {r : Request} {t : Text}, r.text = .ok t → Tells r.segments t r.filled
  | .mk withs body, _, ok => by
    rw [Request.text] at ok
    obtain ⟨_,ok⟩ := guardOk ok
    obtain ⟨_,ok⟩ := guardOk ok
    obtain ⟨named,namedOk,ok⟩ := bindOk ok
    obtain ⟨written,bodyOk,ok⟩ := bindOk ok
    rw [← Except.ok.inj ok,Request.segments,Request.filled]
    exact (headTells namedOk (withsTell namedOk)).append (bodyTells bodyOk)

theorem withsTell : ∀ {withs : List (Text × Option Request)} {ts : List Text}, withTexts withs = .ok ts →
    AllTell (withSegments withs) ts (withsFilled withs)
  | [], _, ok => by
    rw [withTexts] at ok
    cases ok
    simpa [withSegments,withsFilled] using allTellNil
  | (_, none) :: rest, _, ok => by
    rw [withTexts] at ok
    simpa [withSegments,withsFilled] using withsTell ok
  | (name, some r) :: rest, _, ok => by
    rw [withTexts] at ok
    obtain ⟨inner,innerOk,ok⟩ := bindOk ok
    obtain ⟨later,others,ok⟩ := bindOk ok
    have told := (((tellsRaw (.concat [name, " AS ("])).append
      (requestTells (mapErrorOk innerOk))).append (tellsRaw ")")).cons (withsTell others)
    rw [← Except.ok.inj ok,withSegments,withsFilled]
    simpa [Text.concat] using told

end

theorem membersTell {members : List Request} {i : Nat} {ts : List Text}
    (ok : memberTexts i members = .ok ts) :
    AllTell (members.map fun r => [Segment.raw "("] ++ r.segments ++ [Segment.raw ")"]) ts
      (members.all Request.filled) := by
  induction members generalizing i ts with
  | nil =>
    cases ok
    exact allTellNil
  | cons r members ih =>
    rw [memberTexts] at ok
    obtain ⟨inner,innerOk,ok⟩ := bindOk ok
    obtain ⟨later,others,ok⟩ := bindOk ok
    have told := (((tellsRaw "(").append (requestTells (mapErrorOk innerOk))).append
      (tellsRaw ")")).cons (ih others)
    rw [← Except.ok.inj ok,List.map_cons,List.all_cons]
    simpa [Text.concat] using told

theorem statementTells {s : Statement} {t : Text} (ok : s.text = .ok t) :
    Tells s.segments t s.filled := by
  cases s with
  | request r => exact requestTells ok
  | union distinct members =>
    rw [Statement.text,unionText] at ok
    obtain ⟨_,ok⟩ := guardOk ok
    obtain ⟨texts,membersOk,ok⟩ := bindOk ok
    rw [← Except.ok.inj ok]
    exact (membersTell membersOk).between _

/-- A statement that is written has something behind each keyword and inside each pair of parentheses
exactly when it is filled. -/
theorem keywordsAnnounce (s : Statement) (t : Text) (ok : s.text = .ok t) :
    spelled s.segments = t ∧ ((∀ p, Emits s.segments p → p.Full) ↔ s.filled) :=
  ⟨(statementTells ok).spelled,(statementTells ok).whole⟩

/-- A statement that lists a name without a statement and filters by an operator alone. -/
def silent : Statement :=
  .request (.mk [("sel", none)] { select := ["a"], source := "t", filter := [.text "AND"] })

/-- A statement with a name, a join on it and a nested clause. -/
def outspoken : Statement :=
  .request (.mk [("sel", some (.mk [] { select := ["id"], source := "u", filter := [.text "AND", .text "n"] }))]
    { select := ["a"], source := "t", leftJoins := [⟨"sel", [.text "AND", .text "t.id = sel.id"]⟩],
      having := [.text "AND", .text "b", .clause [.text "OR", .text "c", .text "d"]] })

theorem silentWritten : silent.text = .ok "WITH  SELECT a FROM t WHERE " := by
  simp [silent,Statement.text,Request.text,withTexts,Body.text,joinTexts,clausePart,text,operandTexts,
    bind,Except.bind,pure,Except.pure]
  rfl

theorem outspokenWritten : ∃ t, outspoken.text = .ok t := by
  simp [outspoken,Statement.text,Request.text,withTexts,Body.text,joinTexts,clausePart,text,operandTexts,
    bind,Except.bind,pure,Except.pure]

theorem silentAndOutspoken :
    (silent.text = .ok "WITH  SELECT a FROM t WHERE " ∧ ¬ ∀ p, Emits silent.segments p → p.Full) ∧
    (∃ t, outspoken.text = .ok t) ∧ ∀ p, Emits outspoken.segments p → p.Full := by
  refine ⟨⟨silentWritten,fun whole => ?_⟩,outspokenWritten,?_⟩
  · have filled := (keywordsAnnounce silent _ silentWritten).2.mp whole
    simp [silent,Statement.filled,Request.filled] at filled
  · obtain ⟨t,written⟩ := outspokenWritten
    refine (keywordsAnnounce outspoken t written).2.mpr ?_
    simp [outspoken,Statement.filled,Request.filled,withsFilled,Body.filled,partFilled,speaks,filled,
      Text.ofString,Text.ofChar]

end LogSql.Sql.Clause
