import LogSql.Query.Parser

/-! The grammar of queries as it is written down, over tokens. The reader lets a comma stand behind the
last item of three of its lists, which the grammar does not know; so derivations come in two kinds, and a
text whose tokens are derived with such commas is one of the grammar exactly when none of its commas
stands in front of a token that opens nothing. -/
namespace LogSql.Query.Grammar

inductive Rule where
  | query | selectorExpr | streamSelector | selectorRule | pipeline | lineFilter | parserExpression
  | parserParam | labelFilterPipeline | labelFilter | filterAnd | filterPrimary | lineFormat
  | labelsFormat | labelsFormatRule | aggStatement | logRange | unwrapFunction
  | parameterizedUnwrapped | unwrapClause | aggregation | parameterized | grouping | comparison
  | userMacro
  deriving DecidableEq, Repr

inductive Phrase where
  | token (kinds : List TokenKind)
  | word (words : List Text)
  | rule (r : Rule)
  | empty
  | seq (first second : Phrase)
  | either (first second : Phrase)
  | many (p : Phrase)
  /-- A comma behind the last item of a list. -/
  | trailing

namespace Phrase

def option (p : Phrase) : Phrase := either p empty

def inOrder : List Phrase → Phrase
  | [] => empty
  | [p] => p
  | p :: q :: rest => seq p (inOrder (q :: rest))

def oneOf : List Phrase → Phrase
  | [] => empty
  | [p] => p
  | p :: q :: rest => either p (oneOf (q :: rest))

def is (kind : TokenKind) : Phrase := token [kind]

def commas (p : Phrase) : Phrase := seq p (many (seq (is .comma) p))

end Phrase

open Phrase

/-! ### The rules -/

def rules (macros : List Text) : Rule → Phrase
  | .query => oneOf [rule .userMacro, seq (rule .aggStatement) (option (rule .comparison)),
      rule .selectorExpr]
  | .selectorExpr => seq (rule .streamSelector) (many (rule .pipeline))
  | .streamSelector => inOrder [is .leftBrace, commas (rule .selectorRule), is .rightBrace]
  | .selectorRule => inOrder [is .identifier, token [.equal, .notEqual, .match_, .notMatch], is .string]
  | .pipeline => oneOf [rule .lineFilter, rule .parserExpression, rule .labelFilterPipeline,
      rule .lineFormat, rule .labelsFormat]
  | .lineFilter => seq (token [.pipeExact, .notEqual, .pipeMatch, .notMatch]) (is .string)
  | .parserExpression => inOrder [is .pipe, word parserFunctions,
      option (either (seq (commas (rule .parserParam)) trailing) (is .string))]
  | .parserParam => inOrder [is .identifier, is .equal, is .string]
  | .labelFilterPipeline => seq (is .pipe) (rule .labelFilter)
  | .labelFilter => seq (rule .filterAnd) (many (seq (word ["or"]) (rule .filterAnd)))
  | .filterAnd => seq (rule .filterPrimary)
      (many (seq (either (word ["and"]) (is .comma)) (rule .filterPrimary)))
  | .filterPrimary => either (inOrder [is .leftParen, rule .labelFilter, is .rightParen])
      (inOrder [is .identifier,
        token [.equal, .notEqual, .match_, .notMatch, .equalEqual, .greater, .greaterEqual, .less,
          .lessEqual],
        token [.string, .number, .duration, .bytes]])
  | .lineFormat => inOrder [is .pipe, word ["line_format"], is .string]
  | .labelsFormat => inOrder [is .pipe, word ["label_format"], commas (rule .labelsFormatRule)]
  | .labelsFormatRule => inOrder [is .identifier, is .equal, token [.identifier, .string]]
  | .aggStatement => oneOf [rule .aggregation, rule .logRange, rule .unwrapFunction,
      rule .parameterized, rule .parameterizedUnwrapped]
  | .logRange => inOrder [word logRangeFunctions, is .leftParen, rule .selectorExpr, is .leftBracket,
      is .duration, is .rightBracket, is .rightParen]
  | .unwrapFunction => inOrder [word unwrapFunctions, is .leftParen, rule .selectorExpr,
      rule .unwrapClause, is .leftBracket, is .duration, is .rightBracket, is .rightParen,
      option (rule .grouping)]
  | .parameterizedUnwrapped => inOrder [word parameterizedUnwrappedFunctions, is .leftParen,
      is .number, is .comma, rule .selectorExpr, rule .unwrapClause, is .leftBracket, is .duration,
      is .rightBracket, is .rightParen, option (rule .grouping)]
  | .unwrapClause => seq (is .pipe) (either (word ["unwrap_value"]) (seq (word ["unwrap"])
      (either (inOrder [word unwrapConversions, is .leftParen, is .identifier, is .rightParen])
        (is .identifier))))
  | .aggregation => inOrder [word aggregationFunctions, option (rule .grouping), is .leftParen,
      either (rule .logRange) (rule .unwrapFunction), is .rightParen, option (rule .grouping)]
  | .parameterized => inOrder [word parameterizedFunctions, is .leftParen, is .number, is .comma,
      rule .aggStatement, is .rightParen]
  | .grouping => inOrder [word ["by", "without"], is .leftParen,
      option (seq (commas (is .identifier)) trailing), is .rightParen]
  | .comparison => inOrder [token [.greater, .greaterEqual, .less, .lessEqual, .equalEqual, .notEqual],
      option (word ["bool"]), is .number]
  | .userMacro => inOrder [word macros, is .leftParen,
      option (seq (commas (is .string)) trailing), is .rightParen]

/-- The tokens of a pattern. Only a lax derivation has a comma where one trails. -/
inductive Derives (macros : List Text) (lax : Bool) : Phrase → List Token → Prop where
  | token {kinds : List TokenKind} {t : Token} (kind : t.kind ∈ kinds) :
      Derives macros lax (.token kinds) [t]
  | word {words : List Text} {t : Token} (kind : t.kind = .identifier) (known : t.literal ∈ words) :
      Derives macros lax (.word words) [t]
  | rule {r : Rule} {ts : List Token} (body : Derives macros lax (rules macros r) ts) :
      Derives macros lax (.rule r) ts
  | empty : Derives macros lax .empty []
  | seq {p q : Phrase} {ts us : List Token} (first : Derives macros lax p ts)
      (second : Derives macros lax q us) : Derives macros lax (.seq p q) (ts ++ us)
  | left {p q : Phrase} {ts : List Token} (one : Derives macros lax p ts) :
      Derives macros lax (.either p q) ts
  | right {p q : Phrase} {ts : List Token} (one : Derives macros lax q ts) :
      Derives macros lax (.either p q) ts
  | done {p : Phrase} : Derives macros lax (.many p) []
  | more {p : Phrase} {ts us : List Token} (one : Derives macros lax p ts)
      (rest : Derives macros lax (.many p) us) : Derives macros lax (.many p) (ts ++ us)
  | last : Derives macros lax .trailing []
  | comma {t : Token} (kind : t.kind = .comma) (allowed : lax = true) : Derives macros lax .trailing [t]

/-- The rules that nest: a statement, and the filters of a stage or of a group in parentheses. -/
def Rule.nests : Rule → Bool
  | .aggStatement | .labelFilter => true
  | _ => false

/-- The tokens of a pattern of which a lax derivation has no more than a number of nesting rules open at
once. What stands side by side does not count. -/
inductive Within (macros : List Text) : Nat → Phrase → List Token → Prop where
  | token {n : Nat} {kinds : List TokenKind} {t : Token} (kind : t.kind ∈ kinds) :
      Within macros n (.token kinds) [t]
  | word {n : Nat} {words : List Text} {t : Token} (kind : t.kind = .identifier)
      (known : t.literal ∈ words) : Within macros n (.word words) [t]
  | rule {n : Nat} {r : Rule} {ts : List Token} (plain : r.nests = false)
      (body : Within macros n (rules macros r) ts) : Within macros n (.rule r) ts
  | opened {n : Nat} {r : Rule} {ts : List Token} (nests : r.nests = true)
      (body : Within macros n (rules macros r) ts) : Within macros (n + 1) (.rule r) ts
  | empty {n : Nat} : Within macros n .empty []
  | seq {n : Nat} {p q : Phrase} {ts us : List Token} (first : Within macros n p ts)
      (second : Within macros n q us) : Within macros n (.seq p q) (ts ++ us)
  | left {n : Nat} {p q : Phrase} {ts : List Token} (one : Within macros n p ts) :
      Within macros n (.either p q) ts
  | right {n : Nat} {p q : Phrase} {ts : List Token} (one : Within macros n q ts) :
      Within macros n (.either p q) ts
  | done {n : Nat} {p : Phrase} : Within macros n (.many p) []
  | more {n : Nat} {p : Phrase} {ts us : List Token} (one : Within macros n p ts)
      (rest : Within macros n (.many p) us) : Within macros n (.many p) (ts ++ us)
  | last {n : Nat} : Within macros n .trailing []
  | comma {n : Nat} {t : Token} (kind : t.kind = .comma) : Within macros n .trailing [t]

variable {macros : List Text} {lax : Bool} {p q : Phrase} {ts us rest : List Token}

theorem Within.derives {n : Nat} (within : Within macros n p ts) : Derives macros true p ts := by
  induction within with
  | token kind => exact .token kind
  | word kind known => exact .word kind known
  | rule _ _ ih => exact .rule ih
  | opened _ _ ih => exact .rule ih
  | empty => exact .empty
  | seq _ _ ih ih' => exact .seq ih ih'
  | left _ ih => exact .left ih
  | right _ ih => exact .right ih
  | done => exact .done
  | more _ _ ih ih' => exact .more ih ih'
  | last => exact .last
  | comma kind => exact .comma kind rfl

/-! ### First tokens -/

def nullable : Phrase → Bool
  | .token _ | .word _ | .rule _ => false
  | .empty | .many _ | .trailing => true
  | .seq p q => nullable p && nullable q
  | .either p q => nullable p || nullable q

/-- The classes of the first tokens of a rule. -/
def ruleFirsts : Rule → List TokenKind
  | .query => [.identifier, .leftBrace]
  | .selectorExpr | .streamSelector => [.leftBrace]
  | .lineFilter => [.pipeExact, .notEqual, .pipeMatch, .notMatch]
  | .pipeline => [.pipeExact, .notEqual, .pipeMatch, .notMatch, .pipe]
  | .parserExpression | .labelFilterPipeline | .lineFormat | .labelsFormat | .unwrapClause => [.pipe]
  | .labelFilter | .filterAnd | .filterPrimary => [.identifier, .leftParen]
  | .comparison => [.greater, .greaterEqual, .less, .lessEqual, .equalEqual, .notEqual]
  | _ => [.identifier]

def firsts : Phrase → List TokenKind
  | .token kinds => kinds
  | .word _ => [.identifier]
  | .rule r => ruleFirsts r
  | .empty => []
  | .seq p q => firsts p ++ if nullable p then firsts q else []
  | .either p q => firsts p ++ firsts q
  | .many p => firsts p
  | .trailing => [.comma]

theorem rulesBegin (macros : List Text) (r : Rule) :
    nullable (rules macros r) = false ∧ firsts (rules macros r) ⊆ ruleFirsts r := by
  cases r <;> exact ⟨rfl,by simp [rules,firsts,ruleFirsts,nullable,inOrder,oneOf,option,is,commas]⟩

theorem derivesBegin (derives : Derives macros lax p ts) :
    (ts = [] → nullable p = true) ∧ ∀ t, ts.head? = some t → t.kind ∈ firsts p := by
  induction derives with
  | token kind => exact ⟨nofun,by simpa [firsts] using kind⟩
  | word kind known => exact ⟨nofun,by simpa [firsts] using kind⟩
  | @rule r ts body ih =>
    obtain ⟨some,first⟩ := rulesBegin macros r
    refine ⟨fun none => ?_,fun t head => first (ih.2 t head)⟩
    rw [some] at ih
    exact absurd (ih.1 none) (by simp)
  | empty => exact ⟨fun _ => rfl,nofun⟩
  | @seq p q ts us first second ih ih' =>
    cases ts with
    | nil =>
      have skip := ih.1 rfl
      refine ⟨fun none => by simp [nullable,skip,ih'.1 none],fun t head => ?_⟩
      simpa [firsts,skip] using .inr (ih'.2 t head)
    | cons t ts =>
      refine ⟨nofun,fun u head => ?_⟩
      simpa [firsts] using .inl (ih.2 u head)
  | left one ih =>
    exact ⟨fun none => by simp [nullable,ih.1 none],fun t head => by simp [firsts,ih.2 t head]⟩
  | right one ih =>
    exact ⟨fun none => by simp [nullable,ih.1 none],fun t head => by simp [firsts,ih.2 t head]⟩
  | done => exact ⟨fun _ => rfl,nofun⟩
  | @more p ts us one rest ih ih' =>
    cases ts with
    | nil => exact ⟨fun _ => rfl,ih'.2⟩
    | cons t ts => exact ⟨nofun,ih.2⟩
  | last => exact ⟨fun _ => rfl,nofun⟩
  | comma kind allowed => exact ⟨nofun,by simpa [firsts] using kind⟩

/-! ### Commas -/

/-- The classes of the tokens that an item behind a comma starts with. -/
def openers : List TokenKind := [.identifier, .string, .leftParen, .leftBrace]

def opens (ts : List Token) : Bool := ts.head?.any fun t => t.kind ∈ openers

/-- Whether a comma stands in front of no item. -/
def trails : List Token → Bool
  | [] => false
  | t :: rest => t.kind = .comma && !opens rest || trails rest

theorem trailsBehind (kept : trails (ts ++ us) = false) : trails us = false := by
  induction ts with
  | nil => exact kept
  | cons t ts ih =>
    simp only [List.cons_append,trails,Bool.or_eq_false_iff] at kept
    exact ih kept.2

/-- Rules whose last token may be a trailing comma. -/
def ruleLoose : Rule → Bool
  | .query | .selectorExpr | .pipeline | .parserExpression => true
  | _ => false

/-- Whether a comma may trail at the end. -/
def loose : Phrase → Bool
  | .token _ | .word _ | .empty => false
  | .rule r => ruleLoose r
  | .seq p q => loose q || nullable q && loose p
  | .either p q => loose p || loose q
  | .many p => loose p
  | .trailing => true

/-- Whether a comma in front of an item may be the last token. -/
def pending : Phrase → Bool
  | .token kinds => .comma ∈ kinds
  | .word _ | .empty | .rule _ | .trailing => false
  | .seq p q => pending q || nullable q && pending p
  | .either p q => pending p || pending q
  | .many p => pending p

/-- No item follows where a comma may trail, and one follows where a comma waits for it. -/
def meets (p q : Phrase) : Bool :=
  (!loose p || (firsts q).all (· ∉ openers)) &&
    (!pending p || !nullable q && (firsts q).all (· ∈ openers))

def tidy : Phrase → Bool
  | .seq p q => tidy p && tidy q && meets p q
  | .either p q => tidy p && tidy q
  | .many p => tidy p && meets p (.many p)
  | _ => true

theorem rulesTidy (macros : List Text) (r : Rule) : tidy (rules macros r) = true ∧
    pending (rules macros r) = false ∧ loose (rules macros r) = ruleLoose r := by
  cases r <;> exact ⟨rfl,rfl,rfl⟩

section Meets

variable (derives : Derives macros lax q us) (met : meets p q = true)
include derives met

theorem meetsClosed (free : loose p = true) (none : us = [] → opens rest = false) :
    opens (us ++ rest) = false := by
  cases us with
  | nil => exact none rfl
  | cons u us =>
    have first := (derivesBegin derives).2 u rfl
    simp only [meets,free,Bool.not_true,Bool.false_or,Bool.and_eq_true,List.all_eq_true] at met
    simpa [opens] using met.1 _ first

theorem meetsOpen (waits : pending p = true) : opens (us ++ rest) = true := by
  simp only [meets,waits,Bool.not_true,Bool.false_or,Bool.and_eq_true,List.all_eq_true] at met
  cases us with
  | nil => simp [(derivesBegin derives).1 rfl] at met
  | cons u us =>
    have first := (derivesBegin derives).2 u rfl
    simpa [opens] using met.2.2 _ first

end Meets

/-- In front of tokens that open no item where a comma may trail, a lax derivation is a strict one if no
comma trails. The induction carries what stands behind the tokens. -/
theorem derivesStrictly (derives : Derives macros true p ts) (ordered : tidy p = true)
    (kept : trails (ts ++ rest) = false) (closed : loose p = true → opens rest = false) :
    Derives macros false p ts := by
  induction derives generalizing rest with
  | token kind => exact .token kind
  | word kind known => exact .word kind known
  | @rule r ts body ih =>
    obtain ⟨inner,_,same⟩ := rulesTidy macros r
    exact .rule (ih inner kept fun free => closed (same.symm.trans free))
  | empty => exact .empty
  | @seq p q ts us first second ih ih' =>
    simp only [tidy,Bool.and_eq_true] at ordered
    obtain ⟨⟨left,right⟩,met⟩ := ordered
    rw [List.append_assoc] at kept
    refine .seq (ih left kept fun free => ?_)
      (ih' right (trailsBehind kept) fun free => closed (by simp [loose,free]))
    refine meetsClosed second met free fun none => closed ?_
    simp [loose,free,(derivesBegin second).1 none]
  | left one ih =>
    simp only [tidy,Bool.and_eq_true] at ordered
    exact .left (ih ordered.1 kept fun free => closed (by simp [loose,free]))
  | right one ih =>
    simp only [tidy,Bool.and_eq_true] at ordered
    exact .right (ih ordered.2 kept fun free => closed (by simp [loose,free]))
  | done => exact .done
  | @more p ts us one others ih ih' =>
    have again := ordered
    simp only [tidy,Bool.and_eq_true] at ordered
    rw [List.append_assoc] at kept
    refine .more (ih ordered.1 kept fun free => ?_) (ih' again (trailsBehind kept) closed)
    exact meetsClosed others ordered.2 free fun _ => closed free
  | last => exact .last
  | @comma t kind allowed =>
    simp [trails,kind,closed rfl] at kept

/-- No comma trails in a strict derivation, unless it is the last token and waits for an item. -/
theorem strictKept (derives : Derives macros false p ts) (ordered : tidy p = true)
    (kept : trails rest = false) (opened : pending p = true → opens rest = true) :
    trails (ts ++ rest) = false := by
  induction derives generalizing rest with
  | @token kinds t kind =>
    by_cases comma : t.kind = .comma
    · have waits : pending (.token kinds) = true := by simpa [pending,comma] using kind
      simp [trails,opened waits,kept]
    · simp [trails,comma,kept]
  | word kind known => simp [trails,kind,kept]
  | @rule r ts body ih =>
    obtain ⟨inner,none,_⟩ := rulesTidy macros r
    exact ih inner kept fun waits => by simp [none] at waits
  | empty => exact kept
  | @seq p q ts us first second ih ih' =>
    simp only [tidy,Bool.and_eq_true] at ordered
    obtain ⟨⟨left,right⟩,met⟩ := ordered
    rw [List.append_assoc]
    exact ih left (ih' right kept fun waits => opened (by simp [pending,waits]))
      fun waits => meetsOpen second met waits
  | left one ih =>
    simp only [tidy,Bool.and_eq_true] at ordered
    exact ih ordered.1 kept fun waits => opened (by simp [pending,waits])
  | right one ih =>
    simp only [tidy,Bool.and_eq_true] at ordered
    exact ih ordered.2 kept fun waits => opened (by simp [pending,waits])
  | done => exact kept
  | @more p ts us one others ih ih' =>
    have again := ordered
    simp only [tidy,Bool.and_eq_true] at ordered
    rw [List.append_assoc]
    exact ih ordered.1 (ih' again kept opened) fun waits => meetsOpen others ordered.2 waits
  | last => exact kept
  | comma kind allowed => contradiction

/-- The tokens of a lax derivation are those of a query of the grammar exactly when no comma trails. -/
theorem strictIff (derives : Derives macros true (.rule .query) ts) :
    Derives macros false (.rule .query) ts ↔ trails ts = false := by
  constructor
  · intro strict
    have none : trails (ts ++ []) = false := strictKept strict rfl rfl nofun
    rwa [List.append_nil] at none
  · intro kept
    rw [← List.append_nil ts] at kept
    exact derivesStrictly derives rfl kept fun _ => rfl

end LogSql.Query.Grammar
