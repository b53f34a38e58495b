import LogSql.Proofs.Sql.Words

/-! The parts of statements. An expression that no statement stands in is written from its texts,
names, operators and cells, and mentions only what these mention. -/
namespace LogSql.Sql

namespace Expr

mutual

/-- An expression and the expressions inside it, apart from what stands inside statements. -/
def subterms : Expr → List Expr
  | raw t => [raw t]
  | str t => [str t]
  | int n => [int n]
  | float x => [float x]
  | cell c => [cell c]
  | query s => [query s]
  | call name args => call name args :: subtermsIn args
  | binary op l r => binary op l r :: (subterms l ++ subterms r)
  | between e lo hi => between e lo hi :: (subterms e ++ subterms lo ++ subterms hi)
  | all conds => all conds :: subtermsIn conds
  | any conds => any conds :: subtermsIn conds
  | not e => not e :: subterms e
  | sub e => sub e :: subterms e
  | array items => array items :: subtermsIn items
  | tuple items => tuple items :: subtermsIn items
  | ifBound c a b => ifBound c a b :: (subterms a ++ subterms b)
  | ifTrue c a b => ifTrue c a b :: (subterms a ++ subterms b)

@[inherit_doc subterms]
def subtermsIn : List Expr → List Expr
  | [] => []
  | e :: rest => subterms e ++ subtermsIn rest

end

theorem subtermsInEach {p : Expr → Prop} {es : List Expr} (each : ∀ e ∈ es, ∀ x ∈ e.subterms, p x) :
    ∀ x ∈ subtermsIn es, p x := by
  induction es with
  | nil => simp [subtermsIn]
  | cons e es ih =>
    rw [subtermsIn]
    exact List.forall_mem_append.mpr ⟨each e List.mem_cons_self,
      ih fun x mem => each x (List.mem_cons_of_mem _ mem)⟩

theorem textsMap (v : CellView) (es : List Expr) : texts v es = es.map (text v) := by
  induction es with
  | nil => rfl
  | cons e es ih => rw [texts,ih,List.map_cons]

theorem namedTextsMap (v : CellView) (es : List (Named Expr)) :
    namedTexts v es = es.map fun e => ⟨text v e.expr,e.name⟩ := by
  induction es with
  | nil => rfl
  | cons e es ih => rw [namedTexts,ih,List.map_cons]

theorem optTextMap (v : CellView) (e : Option Expr) : optText v e = e.map (text v) := by
  cases e <;> rfl

theorem joinTextsMap (v : CellView) (js : List (Join Expr)) :
    joinTexts v js = js.map fun j => ⟨j.kind,text v j.table,j.name,j.on.map (text v)⟩ := by
  induction js with
  | nil => rfl
  | cons j js ih => rw [joinTexts,ih,List.map_cons,optTextMap]

theorem selectTextsFields (v : CellView) (s : Select) :
    selectTexts v s = ⟨namedTexts v s.withs,s.distinct,namedTexts v s.columns,optText v s.source,
      s.sourceAlias,joinTexts v s.joins,texts v s.filters,texts v s.groups,texts v s.havings,
      namedTexts v s.orders,optText v s.limit,optText v s.offset,s.params⟩ := by
  cases s
  rfl

end Expr

/-- The expressions of a statement apart from what it reads from. -/
def SelectOf.parts (s : Select) : List Expr :=
  s.columns.map (·.expr) ++ s.joins.flatMap (fun j => j.table :: j.on.toList) ++ s.filters ++
    s.groups ++ s.havings ++ s.orders.map (·.expr) ++ s.limit.toList ++ s.offset.toList

/-! ### Expressions without statements -/

/-- Expressions without statements, whose texts, names and operators have a property and which mention
only some cells. -/
inductive Written (P : Text → Prop) (cells : List Cell) : Expr → Prop where
  | raw {t : Text} (text : P t) : Written P cells (.raw t)
  | str (t : Text) : Written P cells (.str t)
  | int (n : Int) : Written P cells (.int n)
  | float (x : Binary64) : Written P cells (.float x)
  | cell {c : Cell} (known : c ∈ cells) : Written P cells (.cell c)
  | call {name : Text} {args : List Expr} (named : P name) (each : ∀ e ∈ args, Written P cells e) :
      Written P cells (.call name args)
  | binary {op : Text} {l r : Expr} (named : P op) (left : Written P cells l)
      (right : Written P cells r) : Written P cells (.binary op l r)
  | between {e lo hi : Expr} (tested : Written P cells e) (low : Written P cells lo)
      (high : Written P cells hi) : Written P cells (.between e lo hi)
  | all {conds : List Expr} (each : ∀ e ∈ conds, Written P cells e) : Written P cells (.all conds)
  | any {conds : List Expr} (each : ∀ e ∈ conds, Written P cells e) : Written P cells (.any conds)
  | not {e : Expr} (inner : Written P cells e) : Written P cells (.not e)
  | sub {e : Expr} (inner : Written P cells e) : Written P cells (.sub e)
  | array {items : List Expr} (each : ∀ e ∈ items, Written P cells e) : Written P cells (.array items)
  | tuple {items : List Expr} (each : ∀ e ∈ items, Written P cells e) : Written P cells (.tuple items)
  | ifBound {c : Cell} {a b : Expr} (bound : Written P cells a) (unbound : Written P cells b) :
      Written P cells (.ifBound c a b)
  | ifTrue {c : Cell} {a b : Expr} (yes : Written P cells a) (no : Written P cells b) :
      Written P cells (.ifTrue c a b)

variable {P Q : Text → Prop} {cells more : List Cell} {e : Expr}

theorem Written.imp (written : Written P cells e) (implies : ∀ t, P t → Q t) (wider : cells ⊆ more) :
    Written Q more e := by
  induction written with
  | raw text => exact .raw (implies _ text)
  | str t => exact .str t
  | int n => exact .int n
  | float x => exact .float x
  | cell known => exact .cell (wider known)
  | call named _ ih => exact .call (implies _ named) ih
  | binary named _ _ left right => exact .binary (implies _ named) left right
  | between _ _ _ tested low high => exact .between tested low high
  | all _ ih => exact .all ih
  | any _ ih => exact .any ih
  | not _ ih => exact .not ih
  | sub _ ih => exact .sub ih
  | array _ ih => exact .array ih
  | tuple _ ih => exact .tuple ih
  | ifBound _ _ bound unbound => exact .ifBound bound unbound
  | ifTrue _ _ yes no => exact .ifTrue yes no

/-- What is inside such an expression is written in the same way. -/
theorem Written.inside (written : Written P cells e) : ∀ x ∈ e.subterms, Written P cells x := by
  have pair {l r : Expr} (left : ∀ x ∈ l.subterms, Written P cells x)
      (right : ∀ x ∈ r.subterms, Written P cells x) :
      ∀ x ∈ l.subterms ++ r.subterms, Written P cells x := List.forall_mem_append.mpr ⟨left,right⟩
  induction written with
  | raw text => simpa [Expr.subterms] using .raw text
  | str t => simpa [Expr.subterms] using .str t
  | int n => simpa [Expr.subterms] using .int n
  | float x => simpa [Expr.subterms] using .float x
  | cell known => simpa [Expr.subterms] using .cell known
  | call named each ih => exact List.forall_mem_cons.mpr ⟨.call named each,Expr.subtermsInEach ih⟩
  | binary named left right ihl ihr =>
    exact List.forall_mem_cons.mpr ⟨.binary named left right,pair ihl ihr⟩
  | between tested low high iht ihl ihh =>
    exact List.forall_mem_cons.mpr ⟨.between tested low high,
      List.forall_mem_append.mpr ⟨pair iht ihl,ihh⟩⟩
  | all each ih => exact List.forall_mem_cons.mpr ⟨.all each,Expr.subtermsInEach ih⟩
  | any each ih => exact List.forall_mem_cons.mpr ⟨.any each,Expr.subtermsInEach ih⟩
  | not inner ih => exact List.forall_mem_cons.mpr ⟨.not inner,ih⟩
  | sub inner ih => exact List.forall_mem_cons.mpr ⟨.sub inner,ih⟩
  | array each ih => exact List.forall_mem_cons.mpr ⟨.array each,Expr.subtermsInEach ih⟩
  | tuple each ih => exact List.forall_mem_cons.mpr ⟨.tuple each,Expr.subtermsInEach ih⟩
  | ifBound bound unbound ihb ihu =>
    exact List.forall_mem_cons.mpr ⟨.ifBound bound unbound,pair ihb ihu⟩
  | ifTrue yes no ihy ihn => exact List.forall_mem_cons.mpr ⟨.ifTrue yes no,pair ihy ihn⟩

theorem Written.noStatement (written : Written P cells e) (s : Select) : .query s ∉ e.subterms := by
  intro mem
  cases written.inside _ mem

theorem Written.noCell (written : Written P cells e) {c : Cell} (other : c ∉ cells) :
    .cell c ∉ e.subterms := by
  intro mem
  cases written.inside _ mem with
  | cell known => exact other known

/-! ### What expressions mention -/

/-- The bytes of numbers. -/
def isNumberByte (b : UInt8) : Bool := Text.isDecimal b || (Text.ofString "+-.eNaInf").elem b

/-- The words that writing adds to an expression. -/
def connectives : List Text := ["AND", "OR", "NOT", "BETWEEN"]

/-- Properties that no word lacks which writing adds. -/
structure Neutral (P : Text → Prop) : Prop where
  empty : P []
  number : ∀ w : Text, w.all isNumberByte = true → P w
  connective : ∀ w ∈ connectives, P w

theorem Neutral.nil (neutral : Neutral P) : Mentions P [] := ⟨[],[],rfl,neutral.empty,by simp⟩

/-- Whether writing adds a word. -/
def isConnective (w : Text) : Bool := w.isEmpty || connectives.elem w

theorem Neutral.sound (neutral : Neutral P) (w : Text) (known : isConnective w = true) : P w := by
  simp only [isConnective,Bool.or_eq_true,List.isEmpty_iff,List.elem_eq_mem,decide_eq_true_eq] at known
  rcases known with rfl | known
  · exact neutral.empty
  · exact neutral.connective w known

theorem Neutral.template (neutral : Neutral P) {parts : List Text}
    (template : Template isConnective P false parts) : Mentions P (Text.concat parts) :=
  template.mentions neutral.sound neutral.empty

theorem digitValue {c : Char} (digit : c.isDigit = true) :
    (Text.byte c).toNat = c.toNat ∧ Text.isDecimal (Text.byte c) = true := by
  simp only [Char.isDigit,Bool.and_eq_true,decide_eq_true_eq] at digit
  have low : 48 ≤ c.toNat := digit.1
  have high : c.toNat ≤ 57 := digit.2
  have value : (Text.byte c).toNat = c.toNat := by
    simp only [Text.byte,UInt8.toNat_ofNat']
    omega
  simp only [Text.isDecimal,Bool.and_eq_true,decide_eq_true_eq,UInt8.le_iff_toNat_le,value]
  exact ⟨trivial,low,high⟩

theorem digitByte {c : Char} (digit : c.isDigit = true) : isNumberByte (Text.byte c) = true := by
  simp [isNumberByte,(digitValue digit).2]

theorem natBytes (n : Nat) : (Text.ofNat n).all isNumberByte = true := by
  simp only [Text.ofNat,List.all_map,List.all_eq_true,Function.comp_apply]
  intro c mem
  exact digitByte (Nat.isDigit_of_mem_toDigits (by omega) (by omega) mem)

theorem intBytes (n : Int) : (Text.ofInt n).all isNumberByte = true := by
  unfold Text.ofInt
  split
  · simp only [List.all_cons,natBytes,Bool.and_true]
    decide
  · exact natBytes _

theorem digitsSmall (n : Nat) : ∀ d ∈ Decimal.digitsOf n, d < 10 := by
  unfold Decimal.digitsOf
  split
  · simp
  · intro d mem
    obtain ⟨c,digit,rfl⟩ := List.mem_map.mp mem
    have isDigit := Nat.isDigit_of_mem_toDigits (by omega) (by omega) digit
    simp only [Char.isDigit,Bool.and_eq_true,decide_eq_true_eq] at isDigit
    have high : c.toNat ≤ 57 := isDigit.2
    omega

theorem scaledSmall (n : Nat) (e : Int) : ∀ d ∈ (Decimal.ofScaled n e).digits, d < 10 := by
  intro d mem
  simp only [Decimal.ofScaled,List.mem_reverse] at mem
  have kept := (List.dropWhile_sublist _).subset mem
  exact digitsSmall n d (List.mem_reverse.mp kept)

theorem shortestSmall (m : Nat) (e : Int) : ∀ d ∈ (Decimal.shortest m e).digits, d < 10 := by
  unfold Decimal.shortest
  split
  · simp
  · dsimp only
    split
    · exact scaledSmall _ _
    · exact scaledSmall _ _

theorem decimalBytes {x : Decimal} (small : ∀ d ∈ x.digits, d < 10) :
    (x.digits.map Decimal.digit).all isNumberByte = true := by
  simp only [List.all_map,List.all_eq_true,Function.comp_apply]
  intro d mem
  have bound := small d mem
  have value : (Decimal.digit d).toNat = 48 + d := by
    simp only [Decimal.digit,UInt8.toNat_ofNat']
    omega
  simp only [isNumberByte,Text.isDecimal,Bool.or_eq_true,Bool.and_eq_true,decide_eq_true_eq,
    UInt8.le_iff_toNat_le,value]
  exact .inl ⟨by simp [Text.byte],by simp [Text.byte]; omega⟩

theorem positionalBytes {x : Decimal} (small : ∀ d ∈ x.digits, d < 10) :
    x.positional.all isNumberByte = true := by
  have digits := decimalBytes small
  have zero : isNumberByte (Text.byte '0') = true := by decide
  have point : isNumberByte (Text.byte '.') = true := by decide
  have taken (n : Nat) : ((x.digits.map Decimal.digit).take n).all isNumberByte = true := by
    rw [List.all_eq_true] at digits ⊢
    exact fun b mem => digits b (List.mem_of_mem_take mem)
  have dropped (n : Nat) : ((x.digits.map Decimal.digit).drop n).all isNumberByte = true := by
    rw [List.all_eq_true] at digits ⊢
    exact fun b mem => digits b (List.mem_of_mem_drop mem)
  unfold Decimal.positional
  dsimp only
  generalize wholePart : (if x.point ≤ 0 then Text.ofString "0" else _) = whole
  generalize fractionPart : (if x.point ≤ 0 then _ else
    (x.digits.map Decimal.digit).drop x.point.toNat) = fraction
  have before : whole.all isNumberByte = true := by
    rw [← wholePart]
    split
    · decide
    · simp [taken,zero,List.all_append,List.all_replicate]
  have after : fraction.all isNumberByte = true := by
    rw [← fractionPart]
    split
    · split
      · rfl
      · simp [digits,zero,List.all_append,List.all_replicate]
    · exact dropped _
  split
  · exact before
  · simp [before,after,point,List.all_append]

theorem scientificBytes (width : Nat) {x : Decimal} (small : ∀ d ∈ x.digits, d < 10) :
    (x.scientific width).all isNumberByte = true := by
  have digits := decimalBytes small
  have zero : isNumberByte (Text.byte '0') = true := by decide
  have point : isNumberByte (Text.byte '.') = true := by decide
  have one : (Text.ofString "0").all isNumberByte = true := by decide
  have sign (p : Prop) [Decidable p] :
      isNumberByte (if p then Text.byte '-' else Text.byte '+') = true := by
    split <;> decide
  have plus : isNumberByte (Text.byte '+') = true := by decide
  have exponent : isNumberByte (Text.byte 'e') = true := by decide
  unfold Decimal.scientific
  dsimp only
  cases split : x.digits.map Decimal.digit with
  | nil => simp [zero,one,plus,exponent,natBytes,List.all_append,List.all_replicate]
  | cons d rest =>
    rw [split] at digits
    simp only [List.all_cons,Bool.and_eq_true] at digits
    cases rest with
    | nil => simp [digits,zero,sign,exponent,natBytes,List.all_append,List.all_replicate]
    | cons d rest =>
      simp only [List.all_cons,Bool.and_eq_true] at digits
      simp [digits,zero,point,sign,exponent,natBytes,List.all_append,List.all_replicate]

theorem floatBytes (x : Binary64) : x.general.all isNumberByte = true := by
  cases x with
  | nan => decide
  | infinite negative => cases negative <;> decide
  | finite negative m e =>
    have small := shortestSmall m e
    have body : (if ¬(Decimal.shortest m e).digits.isEmpty ∧
          ((Decimal.shortest m e).point - 1 < -4 ∨ 6 ≤ (Decimal.shortest m e).point - 1) then
        (Decimal.shortest m e).scientific 2 else (Decimal.shortest m e).positional).all
          isNumberByte = true := by
      split
      · exact scientificBytes 2 small
      · exact positionalBytes small
    rw [Binary64.general,Binary64.render]
    split
    · simp only [List.all_cons,body,Bool.and_true]
      decide
    · exact body

theorem Neutral.bytes (neutral : Neutral P) {t : Text} (number : t.all isNumberByte = true) :
    Mentions P t :=
  mentionsBytes number (by decide) neutral.number

theorem Neutral.commas (neutral : Neutral P) {ts : List Text} (each : ∀ t ∈ ts, Mentions P t) :
    Mentions P (Text.join ", " ts) :=
  mentionsJoin each neutral.nil (mentionsString neutral.sound rfl (by decide)) (by decide) (by decide)

theorem Neutral.logical (neutral : Neutral P) {op : Text} (known : op ∈ connectives)
    {ts : List Text} (each : ∀ t ∈ ts, Mentions P t) : Mentions P (logical op ts) := by
  have kept : ∀ t ∈ ts.filter fun t => !t.isEmpty, Mentions P t :=
    fun t mem => each t (List.mem_filter.mp mem).1
  have plain : op.all isWordByte = true := by
    simp only [connectives,List.mem_cons,List.not_mem_nil,or_false] at known
    rcases known with rfl | rfl | rfl | rfl <;> decide
  have between : Mentions P (.concat [" ", op, " "]) :=
    neutral.template (.fixed rfl (by decide) (.text (mentionsWord plain (neutral.connective op known))
      (.last rfl (by decide))))
  unfold Sql.logical
  split
  · exact neutral.nil
  · rename_i t single
    exact kept t (by simp [single])
  · have items := mentionsJoin kept neutral.nil between (opensAppend (by decide) _)
      (by simpa [Text.concat] using endsAppend (b := " ") (by decide) ((" " : Text) ++ op))
    exact neutral.template (.fixed rfl (by decide) (.text items (.last rfl (by decide))))

/-- An expression mentions what its texts, names and operators mention, and the texts of its cells. -/
theorem Written.mentions (neutral : Neutral P) (written : Written (Mentions P) cells e)
    {v : CellView} (view : ∀ c ∈ cells, Mentions P (v.text c)) : Mentions P (e.text v) := by
  have listed {es : List Expr} (each : ∀ e ∈ es, Mentions P (e.text v)) :
      ∀ t ∈ Expr.texts v es, Mentions P t := by
    rw [Expr.textsMap]
    intro t mem
    obtain ⟨e,inside,rfl⟩ := List.mem_map.mp mem
    exact each e inside
  induction written with
  | raw text => exact text
  | str t => exact mentionsLiteral neutral.empty t
  | int n => exact neutral.bytes (intBytes n)
  | float x => exact neutral.bytes (floatBytes x)
  | cell known => exact view _ known
  | call named _ ih =>
    exact neutral.template (.text named (.fixed rfl (by decide)
      (.text (neutral.commas (listed ih)) (.last rfl (by decide)))))
  | binary named _ _ left right =>
    exact neutral.template (.text left (.fixed rfl (by decide) (.text named
      (.fixed rfl (by decide) (.text right .done)))))
  | between _ _ _ tested low high =>
    exact neutral.template (.text tested (.fixed rfl (by decide) (.text low
      (.fixed rfl (by decide) (.text high .done)))))
  | all _ ih => exact neutral.logical (by decide) (listed ih)
  | any _ ih => exact neutral.logical (by decide) (listed ih)
  | not _ ih => exact neutral.template (.fixed rfl (by decide) (.text ih (.last rfl (by decide))))
  | sub _ ih => exact neutral.template (.fixed rfl (by decide) (.text ih (.last rfl (by decide))))
  | array _ ih =>
    exact neutral.template (.fixed rfl (by decide) (.text (neutral.commas (listed ih))
      (.last rfl (by decide))))
  | tuple _ ih =>
    exact neutral.template (.fixed rfl (by decide) (.text (neutral.commas (listed ih))
      (.last rfl (by decide))))
  | ifBound _ _ bound unbound =>
    rw [Expr.text]
    split
    · exact bound
    · exact unbound
  | ifTrue _ _ yes no =>
    rw [Expr.text]
    split
    · exact yes
    · exact no

end LogSql.Sql
