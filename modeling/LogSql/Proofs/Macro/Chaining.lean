import LogSql.Proofs.Compile.Expansion
import LogSql.Proofs.Macro.Definition
import LogSql.Proofs.Query.Calls
import LogSql.Proofs.Template.Leading

/-! Macros that lead to no other macro. What a set refuses is read off the templates: one that starts
with the name of a macro and a parenthesis, with the blanks of templates around the name. Calls are read
off the rendered texts, with the white space of queries. The two agree on every template whose first word
is followed by a byte that is neither the start of an action nor white space that only queries know. -/
namespace LogSql.Macro

open Query
open Compile (Engine Request)

/-! ### How texts open -/

/-- The word that a text opens with. -/
def openingWord (t : Text) : Text := (t.dropWhile Definition.isGap).takeWhile Text.isNamePart

/-- What stands behind the word that a text opens with, and the blanks behind that. -/
def afterWord (t : Text) : Text :=
  ((t.dropWhile Definition.isGap).dropWhile Text.isNamePart).dropWhile Definition.isGap

/-- A template that opens with its own text: behind its first word is ink, or nothing at all. -/
def opensPlainly (t : Text) : Bool :=
  match afterWord t with
  | [] => true
  | b :: rest => !decide (Text.SpaceByte b) && !(Text.ofString "\x7b\x7b").isPrefixOf (b :: rest)

theorem leadingWord (t : Text) : Definition.leadingCall? t =
    if Text.isName (openingWord t) ∧ (afterWord t).head? = some (Text.byte '(') then
      some (openingWord t) else none := rfl

theorem dropped {p : UInt8 → Bool} {t left : Text} (same : t.dropWhile p = left) : left <:+ t :=
  same ▸ List.dropWhile_suffix p

/-- What a scan leaves does not depend on what is behind the byte where it stops. -/
theorem dropKept {p : UInt8 → Bool} {pre kept rest : Text} {b : UInt8}
    (left : (pre ++ b :: rest).dropWhile p = kept ++ b :: rest) (more : Text) :
    (pre ++ b :: more).dropWhile p = kept ++ b :: more ∧
      (pre ++ b :: more).takeWhile p = (pre ++ b :: rest).takeWhile p := by
  induction pre with
  | nil =>
    simp only [List.nil_append,List.dropWhile_cons] at left
    split at left
    · -- The byte was not dropped: what is left would be longer than what is behind the byte.
      have short := (List.dropWhile_suffix p (l := rest)).length_le
      rw [left] at short
      simp at short
      omega
    · rename_i stops
      have none : kept = [] := by simpa using left
      simp [stops,none]
  | cons x pre ih =>
    simp only [List.cons_append,List.dropWhile_cons,List.takeWhile_cons] at left ⊢
    split at left
    · rename_i goes
      simpa [goes] using ih left
    · rename_i stops
      have same : kept = x :: pre := by
        rw [← List.cons_append] at left
        exact (List.append_cancel_right left).symm
      simp [stops,same]

theorem openingParts (t : Text) : ∃ front gap, t = (front ++ (openingWord t ++ gap)) ++ afterWord t ∧
    ∀ b ∈ front ++ (openingWord t ++ gap), Definition.isGap b = true ∨ Text.isNamePart b = true := by
  refine ⟨t.takeWhile Definition.isGap,
    ((t.dropWhile Definition.isGap).dropWhile Text.isNamePart).takeWhile Definition.isGap,?_,?_⟩
  · simp only [openingWord,afterWord,List.append_assoc,List.takeWhile_append_dropWhile]
  · simp only [List.forall_mem_append]
    refine ⟨fun b mem => .inl ?_,fun b mem => .inr ?_,fun b mem => .inl ?_⟩
    · exact List.all_eq_true.mp List.all_takeWhile b mem
    · exact List.all_eq_true.mp List.all_takeWhile b mem
    · exact List.all_eq_true.mp List.all_takeWhile b mem

/-- A text opens as it does whatever stands behind the byte after its first word. -/
theorem openingKept {pre rest : Text} {b : UInt8} (after : afterWord (pre ++ b :: rest) = b :: rest)
    (more : Text) :
    Definition.leadingCall? (pre ++ b :: more) = Definition.leadingCall? (pre ++ b :: rest) ∧
      afterWord (pre ++ b :: more) = b :: more := by
  -- Three scans follow each other, and none of them goes beyond the byte where the last one stops.
  obtain ⟨gap,second⟩ := dropped after
  obtain ⟨word,first⟩ := (List.suffix_append gap (b :: rest)).trans (dropped second.symm)
  have one := dropKept first.symm more
  rw [← first] at second
  have two := dropKept second.symm more
  have three := @dropKept Definition.isGap gap [] rest b (by rw [second,first]; exact after) more
  have last : afterWord (pre ++ b :: more) = b :: more := by
    rw [afterWord,one.1,two.1,three.1,List.nil_append]
  have same : openingWord (pre ++ b :: more) = openingWord (pre ++ b :: rest) := by
    rw [openingWord,openingWord,one.1,two.2,first]
  exact ⟨by rw [leadingWord,leadingWord,same,last,after]; rfl,last⟩

/-! ### How calls open -/

theorem partInk {b : UInt8} (part : Text.isNamePart b = true) : ¬ Text.SpaceByte b := by
  have range : ((97 ≤ b.toNat ∧ b.toNat ≤ 122 ∨ 65 ≤ b.toNat ∧ b.toNat ≤ 90) ∨ b.toNat = 95) ∨
      48 ≤ b.toNat ∧ b.toNat ≤ 57 := by
    simpa [Text.isNamePart,Text.isNameStart,Text.isAlpha,Text.isDecimal,Text.byte,
      UInt8.le_iff_toNat_le,← UInt8.toNat_inj] using part
  unfold Text.SpaceByte
  omega

theorem spaceNoPart {b : UInt8} (space : Text.SpaceByte b) : Text.isNamePart b = false := by
  cases part : Text.isNamePart b with
  | false => rfl
  | true => exact absurd space (partInk part)

theorem gapSpace {b : UInt8} (gap : Definition.isGap b = true) : Text.SpaceByte b := by
  simp only [Definition.isGap,Bool.or_eq_true,decide_eq_true_eq] at gap
  rcases gap with (((rfl | rfl) | rfl) | rfl) | rfl <;> decide

theorem partNoGap {b : UInt8} (part : Text.isNamePart b = true) : Definition.isGap b = false := by
  cases gap : Definition.isGap b with
  | false => rfl
  | true => exact absurd (gapSpace gap) (partInk part)

/-- White space is dropped as far as templates know it. -/
theorem spacesDropped {front : Text} (spaces : ∀ b ∈ front, Text.SpaceByte b) (t : Text) :
    (front ++ t).dropWhile Definition.isGap = t.dropWhile Definition.isGap ∨
      ∃ b rest, (front ++ t).dropWhile Definition.isGap = b :: rest ∧ Text.SpaceByte b ∧
        Definition.isGap b = false := by
  induction front with
  | nil => exact .inl rfl
  | cons b front ih =>
    obtain ⟨space,others⟩ := List.forall_mem_cons.mp spaces
    cases gap : Definition.isGap b with
    | true => simpa [gap] using ih others
    | false => exact .inr ⟨b,front ++ t,by simp [gap],space,gap⟩

/-- A text that is written like a call is seen by the check of a set, or there is white space that the
check does not know. -/
theorem callOpens {name front gap more t : Text} (word : Text.isName name = true)
    (before : ∀ b ∈ front, Text.SpaceByte b) (between : ∀ b ∈ gap, Text.SpaceByte b)
    (written : t = front ++ (name ++ (gap ++ Text.byte '(' :: more))) :
    Definition.leadingCall? t = some name ∨
      ∃ b rest, afterWord t = b :: rest ∧ Text.SpaceByte b := by
  obtain ⟨c,cs,spelled,_,parts⟩ := Text.nameParts word
  have stops : ∃ b rest, gap ++ Text.byte '(' :: more = b :: rest ∧ Text.isNamePart b = false := by
    cases gap with
    | nil => exact ⟨_,_,rfl,by decide⟩
    | cons b gap => exact ⟨_,_,rfl,spaceNoPart (between b List.mem_cons_self)⟩
  obtain ⟨b,rest,behind,other⟩ := stops
  -- White space that only queries know ends the scan before the name or behind it.
  rcases spacesDropped before (name ++ (gap ++ Text.byte '(' :: more)) with known | odd
  · have start : t.dropWhile Definition.isGap = name ++ (gap ++ Text.byte '(' :: more) := by
      have first := partNoGap (parts c (by simp [spelled]))
      rw [written,known,spelled,List.cons_append,List.dropWhile_cons_of_neg (by simp [first])]
    have called : openingWord t = name := by
      rw [openingWord,start,List.takeWhile_append_of_pos parts,behind,
        List.takeWhile_cons_of_neg (by simp [other]),List.append_nil]
    have left : afterWord t = (gap ++ Text.byte '(' :: more).dropWhile Definition.isGap := by
      rw [afterWord,start,List.dropWhile_append_of_pos parts,behind,
        List.dropWhile_cons_of_neg (by simp [other])]
    rcases spacesDropped between (Text.byte '(' :: more) with known | ⟨b,rest,odd,space,_⟩
    · have paren : afterWord t = Text.byte '(' :: more := by
        rw [left,known,List.dropWhile_cons_of_neg (by decide)]
      exact .inl (by rw [leadingWord,called,paren,if_pos ⟨word,rfl⟩])
    · exact .inr ⟨b,rest,left.trans odd,space⟩
  · obtain ⟨b,rest,odd,space,gap⟩ := odd
    refine .inr ⟨b,rest,?_,space⟩
    rw [afterWord,written,odd,List.dropWhile_cons_of_neg (by simp [spaceNoPart space]),
      List.dropWhile_cons_of_neg (by simp [gap])]

/-! ### How expansions open -/

theorem expandPrinted {p : Prepared} {call : Node} {t : Text} (ok : p.expand call = .ok t) :
    ∃ args, (p.program.run args).1 = t := by
  rw [Prepared.expandRender] at ok
  obtain ⟨args,_,ok⟩ := bindOk ok
  obtain ⟨_,_,ok⟩ := bindOk ok
  refine ⟨args,?_⟩
  simp only [Prepared.printed] at ok
  split at ok
  · exact Except.ok.inj ok
  · contradiction

theorem programParsed {d : Definition} {p : Prepared} (checked : Checked d p) : ∃ known,
    Template.parse known p.program.name d.template = some p.program.trees := by
  obtain ⟨trees,parsed,same⟩ := Option.map_eq_some_iff.mp checked.program
  rw [← same]
  exact ⟨_,parsed⟩

/-- What a macro gives opens like its template, when that opens plainly. -/
theorem expansionOpens {p : Prepared} (checked : Checked p.definition p)
    (plain : opensPlainly p.definition.template = true) {call : Node} {t : Text}
    (ok : p.expand call = .ok t) :
    Definition.leadingCall? t = Definition.leadingCall? p.definition.template ∧
      ∀ b rest, afterWord t = b :: rest → ¬ Text.SpaceByte b := by
  obtain ⟨args,printed⟩ := expandPrinted ok
  obtain ⟨known,parsed⟩ := programParsed checked
  obtain ⟨front,gap,whole,bytes⟩ := openingParts p.definition.template
  have text : ∀ x ∈ front ++ (openingWord p.definition.template ++ gap), x ≠ Text.byte '\x7b' := by
    rintro x mem rfl
    rcases bytes _ mem with gap | part <;> contradiction
  -- Nothing up to the byte behind the first word is a brace, so no action stands before it.
  unfold opensPlainly at plain
  cases after : afterWord p.definition.template with
  | nil =>
    rw [after,List.append_nil] at whole
    have some : p.definition.template ≠ [] := by
      intro none
      have filled := checked.filled
      rw [none] at filled
      contradiction
    obtain rfl : p.definition.template = t :=
      (Template.runPlain parsed (whole ▸ text) some args).symm.trans printed
    exact ⟨rfl,fun b rest same => by rw [after] at same; contradiction⟩
  | cons b rest =>
    rw [after] at whole plain
    simp only [Bool.and_eq_true,Bool.not_eq_true',decide_eq_false_iff_not] at plain
    rw [whole] at parsed after
    obtain ⟨more,same⟩ := Template.runInk parsed text plain.1 plain.2 args
    obtain ⟨leads,left⟩ := openingKept after more
    rw [← printed,same]
    refine ⟨leads.trans (by rw [← whole]),fun c rest' found => ?_⟩
    cases left.symm.trans found
    exact plain.1

/-! ### Calls of a set -/

section Sets

variable {old registry : Registry} {ds : List Definition} {e : Engine}

/-- A text that reads as a call is written as a call of a macro of the set. -/
theorem callWritten (all : Accepted (ds.map (·.name)) ds registry.active)
    (active : e.macros = registry.macros) {t : Text} (called : e.IsCall t) :
    ∃ name ∈ ds.map (·.name), Definition.leadingCall? t = some name ∨
      ∃ b rest, afterWord t = b :: rest ∧ Text.SpaceByte b := by
  obtain ⟨root,call,read,found⟩ := called
  have names : e.macros.map (·.name) = ds.map (·.name) := by
    rw [active]
    exact all.macroNames
  have read := mapErrorOk read
  rw [names] at read
  obtain ⟨name,known,front,gap,more,written,before,between⟩ :=
    calledText read (by rw [found]; exact Option.some_ne_none call)
  refine ⟨name,known,callOpens ?_ before between written⟩
  rw [← all.definitions] at known
  obtain ⟨d,mem,rfl⟩ := List.mem_map.mp known
  obtain ⟨p,inside,rfl⟩ := List.mem_map.mp mem
  exact (checked (all.each p inside).1).name

/-- What a macro of an accepted set gives is no call of the set, when its template opens plainly. -/
theorem expansionSettled (all : Accepted (ds.map (·.name)) ds registry.active)
    (active : e.macros = registry.macros) {p : Prepared} (mem : p ∈ registry.active)
    (plain : opensPlainly p.definition.template = true) {call : Node} {t : Text}
    (ok : p.expand call = .ok t) : ¬ e.IsCall t := by
  intro called
  obtain ⟨prepared,opening⟩ := all.each p mem
  obtain ⟨same,ink⟩ := expansionOpens (checked prepared) plain ok
  obtain ⟨name,known,leads | ⟨b,rest,after,space⟩⟩ := callWritten all active called
  · exact opening name (same ▸ leads) known
  · exact ink b rest after space

end Sets

end LogSql.Macro
