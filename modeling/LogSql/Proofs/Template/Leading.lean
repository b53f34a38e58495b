import LogSql.Proofs.Template.Printed
import LogSql.Proofs.Text.Fields

/-! Templates that start with a text. What stands before the first action of a template is read as one
text, without the white space that the action takes away, and it is printed first; a template without
actions is printed as it is. -/
namespace LogSql.Template

/-! ### Reading the tokens -/

theorem cutBraces {pre : Text} (plain : ∀ b ∈ pre, b ≠ Text.byte '\x7b') (t : Text) :
    Text.cut "\x7b\x7b" (pre ++ t) = (Text.cut "\x7b\x7b" t).map fun r => (pre ++ r.1, r.2) := by
  induction pre with
  | nil => simp
  | cons b pre ih =>
    obtain ⟨first,others⟩ := List.forall_mem_cons.mp plain
    have later : (Text.ofString "\x7b\x7b").isPrefixOf (b :: (pre ++ t)) = false := by
      have other : (Text.byte '\x7b' == b) = false := by simpa using Ne.symm first
      show (Text.byte '\x7b' == b && _) = false
      rw [other]
      rfl
    rw [List.cons_append,Text.cut,later,ih others]
    simp [Option.map_map,Function.comp_def]

/-- A brace that stands alone opens no action. -/
theorem cutSingle {b : UInt8} (other : b ≠ Text.byte '\x7b') (t : Text) :
    Text.cut "\x7b\x7b" (Text.byte '\x7b' :: b :: t) =
      (Text.cut "\x7b\x7b" (b :: t)).map fun r => (Text.byte '\x7b' :: r.1, r.2) := by
  have single : (Text.ofString "\x7b\x7b").isPrefixOf (Text.byte '\x7b' :: b :: t) = false := by
    have apart : (Text.byte '\x7b' == b) = false := by simpa using other.symm
    show (Text.byte '\x7b' == Text.byte '\x7b' && (Text.byte '\x7b' == b && _)) = false
    rw [apart]
    rfl
  rw [Text.cut,single]
  rfl

theorem textTokens {t : Text} (plain : ∀ b ∈ t, b ≠ Text.byte '\x7b') (some : t ≠ []) :
    tokens t = Option.some [.text t] := by
  have none : Text.cut "\x7b\x7b" t = none := by
    have whole := cutBraces plain []
    rw [List.append_nil] at whole
    rw [whole]
    rfl
  have start : scan (2 * t.length + 1 + 1) Option.none t = Option.some [.text t] := by
    rw [scan,none]
    simp [some]
  exact start

/-- What stands before an action is one token, when anything is left of it. -/
theorem scanBefore {n : Nat} {t before after : Text} {ts : List Token}
    (cut : Text.cut "\x7b\x7b" t = some (before,after)) (ok : scan (n + 1) none t = some ts) :
    ∃ kept later, ts = (if kept.isEmpty then [] else [.text kept]) ++ later ∧
      (kept = before ∨ kept = (before.reverse.dropWhile isBlank).reverse) := by
  rw [scan,cut] at ok
  dsimp -zeta only at ok
  extract_lets trims kept body head at ok
  have either : kept = before ∨ kept = (before.reverse.dropWhile isBlank).reverse := by
    unfold kept
    split
    · exact .inr rfl
    · exact .inl rfl
  refine ⟨kept,?_⟩
  split at ok
  · obtain ⟨⟨_,rest⟩,_,ok⟩ := Option.bind_eq_some_iff.mp ok
    obtain ⟨close,_,ok⟩ := Option.bind_eq_some_iff.mp ok
    obtain ⟨later,_,ok⟩ := Option.bind_eq_some_iff.mp ok
    cases ok
    exact ⟨later,rfl,either⟩
  · obtain ⟨later,_,ok⟩ := Option.bind_eq_some_iff.mp ok
    cases ok
    exact ⟨_,rfl,either⟩

/-- Blanks at the end of a text do not reach what is before a byte that is none. -/
theorem trimEndKeeps {b : UInt8} (ink : isBlank b = false) (pre more : Text) :
    ∃ kept, ((pre ++ b :: more).reverse.dropWhile isBlank).reverse = pre ++ b :: kept := by
  have split : (pre ++ b :: more).reverse = more.reverse ++ b :: pre.reverse := by simp
  rw [split,List.dropWhile_append]
  split
  · exact ⟨[],by simp [ink]⟩
  · exact ⟨(more.reverse.dropWhile isBlank).reverse,by simp⟩

/-- A template whose text starts with ink starts with that text. -/
theorem inkTokens {pre rest : Text} {b : UInt8} {ts : List Token}
    (plain : ∀ x ∈ pre, x ≠ Text.byte '\x7b') (ink : isBlank b = false)
    (text : (Text.ofString "\x7b\x7b").isPrefixOf (b :: rest) = false)
    (ok : tokens (pre ++ b :: rest) = some ts) :
    ∃ more later, ts = .text (pre ++ b :: more) :: later := by
  have cut := cutBraces plain (b :: rest)
  rw [Text.cut,text] at cut
  -- Without an action the whole text is one token; before one, only blanks at the end are lost.
  cases found : Text.cut "\x7b\x7b" rest with
  | none =>
    have start : scan (2 * (pre ++ b :: rest).length + 1 + 1) none (pre ++ b :: rest) =
        some [.text (pre ++ b :: rest)] := by
      rw [scan,cut,found]
      simp
    exact ⟨rest,[],Option.some.inj (ok.symm.trans start)⟩
  | some r =>
    rw [found] at cut
    obtain ⟨kept,later,rfl,either⟩ := scanBefore (n := 2 * (pre ++ b :: rest).length + 1) cut ok
    have left : ∃ more, kept = pre ++ b :: more := by
      rcases either with rfl | rfl
      · exact ⟨r.1,rfl⟩
      · exact trimEndKeeps ink pre r.1
    obtain ⟨more,rfl⟩ := left
    exact ⟨more,later,by simp⟩

/-! ### Reading the parts -/

namespace Parse

theorem stateBind {α β : Type} {p : Parse α} {s s' : ParseState} {a : α} (first : p s = some (a,s'))
    (f : α → Parse β) : (p >>= f) s = f a s' := by
  simp only [bind,StateT.bind,first]
  rfl

variable {known : Text → Bool} {n : Nat} {t : Text} {rest : List Token} {vars : List Text}
  {loops : Nat} {trees : Trees}

theorem itemText : item known (n + 1) ⟨.text t :: rest,vars,loops,trees⟩ =
    some (.part (.text t), ⟨rest,vars,loops,trees⟩) := by
  rw [item]
  rfl

theorem rootText : root known (n + 1) ⟨.text t :: rest,vars,loops,trees⟩ =
    (root known n ⟨rest,vars,loops,trees⟩).map fun r => (.text t :: r.1, r.2) := by
  rw [root]
  refine (stateBind (a := ⟨.text t :: rest,vars,loops,trees⟩) rfl _).trans ?_
  refine (stateBind (a := ⟨.text t :: rest,vars,loops,trees⟩) rfl _).trans ?_
  refine (stateBind itemText _).trans ?_
  cases more : root known n ⟨rest,vars,loops,trees⟩ with
  | none => simp [bind,StateT.bind,more]
  | some r => simp [bind,StateT.bind,more]; rfl

end Parse

theorem addGet {ts trees : Trees} {name : Text} {parts : List Part}
    (ok : ts.add name parts = some trees) (kept : isBlankTree parts = false ∨ ts.get? name = none) :
    trees.get? name = some parts := by
  have front : Trees.get? ((name,parts) :: ts) name = some parts := by simp [Trees.get?]
  unfold Trees.add at ok
  split at ok
  · cases ok
    exact front
  · rename_i old present
    split at ok
    · cases ok
      exact front
    · split at ok <;> try contradiction
      rename_i blank
      rcases kept with ink | none
      · rw [ink] at blank
        contradiction
      · rw [none] at present
        contradiction

section Parsed

variable {known : Text → Bool} {name t text : Text} {rest : List Token} {trees : Trees}

/-- The tree of a template that starts with a text, and the trees that were defined inside it. -/
theorem parseParts (ok : parse known name text = some trees)
    (read : tokens text = some (.text t :: rest)) :
    ∃ (n : Nat) (more : List Part) (s : ParseState),
      Parse.root known (n + 1) ⟨rest,[[Text.byte '$']],0,[]⟩ = some (more,s) ∧
      s.trees.add name (.text t :: more) = some trees := by
  unfold parse at ok
  rw [read] at ok
  obtain ⟨ts,same,ok⟩ := Option.bind_eq_some_iff.mp ok
  cases same
  obtain ⟨⟨parts,s⟩,root,ok⟩ := Option.bind_eq_some_iff.mp ok
  have start := @Parse.rootText known (8 * (rest.length + 1) + 14 + 1) t rest [[Text.byte '$']] 0 []
  obtain ⟨⟨more,left⟩,behind,same⟩ := Option.map_eq_some_iff.mp (start.symm.trans root)
  cases same
  exact ⟨_,more,left,behind,ok⟩

/-- A template starts with the text that its tokens start with, unless that is blank. -/
theorem parseText (ok : parse known name text = some trees)
    (read : tokens text = some (.text t :: rest)) (ink : (Text.trim t).isEmpty = false) :
    ∃ more, trees.get? name = some (.text t :: more) := by
  obtain ⟨_,more,s,_,added⟩ := parseParts ok read
  exact ⟨more,addGet added (.inl (by simp [isBlankTree,ink]))⟩

/-- A template that is one text has nothing behind it. -/
theorem parseOnly (ok : parse known name text = some trees) (read : tokens text = some [.text t]) :
    trees.get? name = some [.text t] := by
  obtain ⟨n,more,s,behind,added⟩ := parseParts ok read
  rw [Parse.root] at behind
  cases behind
  exact addGet added (.inr rfl)

end Parsed

/-! ### Running the template -/

section Running

variable {p : Program} {known : Text → Bool} {text : Text}

theorem inkBlank {b : UInt8} (ink : ¬ Text.SpaceByte b) : isBlank b = false := by
  cases blank : isBlank b with
  | false => rfl
  | true =>
    simp only [isBlank,Bool.or_eq_true,decide_eq_true_eq] at blank
    rcases blank with ((rfl | rfl) | rfl) | rfl <;> exact absurd (by simp [Text.SpaceByte]) ink

/-- A template whose text starts with ink prints that text first. -/
theorem runInk {pre rest : Text} {b : UInt8}
    (parsed : parse known p.name (pre ++ b :: rest) = some p.trees)
    (plain : ∀ x ∈ pre, x ≠ Text.byte '\x7b') (ink : ¬ Text.SpaceByte b)
    (text : (Text.ofString "\x7b\x7b").isPrefixOf (b :: rest) = false) (data : Labels) :
    ∃ more, (p.run data).1 = pre ++ b :: more := by
  obtain ⟨ts,read,_⟩ := Option.bind_eq_some_iff.mp parsed
  obtain ⟨more,later,rfl⟩ := inkTokens plain (inkBlank ink) text read
  obtain ⟨parts,tree⟩ := parseText parsed read (Text.trimKeeps (by simp) ink)
  obtain ⟨printed,same⟩ := runStarts tree data
  exact ⟨more ++ printed,by simp [same]⟩

/-- A template without braces prints itself. -/
theorem runPlain (parsed : parse known p.name text = some p.trees)
    (plain : ∀ b ∈ text, b ≠ Text.byte '\x7b') (some : text ≠ []) (data : Labels) :
    (p.run data).1 = text :=
  runText (parseOnly parsed (textTokens plain some)) data

end Running

end LogSql.Template
