import LogSql.Proofs.Macro.Dispatch
import LogSql.Proofs.Query.Quoting
import LogSql.Proofs.Template.Quoted

/-! Macros that quote their arguments. A macro that writes a selector around a quoted parameter gives, for every
value of it, a query that selects exactly this value: no value ends its quotes early. -/
namespace LogSql.Macro

open Query
open Compile (Engine)

/-! ### Templates of selectors -/

/-- A template that selects the streams in which a label has the value of a parameter. -/
def selectorTemplate (label param : Text) : Text :=
  .concat ["\x7b", label, "=\x7b\x7bquote .", param, "\x7d\x7d\x7d"]

/-- What such a template prints before the value. -/
def selectorFront (label : Text) : Text := Text.byte '\x7b' :: (label ++ [Text.byte '='])

theorem selectorWritten (label value : Text) : selectorText label value =
    selectorFront label ++ (Text.quote value ++ [Text.byte '\x7d']) := by
  simp [selectorText,selectorFront]

theorem selectorTemplateParts (label param : Text) : selectorTemplate label param =
    Template.quotedField (selectorFront label) param [Text.byte '\x7d'] := by
  have opening : Text.ofString "\x7b" = [Text.byte '\x7b'] := by decide
  have call : Text.ofString "=\x7b\x7bquote ." =
      Text.byte '=' :: (Text.ofString "\x7b\x7b" ++ Text.ofString "quote .") := by decide
  have closing : Text.ofString "\x7d\x7d\x7d" = Text.ofString "\x7d\x7d" ++ [Text.byte '\x7d'] := by decide
  simp [selectorTemplate,selectorFront,Text.concat,Template.quotedField,opening,call,closing]

/-- The brace of the selector opens no action: a name stands behind it. -/
theorem selectorCut {label : Text} (named : Text.isName label = true) (t : Text) :
    Text.cut "\x7b\x7b" (selectorFront label ++ (Text.ofString "\x7b\x7b" ++ t)) =
      some (selectorFront label, t) := by
  obtain ⟨b,bs,rfl,_,parts⟩ := Text.nameParts named
  have plain : ∀ x ∈ b :: (bs ++ [Text.byte '=']), x ≠ Text.byte '\x7b' := by
    rintro x mem rfl
    rcases List.mem_append.mp (List.cons_append ▸ mem) with part | last
    · exact absurd (parts _ part) (by decide)
    · exact absurd last (by decide)
  have later : Text.cut "\x7b\x7b" (b :: (bs ++ [Text.byte '=']) ++ (Text.ofString "\x7b\x7b" ++ t)) =
      some (b :: (bs ++ [Text.byte '=']),t) := by
    rw [Template.cutBraces plain]
    simp [show Text.cut "\x7b\x7b" (Text.ofString "\x7b\x7b" ++ t) = some ([],t) from rfl]
  exact (Template.cutSingle (plain b List.mem_cons_self) _).trans (congrArg (Option.map _) later)

/-! ### What such a macro gives -/

section Expansion

variable {p : Prepared} {label param : Text} (checked : Checked p.definition p)
  (selects : p.definition.template = selectorTemplate label param) (named : Text.isName label = true)
  (parameter : param ∈ p.definition.params)

include checked selects named parameter

/-- The template prints the selector of the value that the parameter is bound to. -/
theorem selectorPrinted {args : Labels} {v : Text} (bound : args.get? param = some v) :
    p.printed args = .ok (selectorText label v) := by
  have parsed := @Template.quotedParsed (selectorFront label) param [Text.byte '\x7d']
    (selectorCut named _) (List.cons_ne_nil _ _) (checked.paramNames _ parameter) (by decide)
    (List.cons_ne_nil _ _) (fun f => allFunctions.any fun g => g.1 = f) (by decide) p.definition.name
  rw [← selectorTemplateParts,← selects] at parsed
  have program := checked.program
  rw [Definition.program?,parsed] at program
  have ran : p.program.run args = (selectorText label v,true) := by
    rw [selectorWritten,← Option.some.inj program]
    exact Template.quotedRun rfl bound (by simp [Template.Trees.get?])
  rw [Prepared.printed,ran]
  rfl

/-- A call gives the selector of the value at the place of the parameter, if the rule lets its values pass. -/
theorem selectorGiven {values : List Text} (same : values.length = p.definition.params.length) {i : Nat}
    {v : Text} (place : p.definition.params[i]? = some param) (value : values[i]? = some v) :
    p.expand (callNode p.definition.name values) =
      (p.judged (Labels.ofList (p.definition.params.zip values))).map fun _ => selectorText label v := by
  obtain ⟨inside,own⟩ := List.getElem?_eq_some_iff.mp place
  have bound : (Labels.ofList (p.definition.params.zip values)).get? param = some v := by
    rw [← own,← value]
    exact Labels.getSetAll checked.params same [] i inside
  rw [Prepared.expandRender,ownArguments same]
  show p.render _ = _
  rw [Prepared.render,selectorPrinted checked selects named parameter bound]
  rfl

end Expansion

theorem blankPasses {p : Prepared} (checked : Checked p.definition p)
    (blank : (Text.trim p.definition.validate).isEmpty = true) (args : Labels) :
    p.judged args = .ok () := by
  have rule := checked.rule
  rw [Definition.rule?,if_pos blank] at rule
  rw [Prepared.judged,← Except.ok.inj rule]

/-- A value that tries to end its quotes: a quote and a brace, a backslash, the null byte and one that is no
character. -/
def hostile : Text := Text.ofString "a\"\x7d\\" ++ [0, 0xff]

end LogSql.Macro
