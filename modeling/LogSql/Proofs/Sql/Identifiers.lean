import Mathlib.Data.List.Forall2
import LogSql.Proofs.Sql.Parts

/-! The identifiers of written expressions. A word is an identifier up to its first point, and a text
that is put together from parts which meet outside words has the identifiers of its parts. -/
namespace LogSql.Sql

/-- The identifiers of a word: what stands between its stars, up to the first point. -/
def heads (w : Text) : List Text :=
  (Text.splitByte (Text.byte '*') w).map (·.takeWhile fun b => b ≠ Text.byte '.')

/-- The identifiers of a text outside its literals, apart from those behind a point. -/
def identifiers (t : Text) : List Text := (words t).flatMap heads

/-- Whether a word has none of some names as an identifier. -/
def isForeign (names : List Text) (w : Text) : Bool := (heads w).all fun x => !names.elem x

/-! ### Words of parts -/

theorem wordsAppend {a b : Text} (closed : Mentions (fun _ => True) a)
    (gap : ends a = true ∨ opens b = true) : words (a ++ b) = words a ++ words b := by
  obtain ⟨ws,w,before,_⟩ := closed
  rcases gap with stops | starts
  · obtain rfl := scanEnds stops before
    simp only [words,scanAppend,before]
    rcases scan (.code []) b with ⟨us,last⟩
    cases last <;> simp
  · -- The word that is open behind the first text ends where the second one starts.
    obtain ⟨us,alone,behind⟩ := scanOpens starts w
    generalize (scan (.code []) b).2 = last at alone behind
    simp only [words,scanAppend,before,alone,behind]
    cases last <;> simp [List.filter_cons] <;> split <;> simp

/-- Closed texts with the identifiers among some names that they have. -/
structure Naming (names : List Text) (t : Text) (found : List Text) : Prop where
  closed : Mentions (fun _ => True) t
  exactly : ∀ x ∈ names, x ∈ identifiers t ↔ x ∈ found

section Namings

variable {names found others : List Text} {a b t : Text}

theorem Naming.congr (naming : Naming names t found) (same : ∀ x, x ∈ found ↔ x ∈ others) :
    Naming names t others :=
  ⟨naming.closed,fun x mem => (naming.exactly x mem).trans (same x)⟩

theorem Naming.append (first : Naming names a found) (second : Naming names b others)
    (gap : ends a = true ∨ opens b = true) : Naming names (a ++ b) (found ++ others) := by
  refine ⟨mentionsAppend first.closed second.closed gap,fun x mem => ?_⟩
  rw [identifiers,wordsAppend first.closed gap,List.flatMap_append,List.mem_append,List.mem_append]
  exact or_congr (first.exactly x mem) (second.exactly x mem)

/-- Texts whose words are all foreign have none of the names. -/
theorem foreignNaming (foreign : Mentions (fun w => isForeign names w = true) t) :
    Naming names t [] := by
  refine ⟨foreign.imp fun _ _ => trivial,fun x mem => ⟨fun found => ?_,by simp⟩⟩
  obtain ⟨w,word,head⟩ := List.mem_flatMap.mp found
  have outside := List.all_eq_true.mp (mentionsWords foreign word) x head
  simp [mem] at outside

theorem wordNaming {w : Text} (plain : w.all isWordByte = true) (some : w ≠ []) :
    Naming names w (heads w) := by
  refine ⟨mentionsWord plain trivial,fun x _ => ?_⟩
  have scanned := scanPlain plain []
  simp only [List.nil_append] at scanned
  simp [identifiers,words,scanned,some]

theorem nilNaming : Naming names [] [] :=
  ⟨⟨[],[],rfl,trivial,by simp⟩,by simp [identifiers,words,scan]⟩

theorem Naming.joined {sep : Text} (between : Naming names sep []) (starts : opens sep = true)
    (stops : ends sep = true) {parts : List Text} {each : List (List Text)}
    (named : List.Forall₂ (Naming names) parts each) : Naming names (Text.join sep parts) each.flatten := by
  induction named with
  | nil => exact nilNaming
  | @cons first here rest more known others ih =>
    cases others with
    | nil => exact known.congr (by simp)
    | cons second tail =>
      have front := (known.append between (.inr starts)).append ih (.inl (endsAppend stops first))
      exact front.congr (by simp)

theorem stringNaming {s : String} {cs : List Char} (spelled : s = String.ofList cs)
    (pass : wordsPass (isForeign names) (cs.flatMap Text.ofChar) = true) :
    Naming names (Text.ofString s) [] :=
  foreignNaming (mentionsString (fun _ => id) spelled pass)

/-! ### Parts -/

/-- Parts of a text that can be read one after the other, with the names that they have: spelled parts
have none, and what stands between them may have some. -/
inductive Frame (names : List Text) : (inWord : Bool) → List Text → List Text → Prop where
  | done {inWord : Bool} : Frame names inWord [] []
  | last {inWord : Bool} {s : String} {cs : List Char} (spelled : s = String.ofList cs)
      (fits : partFits (isForeign names) inWord false cs = true) :
      Frame names inWord [Text.ofString s] []
  | fixed {inWord : Bool} {s : String} {cs : List Char} {rest found : List Text}
      (spelled : s = String.ofList cs) (fits : partFits (isForeign names) inWord true cs = true)
      (tail : Frame names false rest found) : Frame names inWord (Text.ofString s :: rest) found
  | text {t : Text} {rest here found : List Text} (known : Naming names t here)
      (tail : Frame names true rest found) : Frame names false (t :: rest) (here ++ found)

theorem Frame.naming {inWord : Bool} {parts : List Text} (frame : Frame names inWord parts found) :
    Naming names (Text.concat parts) found ∧
      (inWord = true → opens (Text.concat parts) = true ∨ Text.concat parts = []) := by
  have spelledPart {inWord stops : Bool} {s : String} {cs : List Char}
      (spelled : s = String.ofList cs) (fits : partFits (isForeign names) inWord stops cs = true) :
      Naming names (Text.ofString s) [] ∧ (inWord = true → opens (Text.ofString s) = true) ∧
        (stops = true → ends (Text.ofString s) = true) := by
    simp only [partFits,Bool.and_eq_true,Bool.or_eq_true,Bool.not_eq_true'] at fits
    obtain ⟨⟨starts,stop⟩,pass⟩ := fits
    have known := stringNaming spelled pass
    rw [← ofStringChars,← spelled] at starts stop
    exact ⟨known,fun asked => starts.resolve_left (by simp [asked]),
      fun asked => stop.resolve_left (by simp [asked])⟩
  induction frame with
  | done => exact ⟨nilNaming,fun _ => .inr rfl⟩
  | last spelled fits =>
    obtain ⟨known,starts,_⟩ := spelledPart spelled fits
    simp only [Text.concat,List.flatten_cons,List.flatten_nil,List.append_nil]
    exact ⟨known,fun asked => .inl (starts asked)⟩
  | fixed spelled fits tail ih =>
    obtain ⟨known,starts,stops⟩ := spelledPart spelled fits
    rw [Text.concat,List.flatten_cons]
    exact ⟨known.append ih.1 (.inl (stops rfl)),fun asked => .inl (opensAppend (starts asked) _)⟩
  | @text t rest here found known tail ih =>
    rw [Text.concat,List.flatten_cons]
    refine ⟨?_,fun asked => by contradiction⟩
    rcases ih.2 rfl with starts | none
    · exact known.append ih.1 (.inr starts)
    · have rest : rest.flatten = [] := none
      have empty : ∀ x ∈ names, x ∉ found := by
        intro x mem
        rw [← ih.1.exactly x mem,none]
        simp [identifiers,words,scan]
      rw [rest,List.append_nil]
      refine ⟨known.closed,fun x mem => ?_⟩
      rw [known.exactly x mem,List.mem_append]
      exact ⟨.inl,fun either => either.resolve_right (empty x mem)⟩

theorem frameNaming {parts : List Text} (frame : Frame names false parts found) :
    Naming names (Text.concat parts) found := frame.naming.1

/-! ### Expressions -/

theorem splitBytes {sep b : UInt8} {w part : Text} (mem : part ∈ Text.splitByte sep w) (inside : b ∈ part) :
    b ∈ w := by
  induction w generalizing part with
  | nil =>
    simp only [Text.splitByte,List.mem_singleton] at mem
    rwa [mem] at inside
  | cons byte w ih =>
    rw [Text.splitByte] at mem
    split at mem
    · rcases List.mem_cons.mp mem with rfl | later
      · contradiction
      · exact List.mem_cons_of_mem _ (ih later inside)
    · split at mem
      · rw [List.mem_singleton.mp mem,List.mem_singleton] at inside
        simp [inside]
      · rename_i piece pieces split
        rcases List.mem_cons.mp mem with rfl | later
        · rcases List.mem_cons.mp inside with rfl | inside
          · simp
          · exact List.mem_cons_of_mem _ (ih (by simp [split]) inside)
        · exact List.mem_cons_of_mem _ (ih (by simp [split,later]) inside)

theorem headBytes {w x : Text} (head : x ∈ heads w) : ∀ b ∈ x, b ∈ w := by
  intro b inside
  obtain ⟨part,mem,rfl⟩ := List.mem_map.mp head
  exact splitBytes mem (List.takeWhile_subset _ inside)

section Apart

variable (apart : ∀ x ∈ names, ∃ b ∈ x, isNumberByte b = false)

include apart

theorem numberNaming (number : t.all isNumberByte = true) : Naming names t [] := by
  refine foreignNaming (mentionsBytes number (by decide) fun w bytes => ?_)
  refine List.all_eq_true.mpr fun x head => ?_
  have other : x ∉ names := by
    intro mem
    obtain ⟨b,inside,letter⟩ := apart x mem
    rw [List.all_eq_true.mp bytes b (headBytes head b inside)] at letter
    contradiction
  simpa using other

theorem literalNaming (value : Text) : Naming names (literal value) [] := by
  refine foreignNaming (mentionsLiteral ?_ value)
  have empty : [] ∉ names := by
    intro mem
    obtain ⟨b,inside,_⟩ := apart [] mem
    contradiction
  simpa [isForeign,heads,Text.splitByte] using empty

end Apart

end Namings
end LogSql.Sql
