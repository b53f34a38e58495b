import LogSql.Sql.Render
import LogSql.Proofs.Sql.Literals
import LogSql.Proofs.Text.Strings

/-! The words of written expressions. A reader that skips string literals splits the rest of a text
into words, which are names, numbers and qualified names; parts of a text can be read on their own
wherever they meet at a byte that belongs to no word. -/
namespace LogSql.Sql

/-- The bytes of words. -/
def isWordByte (b : UInt8) : Bool := Text.isNamePart b || b = Text.byte '.' || b = Text.byte '*'

/-- Where a reader stands: in a word, in a literal, or behind a backslash in one. -/
inductive Mode where
  | code (word : Text)
  | quoted
  | escaped
  deriving DecidableEq, Repr

/-- Reads a byte: the word that ends before it, and where the reader stands then. -/
def Mode.step : Mode → UInt8 → List Text × Mode
  | code word, b =>
    if isWordByte b then ([], code (word ++ [b]))
    else ([word], if b = Text.byte '\'' then quoted else code [])
  | quoted, b =>
    ([], if b = Text.byte '\\' then escaped else if b = Text.byte '\'' then code [] else quoted)
  | escaped, _ => ([], quoted)

/-- Reads a text: the words that end in it, and where the reader stands then. -/
def scan : Mode → Text → List Text × Mode
  | m, [] => ([], m)
  | m, b :: rest => ((m.step b).1 ++ (scan (m.step b).2 rest).1, (scan (m.step b).2 rest).2)

/-- The words of a text outside its literals. -/
def words (t : Text) : List Text :=
  match scan (.code []) t with
  | (ws, .code w) => (ws ++ [w]).filter fun x => !x.isEmpty
  | (ws, _) => ws.filter fun x => !x.isEmpty

/-- Texts whose literals are closed and whose words all have a property. -/
def Mentions (P : Text → Prop) (t : Text) : Prop :=
  ∃ ws w, scan (.code []) t = (ws, .code w) ∧ P w ∧ ∀ x ∈ ws, P x

variable {P Q : Text → Prop} {a b t : Text}

theorem mentionsWords (mentions : Mentions P t) {w : Text} (mem : w ∈ words t) : P w := by
  obtain ⟨ws,last,scanned,final,each⟩ := mentions
  simp only [words,scanned,List.mem_filter,List.mem_append,List.mem_singleton] at mem
  rcases mem.1 with before | rfl
  · exact each w before
  · exact final

theorem Mentions.imp (mentions : Mentions P t) (more : ∀ w, P w → Q w) : Mentions Q t := by
  obtain ⟨ws,w,scanned,final,each⟩ := mentions
  exact ⟨ws,w,scanned,more w final,fun x mem => more x (each x mem)⟩

/-! ### Parts of texts -/

theorem scanAppend (m : Mode) (a b : Text) :
    scan m (a ++ b) = ((scan m a).1 ++ (scan (scan m a).2 b).1, (scan (scan m a).2 b).2) := by
  induction a generalizing m with
  | nil => rfl
  | cons byte a ih => simp [scan,ih]

/-- Texts that start with a byte that belongs to no word. -/
def opens : Text → Bool
  | [] => false
  | b :: _ => !isWordByte b

/-- Texts that end with a byte that belongs to no word. -/
def ends (t : Text) : Bool := opens t.reverse

@[simp] theorem opensAppend (starts : opens b = true) (rest : Text) : opens (b ++ rest) = true := by
  cases b with
  | nil => contradiction
  | cons byte b => exact starts

@[simp] theorem endsAppend (stops : ends b = true) (before : Text) : ends (before ++ b) = true := by
  simp only [ends,List.reverse_append]
  exact opensAppend stops _

/-- A word before such a text ends there. -/
theorem scanOpens (starts : opens t = true) (word : Text) :
    ∃ ws, scan (.code []) t = ([] :: ws, (scan (.code []) t).2) ∧
      scan (.code word) t = (word :: ws, (scan (.code []) t).2) := by
  cases t with
  | nil => contradiction
  | cons byte rest =>
    have outside : isWordByte byte = false := by simpa [opens] using starts
    refine ⟨(scan (if byte = Text.byte '\'' then .quoted else .code []) rest).1,?_,?_⟩
    · simp [scan,Mode.step,outside]
    · simp [scan,Mode.step,outside]

/-- Behind such a text no word is open. -/
theorem scanEnds (stops : ends t = true) {m : Mode} {ws : List Text} {w : Text}
    (scanned : scan m t = (ws, .code w)) : w = [] := by
  obtain ⟨byte,before,reversed⟩ : ∃ byte before, t.reverse = byte :: before := by
    cases split : t.reverse with
    | nil => simp [ends,split,opens] at stops
    | cons byte before => exact ⟨byte,before,rfl⟩
  have outside : isWordByte byte = false := by simpa [ends,reversed,opens] using stops
  obtain rfl : t = before.reverse ++ [byte] := by
    rw [← List.reverse_inj,reversed]
    simp
  rw [scanAppend] at scanned
  generalize (scan m before.reverse).2 = last at scanned
  have final : (last.step byte).2 = .code w := congrArg Prod.snd scanned
  cases last with
  | code word =>
    simp only [Mode.step,outside,Bool.false_eq_true,if_false] at final
    split at final
    · contradiction
    · exact (Mode.code.inj final).symm
  | quoted =>
    simp only [Mode.step] at final
    split at final
    · contradiction
    · split at final
      · exact (Mode.code.inj final).symm
      · contradiction
  | escaped => contradiction

theorem mentionsAppend (first : Mentions P a) (second : Mentions P b)
    (gap : ends a = true ∨ opens b = true) : Mentions P (a ++ b) := by
  obtain ⟨ws,w,before,final,each⟩ := first
  obtain ⟨us,u,after,last,others⟩ := second
  rcases gap with stops | starts
  · obtain rfl := scanEnds stops before
    refine ⟨ws ++ us,u,by rw [scanAppend,before,after],last,fun x mem => ?_⟩
    rcases List.mem_append.mp mem with left | right
    · exact each x left
    · exact others x right
  · obtain ⟨vs,alone,behind⟩ := scanOpens starts w
    rw [after] at alone behind
    obtain ⟨rfl,_⟩ := Prod.mk.inj alone
    refine ⟨ws ++ w :: vs,u,by rw [scanAppend,before,behind],last,fun x mem => ?_⟩
    rcases List.mem_append.mp mem with left | right
    · exact each x left
    · rcases List.mem_cons.mp right with rfl | later
      · exact final
      · exact others x (List.mem_cons_of_mem _ later)

theorem mentionsJoin {sep : Text} {parts : List Text} (each : ∀ part ∈ parts, Mentions P part)
    (empty : Mentions P []) (between : Mentions P sep) (starts : opens sep = true)
    (stops : ends sep = true) : Mentions P (Text.join sep parts) := by
  induction parts with
  | nil => exact empty
  | cons first rest ih =>
    have head := each first List.mem_cons_self
    have tail := ih fun part mem => each part (List.mem_cons_of_mem first mem)
    cases rest with
    | nil => exact head
    | cons second others =>
      exact mentionsAppend (mentionsAppend head between (.inr starts)) tail
        (.inl (endsAppend stops first))

/-! ### Texts that are known -/

theorem scanPlain {t : Text} (plain : t.all isWordByte = true) (word : Text) :
    scan (.code word) t = ([], .code (word ++ t)) := by
  induction t generalizing word with
  | nil => simp [scan]
  | cons byte t ih =>
    simp only [List.all_cons,Bool.and_eq_true] at plain
    simp [scan,Mode.step,plain.1,ih plain.2]

theorem mentionsWord {w : Text} (plain : w.all isWordByte = true) (known : P w) : Mentions P w :=
  ⟨[],w,by simpa using scanPlain plain [],known,by simp⟩

theorem escapedScan {byte : UInt8} {written : Text} (escaped : Escaped byte written) :
    scan .quoted written = ([], .quoted) := by
  cases escaped with
  | sign x stands => rfl
  | plain slash quote => simp [scan,Mode.step,slash,quote]

theorem mentionsLiteral (empty : P []) (value : Text) : Mentions P (literal value) := by
  have inside : scan .quoted (value.flatMap escapeByte) = ([], .quoted) := by
    induction value with
    | nil => rfl
    | cons byte value ih =>
      rw [List.flatMap_cons,scanAppend,escapedScan (byteEscaped byte),ih]
      rfl
  refine ⟨[[]],[],?_,empty,by simpa using empty⟩
  rw [literal,List.cons_append,scan]
  have open_ : Mode.step (.code []) (Text.byte '\'') = ([[]], .quoted) := rfl
  rw [open_,scanAppend,inside]
  rfl

/-- Texts whose bytes all have a property that quotes do not have mention only words of such bytes. -/
theorem mentionsBytes {p : UInt8 → Bool} (all : t.all p = true) (quote : p (Text.byte '\'') = false)
    (each : ∀ w : Text, w.all p = true → P w) : Mentions P t := by
  have general (word : Text) (before : word.all p = true) :
      ∃ ws w, scan (.code word) t = (ws, .code w) ∧ P w ∧ ∀ x ∈ ws, P x := by
    induction t generalizing word with
    | nil => exact ⟨[],word,rfl,each word before,by simp⟩
    | cons byte t ih =>
      simp only [List.all_cons,Bool.and_eq_true] at all
      by_cases inside : isWordByte byte = true
      · obtain ⟨ws,w,scanned,rest⟩ := ih all.2 (word ++ [byte]) (by simp [before,all.1])
        exact ⟨ws,w,by simp [scan,Mode.step,inside,scanned],rest⟩
      · have other : byte ≠ Text.byte '\'' := by
          rintro rfl
          simp [quote] at all
        obtain ⟨ws,w,scanned,final,others⟩ := ih all.2 [] rfl
        refine ⟨word :: ws,w,by simp [scan,Mode.step,inside,other,scanned],final,fun x mem => ?_⟩
        rcases List.mem_cons.mp mem with rfl | later
        · exact each x before
        · exact others x later
  exact general [] rfl

/-- Whether a text read from here on closes its literals and has only words that pass a test. -/
def Mode.passes (p : Text → Bool) : Mode → Text → Bool
  | code word, [] => p word
  | _, [] => false
  | m, b :: rest =>
    match m.step b with
    | (ws, next) => ws.all p && passes p next rest

/-- Whether all words of a text pass a test. -/
def wordsPass (p : Text → Bool) (t : Text) : Bool := Mode.passes p (.code []) t

theorem mentionsFixed {p : Text → Bool} (sound : ∀ w, p w = true → P w)
    (pass : wordsPass p t = true) : Mentions P t := by
  have general (t : Text) (m : Mode) (pass : m.passes p t = true) :
      ∃ ws w, scan m t = (ws, .code w) ∧ P w ∧ ∀ x ∈ ws, P x := by
    induction t generalizing m with
    | nil =>
      cases m with
      | code word => exact ⟨[],word,rfl,sound word pass,by simp⟩
      | quoted => contradiction
      | escaped => contradiction
    | cons byte t ih =>
      rw [Mode.passes,Bool.and_eq_true] at pass
      obtain ⟨ws,w,scanned,final,each⟩ := ih _ pass.2
      refine ⟨(m.step byte).1 ++ ws,w,by rw [scan,scanned],final,fun x mem => ?_⟩
      rcases List.mem_append.mp mem with here | later
      · exact sound x (List.all_eq_true.mp pass.1 x here)
      · exact each x later
  exact general t _ pass

/-! ### Templates -/

theorem ofStringChars (cs : List Char) :
    Text.ofString (String.ofList cs) = cs.flatMap Text.ofChar := by
  rw [Text.ofString,String.toList_ofList]

/-- Whether the words of a spelled part pass a test, and whether it starts and ends outside words where
it has to. -/
def partFits (p : Text → Bool) (starts stops : Bool) (cs : List Char) : Bool :=
  (!starts || opens (cs.flatMap Text.ofChar)) && (!stops || ends (cs.flatMap Text.ofChar)) &&
    wordsPass p (cs.flatMap Text.ofChar)

/-- Parts of a text that can be read one after the other: spelled parts whose words pass a test, and
between them texts that mention only words with a property. -/
inductive Template (p : Text → Bool) (P : Text → Prop) : (inWord : Bool) → List Text → Prop where
  | done {inWord : Bool} : Template p P inWord []
  | last {inWord : Bool} {s : String} {cs : List Char} (spelled : s = String.ofList cs)
      (fits : partFits p inWord false cs = true) : Template p P inWord [Text.ofString s]
  | fixed {inWord : Bool} {s : String} {cs : List Char} {rest : List Text}
      (spelled : s = String.ofList cs) (fits : partFits p inWord true cs = true)
      (tail : Template p P false rest) : Template p P inWord (Text.ofString s :: rest)
  | text {t : Text} {rest : List Text} (known : Mentions P t) (tail : Template p P true rest) :
      Template p P false (t :: rest)

section Templates

variable {p : Text → Bool} (sound : ∀ w, p w = true → P w)

include sound

theorem mentionsString {s : String} {cs : List Char} (spelled : s = String.ofList cs)
    (pass : wordsPass p (cs.flatMap Text.ofChar) = true) : Mentions P (Text.ofString s) := by
  rw [spelled,ofStringChars]
  exact mentionsFixed sound pass

theorem Template.after {inWord : Bool} {parts : List Text} (template : Template p P inWord parts)
    {before : Text} (read : Mentions P before)
    (outside : inWord = false → ends before = true ∨ before = []) :
    Mentions P (before ++ Text.concat parts) := by
  -- The text read so far grows by one part after the other; it ends in a word only behind a text.
  have joined {before t : Text} (read : Mentions P before) (known : Mentions P t)
      (gap : (ends before = true ∨ before = []) ∨ opens t = true) : Mentions P (before ++ t) := by
    rcases gap with (stops | rfl) | starts
    · exact mentionsAppend read known (.inl stops)
    · exact known
    · exact mentionsAppend read known (.inr starts)
  have spelledPart {before : Text} {inWord stops : Bool} {s : String} {cs : List Char}
      (read : Mentions P before) (outside : inWord = false → ends before = true ∨ before = [])
      (spelled : s = String.ofList cs) (fits : partFits p inWord stops cs = true) :
      Mentions P (before ++ Text.ofString s) ∧ (stops = true → ends (Text.ofString s) = true) := by
    simp only [partFits,Bool.and_eq_true,Bool.or_eq_true,Bool.not_eq_true'] at fits
    obtain ⟨⟨starts,stop⟩,pass⟩ := fits
    have known := mentionsString sound spelled pass
    rw [← ofStringChars,← spelled] at starts stop
    refine ⟨joined read known (starts.imp outside id),fun asked => stop.resolve_left ?_⟩
    simp [asked]
  induction template generalizing before with
  | done => simpa [Text.concat] using read
  | last spelled fits => simpa [Text.concat] using (spelledPart read outside spelled fits).1
  | @fixed inWord s cs rest spelled fits tail ih =>
    obtain ⟨known,stops⟩ := spelledPart read outside spelled fits
    have whole := ih known fun _ => .inl (endsAppend (stops rfl) before)
    simpa [Text.concat] using whole
  | @text t rest known tail ih =>
    have whole := ih (joined read known (.inl (outside rfl))) fun inside => by contradiction
    simpa [Text.concat] using whole

theorem Template.mentions (empty : P []) {parts : List Text} (template : Template p P false parts) :
    Mentions P (Text.concat parts) :=
  template.after sound ⟨[],[],rfl,empty,by simp⟩ fun _ => .inr rfl

end Templates
end LogSql.Sql
