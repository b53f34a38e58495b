import LogSql.Tables
import LogSql.Proofs.Text.Strings
import Mathlib.Data.List.Induction

/-! The tables of checked configurations. All names that a policy can give are identifiers, so that they
can be written into a statement as they are. But a database may be two names, and then a table without a
database of its own is written with three. -/
namespace LogSql.Tables

/-- The bytes of identifiers. -/
def isTableByte (b : UInt8) : Bool := Text.isNamePart b || b = Text.byte '.'

theorem splitCovers (sep : UInt8) (t : Text) :
    ∀ b ∈ t, b = sep ∨ ∃ part ∈ Text.splitByte sep t, b ∈ part := by
  induction t with
  | nil => simp
  | cons first t ih =>
    intro b mem
    by_cases same : first = sep
    · rw [Text.splitByte,if_pos same]
      rcases List.mem_cons.mp mem with rfl | later
      · exact .inl same
      · obtain stop | ⟨part,inside,found⟩ := ih b later
        · exact .inl stop
        · exact .inr ⟨part,List.mem_cons_of_mem _ inside,found⟩
    · rw [Text.splitByte,if_neg same]
      rcases List.mem_cons.mp mem with rfl | later
      · cases Text.splitByte sep t <;> simp
      · obtain stop | ⟨part,inside,found⟩ := ih b later
        · exact .inl stop
        refine .inr ?_
        cases split : Text.splitByte sep t with
        | nil => simp [split] at inside
        | cons piece pieces =>
          rw [split] at inside
          rcases List.mem_cons.mp inside with rfl | other
          · exact ⟨first :: part,List.mem_cons_self,List.mem_cons_of_mem _ found⟩
          · exact ⟨part,List.mem_cons_of_mem _ other,found⟩

theorem identifierBytes {t : Text} (known : isIdentifier t = true) : t.all isTableByte = true := by
  rw [List.all_eq_true]
  intro b mem
  have named {part : Text} (name : Text.isName part = true) (found : b ∈ part) : isTableByte b = true := by
    obtain ⟨_,_,_,_,parts⟩ := Text.nameParts name
    simp [isTableByte,parts b found]
  rcases splitCovers (Text.byte '.') t b mem with rfl | ⟨part,inside,found⟩
  · decide
  · unfold isIdentifier at known
    split at known
    · rename_i name split
      rw [split,List.mem_singleton] at inside
      exact named known (inside ▸ found)
    · rename_i database name split
      simp only [Bool.and_eq_true] at known
      simp only [split,List.mem_cons,List.not_mem_nil,or_false] at inside
      rcases inside with rfl | rfl
      · exact named known.1 found
      · exact named known.2 found
    · contradiction

/-! ### Partitions -/

theorem partitionsAccepted {i : Nat} {ps : List Partition} :
    checkPartitions i ps = .ok () ↔
      ∀ p ∈ ps, isIdentifier p.table = true ∧ p.since ≠ Instant.unset := by
  induction ps generalizing i with
  | nil => simp [checkPartitions]
  | cons p ps ih =>
    rw [checkPartitions,List.forall_mem_cons]
    split
    · rename_i unknown
      simp [show isIdentifier p.table = false by simpa using unknown]
    rename_i known
    split
    · rename_i missing
      simp [missing]
    · rename_i given
      simpa [given,ih] using fun _ => known

theorem insertPerm (p : Partition) (ps : List Partition) : (insertPartition p ps).Perm (p :: ps) := by
  induction ps with
  | nil => rfl
  | cons q ps ih =>
    rw [insertPartition]
    split
    · rfl
    · exact (ih.cons q).trans (.swap p q ps)

theorem sortSnoc (ps : List Partition) (p : Partition) :
    sortPartitions (ps ++ [p]) = insertPartition p (sortPartitions ps) := by
  rw [sortPartitions,List.foldl_append]
  rfl

theorem sortPerm (ps : List Partition) : (sortPartitions ps).Perm ps := by
  induction ps using List.reverseRecOn with
  | nil => rfl
  | append_singleton ps p ih =>
    rw [sortSnoc]
    exact (insertPerm p _).trans ((ih.cons p).trans (List.perm_append_singleton p ps).symm)

/-- Whether a partition has started by a number of milliseconds. -/
def Partition.started (ms : Int) (p : Partition) : Bool := Instant.millis p.since ≤ ms

/-! ### Policies -/

namespace Config

/-- The samples table, with the default for a missing name. -/
def samplesName (c : Config) : Text := if c.samples.isEmpty then defaultSamples else c.samples

/-- The label table, with the default for a missing name. -/
def timeSeriesName (c : Config) : Text :=
  if c.timeSeries.isEmpty then defaultTimeSeries else c.timeSeries

/-- Configurations whose names are identifiers, with a start for every partition. -/
structure Accepted (c : Config) : Prop where
  database : c.database = [] ∨ isIdentifier c.database = true
  samples : isIdentifier c.samplesName = true
  timeSeries : isIdentifier c.timeSeriesName = true
  partitions : ∀ p ∈ c.partitions, isIdentifier p.table = true ∧ p.since ≠ Instant.unset

/-- The policy of an accepted configuration. -/
def policy (c : Config) : Policy where
  database := c.database
  samples := c.samplesName
  timeSeries := c.timeSeriesName
  partitions := sortPartitions c.partitions
  datedSince := if c.datedSince = Instant.unset then 0 else Instant.millis c.datedSince

end Config

namespace Policy

/-- Policies whose names are identifiers; there may be no database. -/
structure Checked (p : Policy) : Prop where
  database : p.database = [] ∨ isIdentifier p.database = true
  samples : isIdentifier p.samples = true
  timeSeries : isIdentifier p.timeSeries = true
  partitions : ∀ q ∈ p.partitions, isIdentifier q.table = true

theorem ofConfigOk {c : Config} {p : Policy} :
    ofConfig c = .ok p ↔ c.Accepted ∧ p = c.policy := by
  unfold ofConfig
  dsimp only
  rw [← Config.samplesName,← Config.timeSeriesName]
  constructor
  · intro ok
    split at ok
    · contradiction
    rename_i database
    split at ok
    · contradiction
    rename_i samples
    split at ok
    · contradiction
    rename_i timeSeries
    cases partitions : checkPartitions 0 c.partitions with
    | error err =>
      rw [partitions] at ok
      contradiction
    | ok done =>
      rw [partitions] at ok
      cases ok
      refine ⟨⟨?_,by simpa using samples,by simpa using timeSeries,partitionsAccepted.mp partitions⟩,rfl⟩
      exact Decidable.or_iff_not_imp_left.mpr (by simpa using database)
  · rintro ⟨accepted,rfl⟩
    have database : (!c.database.isEmpty && !isIdentifier c.database) = false := by
      rcases accepted.database with none | known
      · simp [none]
      · simp [known]
    rw [database,accepted.samples,accepted.timeSeries,partitionsAccepted.mpr accepted.partitions]
    rfl

theorem ofConfigChecked {c : Config} {p : Policy} (ok : ofConfig c = .ok p) : p.Checked := by
  obtain ⟨accepted,rfl⟩ := ofConfigOk.mp ok
  exact ⟨accepted.database,accepted.samples,accepted.timeSeries,
    fun q mem => (accepted.partitions q ((sortPerm _).mem_iff.mp mem)).1⟩

theorem qualifyBytes {p : Policy} (checked : p.Checked) {table : Text}
    (known : isIdentifier table = true) : (p.qualify table).all isTableByte = true := by
  have bytes := identifierBytes known
  rw [qualify]
  split
  · exact bytes
  · rename_i named
    have database := checked.database.resolve_left fun none => named (.inl (by simp [none]))
    have point : (Text.ofString ".").all isTableByte = true := by decide
    simp [Text.concat,identifierBytes database,bytes,point]

/-- The partition that is found for a window starting at `ms`. -/
def selected (p : Policy) (ms : Int) : Option Partition := p.partitions.find? (Partition.started ms)

/-- The samples table of a window, without the database. -/
def tableName (p : Policy) (ms : Int) : Text :=
  ((p.selected ms).map Partition.table).getD p.samples

theorem tableQualified (p : Policy) (ms : Int) : p.tableFor ms = p.qualify (p.tableName ms) := by
  have same : p.partitions.find? (fun q => Instant.millis q.since ≤ ms) = p.selected ms := rfl
  rw [tableFor,tableName,same]
  cases p.selected ms <;> rfl

theorem tableKnown {p : Policy} (checked : p.Checked) (ms : Int) :
    isIdentifier (p.tableName ms) = true := by
  rw [tableName]
  cases found : p.selected ms with
  | none => exact checked.samples
  | some q => exact checked.partitions q (List.mem_of_find?_eq_some found)

/-- The tables of a checked policy are written in bytes of identifiers. -/
theorem tableBytes {p : Policy} (checked : p.Checked) (ms : Int) :
    (p.tableFor ms).all isTableByte = true ∧ p.timeSeriesTable.all isTableByte = true := by
  refine ⟨?_,qualifyBytes checked checked.timeSeries⟩
  rw [tableQualified]
  exact qualifyBytes checked (tableKnown checked ms)

end Policy

/-! ### Identifiers -/

theorem nameApart {t : Text} (name : Text.isName t = true) : Text.byte '.' ∉ t := by
  obtain ⟨_,_,_,_,parts⟩ := Text.nameParts name
  exact fun mem => absurd (parts _ mem) (by decide)

theorem identifierNames {t : Text} : isIdentifier t = true ↔
    Text.isName t = true ∨
      ∃ a b, t = a ++ Text.byte '.' :: b ∧ Text.isName a = true ∧ Text.isName b = true := by
  constructor
  · intro known
    have whole := Text.joinSplit (Text.byte '.') t
    unfold isIdentifier at known
    split at known
    · rename_i name split
      rw [split] at whole
      exact .inl (whole ▸ known)
    · rename_i database name split
      rw [split] at whole
      rw [Bool.and_eq_true] at known
      exact .inr ⟨database,name,by rw [← whole]; simp [Text.join],known.1,known.2⟩
    · contradiction
  · rintro (name | ⟨a,b,rfl,first,second⟩)
    · rw [isIdentifier,Text.splitAbsent (nameApart name)]
      exact name
    · rw [isIdentifier,Text.splitFront (nameApart first),Text.splitAbsent (nameApart second)]
      exact Bool.and_eq_true_iff.mpr ⟨first,second⟩

theorem identifierSingle {t : Text} (known : isIdentifier t = true) (apart : Text.byte '.' ∉ t) :
    Text.isName t = true := by
  rcases identifierNames.mp known with name | ⟨a,b,rfl,_⟩
  · exact name
  · exact absurd (by simp) apart

theorem containsPoint {t : Text} : t.contains "." = true ↔ Text.byte '.' ∈ t := by
  have point : Text.ofString "." = [Text.byte '.'] := by decide
  rw [Text.contains,point,Option.isSome_iff_ne_none,Ne,Text.cutNone,not_not]

/-! ### Tables with their database -/

/-- How a table is written with its database. -/
inductive Written (database table : Text) : Text → Prop where
  | alone (apart : database = [] ∨ Text.byte '.' ∈ table) (known : isIdentifier table = true) :
      Written database table table
  | pair (outer : Text.isName database = true) (inner : Text.isName table = true) :
      Written database table (database ++ Text.byte '.' :: table)
  | triple {a b : Text} (names : database = a ++ Text.byte '.' :: b) (first : Text.isName a = true)
      (second : Text.isName b = true) (inner : Text.isName table = true) :
      Written database table (a ++ Text.byte '.' :: (b ++ Text.byte '.' :: table))

theorem Written.identifier {database table t : Text} (written : Written database table t) :
    isIdentifier t = true ↔ Text.byte '.' ∉ database ∨ Text.byte '.' ∈ table := by
  cases written with
  | alone apart known =>
    refine iff_of_true known (apart.imp (fun none => ?_) id)
    simp [none]
  | pair outer inner =>
    exact iff_of_true (identifierNames.mpr (.inr ⟨_,_,rfl,outer,inner⟩)) (.inl (nameApart outer))
  | triple names first second inner =>
    refine iff_of_false (fun known => ?_) (not_or.mpr ⟨by simp [names],nameApart inner⟩)
    rw [isIdentifier,Text.splitFront (nameApart first),Text.splitFront (nameApart second),
      Text.splitAbsent (nameApart inner)] at known
    contradiction

theorem qualifyWritten {p : Policy} (checked : p.Checked) {table : Text}
    (known : isIdentifier table = true) : Written p.database table (p.qualify table) := by
  rw [Policy.qualify]
  split
  · rename_i apart
    exact .alone (apart.imp List.isEmpty_iff.mp containsPoint.mp) known
  · rename_i other
    rw [not_or,containsPoint] at other
    have inner := identifierSingle known other.2
    have outer := checked.database.resolve_left fun none => other.1 (List.isEmpty_iff.mpr none)
    have whole : Text.concat [p.database,".",table] = p.database ++ Text.byte '.' :: table := by
      simp [Text.concat,show Text.ofString "." = [Text.byte '.'] by decide]
    rw [whole]
    rcases identifierNames.mp outer with name | ⟨a,b,names,first,second⟩
    · exact .pair name inner
    · rw [names,List.append_assoc,List.cons_append]
      exact names ▸ .triple names first second inner

/-- Tables are written as a name, as two names with a point between them, or as three where the
database has two and the table has none of its own. Only the last are no identifiers. -/
theorem tablesNamed {c : Config} {p : Policy} (ok : Policy.ofConfig c = .ok p) (ms : Int) :
    Written c.database (p.tableName ms) (p.tableFor ms) ∧
    Written c.database c.timeSeriesName p.timeSeriesTable ∧
    (isIdentifier (p.tableFor ms) = true ↔
      Text.byte '.' ∉ c.database ∨ Text.byte '.' ∈ p.tableName ms) ∧
    (isIdentifier p.timeSeriesTable = true ↔
      Text.byte '.' ∉ c.database ∨ Text.byte '.' ∈ c.timeSeriesName) := by
  have checked := Policy.ofConfigChecked ok
  obtain ⟨_,rfl⟩ := Policy.ofConfigOk.mp ok
  have samples : Written c.database (c.policy.tableName ms) (c.policy.tableFor ms) := by
    rw [Policy.tableQualified]
    exact qualifyWritten checked (Policy.tableKnown checked ms)
  have timeSeries := qualifyWritten checked checked.timeSeries
  exact ⟨samples,timeSeries,samples.identifier,timeSeries.identifier⟩

/-- A database of two names is accepted. -/
def nestedDatabase : Config where
  database := "a.b"

/-- Its tables have three names. -/
theorem nestedNamed : Policy.ofConfig nestedDatabase = .ok nestedDatabase.policy ∧
    nestedDatabase.policy.tableFor 0 = Text.ofString "a.b.samples_v3" ∧
    isIdentifier (nestedDatabase.policy.tableFor 0) = false ∧
    isIdentifier nestedDatabase.policy.timeSeriesTable = false := by
  have ok : Policy.ofConfig nestedDatabase = .ok nestedDatabase.policy := by decide +kernel
  obtain ⟨_,_,samples,timeSeries⟩ := tablesNamed ok 0
  refine ⟨ok,by decide +kernel,Bool.eq_false_iff.mpr ?_,Bool.eq_false_iff.mpr ?_⟩
  · exact samples.not.mpr (by decide +kernel)
  · exact timeSeries.not.mpr (by decide +kernel)

end LogSql.Tables
