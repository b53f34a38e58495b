import LogSql.Storage.Basic
import LogSql.Time.Instant

/-!
What a program needs from the machine it runs on.
-/
namespace LogSql

/-- A place to type at. -/
structure Terminal (m : Type → Type) where
  isPresent : m Bool
  print : Text → m Unit
  /-- What is typed, unseen, or why it could not be read. -/
  readHidden : m (Except Text Text)

/-- The operations of a machine, in the monad in which they take place. -/
structure Host (m : Type → Type) where
  /-- The content of a file, if it can be read. -/
  read : Text → m (Option Text)
  /-- Writes a file, which only its owner may read where that is asked for; whether it could. -/
  write : (path : Text) → (isSecret : Bool) → (content : Text) → m Bool
  /-- Makes a folder and those above it; whether it is there now. -/
  makeFolder : Text → m Bool
  /-- Whether a path leads to anything. -/
  holds : Text → m Bool
  /-- The value of a variable of the surroundings, empty when it is not set. -/
  setting : Text → m Text
  /-- All of the standard input. -/
  input : m Text
  terminal : Terminal m
  now : m Instant
  /-- Bytes that nobody can guess. -/
  random : m Text
  /-- Connects to a database, or says why it cannot. -/
  dial : Storage.Options → m (Except Text (Storage.Database m))

end LogSql
