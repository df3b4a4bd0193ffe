/-!
# Logged computations

A computation may report events beside its value. An event is whatever the reporting part of
the library defines; for a reader it becomes a `LogEntry` with a level, a message and named
fields.
-/

namespace FrontEnd

inductive Level where
  | trace
  | debug
  | warn
  deriving DecidableEq

def Level.toText : Level → String
  | trace => "TRACE"
  | debug => "DEBUG"
  | warn => "WARN"

inductive FieldValue where
  | text (value : String)
  | number (value : Int)

/-- An event as it is written to a log. -/
structure LogEntry where
  level : Level
  message : String
  fields : List (String × FieldValue)

/-- A value and the events reported on the way to it, oldest first. -/
structure Logged (ε α : Type) where
  value : α
  events : List ε

namespace Logged

variable {ε α β : Type}

def silent (value : α) : Logged ε α := ⟨value, []⟩

@[inline] def map (f : α → β) (x : Logged ε α) : Logged ε β := ⟨f x.value, x.events⟩

@[simp] theorem value_silent (a : α) : (silent a : Logged ε α).value = a := rfl

@[simp] theorem events_silent (a : α) : (silent a : Logged ε α).events = [] := rfl

@[simp] theorem value_map (f : α → β) (x : Logged ε α) : (x.map f).value = f x.value := rfl

@[simp] theorem events_map (f : α → β) (x : Logged ε α) : (x.map f).events = x.events := rfl

end Logged

end FrontEnd
