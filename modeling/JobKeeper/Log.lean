/-
  File:      JobKeeper/Log.lean
  Subject:   Log levels and log lines. What the program would log it returns as data.
-/
import JobKeeper.Text.Blank
import JobKeeper.Text.Unsigned

namespace JobKeeper

namespace Log

/-! ## 1. Levels -/

/-- How much a line matters, the most detailed first. -/
inductive Level where
  | trace
  | debug
  | info
  | warn
  | error
  deriving DecidableEq, Repr

namespace Level

def name : Level → String
  | .trace => "TRACE"
  | .debug => "DEBUG"
  | .info => "INFO"
  | .warn => "WARN"
  | .error => "ERROR"

def all : List Level := [.trace, .debug, .info, .warn, .error]

/-- The level of a number: one is the least detailed, five the most. -/
def ofNumber? : Nat → Option Level
  | 1 => some .error
  | 2 => some .warn
  | 3 => some .info
  | 4 => some .debug
  | 5 => some .trace
  | _ => none

/-- The same text with the letters of the ASCII alphabet in upper case. -/
def asciiUpper (s : String) : String := String.ofList (s.toList.map Char.toUpper)

/-- The level of a text: a number, or a name in letters of either case; blanks around it do not
    count. -/
def ofText? (s : String) : Option Level :=
  let t := Text.trim s
  match Text.Unsigned.read 0xFFFFFFFFFFFFFFFF t with
  | .ok n => ofNumber? n
  | .error _ => all.find? fun level => level.name == asciiUpper t

/-- How much a level matters. -/
def rank : Level → Nat
  | .trace => 0
  | .debug => 1
  | .info => 2
  | .warn => 3
  | .error => 4

/-- What is said of a text that is no level. -/
def unknownMessage (s : String) : String :=
  "unknown log level `" ++ s ++ "` (expected trace, debug, info, warn or error)"

end Level

/-! ## 2. Lines -/

/-- A line of the log. -/
structure Line where
  level : Level
  message : String
  deriving DecidableEq, Repr

namespace Line

def info (message : String) : Line := ⟨.info, message⟩

def warn (message : String) : Line := ⟨.warn, message⟩

def error (message : String) : Line := ⟨.error, message⟩

/-- The line as text. -/
def text (l : Line) : String := l.level.name ++ " " ++ l.message

/-- The lines that matter at least as much as a level. -/
def above (level : Level) (lines : List Line) : List Line :=
  lines.filter fun l => level.rank ≤ l.level.rank

end Line

end Log

end JobKeeper
