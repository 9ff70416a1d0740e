import Scaffold.Text.Quoted

/-!
# Log

Records of what a run did.  They are made whatever the verbosity; it only selects which of them are
shown.
-/

namespace Scaffold

inductive Level where
  | debug
  | info
  | warning
  deriving DecidableEq, Repr

namespace Level

def label : Level → String
  | debug => "DEBUG"
  | info => "INFO"
  | warning => "WARNING"

def rank : Level → Nat
  | debug => 0
  | info => 1
  | warning => 2

end Level

structure Record where
  level : Level
  source : String
  message : String
  deriving DecidableEq, Repr

/-- Records in the order of time. -/
abbrev Log := List Record

/-- How much of the log is shown. -/
inductive Verbosity where
  | silent
  | atLeast (level : Level)
  deriving DecidableEq, Repr

namespace Verbosity

/-- More mentions show more; `quiet` wins over all of them. -/
def ofFlags (quiet : Bool) (verbose : Nat) : Verbosity :=
  if quiet then .silent
  else
    match verbose with
    | 0 => .atLeast .warning
    | 1 => .atLeast .info
    | _ => .atLeast .debug

def shows (v : Verbosity) (record : Record) : Bool :=
  match v with
  | .silent => false
  | .atLeast level => level.rank ≤ record.level.rank

end Verbosity

namespace Record

/-- The name of the command, which is the root of the names of all sources. -/
def command : String := "ichigen"

/-- A record of a part of the command. -/
def ofPart (level : Level) (part message : String) : Record :=
  ⟨level, command ++ "." ++ part, message⟩

def ofCommand (level : Level) (message : String) : Record := ⟨level, command, message⟩

/-- The level in a column of its own. -/
def column (label : String) : String :=
  label ++ String.ofList (List.replicate (8 - label.length) ' ')

/-- The line of a record; every record has the same time. -/
def line (r : Record) : String :=
  s!"00:00:00 │ {column r.level.label} │ {r.source} │ {r.message}\n"

end Record

/-- The lines that are shown. -/
def Log.text (log : Log) (v : Verbosity) : String :=
  String.join ((log.filter v.shows).map Record.line)

end Scaffold
