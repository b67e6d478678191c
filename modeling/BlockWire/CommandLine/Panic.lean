/-!
# Panics

A program that is cut short does not end in silence.  It says on the standard
error in which thread and where in its text this happened, and why, and lists
the calls that had led there if the surroundings ask for them.
-/

namespace BlockWire.CommandLine

/-- What a program has to say that is cut short. -/
structure Panic where
  /-- Where in the text of the program it happened. -/
  place : String
  message : String
  /-- The calls that had not come back, innermost first. -/
  calls : List String
  deriving DecidableEq, Repr

/-- What shows of the surroundings of a program that is cut short. -/
structure Surroundings where
  /-- The number of the main thread. -/
  thread : Nat
  /-- The directory that the text of the program was in. -/
  directory : String := ""
  /-- Whether the calls are to be listed. -/
  traced : Bool := false
  deriving DecidableEq, Repr

namespace Panic

/-- A deadline was computed that the clock cannot show, for a client that was
to connect; `callers` are the calls that had led to this. -/
def ofDeadline (callers : List String) : Panic where
  place := "src/network/session.rs:39:40"
  message := "overflow when adding duration to instant"
  calls :=
    ["__rustc::rust_begin_unwind", "core::panicking::panic_fmt",
      "core::option::expect_failed",
      "<std::time::Instant as " ++
        "core::ops::arith::Add<core::time::Duration>>::add",
      "<smmclient::network::session::Session>::open",
      "<smmclient::network::client::Client>::connect"] ++ callers

/-- A single command that was to connect was cut short. -/
def ofCommand : Panic :=
  ofDeadline
    ["<smmclient::network::client::Client>::with_config_session::" ++
        "<smmclient::shell::Outcome, smm_cli::run::\x7bclosure#0\x7d>",
      "smm_cli::main"]

/-- A dialogue that was to connect was cut short. -/
def ofDialogue : Panic :=
  ofDeadline ["smm_cli::main"]

/-- The line of a call in a list of calls. -/
def callLine (call : String) (number : Nat) : String :=
  "".pushn ' ' (4 - (toString number).length) ++ s!"{number}: {call}\n"

/-- The list of calls, or how to have one. -/
def trace (traced : Bool) (panic : Panic) : String :=
  if traced then
    "stack backtrace:\n" ++
      String.join (panic.calls.mapIdx fun number call =>
        callLine call number) ++
      "note: Some details are omitted, " ++
      "run with `RUST_BACKTRACE=full` for a verbose backtrace.\n"
  else
    "note: run with `RUST_BACKTRACE=1` environment variable " ++
      "to display a backtrace\n"

/-- What is written to the standard error. -/
def text (surroundings : Surroundings) (panic : Panic) : String :=
  s!"\nthread 'main' ({surroundings.thread}) panicked at " ++
    s!"{surroundings.directory}{panic.place}:\n{panic.message}\n" ++
    panic.trace surroundings.traced

end Panic

end BlockWire.CommandLine
