import BlockWire.CommandLine.Argument
import BlockWire.Endpoint
import BlockWire.Shell.Instruction

/-!
# The grammar of the command line

A command line gives options, the name of a command, and after it the operands
of the command and more options.  The options that say where the server is may
stand on either side of the name, each once on each side, and what is said
after the name counts.  The version and the help text are asked for by options
that take effect as soon as they are reached, so a mistake before them counts
and one after them does not.
-/

namespace BlockWire.CommandLine

/-! ## Commands -/

/-- The commands of the program. -/
inductive Command where
  | alloc
  | update
  | delete
  | read
  | status
  | ping
  | shell
  deriving DecidableEq, Repr

/-- The command of a name. -/
def Command.ofName? : String → Option Command
  | "alloc" => some .alloc
  | "update" => some .update
  | "delete" => some .delete
  | "free" => some .delete
  | "read" => some .read
  | "status" => some .status
  | "ping" => some .ping
  | "shell" => some .shell
  | _ => none

/-- How many words follow the name of a command. -/
def Command.wordCount : Command → Nat
  | .alloc => 2
  | .update => 2
  | .delete => 1
  | .read => 1
  | .status => 0
  | .ping => 0
  | .shell => 0

/-- Where on a command line an argument stands. -/
inductive Side where
  | before
  | after (command : Command)
  deriving DecidableEq, Repr

/-- The option of a full name. -/
def Side.named? (side : Side) (name : String) : Option Setting :=
  match name with
  | "host" => some .host
  | "port" => some .port
  | "timeout-secs" => some .timeout
  | "verbose" => some .verbose
  | "help" => some .help
  | "version" => if side = .before then some .version else none
  | "memory" => if side = .after .status then some .memory else none
  | "block" => if side = .after .status then some .block else none
  | _ => none

/-- The option of a letter. -/
def Side.letter? (side : Side) (letter : Char) : Option Setting :=
  match letter with
  | 'p' => some .port
  | 't' => some .timeout
  | 'v' => some .verbose
  | 'h' => some .help
  | 'V' => if side = .before then some .version else none
  | _ => none

/-! ## What one side says -/

/-- What the arguments on one side say. -/
structure Said where
  host? : Option String := none
  port? : Option UInt16 := none
  /-- The time limit in seconds. -/
  timeout? : Option Nat := none
  verbose : Bool := false
  /-- Whether to list the identifiers. -/
  memory : Bool := false
  /-- Whether to list by blocks. -/
  block : Bool := false
  words : List String := []
  deriving DecidableEq, Repr

/-- Why the reading of arguments stops early. -/
inductive Interruption where
  | version
  | help
  | misuse
  deriving DecidableEq, Repr

namespace Said

/-- Take an option with its value into account.  An option that was said
before on this side, or a value that does not fit, is a mistake. -/
def withValue (setting : Setting) (value : String) (said : Said) :
    Except Interruption Said :=
  match setting with
  | .host =>
      if said.host?.isSome then .error .misuse
      else .ok { said with host? := some value }
  | .port =>
      match CommandLine.port? value with
      | none => .error .misuse
      | some port =>
          if said.port?.isSome then .error .misuse
          else .ok { said with port? := some port }
  | .timeout =>
      match seconds? value with
      | none => .error .misuse
      | some count =>
          if said.timeout?.isSome then .error .misuse
          else .ok { said with timeout? := some count }
  | _ => .error .misuse

/-- Take an option without a value into account. -/
def withFlag (setting : Setting) (said : Said) : Except Interruption Said :=
  match setting with
  | .version => .error .version
  | .help => .error .help
  | .verbose =>
      if said.verbose then .error .misuse
      else .ok { said with verbose := true }
  | .memory =>
      if said.memory then .error .misuse
      else .ok { said with memory := true }
  | .block =>
      if said.block then .error .misuse
      else .ok { said with block := true }
  | _ => .error .misuse

end Said

/-- An option whose value is the next argument. -/
abbrev Awaiting := Option Setting

/-- Read the letters after one dash.  The first letter of an option that
takes a value is the last one read: what follows it, less an equals sign, is
the value, and if nothing does the value is the next argument. -/
def readLetters (side : Side) :
    List Char → Said → Except Interruption (Said × Awaiting)
  | [], said => .ok (said, none)
  | letter :: rest, said =>
      match side.letter? letter with
      | none => .error .misuse
      | some setting =>
          if setting.takesValue then
            match rest with
            | [] => .ok (said, some setting)
            | '=' :: value =>
                (said.withValue setting (String.ofList value)).map (·, none)
            | value =>
                (said.withValue setting (String.ofList value)).map (·, none)
          else
            match said.withFlag setting with
            | .error interruption => .error interruption
            | .ok said => readLetters side rest said

/-- Read an option by its full name. -/
def readNamed (side : Side) (name : String) (value? : Option String)
    (said : Said) : Except Interruption (Said × Awaiting) :=
  match side.named? name, value? with
  | none, _ => .error .misuse
  | some setting, some value =>
      if setting.takesValue then (said.withValue setting value).map (·, none)
      else .error .misuse
  | some setting, none =>
      if setting.takesValue then .ok (said, some setting)
      else (said.withFlag setting).map (·, none)

/-- Read the arguments after the name of a command.  A word too many is a
mistake as soon as it is reached, a missing one only at the end. -/
def readAfter (command : Command) :
    Awaiting → List String → Said → Except Interruption Said
  | none, [], said => .ok said
  | some _, [], _ => .error .misuse
  | some setting, argument :: rest, said =>
      match Piece.ofArgument argument with
      | .word value =>
          match said.withValue setting value with
          | .error interruption => .error interruption
          | .ok said => readAfter command none rest said
      | _ => .error .misuse
  | none, argument :: rest, said =>
      match Piece.ofArgument argument with
      | .endOfOptions => .ok { said with words := said.words ++ rest }
      | .word text =>
          if said.words.length < command.wordCount then
            readAfter command none rest
              { said with words := said.words ++ [text] }
          else .error .misuse
      | .named name value? =>
          match readNamed (.after command) name value? said with
          | .error interruption => .error interruption
          | .ok (said, awaiting) => readAfter command awaiting rest said
      | .letters letters =>
          match readLetters (.after command) letters said with
          | .error interruption => .error interruption
          | .ok (said, awaiting) => readAfter command awaiting rest said

/-- What asking for help comes to: it may name one command. -/
def helpOn : List String → Interruption
  | [] => .help
  | ["help"] => .help
  | [name] => if (Command.ofName? name).isSome then .help else .misuse
  | _ => .misuse

/-- Read the arguments before the name of a command, then the name and what
comes after it. -/
def readBefore :
    Awaiting → List String → Said →
      Except Interruption (Said × Command × Said)
  | _, [], _ => .error .misuse
  | some setting, argument :: rest, said =>
      match Piece.ofArgument argument with
      | .word value =>
          match said.withValue setting value with
          | .error interruption => .error interruption
          | .ok said => readBefore none rest said
      | _ => .error .misuse
  | none, argument :: rest, said =>
      match Piece.ofArgument argument with
      | .endOfOptions => .error .misuse
      | .word "help" => .error (helpOn rest)
      | .word name =>
          match Command.ofName? name with
          | none => .error .misuse
          | some command =>
              match readAfter command none rest {} with
              | .error interruption => .error interruption
              | .ok after => .ok (said, command, after)
      | .named name value? =>
          match readNamed .before name value? said with
          | .error interruption => .error interruption
          | .ok (said, awaiting) => readBefore awaiting rest said
      | .letters letters =>
          match readLetters .before letters said with
          | .error interruption => .error interruption
          | .ok (said, awaiting) => readBefore awaiting rest said

/-! ## What a command line asks for -/

/-- What is done with the server. -/
inductive Task where
  | single (instruction : Instruction)
  | dialogue
  deriving DecidableEq, Repr

/-- A task with the server that it concerns. -/
structure Order where
  endpoint : Endpoint
  verbose : Bool
  task : Task
  deriving DecidableEq, Repr

/-- The task of a command with what is said after its name.  Each command
has a fixed number of words, and a report has one level of detail. -/
def Command.task? (command : Command) (said : Said) : Option Task :=
  match command, said.words with
  | .alloc, [description, content] =>
      some (.single (.alloc description content))
  | .update, [identifier, content] =>
      some (.single (.update identifier content))
  | .delete, [identifier] => some (.single (.delete identifier))
  | .read, [identifier] => some (.single (.read identifier))
  | .status, [] =>
      match said.memory, said.block with
      | false, false => some (.single (.status .summary))
      | true, false => some (.single (.status .memory))
      | false, true => some (.single (.status .block))
      | true, true => none
  | .ping, [] => some (.single .ping)
  | .shell, [] => some .dialogue
  | _, _ => none

/-- The server that two sides of a command line name; what neither names is
as usual. -/
def endpointOf (before after : Said) : Endpoint :=
  let usual : Endpoint := {}
  { host := (after.host? <|> before.host?).getD usual.host
    port := (after.port? <|> before.port?).getD usual.port
    timeout := ((after.timeout? <|> before.timeout?).map seconds).getD
      usual.timeout
    payloadLimit := usual.payloadLimit }

/-- What a command line asks for. -/
def parse (arguments : List String) : Except Interruption Order :=
  match readBefore none arguments {} with
  | .error interruption => .error interruption
  | .ok (before, command, after) =>
      match command.task? after with
      | none => .error .misuse
      | some task =>
          .ok
            { endpoint := endpointOf before after
              verbose := before.verbose || after.verbose
              task := task }

end BlockWire.CommandLine
