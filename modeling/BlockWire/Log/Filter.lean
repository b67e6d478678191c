import BlockWire.Log.Directive

/-!
# Filters

A filter is a list of directives, separated by commas in its text.  For each
message the most specific directive that concerns it decides: the one with
the longest beginning of an origin, then one that asks for a field, then the
last one.  A message that no directive concerns is not logged.
-/

namespace BlockWire.Log

/-- What is known of a message before it is logged. -/
structure Entry where
  gravity : Level
  /-- The part of the program that it comes from. -/
  origin : String
  fields : List String
  deriving DecidableEq, Repr

namespace Directive

/-- Whether a directive concerns a message outside all scopes. -/
def concerns (entry : Entry) (directive : Directive) : Bool :=
  directive.scope?.isNone &&
    directive.origin?.all (fun origin =>
      origin.toList.isPrefixOf entry.origin.toList) &&
    directive.field?.all (fun field =>
      field.value?.isNone && entry.fields.contains field.name)

/-- The length of the beginning of an origin, which may be empty; nothing is
shorter still. -/
def originLength (directive : Directive) : Nat :=
  match directive.origin? with
  | none => 0
  | some origin => origin.utf8ByteSize + 1

/-- Whether the first of two directives that concern a message is at least as
specific as the second. -/
def atLeastAsSpecific (first second : Directive) : Bool :=
  if first.originLength = second.originLength then
    first.field?.isSome || second.field?.isNone
  else second.originLength < first.originLength

end Directive

/-- Directives in the order in which they were given. -/
abbrev Filter := List Directive

namespace Filter

/-- Read a filter; it means nothing if one of its directives does.  Nothing
between two commas is no directive. -/
def parse (text : String) : Option Filter :=
  ((text.splitOn ",").filter fun piece => !piece.isEmpty).mapM
    Directive.parse

/-- The directive that decides on a message, with `best?` the one found so
far. -/
def decidingFrom (entry : Entry) (best? : Option Directive) :
    Filter → Option Directive
  | [] => best?
  | directive :: rest =>
      if directive.concerns entry &&
          best?.all directive.atLeastAsSpecific then
        decidingFrom entry (some directive) rest
      else decidingFrom entry best? rest

/-- Whether a message is logged. -/
def admits (entry : Entry) (filter : Filter) : Bool :=
  match decidingFrom entry none filter with
  | some directive => directive.level.admits entry.gravity
  | none => false

end Filter

end BlockWire.Log
