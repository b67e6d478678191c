import BlockWire.Bytes

/-!
# Control characters in a log

A message may hold text from elsewhere.  Characters that a terminal could
take for a command are written so that they do no harm; line breaks, tabs and
the like stay as they are.
-/

namespace BlockWire.Log

/-- How a character is written to the log. -/
def escapeChar (character : Char) : List Char :=
  let code := character.toNat
  if code = 0x07 || code = 0x08 || code = 0x0C || code = 0x1B ||
      code = 0x7F then
    ['\\', 'x', hexDigit (code / 16), hexDigit (code % 16)]
  else if 0x80 ≤ code && code ≤ 0x9F then
    ['\\', 'u', '\x7b', hexDigit (code / 16), hexDigit (code % 16), '\x7d']
  else [character]

/-- How a text is written to the log. -/
def escape (text : String) : String :=
  String.ofList (text.toList.flatMap escapeChar)

end BlockWire.Log
