/-!
# Quoted text

A text in double quotes, in which a quote, a reverse solidus and every control character is
written as an escape and every other character as itself.
-/
namespace Formwright.Json

/-- The hexadecimal digit, in lower case, of a number below sixteen. -/
def hexDigit (value : Nat) : Char :=
  if value < 10 then Char.ofNat ('0'.toNat + value) else Char.ofNat ('a'.toNat + (value - 10))

/-- A character as it stands between quotes. -/
def quoteChar (c : Char) : List Char :=
  if c == '"' then ['\\', '"']
  else if c == '\\' then ['\\', '\\']
  else if c == '\n' then ['\\', 'n']
  else if c == '\r' then ['\\', 'r']
  else if c == '\t' then ['\\', 't']
  else if c == '\x08' then ['\\', 'b']
  else if c == '\x0c' then ['\\', 'f']
  else if c.toNat < 0x20 then
    ['\\', 'u', '0', '0', hexDigit (c.toNat / 16), hexDigit (c.toNat % 16)]
  else [c]

/-- The characters of a quoted text. -/
def quoteChars (text : List Char) : List Char := '"' :: text.flatMap quoteChar ++ ['"']

/-- A text in quotes. -/
def quote (text : String) : String := String.ofList (quoteChars text.toList)

end Formwright.Json
