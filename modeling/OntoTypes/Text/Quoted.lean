import OntoTypes.Text.CharClass

/-!
# Quoted texts

Two ways of writing a text between quotes.

* `quoted` is the notation of generated code and of JSON: double quotes, a backslash before a quote
  or a backslash, short escapes for the common control characters and `\u00xx` for the others.
  Nothing above the control characters is escaped.
* `displayed` is the notation of diagnostics: single quotes unless the text holds a single quote and
  no double one, and a numeric escape for every character without a shape of its own.
-/

namespace OntoTypes.Text

/-- The last `width` hexadecimal digits of a number, in lowercase. -/
def hexDigits : Nat → Nat → List Char
  | 0, _ => []
  | width + 1, n => hexDigits width (n / 16) ++ [Nat.digitChar (n % 16)]

/-- A character inside double quotes. -/
def escaped (c : Char) : List Char :=
  if c = '"' then ['\\', '"']
  else if c = '\\' then ['\\', '\\']
  else if c = '\n' then ['\\', 'n']
  else if c = '\r' then ['\\', 'r']
  else if c = '\t' then ['\\', 't']
  else if c = '\x08' then ['\\', 'b']
  else if c = '\x0c' then ['\\', 'f']
  else if c.toNat < 32 then ['\\', 'u'] ++ hexDigits 4 c.toNat
  else [c]

/-- A text between double quotes, as a list of characters. -/
def quotedChars (cs : List Char) : List Char := '"' :: (cs.flatMap escaped ++ ['"'])

/-- A text between double quotes. -/
def quoted (s : String) : String := String.ofList (quotedChars s.toList)

/-- Characters that diagnostics show as they are. -/
def isPrintable (c : Char) : Bool := printables.contains c.toNat

/-- A character inside the quotes of a diagnostic. -/
def displayedChar (quote c : Char) : List Char :=
  if c = quote || c = '\\' then ['\\', c]
  else if c = '\n' then ['\\', 'n']
  else if c = '\r' then ['\\', 'r']
  else if c = '\t' then ['\\', 't']
  else if isPrintable c then [c]
  else if c.toNat < 0x100 then ['\\', 'x'] ++ hexDigits 2 c.toNat
  else if c.toNat < 0x10000 then ['\\', 'u'] ++ hexDigits 4 c.toNat
  else ['\\', 'U'] ++ hexDigits 8 c.toNat

/-- A text as diagnostics show it. -/
def displayed (s : String) : String :=
  let cs := s.toList
  let quote := if cs.contains '\'' && !cs.contains '"' then '"' else '\''
  String.ofList (quote :: (cs.flatMap (displayedChar quote) ++ [quote]))

end OntoTypes.Text
