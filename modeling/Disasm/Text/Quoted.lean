import Disasm.Text.Numeral
import Disasm.Text.Printable

/-!
# Quoted text

Text in quotes.  The quote is single, unless the text holds a single quote and no double one.  The quote
itself and the backslash are escaped, tab, line feed and carriage return have letters, and any other
character that cannot be shown is given by its code point in two, four or eight digits.
-/

namespace Disasm.Text

/-- the single quote -/
def single : Char := Char.ofNat 39

/-- the double quote -/
def double : Char := Char.ofNat 34

def quoteMark (cs : List Char) : Char :=
  if cs.contains single && !cs.contains double then double else single

def codePoint (c : Char) : String :=
  if c.toNat < 0x100 then "\\x" ++ hexPad 2 c.toNat
  else if c.toNat < 0x10000 then "\\u" ++ hexPad 4 c.toNat
  else "\\U" ++ hexPad 8 c.toNat

def escapeChar (quote c : Char) : String :=
  if c == quote || c == '\\' then String.ofList ['\\', c]
  else if c == '\t' then "\\t"
  else if c == '\n' then "\\n"
  else if c == '\r' then "\\r"
  else if isPrintable c then String.singleton c
  else codePoint c

def quoted (s : String) : String :=
  let q := quoteMark s.toList
  String.singleton q ++ String.join (s.toList.map (escapeChar q)) ++ String.singleton q

end Disasm.Text
