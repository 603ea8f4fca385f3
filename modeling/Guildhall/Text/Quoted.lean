import Guildhall.Text.Printable
import Guildhall.Text.Hex

/-!
Text shown between quotes, as messages and row descriptions print it.
-/

namespace Guildhall.Text

def quoteFor (text : List Char) : Char :=
  if text.contains '\'' && !text.contains '"' then '"' else '\''

def escaped (quote c : Char) : List Char :=
  if c = quote ∨ c = '\\' then ['\\', c]
  else if c = '\t' then ['\\', 't']
  else if c = '\n' then ['\\', 'n']
  else if c = '\r' then ['\\', 'r']
  else if isPrintable c then [c]
  else if c.toNat < 0x100 then '\\' :: 'x' :: hexDigits 2 c.toNat
  else if c.toNat < 0x10000 then '\\' :: 'u' :: hexDigits 4 c.toNat
  else '\\' :: 'U' :: hexDigits 8 c.toNat

def quotedChars (text : List Char) : List Char :=
  let quote := quoteFor text
  quote :: text.flatMap (escaped quote) ++ [quote]

def quoted (text : String) : String := String.ofList (quotedChars text.toList)

end Guildhall.Text
