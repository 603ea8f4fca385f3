import Guildhall.Json.Value
import Guildhall.Decimal.Shortest
import Guildhall.Text.Quoted

/-!
JSON text of a value, in ASCII.
-/

namespace Guildhall.Json

def unitEscape (unit : Nat) : List Char := '\\' :: 'u' :: Text.hexDigits 4 unit

def escapedChar (c : Char) : List Char :=
  if c = '"' ∨ c = '\\' then ['\\', c]
  else if 0x20 ≤ c.toNat ∧ c.toNat < 0x7F then [c]
  else if c.toNat < 0x10000 then unitEscape c.toNat
  else
    let offset := c.toNat - 0x10000
    unitEscape (0xD800 + offset / 0x400) ++ unitEscape (0xDC00 + offset % 0x400)

def quotedText (value : String) : String :=
  String.ofList ('"' :: value.toList.flatMap escapedChar ++ ['"'])

mutual

def render : Json → String
  | .null => "null"
  | .flag value => if value then "true" else "false"
  | .whole value => toString value
  | .real value => value.text
  | .text value => quotedText value
  | .list items => "[" ++ ", ".intercalate (renderItems items) ++ "]"
  | .object fields => "\x7b" ++ ", ".intercalate (renderFields fields) ++ "\x7d"

def renderItems : List Json → List String
  | [] => []
  | item :: rest => render item :: renderItems rest

def renderFields : List (String × Json) → List String
  | [] => []
  | (name, value) :: rest => (quotedText name ++ ": " ++ render value) :: renderFields rest

end

end Guildhall.Json
