import Playfield.Text.Unprintable

/-!
Text quoted inside a message. Quotes and backslashes get a backslash, the common control
characters have short forms, and every other character that cannot be shown is written by its
code point in hexadecimal.
-/

namespace Playfield.Quoted

def hexDigits (code : Nat) : String :=
  String.ofList (Nat.toDigits 16 code)

def codePoint (character : Char) : String :=
  "\\u\x7b" ++ hexDigits character.toNat ++ "\x7d"

def escape (character : Char) : String :=
  if character = '"' then "\\\""
  else if character = '\\' then "\\\\"
  else if character = '\t' then "\\t"
  else if character = '\r' then "\\r"
  else if character = '\n' then "\\n"
  else if character = '\x00' then "\\0"
  else if Unprintable.contains character then codePoint character
  else String.singleton character

def quote (text : String) : String :=
  "\"" ++ String.join (text.toList.map escape) ++ "\""

end Playfield.Quoted
