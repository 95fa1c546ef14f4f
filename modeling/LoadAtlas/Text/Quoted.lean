import LoadAtlas.Text.Combining
import LoadAtlas.Text.Unseen

/-!
# Quoted text in messages

A message shows a foreign text between double quotes.  Quotes and backslashes are escaped,
five control characters have short names, and every other character that has no shape or is
drawn on the one before it appears as its number in lower-case hexadecimal.
-/

namespace LoadAtlas
namespace Text

/-- The digits of a number in base sixteen, lower-case and without leading zeros. -/
def hexadecimal (number : Nat) : List Char :=
  Nat.toDigits 16 number

def quotedCharacter (character : Char) : List Char :=
  if character = '"' then ['\\', '"']
  else if character = '\\' then ['\\', '\\']
  else if character = '\t' then ['\\', 't']
  else if character = '\r' then ['\\', 'r']
  else if character = '\n' then ['\\', 'n']
  else if character.toNat = 0 then ['\\', '0']
  else if isCombining character || isUnseen character then
    ['\\', 'u', '\x7b'] ++ hexadecimal character.toNat ++ ['\x7d']
  else [character]

def quoted (text : String) : String :=
  String.ofList ('"' :: (text.toList.flatMap quotedCharacter ++ ['"']))

end Text
end LoadAtlas
