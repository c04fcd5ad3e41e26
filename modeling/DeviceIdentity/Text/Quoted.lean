import DeviceIdentity.Text.Numeral
import DeviceIdentity.Text.Unprintable

/-!
# Quoted text

A text or a character between quotes in a form that shows every character: the quote itself, the
backslash and the common controls are escaped by a letter, and any other character that cannot be
printed, or that would combine with the one before it, by its number.
-/

namespace DeviceIdentity

namespace Quoted

/-- How a character is written between quotes of the kind `quote`. -/
def escape (quote c : Char) : List Char :=
  if c = '\x00' then ['\\', '0']
  else if c = '\t' then ['\\', 't']
  else if c = '\r' then ['\\', 'r']
  else if c = '\n' then ['\\', 'n']
  else if c = '\\' ∨ c = quote then ['\\', c]
  else if Unprintable.isCombining c || Unprintable.isUnprintable c then
    "\\u\x7b".toList ++ Nat.toDigits 16 c.toNat ++ ['\x7d']
  else [c]

/-- A text between double quotes. -/
def text (text : String) : String :=
  String.ofList ('"' :: (text.toList.flatMap (escape '"') ++ ['"']))

/-- A character between single quotes. -/
def character (c : Char) : String :=
  String.ofList ('\x27' :: (escape '\x27' c ++ ['\x27']))

end Quoted

end DeviceIdentity
