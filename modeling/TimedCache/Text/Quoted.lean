import TimedCache.Text.Combining
import TimedCache.Text.Graphic

/-!
# Quoted texts

A quoted text stands between double quotes and shows each character by a graphic one: a double
quote, a backslash and the common control characters have a short escape, and whatever else would
not be seen on its own is written by its code point.
-/
namespace TimedCache.Quoted

/-- A code point in hexadecimal digits between braces. -/
def codePoint (c : Char) : List Char :=
  '\\' :: 'u' :: '\x7b' :: (Nat.toDigits 16 c.toNat ++ ['\x7d'])

def escape (c : Char) : List Char :=
  if c = '\x00' then ['\\', '0']
  else if c = '\t' then ['\\', 't']
  else if c = '\n' then ['\\', 'n']
  else if c = '\x0d' then ['\\', 'r']
  else if c = '\x22' then ['\\', '\x22']
  else if c = '\\' then ['\\', '\\']
  else if isCombining c || !isGraphic c then codePoint c
  else [c]

def encode (s : String) : String :=
  String.ofList ('\x22' :: (s.toList.flatMap escape ++ ['\x22']))

end TimedCache.Quoted
