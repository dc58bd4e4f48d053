import WeatherBus.Text.Hidden

/-! # Quoted texts

A text in double quotes, in which all characters that do not show are written by their numbers.

* **`Quoted.encode`** — the quoted form of a text. -/

namespace WeatherBus

namespace Quoted

/-- A character inside of quotes. -/
def encodeChar (c : Char) : Text :=
  if c = '"' then ['\\', '"']
  else if c = '\\' then ['\\', '\\']
  else if c = '\t' then ['\\', 't']
  else if c = '\r' then ['\\', 'r']
  else if c = '\n' then ['\\', 'n']
  else if c.toNat = 0 then ['\\', '0']
  else if Text.isHidden c then "\\u\x7b".toList ++ Nat.toDigits 16 c.toNat ++ ['\x7d']
  else [c]

/-- A text in double quotes. -/
def encode (t : Text) : Text := '"' :: t.flatMap encodeChar ++ ['"']

end Quoted

end WeatherBus
