/-
**Quoted text in error messages.**

* `quotedChar`: a quote, a backslash and every character that would not show is escaped;
* `quoted`: the text between double quotes.
-/

import IncompleteBeta.Text.Shown

namespace IncompleteBeta.Text

/-- A character inside quotes: itself if it shows, a short escape if there is one, and its code
point in hexadecimal otherwise. -/
def quotedChar (c : Char) : List Char :=
  if c = '\x00' then ['\\', '0']
  else if c = '\t' then ['\\', 't']
  else if c = '\r' then ['\\', 'r']
  else if c = '\n' then ['\\', 'n']
  else if c = '\\' || c = '\"' then ['\\', c]
  else if isShown c then [c]
  else ['\\', 'u', '\x7b'] ++ Nat.toDigits 16 c.toNat ++ ['\x7d']

def quoted (text : String) : String :=
  String.ofList ('\"' :: (text.toList.flatMap quotedChar ++ ['\"']))

end IncompleteBeta.Text
