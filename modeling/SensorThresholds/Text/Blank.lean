/-!
Blank characters of all scripts, and texts without the blanks around them.
-/

namespace SensorThresholds

def isBlank (c : Char) : Bool :=
  c.isWhitespace || "\x0b\x0c\u0085\u00a0\u1680\u2028\u2029\u202f\u205f\u3000".toList.contains c ||
    ('\u2000' ≤ c && c ≤ '\u200a')

def trimStart (cs : List Char) : List Char := cs.dropWhile isBlank

def trimEnd (cs : List Char) : List Char := (cs.reverse.dropWhile isBlank).reverse

end SensorThresholds
