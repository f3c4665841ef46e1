import SensorThresholds.Double.Text
import SensorThresholds.Json.Document

/-!
Compact JSON text: no white space, and in strings only quotes, backslashes and control characters
escaped.
-/

namespace SensorThresholds

def hexDigit (n : Nat) : Char := (Nat.toDigits 16 (n % 16)).headD '0'

def jsonEscape (c : Char) : List Char :=
  match c with
  | '"' => ['\\', '"']
  | '\\' => ['\\', '\\']
  | '\x08' => ['\\', 'b']
  | '\t' => ['\\', 't']
  | '\n' => ['\\', 'n']
  | '\x0c' => ['\\', 'f']
  | '\r' => ['\\', 'r']
  | c =>
    if c < ' ' then ['\\', 'u', '0', '0', hexDigit (c.toNat / 16), hexDigit c.toNat]
    else [c]

def jsonString (s : String) : List Char := '"' :: s.toList.flatMap jsonEscape ++ ['"']

namespace Number

def json : Number → String
  | integer n => .ofList (integerText n)
  | float d => d.json

end Number

namespace Document

mutual

def chars : Document → List Char
  | .null => ['n', 'u', 'l', 'l']
  | .bool true => ['t', 'r', 'u', 'e']
  | .bool false => ['f', 'a', 'l', 's', 'e']
  | .number n => n.json.toList
  | .string s => jsonString s
  | .array items => '[' :: itemChars items ++ [']']
  | .object members => '\x7b' :: memberChars members ++ ['\x7d']

def itemChars : List Document → List Char
  | [] => []
  | [v] => chars v
  | v :: rest => chars v ++ ',' :: itemChars rest

def memberChars : List (String × Document) → List Char
  | [] => []
  | [(k, v)] => jsonString k ++ ':' :: chars v
  | (k, v) :: rest => jsonString k ++ ':' :: chars v ++ ',' :: memberChars rest

end

def text (d : Document) : String := .ofList d.chars

end Document
end SensorThresholds
