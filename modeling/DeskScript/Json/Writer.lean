import DeskScript.Decimal.Shortest
import DeskScript.Json.Value

/-!
JSON text, compact and indented. The writers put the text of a value in front of the text that
follows it.
-/

namespace DeskScript.Json

def wholeText (n : Int) : List Char :=
  if n < 0 then '-' :: Nat.toDigits 10 n.natAbs else Nat.toDigits 10 n.natAbs

/--
A decimal that is not zero: all places, and at least one after the point, if its leading digit
stands for a power of ten from -5 to 15; else one digit before the point and a power of ten with
its sign.
-/
def realDigits (d : Decimal) : List Char :=
  let digits := Nat.toDigits 10 d.digits
  let lead := d.exponent + digits.length - 1
  if -5 ≤ lead ∧ lead ≤ 15 then
    if 0 ≤ d.exponent then d.plain ++ ['.', '0'] else d.plain
  else
    let mantissa :=
      match digits with
      | first :: second :: rest => first :: '.' :: second :: rest
      | short => short
    let sign := if lead < 0 then '-' else '+'
    mantissa ++ 'e' :: sign :: Nat.toDigits 10 lead.natAbs

def realText (x : Float) : List Char :=
  if x.isFinite then
    let size := if Decimal.isNegative x then -x else x
    let digits := realDigits (Decimal.shortest .toEven size)
    if Decimal.isNegative x then '-' :: digits else digits
  else "null".toList

def numberText : Number → List Char
  | .whole n => wholeText n
  | .real x => realText x

def hexDigit (n : Nat) : Char :=
  Nat.digitChar n

def escape (c : Char) : List Char :=
  if c = '"' then ['\\', '"']
  else if c = '\\' then ['\\', '\\']
  else if c = '\x08' then ['\\', 'b']
  else if c = '\x0c' then ['\\', 'f']
  else if c = '\n' then ['\\', 'n']
  else if c = '\r' then ['\\', 'r']
  else if c = '\t' then ['\\', 't']
  else if c.toNat < 0x20 then
    ['\\', 'u', '0', '0', hexDigit (c.toNat / 16), hexDigit (c.toNat % 16)]
  else [c]

def writeText (text : String) (rest : List Char) : List Char :=
  '"' :: text.toList.flatMap escape ++ '"' :: rest

mutual

def writeCompact : Json → List Char → List Char
  | .null, rest => "null".toList ++ rest
  | .bool true, rest => "true".toList ++ rest
  | .bool false, rest => "false".toList ++ rest
  | .number n, rest => numberText n ++ rest
  | .string text, rest => writeText text rest
  | .array [], rest => '[' :: ']' :: rest
  | .array (item :: items), rest => '[' :: writeCompact item (compactItems items (']' :: rest))
  | .object [], rest => '\x7b' :: '\x7d' :: rest
  | .object ((name, value) :: members), rest =>
    '\x7b' :: writeText name (':' :: writeCompact value (compactMembers members ('\x7d' :: rest)))

def compactItems : List Json → List Char → List Char
  | [], rest => rest
  | item :: items, rest => ',' :: writeCompact item (compactItems items rest)

def compactMembers : List (String × Json) → List Char → List Char
  | [], rest => rest
  | (name, value) :: members, rest =>
    ',' :: writeText name (':' :: writeCompact value (compactMembers members rest))

end

def newLine (level : Nat) (rest : List Char) : List Char :=
  '\n' :: List.replicate (2 * level) ' ' ++ rest

mutual

def writePretty (level : Nat) : Json → List Char → List Char
  | .null, rest => "null".toList ++ rest
  | .bool true, rest => "true".toList ++ rest
  | .bool false, rest => "false".toList ++ rest
  | .number n, rest => numberText n ++ rest
  | .string text, rest => writeText text rest
  | .array [], rest => '[' :: ']' :: rest
  | .array (item :: items), rest =>
    '[' :: newLine (level + 1) (writePretty (level + 1) item
      (prettyItems (level + 1) items (newLine level (']' :: rest))))
  | .object [], rest => '\x7b' :: '\x7d' :: rest
  | .object ((name, value) :: members), rest =>
    '\x7b' :: newLine (level + 1) (writeText name (':' :: ' ' :: writePretty (level + 1) value
      (prettyMembers (level + 1) members (newLine level ('\x7d' :: rest)))))

def prettyItems (level : Nat) : List Json → List Char → List Char
  | [], rest => rest
  | item :: items, rest =>
    ',' :: newLine level (writePretty level item (prettyItems level items rest))

def prettyMembers (level : Nat) : List (String × Json) → List Char → List Char
  | [], rest => rest
  | (name, value) :: members, rest =>
    ',' :: newLine level (writeText name (':' :: ' ' :: writePretty level value
      (prettyMembers level members rest)))

end

def compact (json : Json) : String :=
  String.ofList (writeCompact json [])

def pretty (json : Json) : String :=
  String.ofList (writePretty 0 json [])

end DeskScript.Json
