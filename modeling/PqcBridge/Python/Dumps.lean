/-
`json.dumps` with the separators `(",", ":")` and the default ASCII escaping.

Every character outside the printable ASCII range is written as an escape, so the text
is ASCII, holds no control character, and encoding it as UTF-8 gives one byte for each
character.  The text of a float is a parameter.
-/
import PqcBridge.Python.Value

namespace Python

/-- A lower-case hexadecimal digit. -/
def hexDigit (n : ℕ) : PyChar :=
  .char (if n < 10 then Char.ofNat (48 + n) else Char.ofNat (87 + n))

/-- The escape of one UTF-16 code unit: a backslash, `u` and four hexadecimal digits. -/
def escapeUnit (n : ℕ) : PyStr :=
  .char (Char.ofNat 92) :: .char 'u' ::
    [hexDigit (n / 4096 % 16), hexDigit (n / 256 % 16), hexDigit (n / 16 % 16), hexDigit (n % 16)]

/-- A backslash followed by one character. -/
def escapeShort (c : Char) : PyStr := [.char (Char.ofNat 92), .char c]

/-- How `json.dumps` writes one character inside a string. -/
def escapeChar : PyChar → PyStr
  | .surrogate u => escapeUnit (0xD800 + u.val)
  | .char c =>
    if c.toNat = 34 then escapeShort c
    else if c.toNat = 92 then escapeShort c
    else if c.toNat = 10 then escapeShort 'n'
    else if c.toNat = 13 then escapeShort 'r'
    else if c.toNat = 9 then escapeShort 't'
    else if c.toNat = 8 then escapeShort 'b'
    else if c.toNat = 12 then escapeShort 'f'
    else if 32 ≤ c.toNat ∧ c.toNat ≤ 126 then [.char c]
    else if c.toNat < 0x10000 then escapeUnit c.toNat
    else escapeUnit (0xD800 + (c.toNat - 0x10000) / 1024) ++
      escapeUnit (0xDC00 + (c.toNat - 0x10000) % 1024)

/-- A JSON string literal. -/
def dumpsStr (s : PyStr) : PyStr :=
  .char (Char.ofNat 34) :: (s.flatMap escapeChar ++ [.char (Char.ofNat 34)])

section

variable (floatText : PyFloat → PyStr)

mutual

/-- `json.dumps(value, separators=(",", ":"))`. -/
def dumps : Json → PyStr
  | .null => lit "null"
  | .bool b => lit (if b then "true" else "false")
  | .int n => decimal n
  | .float x => floatText x
  | .str s => dumpsStr s
  | .arr xs => lit "[" ++ dumpsItems xs ++ lit "]"
  | .obj fields => lit "\x7b" ++ dumpsFields fields ++ lit "\x7d"

/-- The items of a list, separated by commas. -/
def dumpsItems : List Json → PyStr
  | [] => []
  | [x] => dumps x
  | x :: y :: xs => dumps x ++ lit "," ++ dumpsItems (y :: xs)

/-- The bindings of a dictionary, separated by commas. -/
def dumpsFields : List (PyStr × Json) → PyStr
  | [] => []
  | [(k, v)] => dumpsStr k ++ lit ":" ++ dumps v
  | (k, v) :: f :: fields =>
    dumpsStr k ++ lit ":" ++ dumps v ++ lit "," ++ dumpsFields (f :: fields)

end

end

end Python
