import LiabilityProof.Datum.Printer

/-!
# Writing documents

The JSON text of a value, on one line and without spaces. Texts keep their characters except
for quotes, backslashes and controls; numbers that JSON cannot write are spelled `NaN`,
`Infinity` and `-Infinity`; a field element is the number it is.
-/

namespace LiabilityProof

namespace Json

/-- A character as it stands inside a text. -/
def escaped (c : Char) : List Char :=
  if c = '"' ∨ c = '\\' then ['\\', c]
  else if c.toNat < 0x20 then '\\' :: 'u' :: Text.hexDigits 4 c.toNat
  else [c]

/-- A text between quotes. -/
def quoted (s : String) : String :=
  String.ofList ('"' :: s.toList.flatMap escaped ++ ['"'])

/-- The number that a double is. -/
def ofDouble : Double → String
  | .infinite negative => if negative then "-Infinity" else "Infinity"
  | .nan => "NaN"
  | x => x.display

mutual

/-- The JSON text of a value. -/
def render : Datum → String
  | .null => "null"
  | .bool b => if b then "true" else "false"
  | .integer n => Text.ofInt n
  | .double x => ofDouble x
  | .text s => quoted s
  | .array xs => "[" ++ renderElements xs ++ "]"
  | .object fields => "\x7b" ++ renderFields fields ++ "\x7d"
  | .scalar a => Text.ofNat a.val

/-- The JSON texts of elements, with commas between them. -/
def renderElements : List Datum → String
  | [] => ""
  | [d] => render d
  | d :: rest => render d ++ "," ++ renderElements rest

/-- The JSON texts of fields, with commas between them. -/
def renderFields : List (String × Datum) → String
  | [] => ""
  | [(name, d)] => quoted name ++ ":" ++ render d
  | (name, d) :: rest => quoted name ++ ":" ++ render d ++ "," ++ renderFields rest

end

end Json

end LiabilityProof
