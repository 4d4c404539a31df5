import ConnectionPool.Text.Numeral
import ConnectionPool.Text.Printable

/-!
# Descriptions of values

The written form of values in descriptions: quoted texts, optional values, named records and
constructors with one argument, all on one line.
-/

namespace ConnectionPool.Text

/-- A character as it stands in a quoted text. -/
def escaped (c : Char) : String :=
  if c == '"' then "\\\""
  else if c == '\\' then "\\\\"
  else if c == '\n' then "\\n"
  else if c == '\r' then "\\r"
  else if c == '\t' then "\\t"
  else if c == '\x00' then "\\0"
  else if isPrintable c then c.toString
  else "\\u\x7b" ++ hexDigits c.toNat ++ "\x7d"

/-- A text between quotes, with the characters that cannot stand for themselves escaped. -/
def quoted (text : String) : String :=
  "\"" ++ String.join (text.toList.map escaped) ++ "\""

/-- A value under the name of its constructor. -/
def variant (name argument : String) : String := name ++ "(" ++ argument ++ ")"

/-- A value that may be missing. -/
def optional (describe : α → String) : Option α → String
  | some value => variant "Some" (describe value)
  | none => "None"

/-- A record with the fields in the given order. -/
def record (name : String) (fields : List (String × String)) : String :=
  name ++ " \x7b " ++
    String.intercalate ", " (fields.map fun (field, value) => field ++ ": " ++ value) ++ " \x7d"

/-- A record of which only the given fields are shown. -/
def openRecord (name : String) (fields : List (String × String)) : String :=
  name ++ " \x7b " ++
    String.join (fields.map fun (field, value) => field ++ ": " ++ value ++ ", ") ++ ".. \x7d"

/-- A truth value in words. -/
def truth (b : Bool) : String := if b then "true" else "false"

end ConnectionPool.Text
