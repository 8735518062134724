namespace Texel.Text

private def commaSeparated (items : List String) : String :=
  ", ".intercalate items

/-- A name with its fields in braces, each `field: value`. -/
def record (name : String) (fields : List (String × String)) : String :=
  name ++ " \x7b " ++ commaSeparated (fields.map fun field => field.1 ++ ": " ++ field.2) ++ " \x7d"

/-- A name with values in parentheses. -/
def call (name : String) (values : List String) : String :=
  name ++ "(" ++ commaSeparated values ++ ")"

def tuple (values : List String) : String :=
  call "" values

def option : Option String → String
  | none => "None"
  | some value => call "Some" [value]

def list (items : List String) : String :=
  "[" ++ commaSeparated items ++ "]"

def map (entries : List (String × String)) : String :=
  "\x7b" ++ commaSeparated (entries.map fun entry => entry.1 ++ ": " ++ entry.2) ++ "\x7d"

def bool (value : Bool) : String :=
  if value then "true" else "false"

end Texel.Text
