import LayeredConfig.Text.Hidden

/-!
# Quoted texts

Descriptions show names and keys between double quotes, with everything escaped
that would not show as itself.
-/
namespace LayeredConfig.Text

def escapeQuoted (c : Char) : String :=
  match c with
  | '"' => "\\\""
  | '\\' => "\\\\"
  | '\n' => "\\n"
  | '\r' => "\\r"
  | '\t' => "\\t"
  | '\x00' => "\\0"
  | c =>
    if isHidden c then "\\u\x7b" ++ .ofList (Nat.toDigits 16 c.toNat) ++ "\x7d"
    else .singleton c

def quoted (s : String) : String :=
  "\"" ++ .join (s.toList.map escapeQuoted) ++ "\""

/-- A list in brackets, its items separated by a comma and a space. -/
def bracketed (items : List String) : String :=
  "[" ++ ", ".intercalate items ++ "]"

def quotedList (names : List String) : String :=
  bracketed (names.map quoted)

/-- An optional item, with its absence spelled out. -/
def optional : Option String → String
  | some item => "Some(" ++ item ++ ")"
  | none => "None"

/-- A named record with its fields in order. -/
def record (name : String) (fields : List (String × String)) : String :=
  name ++ " \x7b " ++ ", ".intercalate (fields.map fun f => f.1 ++ ": " ++ f.2) ++ " \x7d"

end LayeredConfig.Text
