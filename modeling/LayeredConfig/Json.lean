/-!
# JSON values and their text

Two written forms: compact, without any blank, and indented by two spaces a level.
-/
namespace LayeredConfig

inductive Json where
  | null
  | bool (b : Bool)
  | int (n : Int)
  /-- A number with a fraction or an exponent, or a negative zero, as it is written. -/
  | numeral (text : String)
  | str (s : String)
  /-- A text that escapes half of a surrogate pair, or an object with such a key: its form
  is right, so it can be passed over, but there is nothing it could be read as. -/
  | unreadable
  | arr (items : List Json)
  | obj (fields : List (String × Json))
deriving Repr

namespace Json

/-! ## Texts -/

def escapeChar (c : Char) : List Char :=
  match c with
  | '"' => ['\\', '"']
  | '\\' => ['\\', '\\']
  | '\n' => ['\\', 'n']
  | '\r' => ['\\', 'r']
  | '\t' => ['\\', 't']
  | '\x08' => ['\\', 'b']
  | '\x0c' => ['\\', 'f']
  | c =>
    if c.toNat < 32 then
      ['\\', 'u', '0', '0', Nat.digitChar (c.toNat / 16), Nat.digitChar (c.toNat % 16)]
    else [c]

def writeText (s : String) : List Char :=
  '"' :: (s.toList.flatMap escapeChar ++ ['"'])

/-! ## The compact form -/

/-- The form of a value that holds no other values. -/
def writeScalar : Json → List Char
  | .null => "null".toList
  | .bool true => "true".toList
  | .bool false => "false".toList
  | .int n => (toString n).toList
  | .numeral text => text.toList
  | .str s => writeText s
  | _ => "\"\\ud800\"".toList

mutual

def write : Json → List Char
  | .arr items => '[' :: writeItems items
  | .obj fields => '{' :: writeFields fields
  | .null => writeScalar .null
  | .bool b => writeScalar (.bool b)
  | .int n => writeScalar (.int n)
  | .numeral text => writeScalar (.numeral text)
  | .str s => writeScalar (.str s)
  | .unreadable => writeScalar .unreadable

/-- The items of an array, up to and including the closing bracket. -/
def writeItems : List Json → List Char
  | [] => [']']
  | [v] => write v ++ [']']
  | v :: vs => write v ++ ',' :: writeItems vs

/-- The fields of an object, up to and including the closing brace. -/
def writeFields : List (String × Json) → List Char
  | [] => ['}']
  | [(k, v)] => writeText k ++ ':' :: (write v ++ ['}'])
  | (k, v) :: fs => writeText k ++ ':' :: (write v ++ ',' :: writeFields fs)

end

def compact (j : Json) : String :=
  .ofList j.write

/-! ## The indented form -/

def newline (depth : Nat) : List Char :=
  '\n' :: List.replicate (2 * depth) ' '

mutual

/-- The indented form at a depth of nesting. -/
def indent (depth : Nat) : Json → List Char
  | .arr [] => ['[', ']']
  | .arr items => '[' :: indentItems (depth + 1) items ++ newline depth ++ [']']
  | .obj [] => ['{', '}']
  | .obj fields => '{' :: indentFields (depth + 1) fields ++ newline depth ++ ['}']
  | .null => writeScalar .null
  | .bool b => writeScalar (.bool b)
  | .int n => writeScalar (.int n)
  | .numeral text => writeScalar (.numeral text)
  | .str s => writeScalar (.str s)
  | .unreadable => writeScalar .unreadable

def indentItems (depth : Nat) : List Json → List Char
  | [] => []
  | [v] => newline depth ++ indent depth v
  | v :: vs => newline depth ++ indent depth v ++ ',' :: indentItems depth vs

def indentFields (depth : Nat) : List (String × Json) → List Char
  | [] => []
  | [(k, v)] => newline depth ++ writeText k ++ ':' :: ' ' :: indent depth v
  | (k, v) :: fs =>
    newline depth ++ writeText k ++ ':' :: ' ' :: indent depth v ++ ',' :: indentFields depth fs

end

def indented (j : Json) : String :=
  .ofList (j.indent 0)

end Json

end LayeredConfig
