import Cutover.Json.Basic
import Cutover.Text.Decimal
import Cutover.Text.Hexadecimal

set_option autoImplicit false

namespace Cutover.Json

def escaped : Char → String
  | '"' => "\\\""
  | '\\' => "\\\\"
  | '\x08' => "\\b"
  | '\x0c' => "\\f"
  | '\n' => "\\n"
  | '\r' => "\\r"
  | '\t' => "\\t"
  | c =>
      if c.toNat < 0x20 then "\\u" ++ String.ofList (Text.hexDigits 4 c.toNat)
      else String.singleton c

def quoted (text : String) : String :=
  (text.toList.foldl (fun written c => written ++ escaped c) "\"").push '"'

mutual

def write : Json → String
  | .null => "null"
  | .bool true => "true"
  | .bool false => "false"
  | .integer value => String.ofList (Text.integer value)
  | .real literal => literal
  | .string value => quoted value
  | .array items => "[" ++ writeItems items ++ "]"
  | .object members => "\x7b" ++ writeMembers members ++ "\x7d"

def writeItems : List Json → String
  | [] => ""
  | [item] => write item
  | item :: rest => write item ++ "," ++ writeItems rest

def writeMembers : List (String × Json) → String
  | [] => ""
  | [(key, value)] => quoted key ++ ":" ++ write value
  | (key, value) :: rest => quoted key ++ ":" ++ write value ++ "," ++ writeMembers rest

end

end Cutover.Json
