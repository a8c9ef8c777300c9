import Disburse.Json.Value
import Disburse.Text.Hex
import Disburse.Text.Numeral

namespace Disburse.Json

open Disburse.Text

def escape (c : Char) : List Char :=
  if c = '"' then ['\\', '"']
  else if c = '\\' then ['\\', '\\']
  else if c = '\n' then ['\\', 'n']
  else if c = '\r' then ['\\', 'r']
  else if c = '\t' then ['\\', 't']
  else if c = '\x08' then ['\\', 'b']
  else if c = '\x0c' then ['\\', 'f']
  else if c.toNat < 0x20 then '\\' :: 'u' :: Hex.fixed 4 c.toNat
  else [c]

def quote (s : String) : List Char :=
  '"' :: (s.toList.flatMap escape ++ ['"'])

mutual

/-- The characters of a value, without white space between them. -/
def chars : Json → List Char
  | .null => ['n', 'u', 'l', 'l']
  | .bool true => ['t', 'r', 'u', 'e']
  | .bool false => ['f', 'a', 'l', 's', 'e']
  | .int n => Numeral.signed n
  | .real literal => literal.toList
  | .str s => quote s
  | .arr [] => ['[', ']']
  | .arr (v :: vs) => '[' :: (chars v ++ itemsTail vs)
  | .obj [] => ['\x7b', '\x7d']
  | .obj ((name, v) :: ms) =>
    '\x7b' :: (quote name ++ ':' :: (chars v ++ membersTail ms))
  | .garbled => ['n', 'u', 'l', 'l']

/-- The items after the first one, and the closing bracket. -/
def itemsTail : List Json → List Char
  | [] => [']']
  | v :: vs => ',' :: (chars v ++ itemsTail vs)

/-- The members after the first one, and the closing brace. -/
def membersTail : List (String × Json) → List Char
  | [] => ['\x7d']
  | (name, v) :: ms => ',' :: (quote name ++ ':' :: (chars v ++ membersTail ms))

end

def render (v : Json) : String :=
  String.ofList v.chars

end Disburse.Json
