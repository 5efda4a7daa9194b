import RuleTriggers.Saved.Value

/-!
The JSON text of a value, on one line without spaces. Within strings only what JSON demands is
escaped: quote, backslash and control characters.
-/

namespace RuleTriggers.Value

/-- The escape of a control character by its number, in four lower-case digits. -/
def controlEscape (c : Char) : Text :=
  let ds := Nat.toDigits 16 c.toNat
  ['\\', 'u'] ++ List.replicate (4 - ds.length) '0' ++ ds

def jsonChar (c : Char) : Text :=
  match c with
  | '"' => ['\\', '"']
  | '\\' => ['\\', '\\']
  | '\x08' => ['\\', 'b']
  | '\x0c' => ['\\', 'f']
  | '\n' => ['\\', 'n']
  | '\r' => ['\\', 'r']
  | '\t' => ['\\', 't']
  | c => if c.toNat < 0x20 then controlEscape c else [c]

def jsonString (t : Text) : Text := '"' :: t.flatMap jsonChar ++ ['"']

mutual

def json : Value → Text
  | null => ['n', 'u', 'l', 'l']
  | bool true => ['t', 'r', 'u', 'e']
  | bool false => ['f', 'a', 'l', 's', 'e']
  | int i => Text.signedDecimal i
  | text t => jsonString t
  | list vs => '[' :: [','].intercalate (jsonMembers vs) ++ [']']
  | object fields => '\x7b' :: [','].intercalate (jsonFields fields) ++ ['\x7d']

def jsonMembers : List Value → List Text
  | [] => []
  | v :: vs => json v :: jsonMembers vs

def jsonFields : List (Text × Value) → List Text
  | [] => []
  | (field, v) :: fields => (jsonString field ++ ':' :: json v) :: jsonFields fields

end

end RuleTriggers.Value
