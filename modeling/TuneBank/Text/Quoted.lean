import TuneBank.Text.Invisible

/-! Quoted text in messages. Quotes and backslashes get a backslash, four controls have short
names, and any other character without a mark of its own is given by its number. -/

namespace TuneBank.Text

def smallHex (n : Nat) : List Char :=
  Nat.toDigits 16 n

def escape (c : Char) : List Char :=
  match c with
  | '"' => ['\\', '"']
  | '\\' => ['\\', '\\']
  | '\x00' => ['\\', '0']
  | '\t' => ['\\', 't']
  | '\r' => ['\\', 'r']
  | '\n' => ['\\', 'n']
  | c =>
    if isInvisible c then '\\' :: 'u' :: '\x7b' :: smallHex c.toNat ++ ['\x7d'] else [c]

def quote (s : String) : String :=
  String.ofList ('"' :: s.toList.flatMap escape ++ ['"'])

end TuneBank.Text
