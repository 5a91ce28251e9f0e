import ResourceSync.Text.Shape

/-! Text in quotes, as diagnostics show it: quotes, backslashes and characters without a shape
are escaped. -/
namespace ResourceSync.Text

def hexDigits (n : Nat) : List Char := Nat.toDigits 16 n

/-- How one character stands between the quotes. -/
def shown (c : Char) : List Char :=
  if c = '"' then ['\\', '"']
  else if c = '\\' then ['\\', '\\']
  else if c = '\n' then ['\\', 'n']
  else if c = '\r' then ['\\', 'r']
  else if c = '\t' then ['\\', 't']
  else if c = '\x00' then ['\\', '0']
  else if hasShape c then [c]
  else ['\\', 'u', '\x7b'] ++ hexDigits c.toNat ++ ['\x7d']

def quoted (s : String) : String :=
  String.ofList ('"' :: s.toList.flatMap shown ++ ['"'])

example : quoted "a\"\x07" = "\"a\\\"\\u\x7b7\x7d\"" := by decide

end ResourceSync.Text
