import LoginGateway.Text.Mark

namespace LoginGateway.Text.Quoted

def escape (c : Char) : List Char :=
  if c = '\t' then ['\\', 't']
  else if c = '\r' then ['\\', 'r']
  else if c = '\n' then ['\\', 'n']
  else if c = '\x00' then ['\\', '0']
  else if c = '"' || c = '\\' then ['\\', c]
  else if isHidden c || extendsCharacter c then
    "\\u\x7b".toList ++ Nat.toDigits 16 c.toNat ++ ['}']
  else [c]

def quote (s : String) : String := String.ofList ('"' :: s.toList.flatMap escape ++ ['"'])

example : quote "a\"b\t" = "\"a\\\"b\\t\"" := by decide +kernel

end LoginGateway.Text.Quoted
