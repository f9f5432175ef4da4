namespace LoginGateway.Text.Utf8

def encode (s : String) : List UInt8 := s.toList.flatMap String.utf8EncodeChar

def decode? (bytes : List UInt8) : Option String := String.fromUTF8? ⟨bytes.toArray⟩

example : encode "é" = [0xC3, 0xA9] := by decide +kernel

end LoginGateway.Text.Utf8
