import ArtifactLens.Text.Digit

/-!
# Character sets of eight bits

How the octets of the common character set and of two older ones of punched cards stand for each
other. A table lists what the octets from zero to 255 become, two hexadecimal digits each.
-/

namespace ArtifactLens.Shell

namespace Charset

/-- What the octets of cards become. -/
def fromCards : String :=
  "000102039c09867f978d8e0b0c0d0e0f101112139d8508871819928f1c1d1e1f80818283840a171b88898a8b" ++
    "8c050607909116939495960498999a9b14159e1a20a0a1a2a3a4a5a6a7a8d52e3c282b7c26a9aaabacadaeaf" ++
    "b0b121242a293b7e2d2fb2b3b4b5b6b7b8b9cb2c255f3e3fbabbbcbdbebfc0c1c2603a2340273d22c3616263" ++
    "646566676869c4c5c6c7c8c9ca6a6b6c6d6e6f7071725ecccdcecfd0d1e5737475767778797ad2d3d45bd6d7" ++
    "d8d9dadbdcdddedfe0e1e2e3e45de6e77b414243444546474849e8e9eaebeced7d4a4b4c4d4e4f505152eeef" ++
    "f0f1f2f35c9f535455565758595af4f5f6f7f8f930313233343536373839fafbfcfdfeff"

/-- What octets become on cards. -/
def toCards : String :=
  "00010203372d2e2f1605250b0c0d0e0f101112133c3d322618193f271c1d1e1f405a7f7b5b6c507d4d5d5c4e" ++
    "6b604b61f0f1f2f3f4f5f6f7f8f97a5e4c7e6e6f7cc1c2c3c4c5c6c7c8c9d1d2d3d4d5d6d7d8d9e2e3e4e5e6" ++
    "e7e8e9ade0bd9a6d79818283848586878889919293949596979899a2a3a4a5a6a7a8a9c04fd05f0720212223" ++
    "2415061728292a2b2c090a1b30311a333435360838393a3b04143ee141424344454647484951525354555657" ++
    "58596263646566676869707172737475767778808a8b8c8d8e8f906a9b9c9d9e9fa0aaabac4aaeafb0b1b2b3" ++
    "b4b5b6b7b8b9babbbca1bebfcacbcccdcecfdadbdcdddedfeaebecedeeeffafbfcfdfeff"

/-- What octets become on cards of another make. -/
def toOtherCards : String :=
  "00010203372d2e2f1605250b0c0d0e0f101112133c3d322618193f271c1d1e1f405a7f7b5b6c507d4d5d5c4e" ++
    "6b604b61f0f1f2f3f4f5f6f7f8f97a5e4c7e6e6f7cc1c2c3c4c5c6c7c8c9d1d2d3d4d5d6d7d8d9e2e3e4e5e6" ++
    "e7e8e9ade0bd5f6d79818283848586878889919293949596979899a2a3a4a5a6a7a8a9c04fd0a10720212223" ++
    "2415061728292a2b2c090a1b30311a333435360838393a3b04143ee141424344454647484951525354555657" ++
    "58596263646566676869707172737475767778808a8b8c8d8e8f909a9b9c9d9e9fa0aaabacadaeafb0b1b2b3" ++
    "b4b5b6b7b8b9babbbcbdbebfcacbcccdcecfdadbdcdddedfeaebecedeeeffafbfcfdfeff"

/-- A table as an array. -/
def read (table : String) : Array Char :=
  let rec go (done : Array Char) : List Char → Array Char
    | high :: low :: rest => go (done.push (Char.ofNat (Digit.hexNumeral [high, low]))) rest
    | _ => done
  go #[] table.toList

end Charset

end ArtifactLens.Shell
