/-!
# Octets

The characters that a list of octets encodes in the variable-length code of Unicode. A code of several octets has to be
the shortest of its character, complete, and none of those set aside for other codes.
-/

namespace IndicatorScript.Yaml.Octets

def followers? (octet : Nat) : Option (Nat × Nat × Nat) :=
  if 0xc2 ≤ octet ∧ octet ≤ 0xdf then some (1, 0x80, 0xbf)
  else if octet = 0xe0 then some (2, 0xa0, 0xbf)
  else if octet = 0xed then some (2, 0x80, 0x9f)
  else if 0xe1 ≤ octet ∧ octet ≤ 0xef then some (2, 0x80, 0xbf)
  else if octet = 0xf0 then some (3, 0x90, 0xbf)
  else if 0xf1 ≤ octet ∧ octet ≤ 0xf3 then some (3, 0x80, 0xbf)
  else if octet = 0xf4 then some (3, 0x80, 0x8f)
  else none

def fitting (count low high : Nat) : List Nat → Nat
  | [] => 0
  | octet :: rest =>
      match count with
      | 0 => 0
      | count + 1 => if low ≤ octet ∧ octet ≤ high then 1 + fitting count 0x80 0xbf rest else 0

def leadingBits (count octet : Nat) : Nat := octet % (1 <<< (6 - count))

def fault (octet position count : Nat) (reason : String) : String :=
  "'utf-8' codec can't decode " ++
    (if count = 1 then
      "byte 0x" ++ String.ofList (Nat.toDigits 16 octet) ++ " in position " ++ toString position
    else "bytes in position " ++ toString position ++ "-" ++ toString (position + count - 1)) ++ ": " ++ reason

def decodeFrom (position : Nat) : (steps : Nat) → List Nat → Except String (List Char)
  | 0, _ | _, [] => .ok []
  | steps + 1, octet :: rest =>
      if octet < 0x80 then (decodeFrom (position + 1) steps rest).map (Char.ofNat octet :: ·)
      else
        match followers? octet with
        | none => .error (fault octet position 1 "invalid start byte")
        | some (count, low, high) =>
            let found := fitting count low high rest
            if found = count then
              let code := (rest.take count).foldl (fun code next => 64 * code + next % 64) (leadingBits count octet)
              (decodeFrom (position + 1 + count) steps (rest.drop count)).map (Char.ofNat code :: ·)
            else if found = rest.length then
              .error (fault octet position (1 + found) "unexpected end of data")
            else .error (fault octet position (1 + found) "invalid continuation byte")

def decode (octets : List Nat) : Except String (List Char) := decodeFrom 0 octets.length octets

end IndicatorScript.Yaml.Octets
