import ReleaseTrigger.Text.Basic

/-! # Base 64

Three octets are four digits of six bits; a shorter last group is padded with equals signs.
-/

namespace ReleaseTrigger.Base64

/-- The digits in the order of their values. -/
def alphabet : Text :=
  Text.of "ABCDEFGHIJKLMNOPQRSTUVWXYZabcdefghijklmnopqrstuvwxyz0123456789+/"

/-- The character of a digit below 64. -/
def digitChar (digit : Nat) : Char := alphabet.getD digit '='

def digit? (c : Char) : Option Nat :=
  (alphabet.idxOf? c)

def encode : Octets → Text
  | [] => []
  | [a] =>
    let bits := a.toNat * 16
    [digitChar (bits / 64), digitChar (bits % 64), '=', '=']
  | [a, b] =>
    let bits := (a.toNat * 256 + b.toNat) * 4
    [digitChar (bits / 4096), digitChar (bits / 64 % 64), digitChar (bits % 64), '=']
  | a :: b :: c :: rest =>
    let bits := (a.toNat * 256 + b.toNat) * 256 + c.toNat
    digitChar (bits / 262144) :: digitChar (bits / 4096 % 64) :: digitChar (bits / 64 % 64) ::
      digitChar (bits % 64) :: encode rest

/-- The octets that an encoding stands for; unused bits must be zero. -/
def decode? : Text → Option Octets
  | [] => some []
  | a :: b :: '=' :: '=' :: [] => do
    let bits := (← digit? a) * 64 + (← digit? b)
    if bits % 16 = 0 then some [(bits / 16).toUInt8] else none
  | a :: b :: c :: '=' :: [] => do
    let bits := ((← digit? a) * 64 + (← digit? b)) * 64 + (← digit? c)
    if bits % 4 = 0 then some [(bits / 1024).toUInt8, (bits / 4 % 256).toUInt8] else none
  | a :: b :: c :: d :: rest => do
    let bits := (((← digit? a) * 64 + (← digit? b)) * 64 + (← digit? c)) * 64 + (← digit? d)
    let others ← decode? rest
    some ((bits / 65536).toUInt8 :: (bits / 256 % 256).toUInt8 :: (bits % 256).toUInt8 :: others)
  | _ => none

end ReleaseTrigger.Base64
