/-!
# Base 64

Bytes as text of letters, digits, `+` and `/`: each character carries six bits, and equals signs
fill the last group of four.
-/

namespace NetSweep.Http

def base64Char (n : Nat) : Char :=
  if n < 26 then Char.ofNat ('A'.toNat + n)
  else if n < 52 then Char.ofNat ('a'.toNat + (n - 26))
  else if n < 62 then Char.ofNat ('0'.toNat + (n - 52))
  else if n = 62 then '+'
  else '/'

def base64 : List UInt8 → List Char
  | a :: b :: c :: rest =>
    let n := (a.toNat * 256 + b.toNat) * 256 + c.toNat
    base64Char (n / 262144) :: base64Char (n / 4096 % 64) :: base64Char (n / 64 % 64)
      :: base64Char (n % 64) :: base64 rest
  | [a, b] =>
    let n := (a.toNat * 256 + b.toNat) * 4
    [base64Char (n / 4096), base64Char (n / 64 % 64), base64Char (n % 64), '=']
  | [a] =>
    let n := a.toNat * 16
    [base64Char (n / 64), base64Char (n % 64), '=', '=']
  | [] => []

example : String.ofList (base64 [77, 97, 110]) = "TWFu" := by decide
example : String.ofList (base64 [77, 97]) = "TWE=" := by decide
example : String.ofList (base64 [77]) = "TQ==" := by decide

end NetSweep.Http
