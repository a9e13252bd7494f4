/-
# CallTree.Text.Base64 — octets as digits to the base 64.

Four digits stand for three octets; a last group of two or three digits stands for one or two octets
and is filled up with equals signs. Reading is lenient: characters that are no digits do not count,
and what follows a group that is filled up is not read.
-/

namespace CallTree.Text.Base64

/-- The digits, in the order of their values. -/
def digits : List Char :=
  "ABCDEFGHIJKLMNOPQRSTUVWXYZabcdefghijklmnopqrstuvwxyz0123456789+/".toList

/-- Why characters stand for no octets. -/
inductive Fault where
  /-- A last group of one digit; so many digits there are. -/
  | loose (count : Nat)
  /-- A last group that is not filled up. -/
  | padding
  deriving DecidableEq, Repr

/-- The octets of a group of digits: as many as its bits fill. -/
def groupOctets (group : List Nat) : List UInt8 :=
  let bits := group.foldl (fun n d => n * 64 + d) 0
  match group.length with
  | 2 => [UInt8.ofNat (bits / 16)]
  | 3 => [UInt8.ofNat (bits / 1024), UInt8.ofNat (bits / 4)]
  | 4 => [UInt8.ofNat (bits / 65536), UInt8.ofNat (bits / 256), UInt8.ofNat bits]
  | _ => []

/-- Read digits after `count` complete groups; `group` holds those of the next one, and `pads` the
equals signs after them. -/
def decodeFrom (count : Nat) (group : List Nat) (pads : Nat) :
    List Char → Except Fault (List UInt8)
  | [] =>
    match group.length with
    | 0 => .ok []
    | 1 => .error (.loose (count * 4 + 1))
    | _ => .error .padding
  | c :: rest =>
    if c = '=' then
      if 2 ≤ group.length && 4 ≤ group.length + pads + 1 then .ok (groupOctets group)
      else decodeFrom count group (if 2 ≤ group.length then pads + 1 else pads) rest
    else
      match digits.idxOf? c with
      | none => decodeFrom count group pads rest
      | some d =>
        let longer := group ++ [d]
        if longer.length = 4 then (decodeFrom (count + 1) [] 0 rest).map (groupOctets longer ++ ·)
        else decodeFrom count longer 0 rest

/-- **The octets that characters stand for.** -/
def decode (cs : List Char) : Except Fault (List UInt8) := decodeFrom 0 [] 0 cs

/-- The digit of a value. -/
def digit (n : Nat) : Char := (digits[n % 64]?).getD '='

/-- **The characters of octets.** -/
def encode : List UInt8 → List Char
  | [] => []
  | [a] => [digit (a.toNat / 4), digit (a.toNat * 16), '=', '=']
  | [a, b] =>
    let n := a.toNat * 256 + b.toNat
    [digit (n / 1024), digit (n / 16), digit (n * 4), '=']
  | a :: b :: c :: rest =>
    let n := (a.toNat * 256 + b.toNat) * 256 + c.toNat
    digit (n / 262144) :: digit (n / 4096) :: digit (n / 64) :: digit n :: encode rest

end CallTree.Text.Base64
