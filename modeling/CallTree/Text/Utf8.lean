/-
# CallTree.Text.Utf8 — octets as characters, with the faults told apart.

`pieces` cuts a list of octets into characters and faults. A fault covers the longest run of octets
that starts some character (a lead octet and the continuation octets that fit it), so that the
strict reading can name its place and the lenient reading puts one replacement character for each.
Overlong forms, surrogates and codes past the last plane are excluded by the range of the second
octet, in the one table `lead?`.
-/

namespace CallTree.Text.Utf8

/-- What is wrong with a run of octets. -/
inductive FaultKind where
  /-- The octet starts no character. -/
  | startOctet
  /-- The octet after the run does not continue it. -/
  | continuation
  /-- The octets end inside a character. -/
  | truncated
  deriving DecidableEq, Repr

/-- A character, or a run of octets that is none. -/
inductive Piece where
  | char (c : Char)
  | fault (kind : FaultKind) (octets : List UInt8)
  deriving DecidableEq, Repr

/-- For a lead octet: how many octets follow it and the range of the first of them. -/
def lead? (a : UInt8) : Option (Nat × UInt8 × UInt8) :=
  if a < 0xc2 then none
  else if a < 0xe0 then some (1, 0x80, 0xbf)
  else if a = 0xe0 then some (2, 0xa0, 0xbf)
  else if a = 0xed then some (2, 0x80, 0x9f)
  else if a < 0xf0 then some (2, 0x80, 0xbf)
  else if a = 0xf0 then some (3, 0x90, 0xbf)
  else if a < 0xf4 then some (3, 0x80, 0xbf)
  else if a = 0xf4 then some (3, 0x80, 0x8f)
  else none

/-- Whether an octet continues a character. -/
def isTail (b : UInt8) : Bool := 0x80 ≤ b && b ≤ 0xbf

/-- The six bits that a continuation octet carries. -/
def tailBits (b : UInt8) : Nat := b.toNat % 64

/-- Cut octets into characters and faults. -/
def pieces : List UInt8 → List Piece
  | [] => []
  | a :: r1 =>
    if a < 0x80 then .char (Char.ofNat a.toNat) :: pieces r1
    else
      match lead? a with
      | none => .fault .startOctet [a] :: pieces r1
      | some (count, lo, hi) =>
        match r1 with
        | [] => [.fault .truncated [a]]
        | b :: r2 =>
          if b < lo || hi < b then .fault .continuation [a] :: pieces (b :: r2)
          else if count = 1 then
            .char (Char.ofNat (a.toNat % 32 * 64 + tailBits b)) :: pieces r2
          else
            match r2 with
            | [] => [.fault .truncated [a, b]]
            | c :: r3 =>
              if !isTail c then .fault .continuation [a, b] :: pieces (c :: r3)
              else if count = 2 then
                .char (Char.ofNat ((a.toNat % 16 * 64 + tailBits b) * 64 + tailBits c)) ::
                  pieces r3
              else
                match r3 with
                | [] => [.fault .truncated [a, b, c]]
                | d :: r4 =>
                  if !isTail d then .fault .continuation [a, b, c] :: pieces (d :: r4)
                  else
                    .char (Char.ofNat
                      (((a.toNat % 8 * 64 + tailBits b) * 64 + tailBits c) * 64 + tailBits d)) ::
                      pieces r4

/-- The first fault of a strict reading: its kind, its place and its octets. -/
structure Fault where
  kind : FaultKind
  position : Nat
  octets : List UInt8
  deriving DecidableEq, Repr

/-- The characters of a list of pieces that has no fault; `offset` octets precede it. -/
def strict : (offset : Nat) → List Piece → Except Fault (List Char)
  | _, [] => .ok []
  | offset, .char c :: rest => (strict (offset + c.utf8Size) rest).map (c :: ·)
  | offset, .fault kind octets :: _ => .error ⟨kind, offset, octets⟩

/-- Read octets as text, or name the first fault. -/
def decode (octets : List UInt8) : Except Fault String :=
  (strict 0 (pieces octets)).map String.ofList

/-- Read octets as characters, with a replacement character for every fault. -/
def decodeLossy (octets : List UInt8) : List Char :=
  (pieces octets).map fun
    | .char c => c
    | .fault _ _ => Char.ofNat 0xfffd

/-- The octets of a text. -/
def encode (s : String) : List UInt8 := s.toList.flatMap String.utf8EncodeChar

/-- Two hexadecimal digits in lower case. -/
def hexOctet (b : UInt8) : String :=
  let digits := Nat.toDigits 16 b.toNat
  String.ofList (if digits.length = 1 then '0' :: digits else digits)

/-- The sentence that reports a fault. -/
def Fault.message (f : Fault) : String :=
  let place :=
    match f.octets with
    | [b] => "byte 0x" ++ hexOctet b ++ " in position " ++ toString f.position
    | _ => "bytes in position " ++ toString f.position ++ "-" ++
        toString (f.position + f.octets.length - 1)
  let reason :=
    match f.kind with
    | .startOctet => "invalid start byte"
    | .continuation => "invalid continuation byte"
    | .truncated => "unexpected end of data"
  "'utf-8' codec can't decode " ++ place ++ ": " ++ reason

end CallTree.Text.Utf8
