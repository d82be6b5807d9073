import Stencil.Text

set_option autoImplicit false

namespace Stencil.Utf8

/-- What a first byte promises: how many bytes follow, and the bounds of the second one. -/
structure Lead where
  follow : Nat
  low : UInt8
  high : UInt8
deriving Repr, DecidableEq

def lead? (b : UInt8) : Option Lead :=
  if b < 0x80 then some ⟨0, 0x80, 0xBF⟩
  else if b < 0xC2 then none
  else if b < 0xE0 then some ⟨1, 0x80, 0xBF⟩
  else if b = 0xE0 then some ⟨2, 0xA0, 0xBF⟩
  else if b = 0xED then some ⟨2, 0x80, 0x9F⟩
  else if b < 0xF0 then some ⟨2, 0x80, 0xBF⟩
  else if b = 0xF0 then some ⟨3, 0x90, 0xBF⟩
  else if b < 0xF4 then some ⟨3, 0x80, 0xBF⟩
  else if b = 0xF4 then some ⟨3, 0x80, 0x8F⟩
  else none

def isTail (b : UInt8) : Bool := 0x80 ≤ b && b ≤ 0xBF

/-- The payload of a byte that follows the first. -/
def tailBits (b : UInt8) : Nat := b.toNat % 64

/-- Characters, and `none` for each bad stretch: a longest beginning of some well-formed sequence,
or a single byte that begins none. -/
def decode : List UInt8 → List (Option Char)
  | [] => []
  | a :: afterA =>
      match lead? a with
      | none => none :: decode afterA
      | some lead =>
          if lead.follow = 0 then some (Char.ofNat a.toNat) :: decode afterA
          else
            match afterA with
            | [] => [none]
            | b :: afterB =>
                if !(lead.low ≤ b && b ≤ lead.high) then none :: decode (b :: afterB)
                else if lead.follow = 1 then
                  some (Char.ofNat (a.toNat % 32 * 64 + tailBits b)) :: decode afterB
                else
                  match afterB with
                  | [] => [none]
                  | c :: afterC =>
                      if !isTail c then none :: decode (c :: afterC)
                      else if lead.follow = 2 then
                        some (Char.ofNat ((a.toNat % 16 * 64 + tailBits b) * 64 + tailBits c)) ::
                          decode afterC
                      else
                        match afterC with
                        | [] => [none]
                        | d :: afterD =>
                            if !isTail d then none :: decode (d :: afterD)
                            else
                              some (Char.ofNat (((a.toNat % 8 * 64 + tailBits b) * 64 +
                                tailBits c) * 64 + tailBits d)) ::
                                decode afterD

/-- The text that well-formed bytes hold. -/
def text? (bytes : List UInt8) : Option Text := (decode bytes).mapM id

/-- The text of any bytes, each bad stretch replaced by U+FFFD. -/
def lossyText (bytes : List UInt8) : Text := (decode bytes).map (·.getD '\uFFFD')

def encodeChar (c : Char) : List UInt8 := String.utf8EncodeChar c

def encode (text : Text) : List UInt8 := text.flatMap encodeChar

def size (text : Text) : Nat := (encode text).length

end Stencil.Utf8
