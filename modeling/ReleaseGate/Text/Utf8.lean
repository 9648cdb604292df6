/-!
# UTF-8 — reading bytes as text, strictly or with replacement

`decode?` accepts exactly the well-formed sequences: no overlong form, no surrogate, nothing above
`10FFFF`. `decodeReplacing` puts `U+FFFD` for each maximal piece that no well-formed sequence can
continue, so a cut sequence costs one replacement and each stray byte one of its own. Both walk
the same function `next`, which looks at the first character only.
-/

namespace ReleaseGate.Text

/-- What stands at the front of a byte sequence: a character of some length, or a bad piece. -/
inductive Front where
  /-- A well-formed character, and the number of bytes after its first. -/
  | char (c : Char) (more : Nat)
  /-- A piece that begins no character, and the number of bytes after its first. -/
  | bad (more : Nat)
  deriving Repr

/-- A continuation byte in the given range. -/
def within (lo hi : Nat) (b : UInt8) : Bool :=
  lo ≤ b.toNat && b.toNat ≤ hi

/-- The range the second byte must lie in after the lead byte `b`, and how many bytes follow `b`
in all; none when `b` leads nothing. -/
def leadOf (b : UInt8) : Option (Nat × Nat × Nat) :=
  let n := b.toNat
  if 0xC2 ≤ n && n ≤ 0xDF then some (1, 0x80, 0xBF)
  else if n == 0xE0 then some (2, 0xA0, 0xBF)
  else if n == 0xED then some (2, 0x80, 0x9F)
  else if 0xE1 ≤ n && n ≤ 0xEF then some (2, 0x80, 0xBF)
  else if n == 0xF0 then some (3, 0x90, 0xBF)
  else if 0xF1 ≤ n && n ≤ 0xF3 then some (3, 0x80, 0xBF)
  else if n == 0xF4 then some (3, 0x80, 0x8F)
  else none

/-- The low six bits of a continuation byte. -/
def tailBits (b : UInt8) : Nat :=
  b.toNat % 64

/-- The first character of `b :: rest`, or the piece to be replaced there. -/
def front (b : UInt8) (rest : List UInt8) : Front :=
  if b.toNat < 0x80 then .char (Char.ofNat b.toNat) 0
  else match leadOf b with
    | none => .bad 0
    | some (n, lo, hi) =>
      match rest with
      | [] => .bad 0
      | b1 :: rest1 =>
        if !within lo hi b1 then .bad 0
        else if n == 1 then .char (Char.ofNat ((b.toNat % 32) * 64 + tailBits b1)) 1
        else match rest1 with
          | [] => .bad 1
          | b2 :: rest2 =>
            if !within 0x80 0xBF b2 then .bad 1
            else if n == 2 then
              .char (Char.ofNat (((b.toNat % 16) * 64 + tailBits b1) * 64 + tailBits b2)) 2
            else match rest2 with
              | [] => .bad 2
              | b3 :: _ =>
                if !within 0x80 0xBF b3 then .bad 2
                else .char (Char.ofNat
                  ((((b.toNat % 8) * 64 + tailBits b1) * 64 + tailBits b2) * 64 + tailBits b3)) 3

/-- Decode, skipping `skip` bytes that belong to a character already read. -/
def decodeFrom : Nat → List UInt8 → Option (List Char)
  | _, [] => some []
  | skip + 1, _ :: rest => decodeFrom skip rest
  | 0, b :: rest =>
    match front b rest with
    | .char c more => (decodeFrom more rest).map (c :: ·)
    | .bad _ => none

/-- The text of a well-formed byte sequence. -/
def decode? (bytes : List UInt8) : Option String :=
  (decodeFrom 0 bytes).map String.ofList

/-- Decode with replacement, skipping `skip` bytes already accounted for. -/
def replaceFrom : Nat → List UInt8 → List Char
  | _, [] => []
  | skip + 1, _ :: rest => replaceFrom skip rest
  | 0, b :: rest =>
    match front b rest with
    | .char c more => c :: replaceFrom more rest
    | .bad more => '\uFFFD' :: replaceFrom more rest

/-- The text of any byte sequence, with `U+FFFD` for each piece that is not UTF-8. -/
def decodeReplacing (bytes : List UInt8) : String :=
  String.ofList (replaceFrom 0 bytes)

/-- The UTF-8 bytes of a text. -/
def encode (s : String) : List UInt8 :=
  s.toUTF8.toList

end ReleaseGate.Text
