namespace CacheTiers.Text

def encodeChar (c : Char) : List UInt8 :=
  let n := c.toNat
  if n < 0x80 then [n.toUInt8]
  else if n < 0x800 then [(0xc0 + n / 64).toUInt8, (0x80 + n % 64).toUInt8]
  else if n < 0x10000 then
    [(0xe0 + n / 4096).toUInt8, (0x80 + n / 64 % 64).toUInt8, (0x80 + n % 64).toUInt8]
  else
    [(0xf0 + n / 262144).toUInt8, (0x80 + n / 4096 % 64).toUInt8, (0x80 + n / 64 % 64).toUInt8,
      (0x80 + n % 64).toUInt8]

def encode (text : List Char) : List UInt8 := text.flatMap encodeChar

-- What the decoder is in the middle of: nothing, or a character of which `missing` bytes follow the next one, which
-- must lie from `low` to `high`.
inductive Decoding where
  | between
  | within (value missing : Nat) (low high : UInt8)
deriving DecidableEq, Repr

def beginChar (b : UInt8) : List (Option Char) × Decoding :=
  if b < 0x80 then ([some (Char.ofNat b.toNat)], .between)
  else if 0xc2 ≤ b && b ≤ 0xdf then ([], .within (b.toNat - 0xc0) 0 0x80 0xbf)
  else if b = 0xe0 then ([], .within 0 1 0xa0 0xbf)
  else if b = 0xed then ([], .within 0xd 1 0x80 0x9f)
  else if 0xe1 ≤ b && b ≤ 0xef then ([], .within (b.toNat - 0xe0) 1 0x80 0xbf)
  else if b = 0xf0 then ([], .within 0 2 0x90 0xbf)
  else if b = 0xf4 then ([], .within 4 2 0x80 0x8f)
  else if 0xf1 ≤ b && b ≤ 0xf3 then ([], .within (b.toNat - 0xf0) 2 0x80 0xbf)
  else ([none], .between)

-- Takes in one byte: the units that it completes, and what the decoder is in afterwards. A byte that cannot go on
-- with the character begun before ends it and begins anew.
def takeByte : Decoding → UInt8 → List (Option Char) × Decoding
  | .between, b => beginChar b
  | .within value missing low high, b =>
    if low ≤ b && b ≤ high then
      let value := value * 64 + (b.toNat - 0x80)
      match missing with
      | 0 => ([some (Char.ofNat value)], .between)
      | missing + 1 => ([], .within value missing 0x80 0xbf)
    else
      let (units, next) := beginChar b
      (none :: units, next)

def decodeFrom : Decoding → List UInt8 → List (Option Char)
  | .between, [] => []
  | .within .., [] => [none]
  | decoding, b :: rest =>
    let (units, next) := takeByte decoding b
    units ++ decodeFrom next rest

def decode (bytes : List UInt8) : List (Option Char) := decodeFrom .between bytes

def decode? (bytes : List UInt8) : Option (List Char) := (decode bytes).mapM id

def decodeLossy (bytes : List UInt8) : List Char :=
  (decode bytes).map fun unit => unit.getD (Char.ofNat 0xfffd)

end CacheTiers.Text
