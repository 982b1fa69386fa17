import LintMend.Text.Basic

/-! # Texts as octets

Files hold octets; a text is stored in them as UTF-8.
* `encode`: the octets of a text.
* `scan`: the character at the front of some octets, or what is wrong there and how far it reaches.
* `decode`: the text of well-formed octets, or the first place where they are malformed.
* `decodeLossy`: the text of any octets, with a replacement character for each malformed stretch. -/

namespace LintMend

/-- The content of a file. -/
abbrev Octets := List UInt8

namespace Text

/-- The octets of one character. -/
def encodeChar (c : Char) : Octets :=
  let n := c.toNat
  if n < 0x80 then [n.toUInt8]
  else if n < 0x800 then [(0xC0 + n / 0x40).toUInt8, (0x80 + n % 0x40).toUInt8]
  else if n < 0x10000 then
    [(0xE0 + n / 0x1000).toUInt8, (0x80 + n / 0x40 % 0x40).toUInt8, (0x80 + n % 0x40).toUInt8]
  else
    [(0xF0 + n / 0x40000).toUInt8, (0x80 + n / 0x1000 % 0x40).toUInt8,
      (0x80 + n / 0x40 % 0x40).toUInt8, (0x80 + n % 0x40).toUInt8]

/-- The octets of a text. -/
def encode (t : Text) : Octets := t.flatMap encodeChar

@[simp] theorem encode_nil : encode [] = [] := rfl

@[simp] theorem encode_cons (c : Char) (t : Text) : encode (c :: t) = encodeChar c ++ encode t :=
  rfl

@[simp] theorem encode_append (t u : Text) : encode (t ++ u) = encode t ++ encode u := by
  simp [encode]

/-- What can be wrong with octets. -/
inductive Malformation
  /-- An octet that begins no character. -/
  | start
  /-- An octet that cannot follow the ones before it. -/
  | continuation
  /-- The octets end inside a character. -/
  | truncated
  deriving DecidableEq, Repr

/-- What stands at the front of some octets. -/
inductive Scan
  /-- A character, spelled by the first octet and `more` others. -/
  | scalar (c : Char) (more : Nat)
  /-- A malformed stretch of the first octet and `more` others. -/
  | malformed (why : Malformation) (more : Nat)
  deriving DecidableEq, Repr

/-- The bits that an octet adds to the character, if it can stand after the first one and lies
between `low` and `high`. -/
def trailingBits? (low high : Nat) (octet : UInt8) : Option Nat :=
  if low ≤ octet.toNat ∧ octet.toNat ≤ high then some (octet.toNat - 0x80) else none

/-- The bounds of the second octet after `first`: they keep out overlong spellings, surrogates and
numbers beyond the last code point. -/
def secondBounds (first : Nat) : Nat × Nat :=
  if first = 0xE0 then (0xA0, 0xBF)
  else if first = 0xED then (0x80, 0x9F)
  else if first = 0xF0 then (0x90, 0xBF)
  else if first = 0xF4 then (0x80, 0x8F)
  else (0x80, 0xBF)

/-- Read the octets that follow a first one: `left` of them are still due, the next between the
given bounds, `bits` are known, and `more` have been read. -/
def scanTrailing (bounds : Nat × Nat) (bits more : Nat) : Nat → Octets → Scan
  | 0, _ => .scalar (Char.ofNat bits) more
  | _ + 1, [] => .malformed .truncated more
  | left + 1, octet :: rest =>
      match trailingBits? bounds.1 bounds.2 octet with
      | none => .malformed .continuation more
      | some add => scanTrailing (0x80, 0xBF) (bits * 0x40 + add) (more + 1) left rest

/-- What stands at the front of the octets `octet :: rest`. -/
def scan (octet : UInt8) (rest : Octets) : Scan :=
  let first := octet.toNat
  if first < 0x80 then .scalar (Char.ofNat first) 0
  else if first < 0xC2 then .malformed .start 0
  else if first < 0xE0 then scanTrailing (secondBounds first) (first - 0xC0) 0 1 rest
  else if first < 0xF0 then scanTrailing (secondBounds first) (first - 0xE0) 0 2 rest
  else if first < 0xF5 then scanTrailing (secondBounds first) (first - 0xF0) 0 3 rest
  else .malformed .start 0

/-- The character that stands in for a malformed stretch. -/
def replacement : Char := Char.ofNat 0xFFFD

/-- The text of some octets of which the first `skip` are already accounted for. -/
def decodeLossyFrom : Nat → Octets → Text
  | _, [] => []
  | skip + 1, _ :: rest => decodeLossyFrom skip rest
  | 0, octet :: rest =>
      match scan octet rest with
      | .scalar c more => c :: decodeLossyFrom more rest
      | .malformed _ more => replacement :: decodeLossyFrom more rest

/-- The text of any octets, with a replacement character for each malformed stretch. -/
def decodeLossy (octets : Octets) : Text := decodeLossyFrom 0 octets

@[simp] theorem decodeLossy_nil : decodeLossy [] = [] := rfl

/-- Where and how octets are malformed. -/
structure Malformed where
  /-- How many octets come before the malformed stretch. -/
  position : Nat
  /-- The first octet of the stretch. -/
  octet : UInt8
  /-- How many other octets belong to the stretch. -/
  more : Nat
  /-- What is wrong with it. -/
  why : Malformation
  deriving DecidableEq, Repr

/-- The text of octets that begin at `position`, the first `skip` already accounted for. -/
def decodeFrom : Nat → Nat → Octets → Except Malformed Text
  | _, _, [] => .ok []
  | position, skip + 1, _ :: rest => decodeFrom (position + 1) skip rest
  | position, 0, octet :: rest =>
      match scan octet rest with
      | .scalar c more => (decodeFrom (position + 1) more rest).map (c :: ·)
      | .malformed why more => .error ⟨position, octet, more, why⟩

/-- The text of octets, or the first place where they are malformed. -/
def decode (octets : Octets) : Except Malformed Text := decodeFrom 0 0 octets

@[simp] theorem decode_nil : decode [] = .ok [] := rfl

end Text

end LintMend
