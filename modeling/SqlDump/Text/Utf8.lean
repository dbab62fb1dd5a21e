import SqlDump.Text.Symbol

/-!
# Texts as UTF-8 octets

Reading never fails: an octet that is not part of a well-formed sequence becomes
a stray symbol of its own. Writing gives each symbol its octets again, so that
`encode (decode octets) = octets` for every octet list. Lone surrogates have none;
`Encoding.encode` refuses the texts that hold one. The strict reading reports the
first defect instead, with the octets it spans.

A sequence is read octet by octet. The first octet says how many octets follow
and which range the second one may take; overlong forms, surrogates and values
above U+10FFFF are excluded by that range.
-/

namespace SqlDump.Utf8

/-- What the first octet of a longer sequence announces: its own bits, how many
octets follow, and the range of the second one. -/
structure Lead where
  bits : Nat
  following : Nat
  low : Nat := 0x80
  high : Nat := 0xBF
  deriving DecidableEq, Repr

/-- The announcement of a first octet from 0x80 up; none where no sequence starts so. -/
def lead? (octet : Nat) : Option Lead :=
  if octet < 0xC2 then none
  else if octet < 0xE0 then some { bits := octet - 0xC0, following := 1 }
  else if octet = 0xE0 then some { bits := 0, following := 2, low := 0xA0 }
  else if octet = 0xED then some { bits := 0xD, following := 2, high := 0x9F }
  else if octet < 0xF0 then some { bits := octet - 0xE0, following := 2 }
  else if octet = 0xF0 then some { bits := 0, following := 3, low := 0x90 }
  else if octet < 0xF4 then some { bits := octet - 0xF0, following := 3 }
  else if octet = 0xF4 then some { bits := 4, following := 3, high := 0x8F }
  else none

/-- Why a sequence is not well formed. -/
inductive Reason where
  /-- No sequence starts with this octet. -/
  | start
  /-- An octet cannot continue the sequence. -/
  | continuation
  /-- The octets end inside the sequence. -/
  | ending
  deriving DecidableEq, Repr

/-- A defect and the number of octets that were well formed up to it. -/
structure Defect where
  span : Nat
  reason : Reason
  deriving DecidableEq, Repr

/-- Reads the octets that a sequence still owes. The first of them has to lie
between `low` and `high`, the others between 0x80 and 0xBF. -/
def continuation (bits span : Nat) : (owed low high : Nat) → Octets → Except Defect Nat
  | 0, _, _, _ => .ok bits
  | _ + 1, _, _, [] => .error { span, reason := .ending }
  | owed + 1, low, high, octet :: rest =>
      if low ≤ octet.toNat ∧ octet.toNat ≤ high then
        continuation (bits * 64 + (octet.toNat - 0x80)) (span + 1) owed 0x80 0xBF rest
      else .error { span, reason := .continuation }

/-- The character that the octets start with and the number of octets after its
first one. -/
def sequence (first : UInt8) (rest : Octets) : Except Defect (Char × Nat) :=
  if first.toNat < 0x80 then .ok (Char.ofNat first.toNat, 0)
  else
    match lead? first.toNat with
    | none => .error { span := 1, reason := .start }
    | some lead =>
        match continuation lead.bits 1 lead.following lead.low lead.high rest with
        | .ok value => .ok (Char.ofNat value, lead.following)
        | .error defect => .error defect

/-- The stray symbol of an octet from 0x80 up. -/
def strayOf (octet : UInt8) : Symbol :=
  .stray ⟨octet.toNat % 128, Nat.mod_lt _ (by decide)⟩

/-- Reads octets in front of which `made` has been read already, newest first;
the next `skip` octets belong to the newest character. -/
def decodeOnto (made : Text) : (skip : Nat) → Octets → Text
  | _, [] => made.reverse
  | skip + 1, _ :: rest => decodeOnto made skip rest
  | 0, octet :: rest =>
      match sequence octet rest with
      | .ok (value, following) => decodeOnto (.char value :: made) following rest
      | .error _ => decodeOnto (strayOf octet :: made) 0 rest

def decode (octets : Octets) : Text :=
  decodeOnto [] 0 octets

theorem decodeOnto_eq (made : Text) (skip : Nat) (octets : Octets) :
    decodeOnto made skip octets = made.reverse ++ decode (octets.drop skip) := by
  induction octets generalizing made skip with
  | nil => simp [decodeOnto, decode]
  | cons octet rest hypothesis =>
      cases skip with
      | succ skip => simp [decodeOnto, hypothesis]
      | zero =>
          simp only [decodeOnto, decode, List.drop_zero]
          cases sequence octet rest with
          | ok found => simp [hypothesis]
          | error defect => simp [hypothesis]

@[simp] theorem decode_nil : decode [] = [] := rfl

/-- A well-formed sequence gives its character; any other octet is stray. -/
theorem decode_cons (octet : UInt8) (rest : Octets) :
    decode (octet :: rest) =
      match sequence octet rest with
      | .ok (value, following) => .char value :: decode (rest.drop following)
      | .error _ => strayOf octet :: decode rest := by
  rw [decode, decodeOnto]
  cases sequence octet rest with
  | ok found => simp [decodeOnto_eq]
  | error defect => simp [decodeOnto_eq]

def encodeChar (value : Char) : Octets :=
  let code := value.toNat
  let tail (bits : Nat) : UInt8 := UInt8.ofNat (0x80 + bits % 64)
  if code < 0x80 then [UInt8.ofNat code]
  else if code < 0x800 then [UInt8.ofNat (0xC0 + code / 64), tail code]
  else if code < 0x10000 then
    [UInt8.ofNat (0xE0 + code / 4096), tail (code / 64), tail code]
  else
    [UInt8.ofNat (0xF0 + code / 262144), tail (code / 4096), tail (code / 64), tail code]

/-- The octets of a symbol, none for a lone surrogate. -/
def encodeSymbol : Symbol → Octets
  | .char value => encodeChar value
  | .stray offset => [UInt8.ofNat (0x80 + offset.val)]
  | .lone _ => []

/-- The octets of the symbols that have some. -/
def encode (content : Text) : Octets :=
  content.flatMap encodeSymbol

@[simp] theorem encode_nil : encode [] = [] := rfl

@[simp] theorem encode_cons (symbol : Symbol) (rest : Text) :
    encode (symbol :: rest) = encodeSymbol symbol ++ encode rest := by
  simp [encode]

@[simp] theorem encode_append (left right : Text) :
    encode (left ++ right) = encode left ++ encode right := by
  simp [encode]

/-- A defect of octets that are not UTF-8, with its place and its first octet. -/
structure Invalid where
  place : Nat
  first : UInt8
  defect : Defect
  deriving DecidableEq, Repr

/-- Strict reading of octets that start at `place`; the next `skip` of them belong
to the newest character. -/
def readOnto (made : Text) (place : Nat) : (skip : Nat) → Octets → Except Invalid Text
  | _, [] => .ok made.reverse
  | skip + 1, _ :: rest => readOnto made (place + 1) skip rest
  | 0, octet :: rest =>
      match sequence octet rest with
      | .ok (value, following) => readOnto (.char value :: made) (place + 1) following rest
      | .error defect => .error { place, first := octet, defect }

/-- The text of octets that are UTF-8 throughout. -/
def read (octets : Octets) : Except Invalid Text :=
  readOnto [] 0 0 octets

end SqlDump.Utf8
