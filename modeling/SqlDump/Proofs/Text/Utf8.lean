import Mathlib.Tactic.SplitIfs
import SqlDump.Text.Encoding

/-!
# Octets through texts and back

The ranges that a sequence's octets are read in leave one way to write the character
that they give, and this way is the octets themselves. What is not part of a
sequence is stray and is written as it was.

Main statements: `encodeChar_of_sequence` writes a sequence again, and
`encode_decode` any octets; `hasLone_decode` says that what was read can always be
written.
-/

namespace SqlDump.Utf8

/-! ## Sequences -/

/-- What the octet of a sequence after its first one was read as. -/
theorem continuation_succ_eq_ok {bits span owed low high value : Nat} {octets : Octets}
    (read : continuation bits span (owed + 1) low high octets = .ok value) :
    ∃ octet rest, octets = octet :: rest ∧ (low ≤ octet.toNat ∧ octet.toNat ≤ high) ∧
      continuation (bits * 64 + (octet.toNat - 0x80)) (span + 1) owed 0x80 0xBF rest =
        .ok value := by
  cases octets with
  | nil => cases read
  | cons octet rest =>
      by_cases inRange : low ≤ octet.toNat ∧ octet.toNat ≤ high
      · rw [continuation, if_pos inRange] at read
        exact ⟨octet, rest, rfl, inRange, read⟩
      · rw [continuation, if_neg inRange] at read
        cases read

theorem continuation_zero_eq_ok {bits span low high value : Nat} {octets : Octets}
    (read : continuation bits span 0 low high octets = .ok value) : value = bits :=
  (Except.ok.inj read).symm

/-- The three lengths of sequences, with the ranges that keep overlong forms,
surrogates and too large values out. -/
theorem lead?_cases {octet : Nat} {lead : Lead} (announced : lead? octet = some lead) :
    0x80 ≤ lead.low ∧ lead.high ≤ 0xBF ∧
      ((lead.following = 1 ∧ octet = 0xC0 + lead.bits ∧ 2 ≤ lead.bits ∧ lead.bits < 0x20) ∨
        (lead.following = 2 ∧ octet = 0xE0 + lead.bits ∧ lead.bits < 0x10 ∧
          (lead.bits = 0 → lead.low = 0xA0) ∧ (lead.bits = 0xD → lead.high = 0x9F)) ∨
        (lead.following = 3 ∧ octet = 0xF0 + lead.bits ∧ lead.bits ≤ 4 ∧
          (lead.bits = 0 → lead.low = 0x90) ∧ (lead.bits = 4 → lead.high = 0x8F))) := by
  unfold lead? at announced
  split_ifs at announced
  all_goals
    obtain rfl := Option.some.inj announced
    simp
  all_goals omega

theorem toNat_ofNat_of_valid {code : Nat} (valid : code.isValidChar) :
    (Char.ofNat code).toNat = code := by
  rw [Char.ofNat, dif_pos valid]
  rfl

theorem octet_eq (octet : UInt8) {number : Nat} (same : number = octet.toNat) :
    UInt8.ofNat number = octet := by
  rw [same, UInt8.ofNat_toNat]

theorem encodeChar_of_ascii {octet : UInt8} (small : octet.toNat < 0x80) :
    encodeChar (Char.ofNat octet.toNat) = [octet] := by
  have valid : octet.toNat.isValidChar := .inl (by omega)
  simp [encodeChar, toNat_ofNat_of_valid valid, small]

/-- A character of two octets is written with them. -/
theorem encodeChar_two {bits : Nat} {first second : UInt8} (lead : first.toNat = 0xC0 + bits)
    (bound : 2 ≤ bits ∧ bits < 0x20) (inRange : 0x80 ≤ second.toNat ∧ second.toNat ≤ 0xBF) :
    encodeChar (Char.ofNat (bits * 64 + (second.toNat - 0x80))) = [first, second] := by
  generalize sum : bits * 64 + (second.toNat - 0x80) = code
  have valid : code.isValidChar := .inl (by omega)
  simp only [encodeChar, toNat_ofNat_of_valid valid]
  rw [if_neg (by omega), if_pos (by omega), octet_eq first (by omega),
    octet_eq second (by omega)]

/-- A character of three octets is written with them. -/
theorem encodeChar_three {bits : Nat} {first second third : UInt8}
    (lead : first.toNat = 0xE0 + bits) (bound : bits < 0x10)
    (secondRange : 0x80 ≤ second.toNat ∧ second.toNat ≤ 0xBF)
    (long : bits = 0 → 0xA0 ≤ second.toNat) (apart : bits = 0xD → second.toNat ≤ 0x9F)
    (thirdRange : 0x80 ≤ third.toNat ∧ third.toNat ≤ 0xBF) :
    encodeChar (Char.ofNat
        ((bits * 64 + (second.toNat - 0x80)) * 64 + (third.toNat - 0x80))) =
      [first, second, third] := by
  generalize sum : (bits * 64 + (second.toNat - 0x80)) * 64 + (third.toNat - 0x80) = code
  have valid : code.isValidChar := by
    simp only [Nat.isValidChar]
    omega
  simp only [encodeChar, toNat_ofNat_of_valid valid]
  rw [if_neg (by omega), if_neg (by omega), if_pos (by omega),
    octet_eq first (by omega), octet_eq second (by omega),
    octet_eq third (by omega)]

/-- A character of four octets is written with them. -/
theorem encodeChar_four {bits : Nat} {first second third fourth : UInt8}
    (lead : first.toNat = 0xF0 + bits) (bound : bits ≤ 4)
    (secondRange : 0x80 ≤ second.toNat ∧ second.toNat ≤ 0xBF)
    (long : bits = 0 → 0x90 ≤ second.toNat) (small : bits = 4 → second.toNat ≤ 0x8F)
    (thirdRange : 0x80 ≤ third.toNat ∧ third.toNat ≤ 0xBF)
    (fourthRange : 0x80 ≤ fourth.toNat ∧ fourth.toNat ≤ 0xBF) :
    encodeChar (Char.ofNat
        (((bits * 64 + (second.toNat - 0x80)) * 64 + (third.toNat - 0x80)) * 64 +
          (fourth.toNat - 0x80))) =
      [first, second, third, fourth] := by
  generalize sum : ((bits * 64 + (second.toNat - 0x80)) * 64 + (third.toNat - 0x80)) * 64 +
    (fourth.toNat - 0x80) = code
  have valid : code.isValidChar := by
    simp only [Nat.isValidChar]
    omega
  simp only [encodeChar, toNat_ofNat_of_valid valid]
  rw [if_neg (by omega), if_neg (by omega), if_neg (by omega),
    octet_eq first (by omega), octet_eq second (by omega),
    octet_eq third (by omega), octet_eq fourth (by omega)]

/-- A longer sequence is written with the octets that it was read from. -/
theorem encodeChar_of_continuation {first : UInt8} {rest : Octets} {lead : Lead} {code : Nat}
    (announced : lead? first.toNat = some lead)
    (continued : continuation lead.bits 1 lead.following lead.low lead.high rest = .ok code) :
    encodeChar (Char.ofNat code) ++ rest.drop lead.following = first :: rest := by
  obtain ⟨low, high, ⟨following, octet, bound⟩ | ⟨following, octet, bound, long, apart⟩ |
    ⟨following, octet, bound, long, small⟩⟩ := lead?_cases announced
  · rw [following] at continued ⊢
    obtain ⟨second, others, rfl, inRange, continued⟩ := continuation_succ_eq_ok continued
    rw [continuation_zero_eq_ok continued, encodeChar_two octet bound (by omega)]
    rfl
  · rw [following] at continued ⊢
    obtain ⟨second, others, rfl, secondRange, continued⟩ := continuation_succ_eq_ok continued
    obtain ⟨third, others, rfl, thirdRange, continued⟩ := continuation_succ_eq_ok continued
    rw [continuation_zero_eq_ok continued,
      encodeChar_three octet bound (by omega) (by omega) (by omega) thirdRange]
    rfl
  · rw [following] at continued ⊢
    obtain ⟨second, others, rfl, secondRange, continued⟩ := continuation_succ_eq_ok continued
    obtain ⟨third, others, rfl, thirdRange, continued⟩ := continuation_succ_eq_ok continued
    obtain ⟨fourth, others, rfl, fourthRange, continued⟩ := continuation_succ_eq_ok continued
    rw [continuation_zero_eq_ok continued,
      encodeChar_four octet bound (by omega) (by omega) (by omega) thirdRange fourthRange]
    rfl

/-- The octets of a character are those of the sequence that was read as it. -/
theorem encodeChar_of_sequence {first : UInt8} {rest : Octets} {value : Char} {following : Nat}
    (read : sequence first rest = .ok (value, following)) :
    encodeChar value ++ rest.drop following = first :: rest := by
  simp only [sequence] at read
  split at read
  next small =>
    cases read
    rw [encodeChar_of_ascii small]
    rfl
  next =>
    split at read
    next => cases read
    next lead announced =>
      split at read
      next code continued =>
        cases read
        exact encodeChar_of_continuation announced continued
      next => cases read

/-- The stray symbol of an octet is written as that octet. -/
theorem encodeSymbol_strayOf {octet : UInt8} (large : 0x80 ≤ octet.toNat) :
    encodeSymbol (strayOf octet) = [octet] := by
  have bound := octet.toNat_lt
  have same : 0x80 + octet.toNat % 128 = octet.toNat := by omega
  simp only [encodeSymbol, strayOf]
  rw [octet_eq octet same]

/-- An octet that starts no sequence is no ASCII octet. -/
theorem large_of_sequence {first : UInt8} {rest : Octets} {defect : Defect}
    (failed : sequence first rest = .error defect) : 0x80 ≤ first.toNat := by
  by_cases small : first.toNat < 0x80
  · simp [sequence, small] at failed
  · exact Nat.le_of_not_lt small

/-! ## Texts -/

theorem hasLone_decodeOnto (made : Text) (skip : Nat) (octets : Octets) :
    (decodeOnto made skip octets).hasLone = made.hasLone := by
  induction octets generalizing made skip with
  | nil => simp [decodeOnto, Text.hasLone]
  | cons octet rest hypothesis =>
      cases skip with
      | succ skip => exact hypothesis made skip
      | zero =>
          simp only [decodeOnto]
          cases sequence octet rest with
          | ok found => exact hypothesis (.char found.1 :: made) found.2
          | error defect => exact hypothesis (strayOf octet :: made) 0

/-- What was read from octets has no lone surrogate. -/
@[simp] theorem hasLone_decode (octets : Octets) : (decode octets).hasLone = false :=
  hasLone_decodeOnto [] 0 octets

/-- Every list of octets is written as it was read. -/
theorem encode_decode (octets : Octets) : encode (decode octets) = octets := by
  induction length : octets.length using Nat.strongRecOn generalizing octets with
  | _ count hypothesis =>
      cases octets with
      | nil => rfl
      | cons first rest =>
          rw [decode_cons]
          cases read : sequence first rest with
          | ok found =>
              obtain ⟨value, following⟩ := found
              have shorter : (rest.drop following).length < count := by
                simp only [List.length_cons, List.length_drop] at length ⊢
                omega
              simp only [encode_cons, encodeSymbol]
              rw [hypothesis _ shorter _ rfl, encodeChar_of_sequence read]
          | error defect =>
              have shorter : rest.length < count := by
                simp only [List.length_cons] at length
                omega
              simp only [encode_cons]
              rw [hypothesis _ shorter _ rfl, encodeSymbol_strayOf (large_of_sequence read)]
              rfl

end SqlDump.Utf8

/-- What was read from octets is written as these octets. -/
theorem SqlDump.Encoding.encode_utf8_decode (octets : Octets) :
    utf8.encode (Utf8.decode octets) = .ok octets :=
  encode_utf8_eq_ok_iff.mpr ⟨Utf8.hasLone_decode octets, Utf8.encode_decode octets⟩
