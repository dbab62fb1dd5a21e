import Mathlib.Data.List.TakeWhile
import SqlDump.Proofs.Number.Numeral

/-!
# Digits in octets

The server sends numbers as ASCII digits. Such digits are read one by one, and as a numeral.

Main statements: `Digit.digitRun_octets`, `Digit.splitOn_joined` and `Numeral.ofEachOctets_octets`.
-/

namespace SqlDump

namespace Digit

/-- The octet of a digit in ASCII. -/
def octet (digit : Digit) : UInt8 :=
  UInt8.ofNat (0x30 + digit.val)

def octets (found : List Digit) : Octets :=
  found.map octet

@[simp] theorem octetDigit?_octet (digit : Digit) : octetDigit? digit.octet = some digit := by
  revert digit
  decide

@[simp] theorem ofOctet_octet (digit : Digit) : Glyph.ofOctet digit.octet = .digit digit := by
  revert digit
  decide

@[simp] theorem isBlankOctet_octet (digit : Digit) : isBlankOctet digit.octet = false := by
  revert digit
  decide

@[simp] theorem octets_nil : octets [] = [] := rfl

@[simp] theorem octets_cons (digit : Digit) (rest : List Digit) :
    octets (digit :: rest) = digit.octet :: octets rest := rfl

@[simp] theorem octets_append (left right : List Digit) :
    octets (left ++ right) = octets left ++ octets right :=
  List.map_append

@[simp] theorem length_octets (found : List Digit) : (octets found).length = found.length :=
  List.length_map ..

/-- An octet that is no digit is not among digits. -/
theorem not_mem_octets {octet : UInt8} (noDigit : octetDigit? octet = none) (found : List Digit) :
    octet ∉ octets found := by
  intro member
  obtain ⟨digit, -, rfl⟩ := List.mem_map.mp member
  rw [octetDigit?_octet] at noDigit
  cases noDigit

@[simp] theorem octets_zeros (count : Nat) : octets (zeros count) = List.replicate count 0x30 :=
  List.map_replicate

/-- Digits are read up to the first octet that is none. -/
theorem digitRun_octets (found : List Digit) {rest : Octets}
    (ends : ∀ octet ∈ rest.head?, octetDigit? octet = none) :
    digitRun octetDigit? (octets found ++ rest) = (found, rest) :=
  digitRun_append (by simp [octets]) ends

theorem mapM_octetDigit?_octets (found : List Digit) :
    (octets found).mapM octetDigit? = some found := by
  induction found with
  | nil => rfl
  | cons digit rest hypothesis => simp [List.mapM_cons, hypothesis]

/-- An octet that is a digit is the octet of that digit. -/
theorem eq_octet_of_octetDigit? {octet : UInt8} {digit : Digit}
    (read : octetDigit? octet = some digit) : octet = digit.octet := by
  simp only [octetDigit?] at read
  split at read
  next inRange =>
    cases read
    have place : 0x30 + (ofNat (octet.toNat - 0x30)).val = octet.toNat := by
      rw [val_ofNat]
      omega
    rw [Digit.octet, place, UInt8.ofNat_toNat]
  next => cases read

/-- Octets that are digits one by one are the octets of these. -/
theorem eq_octets_of_spelled {word : Octets} {found : List Digit}
    (spelled : word.map octetDigit? = found.map some) : word = octets found := by
  induction word generalizing found with
  | nil => rw [List.map_eq_nil_iff.mp spelled.symm, octets_nil]
  | cons octet rest hypothesis =>
      cases found with
      | nil => cases spelled
      | cons digit others =>
          simp only [List.map_cons, List.cons.injEq] at spelled
          rw [octets_cons, eq_octet_of_octetDigit? spelled.1, hypothesis spelled.2]

theorem eq_octets_of_mapM {word : Octets} {found : List Digit}
    (read : word.mapM octetDigit? = some found) : word = octets found := by
  induction word generalizing found with
  | nil =>
      cases read
      rfl
  | cons octet rest hypothesis =>
      rw [List.mapM_cons] at read
      obtain ⟨digit, digitRead, read⟩ := Option.bind_eq_some_iff.mp read
      obtain ⟨others, othersRead, read⟩ := Option.bind_eq_some_iff.mp read
      cases read
      rw [octets_cons, eq_octet_of_octetDigit? digitRead, hypothesis othersRead]

/-! ## Groups of digits -/

/-- Groups of digits with a separator between them. -/
def joined (separator : UInt8) (groups : List (List Digit)) : Octets :=
  [separator].intercalate (groups.map octets)

theorem joined_cons_cons (separator : UInt8) (found next : List Digit)
    (others : List (List Digit)) :
    joined separator (found :: next :: others) =
      octets found ++ separator :: joined separator (next :: others) := by
  simp [joined]

theorem not_mem_joined {octet separator : UInt8} (noDigit : octetDigit? octet = none)
    (other : octet ≠ separator) (groups : List (List Digit)) : octet ∉ joined separator groups := by
  induction groups with
  | nil => simp [joined]
  | cons found rest hypothesis =>
      have apart := not_mem_octets noDigit found
      cases rest with
      | nil => simpa [joined] using apart
      | cons next others => simp [joined_cons_cons, apart, other, hypothesis]

/-- Groups are found again between separators that are no digits. -/
theorem splitOn_joined {separator : UInt8} (noDigit : octetDigit? separator = none)
    {groups : List (List Digit)} (nonempty : groups ≠ []) :
    (joined separator groups).splitOn separator = groups.map octets := by
  have apart : ∀ part ∈ groups.map octets, separator ∉ part := by
    intro part member
    obtain ⟨found, -, rfl⟩ := List.mem_map.mp member
    exact not_mem_octets noDigit found
  exact List.splitOn_intercalate separator apart (by simpa using nonempty)

end Digit

namespace Numeral

theorem underscoresSeparate_digits {found : List Digit} (nonempty : found ≠ []) :
    underscoresSeparate (found.map .digit) = true := by
  induction found with
  | nil => exact absurd rfl nonempty
  | cons digit rest hypothesis =>
      cases rest with
      | nil => rfl
      | cons next others => exact hypothesis (by simp)

/-- Digits are a numeral. -/
theorem readGlyphs_digits (shown : Text) {found : List Digit} (nonempty : found ≠ [])
    (few : found.length ≤ limit) :
    readGlyphs shown (found.map .digit) = .ok (Digit.value found) := by
  have inner : ∀ glyph ∈ found.map Glyph.digit, glyph.isInner = true := by
    simp [Glyph.isInner]
  have taken : (found.map Glyph.digit).takeWhile Glyph.isInner = found.map .digit :=
    List.takeWhile_eq_self_iff.mpr inner
  have dropped : (found.map Glyph.digit).dropWhile Glyph.isInner = [] :=
    List.dropWhile_eq_nil_iff.mpr inner
  have digits : (found.map Glyph.digit).filterMap Glyph.digit? = found := by
    simp [List.filterMap_map, Function.comp_def, Glyph.digit?]
  have separate := underscoresSeparate_digits nonempty
  have notMany : ¬found.length > limit := Nat.not_lt.mpr few
  cases found with
  | nil => exact absurd rfl nonempty
  | cons digit rest =>
      have unpadded : ((digit :: rest).map Glyph.digit).dropWhile (· = .blank) =
          (digit :: rest).map .digit := rfl
      rw [List.map_cons] at taken dropped digits separate unpadded
      simp only [readGlyphs, List.map_cons, unpadded, taken, dropped, digits, separate, notMany]
      rfl

/-- ASCII digits are a numeral. -/
theorem ofOctets_octets {found : List Digit} (nonempty : found ≠ [])
    (few : found.length ≤ limit) : ofOctets (Digit.octets found) = .ok (Digit.value found) := by
  have glyphs : (Digit.octets found).map Glyph.ofOctet = found.map .digit := by
    simp [Digit.octets]
  rw [ofOctets, glyphs, readGlyphs_digits _ nonempty few]

/-- Groups of ASCII digits are numerals one by one. -/
theorem ofEachOctets_octets {groups : List (List Digit)}
    (each : ∀ found ∈ groups, found ≠ [] ∧ found.length ≤ limit) :
    ofEachOctets (groups.map Digit.octets) =
      .ok (groups.map fun found => (Digit.value found : Int)) := by
  induction groups with
  | nil => rfl
  | cons found rest hypothesis =>
      have first := each found List.mem_cons_self
      have others := hypothesis fun found member => each found (List.mem_cons_of_mem _ member)
      rw [ofEachOctets] at others ⊢
      rw [List.map_cons, List.mapM_cons, ofOctets_octets first.1 first.2, others]
      rfl

end Numeral

end SqlDump
