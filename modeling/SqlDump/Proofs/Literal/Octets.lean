import Mathlib.Tactic.SplitIfs
import SqlDump.Proofs.Literal.Escape
import SqlDump.Proofs.Text.Readback

/-!
# The octets of string literals

A literal is escaped as a text, and a dump is written as octets. Every symbol that is escaped is
ASCII, and so is what it is written as, while the octets of all other characters and the stray
ones are beyond ASCII. So escaping a text and writing its octets is escaping the octets one by
one, and the octets of a literal need not be a text at all.

Main statement: `encode_ofOctets`.
-/

namespace SqlDump

/-- A character beyond ASCII is written with octets beyond ASCII. -/
theorem Utf8.large_of_mem_encodeChar {value : Char} (large : 0x80 ≤ value.toNat) {octet : UInt8}
    (member : octet ∈ encodeChar value) : 0x80 ≤ octet.toNat := by
  have valid : value.toNat < 0xD800 ∨ 0xDFFF < value.toNat ∧ value.toNat < 0x110000 :=
    value.valid
  have following (bits : Nat) : 0x80 ≤ (UInt8.ofNat (0x80 + bits % 64)).toNat :=
    (continuationOctet_inRange bits).1
  have leading {number : Nat} (low : 0x80 ≤ number) (high : number < 0x100) :
      0x80 ≤ (UInt8.ofNat number).toNat := by
    rwa [toNat_ofNat_of_lt high]
  simp only [encodeChar] at member
  split_ifs at member with one two three
  · omega
  all_goals
    simp only [List.mem_cons, List.not_mem_nil, or_false] at member
  · rcases member with rfl | rfl
    · exact leading (by omega) (by omega)
    · exact following _
  · rcases member with rfl | rfl | rfl
    · exact leading (by omega) (by omega)
    all_goals exact following _
  · rcases member with rfl | rfl | rfl | rfl
    · exact leading (by omega) (by omega)
    all_goals exact following _

namespace Literal

/-- The octets that are escaped, each with the one that stands for it behind a backslash. -/
def octetEscapes : List (UInt8 × UInt8) :=
  [(0x5C, 0x5C), (0x27, 0x27), (0x0A, 0x6E), (0x0D, 0x72), (0x00, 0x30), (0x1A, 0x5A)]

/-- The written form of an octet inside a single-quoted literal. -/
def escapeOctet (octet : UInt8) : Octets :=
  match octetEscapes.lookup octet with
  | some mark => [0x5C, mark]
  | none => [octet]

/-- An octet is written as a backslash and its mark or as itself. -/
theorem escapeOctet_cases (octet : UInt8) :
    (∃ mark, (octet, mark) ∈ octetEscapes ∧ escapeOctet octet = [0x5C, mark]) ∨
      (octet ∉ octetEscapes.map Prod.fst ∧ escapeOctet octet = [octet]) := by
  rw [escapeOctet]
  cases found : octetEscapes.lookup octet with
  | some mark =>
      obtain ⟨before, behind, split, -⟩ := List.lookup_eq_some_iff.mp found
      exact .inl ⟨mark, by simp [split], rfl⟩
  | none =>
      refine .inr ⟨fun listed => ?_, rfl⟩
      obtain ⟨entry, member, rfl⟩ := List.mem_map.mp listed
      have different := List.lookup_eq_none_iff.mp found entry member
      simp at different

/-- Only ASCII octets are escaped. -/
theorem escapeOctet_of_large {octet : UInt8} (large : 0x80 ≤ octet.toNat) :
    escapeOctet octet = [octet] := by
  rcases escapeOctet_cases octet with ⟨mark, listed, -⟩ | ⟨-, written⟩
  · have small : octetEscapes.all (fun entry => entry.1.toNat < 0x80) = true := by decide
    have ascii := of_decide_eq_true (List.all_eq_true.mp small _ listed)
    exact absurd ascii (Nat.not_lt.mpr large)
  · exact written

theorem flatMap_escapeOctet_of_large {octets : Octets}
    (large : ∀ octet ∈ octets, 0x80 ≤ octet.toNat) : octets.flatMap escapeOctet = octets := by
  induction octets with
  | nil => rfl
  | cons octet rest hypothesis =>
      obtain ⟨first, others⟩ := List.forall_mem_cons.mp large
      rw [List.flatMap_cons, escapeOctet_of_large first, hypothesis others, List.singleton_append]

/-- Only ASCII characters are escaped. -/
theorem escapeSymbol_of_large {symbol : Symbol} (large : 0x80 ≤ symbol.place) :
    escapeSymbol symbol = [symbol] := by
  have small : ∀ listed ∈ stringEscapes.map Prod.fst, listed.place < 0x80 := by decide
  exact escapeSymbol_of_not_mem fun member => absurd (small symbol member) (Nat.not_lt.mpr large)

/-- The octets of the written form of a symbol are its octets in their written form. -/
theorem encode_escapeSymbol (symbol : Symbol) :
    Utf8.encode (escapeSymbol symbol) = (Utf8.encodeSymbol symbol).flatMap escapeOctet := by
  by_cases large : 0x80 ≤ symbol.place
  · have octets : ∀ octet ∈ Utf8.encodeSymbol symbol, 0x80 ≤ octet.toNat := by
      cases symbol with
      | char value => exact fun octet => Utf8.large_of_mem_encodeChar large
      | stray offset =>
          rw [Utf8.encodeSymbol, List.forall_mem_singleton, Utf8.toNat_ofNat_of_lt (by omega)]
          exact Nat.le_add_right ..
      | lone surrogate => simp [Utf8.encodeSymbol]
    rw [escapeSymbol_of_large large, flatMap_escapeOctet_of_large octets]
    simp
  · have ascii : ∀ place < 0x80,
        Utf8.encode (escapeSymbol (.char (.ofNat place))) =
          (Utf8.encodeSymbol (.char (.ofNat place))).flatMap escapeOctet := by
      decide
    cases symbol with
    | char value =>
        have small := ascii value.toNat (Nat.not_le.mp large)
        rwa [Char.ofNat_toNat] at small
    | stray offset =>
        rw [Symbol.place_stray] at large
        omega
    | lone surrogate =>
        have inGap := surrogate.isLone
        rw [Symbol.place_lone] at large
        omega

/-- Escaping a text is escaping its octets. -/
theorem encode_escape (content : Text) :
    Utf8.encode (escape content) = (Utf8.encode content).flatMap escapeOctet := by
  rw [escape_eq_flatMap]
  induction content with
  | nil => rfl
  | cons symbol rest hypothesis =>
      rw [List.flatMap_cons, Utf8.encode_append, encode_escapeSymbol, hypothesis, Utf8.encode_cons,
        List.flatMap_append]

/-- Escaping neither adds nor removes lone surrogates. -/
theorem hasLone_escape (content : Text) : (escape content).hasLone = content.hasLone := by
  have marks : ∀ entry ∈ stringEscapes, entry.1.isLone = false ∧ entry.2.isLone = false := by
    decide
  have each (symbol : Symbol) : (escapeSymbol symbol).any Symbol.isLone = symbol.isLone := by
    rcases escapeSymbol_cases symbol with ⟨mark, listed, written⟩ | ⟨-, written⟩
    · obtain ⟨plain, plainMark⟩ := marks _ listed
      rw [written, plain]
      simp [plainMark]
    · simp [written]
  rw [escape_eq_flatMap]
  simp only [Text.hasLone, List.any_flatMap, each]

/-- A literal of octets can always be written. -/
theorem hasLone_ofOctets (octets : Octets) : (ofOctets octets).hasLone = false := by
  have content : (escape (Utf8.decode octets)).hasLone = false := by
    rw [hasLone_escape, Utf8.hasLone_decode]
  have quoteMark : Text.hasLone [.char '\''] = false := rfl
  rw [ofOctets, Encoding.decode, quote, Text.hasLone_append, ← List.singleton_append,
    Text.hasLone_append, content, quoteMark]
  rfl

/-- The octets that no literal contains. -/
def controls : List UInt8 :=
  [0x0A, 0x0D, 0x00, 0x1A]

/-- The written form of an octet has none of the escaped control characters. -/
theorem not_mem_controls_of_mem_escapeOctet {octet other : UInt8}
    (member : other ∈ escapeOctet octet) : other ∉ controls := by
  rcases escapeOctet_cases octet with ⟨mark, listed, written⟩ | ⟨unlisted, written⟩
  · have marks : octetEscapes.all (fun entry =>
        [0x5C, entry.2].all fun other => other ∉ controls) = true := by
      decide
    have harmless := List.all_eq_true.mp (List.all_eq_true.mp marks _ listed)
    exact of_decide_eq_true (harmless other (written ▸ member))
  · have escaped : controls.all (fun control => control ∈ octetEscapes.map Prod.fst) = true := by
      decide
    rw [written, List.mem_singleton] at member
    subst member
    exact fun isControl =>
      unlisted (of_decide_eq_true (List.all_eq_true.mp escaped _ isControl))

/-- The octets of a literal are the octets that it was made of, each in its written form, between
quotes; none of them is a newline, a carriage return, NUL or Ctrl-Z. -/
theorem encode_ofOctets (octets : Octets) :
    Encoding.utf8.encode (ofOctets octets) = .ok (0x27 :: (octets.flatMap escapeOctet ++ [0x27])) ∧
      ∀ octet ∈ 0x27 :: (octets.flatMap escapeOctet ++ [0x27]), octet ∉ controls := by
  have quoteOctets : Utf8.encodeSymbol (.char '\'') = [0x27] := by decide
  have written : Utf8.encode (ofOctets octets) =
      0x27 :: (octets.flatMap escapeOctet ++ [0x27]) := by
    rw [ofOctets, Encoding.decode, quote, List.cons_append, Utf8.encode_cons, Utf8.encode_append,
      encode_escape, Utf8.encode_decode, Utf8.encode_cons, Utf8.encode_nil, quoteOctets]
    rfl
  refine ⟨Encoding.encode_utf8_eq_ok_iff.mpr ⟨hasLone_ofOctets octets, written⟩, ?_⟩
  have quoteAllowed : (0x27 : UInt8) ∉ controls := by decide
  rw [List.forall_mem_cons, List.forall_mem_append, List.forall_mem_singleton]
  refine ⟨quoteAllowed, fun octet member => ?_, quoteAllowed⟩
  obtain ⟨source, -, inForm⟩ := List.mem_flatMap.mp member
  exact not_mem_controls_of_mem_escapeOctet inForm

/-- Octets that are no UTF-8 around a quote and a newline. -/
example : Encoding.utf8.encode (ofOctets [0xE2, 0x27, 0x82, 0x0A, 0xFF]) =
    .ok [0x27, 0xE2, 0x5C, 0x27, 0x82, 0x5C, 0x6E, 0xFF, 0x27] := by
  decide

end Literal

end SqlDump
