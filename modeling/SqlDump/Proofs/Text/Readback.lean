import SqlDump.Proofs.Text.Utf8

/-!
# Texts that are read back

A text that is written as octets and read again need not come back: stray octets that
come to stand side by side may be read as a character. Octets can be cut, though, in front
of each one that continues no sequence, and so in front of every character. So a text that
was read from octets comes back with all of its parts, and with any characters between them.

Main statements: `decode_append` cuts octets, `readsBack_stray_cons` and
`readsBack_char_cons` look at a text symbol by symbol, and `Sealed.append` puts texts
together.
-/

namespace SqlDump.Utf8

/-! ## Cutting octets -/

/-- Whether octets are none or start with one that continues no sequence. -/
def StartsAfresh (octets : Octets) : Prop :=
  ∀ octet ∈ octets.head?, octet.toNat < 0x80 ∨ 0xBF < octet.toNat

@[simp] theorem startsAfresh_nil : StartsAfresh [] := by
  simp [StartsAfresh]

@[simp] theorem startsAfresh_cons {octet : UInt8} {rest : Octets} :
    StartsAfresh (octet :: rest) ↔ octet.toNat < 0x80 ∨ 0xBF < octet.toNat := by
  simp [StartsAfresh]

/-- A sequence that is complete does not depend on what follows it. -/
theorem continuation_append_of_eq_ok {bits span owed low high value : Nat} {front : Octets}
    (read : continuation bits span owed low high front = .ok value) (tail : Octets) :
    continuation bits span owed low high (front ++ tail) = .ok value ∧ owed ≤ front.length := by
  induction owed generalizing bits span low high front with
  | zero => exact ⟨read, Nat.zero_le _⟩
  | succ owed hypothesis =>
      obtain ⟨octet, rest, rfl, inRange, read⟩ := continuation_succ_eq_ok read
      obtain ⟨readOn, enough⟩ := hypothesis read
      rw [List.cons_append, continuation, if_pos inRange]
      exact ⟨readOn, Nat.succ_le_succ enough⟩

/-- A sequence that is not complete is not completed by what starts afresh. -/
theorem continuation_append_of_eq_error {bits span owed low high : Nat} {front tail : Octets}
    {defect : Defect} (range : 0x80 ≤ low ∧ high ≤ 0xBF) (afresh : StartsAfresh tail)
    (failed : continuation bits span owed low high front = .error defect) :
    ∃ other, continuation bits span owed low high (front ++ tail) = .error other := by
  induction owed generalizing bits span low high front with
  | zero => cases failed
  | succ owed hypothesis =>
      cases front with
      | nil =>
          cases tail with
          | nil => exact ⟨_, rfl⟩
          | cons octet rest =>
              have outOfRange : ¬(low ≤ octet.toNat ∧ octet.toNat ≤ high) := by
                have outside := startsAfresh_cons.mp afresh
                omega
              exact ⟨_, by rw [List.nil_append, continuation, if_neg outOfRange]⟩
      | cons octet rest =>
          rw [List.cons_append, continuation]
          by_cases inRange : low ≤ octet.toNat ∧ octet.toNat ≤ high
          · rw [continuation, if_pos inRange] at failed
            rw [if_pos inRange]
            exact hypothesis ⟨Nat.le_refl _, Nat.le_refl _⟩ failed
          · rw [if_neg inRange]
            exact ⟨_, rfl⟩

theorem sequence_append_of_eq_ok {first : UInt8} {rest : Octets} {value : Char} {following : Nat}
    (read : sequence first rest = .ok (value, following)) (tail : Octets) :
    sequence first (rest ++ tail) = .ok (value, following) ∧ following ≤ rest.length := by
  simp only [sequence] at read ⊢
  split at read
  next small =>
    cases read
    rw [if_pos small]
    exact ⟨rfl, Nat.zero_le _⟩
  next large =>
    rw [if_neg large]
    split at read
    next => cases read
    next lead announced =>
      split at read
      next code continued =>
        cases read
        obtain ⟨continuedOn, enough⟩ := continuation_append_of_eq_ok continued tail
        simp only [continuedOn]
        exact ⟨trivial, enough⟩
      next => cases read

theorem sequence_append_of_eq_error {first : UInt8} {rest tail : Octets} {defect : Defect}
    (afresh : StartsAfresh tail) (failed : sequence first rest = .error defect) :
    ∃ other, sequence first (rest ++ tail) = .error other := by
  simp only [sequence] at failed ⊢
  split at failed
  next => cases failed
  next large =>
    rw [if_neg large]
    split at failed
    next => exact ⟨_, rfl⟩
    next lead announced =>
      split at failed
      next => cases failed
      next stopped continued =>
        obtain ⟨low, high, -⟩ := lead?_cases announced
        obtain ⟨other, continuedOn⟩ :=
          continuation_append_of_eq_error ⟨low, high⟩ afresh continued
        exact ⟨other, by rw [continuedOn]⟩

/-- Octets are cut in front of each one that continues no sequence. -/
theorem decode_append (front : Octets) {tail : Octets} (afresh : StartsAfresh tail) :
    decode (front ++ tail) = decode front ++ decode tail := by
  induction length : front.length using Nat.strongRecOn generalizing front with
  | _ count hypothesis =>
      cases front with
      | nil => rfl
      | cons first rest =>
          rw [List.cons_append, decode_cons, decode_cons]
          cases read : sequence first rest with
          | ok found =>
              obtain ⟨value, following⟩ := found
              obtain ⟨readOn, enough⟩ := sequence_append_of_eq_ok read tail
              have shorter : (rest.drop following).length < count := by
                simp only [List.length_cons, List.length_drop] at length ⊢
                omega
              simp only [readOn, List.drop_append_of_le_length enough]
              rw [hypothesis _ shorter _ rfl, List.cons_append]
          | error defect =>
              obtain ⟨other, failedOn⟩ := sequence_append_of_eq_error afresh read
              have shorter : rest.length < count := by
                simp only [List.length_cons] at length
                omega
              simp only [failedOn]
              rw [hypothesis _ shorter _ rfl, List.cons_append]

/-! ## Characters -/

theorem toNat_ofNat_of_lt {number : Nat} (small : number < 0x100) :
    (UInt8.ofNat number).toNat = number := by
  rw [UInt8.toNat_ofNat']
  omega

/-- An octet that continues a sequence adds its bits to it. -/
theorem continuation_cons {bits span owed low high : Nat} {octet : UInt8} (rest : Octets)
    (inRange : low ≤ octet.toNat ∧ octet.toNat ≤ high) :
    continuation bits span (owed + 1) low high (octet :: rest) =
      continuation (bits * 64 + (octet.toNat - 0x80)) (span + 1) owed 0x80 0xBF rest := by
  rw [continuation, if_pos inRange]

theorem lead?_two {bits : Nat} (bound : 2 ≤ bits ∧ bits < 0x20) :
    lead? (0xC0 + bits) = some { bits, following := 1 } := by
  rw [lead?, if_neg (by omega), if_pos (by omega)]
  simp

/-- The range that a sequence of three octets announces has every second octet that is
neither overlong nor that of a surrogate. -/
theorem exists_lead?_three {bits second : Nat} (bound : bits < 0x10)
    (inRange : 0x80 ≤ second ∧ second ≤ 0xBF) (long : bits = 0 → 0xA0 ≤ second)
    (apart : bits = 0xD → second ≤ 0x9F) :
    ∃ low high, lead? (0xE0 + bits) = some { bits, following := 2, low, high } ∧
      low ≤ second ∧ second ≤ high := by
  by_cases zero : bits = 0
  · exact ⟨0xA0, 0xBF, by rw [zero]; rfl, long zero, inRange.2⟩
  · by_cases gap : bits = 0xD
    · exact ⟨0x80, 0x9F, by rw [gap]; rfl, inRange.1, apart gap⟩
    · refine ⟨0x80, 0xBF, ?_, inRange⟩
      rw [lead?, if_neg (by omega), if_neg (by omega), if_neg (by omega), if_neg (by omega),
        if_pos (by omega)]
      simp

/-- The range that a sequence of four octets announces has every second octet that is
neither overlong nor that of a too large value. -/
theorem exists_lead?_four {bits second : Nat} (bound : bits ≤ 4)
    (inRange : 0x80 ≤ second ∧ second ≤ 0xBF) (long : bits = 0 → 0x90 ≤ second)
    (small : bits = 4 → second ≤ 0x8F) :
    ∃ low high, lead? (0xF0 + bits) = some { bits, following := 3, low, high } ∧
      low ≤ second ∧ second ≤ high := by
  by_cases zero : bits = 0
  · exact ⟨0x90, 0xBF, by rw [zero]; rfl, long zero, inRange.2⟩
  · by_cases last : bits = 4
    · exact ⟨0x80, 0x8F, by rw [last]; rfl, inRange.1, small last⟩
    · refine ⟨0x80, 0xBF, ?_, inRange⟩
      rw [lead?, if_neg (by omega), if_neg (by omega), if_neg (by omega), if_neg (by omega),
        if_neg (by omega), if_neg (by omega), if_pos (by omega)]
      simp

/-- A sequence that a lead announces is read as the value of its octets. -/
theorem sequence_of_continuation {first : UInt8} {lead : Lead} {rest : Octets} {code : Nat}
    (large : 0x80 ≤ first.toNat) (announced : lead? first.toNat = some lead)
    (continued : continuation lead.bits 1 lead.following lead.low lead.high rest = .ok code) :
    sequence first rest = .ok (Char.ofNat code, lead.following) := by
  rw [sequence, if_neg (by omega), announced]
  simp only [continued]

/-- The octet that continues a sequence with six bits. -/
def continuationOctet (bits : Nat) : UInt8 :=
  UInt8.ofNat (0x80 + bits % 64)

theorem toNat_continuationOctet (bits : Nat) : (continuationOctet bits).toNat = 0x80 + bits % 64 :=
  toNat_ofNat_of_lt (by omega)

theorem continuationOctet_inRange (bits : Nat) :
    0x80 ≤ (continuationOctet bits).toNat ∧ (continuationOctet bits).toNat ≤ 0xBF := by
  rw [toNat_continuationOctet]
  omega

theorem sequence_two {code : Nat} (range : 0x80 ≤ code ∧ code < 0x800) (rest : Octets) :
    sequence (UInt8.ofNat (0xC0 + code / 64)) (continuationOctet code :: rest) =
      .ok (Char.ofNat code, 1) := by
  have first : (UInt8.ofNat (0xC0 + code / 64)).toNat = 0xC0 + code / 64 :=
    toNat_ofNat_of_lt (by omega)
  have announced : lead? (0xC0 + code / 64) = some { bits := code / 64, following := 1 } :=
    lead?_two (by omega)
  rw [← first] at announced
  refine sequence_of_continuation (by omega) announced ?_
  rw [continuation_cons rest (continuationOctet_inRange code), continuation,
    toNat_continuationOctet]
  exact congrArg Except.ok (by dsimp only; omega)

theorem sequence_three {code : Nat} (range : 0x800 ≤ code ∧ code < 0x10000)
    (valid : code < 0xD800 ∨ 0xDFFF < code) (rest : Octets) :
    sequence (UInt8.ofNat (0xE0 + code / 4096))
        (continuationOctet (code / 64) :: continuationOctet code :: rest) =
      .ok (Char.ofNat code, 2) := by
  have first : (UInt8.ofNat (0xE0 + code / 4096)).toNat = 0xE0 + code / 4096 :=
    toNat_ofNat_of_lt (by omega)
  have second := toNat_continuationOctet (code / 64)
  have bound : code / 4096 < 0x10 := by omega
  obtain ⟨low, high, announced, inRange⟩ :=
    exists_lead?_three bound (continuationOctet_inRange (code / 64)) (by omega) (by omega)
  rw [← first] at announced
  refine sequence_of_continuation (by omega) announced ?_
  rw [continuation_cons _ inRange, continuation_cons rest (continuationOctet_inRange code),
    continuation, second, toNat_continuationOctet]
  exact congrArg Except.ok (by dsimp only; omega)

theorem sequence_four {code : Nat} (range : 0x10000 ≤ code ∧ code < 0x110000) (rest : Octets) :
    sequence (UInt8.ofNat (0xF0 + code / 262144))
        (continuationOctet (code / 4096) :: continuationOctet (code / 64) ::
          continuationOctet code :: rest) =
      .ok (Char.ofNat code, 3) := by
  have first : (UInt8.ofNat (0xF0 + code / 262144)).toNat = 0xF0 + code / 262144 :=
    toNat_ofNat_of_lt (by omega)
  have second := toNat_continuationOctet (code / 4096)
  have bound : code / 262144 ≤ 4 := by omega
  obtain ⟨low, high, announced, inRange⟩ :=
    exists_lead?_four bound (continuationOctet_inRange (code / 4096)) (by omega) (by omega)
  rw [← first] at announced
  refine sequence_of_continuation (by omega) announced ?_
  rw [continuation_cons _ inRange, continuation_cons _ (continuationOctet_inRange _),
    continuation_cons rest (continuationOctet_inRange code), continuation, second,
    toNat_continuationOctet, toNat_continuationOctet]
  exact congrArg Except.ok (by dsimp only; omega)

/-- The octets of a character start afresh and are read as it, whatever follows them. -/
theorem sequence_encodeChar (value : Char) (rest : Octets) :
    ∃ first others, encodeChar value = first :: others ∧
      (first.toNat < 0x80 ∨ 0xBF < first.toNat) ∧
      sequence first (others ++ rest) = .ok (value, others.length) := by
  have valid : value.toNat < 0xD800 ∨ 0xDFFF < value.toNat ∧ value.toNat < 0x110000 :=
    value.valid
  have same : Char.ofNat value.toNat = value := Char.ofNat_toNat value
  simp only [encodeChar]
  split_ifs with one two three
  · have first : (UInt8.ofNat value.toNat).toNat = value.toNat := toNat_ofNat_of_lt (by omega)
    refine ⟨_, _, rfl, .inl (by omega), ?_⟩
    rw [sequence, if_pos (by omega), first, same]
    rfl
  · have first : (UInt8.ofNat (0xC0 + value.toNat / 64)).toNat = 0xC0 + value.toNat / 64 :=
      toNat_ofNat_of_lt (by omega)
    have range : 0x80 ≤ value.toNat ∧ value.toNat < 0x800 := by omega
    have read := sequence_two range rest
    rw [same] at read
    exact ⟨_, _, rfl, .inr (by omega), read⟩
  · have first : (UInt8.ofNat (0xE0 + value.toNat / 4096)).toNat = 0xE0 + value.toNat / 4096 :=
      toNat_ofNat_of_lt (by omega)
    have range : 0x800 ≤ value.toNat ∧ value.toNat < 0x10000 := by omega
    have read := sequence_three range (by omega) rest
    rw [same] at read
    exact ⟨_, _, rfl, .inr (by omega), read⟩
  · have first : (UInt8.ofNat (0xF0 + value.toNat / 262144)).toNat =
        0xF0 + value.toNat / 262144 :=
      toNat_ofNat_of_lt (by omega)
    have range : 0x10000 ≤ value.toNat ∧ value.toNat < 0x110000 := by omega
    have read := sequence_four range rest
    rw [same] at read
    exact ⟨_, _, rfl, .inr (by omega), read⟩

theorem startsAfresh_encodeChar (value : Char) (rest : Octets) :
    StartsAfresh (encodeChar value ++ rest) := by
  obtain ⟨first, others, written, afresh, -⟩ := sequence_encodeChar value rest
  rw [written]
  exact startsAfresh_cons.mpr afresh

/-- A character is read back whatever follows it. -/
theorem decode_encodeChar (value : Char) (rest : Octets) :
    decode (encodeChar value ++ rest) = .char value :: decode rest := by
  obtain ⟨first, others, written, -, read⟩ := sequence_encodeChar value rest
  rw [written, List.cons_append, decode_cons, read]
  simp

/-! ## Stray octets -/

/-- The octet of a stray symbol. -/
def strayOctet (offset : Fin 128) : UInt8 :=
  UInt8.ofNat (0x80 + offset.val)

theorem encode_stray_cons (offset : Fin 128) (rest : Text) :
    encode (.stray offset :: rest) = strayOctet offset :: encode rest := rfl

@[simp] theorem strayOf_strayOctet (offset : Fin 128) :
    strayOf (strayOctet offset) = .stray offset := by
  have octet : (strayOctet offset).toNat = 0x80 + offset.val := toNat_ofNat_of_lt (by omega)
  rw [strayOf]
  congr
  omega

/-- Whether a stray octet is still stray in front of a text. -/
def StaysStray (offset : Fin 128) (content : Text) : Prop :=
  ∃ defect, sequence (strayOctet offset) (encode content) = .error defect

/-- A text starts afresh unless it starts with a surrogate. -/
theorem startsAfresh_encode {content : Text}
    (apart : ∀ symbol ∈ content.head?, symbol.isSurrogate = false) :
    StartsAfresh (encode content) := by
  cases content with
  | nil => exact startsAfresh_nil
  | cons symbol rest =>
      obtain ⟨value, rfl⟩ := Symbol.isSurrogate_eq_false_iff.mp (apart symbol rfl)
      rw [encode_cons]
      exact startsAfresh_encodeChar value _

theorem StaysStray.of_append {offset : Fin 128} {left right : Text}
    (stays : StaysStray offset (left ++ right)) : StaysStray offset left := by
  obtain ⟨defect, failed⟩ := stays
  rw [encode_append] at failed
  cases read : sequence (strayOctet offset) (encode left) with
  | ok found =>
      obtain ⟨value, following⟩ := found
      rw [(sequence_append_of_eq_ok read _).1] at failed
      cases failed
  | error other => exact ⟨other, read⟩

/-- Only the surrogates next to a stray octet decide about it. -/
theorem staysStray_takeWhile {offset : Fin 128} {content : Text} :
    StaysStray offset (content.takeWhile Symbol.isSurrogate) ↔ StaysStray offset content := by
  have cut : content.takeWhile Symbol.isSurrogate ++ content.dropWhile Symbol.isSurrogate =
      content :=
    List.takeWhile_append_dropWhile
  have apart : ∀ symbol ∈ (content.dropWhile Symbol.isSurrogate).head?,
      symbol.isSurrogate = false := by
    intro symbol first
    have character := List.head?_dropWhile_not Symbol.isSurrogate content
    rw [Option.mem_def.mp first] at character
    simpa using character
  constructor
  · rintro ⟨defect, failed⟩
    rw [← cut, StaysStray, encode_append]
    exact sequence_append_of_eq_error (startsAfresh_encode apart) failed
  · intro stays
    rw [← cut] at stays
    exact stays.of_append

/-! ## Texts that are read back -/

/-- Whether a text comes back from its octets. -/
def ReadsBack (content : Text) : Prop :=
  decode (encode content) = content

@[simp] theorem readsBack_nil : ReadsBack [] := rfl

/-- A text with a lone surrogate does not come back. -/
theorem ReadsBack.hasLone_eq_false {content : Text} (readsBack : ReadsBack content) :
    content.hasLone = false := by
  rw [← readsBack]
  exact hasLone_decode _

theorem not_readsBack_lone_cons {surrogate : Surrogate} {rest : Text} :
    ¬ReadsBack (.lone surrogate :: rest) := by
  intro readsBack
  simpa [Text.hasLone] using readsBack.hasLone_eq_false

/-- What was read from octets comes back. -/
theorem readsBack_decode (octets : Octets) : ReadsBack (decode octets) := by
  rw [ReadsBack, encode_decode]

theorem readsBack_char_cons {value : Char} {rest : Text} :
    ReadsBack (.char value :: rest) ↔ ReadsBack rest := by
  rw [ReadsBack, encode_cons, encodeSymbol, decode_encodeChar, List.cons_inj_right]
  rfl

theorem readsBack_stray_cons {offset : Fin 128} {rest : Text} :
    ReadsBack (.stray offset :: rest) ↔ StaysStray offset rest ∧ ReadsBack rest := by
  simp only [ReadsBack, StaysStray, encode_stray_cons, decode_cons]
  cases sequence (strayOctet offset) (encode rest) with
  | ok found => simp
  | error defect => simp

theorem ReadsBack.right {left right : Text} (readsBack : ReadsBack (left ++ right)) :
    ReadsBack right := by
  induction left with
  | nil => exact readsBack
  | cons symbol rest hypothesis =>
      cases symbol with
      | char value => exact hypothesis (readsBack_char_cons.mp readsBack)
      | stray offset => exact hypothesis (readsBack_stray_cons.mp readsBack).2
      | lone surrogate => exact absurd readsBack not_readsBack_lone_cons

theorem ReadsBack.left {left right : Text} (readsBack : ReadsBack (left ++ right)) :
    ReadsBack left := by
  induction left with
  | nil => exact readsBack_nil
  | cons symbol rest hypothesis =>
      cases symbol with
      | char value =>
          exact readsBack_char_cons.mpr (hypothesis (readsBack_char_cons.mp readsBack))
      | stray offset =>
          obtain ⟨stays, others⟩ := readsBack_stray_cons.mp readsBack
          exact readsBack_stray_cons.mpr ⟨stays.of_append, hypothesis others⟩
      | lone surrogate => exact absurd readsBack not_readsBack_lone_cons

/-- Every part of a text that comes back does so too. -/
theorem ReadsBack.of_isInfix {part content : Text} (readsBack : ReadsBack content)
    (within : part <:+: content) : ReadsBack part := by
  obtain ⟨front, back, rfl⟩ := within
  exact readsBack.left.right

theorem hasSurrogate_cons_eq_false {symbol : Symbol} {rest : Text} :
    Text.hasSurrogate (symbol :: rest) = false ↔
      symbol.isSurrogate = false ∧ Text.hasSurrogate rest = false := by
  simp [Text.hasSurrogate]

/-- Characters in front of a text do not matter. -/
theorem readsBack_append {left right : Text} (clean : left.hasSurrogate = false) :
    ReadsBack (left ++ right) ↔ ReadsBack right := by
  induction left with
  | nil => rfl
  | cons symbol rest hypothesis =>
      obtain ⟨character, others⟩ := hasSurrogate_cons_eq_false.mp clean
      obtain ⟨value, rfl⟩ := Symbol.isSurrogate_eq_false_iff.mp character
      exact readsBack_char_cons.trans (hypothesis others)

theorem readsBack_of_hasSurrogate_eq_false {content : Text} (clean : content.hasSurrogate = false) :
    ReadsBack content := by
  rw [← List.append_nil content]
  exact (readsBack_append clean).mpr readsBack_nil

section Rewriting

variable {written : Symbol → Text}
  (surrogate : ∀ symbol : Symbol, symbol.isSurrogate = true → written symbol = [symbol])
  (char : ∀ value, written (.char value) ≠ [] ∧ (written (.char value)).hasSurrogate = false)

include surrogate char

/-- Characters in place of each character leave the surrogates as they are. -/
theorem takeWhile_flatMap (content : Text) :
    (content.flatMap written).takeWhile Symbol.isSurrogate =
      content.takeWhile Symbol.isSurrogate := by
  induction content with
  | nil => rfl
  | cons symbol rest hypothesis =>
      cases kind : symbol.isSurrogate with
      | false =>
          obtain ⟨value, rfl⟩ := Symbol.isSurrogate_eq_false_iff.mp kind
          obtain ⟨nonempty, clean⟩ := char value
          rw [List.flatMap_cons]
          cases made : written (.char value) with
          | nil => exact absurd made nonempty
          | cons first others =>
              rw [made] at clean
              simp [(hasSurrogate_cons_eq_false.mp clean).1]
      | true =>
          rw [List.flatMap_cons, surrogate symbol kind, List.singleton_append,
            List.takeWhile_cons_of_pos kind, List.takeWhile_cons_of_pos kind, hypothesis]

/-- A text that comes back does so with characters in place of each of its characters. -/
theorem ReadsBack.flatMap {content : Text} (readsBack : ReadsBack content) :
    ReadsBack (content.flatMap written) := by
  induction content with
  | nil => exact readsBack_nil
  | cons symbol rest hypothesis =>
      rw [List.flatMap_cons]
      cases symbol with
      | char value =>
          exact (readsBack_append (char value).2).mpr
            (hypothesis (readsBack_char_cons.mp readsBack))
      | stray offset =>
          obtain ⟨stays, others⟩ := readsBack_stray_cons.mp readsBack
          rw [surrogate _ rfl, List.singleton_append, readsBack_stray_cons, ← staysStray_takeWhile,
            takeWhile_flatMap surrogate char, staysStray_takeWhile]
          exact ⟨stays, hypothesis others⟩
      | lone surrogate => exact absurd readsBack not_readsBack_lone_cons

end Rewriting

/-! ## Sealed texts -/

/-- Whether a text comes back whatever octets follow its own. -/
def Sealed (content : Text) : Prop :=
  ∀ octets, decode (encode content ++ octets) = content ++ decode octets

@[simp] theorem sealed_nil : Sealed [] := fun _ => rfl

theorem Sealed.append {left right : Text} (leftSealed : Sealed left) (rightSealed : Sealed right) :
    Sealed (left ++ right) := by
  intro octets
  rw [encode_append, List.append_assoc, leftSealed, rightSealed, List.append_assoc]

theorem Sealed.readsBack {content : Text} (isSealed : Sealed content) : ReadsBack content := by
  have alone := isSealed []
  rwa [List.append_nil, decode_nil, List.append_nil] at alone

/-- A character seals what comes back in front of it. -/
theorem ReadsBack.sealed_append {content : Text} (readsBack : ReadsBack content) (value : Char) :
    Sealed (content ++ [.char value]) := by
  intro octets
  rw [encode_append, encode_cons, encode_nil, List.append_nil, encodeSymbol, List.append_assoc,
    decode_append _ (startsAfresh_encodeChar value octets), decode_encodeChar, readsBack,
    List.append_assoc, List.singleton_append]

theorem sealed_of_hasSurrogate_eq_false {content : Text} (clean : content.hasSurrogate = false) :
    Sealed content := by
  induction content with
  | nil => exact sealed_nil
  | cons symbol rest hypothesis =>
      obtain ⟨character, others⟩ := hasSurrogate_cons_eq_false.mp clean
      obtain ⟨value, rfl⟩ := Symbol.isSurrogate_eq_false_iff.mp character
      exact (readsBack_nil.sealed_append value).append (hypothesis others)

theorem sealed_flatten {parts : List Text} (each : ∀ part ∈ parts, Sealed part) :
    Sealed parts.flatten := by
  induction parts with
  | nil => exact sealed_nil
  | cons part rest hypothesis =>
      rw [List.flatten_cons]
      exact (each part (by simp)).append
        (hypothesis fun other member => each other (by simp [member]))

theorem sealed_intercalate {separator : Text} (between : Sealed separator) {parts : List Text}
    (each : ∀ part ∈ parts, Sealed part) : Sealed (separator.intercalate parts) := by
  induction parts with
  | nil => exact sealed_nil
  | cons part rest hypothesis =>
      have others := hypothesis fun other member => each other (by simp [member])
      cases rest with
      | nil => simpa using each part (by simp)
      | cons next more =>
          rw [List.intercalate_cons_cons]
          exact ((each part (by simp)).append between).append others

end SqlDump.Utf8
