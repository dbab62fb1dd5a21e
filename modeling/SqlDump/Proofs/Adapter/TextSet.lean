import Mathlib.Data.List.Forall2
import Mathlib.Data.List.Lex
import SqlDump.Proofs.Adapter.Standard
import SqlDump.Proofs.Text.Readback

/-!
# Sets of texts

A set lists its members in no particular order. It is stored as the one list that has them in the
order of their code points, with commas between them. Texts have this order by the places of their
symbols, and no two texts share their places, so two ways to list the members are sorted to the same
list. Members without commas are found again between the commas, unless the empty text is the only
one: its list cannot be told from the list of no members.

Main statement: `ofRaw_listsTexts_of_perm`.
-/

namespace SqlDump

open Client (Raw)

/-! ## The order of texts -/

namespace Text

/-- The places of the symbols of a text, for characters their code points. -/
def places (content : Text) : List Nat :=
  content.map Symbol.place

@[simp] theorem places_nil : places [] = [] := rfl

@[simp] theorem places_cons (symbol : Symbol) (rest : Text) :
    places (symbol :: rest) = symbol.place :: places rest := rfl

theorem places_injective {left right : Text} (same : left.places = right.places) : left = right :=
  List.map_injective_iff.mpr (fun _ _ => Symbol.place_injective) same

theorem before_iff_places_lt {left right : Text} :
    before left right = true ↔ left.places < right.places := by
  induction left generalizing right with
  | nil =>
      cases right with
      | nil => simp [before]
      | cons other others => simp [before]
  | cons first rest hypothesis =>
      cases right with
      | nil => simp [before]
      | cons other others =>
          rw [before, places_cons, places_cons, List.cons_lt_cons_iff]
          by_cases same : first = other
          · simpa [same] using hypothesis
          · have apart : first.place ≠ other.place := fun equal =>
              same (Symbol.place_injective equal)
            simp [same, apart]

end Text

namespace Adapter

theorem sortTexts_perm (texts : List Text) : (sortTexts texts).Perm texts :=
  List.mergeSort_perm texts _

theorem pairwise_sortTexts (texts : List Text) :
    (sortTexts texts).Pairwise fun left right => left.places ≤ right.places := by
  have notAfter : ∀ left right : Text,
      (!Text.before right left) = true ↔ left.places ≤ right.places := by
    intro left right
    rw [Bool.not_eq_true', ← Bool.not_eq_true, Text.before_iff_places_lt, not_lt]
  simp only [← notAfter]
  refine List.pairwise_mergeSort ?_ ?_ texts
  · intro first second third
    simp only [notAfter]
    exact le_trans
  · intro left right
    rw [Bool.or_eq_true, notAfter, notAfter]
    exact le_total _ _

/-- Texts are sorted to one list, in whatever order they are given. -/
theorem sortTexts_eq_of_perm {left right : List Text} (same : left.Perm right) :
    sortTexts left = sortTexts right :=
  List.Perm.eq_of_pairwise
    (fun _ _ _ _ forth back => Text.places_injective (le_antisymm forth back))
    (pairwise_sortTexts left) (pairwise_sortTexts right)
    ((sortTexts_perm left).trans (same.trans (sortTexts_perm right).symm))

/-- Texts of which none is given twice are sorted strictly. -/
theorem pairwise_lt_sortTexts {texts : List Text} (nodup : texts.Nodup) :
    (sortTexts texts).Pairwise fun left right => left.places < right.places := by
  have distinct : (sortTexts texts).Nodup := (sortTexts_perm texts).nodup_iff.mpr nodup
  refine (pairwise_sortTexts texts).imp₂ ?_ distinct
  intro left right notAfter other
  exact lt_of_le_of_ne notAfter fun same => other (Text.places_injective same)

end Adapter

/-! ## Lists with commas -/

namespace Text

/-- The items of a text that lists them with commas between them. The empty text lists none. -/
def items (content : Text) : List Text :=
  if content = [] then [] else content.splitOn (.char ',')

theorem intercalate_eq_nil_iff {separator : Text} (nonempty : separator ≠ [])
    {parts : List Text} : separator.intercalate parts = [] ↔ parts = [] ∨ parts = [[]] := by
  cases parts with
  | nil => simp
  | cons part rest =>
      cases rest with
      | nil => simp
      | cons next others => simp [List.intercalate_cons_cons, nonempty]

theorem hasLone_intercalate_eq_false {separator : Text} (between : separator.hasLone = false)
    {parts : List Text} (each : ∀ part ∈ parts, part.hasLone = false) :
    hasLone (separator.intercalate parts) = false := by
  induction parts with
  | nil => rfl
  | cons part rest hypothesis =>
      have others := hypothesis fun other member => each other (by simp [member])
      cases rest with
      | nil => simpa using each part (by simp)
      | cons next more =>
          rw [List.intercalate_cons_cons, hasLone_append, hasLone_append, each part (by simp),
            between, others]
          rfl

/-- Items without commas are found again, unless the empty text is the only one. -/
theorem items_intercalate {parts : List Text} (apart : ∀ part ∈ parts, .char ',' ∉ part)
    (notBlank : parts ≠ [[]]) : items ((text ",").intercalate parts) = parts := by
  have comma : text "," = [.char ','] := rfl
  by_cases none : parts = []
  · rw [none]
    rfl
  · have nonempty : (text ",").intercalate parts ≠ [] := by
      rw [Ne, intercalate_eq_nil_iff (by simp [comma])]
      exact not_or.mpr ⟨none, notBlank⟩
    rw [items, if_neg nonempty, comma, List.splitOn_intercalate _ apart none]

/-- The list of the empty text alone is that of no items. -/
example : items ((text ",").intercalate [[]]) = [] := by
  rfl

end Text

/-! ## Sets -/

/-- Whether a value is a set of texts that lists the given ones, each of them once. Its members are
texts or values of a program's own types on top of texts, and so is the set. -/
structure Client.Raw.ListsTexts (raw : Raw) (members : List Text) : Prop where
  nodup : members.Nodup
  isSet : ∃ frozen items, raw.plain = .set frozen items ∧
    List.Forall₂ (fun item member => item.plain = .text member) items members

namespace Adapter

theorem mapM_memberText? {items : List Raw} {members : List Text}
    (each : List.Forall₂ (fun item member => item.plain = .text member) items members) :
    items.mapM memberText? = some members := by
  induction each with
  | nil => rfl
  | cons first _ hypothesis =>
      rw [List.mapM_cons, hypothesis, memberText?, first]
      rfl

end Adapter

namespace Value

theorem ofRaw_of_listsTexts {raw : Raw} {members : List Text} (lists : raw.ListsTexts members)
    (kind : Option Kind) :
    ofRaw kind raw = Adapter.storeText ((text ",").intercalate (Adapter.sortTexts members)) := by
  obtain ⟨frozen, items, plain, each⟩ := lists.isSet
  have found : Adapters.standard.find? raw.plain.type = some .set := by
    rw [plain]
    cases frozen <;> rfl
  rw [ofRaw_eq_convert found]
  simp only [Adapter.set, plain, Adapter.setText, Adapter.mapM_memberText? each]

/-- However a set of texts lists its members, the same becomes of it. Unless one of them has a lone
surrogate it is stored as the octets of one text: the members in strictly ascending order of their
code points, each of them once, with commas between them. Members without surrogates and commas are
found again as the items of that text, unless the empty text is the only one. -/
theorem ofRaw_listsTexts_of_perm {left right : Raw} {leftMembers rightMembers : List Text}
    (leftLists : left.ListsTexts leftMembers) (rightLists : right.ListsTexts rightMembers)
    (same : leftMembers.Perm rightMembers) (leftKind rightKind : Option Kind) :
    ∃ sorted : List Text, sorted.Perm leftMembers ∧
      sorted.Pairwise (fun first second => first.places < second.places) ∧
      ofRaw leftKind left = ofRaw rightKind right ∧
      ((∀ member ∈ leftMembers, member.hasLone = false) →
        ∃ octets, Encoding.utf8.encode ((text ",").intercalate sorted) = .ok octets ∧
          ofRaw leftKind left = .ok (.bytes octets) ∧
          ((∀ member ∈ leftMembers, member.hasSurrogate = false ∧ .char ',' ∉ member) →
            leftMembers ≠ [[]] → Text.items (Utf8.decode octets) = sorted)) := by
  have listed := Adapter.sortTexts_perm leftMembers
  have stored := ofRaw_of_listsTexts leftLists leftKind
  refine ⟨Adapter.sortTexts leftMembers, listed, Adapter.pairwise_lt_sortTexts leftLists.nodup,
    ?_, ?_⟩
  · rw [stored, Adapter.sortTexts_eq_of_perm same]
    exact (ofRaw_of_listsTexts rightLists rightKind).symm
  · intro writable
    have comma : (text ",").hasLone = false := rfl
    have written := Encoding.encode_utf8_of_hasLone_eq_false
      (Text.hasLone_intercalate_eq_false comma fun member inSorted =>
        writable member (listed.subset inSorted))
    refine ⟨_, written, ?_, ?_⟩
    · rw [stored, Adapter.storeText, written]
    · intro plain notBlank
      have clean : ∀ member ∈ Adapter.sortTexts leftMembers, Utf8.Sealed member :=
        fun member inSorted =>
          Utf8.sealed_of_hasSurrogate_eq_false (plain member (listed.subset inSorted)).1
      have apart : ∀ member ∈ Adapter.sortTexts leftMembers, .char ',' ∉ member :=
        fun member inSorted => (plain member (listed.subset inSorted)).2
      have readsBack :
          Utf8.ReadsBack ((text ",").intercalate (Adapter.sortTexts leftMembers)) :=
        (Utf8.sealed_intercalate (Utf8.sealed_of_hasSurrogate_eq_false rfl) clean).readsBack
      rw [readsBack]
      refine Text.items_intercalate apart ?_
      intro blank
      rw [blank] at listed
      exact notBlank (List.singleton_perm.mp listed).symm

/-- A set and a frozen set of a program's own type, with members that start alike and the empty
one. -/
theorem ofRaw_listsTexts_of_perm_alike :
    let left : Raw := .set false [.text (text "ü"), .text (text "ab"), .text [], .text (text "a")]
    let right : Raw := .derived "Tags" (.set true
      [.text [], .derived "Tag" (.text (text "a")), .text (text "ü"), .text (text "ab")])
    left.ListsTexts [text "ü", text "ab", [], text "a"] ∧
      right.ListsTexts [[], text "a", text "ü", text "ab"] ∧
      ofRaw none right = .ok (.bytes (Utf8.encode (text ",a,ab,ü"))) ∧
      (Text.items (Utf8.decode (Utf8.encode (text ",a,ab,ü")))).Perm
        [text "ü", text "ab", [], text "a"] := by
  intro left right
  have leftLists : left.ListsTexts [text "ü", text "ab", [], text "a"] :=
    ⟨by decide, _, _, rfl, by simp [Raw.plain]⟩
  have rightLists : right.ListsTexts [[], text "a", text "ü", text "ab"] :=
    ⟨by decide, _, _, rfl, by simp [Raw.plain]⟩
  have members : [text "ü", text "ab", [], text "a"].Perm [[], text "a", text "ü", text "ab"] := by
    decide
  obtain ⟨sorted, listed, ascending, alike, written⟩ :=
    ofRaw_listsTexts_of_perm leftLists rightLists members none none
  obtain ⟨octets, encoded, stored, readsBack⟩ := written (by decide)
  have same : sorted = [[], text "a", text "ab", text "ü"] :=
    List.Perm.eq_of_pairwise (fun _ _ _ _ forth back => absurd forth (lt_asymm back)) ascending
      (by decide) (listed.trans (by decide))
  have content : (text ",").intercalate sorted = text ",a,ab,ü" := by
    rw [same]
    rfl
  obtain rfl : Utf8.encode (text ",a,ab,ü") = octets :=
    (Encoding.encode_utf8_eq_ok_iff.mp (content ▸ encoded)).2
  exact ⟨leftLists, rightLists, alike ▸ stored, readsBack (by decide) (by decide) ▸ listed⟩

end Value

end SqlDump
