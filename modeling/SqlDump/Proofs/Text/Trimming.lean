import Mathlib.Data.List.DropRight
import Mathlib.Data.List.TakeWhile
import SqlDump.Text.Blank

/-!
# Trimming texts

Trimming takes nothing but blanks, and takes all of them at both ends: what is to be
seen of a text is to be seen of the trimmed one.
-/

namespace SqlDump.Text

/-- Blanks in front of a text do not matter. -/
theorem strip_append_of_blank {blanks : Text} (blank : ∀ symbol ∈ blanks, symbol.isBlank = true)
    (content : Text) : strip (blanks ++ content) = strip content := by
  rw [strip, trimBoth, List.dropWhile_append_of_pos blank]
  rfl

/-- Trimming takes nothing from items whose first and last ones stay. -/
theorem trimBoth_eq_self {α : Type} {drops : α → Bool} {items : List α}
    (front : ∀ item ∈ items.head?, drops item = false)
    (back : ∀ item ∈ items.getLast?, drops item = false) : trimBoth drops items = items := by
  have keepsFront : items.dropWhile drops = items := by
    cases items with
    | nil => rfl
    | cons first rest => simp [front first rfl]
  have keepsBack : items.reverse.dropWhile drops = items.reverse := by
    cases reversed : items.reverse with
    | nil => rfl
    | cons last rest =>
        have isLast : items.getLast? = some last := by
          rw [← List.head?_reverse, reversed, List.head?_cons]
        simp [back last isLast]
  rw [trimBoth, keepsFront, keepsBack, List.reverse_reverse]

/-- A text whose first and last symbols are no blanks is trimmed already. -/
theorem strip_eq_self {content : Text}
    (front : ∀ symbol ∈ content.head?, symbol.isBlank = false)
    (back : ∀ symbol ∈ content.getLast?, symbol.isBlank = false) : strip content = content :=
  trimBoth_eq_self front back

/-- A text with a symbol that is no blank has something left. -/
theorem strip_ne_nil {content : Text} {symbol : Symbol} (member : symbol ∈ content)
    (visible : symbol.isBlank = false) : strip content ≠ [] := by
  intro stripped
  simp only [strip, trimBoth, List.reverse_eq_nil_iff, List.dropWhile_eq_nil_iff,
    List.mem_reverse] at stripped
  have survives : symbol ∈ content.dropWhile Symbol.isBlank := by
    induction content with
    | nil => cases member
    | cons first rest hypothesis =>
        rcases List.mem_cons.mp member with rfl | inRest
        · simp [visible]
        · rw [List.dropWhile_cons]
          split
          next blank =>
            rw [List.dropWhile_cons_of_pos blank] at stripped
            exact hypothesis inRest stripped
          next => simp [inRest]
  rw [stripped symbol survives] at visible
  exact absurd visible (by decide)

/-- A trimmed text is a part of the text. -/
theorem isInfix_strip (content : Text) : strip content <:+: content := by
  have front : content.dropWhile Symbol.isBlank <:+: content :=
    (List.dropWhile_suffix _).isInfix
  have back : strip content <+: content.dropWhile Symbol.isBlank := by
    rw [strip, trimBoth, ← List.reverse_suffix, List.reverse_reverse]
    exact List.dropWhile_suffix _
  exact back.isInfix.trans front

/-- Trimming takes blanks at the front, then blanks at the back. -/
theorem strip_eq_rdropWhile (content : Text) :
    strip content = (content.dropWhile Symbol.isBlank).rdropWhile Symbol.isBlank := rfl

/-- A text is the trimmed text between blanks. -/
theorem exists_eq_append_strip (content : Text) :
    ∃ front back, content = front ++ (strip content ++ back) ∧
      (∀ symbol ∈ front, symbol.isBlank = true) ∧ ∀ symbol ∈ back, symbol.isBlank = true := by
  refine ⟨content.takeWhile Symbol.isBlank,
    (content.dropWhile Symbol.isBlank).rtakeWhile Symbol.isBlank, ?_,
    fun _ => List.mem_takeWhile_imp, fun _ => List.mem_rtakeWhile_imp⟩
  rw [strip_eq_rdropWhile, List.rdropWhile_append_rtakeWhile, List.takeWhile_append_dropWhile]

/-- A trimmed text has no blank in front. -/
theorem head?_strip {content : Text} {first : Symbol} (isFirst : first ∈ (strip content).head?) :
    first.isBlank = false := by
  obtain ⟨back, split⟩ : strip content <+: content.dropWhile Symbol.isBlank :=
    List.rdropWhile_prefix ..
  have nonempty : strip content ≠ [] := List.ne_nil_of_mem (List.mem_of_mem_head? isFirst)
  have notDropped := List.head?_dropWhile_not Symbol.isBlank content
  rw [← split, List.head?_append_of_ne_nil _ nonempty, Option.mem_def.mp isFirst] at notDropped
  exact notDropped

/-- A trimmed text has no blank at its end. -/
theorem getLast?_strip {content : Text} {last : Symbol} (isLast : last ∈ (strip content).getLast?) :
    last.isBlank = false := by
  obtain ⟨nonempty, rfl⟩ := List.mem_getLast?_eq_getLast isLast
  exact eq_false_of_ne_true (List.rdropWhile_last_not _ _ nonempty)

/-- Trimming once is enough. -/
@[simp] theorem strip_strip (content : Text) : strip (strip content) = strip content :=
  strip_eq_self (fun _ => head?_strip) (fun _ => getLast?_strip)

/-- The symbols of a text that are no blanks. -/
def visible (content : Text) : Text :=
  content.filter (!·.isBlank)

@[simp] theorem visible_append (left right : Text) :
    visible (left ++ right) = visible left ++ visible right :=
  List.filter_append left right

theorem visible_dropWhile (content : Text) :
    visible (content.dropWhile Symbol.isBlank) = visible content := by
  induction content with
  | nil => rfl
  | cons symbol rest hypothesis =>
      cases blank : symbol.isBlank with
      | true => simpa [visible, blank] using hypothesis
      | false => simp [blank]

/-- Trimming takes nothing but blanks. -/
@[simp] theorem visible_strip (content : Text) : visible (strip content) = visible content := by
  calc
    visible (strip content)
      = (visible
          ((content.dropWhile Symbol.isBlank).reverse.dropWhile Symbol.isBlank)).reverse := by
        simp only [strip, trimBoth, visible, List.filter_reverse]
    _ = visible content := by
        rw [visible_dropWhile]
        simp only [visible, List.filter_reverse, List.reverse_reverse]
        exact visible_dropWhile content

theorem visible_eq_nil_iff {content : Text} :
    visible content = [] ↔ ∀ symbol ∈ content, symbol.isBlank = true := by
  simp [visible, List.filter_eq_nil_iff]

theorem length_visible_cons (symbol : Symbol) (rest : Text) :
    (visible (symbol :: rest)).length = (visible [symbol]).length + (visible rest).length := by
  rw [← List.singleton_append, visible_append, List.length_append]

end SqlDump.Text
