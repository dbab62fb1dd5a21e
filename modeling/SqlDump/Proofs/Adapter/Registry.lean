import Mathlib.Data.List.Basic
import Mathlib.Data.List.Induction
import SqlDump.Adapter.Registry
import SqlDump.Client.ValueType

/-!
# The most specific and the latest handler

Registering a handler puts it in front of all others for the types that it claims and leaves the
other types as they are. After any sequence of registrations a type therefore belongs to the last
handler that claims it, and an ancestry to the last handler that claims the first of its types that
is claimed at all. A further handler is found only where one of its types stands no later in the
ancestry than this first type.

Main statement: `find?_registerAll`.
-/

namespace SqlDump.Registry

open Client (ValueType)

variable {Claimed Handler : Type} {claims : Handler → List Claimed} {handlers : List Handler}
  {handler further : Handler} {type : Claimed} {ancestry : List Claimed}

/-! ## Claims in a sequence of handlers -/

/-- Whether a type is claimed by some handler of a sequence. -/
def IsClaimed (claims : Handler → List Claimed) (handlers : List Handler) (type : Claimed) :
    Prop :=
  ∃ handler ∈ handlers, type ∈ claims handler

/-- Whether a handler is the last one of a sequence that claims a type. -/
def IsLastClaimant (claims : Handler → List Claimed) (handlers : List Handler) (type : Claimed)
    (handler : Handler) : Prop :=
  ∃ earlier later, handlers = earlier ++ handler :: later ∧ type ∈ claims handler ∧
    ¬IsClaimed claims later type

/-- Whether a type is the first one of an ancestry that some handler of a sequence claims. -/
def IsFirstClaimed (claims : Handler → List Claimed) (handlers : List Handler)
    (ancestry : List Claimed) (type : Claimed) : Prop :=
  ∃ nearer farther, ancestry = nearer ++ type :: farther ∧ IsClaimed claims handlers type ∧
    ∀ other ∈ nearer, ¬IsClaimed claims handlers other

theorem isClaimed_append {left right : List Handler} :
    IsClaimed claims (left ++ right) type ↔
      IsClaimed claims left type ∨ IsClaimed claims right type := by
  simp only [IsClaimed, List.mem_append, or_and_right, exists_or]

theorem isClaimed_singleton : IsClaimed claims [handler] type ↔ type ∈ claims handler := by
  simp only [IsClaimed, List.mem_singleton, exists_eq_left]

theorem IsLastClaimant.isClaimed (last : IsLastClaimant claims handlers type handler) :
    IsClaimed claims handlers type := by
  obtain ⟨earlier, later, rfl, claimed, -⟩ := last
  exact ⟨handler, by simp, claimed⟩

/-- A handler at the end takes the types that it claims and no others. -/
theorem isLastClaimant_concat :
    IsLastClaimant claims (handlers ++ [further]) type handler ↔
      type ∈ claims further ∧ handler = further ∨
        type ∉ claims further ∧ IsLastClaimant claims handlers type handler := by
  constructor
  · rintro ⟨earlier, later, parts, claimed, unclaimed⟩
    induction later using List.reverseRecOn with
    | nil =>
        obtain ⟨-, same⟩ := List.append_inj' parts rfl
        obtain rfl := List.singleton_inj.mp same
        exact .inl ⟨claimed, rfl⟩
    | append_singleton rest final _ =>
        rw [← List.cons_append, ← List.append_assoc] at parts
        obtain ⟨rfl, same⟩ := List.append_inj' parts rfl
        obtain rfl := List.singleton_inj.mp same
        rw [isClaimed_append, not_or, isClaimed_singleton] at unclaimed
        exact .inr ⟨unclaimed.2, earlier, rest, rfl, claimed, unclaimed.1⟩
  · rintro (⟨claimed, rfl⟩ | ⟨passed, earlier, later, rfl, claimed, unclaimed⟩)
    · exact ⟨handlers, [], rfl, claimed, nofun⟩
    · refine ⟨earlier, later ++ [further], by simp, claimed, ?_⟩
      rw [isClaimed_append, not_or, isClaimed_singleton]
      exact ⟨unclaimed, passed⟩

/-- Whether an ancestry has a type of a further handler with no type in front of it that is claimed
by some handler of a sequence. -/
def Overtakes (claims : Handler → List Claimed) (handlers : List Handler) (further : Handler)
    (ancestry : List Claimed) : Prop :=
  ∃ nearer type farther, ancestry = nearer ++ type :: farther ∧ type ∈ claims further ∧
    ∀ other ∈ nearer, ¬IsClaimed claims handlers other

theorem overtakes_cons {rest : List Claimed} :
    Overtakes claims handlers further (type :: rest) ↔
      type ∈ claims further ∨
        ¬IsClaimed claims handlers type ∧ Overtakes claims handlers further rest := by
  constructor
  · rintro ⟨nearer, reached, farther, parts, claimed, unclaimed⟩
    cases nearer with
    | nil =>
        obtain ⟨rfl, -⟩ := List.cons.inj parts
        exact .inl claimed
    | cons first others =>
        obtain ⟨rfl, rest⟩ := List.cons.inj parts
        obtain ⟨passed, others⟩ := List.forall_mem_cons.mp unclaimed
        exact .inr ⟨passed, _, reached, farther, rest, claimed, others⟩
  · rintro (claimed | ⟨passed, nearer, reached, farther, rfl, claimed, unclaimed⟩)
    · exact ⟨[], type, rest, rfl, claimed, nofun⟩
    · exact ⟨type :: nearer, reached, farther, rfl, claimed,
        List.forall_mem_cons.mpr ⟨passed, unclaimed⟩⟩

/-! ## Registration -/

/-- A registry after further handlers are registered one after another. -/
def registerAll (registry : Registry Claimed Handler) (claims : Handler → List Claimed)
    (handlers : List Handler) : Registry Claimed Handler :=
  handlers.foldl (fun registry handler => registry.register claims handler) registry

theorem ofHandlers_append (claims : Handler → List Claimed) (given later : List Handler) :
    ofHandlers claims (given ++ later) = (ofHandlers claims given).registerAll claims later :=
  List.foldl_append

theorem ofHandlers_concat (claims : Handler → List Claimed) (handlers : List Handler)
    (handler : Handler) :
    ofHandlers claims (handlers ++ [handler]) =
      (ofHandlers claims handlers).register claims handler :=
  ofHandlers_append claims handlers [handler]

variable [DecidableEq Claimed]

/-- What one registration changes. -/
theorem claimant?_register (registry : Registry Claimed Handler)
    (claims : Handler → List Claimed) (handler : Handler) (type : Claimed) :
    (registry.register claims handler).claimant? type =
      if type ∈ claims handler then some handler else registry.claimant? type := by
  rw [claimant?, register, List.lookup_append, ← List.map_reverse]
  by_cases claimed : type ∈ claims handler
  · rw [if_pos claimed, List.lookup_graph (fun _ => handler) (List.mem_reverse.mpr claimed),
      Option.some_or]
  · have passed :
        ((claims handler).reverse.map fun type => (type, handler)).lookup type = none := by
      rw [List.lookup_eq_none_iff]
      intro entry known
      simp only [List.mem_map, List.mem_reverse] at known
      obtain ⟨other, known, rfl⟩ := known
      exact bne_iff_ne.mpr fun same => claimed (same ▸ known)
    rw [if_neg claimed, passed, Option.none_or, claimant?]

/-- What a sequence of registrations comes to. -/
theorem claimant?_ofHandlers_eq_some_iff :
    (ofHandlers claims handlers).claimant? type = some handler ↔
      IsLastClaimant claims handlers type handler := by
  induction handlers using List.reverseRecOn with
  | nil => simp [ofHandlers, empty, claimant?, IsLastClaimant]
  | append_singleton rest final hypothesis =>
      rw [ofHandlers_concat, claimant?_register, isLastClaimant_concat]
      by_cases claimed : type ∈ claims final
      · simp [claimed, eq_comm]
      · simp [claimed, hypothesis]

theorem claimant?_ofHandlers_eq_none_iff :
    (ofHandlers claims handlers).claimant? type = none ↔ ¬IsClaimed claims handlers type := by
  induction handlers using List.reverseRecOn with
  | nil => simp [ofHandlers, empty, claimant?, IsClaimed]
  | append_singleton rest final hypothesis =>
      rw [ofHandlers_concat, claimant?_register, isClaimed_append, isClaimed_singleton, not_or]
      by_cases claimed : type ∈ claims final
      · simp [claimed]
      · simp [claimed, hypothesis]

/-! ## Ancestries -/

theorem find?_ofHandlers_eq_some_iff :
    (ofHandlers claims handlers).find? ancestry = some handler ↔
      ∃ type, IsFirstClaimed claims handlers ancestry type ∧
        IsLastClaimant claims handlers type handler := by
  simp only [find?, List.findSome?_eq_some_iff, claimant?_ofHandlers_eq_some_iff,
    claimant?_ofHandlers_eq_none_iff]
  constructor
  · rintro ⟨nearer, type, farther, parts, last, unclaimed⟩
    exact ⟨type, ⟨nearer, farther, parts, last.isClaimed, unclaimed⟩, last⟩
  · rintro ⟨type, ⟨nearer, farther, parts, -, unclaimed⟩, last⟩
    exact ⟨nearer, type, farther, parts, last, unclaimed⟩

theorem find?_ofHandlers_eq_none_iff :
    (ofHandlers claims handlers).find? ancestry = none ↔
      ∀ type ∈ ancestry, ¬IsClaimed claims handlers type := by
  simp only [find?, List.findSome?_eq_none_iff, claimant?_ofHandlers_eq_none_iff]

/-- A further handler is found exactly where it overtakes the others. -/
theorem find?_register (claims : Handler → List Claimed) (handlers : List Handler)
    (further : Handler) (ancestry : List Claimed) :
    (Overtakes claims handlers further ancestry ∧
        ((ofHandlers claims handlers).register claims further).find? ancestry = some further) ∨
      ¬Overtakes claims handlers further ancestry ∧
        ((ofHandlers claims handlers).register claims further).find? ancestry =
          (ofHandlers claims handlers).find? ancestry := by
  induction ancestry with
  | nil => exact .inr ⟨by simp [Overtakes], rfl⟩
  | cons type rest hypothesis =>
      simp only [find?, List.findSome?_cons, claimant?_register, overtakes_cons] at hypothesis ⊢
      by_cases claimed : type ∈ claims further
      · simp [claimed]
      · cases known : (ofHandlers claims handlers).claimant? type with
        | some handler =>
            have matched : IsClaimed claims handlers type :=
              (claimant?_ofHandlers_eq_some_iff.mp known).isClaimed
            simp [claimed, matched]
        | none =>
            have passed := claimant?_ofHandlers_eq_none_iff.mp known
            simpa [claimed, passed] using hypothesis

/-- After any sequence of registrations an ancestry has the last handler that claims the first of
its types that any handler claims, and no handler exactly where none claims any of its types. One
more handler is found where one of its types stands no later in the ancestry than the first claimed
one, and changes nothing elsewhere. -/
theorem find?_registerAll (claims : Handler → List Claimed) (given later : List Handler)
    (ancestry : List Claimed) :
    let registry := (ofHandlers claims given).registerAll claims later
    (∀ handler, registry.find? ancestry = some handler ↔
      ∃ type, IsFirstClaimed claims (given ++ later) ancestry type ∧
        IsLastClaimant claims (given ++ later) type handler) ∧
    (registry.find? ancestry = none ↔
      ∀ type ∈ ancestry, ¬IsClaimed claims (given ++ later) type) ∧
    ∀ further,
      (Overtakes claims (given ++ later) further ancestry →
        (registry.register claims further).find? ancestry = some further) ∧
      ((registry.register claims further).find? ancestry ≠ registry.find? ancestry →
        Overtakes claims (given ++ later) further ancestry) := by
  rw [← ofHandlers_append]
  refine ⟨fun handler => find?_ofHandlers_eq_some_iff, find?_ofHandlers_eq_none_iff,
    fun further => ?_⟩
  rcases find?_register claims (given ++ later) further ancestry with
    ⟨overtakes, found⟩ | ⟨behind, unchanged⟩
  · exact ⟨fun _ => found, fun _ => overtakes⟩
  · exact ⟨fun overtakes => absurd overtakes behind, fun changed => absurd unchanged changed⟩

/-- Behind handlers of moments and of dates, a handler of both takes a program's own moments. -/
theorem find?_registerAll_derivedMoment :
    let dates : String × List ValueType := ("dates", [.date])
    let moments : String × List ValueType := ("moments", [.moment])
    let both : String × List ValueType := ("both", [.date, .moment])
    let registry := (ofHandlers Prod.snd [moments]).registerAll Prod.snd [dates]
    let ancestry := (ValueType.derived "Stamp" .moment).ancestry
    (registry.register Prod.snd both).find? ancestry ≠ registry.find? ancestry ∧
      Overtakes Prod.snd ([moments] ++ [dates]) both ancestry ∧
      (registry.register Prod.snd both).find? ancestry = some both := by
  intro dates moments both registry ancestry
  have changed : (registry.register Prod.snd both).find? ancestry ≠ registry.find? ancestry := by
    decide
  have overtakes : Overtakes Prod.snd ([moments] ++ [dates]) both ancestry :=
    ((find?_registerAll Prod.snd [moments] [dates] ancestry).2.2 both).2 changed
  exact ⟨changed, overtakes,
    ((find?_registerAll Prod.snd [moments] [dates] ancestry).2.2 both).1 overtakes⟩

/-- A handler of dates takes no moments from a handler of moments, however late it is registered. -/
example : (ofHandlers Prod.snd [("moments", [.moment]), ("dates", [ValueType.date])]).find?
    ValueType.moment.ancestry = some ("moments", [.moment]) := by
  decide

end SqlDump.Registry
