import Mathlib.Data.List.Nodup
import Phrasebook.Proofs.Registration.History

/-!
# Conversions on record

A registry keeps one conversion for each pair of types.  A later one takes the
place of an earlier one between the same types, so the pairs stand in the order
in which they first came, each with the conversion that was registered last.
-/

namespace Phrasebook

theorem eraseDups_concat {α : Type} [BEq α] [LawfulBEq α] (items : List α)
    (item : α) [Decidable (item ∈ items)] :
    (items ++ [item]).eraseDups =
      if item ∈ items then items.eraseDups else items.eraseDups ++ [item] := by
  rw [List.eraseDups_append, List.removeAll]
  split
  · rename_i known
    simp [known]
  · rename_i new
    simp [new, List.eraseDups_cons]

namespace Conversion

def pair (conversion : Conversion) : Text × Text :=
  (conversion.source, conversion.target)

/-- What is kept of conversions that were registered one after the other. -/
structure Kept (registered kept : List Conversion) : Prop where
  distinct : (kept.map pair).Nodup
  /-- The pairs are in the order in which they first came. -/
  order : kept.map pair = (registered.map pair).eraseDups
  /-- Each conversion is the last one of its pair. -/
  latest : ∀ conversion ∈ kept, ∃ front behind,
    registered = front ++ conversion :: behind ∧
    ∀ later ∈ behind, later.pair ≠ conversion.pair

variable {conversion other : Conversion} {registered kept : List Conversion}

theorem same_pair_iff :
    (other.source == conversion.source && other.target == conversion.target) =
      true ↔
      other.pair = conversion.pair := by
  simp [pair]

open Registry (putConversion)

theorem map_pair_put (conversion : Conversion) (kept : List Conversion) :
    (putConversion conversion kept).map pair =
      if conversion.pair ∈ kept.map pair then kept.map pair
      else kept.map pair ++ [conversion.pair] := by
  induction kept with
  | nil => rfl
  | cons earlier rest induction =>
      rw [putConversion]
      by_cases same : earlier.pair = conversion.pair
      · rw [if_pos (same_pair_iff.mpr same)]
        simp [same]
      · rw [if_neg (mt same_pair_iff.mp same), List.map_cons, induction]
        have unlike : ¬ conversion.pair = earlier.pair := Ne.symm same
        simp only [List.map_cons, List.mem_cons, unlike, false_or]
        split <;> rfl

/-- A conversion takes the place of all others between its types. -/
theorem mem_put (distinct : (kept.map pair).Nodup)
    (member : other ∈ putConversion conversion kept) :
    other = conversion ∨ other ∈ kept ∧ other.pair ≠ conversion.pair := by
  induction kept with
  | nil => exact .inl (List.mem_singleton.mp member)
  | cons earlier rest induction =>
      obtain ⟨notLater, distinct⟩ := List.nodup_cons.mp distinct
      rw [putConversion] at member
      by_cases same : earlier.pair = conversion.pair
      · rw [if_pos (same_pair_iff.mpr same)] at member
        rcases List.mem_cons.mp member with rfl | member
        · exact .inl rfl
        · refine .inr ⟨List.mem_cons_of_mem earlier member, ?_⟩
          intro alike
          exact notLater (List.mem_map.mpr ⟨other, member, alike.trans same.symm⟩)
      · rw [if_neg (mt same_pair_iff.mp same)] at member
        rcases List.mem_cons.mp member with rfl | member
        · exact .inr ⟨List.mem_cons_self, same⟩
        · rcases induction distinct member with rfl | ⟨member, unlike⟩
          · exact .inl rfl
          · exact .inr ⟨List.mem_cons_of_mem earlier member, unlike⟩

theorem Kept.nil : Kept [] [] where
  distinct := List.nodup_nil
  order := rfl
  latest := by simp

theorem Kept.put (held : Kept registered kept) (conversion : Conversion) :
    Kept (registered ++ [conversion]) (putConversion conversion kept) := by
  have known : conversion.pair ∈ kept.map pair ↔
      conversion.pair ∈ registered.map pair := by
    rw [held.order, List.mem_eraseDups]
  constructor
  · rw [map_pair_put]
    split
    · exact held.distinct
    · rename_i new
      rw [List.nodup_append]
      refine ⟨held.distinct, by simp, ?_⟩
      rintro earlier member last single rfl
      rw [List.mem_singleton.mp single] at member
      exact new member
  · rw [map_pair_put, List.map_append, List.map_singleton,
      eraseDups_concat, ← held.order]
    simp only [known]
  · intro other member
    rcases mem_put held.distinct member with rfl | ⟨member, unlike⟩
    · exact ⟨registered, [], rfl, by simp⟩
    · obtain ⟨front, behind, split, last⟩ := held.latest other member
      refine ⟨front, behind ++ [conversion], by simp [split], ?_⟩
      intro later isLater
      rcases List.mem_append.mp isLater with isLater | isLater
      · exact last later isLater
      · obtain rfl := List.mem_singleton.mp isLater
        exact unlike.symm

end Conversion

namespace Registration

/-- The conversions that these calls register, in order. -/
def conversionsOf (calls : List Registration) : List Conversion :=
  calls.filterMap fun
    | .converter conversion => some conversion
    | _ => none

end Registration

namespace Registry

open Registration Conversion

variable {registry after : Registry} {call : Registration}
  {registered : List Conversion}

private theorem kept_of_changes (held : Kept registered registry.conversions)
    (changes : Changes registry call after) :
    Kept (registered ++ conversionsOf [call]) after.conversions := by
  cases changes with
  | converter _ _ => exact held.put _
  | stored _ stores _ =>
      cases call with
      | converter _ | type _ | freeze => cases stores
      | syntaxes _ _ | condition _ | effect _ | expression _ _ | event _ _ =>
          exact (List.append_nil registered).symm ▸ held
  | type _ _ | freeze => exact (List.append_nil registered).symm ▸ held

/-- What calls leave of the conversions that they register. -/
theorem kept_after (held : Kept registered registry.conversions)
    (calls : List Registration) :
    Kept (registered ++ conversionsOf (accepted registry calls))
      (registry.after calls).conversions := by
  induction calls generalizing registry registered with
  | nil => exact (List.append_nil registered).symm ▸ held
  | cons call calls induction =>
      rw [after_cons, accepted, perform_eq]
      cases applied : call.apply registry with
      | error error => exact induction held
      | ok next =>
          have first : conversionsOf (call :: accepted next calls) =
              conversionsOf [call] ++ conversionsOf (accepted next calls) :=
            List.filterMap_append (l := [call])
          have later := induction (kept_of_changes held (apply_changes applied))
          rwa [List.append_assoc, ← first] at later

private theorem Fresh.conversions_eq (fresh : registry.Fresh) :
    registry.conversions = [] := by
  cases fresh with
  | blank regexes => rfl
  | builtins made =>
      cases made
      rfl

theorem Fresh.kept (fresh : registry.Fresh) (calls : List Registration) :
    Kept (conversionsOf (accepted registry calls))
      (registry.after calls).conversions := by
  have held : Kept [] registry.conversions := fresh.conversions_eq ▸ .nil
  exact kept_after held calls

end Registry

end Phrasebook
