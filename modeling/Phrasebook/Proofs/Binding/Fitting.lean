import Phrasebook.Candidate
import Phrasebook.Proofs.Registration

/-!
# What a placeholder may be bound to

Whatever a placeholder is bound to, by the text or by a default expression, is of
the type that it names and fits it in number and time.
-/

namespace Phrasebook

/-- The expression is of the type, and not merely a text of unknown type.  The type
that every value belongs to asks for nothing. -/
def Expr.OfType (type : TypeInfo) (expr : Expr) : Prop :=
  type.name ≠ TypeInfo.universalName → expr.type.name = type.name ∧
  expr.isUnparsed = false

/-- The expression fits the placeholder in type, number and time. -/
structure Expr.Fits (placeholder : Placeholder) (expr : Expr) : Prop where
  typed : placeholder.name ≠ TypeInfo.universalName →
    expr.type.name = placeholder.name ∧ expr.isUnparsed = false
  single : placeholder.plural = false → expr.isUnparsed = true ∨
    expr.isSingle = true
  timed : placeholder.time ≠ 0 →
    ∃ element type converted, expr = .computed element type converted ∧
      ∃ earlier : Element, earlier.setTime placeholder.time = some element

/-- What may stand in the slot of a placeholder, given as it is written: nothing
only if it has a dash, and otherwise an expression that fits. -/
def Registry.Binds (registry : Registry) (written : Text)
    (entry : Option Expr) : Prop :=
  ∃ placeholder, Placeholder.read registry.normalize written = .ok placeholder ∧
    match entry with
    | none => placeholder.optional = true
    | some expr => expr.Fits placeholder

/-- One slot for each placeholder of the pattern, and every slot is bound as it
may be. -/
structure Registry.WellBound (registry : Registry) (pattern : Text)
    (exprs : List (Option Expr)) :
    Prop where
  length : exprs.length = (Pattern.placeholders pattern).length
  bound : ∀ (slot : Nat) written entry, (Pattern.placeholders pattern)[slot]? =
    some written →
    exprs[slot]? = some entry → registry.Binds written entry

/-- One slot for each placeholder of the pattern, and those that are not empty
are bound as they may be. -/
structure Registry.PartlyBound (registry : Registry) (pattern : Text)
    (exprs : List (Option Expr)) : Prop where
  length : exprs.length = (Pattern.placeholders pattern).length
  bound : ∀ (slot : Nat) written expr, (Pattern.placeholders pattern)[slot]? =
    some written →
    exprs[slot]? = some (some expr) → registry.Binds written (some expr)

/-! ## Types -/

theorem Registry.getType_name {registry : Registry} {name : Text}
    {type : RegisteredType} (known : registry.getType name = .ok type) :
    type.name = name := by
  unfold getType findType? at known
  split at known
  · rename_i found
    cases known
    simpa using List.find?_some found
  · cases known

theorem Registry.mem_of_getType {registry : Registry} {name : Text}
    {type : RegisteredType} (known : registry.getType name = .ok type) :
    type ∈ registry.types := by
  unfold getType findType? at known
  split at known
  · rename_i found
    cases known
    exact List.mem_of_find?_eq_some found
  · cases known

namespace Expr

theorem ofType_of_universal {type : RegisteredType}
    (universal : type.isUniversal = true) (expr : Expr) :
    expr.OfType type.toTypeInfo := by
  intro other
  exact absurd (by simpa [TypeInfo.isUniversal] using universal) other

theorem convertText_ofType {read : LiteralReading} {target : RegisteredType}
    {context : ParseContext} {text : Text} {converted : Expr}
    (success : convertText read target context text = .ok (some converted)) :
    converted.OfType target.toTypeInfo := by
  unfold convertText at success
  split at success
  · rename_i universal
    exact ofType_of_universal universal converted
  · obtain ⟨value, _, success⟩ := except_bind_ok success
    cases value with
    | some value =>
        cases success
        exact fun _ => ⟨rfl, rfl⟩
    | none =>
        simp only at success
        split at success
        · cases success
        · obtain ⟨values, _, success⟩ := except_bind_ok success
          cases values with
          | none => cases success
          | some values =>
              cases success
              exact fun _ => ⟨rfl, rfl⟩

private theorem ofType_withType {expr : Expr} (read : expr.isUnparsed = false)
    (type : TypeInfo) :
    (expr.withType type).OfType type := by
  intro _
  cases expr with
  | unparsed text => cases read
  | «variable» name own => exact ⟨rfl, rfl⟩
  | literal values own andList => exact ⟨rfl, rfl⟩
  | computed element own converted => exact ⟨rfl, rfl⟩

private theorem ofType_applyConverter {expr converted : Expr}
    {convert : Converter} {target : TypeInfo} (read : expr.isUnparsed = false)
    (success : expr.applyConverter convert target = some converted) :
    converted.OfType target := by
  cases expr with
  | unparsed text => cases read
  | «variable» name own =>
      cases success
      exact fun _ => ⟨rfl, rfl⟩
  | literal values own andList =>
      obtain ⟨values, _, rfl⟩ := Option.map_eq_some_iff.mp success
      exact fun _ => ⟨rfl, rfl⟩
  | computed element own converted =>
      cases success
      exact fun _ => ⟨rfl, rfl⟩

private theorem adapt_ofType {registry : Registry} {target : TypeInfo}
    {expr converted : Expr} (isRead : expr.isUnparsed = false)
    (success : expr.adapt registry target = .ok (some converted)) :
    converted.OfType target := by
  obtain ⟨isSubtype, _, success⟩ := except_bind_ok success
  split at success
  · cases success
    exact ofType_withType isRead target
  · obtain ⟨conversion, _, success⟩ := except_bind_ok success
    cases conversion with
    | none => cases success
    | some conversion => exact ofType_applyConverter isRead (Except.ok.inj success)

theorem convert_ofType {registry : Registry} {read : LiteralReading}
    {target : RegisteredType} {context : ParseContext} {expr converted : Expr}
    (success : expr.convert registry read target context = .ok (some converted)) :
    converted.OfType target.toTypeInfo := by
  by_cases universal : target.isUniversal = true
  · exact ofType_of_universal universal converted
  · cases expr with
    | unparsed text => exact convertText_ofType success
    | «variable» name own =>
        simp only [convert, if_neg universal] at success
        cases success
        exact fun _ => ⟨rfl, rfl⟩
    | literal values own andList =>
        simp only [convert, if_neg universal] at success
        exact adapt_ofType rfl success
    | computed element own conversion =>
        simp only [convert, if_neg universal] at success
        exact adapt_ofType rfl success

end Expr

/-! ## Number and time -/

namespace Expr

theorem setTime_fits {placeholder : Placeholder} {expr timed : Expr}
    (success : expr.setTime placeholder.time = some timed)
    (timeful : placeholder.time ≠ 0) (read : expr.isUnparsed = false)
    (typed : placeholder.name ≠ TypeInfo.universalName →
      expr.type.name = placeholder.name)
    (single : placeholder.plural = false → expr.isSingle = true) :
    timed.Fits placeholder := by
  cases expr with
  | unparsed text => cases read
  | «variable» name own => simp [setTime, timeful] at success
  | literal values own andList => simp [setTime, timeful] at success
  | computed element own converted =>
      simp only [setTime, if_neg timeful] at success
      obtain ⟨later, set, rfl⟩ := Option.map_eq_some_iff.mp success
      have sameNumber : later.single = element.single := by
        unfold Element.setTime at set
        split at set
        · cases set
          rfl
        · cases set
      exact {
        typed := fun special => ⟨typed special, rfl⟩
        single := fun singular => .inr (sameNumber.trans (single singular))
        timed := fun _ => ⟨later, own, converted, rfl, element, set⟩ }

end Expr

/-! ## Default expressions -/

private theorem Placeholder.read_optional {normalize : Text → Text × Bool}
    {written : Text} {placeholder : Placeholder}
    (read : Placeholder.read normalize written = .ok placeholder) :
    placeholder.optional = (Placeholder.splitDash written).1 := by
  unfold Placeholder.read at read
  simp only at read
  split at read
  · cases read
    rfl
  · split at read
    · cases read
      rfl
    · cases read

namespace Registry

private theorem bindDefault_fits {registry : Registry}
    {placeholder : Placeholder} {expr : Expr}
    (success : registry.bindDefault placeholder = .ok expr) :
    expr.Fits placeholder := by
  unfold bindDefault at success
  split at success
  · cases success
  · rename_i element _
    split at success
    · cases success
    · rename_i notSeveral
      have single : placeholder.plural = false → element.single = true := by
        intro singular
        simpa [singular] using notSeveral
      simp only [pure_bind] at success
      split at success
      · rename_i timeless
        obtain ⟨type, known, success⟩ := except_bind_ok success
        cases success
        exact {
          typed := fun _ => ⟨getType_name known, rfl⟩
          single := fun singular => .inr (single singular)
          timed := fun timeful => absurd timeless timeful }
      · rename_i timeful
        split at success
        · rename_i later set
          obtain ⟨type, known, success⟩ := except_bind_ok success
          cases success
          have own : (Expr.computed element type.toTypeInfo none).setTime
            placeholder.time =
              some (.computed later type.toTypeInfo none) := by
            simp [Expr.setTime, timeful, set]
          exact Expr.setTime_fits own timeful rfl (fun _ =>
            getType_name known) single
        · cases success

private theorem fillSlots_binds {registry : Registry} {names : List Text}
    {exprs filled : List (Option Expr)}
    (readable : ∀ written ∈ names, ∃ placeholder,
      Placeholder.read registry.normalize written = .ok placeholder)
    (partly : ∀ (slot : Nat) written expr, names[slot]? = some written →
      exprs[slot]? = some (some expr) → registry.Binds written (some expr))
    (success : registry.fillSlots names exprs = .ok filled) :
    filled.length = exprs.length ∧
      ∀ (slot : Nat) written entry, names[slot]? = some written →
      filled[slot]? = some entry →
        registry.Binds written entry := by
  induction names generalizing exprs filled with
  | nil =>
      simp only [fillSlots] at success
      cases success
      exact ⟨rfl, by simp⟩
  | cons name names induction =>
      cases exprs with
      | nil =>
          simp only [fillSlots] at success
          cases success
          exact ⟨rfl, by simp⟩
      | cons expr exprs =>
          have laterReadable := fun written member =>
            readable written (List.mem_cons_of_mem name member)
          have laterPartly :=
            fun slot written expr (named : names[slot]? = some written)
              (holds : exprs[slot]? = some (some expr)) =>
            partly (slot + 1) written expr named holds
          have first : ∃ entry later, filled = entry :: later ∧
              registry.fillSlots names exprs = .ok later ∧
              registry.Binds name entry := by
            cases expr with
            | some expr =>
                simp only [fillSlots] at success
                obtain ⟨later, rest, success⟩ := except_bind_ok success
                cases success
                exact ⟨_, later, rfl, rest, partly 0 name expr rfl rfl⟩
            | none =>
                simp only [fillSlots] at success
                split at success
                · rename_i dashed
                  obtain ⟨later, rest, success⟩ := except_bind_ok success
                  cases success
                  obtain ⟨placeholder, read⟩ := readable name List.mem_cons_self
                  have optional := (Placeholder.read_optional read).trans dashed
                  exact ⟨_, later, rfl, rest, placeholder, read, optional⟩
                · obtain ⟨placeholder, read, success⟩ := except_bind_ok success
                  obtain ⟨expr, bound, success⟩ := except_bind_ok success
                  obtain ⟨later, rest, success⟩ := except_bind_ok success
                  cases success
                  exact ⟨_, later, rfl, rest, placeholder, read,
                    bindDefault_fits bound⟩
          obtain ⟨entry, later, rfl, rest, binds⟩ := first
          obtain ⟨length, bound⟩ := induction laterReadable laterPartly rest
          refine ⟨by simp [length], ?_⟩
          intro slot written other named holds
          cases slot with
          | zero =>
              cases named
              cases holds
              exact binds
          | succ slot => exact bound slot written other named holds

/-- A result with its empty slots filled by defaults is well bound. -/
theorem fillDefaults_wellBound {registry : Registry} {pattern : Text}
    {result filled : MatchResult}
    (readable : ∀ written ∈ Pattern.placeholders pattern, ∃ placeholder,
      Placeholder.read registry.normalize written = .ok placeholder)
    (partly : registry.PartlyBound pattern result.exprs)
    (success : registry.fillDefaults pattern result = .ok filled) :
    registry.WellBound pattern filled.exprs := by
  obtain ⟨exprs, filling, success⟩ := except_bind_ok success
  cases success
  obtain ⟨length, bound⟩ := fillSlots_binds readable partly.bound filling
  exact ⟨length.trans partly.length, bound⟩

end Registry

end Phrasebook
