import Phrasebook.Proofs.Binding.Fitting
import Phrasebook.Proofs.Pattern.Placement
import Phrasebook.Proofs.Search.Heeding

/-!
# What a walk binds

Along whatever way a match comes about, each of its slots is bound by the
placeholder that is listed there, after the text was resolved to the type that the
placeholder names and was found to fit.
-/

namespace Phrasebook

open Traced

variable {good : Descriptor → Nat → MatchResult → Prop}

/-! ## Resolving and fitting -/

section Resolving

variable (registry : Registry) (context : ParseContext) (literalOnly : Bool)
  {parseNested : Text → Traced (Option ComputedElement)} (read : LiteralReading)

theorem resolveLiteral_heeds (type : RegisteredType) (text : Text) :
    Heeds good (fun found => ∀ expr ∈ found, expr.OfType type.toTypeInfo)
      (Resolver.resolveLiteral ⟨registry, context, literalOnly, parseNested,
        read⟩ type text) := by
  apply Heeds.bind (Heeds.lift fun _ => id)
  intro literal success
  cases literal with
  | none => exact Heeds.bind (Heeds.record _ _) fun _ _ => Heeds.pure (by simp)
  | some expr =>
      apply Heeds.pure
      intro other same
      cases same
      unfold Resolver.literal? at success
      simp only at success
      split at success
      · rename_i universal
        exact Expr.ofType_of_universal universal expr
      · split at success
        · cases success
        · exact Expr.convert_ofType success

theorem resolveComputed_heeds (type : RegisteredType) (computed : ComputedElement) :
    Heeds good (fun found => ∀ expr ∈ found, expr.OfType type.toTypeInfo)
      (Resolver.resolveComputed ⟨registry, context, literalOnly,
        parseNested, read⟩ type
        computed) := by
  apply Heeds.bind (Heeds.lift fun _ => id)
  intro own _
  apply Heeds.bind (Heeds.lift fun _ => id)
  intro converted success
  cases converted with
  | none => exact Heeds.bind (Heeds.record _ _) fun _ _ => Heeds.pure (by simp)
  | some expr =>
      apply Heeds.pure
      intro other same
      cases same
      exact Expr.convert_ofType success

private theorem readVariable_ofType {text : Text} {type : TypeInfo} {expr : Expr}
    (success : Expr.readVariable? text type = some expr) : expr.OfType type := by
  unfold Expr.readVariable? at success
  split at success
  · cases success
  · simp only at success
    split at success
    · cases success
      exact fun _ => ⟨rfl, rfl⟩
    · cases success

/-- What a text is resolved to is of the wanted type. -/
theorem resolve_heeds
    (nested : ∀ text, Heeds good (fun _ => True) (parseNested text))
    (type : RegisteredType) (text : Text) :
    Heeds good (fun found => ∀ expr ∈ found, expr.OfType type.toTypeInfo)
      (Resolver.resolve ⟨registry, context, literalOnly, parseNested,
        read⟩ type text) := by
  unfold Resolver.resolve
  simp only
  split
  · exact resolveLiteral_heeds registry context literalOnly read type text
  split
  · rename_i reference success
    apply Heeds.pure
    intro expr same
    cases same
    exact readVariable_ofType success
  apply Heeds.bind (nested text)
  intro found _
  cases found with
  | some computed =>
      exact resolveComputed_heeds registry context literalOnly read
        type computed
  | none => exact resolveLiteral_heeds registry context literalOnly read type text

end Resolving

/-- An expression that passes the check fits the placeholder. -/
theorem fit_heeds (matcher : Matcher Traced) {placeholder : Placeholder}
    {type : TypeInfo} {expr : Expr} (named : type.name = placeholder.name)
    (ofType : expr.OfType type) :
    Heeds good (fun found => ∀ fitting ∈ found, fitting.Fits placeholder)
      (matcher.fit placeholder type expr) := by
  have typed : placeholder.name ≠ TypeInfo.universalName →
      expr.type.name = placeholder.name ∧ expr.isUnparsed = false := by
    rw [← named]
    exact ofType
  unfold Matcher.fit
  split
  · exact Heeds.bind (Heeds.record _ _) fun _ _ => Heeds.pure (by simp)
  rename_i notSeveral
  have single : placeholder.plural = false → expr.isUnparsed = true ∨
      expr.isSingle = true := by
    intro singular
    cases unparsed : expr.isUnparsed with
    | true => exact .inl rfl
    | false => exact .inr (by simpa [singular, unparsed] using notSeveral)
  split
  · rename_i timeless
    apply Heeds.pure
    intro fitting same
    cases same
    exact ⟨typed, single, fun timeful => absurd timeless timeful⟩
  rename_i timeful
  split
  · exact Heeds.pure (by simp)
  rename_i parsed
  have read : expr.isUnparsed = false := by simpa using parsed
  split
  · rename_i timed set
    apply Heeds.pure
    intro fitting same
    cases same
    apply Expr.setTime_fits set timeful read (fun special => (typed special).1)
    intro singular
    rcases single singular with unparsed | single
    · exact absurd unparsed parsed
    · exact single
  · exact Heeds.bind (Heeds.record _ _) fun _ _ => Heeds.pure (by simp)

theorem complain_heeds (matcher : Matcher Traced) (type : TypeInfo) (taken : Text)
    (chars : Nat) :
    Heeds good (fun _ => True) (matcher.complain type taken chars) := by
  unfold Matcher.complain
  split
  · exact Heeds.record _ _
  · exact Heeds.pure trivial

/-! ## Walking -/

/-- What is known of the slots of a match from a place of the pattern on: if the
pattern is tidy and the place is one behind whole placeholders, those that are not
empty are bound as they may be. -/
def Registry.BindsFrom (registry : Registry) (pattern : Text) (cursor : Cursor)
    (result : MatchResult) : Prop :=
  Pattern.Tidy pattern → cursor.Placed pattern →
  registry.PartlyBound pattern result.exprs

theorem Registry.unbound_partlyBound (registry : Registry) (pattern text : Text)
    (matched : Nat) :
    registry.PartlyBound pattern
      (MatchResult.unbound text (Pattern.placeholderCount pattern)
        matched).exprs where
  length := by simp [MatchResult.unbound, Pattern.length_placeholders]
  bound := by
    intro slot written expr _ holds
    simp [MatchResult.unbound, List.getElem?_replicate] at holds

theorem Registry.PartlyBound.bind {registry : Registry} {pattern : Text}
    {result : MatchResult} {slot : Nat} {written : Text} {expr : Expr}
    (partly : registry.PartlyBound pattern result.exprs)
    (listed : (Pattern.placeholders pattern)[slot]? = some written)
    (binds : registry.Binds written (some expr)) :
    registry.PartlyBound pattern (result.bind slot expr).exprs where
  length := by simp [MatchResult.bind, partly.length]
  bound := by
    intro other name fitting named holds
    simp only [MatchResult.bind, List.getElem?_set] at holds
    split at holds
    · rename_i same
      subst same
      split at holds
      · cases holds
        cases listed.symm.trans named
        exact binds
      · cases holds
    · exact partly.bound other name fitting named holds

section Walking

variable {matcher : Matcher Traced}

theorem tryCut_heeds {before after : MatchResult → Prop} {slot : Nat}
    {placeholder : Placeholder}
    {type : RegisteredType} {matched : Nat}
    {remainder : Cut → Traced (Option MatchResult)}
    (resolves : ∀ type text,
      Heeds good (fun found => ∀ expr ∈ found, expr.OfType type.toTypeInfo)
      (matcher.resolve type text))
    (named : type.name = placeholder.name)
    (remains : ∀ cut, Heeds good (fun found => ∀ result ∈ found, before result)
      (remainder cut))
    (binds : ∀ result expr, before result → expr.Fits placeholder →
      after (result.bind slot expr)) (cut : Cut) :
    Heeds good (fun found => ∀ inner ∈ found, ∀ result ∈ inner, after result)
      (matcher.tryCut slot placeholder type matched remainder cut) := by
  apply Heeds.bind (remains cut)
  intro remaining holds
  cases remaining with
  | none => exact Heeds.pure (by simp)
  | some result =>
      apply Heeds.bind (resolves type cut.taken)
      intro resolved ofType
      cases resolved with
      | some expr =>
          apply Heeds.bind (fit_heeds matcher named (ofType expr rfl))
          intro fitted fits
          apply Heeds.pure
          intro inner same other member
          cases same
          obtain ⟨fitting, isFitted, rfl⟩ := Option.map_eq_some_iff.mp member
          exact binds result fitting (holds result rfl) (fits fitting isFitted)
      | none =>
          exact Heeds.bind (complain_heeds matcher type.toTypeInfo cut.taken _)
            fun _ _ => Heeds.pure (by simp)

theorem tryCapture_heeds {before : MatchResult → Prop} {program : RegexProgram}
    {remainder : Cut → Traced (Option MatchResult)}
    (remains : ∀ cut, Heeds good (fun found => ∀ result ∈ found, before result)
      (remainder cut))
    (keeps : ∀ result capture, before result → before (result.capture capture))
    (cut : Cut) :
    Heeds good (fun found => ∀ result ∈ found, before result)
      (Matcher.tryCapture program remainder cut) := by
  apply Heeds.bind (remains cut)
  intro remaining holds
  cases remaining with
  | none => exact Heeds.pure (by simp)
  | some result =>
      apply Heeds.pure
      intro captured same
      obtain ⟨groups, _, rfl⟩ := Option.map_eq_some_iff.mp same
      exact keeps result _ (holds result rfl)

/-- Wherever the walk goes on, what it finds there is known to be bound as it
may be. -/
theorem walk_heeds
    (resolves : ∀ type text,
      Heeds good (fun found => ∀ expr ∈ found, expr.OfType type.toTypeInfo)
      (matcher.resolve type text))
    (pattern text : Text) (fuel matched : Nat) (cursor : Cursor)
    (position : Position) :
    Heeds good
      (fun found => ∀ result ∈ found,
        matcher.registry.BindsFrom pattern cursor result)
      (matcher.walk text fuel matched cursor position) := by
  induction fuel generalizing matched cursor position with
  | zero => exact Heeds.pure (by simp)
  | succ fuel induction =>
      unfold Matcher.walk
      have begins := Demand.begins_ofText cursor.rest
      have further {found : Option MatchResult} {later : Cursor}
        (moves : cursor.Moves later)
          (holds : ∀ result ∈ found,
            matcher.registry.BindsFrom pattern later result) :
          ∀ result ∈ found, matcher.registry.BindsFrom pattern cursor result :=
        fun result member tidy placed =>
          holds result member tidy (placed.along tidy.sheltered moves)
      cases demand : Demand.ofText cursor.rest <;> rw [demand]
        at begins <;> dsimp only
      case nothing =>
          apply Heeds.pure
          intro result same
          split at same
          · cases same
            intro _ placed
            rw [placed.whole]
            exact matcher.registry.unbound_partlyBound pattern text matched
          · cases same
      case optional inside =>
          apply Heeds.bind (induction 0 (cursor.advance 1) position)
          intro found holds
          cases found with
          | some result =>
              apply Heeds.pure
              intro other same
              cases same
              exact further (.one begins (by decide) (by decide)) holds result rfl
          | none =>
              cases closing : Pattern.closingOffset ']' '[' 0 inside with
              | none => exact Heeds.fail _
              | some offset =>
                  exact (induction matched _ position).mono fun _ =>
                    further (.optional begins closing _)
      case choice inside =>
          cases closing : Pattern.closingOffset ')' '(' 0 inside with
          | none => exact Heeds.fail _
          | some offset =>
              have counts (result : MatchResult)
                  (holds : matcher.registry.BindsFrom pattern cursor result) :
                  matcher.registry.BindsFrom pattern cursor
                    (result.plusChars matched) := holds
              refine Heeds.map_found (Heeds.firstSome ?_) counts
              intro start member
              apply Heeds.map_found (induction 0 _ position)
              intro result holds tidy placed
              have moves : cursor.Moves (cursor.advance (start.1 + 1)) :=
                .alternative begins (List.fst_mem_of_mem_zipIdx member)
              exact holds tidy (placed.along tidy.sheltered moves)
      case placeholder inside =>
          split
          · exact Heeds.pure (by simp)
          cases closing : Pattern.unescapedOffset '%' inside with
          | none => exact Heeds.fail _
          | some offset =>
              apply Heeds.bind (Heeds.lift fun _ => id)
              intro placeholder read
              apply Heeds.bind (Heeds.lift fun _ => id)
              intro type known
              have named : type.name = placeholder.name :=
                Registry.getType_name known
              have binds (result : MatchResult) (expr : Expr)
                  (holds : matcher.registry.BindsFrom pattern
                    (cursor.advance (offset + 2)) result)
                  (fits : expr.Fits placeholder) :
                  matcher.registry.BindsFrom pattern cursor
                    (result.bind cursor.slot expr) := by
                intro tidy placed
                have moved := placed.along tidy.sheltered
                  (.placeholder begins closing)
                exact (holds tidy moved).bind (placed.listed begins closing)
                  ⟨placeholder, read, fits⟩
              refine Heeds.bind (Heeds.firstSome fun cut _ =>
                tryCut_heeds resolves named
                (fun cut => induction 0 _ (position.after cut)) binds cut) ?_
              intro found holds
              apply Heeds.pure
              intro result same
              obtain ⟨inner, isFound, rfl⟩ := Option.map_eq_some_iff.mp same
              cases found with
              | none => cases isFound
              | some found => exact holds found rfl inner isFound
      case capture inside =>
          cases closing : Pattern.regexEndOffset inside with
          | none => exact Heeds.fail _
          | some offset =>
              simp only
              split
              · exact Heeds.fail _
              · refine Heeds.map_found (Heeds.firstSome fun cut _ =>
                  tryCapture_heeds
                  (fun cut => induction 0 _ (position.after cut))
                    (fun _ _ holds => holds) cut) ?_
                intro result holds tidy placed
                exact holds tidy
                  (placed.along tidy.sheltered (.capture begins closing))
      case bar inside =>
          cases closing : Pattern.closingOffset ')' '(' 0 inside with
          | none => exact Heeds.fail _
          | some offset =>
              have moves : cursor.Moves (cursor.advance (offset + 2)) :=
                .jump begins (by decide) (by decide) (by decide)
                  (Pattern.closingOffset_stands closing)
              exact (induction matched _ position).mono fun _ => further moves
      case closing =>
          refine (induction matched _ position).mono fun _ => further ?_
          obtain ⟨rest, ahead | ahead⟩ := begins
          · exact .one ahead (by decide) (by decide)
          · exact .one ahead (by decide) (by decide)
      case space =>
          obtain ⟨rest, ahead⟩ := begins
          cases position.takeSpace with
          | none => exact Heeds.pure (by simp)
          | some taken =>
              exact (induction _ _ taken.2).mono fun _ =>
                further (.one ahead (by decide) (by decide))
      case loneBackslash => exact Heeds.fail _
      case letter letter length =>
          cases position.takeLetter letter with
          | none => exact Heeds.pure (by simp)
          | some next =>
              exact (induction (matched + 1) _ next).mono fun _ =>
                further (.letter begins)

end Walking

end Phrasebook
