import Phrasebook.Command
import Phrasebook.Proofs.Registration

/-!
# The parts of a usage

A usage is read from left to right.  It falls into declarations of arguments and
characters outside of them, whatever the registry is, and a command comes about
by adding one part after the other to a draft.
-/

namespace Phrasebook.Command

inductive UsagePart where
  /-- A character that belongs to no declaration. -/
  | char (char : Char)
  /-- A declaration, with the text that it takes up. -/
  | declared (declaration : Declaration) (taken : Text)

/-- The parts of a usage, from its start; the fuel has to exceed its length. -/
def partsWithin : Nat → Text → List UsagePart
  | 0, _ => []
  | _ + 1, [] => []
  | fuel + 1, char :: rest =>
      match (if char = '<' then Declaration.read? rest else none) with
      | some declaration =>
          .declared declaration ((char :: rest).take declaration.length) ::
            partsWithin fuel ((char :: rest).drop declaration.length)
      | none => .char char :: partsWithin fuel rest

def parts (usage : Text) : List UsagePart :=
  partsWithin (usage.length + 1) usage

private theorem length_pos_of_read {text : Text} {declaration : Declaration}
    (read : Declaration.read? text = some declaration) :
    0 < declaration.length := by
  unfold Declaration.read? at read
  simp only at read
  split at read
  · cases read
  split at read
  · cases read
    simp
  · split at read
    · cases read
      simp
    · cases read
  · cases read

/-- More fuel than characters changes nothing. -/
theorem partsWithin_enough {first second : Nat} {usage : Text}
    (enough : usage.length < first) (more : usage.length < second) :
    partsWithin first usage = partsWithin second usage := by
  induction first generalizing second usage with
  | zero => omega
  | succ first induction =>
      obtain ⟨second, rfl⟩ : ∃ less, second = less + 1 := ⟨second - 1, by omega⟩
      cases usage with
      | nil => rfl
      | cons char rest =>
          rw [List.length_cons] at enough more
          rw [partsWithin, partsWithin]
          cases read : (if char = '<' then Declaration.read? rest else none) with
          | none =>
              have same : partsWithin first rest = partsWithin second rest :=
                induction (by omega) (by omega)
              simp only [same]
          | some declaration =>
              have positive : 0 < declaration.length := by
                split at read
                · exact length_pos_of_read read
                · cases read
              have shorter : ((char :: rest).drop declaration.length).length ≤
                  rest.length := by
                rw [List.length_drop, List.length_cons]
                omega
              have same : partsWithin first
                ((char :: rest).drop declaration.length) =
                  partsWithin second ((char :: rest).drop declaration.length) :=
                induction (by omega) (by omega)
              simp only [same]

theorem parts_char {char : Char} (other : char ≠ '<') (rest : Text) :
    parts (char :: rest) = .char char :: parts rest := by
  rw [parts, partsWithin, if_neg other]
  rfl

theorem parts_declared {inside rest : Text} {declaration : Declaration}
    (read : Declaration.read? (inside ++ rest) = some declaration)
    (length : declaration.length = inside.length + 1) :
    parts ('<' :: (inside ++ rest)) = .declared declaration ('<' :: inside) ::
      parts rest := by
  have taken : ('<' :: (inside ++ rest)).take declaration.length =
      '<' :: inside := by
    rw [length]
    simp
  have left : ('<' :: (inside ++ rest)).drop declaration.length = rest := by
    rw [length]
    simp
  have behind : partsWithin ('<' :: (inside ++ rest)).length rest = parts rest := by
    apply partsWithin_enough
    · simp only [List.length_cons, List.length_append]
      omega
    · omega
  rw [parts, partsWithin, if_pos rfl, read]
  simp only [taken, left, behind]

/-- The draft with one more part of the usage. -/
def Draft.addPart (registry : Registry) (command : Text) (draft : Draft) :
    UsagePart → Except SetupError Draft
  | .char char => .ok ((draft.countBrackets [char]).addChar char)
  | .declared declaration taken => do
      let next ← draft.addArgument registry command declaration
      pure (next.countBrackets taken)

private theorem readUsage_eq (registry : Registry) (command : Text) (fuel : Nat)
    (draft : Draft) (usage : Text) :
    readUsage registry command fuel draft usage =
      (partsWithin fuel usage).foldlM (Draft.addPart registry command) draft := by
  induction fuel generalizing draft usage with
  | zero => rfl
  | succ fuel induction =>
      cases usage with
      | nil => rfl
      | cons char rest =>
          rw [readUsage, partsWithin]
          cases (if char = '<' then Declaration.read? rest else none) with
          | none =>
              simp only
              rw [induction, List.foldlM_cons]
              rfl
          | some declaration =>
              simp only
              rw [List.foldlM_cons, Draft.addPart, bind_assoc]
              congr 1
              funext next
              rw [induction, pure_bind]

theorem ofUsage_ok {registry : Registry} {name usage : Text} {command : Command}
    (declared : ofUsage registry name usage = .ok command) :
    ∃ draft : Draft,
      (parts usage).foldlM (Draft.addPart registry name) ⟨[], [], 0⟩ = .ok draft ∧
        Pattern.validate draft.pattern = .ok () ∧
        command = ⟨name, draft.pattern, draft.arguments⟩ := by
  obtain ⟨draft, read, declared⟩ := except_bind_ok declared
  obtain ⟨_, valid, declared⟩ := except_bind_ok declared
  cases declared
  rw [readUsage_eq] at read
  exact ⟨draft, read, valid, rfl⟩

namespace Draft

variable {registry : Registry} {command : Text} {draft after : Draft}

/-- Whether an argument that is declared here may be left out. -/
def lets (draft : Draft) (declaration : Declaration) : Bool :=
  0 < draft.depth || declaration.default.isSome

def written (optional : Bool) (name : Text) : Text :=
  if optional then '-' :: name else name

def extend (registry : Registry) (draft : Draft) (declaration : Declaration)
    (default : Option Expr) : Draft :=
  let name := Text.strip declaration.typeName
  let optional := draft.lets declaration
  { draft with
    arguments := draft.arguments ++
      [⟨draft.arguments.length, (registry.normalize name).1, default,
      optional, !(registry.normalize name).2, []⟩]
    pattern := draft.pattern ++ '%' :: (written optional name ++ ['%']) }

/-- The default of a declaration, if it has one. -/
def readDeclared (registry : Registry) (command : Text) (draft : Draft)
    (type : RegisteredType) :
    Option Text → Except SetupError (Option Expr)
  | none => .ok none
  | some text =>
      some <$> readDefault registry command (draft.arguments.length + 1)
        type text

private theorem addArgument_eq (registry : Registry) (command : Text)
    (draft : Draft) (declaration : Declaration) :
    draft.addArgument registry command declaration = (do
      let type ← registry.getType
        (registry.normalize (Text.strip declaration.typeName)).1
      let default ← readDeclared registry command draft type declaration.default
      pure (draft.extend registry declaration default)) := by
  have quoted (optional : Bool) (name : Text) :
      ((if optional then "%-" else "%" : String) : Text) ++ name ++ "%" =
        '%' :: (written optional name ++ ['%']) := by
    cases optional <;> simp [written]
  obtain ⟨typeName, default, length⟩ := declaration
  simp only [addArgument, quoted]
  cases registry.getType (registry.normalize (Text.strip typeName)).1 with
  | error error => rfl
  | ok type =>
      cases default with
      | none => rfl
      | some text =>
          simp only [bind, Except.bind, readDeclared, Functor.map]
          cases readDefault registry command (draft.arguments.length + 1)
              type text with
          | error error => rfl
          | ok expr => rfl

private theorem addArgument_ok {declaration : Declaration}
    (added : draft.addArgument registry command declaration = .ok after) :
    ∃ type default,
      registry.findType?
        (registry.normalize (Text.strip declaration.typeName)).1 = some type ∧
        readDeclared registry command draft type declaration.default = .ok default ∧
          after = draft.extend registry declaration default := by
  rw [addArgument_eq] at added
  obtain ⟨type, known, added⟩ := except_bind_ok added
  obtain ⟨default, read, added⟩ := except_bind_ok added
  cases added
  exact ⟨type, default, Registry.getType_ok known, read, rfl⟩

theorem addPart_declared_ok {declaration : Declaration} {taken : Text}
    (added : draft.addPart registry command (.declared declaration taken) =
      .ok after) :
    ∃ type default,
      registry.findType?
        (registry.normalize (Text.strip declaration.typeName)).1 = some type ∧
        readDeclared registry command draft type declaration.default = .ok default ∧
          after = (draft.extend registry declaration default).countBrackets
            taken := by
  obtain ⟨next, extended, counted⟩ := except_bind_ok added
  cases counted
  obtain ⟨type, default, known, read, rfl⟩ := addArgument_ok extended
  exact ⟨type, default, known, read, rfl⟩

end Draft

end Phrasebook.Command
