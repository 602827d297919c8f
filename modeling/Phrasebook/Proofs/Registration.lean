import Phrasebook.Registry

/-!
# Registries that come from registration

A registry is filled through its registration functions alone, one after the
other.  Each of them checks what it adds, so the patterns of every descriptor in
a registry are valid and their placeholders can be read.
-/

namespace Phrasebook

namespace Pattern

/-- What the registration of a pattern makes sure of, whatever types come later. -/
structure Checked (pattern : Text) : Prop where
  valid : validate pattern = .ok ()
  readable : ∀ written ∈ placeholders pattern, ∀ normalize,
    ∃ placeholder, Placeholder.read normalize written = .ok placeholder

end Pattern

theorem except_bind_ok {α β ε : Type} {step : Except ε α}
    {next : α → Except ε β} {result : β}
    (succeeded : (step >>= next) = .ok result) :
    ∃ answer, step = .ok answer ∧ next answer = .ok result := by
  cases step with
  | error error => cases succeeded
  | ok answer => exact ⟨answer, rfl, succeeded⟩

theorem Placeholder.read_of_read {first second : Text → Text × Bool}
    {written : Text} {placeholder : Placeholder}
    (read : Placeholder.read first written = .ok placeholder) :
    ∃ other, Placeholder.read second written = .ok other := by
  unfold Placeholder.read at read ⊢
  simp only at read ⊢
  split at read
  · exact ⟨_, rfl⟩
  · split at read
    · exact ⟨_, rfl⟩
    · cases read

namespace Registry

/-- A registry that was filled through the registration functions. -/
inductive Built : Registry → Prop where
  | blank (regexes : RegexEngine) : Built (.blank regexes)
  | type {registry after : Registry} (type : RegisteredType) :
      Built registry → registry.registerType type = .ok after → Built after
  | converter {registry after : Registry} (conversion : Conversion) :
      Built registry → registry.registerConverter conversion = .ok after →
      Built after
  | syntaxes {registry after : Registry} (kind : Text) (descriptor : Descriptor) :
      Built registry → registry.registerSyntax kind descriptor = .ok after →
      Built after
  | condition {registry after : Registry} (descriptor : Descriptor) :
      Built registry → registry.registerCondition descriptor = .ok after →
      Built after
  | effect {registry after : Registry} (descriptor : Descriptor) :
      Built registry → registry.registerEffect descriptor = .ok after → Built after
  | expression {registry after : Registry} (returnType : Text)
      (descriptor : Descriptor) :
      Built registry → registry.registerExpression returnType descriptor =
        .ok after →
        Built after
  | event {registry after : Registry} (name : Text) (descriptor : Descriptor) :
      Built registry → registry.registerEvent name descriptor = .ok after →
      Built after
  | freeze {registry : Registry} : Built registry → Built registry.freeze

def addType (registry : Registry) (type : RegisteredType) : Registry :=
  { registry with
    types := registry.types ++ [type]
    plurals := (type.plural, type.name) :: registry.plurals }

def addSyntax (registry : Registry) (kind : Text) (descriptor : Descriptor) :
    Registry :=
  { registry with syntaxes := appendSyntax kind descriptor registry.syntaxes }

def addConversion (registry : Registry) (conversion : Conversion) : Registry :=
  { registry with conversions := putConversion conversion registry.conversions }

theorem checkOpen_ok {registry : Registry}
    (succeeded : registry.checkOpen = .ok ()) :
    registry.frozen = false := by
  unfold checkOpen at succeeded
  split at succeeded
  · cases succeeded
  · rename_i opened
    simpa using opened

theorem getType_ok {registry : Registry} {name : Text} {type : RegisteredType}
    (succeeded : registry.getType name = .ok type) :
    registry.findType? name = some type := by
  unfold getType at succeeded
  cases found : registry.findType? name with
  | none => simp [found] at succeeded
  | some other =>
      simp only [found, Except.ok.injEq] at succeeded
      rw [succeeded]

theorem registerType_ok {registry after : Registry} {type : RegisteredType}
    (succeeded : registry.registerType type = .ok after) :
    registry.frozen = false ∧ registry.findType? type.name = none ∧
      after = registry.addType type := by
  obtain ⟨_, opened, succeeded⟩ := except_bind_ok succeeded
  split at succeeded
  · cases succeeded
  · rename_i new
    cases succeeded
    exact ⟨checkOpen_ok opened, by simpa using new, rfl⟩

theorem registerConverter_ok {registry after : Registry} {conversion : Conversion}
    (succeeded : registry.registerConverter conversion = .ok after) :
    registry.frozen = false ∧
      (∃ source, registry.findType? conversion.source = some source) ∧
        (∃ target, registry.findType? conversion.target = some target) ∧
          after = registry.addConversion conversion := by
  obtain ⟨_, opened, succeeded⟩ := except_bind_ok succeeded
  obtain ⟨source, sourceKnown, succeeded⟩ := except_bind_ok succeeded
  obtain ⟨target, targetKnown, succeeded⟩ := except_bind_ok succeeded
  cases succeeded
  exact ⟨checkOpen_ok opened, ⟨source, getType_ok sourceKnown⟩,
    ⟨target, getType_ok targetKnown⟩, rfl⟩

theorem registerSyntax_ok {registry after : Registry} {kind : Text}
    {descriptor : Descriptor}
    (succeeded : registry.registerSyntax kind descriptor = .ok after) :
    registry.frozen = false ∧ registry.checkPatterns descriptor.patterns = .ok () ∧
      after = registry.addSyntax kind descriptor := by
  obtain ⟨_, opened, succeeded⟩ := except_bind_ok succeeded
  obtain ⟨_, checked, succeeded⟩ := except_bind_ok succeeded
  cases succeeded
  exact ⟨checkOpen_ok opened, checked, rfl⟩

/-- What holds of blank registries, and is kept whenever a new type, a converter
between known types or a checked descriptor is added, holds of every registry
that was filled through registration. -/
theorem Built.induct {property : Registry → Prop}
    (blank : ∀ regexes, property (.blank regexes))
    (type : ∀ registry type, property registry →
      registry.findType? type.name = none →
      property (registry.addType type))
    (converter : ∀ registry conversion, property registry →
      (∃ source, registry.findType? conversion.source = some source) →
        (∃ target, registry.findType? conversion.target = some target) →
          property (registry.addConversion conversion))
    (syntaxes : ∀ registry kind descriptor, property registry →
      registry.checkPatterns descriptor.patterns = .ok () →
        property (registry.addSyntax kind descriptor))
    (freeze : ∀ registry, property registry → property registry.freeze)
    {registry : Registry} (built : Built registry) : property registry := by
  have described {registry after : Registry} {kind : Text} {descriptor : Descriptor}
      (holds : property registry)
      (succeeded : registry.registerSyntax kind descriptor = .ok after) :
      property after := by
    obtain ⟨_, checked, rfl⟩ := registerSyntax_ok succeeded
    exact syntaxes registry kind descriptor holds checked
  induction built with
  | blank regexes => exact blank regexes
  | type added _ succeeded induction =>
      obtain ⟨_, new, rfl⟩ := registerType_ok succeeded
      exact type _ added induction new
  | converter conversion _ succeeded induction =>
      obtain ⟨_, source, target, rfl⟩ := registerConverter_ok succeeded
      exact converter _ conversion induction source target
  | syntaxes kind descriptor _ succeeded induction =>
      exact described induction succeeded
  | condition descriptor _ succeeded induction =>
      exact described induction succeeded
  | effect descriptor _ succeeded induction => exact described induction succeeded
  | expression returnType descriptor _ succeeded induction =>
      obtain ⟨_, _, succeeded⟩ := except_bind_ok succeeded
      exact described induction succeeded
  | event name descriptor _ succeeded induction =>
      exact described induction succeeded
  | freeze _ induction => exact freeze _ induction

def AllChecked (registry : Registry) : Prop :=
  ∀ entry ∈ registry.syntaxes, ∀ descriptor ∈ entry.2,
    ∀ pattern ∈ descriptor.patterns,
    Pattern.Checked pattern

theorem forM_ok {α : Type} {check : α → Except SetupError Unit} {items : List α}
    (succeeded : items.forM check = .ok ()) :
    ∀ item ∈ items, check item = .ok () := by
  induction items with
  | nil => simp
  | cons item items induction =>
      obtain ⟨_, first, later⟩ := except_bind_ok succeeded
      intro other member
      rcases List.mem_cons.mp member with rfl | member
      · exact first
      · exact induction later other member

theorem checkPattern_ok {registry : Registry} {pattern : Text}
    (succeeded : registry.checkPattern pattern = .ok ()) :
    Pattern.Checked pattern := by
  obtain ⟨_, valid, checked⟩ := except_bind_ok succeeded
  refine ⟨valid, ?_⟩
  intro written member normalize
  obtain ⟨placeholder, read, _⟩ := except_bind_ok (forM_ok checked written member)
  exact Placeholder.read_of_read read

theorem mem_appendSyntax {kind : Text} {descriptor : Descriptor}
    {syntaxes : List (Text × List Descriptor)} {entry : Text × List Descriptor}
    (member : entry ∈ appendSyntax kind descriptor syntaxes) :
    ∀ other ∈ entry.2, other = descriptor ∨ ∃ earlier ∈ syntaxes,
      other ∈ earlier.2 := by
  induction syntaxes with
  | nil =>
      intro other inside
      cases List.mem_singleton.mp member
      exact .inl (List.mem_singleton.mp inside)
  | cons first syntaxes induction =>
      intro other inside
      rw [appendSyntax] at member
      split at member
      · rcases List.mem_cons.mp member with rfl | member
        · rcases List.mem_append.mp inside with inside | inside
          · exact .inr ⟨first, List.mem_cons_self, inside⟩
          · exact .inl (List.mem_singleton.mp inside)
        · exact .inr ⟨entry, List.mem_cons_of_mem first member, inside⟩
      · rcases List.mem_cons.mp member with rfl | member
        · exact .inr ⟨first, List.mem_cons_self, inside⟩
        · rcases induction member other inside with same | ⟨earlier, before, inside⟩
          · exact .inl same
          · exact .inr ⟨earlier, List.mem_cons_of_mem first before, inside⟩

theorem checkPatterns_ok {registry : Registry} {patterns : List Text}
    (succeeded : registry.checkPatterns patterns = .ok ()) :
    ∀ pattern ∈ patterns, registry.checkPattern pattern = .ok () := by
  unfold checkPatterns at succeeded
  split at succeeded
  · cases succeeded
  · exact forM_ok succeeded

theorem no_syntax_of_blank (regexes : RegexEngine) :
    ∀ entry ∈ (blank regexes).syntaxes, entry.2 = [] := by
  intro entry member
  obtain ⟨kind, _, rfl⟩ := List.mem_map.mp member
  rfl

private theorem Built.allChecked {registry : Registry} (built : Built registry) :
    registry.AllChecked := by
  apply built.induct
  case blank =>
    intro regexes entry member descriptor inside
    rw [no_syntax_of_blank regexes entry member] at inside
    cases inside
  case type =>
    intro registry type checked _
    exact checked
  case converter =>
    intro registry conversion checked _ _
    exact checked
  case syntaxes =>
    intro registry kind descriptor checked patterns entry member other inside
      pattern belongs
    rcases mem_appendSyntax member other inside with rfl | ⟨earlier, before, inside⟩
    · exact checkPattern_ok (checkPatterns_ok patterns pattern belongs)
    · exact checked earlier before other inside pattern belongs
  case freeze =>
    intro registry checked
    exact checked

theorem mem_syntaxesOf {registry : Registry} {kind : Text} {descriptor : Descriptor}
    (member : descriptor ∈ registry.syntaxesOf kind) :
    ∃ entry ∈ registry.syntaxes, descriptor ∈ entry.2 := by
  unfold syntaxesOf at member
  cases found : registry.syntaxes.lookup kind with
  | none => simp [found] at member
  | some descriptors =>
      rw [found] at member
      obtain ⟨before, behind, entries, _⟩ := List.lookup_eq_some_iff.mp found
      have listed : (kind, descriptors) ∈ registry.syntaxes := by simp [entries]
      exact ⟨_, listed, member⟩

theorem Built.checked {registry : Registry} (built : Built registry) {kind : Text}
    {descriptor : Descriptor} (member : descriptor ∈ registry.syntaxesOf kind) :
    ∀ pattern ∈ descriptor.patterns, Pattern.Checked pattern := by
  obtain ⟨entry, listed, inside⟩ := mem_syntaxesOf member
  exact built.allChecked entry listed descriptor inside

/-! ## Names that placeholders use -/

/-- The text, as a placeholder writes it, names a registered type. -/
def Names (registry : Registry) (written : Text) : Prop :=
  (registry.findType? (registry.normalize written).1).isSome = true

/-- A check that a placeholder has passed is passed by it in every registry in
which the same texts name types. -/
theorem checkPlaceholder_mono {registry after : Registry}
    (names : ∀ written, registry.Names written → after.Names written)
    {written : Text} (checked : registry.checkPlaceholder written = .ok ()) :
    after.checkPlaceholder written = .ok () := by
  have name (normalize : Text → Text × Bool) {placeholder : Placeholder}
      (read : Placeholder.read normalize written = .ok placeholder) :
      placeholder.name =
        (normalize (Text.partition '@' (Placeholder.splitDash written).2).1).1 := by
    unfold Placeholder.read at read
    simp only at read
    split at read
    · cases read
      rfl
    · split at read
      · cases read
        rfl
      · cases read
  obtain ⟨placeholder, read, checked⟩ := except_bind_ok checked
  obtain ⟨type, known, _⟩ := except_bind_ok checked
  obtain ⟨other, reread⟩ := Placeholder.read_of_read read
  have named : registry.Names
      (Text.partition '@' (Placeholder.splitDash written).2).1 := by
    unfold Names
    rw [← name _ read]
    unfold getType at known
    cases found : registry.findType? placeholder.name with
    | none => simp [found] at known
    | some type => rfl
  have later := names _ named
  unfold Names at later
  rw [← name _ reread] at later
  obtain ⟨type, found⟩ := Option.isSome_iff_exists.mp later
  simp only [checkPlaceholder, reread, bind, Except.bind, getType, found]
  rfl

/-- Plurals stand for registered types, and the placeholders of all patterns
name some. -/
structure WellNamed (registry : Registry) : Prop where
  plurals : ∀ entry ∈ registry.plurals, (registry.findType? entry.2).isSome = true
  placeholders : ∀ entry ∈ registry.syntaxes, ∀ descriptor ∈ entry.2,
    ∀ pattern ∈ descriptor.patterns, ∀ written ∈ Pattern.placeholders pattern,
      registry.checkPlaceholder written = .ok ()

/-- A type keeps its name, whatever types come later. -/
theorem findType?_addType {registry : Registry} {name : Text}
    {type : RegisteredType} (added : RegisteredType)
    (known : registry.findType? name = some type) :
    (registry.addType added).findType? name = some type := by
  unfold findType? at known
  simp [findType?, addType, List.find?_append, known]

theorem findType?_addType_isSome {registry : Registry} {name : Text}
    (added : RegisteredType) (known : (registry.findType? name).isSome = true) :
    ((registry.addType added).findType? name).isSome = true := by
  obtain ⟨type, known⟩ := Option.isSome_iff_exists.mp known
  rw [findType?_addType added known]
  rfl

theorem findType?_added (registry : Registry) (type : RegisteredType) :
    ((registry.addType type).findType? type.name).isSome = true := by
  simp [findType?, addType, List.find?_append]

private theorem Names.addType {registry : Registry} {written : Text}
    (named : registry.Names written) (type : RegisteredType) :
    (registry.addType type).Names written := by
  unfold Names normalize at named ⊢
  split at named
  · rename_i known
    rw [if_pos (findType?_addType_isSome type known)]
    exact findType?_addType_isSome type known
  · split
    · rename_i known
      exact known
    · simp only [Registry.addType, List.lookup_cons]
      by_cases isPlural : (written == type.plural) = true
      · simp only [isPlural]
        exact registry.findType?_added type
      · simp only [isPlural]
        cases plural : registry.plurals.lookup written with
        | none =>
            simp only [plural] at named
            exact findType?_addType_isSome type named
        | some name =>
            simp only [plural] at named
            exact findType?_addType_isSome type named

/-- No registration takes the name of a placeholder away. -/
theorem Built.wellNamed {registry : Registry} (built : Built registry) :
    registry.WellNamed := by
  apply built.induct
  case blank =>
    intro regexes
    refine ⟨by simp [Registry.blank], ?_⟩
    intro entry member descriptor inside
    rw [no_syntax_of_blank regexes entry member] at inside
    cases inside
  case type =>
    intro registry type named _
    refine ⟨?_, ?_⟩
    · intro entry member
      rcases List.mem_cons.mp member with rfl | member
      · exact findType?_added _ type
      · exact findType?_addType_isSome type (named.plurals entry member)
    · intro entry member descriptor inside pattern belongs written listed
      exact checkPlaceholder_mono (fun _ known => known.addType type)
        (named.placeholders entry member descriptor inside pattern belongs
          written listed)
  case converter =>
    intro registry conversion named _ _
    exact ⟨named.plurals, named.placeholders⟩
  case syntaxes =>
    intro registry kind descriptor named patterns
    refine ⟨named.plurals, ?_⟩
    intro entry member other inside pattern belongs written listed
    rcases mem_appendSyntax member other inside with rfl | ⟨earlier, before, inside⟩
    · obtain ⟨_, _, checked⟩ :=
        except_bind_ok (checkPatterns_ok patterns pattern belongs)
      exact forM_ok checked written listed
    · exact named.placeholders earlier before other inside pattern belongs
        written listed
  case freeze =>
    intro registry named
    exact ⟨named.plurals, named.placeholders⟩

end Registry

end Phrasebook
