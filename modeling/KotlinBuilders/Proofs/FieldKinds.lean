import KotlinBuilders.Proofs.ArityMismatches
import KotlinBuilders.Proofs.DeferredSlots
import KotlinBuilders.Proofs.NestedKinds

/-!
# The kind of a field

A field has the kind of its alias, if it has one whose target is known
(`fieldKind_of_knownAlias`), and otherwise the kind that its declared type is
classified as (`fieldKind_of_knownAlias?_eq_none`).  The alias leaves nothing of
the declared type, so its kind can always be told; a classification fails with a
mismatch that the type has under any flags (`fieldKind_eq_error_iff`).

Either way the kind admits `null` exactly when the parameter or its marker says
so, with three exceptions that are set on it themselves: `Unit`, `Nothing` and a
wildcard that names no bound (`nullable_of_fieldKind`).
-/

namespace KotlinBuilders

/-- The kind of a field whose alias has a known target: the literal and the mark
for `null` are the field's own, and nothing of the declared type is left. -/
def Alias.kind (marker : Alias) (nullable : Bool) : Kind :=
  .aliasOf (TypeRef.ofName (QualifiedName.ofText marker.target.toList))
    marker.explicitLiteral? nullable

/-- A type that is a wildcard and nothing else, once the white space around it
and a bound in front are gone. -/
def IsBareWildcard (type : String) : Prop :=
  withoutBound (Text.trim type.toList) = ['?']
    ∨ withoutBound (Text.trim type.toList) = ['*']

section Aliases

variable {knownTypes : NameSet} {markers : Markers} {parameter : Parameter}

/-- A name is resolved when it is known without the white space around it. -/
theorem isSome_resolve?_iff {name : String} :
    (resolve? knownTypes name).isSome ↔ name.trimBlank ∈ knownTypes := by
  rw [← NameSet.contains_iff, resolve?]
  split
  · next hknown => exact iff_of_true rfl hknown
  · next hunknown => exact iff_of_false Bool.false_ne_true hunknown

/-- The alias that counts is the one that was marked, and its trimmed target is
known. -/
theorem knownAlias?_eq_some_iff {marker : Alias} :
    markers.knownAlias? knownTypes = some marker ↔
      markers.alias? = some marker ∧ marker.target.trimBlank ∈ knownTypes := by
  rw [Markers.knownAlias?, Option.filter_eq_some_iff, isSome_resolve?_iff]

/-- There is no known alias when the target of an alias, if there is one, is not
known. -/
theorem knownAlias?_eq_none_iff :
    markers.knownAlias? knownTypes = none ↔
      ∀ marker, markers.alias? = some marker →
      marker.target.trimBlank ∉ knownTypes := by
  simp only [Markers.knownAlias?, Option.filter_eq_none_iff,
    isSome_resolve?_iff]

/-- **A known alias decides the kind**, whatever type was declared. -/
theorem fieldKind_of_knownAlias {marker : Alias}
    (hmarker : markers.knownAlias? knownTypes = some marker) :
    fieldKind knownTypes markers parameter
      = .ok (marker.kind (parameter.nullable || markers.nullable)) := by
  obtain ⟨halias, hknown⟩ := knownAlias?_eq_some_iff.1 hmarker
  have hcontains : knownTypes.contains marker.target.trimBlank = true :=
    NameSet.contains_iff.2 hknown
  simp only [fieldKind, halias, Option.bind_some, resolvedAlias?, resolve?,
    if_pos hcontains, Option.map_some]
  rfl

/-- Without a known alias the declared type is classified. -/
theorem fieldKind_of_knownAlias?_eq_none
    (hmarkers : markers.knownAlias? knownTypes = none) :
    fieldKind knownTypes markers parameter =
      classify ⟨parameter.nullable || markers.nullable, markers.isMutable,
        markers.isUnsigned⟩ markers.genericNullable parameter.type := by
  have hunknown := knownAlias?_eq_none_iff.1 hmarkers
  have hbind :
      markers.alias?.bind (resolvedAlias? knownTypes (parameter.nullable
        || markers.nullable)) = none := by
    refine Option.bind_eq_none_iff.2 fun marker halias => ?_
    rw [resolvedAlias?, Option.map_eq_none_iff, ← Option.not_isSome_iff_eq_none,
      isSome_resolve?_iff]
    exact hunknown marker halias
  simp only [fieldKind, hbind]

/-- **A kind cannot be told** if there is no known alias and the declared type
has a mismatch, under any flags. -/
theorem fieldKind_eq_error_iff {mismatch : ArityMismatch} :
    fieldKind knownTypes markers parameter = .error mismatch ↔
      markers.knownAlias? knownTypes = none
      ∧ classify {} [] parameter.type = .error mismatch := by
  cases hmarkers : markers.knownAlias? knownTypes with
  | some marker =>
    rw [fieldKind_of_knownAlias hmarkers]
    exact iff_of_false (fun hok => nomatch hok) (fun h => nomatch h.1)
  | none =>
    rw [fieldKind_of_knownAlias?_eq_none hmarkers, classify_eq_error_iff,
      classify_eq_error_iff, eq_self_iff_true, true_and]

end Aliases

/-! ## The mark for `null` -/

/-- A text is outlined as a wildcard when one of the two signs is left of it
once white space and a bound are gone. -/
theorem Outline.ofText_eq_wildcard_iff {text : List Char} :
    Outline.ofText text = .wildcard ↔
      withoutBound (Text.trim text) = ['?']
      ∨ withoutBound (Text.trim text) = ['*'] := by
  rw [Outline.ofText]
  generalize withoutBound (Text.trim text) = bare
  constructor
  · intro hwildcard
    by_contra hbare
    unfold Outline.ofBare at hwildcard
    rw [if_neg hbare] at hwildcard
    repeat' split at hwildcard
    all_goals cases hwildcard
  · rintro (rfl | rfl) <;> rfl

/-- A text is read as a wildcard when one of the two signs is left of it once
white space and a bound are gone. -/
theorem HostType.ofText_eq_wildcard_iff {text : List Char} :
    HostType.ofText text = .wildcard ↔
      withoutBound (Text.trim text) = ['?']
      ∨ withoutBound (Text.trim text) = ['*'] := by
  rw [HostType.ofText_eq, ← Outline.ofText_eq_wildcard_iff]
  cases Outline.ofText text <;> simp [HostType.ofOutline]

namespace Kind

/-- What flags say of `null` holds of every kind but those that say it
themselves. -/
theorem nullable_readWith (flags : TypeFlags) (kind : Kind) :
    (kind.readWith flags).nullable = flags.nullable ∨ kind = .unit
      ∨ kind = .nothing ∨ kind = .any true := by
  cases kind with
  | primitive type mark =>
    left
    simp only [readWith, ofPrimitive]
    split <;> rfl
  | any mark => cases mark <;> simp [readWith, nullable]
  | unit => exact .inr (.inl rfl)
  | nothing => exact .inr (.inr (.inl rfl))
  | _ => exact .inl rfl

/-- No name stands for a type that admits `null` by itself. -/
theorem ofName_ne_any (name : List Char) : ofName {} name ≠ .any true := by
  unfold ofName
  split
  · unfold ofPrimitive
    split <;> simp
  · split
    · next kind hkind =>
      obtain ⟨type, rfl⟩ := exists_of_ofLibraryName? hkind
      cases type <;> simp [LibraryType.kind]
    · simp

/-- A type with arguments is no `Any` that admits `null` by itself. -/
theorem ofGeneric_ne_any (outer : List Char) (arguments : List Kind) :
    ofGeneric {} outer arguments ≠ .ok (.any true) := by
  intro hkind
  unfold ofGeneric at hkind
  split at hkind
  · split at hkind
    · next found hfound =>
      obtain rfl := Except.ok.inj hkind
      unfold Container.kind? at hfound
      split at hfound <;> cases hfound
    · cases hkind
  · cases hkind

end Kind

/-- Only a wildcard admits `null` without a flag that says so. -/
theorem HostType.eq_wildcard_of_classify {type : HostType} {slots : List Bool}
    (hkind : type.classify {} slots = .ok (.any true)) : type = .wildcard := by
  cases type with
  | wildcard => rfl
  | named name => exact absurd (Except.ok.inj hkind) (Kind.ofName_ne_any name)
  | primitiveArray element =>
    have hany := Except.ok.inj hkind
    unfold Kind.ofPrimitiveArray at hany
    split at hany <;> cases hany
  | arrayOf element =>
    rw [classify] at hkind
    obtain ⟨_, -, hany⟩ := bind_eq_ok_iff.1 hkind
    cases hany
  | applied outer arguments =>
    rw [classify] at hkind
    obtain ⟨kinds, -, hany⟩ := bind_eq_ok_iff.1 hkind
    exact absurd hany (Kind.ofGeneric_ne_any outer kinds)
  | blank | brokenGeneric | brokenName => cases Except.ok.inj hkind

/-- A classified type admits `null` as the flags say, unless its kind says it
itself. -/
theorem nullable_of_classify {flags : TypeFlags} {slots : List Bool}
    {type : String} {kind : Kind}
    (hkind : classify flags slots type = .ok kind) :
    kind.nullable = flags.nullable ∨ kind = .unit ∨ kind = .nothing
      ∨ kind = .any true ∧ IsBareWildcard type := by
  rw [classify, HostType.classify_eq_map_readWith] at hkind
  cases hread : (HostType.ofText type.toList).classify {} slots with
  | error mismatch =>
    rw [hread] at hkind
    cases hkind
  | ok bare =>
    rw [hread] at hkind
    obtain rfl := Except.ok.inj hkind
    rcases bare.nullable_readWith flags with hflag | rfl | rfl | rfl
    · exact .inl hflag
    · exact .inr (.inl rfl)
    · exact .inr (.inr (.inl rfl))
    · have hwildcard := HostType.eq_wildcard_of_classify hread
      exact .inr
        (.inr (.inr ⟨rfl, HostType.ofText_eq_wildcard_iff.1 hwildcard⟩))

/-- **Which fields admit `null`**: those whose parameter or marker says so,
unless the kind is one of three that say it themselves. -/
theorem nullable_of_fieldKind {knownTypes : NameSet} {markers : Markers}
    {parameter : Parameter} {kind : Kind}
    (hkind : fieldKind knownTypes markers parameter = .ok kind) :
    kind.nullable = (parameter.nullable || markers.nullable)
      ∨ kind = .unit ∨ kind = .nothing ∨ kind = .any true
        ∧ IsBareWildcard parameter.type := by
  cases hmarkers : markers.knownAlias? knownTypes with
  | some marker =>
    rw [fieldKind_of_knownAlias hmarkers] at hkind
    obtain rfl := Except.ok.inj hkind
    exact .inl rfl
  | none =>
    rw [fieldKind_of_knownAlias?_eq_none hmarkers] at hkind
    exact nullable_of_classify hkind

end KotlinBuilders
