import KotlinBuilders.Host.Serialization
import KotlinBuilders.Proofs.FirstDocument
import KotlinBuilders.Proofs.SchemaWriting

/-!
# A dump that is written loads again

Every dump, written as JSON on one line or over several lines, loads as the same
dump (`Dump.loadText_toJson`).

What a dump, a declaration and so on write is what the schemas that load them
write for the same values (`Dump.toJson_eq`), so keys, nesting and the marks for
absent parts agree on both sides.  The schemas are faithful, which is checked
once for the schema of dumps (`isFaithful_dumpSchema`).
-/

namespace KotlinBuilders

open Json (Schema Node)

/-- The names of a set make the same set again. -/
theorem NameSet.ofList_toList (names : NameSet) :
    NameSet.ofList names.toList = names :=
  NameSet.ext_mem fun _ => NameSet.mem_ofList

/-- A catalog that is mapped and mapped back is the same again. -/
theorem Catalog.map_map_of_leftInverse {α β : Type} {f : α → β} {g : β → α}
    (hinverse : Function.LeftInverse g f) (catalog : Catalog α) :
    (catalog.map f).map g = catalog := by
  have hentry :
      Function.LeftInverse (fun entry : String × β => (entry.1, g entry.2))
        (fun entry : String × α => (entry.1, f entry.2)) :=
      fun entry => Prod.ext rfl (hinverse entry.2)
  exact Catalog.ext (hentry.list_map catalog.entries)

/-- An optional value that is mapped and mapped back is the same again. -/
theorem map_map_of_leftInverse {α β : Type} {f : α → β} {g : β → α}
    (hinverse : Function.LeftInverse g f) (value? : Option α) :
    (value?.map f).map g = value? := by
  cases value? with
  | none => rfl
  | some value => exact congrArg some (hinverse value)

/-! ## The values that the schemas write -/

/-- A type parameter as a value of its schema. -/
def TypeParameter.toValue (parameter : TypeParameter) :
    typeParameterSchema.Value :=
  (parameter.name, parameter.bounds, ())

/-- A constructor parameter as a value of its schema. -/
def Parameter.toValue (parameter : Parameter) : parameterSchema.Value :=
  (parameter.name, parameter.type, parameter.hasDefault, parameter.nullable, ())

/-- An alias as a value of its schema. -/
def Alias.toValue (marker : Alias) : aliasSchema.Value :=
  (marker.target, marker.literal, ())

/-- The markers of a field as a value of their schema. -/
def Markers.toValue (markers : Markers) : markersSchema.Value :=
  (markers.nullable, markers.isMutable, markers.isUnsigned,
    markers.alias?.map Alias.toValue, markers.genericNullable, ())

/-- A declaration as a value of its schema. -/
def Declaration.toValue (declaration : Declaration) : declarationSchema.Value :=
  (declaration.name, declaration.package,
    declaration.typeParameters.map TypeParameter.toValue,
    declaration.parameters?.map (List.map Parameter.toValue),
    declaration.listing?, declaration.markers.map Markers.toValue,
    (declaration.companionable, ()), declaration.hasCompanion, ())

/-- A dump as a value of its schema. -/
def Dump.toValue (dump : Dump) : dumpSchema.Value :=
  (dump.declarations.map Declaration.toValue, dump.knownTypes.toList, ())

/-- A type parameter is what its value stands for. -/
theorem TypeParameter.ofValue_toValue (parameter : TypeParameter) :
    TypeParameter.ofValue parameter.toValue = parameter := rfl

/-- A constructor parameter is what its value stands for. -/
theorem Parameter.ofValue_toValue (parameter : Parameter) :
    Parameter.ofValue parameter.toValue = parameter := rfl

/-- An alias is what its value stands for. -/
theorem Alias.ofValue_toValue (marker : Alias) :
    Alias.ofValue marker.toValue = marker := rfl

/-- The markers of a field are what their value stands for. -/
theorem Markers.ofValue_toValue (markers : Markers) :
    Markers.ofValue markers.toValue = markers := by
  obtain ⟨nullable, isMutable, isUnsigned, alias?, genericNullable⟩ := markers
  exact (Markers.mk.injEq ..).mpr ⟨rfl, rfl, rfl,
    map_map_of_leftInverse Alias.ofValue_toValue alias?, rfl⟩

/-- A declaration is what its value stands for. -/
theorem Declaration.ofValue_toValue (declaration : Declaration) :
    Declaration.ofValue declaration.toValue = declaration := by
  obtain ⟨name, package, typeParameters, parameters?, listing?, markers,
      companionable, hasCompanion⟩ := declaration
  have htypeParameters :=
    Function.LeftInverse.list_map TypeParameter.ofValue_toValue typeParameters
  have hparameters := map_map_of_leftInverse
    (Function.LeftInverse.list_map Parameter.ofValue_toValue) parameters?
  have hmarkers :=
    Catalog.map_map_of_leftInverse Markers.ofValue_toValue markers
  exact (Declaration.mk.injEq ..).mpr ⟨rfl, rfl, htypeParameters, hparameters,
    rfl, hmarkers, rfl, rfl⟩

/-- A dump is what its value stands for. -/
theorem Dump.ofValue_toValue (dump : Dump) :
    Dump.ofValue dump.toValue = dump := by
  obtain ⟨declarations, knownTypes⟩ := dump
  have hdeclarations :=
    Function.LeftInverse.list_map Declaration.ofValue_toValue declarations
  exact (Dump.mk.injEq ..).mpr ⟨hdeclarations, knownTypes.ofList_toList⟩

/-! ## What is written -/

/-- A type parameter is written by its schema. -/
theorem TypeParameter.toJson_eq (parameter : TypeParameter) :
    parameter.toJson = typeParameterSchema.toJson parameter.toValue := rfl

/-- A constructor parameter is written by its schema. -/
theorem Parameter.toJson_eq (parameter : Parameter) :
    parameter.toJson = parameterSchema.toJson parameter.toValue := rfl

/-- An alias is written by its schema. -/
theorem Alias.toJson_eq (marker : Alias) :
    marker.toJson = aliasSchema.toJson marker.toValue := rfl

/-- The markers of a field are written by their schema. -/
theorem Markers.toJson_eq (markers : Markers) :
    markers.toJson = markersSchema.toJson markers.toValue := by
  have halias := Json.toJson_optional_map Alias.toJson_eq markers.alias?
  rw [Markers.toJson, halias]
  rfl

/-- Constructor parameters are written by their schema, one after the other. -/
theorem parametersToJson_eq (parameters : List Parameter) :
    parametersToJson parameters = (Schema.list parameterSchema).toJson
      (parameters.map Parameter.toValue) :=
  Json.toJson_list_map Parameter.toJson_eq parameters

/-- An optional text is written by its schema. -/
theorem ofText?_eq (text? : Option String) :
    Json.ofText? text? = (Schema.optional textSchema).toJson text? := by
  cases text? <;> rfl

/-- A declaration is written by its schema. -/
theorem Declaration.toJson_eq (declaration : Declaration) :
    declaration.toJson = declarationSchema.toJson declaration.toValue := by
  have htypeParameters :=
    Json.toJson_list_map TypeParameter.toJson_eq declaration.typeParameters
  have hparameters :=
    Json.toJson_optional_map parametersToJson_eq declaration.parameters?
  have hmarkers := Json.toJson_table_map Markers.toJson_eq declaration.markers
  rw [Declaration.toJson, htypeParameters, hparameters, ofText?_eq, hmarkers]
  rfl

/-- **A dump writes what its schema writes for its value.** -/
theorem Dump.toJson_eq (dump : Dump) :
    dump.toJson = dumpSchema.toJson dump.toValue := by
  have hdeclarations :=
    Json.toJson_list_map Declaration.toJson_eq dump.declarations
  rw [Dump.toJson, hdeclarations]
  rfl

/-- The schema of a dump tells all its values apart. -/
theorem isFaithful_dumpSchema : dumpSchema.isFaithful = true := by decide

/-- The schema of dumps reads what a dump writes. -/
theorem Dump.read_toJson (dump : Dump) :
    dumpSchema.read (Node.ofJson dump.toJson) = .ok dump.toValue := by
  rw [dump.toJson_eq]
  exact Schema.read_toJson dumpSchema isFaithful_dumpSchema dump.toValue

/-- A dump loads from every document of what it writes. -/
theorem Dump.load_of_writtenAs_toJson {dump : Dump} {text : List UInt8}
    (hwritten : (Node.ofJson dump.toJson).WrittenAs text) :
    Dump.load text = .ok dump := by
  have hload := Dump.load_append_of_writtenAs hwritten dump.read_toJson []
  rwa [List.append_nil, dump.ofValue_toValue] at hload

/-- **A dump that is written loads again**, on one line or over several
lines. -/
theorem Dump.loadText_toJson (dump : Dump) :
    Dump.loadText dump.toJson.compact = .ok dump
      ∧ Dump.loadText dump.toJson.pretty = .ok dump :=
  ⟨Dump.load_of_writtenAs_toJson (Node.writtenAs_compact dump.toJson),
    Dump.load_of_writtenAs_toJson (Node.writtenAs_pretty dump.toJson)⟩

end KotlinBuilders
