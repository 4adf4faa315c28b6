import KotlinBuilders.Proofs.PrintedJson
import KotlinBuilders.Proofs.RunAccounts

/-!
# Runs over selected declarations

A selection names declarations, in any order and as often as it likes.  A name
that no declaration has is refused before anything is converted, and the refusal
lists all such names in the order of their bytes; the set that holds them is in
the order of their characters, which is the same (`toUTF8_lt_of_lt`).

What a declaration gets does not depend on the selection, so a run over a
selection makes what the run over the whole dump makes, less what belongs to
declarations with other names (`Run.generated_filter`).  The main statement is
`Run.plan_selection`.
-/

namespace KotlinBuilders

/-! ## The order of bytes -/

namespace Json

/-- **The first character that differs decides.**  Of two characters, the
greater one has the greater byte where their bytes first differ, so whatever
follows does not count. -/
theorem utf8EncodeChar_append_lt {c d : Char} (hlt : c < d)
    (rest more : List UInt8) :
    String.utf8EncodeChar c ++ rest < String.utf8EncodeChar d ++ more := by
  have hvalue : c.val.toNat < d.val.toNat := hlt
  have hrange : d.val.toNat < 0x110000 := by
    rcases d.valid with hbelow | ⟨-, hbelow⟩
    · have hbelow : d.val.toNat < 0xd800 := hbelow
      omega
    · exact hbelow
  simp only [String.utf8EncodeChar]
  generalize c.val.toNat = v at *
  generalize d.val.toNat = w at *
  -- The bytes hold digits to the base 64; said so, the digits can be compared
  -- from the first one on.
  have hdigits (n : Nat) : n / 4096 = n / 64 / 64 :=
    (Nat.div_div_eq_div_mul n 64 64).symm
  have hdigits' (n : Nat) : n / 262144 = n / 64 / 64 / 64 := by
    rw [Nat.div_div_eq_div_mul, Nat.div_div_eq_div_mul]
  rw [hdigits v, hdigits w, hdigits' v, hdigits' w]
  split_ifs <;>
    simp only [List.cons_append, List.nil_append, List.cons_lt_cons_iff,
      UInt8.lt_iff_toNat_lt, ← UInt8.toNat_inj, UInt8.toNat_ofNat'] <;>
    simp (disch := omega) only [Nat.mod_eq_of_lt] <;>
    omega

/-- The order of characters is that of their bytes. -/
theorem utf8_lt_of_lt {text other : List Char} (hlt : text < other) :
    utf8 text < utf8 other := by
  induction hlt with
  | nil =>
    rename_i c text
    obtain ⟨b, bytes, hbytes⟩ :=
      List.exists_cons_of_ne_nil (String.utf8EncodeChar_ne_nil (c := c))
    rw [utf8_cons, hbytes]
    exact .nil
  | rel hchar => exact utf8EncodeChar_append_lt hchar _ _
  | cons _ ih => exact List.append_left_lt ih

end Json

/-- **Texts are in the order of their bytes.** -/
theorem toUTF8_lt_of_lt {text other : String} (hlt : text < other) :
    text.toUTF8.data.toList < other.toUTF8.data.toList := by
  rw [← String.ofList_toList (s := text), ← String.ofList_toList (s := other),
    Json.toUTF8_ofList, Json.toUTF8_ofList]
  exact Json.utf8_lt_of_lt (String.lt_iff.1 hlt)

/-! ## Names that no declaration has -/

namespace Dump

/-- Whether a name is that of a declaration. -/
def Declares (dump : Dump) (name : String) : Prop :=
  ∃ declaration ∈ dump.declarations, declaration.name = name

instance (dump : Dump) (name : String) : Decidable (dump.Declares name) :=
  inferInstanceAs (Decidable (∃ declaration ∈ dump.declarations,
    declaration.name = name))

variable {dump : Dump} {names : List String} {name : String}

/-- A name is looked up in vain when no declaration has it. -/
theorem isNone_declaration?_iff : (dump.declaration? name).isNone = true ↔
    ¬dump.Declares name := by
  simp [declaration?, Declares]

/-- The unknown names are those that were asked for and that no declaration
has. -/
theorem mem_unknownNames_iff : name ∈ dump.unknownNames (some names) ↔
    name ∈ names ∧ ¬dump.Declares name := by
  rw [unknownNames, NameSet.mem_ofList, List.mem_filter,
    isNone_declaration?_iff]
  rfl

/-- No name is unknown when each is that of a declaration. -/
theorem isEmpty_unknownNames_iff :
    (dump.unknownNames (some names)).isEmpty = true ↔
      ∀ name ∈ names, dump.Declares name := by
  rw [NameSet.isEmpty, List.isEmpty_iff, List.eq_nil_iff_forall_not_mem]
  refine forall_congr' fun name => ?_
  rw [← NameSet.mem_iff, mem_unknownNames_iff, not_and, not_not]

end Dump

namespace Run

variable {dump : Dump} {naming : Naming} {names : List String}

/-- A selection is refused when one of its names is unknown, and the refusal
holds all of these. -/
theorem plan_eq_error_iff {unknown : UnknownDeclarations} :
    plan dump naming (some names) = .error unknown ↔
      (∃ name ∈ names, ¬dump.Declares name)
      ∧ unknown = ⟨dump.unknownNames (some names)⟩ := by
  unfold plan
  split
  · next hnone =>
    refine iff_of_false nofun ?_
    rintro ⟨⟨name, hmem, hunknown⟩, -⟩
    exact hunknown (Dump.isEmpty_unknownNames_iff.1 hnone name hmem)
  · next hsome =>
    have hunknown : ∃ name ∈ names, ¬dump.Declares name := by
      by_contra hdeclared
      push Not at hdeclared
      exact hsome (Dump.isEmpty_unknownNames_iff.2 hdeclared)
    rw [Except.error.injEq]
    exact ⟨fun hsame => ⟨hunknown, hsame.symm⟩, fun hboth => hboth.2.symm⟩

/-- A run is planned with the selection that was asked for. -/
theorem plan_eq_ok {run : Run} {selection : Selection}
    (hplan : plan dump naming selection = .ok run) :
    run = ⟨dump, naming, selection⟩ := by
  unfold plan at hplan
  split at hplan
  · exact (Except.ok.inj hplan).symm
  · cases hplan

/-- A run without a selection is never refused. -/
theorem plan_none : plan dump naming none = .ok ⟨dump, naming, none⟩ := rfl

/-! ## What belongs to the selected declarations -/

/-- **Choosing declarations first or last is the same**: what a run generates
from those with chosen names is the part with chosen names of what it
generates. -/
theorem generated_filter (run : Run) (chosen : String → Bool)
    (declarations : List Declaration) :
    run.generated
        (declarations.filter fun declaration => chosen declaration.name)
      = (run.generated declarations).filter fun made => chosen made.1.name := by
  unfold generated
  rw [List.filterMap_filter, List.filter_filterMap]
  refine List.filterMap_congr fun declaration _ => ?_
  cases run.convert declaration with
  | error failure => cases chosen declaration.name <;> rfl
  | ok conversion =>
    cases hchosen : chosen declaration.name <;>
      simp [Option.filter_some, hchosen]

/-- The modules of a run are those of the generated conversions. -/
theorem modules_eq_generated (run : Run) :
    run.modules = (run.generated run.declarations).map (·.2.model) :=
  run.accounts_generate.modules

/-- The files of a run are those of the generated conversions. -/
theorem files_eq_generated (run : Run) (format : OutputFormat)
    (source : String) :
    run.files format source = (run.generated run.declarations).map
      (·.2.model.file format source) := by
  rw [files, modules_eq_generated, List.map_map]
  rfl

/-- **A selection is refused for the names it has too much, and otherwise takes
its part of everything.**  A run is refused exactly when some selected name is
not that of a declaration; the refusal lists all such names, strictly ascending
by their bytes and therefore each once.  Otherwise the modules, the files and
the summaries are those of the run without a selection, in its order, less what
belongs to declarations with other names, and all declarations with a selected
name are seen. -/
theorem plan_selection (dump : Dump) (naming : Naming) (names : List String)
    (format : OutputFormat) (source : String) :
    ((∃ unknown, plan dump naming (some names) = .error unknown) ↔
        ∃ name ∈ names, ¬dump.Declares name)
      ∧ (∀ unknown, plan dump naming (some names) = .error unknown →
          unknown.message
              = "unknown declaration(s): "
                ++ ", ".intercalate unknown.names.toList
            ∧ (∀ name, name ∈ unknown.names.toList ↔
              name ∈ names ∧ ¬dump.Declares name)
            ∧ unknown.names.toList.Pairwise fun name other =>
                name.toUTF8.data.toList < other.toUTF8.data.toList)
      ∧ ∀ run, plan dump naming (some names) = .ok run →
          ∃ whole, plan dump naming none = .ok whole
            ∧ let made := whole.generated dump.declarations
              let chosen := made.filter fun pair => names.contains pair.1.name
              let declarations := dump.declarations.filter fun declaration =>
                names.contains declaration.name
              (whole.modules = made.map (·.2.model)
                  ∧ run.modules = chosen.map (·.2.model))
                ∧ (whole.files format source
                      = made.map (·.2.model.file format source)
                    ∧ run.files format source
                      = chosen.map (·.2.model.file format source))
                ∧ (whole.summaries = dump.declarations.map whole.summary
                    ∧ run.summaries = declarations.map whole.summary)
                ∧ run.stats.declarations = declarations.length := by
  refine ⟨?_, ?_, ?_⟩
  · constructor
    · rintro ⟨unknown, hplan⟩
      exact (plan_eq_error_iff.1 hplan).1
    · exact fun hunknown => ⟨_, plan_eq_error_iff.2 ⟨hunknown, rfl⟩⟩
  · intro unknown hplan
    obtain ⟨-, rfl⟩ := plan_eq_error_iff.1 hplan
    refine ⟨rfl, fun name => ?_,
      (dump.unknownNames (some names)).ascending.imp toUTF8_lt_of_lt⟩
    rw [← NameSet.mem_iff, Dump.mem_unknownNames_iff]
  · intro run hplan
    obtain rfl := plan_eq_ok hplan
    let whole : Run := ⟨dump, naming, none⟩
    have hall : whole.declarations = dump.declarations :=
      List.filter_eq_self.2 fun _ _ => rfl
    have hmade := whole.generated_filter names.contains dump.declarations
    refine ⟨whole, plan_none, ⟨?_, ?_⟩, ⟨?_, ?_⟩, ⟨?_, rfl⟩, ?_⟩
    · rw [modules_eq_generated, hall]
    · rw [modules_eq_generated, ← hmade]
      rfl
    · rw [files_eq_generated, hall]
    · rw [files_eq_generated, ← hmade]
      rfl
    · rw [summaries, hall]
    · exact (accounts_generate _).declarations

/-- A dump with two declarations of one name, and one that gets no builder. -/
def strayDump : Dump :=
  { declarations := [soundDeclaration "Dog", silentDeclaration,
      soundDeclaration "Cat",
      { soundDeclaration "Dog" with package := "com.farm" }] }

/-- Two unknown names are listed once each and in order.  A name that is
selected takes both of its declarations, and the one that gets no builder is
seen. -/
theorem plan_selection_stray :
    (∃ unknown,
        plan strayDump {} (some ["Zoo", "Dog", "Ape", "Zoo"]) = .error unknown
        ∧ unknown.message = "unknown declaration(s): Ape, Zoo")
      ∧ ∃ run, plan strayDump {} (some ["Silent", "Dog", "Dog"]) = .ok run
        ∧ (run.files .model "").map GeneratedFile.path
          = ["com/example/DogExtension.json", "com/farm/DogExtension.json"]
        ∧ run.stats.declarations = 3 := by
  obtain ⟨hrefused, hlisted, -⟩ :=
    plan_selection strayDump {} ["Zoo", "Dog", "Ape", "Zoo"] .model ""
  obtain ⟨unknown, hunknown⟩ := hrefused.2 ⟨"Zoo", by decide, by decide⟩
  obtain ⟨-, -, htaken⟩ :=
    plan_selection strayDump {} ["Silent", "Dog", "Dog"] .model ""
  obtain ⟨whole, hwhole, -, ⟨-, hfiles⟩, -, hseen⟩ := htaken _ rfl
  obtain rfl := Except.ok.inj hwhole
  refine ⟨⟨unknown, hunknown, ?_⟩, _, rfl, ?_, ?_⟩
  · rw [(hlisted unknown hunknown).1]
    obtain rfl := (plan_eq_error_iff.1 hunknown).2
    decide +kernel
  · rw [hfiles]
    decide +kernel
  · rw [hseen]
    decide +kernel

end Run

end KotlinBuilders
