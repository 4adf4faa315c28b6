/-!
# Values by name, in order of first appearance

A map from names to values that remembers the order in which the names came
first.  Giving a name a new value keeps its place.  No name occurs twice; that
is part of the type.
-/

namespace KotlinBuilders

/-- Values by name, the names in order of first appearance. -/
structure Catalog (α : Type) where
  entries : List (String × α)
  distinct : (entries.map Prod.fst).Nodup := by simp

namespace Catalog

variable {α : Type}

/-- Gives a name a value: in its old place, or at the end when the name is
new. -/
def place (name : String) (value : α) : List (String × α) → List (String × α)
  | [] => [(name, value)]
  | (first, old) :: others =>
    if first = name then (first, value) :: others
      else (first, old) :: place name value others

/-- Placing an entry adds its name and no other. -/
theorem mem_names_place {name other : String} {value : α}
    {entries : List (String × α)} :
    other ∈ (place name value entries).map Prod.fst ↔
      other = name ∨ other ∈ entries.map Prod.fst := by
  induction entries with
  | nil => simp [place]
  | cons entry others ih =>
    obtain ⟨first, old⟩ := entry
    unfold place
    split
    · next h => subst h; simp
    · rw [List.map_cons, List.map_cons, List.mem_cons, List.mem_cons, ih]
      constructor <;> rintro (h | h | h) <;> simp [h]

/-- Placing an entry keeps the names distinct. -/
theorem nodup_names_place {name : String} {value : α}
    {entries : List (String × α)} (h : (entries.map Prod.fst).Nodup) :
    ((place name value entries).map Prod.fst).Nodup := by
  induction entries with
  | nil => simp [place]
  | cons entry others ih =>
    obtain ⟨first, old⟩ := entry
    have ⟨fresh, tail⟩ := List.nodup_cons.1 h
    unfold place
    split
    · exact h
    · next ne =>
      refine List.nodup_cons.2 ⟨fun mem => ?_, ih tail⟩
      rcases mem_names_place.1 mem with eq | mem
      · exact ne eq
      · exact fresh mem

/-- The catalog without entries. -/
def empty : Catalog α := { entries := [] }

/-- The catalog in which a name has a given value. -/
def put (catalog : Catalog α) (name : String) (value : α) : Catalog α :=
  ⟨place name value catalog.entries, nodup_names_place catalog.distinct⟩

/-- The catalog of a list of entries; the last value of a name counts, in the
name's first place. -/
def ofList (entries : List (String × α)) : Catalog α :=
  entries.foldl (fun catalog entry => catalog.put entry.1 entry.2) empty

/-- The value of a name. -/
def get? (catalog : Catalog α) (name : String) : Option α :=
  catalog.entries.lookup name

/-- The names, in order of first appearance. -/
def names (catalog : Catalog α) : List String := catalog.entries.map Prod.fst

/-- The catalog with another value for each name. -/
def map {β : Type} (f : α → β) (catalog : Catalog α) : Catalog β where
  entries := catalog.entries.map fun entry => (entry.1, f entry.2)
  distinct := by
    have same :
        (catalog.entries.map fun entry => (entry.1, f entry.2)).map Prod.fst
          = catalog.entries.map Prod.fst := by simp [Function.comp_def]
    exact same ▸ catalog.distinct

instance : Inhabited (Catalog α) := ⟨empty⟩

/-- Two catalogs with the same entries are the same. -/
theorem ext {a b : Catalog α} (h : a.entries = b.entries) : a = b := by
  cases a; cases b; simp_all

end Catalog

end KotlinBuilders
