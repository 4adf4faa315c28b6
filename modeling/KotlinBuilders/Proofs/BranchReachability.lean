import KotlinBuilders.Proofs.SlotConsistency

/-!
# No branch of `build` is dead

A body with optional fields has a branch for each nonempty set of them and the
fallback for the empty set.  A call says which set it was made for, because it
passes the optional fields of the set and no other ones (`eq_of_arguments_iff`).
So no two calls pass the same fields, and there are as many calls as there are
sets.

The branches are tried from the largest set to the smallest.  Where the checks
of one branch hold and no others, the branches before it fail: they stand for
other sets, none of which is a part of this one (`findIdx?_branches`).  Together
this is `branches_distinct_reachable`.
-/

namespace KotlinBuilders

/-! ## Which branches and calls there are -/

/-- There is a constructor call for each branch. -/
theorem BuildBody.length_calls (body : BuildBody) :
    body.calls.length = body.branchCount := by
  cases body <;> simp [calls, branchCount]

/-- The branch that comes first makes its call. -/
theorem BuildBody.select_of_findIdx? {body : BuildBody}
    {holds : PresenceCheck → Bool} {place : Nat} {branch : Branch}
    (hfirst : body.branches.findIdx? (Branch.isTaken holds) = some place)
    (hbranch : body.branches[place]? = some branch) :
    body.select holds = branch.call := by
  cases body with
  | direct call => cases hbranch
  | guarded branches fallback =>
    rw [BuildBody.branches] at hfirst hbranch
    have hfound : branches.find? (Branch.isTaken holds) = some branch := by
      rw [List.find?_eq_bind_findIdx?_getElem?, hfirst]
      exact hbranch
    simp only [select, hfound]

variable {target : String} {fields : List Field}

/-- The branches are those of the subsets of the optional fields, in their
order. -/
theorem branches_buildBody :
    (buildBody target fields).branches
      = (descendingSubsets (fields.filter Field.isOptional)).map
        (branchFor target fields) := by
  simp only [buildBody]
  split
  · next hnone =>
    rw [List.isEmpty_iff.1 hnone]
    rfl
  · rfl

/-- The sets that a call is made for are sets of optional fields. -/
theorem sublist_of_mem_choices {optional chosen : List Field}
    (hchosen : chosen ∈ descendingSubsets optional ++ [[]]) :
    chosen.Sublist optional := by
  rcases List.mem_append.1 hchosen with hmem | hmem
  · exact (mem_descendingSubsets.1 hmem).1
  · exact List.mem_singleton.1 hmem ▸ List.nil_sublist optional

/-- There is a call for each set of optional fields, the empty one last. -/
theorem calls_buildBody :
    (buildBody target fields).calls
      = (descendingSubsets (fields.filter Field.isOptional) ++ [[]]).map
        (callWith target fields) := by
  simp only [buildBody]
  split
  · next hnone =>
    rw [List.isEmpty_iff.1 hnone]
    rfl
  · rw [BuildBody.calls, List.map_map, List.map_append]
    rfl

/-! ## What tells them apart -/

/-- The check of a field asks for the field itself. -/
theorem Field.field_check (field : Field) : field.check.field = field.name := by
  unfold Field.check Kind.presenceCheck
  split <;> rfl

section Distinct

variable (hdistinct : (fields.map Field.name).Nodup)

include hdistinct

/-- Among distinct fields the optional ones are distinct. -/
theorem nodup_optional : (fields.filter Field.isOptional).Nodup :=
  (List.Nodup.of_map Field.name hdistinct).filter _

/-- No call is made twice for the same set. -/
theorem nodup_choices :
    (descendingSubsets (fields.filter Field.isOptional) ++ [[]]).Nodup := by
  refine List.nodup_append'.2 ⟨nodup_descendingSubsets
    (nodup_optional hdistinct), List.nodup_singleton _, ?_⟩
  refine List.disjoint_right.2 fun chosen hempty hchosen => ?_
  exact (mem_descendingSubsets.1 hchosen).2 (List.mem_singleton.1 hempty)

/-- Fields of distinct names have distinct checks. -/
theorem eq_of_check_eq {field other : Field} (hfield : field ∈ fields)
    (hother : other ∈ fields) (hsame : field.check = other.check) :
    field = other := by
  have hname : field.name = other.name := by
    rw [← field.field_check, ← other.field_check, hsame]
  exact List.inj_on_of_nodup_map hdistinct hfield hother hname

/-- A call passes an optional field exactly when it was made for a set with this
field. -/
theorem mem_arguments_callWith_iff {chosen : List Field}
    (hchosen : chosen ⊆ fields) {field : Field} (hfield : field ∈ fields)
    (hoptional : field.isOptional = true) :
    field.name ∈ (callWith target fields chosen).arguments ↔
      field ∈ chosen := by
  rw [callWith, List.mem_map]
  constructor
  · intro hargument
    obtain ⟨other, hother, hname⟩ := hargument
    obtain ⟨hmem, hpassed⟩ := List.mem_filter.1 hother
    obtain rfl := List.inj_on_of_nodup_map hdistinct hmem hfield hname
    rw [hoptional, Bool.not_true, Bool.false_or] at hpassed
    exact (any_name_iff_mem hdistinct hchosen hfield).1 hpassed
  · intro hmem
    have hfound := (any_name_iff_mem hdistinct hchosen hfield).2 hmem
    exact ⟨field, List.mem_filter.2 ⟨hfield, by rw [hfound, Bool.or_true]⟩, rfl⟩

/-- **A call says which optional fields it was made for.** -/
theorem eq_of_arguments_iff {first second : List Field}
    (hfirst : first.Sublist (fields.filter Field.isOptional))
    (hsecond : second.Sublist (fields.filter Field.isOptional))
    (hsame : ∀ name, name ∈ (callWith target fields first).arguments ↔
      name ∈ (callWith target fields second).arguments) :
    first = second := by
  have hsubset : ∀ {chosen : List Field},
      chosen.Sublist (fields.filter Field.isOptional) → chosen ⊆ fields :=
    fun hchosen _ hmem => List.mem_of_mem_filter (hchosen.subset hmem)
  refine eq_of_sublist_of_mem_iff (nodup_optional hdistinct) hfirst hsecond
    fun field => ?_
  by_cases hfield : field ∈ fields.filter Field.isOptional
  · obtain ⟨hmem, hoptional⟩ := List.mem_filter.1 hfield
    rw [← mem_arguments_callWith_iff hdistinct (hsubset hfirst) hmem hoptional,
      ← mem_arguments_callWith_iff hdistinct (hsubset hsecond) hmem hoptional]
    exact hsame field.name
  · exact ⟨fun hmem => absurd (hfirst.subset hmem) hfield, fun hmem =>
      absurd (hsecond.subset hmem) hfield⟩

/-- The checks of some optional fields hold for these fields and no others. -/
theorem filter_check_mem {chosen : List Field}
    (hchosen : chosen.Sublist (fields.filter Field.isOptional)) :
    (fields.filter Field.isOptional).filter (fun field =>
      decide (field.check ∈ chosen.map Field.check)) = chosen := by
  refine eq_of_sublist_of_mem_iff (nodup_optional hdistinct) List.filter_sublist
    hchosen fun field => ?_
  rw [List.mem_filter, decide_eq_true_iff, List.mem_map]
  constructor
  · intro hcheck
    obtain ⟨hfield, other, hother, hsame⟩ := hcheck
    have hmem := List.mem_of_mem_filter hfield
    have hmem' := List.mem_of_mem_filter (hchosen.subset hother)
    exact eq_of_check_eq hdistinct hmem' hmem hsame ▸ hother
  · intro hmem
    exact ⟨hchosen.subset hmem, field, hmem, rfl⟩

/-- **A branch comes first where its checks hold and no others.** -/
theorem findIdx?_branches {place : Nat} {branch : Branch}
    (hbranch : (buildBody target fields).branches[place]? = some branch) :
    (buildBody target fields).branches.findIdx? (Branch.isTaken fun check =>
      decide (check ∈ branch.checks))
        = some place := by
  rw [branches_buildBody, List.getElem?_map, Option.map_eq_some_iff] at hbranch
  obtain ⟨chosen, hplace, rfl⟩ := hbranch
  obtain ⟨hchosen, -⟩ := mem_descendingSubsets.1 (List.mem_of_getElem? hplace)
  have htaken :
      Branch.isTaken (fun check =>
        decide (check ∈ (branchFor target fields chosen).checks))
          ∘ branchFor target fields
        = fun other => other.all fun field =>
            decide (field.check ∈ chosen.map Field.check) :=
    funext isTaken_branchFor
  rw [branches_buildBody, List.findIdx?_map, htaken]
  refine findIdx?_descendingSubsets (nodup_optional hdistinct) ?_
  rw [filter_check_mem hdistinct hchosen]
  exact hplace

end Distinct

/-- **No branch is dead and no two are alike.**  For fields of distinct names, a
body can make one call for each set of optional fields, and no two of its calls
pass the same fields.  For every branch there are answers to the presence checks
with which it is the first one all of whose checks hold, so that `build` makes
its call; and with no check holding, `build` goes past all branches. -/
theorem branches_distinct_reachable
    (hdistinct : (fields.map Field.name).Nodup) :
    (buildBody target fields).branchCount = 2 ^ fields.countP Field.isOptional
      ∧ (buildBody target fields).calls.length
        = (buildBody target fields).branchCount
      ∧ (buildBody target fields).calls.Pairwise
          (fun call other =>
            ¬∀ name, name ∈ call.arguments ↔ name ∈ other.arguments)
      ∧ (∀ place branch,
        (buildBody target fields).branches[place]? = some branch →
          ∃ holds : PresenceCheck → Bool,
            (buildBody target fields).branches.findIdx? (Branch.isTaken holds)
                = some place
              ∧ (buildBody target fields).select holds = branch.call)
      ∧ (buildBody target fields).branches.findIdx?
          (Branch.isTaken fun _ => false) = none := by
  refine ⟨branchCount_buildBody, BuildBody.length_calls _, ?_, ?_, ?_⟩
  · rw [calls_buildBody, List.pairwise_map]
    refine (nodup_choices hdistinct).imp_of_mem fun {first second} hfirst
      hsecond hne hsame => hne ?_
    exact eq_of_arguments_iff hdistinct (sublist_of_mem_choices hfirst)
      (sublist_of_mem_choices hsecond) hsame
  · intro place branch hbranch
    have hfirst := findIdx?_branches hdistinct hbranch
    exact ⟨_, hfirst, BuildBody.select_of_findIdx? hfirst hbranch⟩
  · rw [branches_buildBody, List.findIdx?_eq_none_iff]
    intro branch hbranch
    obtain ⟨chosen, hchosen, rfl⟩ := List.mem_map.1 hbranch
    -- A branch is never for the empty set, so it has a check to fail.
    obtain ⟨field, hfield⟩ :=
      List.exists_mem_of_ne_nil chosen (mem_descendingSubsets.1 hchosen).2
    rw [isTaken_branchFor, List.all_eq_false]
    exact ⟨field, hfield, Bool.false_ne_true⟩

/-- The third branch, for `count` alone, is the first one where only `count` was
given a value.  It passes `count` beside the required `id`. -/
theorem branches_distinct_reachable_count :
    (sampleFields.map Field.name).Nodup
      ∧ (buildBody "Sample" sampleFields).branchCount = 4
      ∧ ∃ holds : PresenceCheck → Bool,
          (buildBody "Sample" sampleFields).branches.findIdx?
              (Branch.isTaken holds) = some 2
            ∧ (buildBody "Sample" sampleFields).select holds
              = ⟨"Sample", [⟨"id"⟩, ⟨"count"⟩]⟩ := by
  have hdistinct : (sampleFields.map Field.name).Nodup := by decide
  obtain ⟨hcount, -, -, hreachable, -⟩ :=
    @branches_distinct_reachable "Sample" sampleFields hdistinct
  exact ⟨hdistinct, hcount, hreachable 2 ⟨[.differs ⟨"count"⟩ "0"],
    ⟨"Sample", [⟨"id"⟩, ⟨"count"⟩]⟩⟩ rfl⟩

end KotlinBuilders
