import Mathlib.Data.List.Induction
import Mathlib.Data.List.Nodup
import ShaderLoom.Glsl.Scan

/-!
# Merging declarations

A program may declare a name any number of times, in one stage or in both, as long as qualifier
and type stay the same.  The declarations of both texts are gone through in order, and the list
of those that were kept is all that is remembered; it is searched by name only.

The list that is kept is known in advance: it holds the declarations whose names have not
occurred before (`Declaration.withoutRepeats`).  Repeats that were left out do not matter to the
search, which finds the earliest declaration of a name in any case
(`Declaration.earliest?_withoutRepeats`).  So a declaration is compared with the earliest one of
its name, and as long as no two disagree this is as good as comparing it with all of them.  The
induction is on the declarations gone through, from the front (`Declaration.merge_cases`).

## Main definitions

* `Declaration.Agree`, `Declaration.Consistent` — qualifier and type stay the same
* `Declaration.withoutRepeats` — the first declaration of each name
* `Declaration.FirstConflict` — the first declaration that disagrees with an earlier one

## Main results

* `Declaration.merge_cases` — what merging declarations gives
* `Declaration.scan_outcome` — when a program can be scanned, and what is reported otherwise
-/

namespace ShaderLoom
namespace Declaration

/-! ## Agreement -/

/-- Two declarations have the same qualifier and type. -/
def Agree (a b : Declaration) : Prop :=
  a.qualifier = b.qualifier ∧ a.type = b.type

instance (a b : Declaration) : Decidable (Agree a b) :=
  inferInstanceAs (Decidable (_ ∧ _))

/-- Any two declarations of one name agree. -/
def Consistent (declarations : List Declaration) : Prop :=
  ∀ a ∈ declarations, ∀ b ∈ declarations, a.name = b.name → Agree a b

instance (declarations : List Declaration) : Decidable (Consistent declarations) :=
  inferInstanceAs
    (Decidable (∀ a ∈ declarations, ∀ b ∈ declarations, a.name = b.name → Agree a b))

/-- The earliest declaration of a name. -/
def earliest? (declarations : List Declaration) (name : String) : Option Declaration :=
  declarations.find? fun declaration => declaration.name == name

/-- The declarations whose names have not occurred before. -/
def withoutRepeats (declarations : List Declaration) : List Declaration :=
  (declarations.zipIdx.filter fun entry =>
    (declarations.take entry.2).all fun earlier => earlier.name != entry.1.name).map Prod.fst

/-- The first declaration that disagrees with an earlier one of its name, and the earliest one
of its name. -/
structure FirstConflict (declarations : List Declaration) (earlier later : Declaration) :
    Prop where
  /-- Those before it agree among each other, and the earliest one of its name is among them. -/
  split : ∃ before after, declarations = before ++ later :: after ∧ Consistent before ∧
    earliest? before later.name = some earlier
  disagree : ¬ Agree earlier later

variable {declarations : List Declaration} {declaration earlier later : Declaration}

theorem earliest?_eq_none_iff {name : String} :
    earliest? declarations name = none ↔ ∀ other ∈ declarations, other.name ≠ name := by
  rw [earliest?, List.find?_eq_none]
  exact forall₂_congr fun other _ => not_congr beq_iff_eq

theorem mem_of_earliest? {name : String} (found : earliest? declarations name = some earlier) :
    earlier ∈ declarations ∧ earlier.name = name := by
  rw [earliest?] at found
  have named := List.find?_some found
  exact ⟨List.mem_of_find?_eq_some found, beq_iff_eq.mp named⟩

theorem Consistent.nil : Consistent [] :=
  fun _ member => absurd member List.not_mem_nil

theorem Consistent.of_subset {others : List Declaration} (consistent : Consistent declarations)
    (subset : others ⊆ declarations) : Consistent others :=
  fun a inA b inB => consistent a (subset inA) b (subset inB)

/-- A declaration of a new name agrees with all others. -/
theorem Consistent.concat_new (consistent : Consistent declarations)
    (new : earliest? declarations declaration.name = none) :
    Consistent (declarations ++ [declaration]) := by
  have other := earliest?_eq_none_iff.mp new
  intro a inA b inB same
  rcases List.mem_append.mp inA with oldA | newA <;>
    rcases List.mem_append.mp inB with oldB | newB
  · exact consistent a oldA b oldB same
  · exact absurd (same.trans (congrArg name (List.mem_singleton.mp newB))) (other a oldA)
  · exact absurd (same.symm.trans (congrArg name (List.mem_singleton.mp newA))) (other b oldB)
  · rw [List.mem_singleton.mp newA, List.mem_singleton.mp newB]
    exact ⟨rfl, rfl⟩

/-- One that agrees with the earliest of its name agrees with all others of its name: it is a
repeat. -/
theorem Consistent.concat_repeat (consistent : Consistent declarations)
    (found : earliest? declarations declaration.name = some earlier)
    (agree : Agree earlier declaration) : Consistent (declarations ++ [declaration]) := by
  obtain ⟨member, named⟩ := mem_of_earliest? found
  have same : declaration = earlier := by
    cases declaration
    cases earlier
    obtain ⟨rfl, rfl⟩ := agree
    cases named
    rfl
  refine consistent.of_subset (List.append_subset.mpr ⟨List.Subset.refl _, ?_⟩)
  rw [same]
  exact List.cons_subset.mpr ⟨member, List.nil_subset _⟩

/-- Where one declaration disagrees with an earlier one, not all agree. -/
theorem FirstConflict.not_consistent (conflict : FirstConflict declarations earlier later) :
    ¬ Consistent declarations := by
  obtain ⟨⟨before, after, rfl, _, found⟩, disagree⟩ := conflict
  obtain ⟨member, named⟩ := mem_of_earliest? found
  intro consistent
  exact disagree (consistent earlier (List.mem_append_left _ member) later
    (List.mem_append_right _ List.mem_cons_self) named)

/-- What comes later does not change which conflict is the first. -/
theorem FirstConflict.append (conflict : FirstConflict declarations earlier later)
    (more : List Declaration) : FirstConflict (declarations ++ more) earlier later := by
  obtain ⟨⟨before, after, rfl, consistent, found⟩, disagree⟩ := conflict
  exact ⟨⟨before, after ++ more, List.append_assoc _ _ _, consistent, found⟩, disagree⟩

/-! ## Leaving out repeats -/

theorem withoutRepeats_concat (declarations : List Declaration) (declaration : Declaration) :
    withoutRepeats (declarations ++ [declaration]) = withoutRepeats declarations ++
      if (earliest? declarations declaration.name).isNone then [declaration] else [] := by
  have old : (declarations.zipIdx.filter fun entry =>
        ((declarations ++ [declaration]).take entry.2).all fun other =>
          other.name != entry.1.name) =
      declarations.zipIdx.filter fun entry =>
        (declarations.take entry.2).all fun other => other.name != entry.1.name := by
    refine List.filter_congr fun entry member => ?_
    obtain ⟨-, bound, -⟩ := List.mem_zipIdx member
    rw [List.take_append_of_le_length (by omega)]
  have new : (declarations.all fun other => other.name != declaration.name) =
      (earliest? declarations declaration.name).isNone := by
    rw [Bool.eq_iff_iff, List.all_eq_true, Option.isNone_iff_eq_none, earliest?_eq_none_iff]
    exact forall₂_congr fun other _ => bne_iff_ne
  rw [withoutRepeats, List.zipIdx_append, List.filter_append, List.map_append, old,
    withoutRepeats, Nat.zero_add, List.zipIdx_singleton, List.filter_cons, List.filter_nil,
    List.take_left, new]
  split <;> rfl

/-- **Repeats do not matter to the search**: it finds the earliest declaration of a name. -/
theorem earliest?_withoutRepeats (declarations : List Declaration) (name : String) :
    earliest? (withoutRepeats declarations) name = earliest? declarations name := by
  induction declarations using List.reverseRecOn with
  | nil => rfl
  | append_singleton declarations declaration ih =>
      have append (front back : List Declaration) :
          earliest? (front ++ back) name = (earliest? front name).or (earliest? back name) :=
        List.find?_append
      rw [withoutRepeats_concat, append, append, ih]
      cases known : earliest? declarations name with
      | some other => rfl
      | none =>
          by_cases same : declaration.name = name
          · rw [same, known]
            rfl
          · have other : earliest? [declaration] name = none :=
              earliest?_eq_none_iff.mpr (List.forall_mem_singleton.mpr same)
            split
            · rfl
            · exact other.symm

theorem nodup_names_withoutRepeats (declarations : List Declaration) :
    ((withoutRepeats declarations).map name).Nodup := by
  induction declarations using List.reverseRecOn with
  | nil => exact List.nodup_nil
  | append_singleton declarations declaration ih =>
      rw [withoutRepeats_concat]
      split
      · rename_i new
        -- The search in the shortened list finds nothing either.
        rw [Option.isNone_iff_eq_none, ← earliest?_withoutRepeats, earliest?_eq_none_iff] at new
        rw [List.map_append, List.map_singleton, List.nodup_append]
        refine ⟨ih, List.nodup_singleton _, fun known member other isNew => ?_⟩
        obtain ⟨earlier, kept, rfl⟩ := List.mem_map.mp member
        rw [List.mem_singleton.mp isNew]
        exact new earlier kept
      · rw [List.append_nil]
        exact ih

theorem withoutRepeats_of_nodup (distinct : (declarations.map name).Nodup) :
    withoutRepeats declarations = declarations := by
  induction declarations using List.reverseRecOn with
  | nil => rfl
  | append_singleton declarations declaration ih =>
      rw [List.map_append, List.map_singleton, List.nodup_append] at distinct
      have new : earliest? declarations declaration.name = none :=
        earliest?_eq_none_iff.mpr fun other member =>
          distinct.2.2 _ (List.mem_map_of_mem member) _ (List.mem_singleton_self _)
      rw [withoutRepeats_concat, new, ih distinct.1]
      rfl

/-! ## Merging -/

theorem merge_concat (declarations : List Declaration) (declaration : Declaration) :
    merge (declarations ++ [declaration]) = 
      (do record (← merge declarations) declaration) := by
  simp only [merge, List.foldlM_append, List.foldlM_cons, List.foldlM_nil, bind_pure]

/-- One more declaration is kept, is a repeat, or is the first that disagrees. -/
theorem record_withoutRepeats (consistent : Consistent declarations)
    (declaration : Declaration) :
    (Consistent (declarations ++ [declaration]) ∧
      record (withoutRepeats declarations) declaration =
        .ok (withoutRepeats (declarations ++ [declaration]))) ∨
    ∃ earlier, FirstConflict (declarations ++ [declaration]) earlier declaration ∧
      record (withoutRepeats declarations) declaration =
        .error (.declarationConflict earlier declaration) := by
  have found :
      (withoutRepeats declarations).find? (fun other => other.name == declaration.name) =
        earliest? declarations declaration.name :=
    earliest?_withoutRepeats declarations declaration.name
  rw [withoutRepeats_concat, record, found]
  cases known : earliest? declarations declaration.name with
  | none => exact .inl ⟨consistent.concat_new known, rfl⟩
  | some earlier =>
      by_cases agree : Agree earlier declaration
      · refine .inl ⟨consistent.concat_repeat known agree, ?_⟩
        exact (if_pos agree).trans (congrArg Except.ok (List.append_nil _).symm)
      · exact .inr ⟨earlier, ⟨⟨declarations, [], rfl, consistent, known⟩, agree⟩, if_neg agree⟩

/-- **What merging declarations gives**: the first declaration of each name if all agree, and
else the first conflict. -/
theorem merge_cases (declarations : List Declaration) :
    (Consistent declarations ∧ merge declarations = .ok (withoutRepeats declarations)) ∨
    ∃ earlier later, FirstConflict declarations earlier later ∧
      merge declarations = .error (.declarationConflict earlier later) := by
  induction declarations using List.reverseRecOn with
  | nil => exact .inl ⟨.nil, rfl⟩
  | append_singleton declarations declaration ih =>
      rw [merge_concat]
      rcases ih with ⟨consistent, merged⟩ | ⟨earlier, later, conflict, failed⟩
      · rw [merged]
        rcases record_withoutRepeats consistent declaration with kept | ⟨earlier, conflict⟩
        · exact .inl kept
        · exact .inr ⟨earlier, declaration, conflict⟩
      · rw [failed]
        exact .inr ⟨earlier, later, conflict.append [declaration], rfl⟩

/-- Declarations of distinct names are all kept. -/
theorem merge_of_nodup (distinct : (declarations.map name).Nodup) :
    merge declarations = .ok declarations := by
  rcases merge_cases declarations with ⟨_, merged⟩ | ⟨earlier, later, conflict, _⟩
  · rw [merged, withoutRepeats_of_nodup distinct]
  · refine absurd (fun a inA b inB same => ?_) conflict.not_consistent
    rw [List.inj_on_of_nodup_map distinct inA inB same]
    exact ⟨rfl, rfl⟩

/-! ## Scanning -/

/-- No name is found twice in the texts of a program. -/
theorem scan_nodup {vertex fragment : String} {found : List Declaration}
    (scanned : scan vertex fragment = .ok found) : (found.map name).Nodup := by
  rw [scan] at scanned
  rcases merge_cases (inProgram vertex fragment) with ⟨_, merged⟩ | ⟨_, _, _, failed⟩
  · rw [merged] at scanned
    rw [← Except.ok.inj scanned]
    exact nodup_names_withoutRepeats _
  · cases failed.symm.trans scanned

/-- The declarations of a program can only fail to be found because two of them disagree. -/
theorem conflict_of_scan {vertex fragment : String} {error : Error}
    (failed : scan vertex fragment = .error error) :
    ∃ first second, error = .declarationConflict first second := by
  rw [scan] at failed
  rcases merge_cases (inProgram vertex fragment) with ⟨_, merged⟩ | ⟨first, second, _, refused⟩
  · cases merged.symm.trans failed
  · exact ⟨first, second, Except.error.inj (failed.symm.trans refused)⟩

/-- The message about a conflict describes both declarations by qualifier and type. -/
theorem message_conflict (first second : Declaration) :
    (Error.declarationConflict first second).message =
      "Declaration `" ++ second.name ++ "` appears as both `" ++
        first.qualifier.word ++ " " ++ first.type ++ "` and `" ++
        second.qualifier.word ++ " " ++ second.type ++ "`" := by
  change
    s!"Declaration `{second.name}` appears as both `{first.summary}` and `{second.summary}`" = _
  simp only [summary, toString, String.append_assoc]

/-- **When a program can be scanned, and what is reported otherwise.**  The declarations of a
program are the attributes and uniforms of its vertex text, in order and with repeats, followed
by the uniforms of its fragment text.  The scan succeeds if and only if any two of them that
have the same name have the same qualifier and type, and then it gives the first declaration of
each name.  Otherwise it reports the first one that disagrees with an earlier one of its name,
together with the earliest one of that name, and both are described in this order. -/
theorem scan_outcome (vertex fragment : String) :
    inProgram vertex fragment = inText [.attr, .uniform] vertex ++ inText [.uniform] fragment ∧
    ((∃ found, scan vertex fragment = .ok found) ↔ Consistent (inProgram vertex fragment)) ∧
    (∀ found, scan vertex fragment = .ok found →
      found = withoutRepeats (inProgram vertex fragment)) ∧
    ∀ error, scan vertex fragment = .error error →
      ∃ earlier later, FirstConflict (inProgram vertex fragment) earlier later ∧
        error = .declarationConflict earlier later ∧
        error.message = "Declaration `" ++ later.name ++ "` appears as both `" ++
          earlier.qualifier.word ++ " " ++ earlier.type ++ "` and `" ++
          later.qualifier.word ++ " " ++ later.type ++ "`" := by
  refine ⟨rfl, ?_⟩
  rw [scan]
  rcases merge_cases (inProgram vertex fragment) with
    ⟨consistent, merged⟩ | ⟨earlier, later, conflict, failed⟩
  · rw [merged]
    refine ⟨iff_of_true ⟨_, rfl⟩ consistent, ?_, ?_⟩
    · intro found same
      exact (Except.ok.inj same).symm
    · intro _ impossible
      cases impossible
  · rw [failed]
    refine ⟨iff_of_false ?_ conflict.not_consistent, ?_, ?_⟩
    · rintro ⟨_, impossible⟩
      cases impossible
    · intro _ impossible
      cases impossible
    · intro error same
      obtain rfl := Except.error.inj same
      refine ⟨earlier, later, conflict, rfl, ?_⟩
      exact message_conflict earlier later

end Declaration
end ShaderLoom
