import ShaderLoom.Proofs.Introspection

/-!
# The variables that a source declares

A declaration is a text, but it tells everything about its variable: storage, type, name and the
length of an array.  So it makes sense to say that a source declares a variable, and for the
source of a draft these variables can be read off the terms of its outputs: an input is declared
if and only if something that the stage has to deliver starts from it.

## Main definitions

* `StageSource.DeclaresVariable` — the variables that a source declares

## Main results

* `Variable.eq_of_declaration` — a declaration tells its variable
* `Wire.Draft.declaresVariable_iff` — the inputs that the source of a draft declares
* `Wire.Draft.exists_declaresVariable_of_text_eq` — the text of a source tells its inputs
-/

namespace ShaderLoom

/-! ## Reading declarations -/

open Declaration (IsWord)

theorem DataType.word_injective : Function.Injective DataType.word := by
  intro first second same
  exact Option.some.inj
    ((ofWord?_word first).symm.trans ((congrArg ofWord? same).trans (ofWord?_word second)))

namespace Variable

/-- The length of an array is written in decimal digits. -/
theorem arrayLength_eq {u v : Variable} (same : u.arraySuffix = v.arraySuffix) :
    u.arrayLength = v.arrayLength := by
  have spelled (n : Nat) : s!"[{n}]".toList = '[' :: (Nat.toDigits 10 n ++ [']']) := by
    rw [← Nat.toList_repr]
    simp [toString]
  have letters := congrArg String.toList same
  unfold arraySuffix at letters
  cases lengthU : u.arrayLength with
  | none =>
      cases lengthV : v.arrayLength with
      | none => rfl
      | some n => simp [lengthU, lengthV] at letters
  | some m =>
      cases lengthV : v.arrayLength with
      | none => simp [lengthU, lengthV] at letters
      | some n =>
          simp only [lengthU, lengthV, spelled, List.cons.injEq, true_and,
            List.append_cancel_right_eq] at letters
          rw [Text.toDigits_inj letters]

/-- What follows a name is no part of it. -/
theorem exists_suffix (v : Variable) :
    ∃ c rest, v.arraySuffix.toList ++ [';'] = c :: rest ∧ Node.isSlotPart c = false := by
  rcases Declaration.arraySuffix_cases v with none | ⟨digits, _, written⟩
  · exact ⟨';', [], by rw [none]; rfl, rfl⟩
  · exact ⟨'[', digits ++ [']'] ++ [';'], by rw [written]; rfl, rfl⟩

section Declaration

variable {u v : Variable} {text : String} (declaredU : u.declaration? = some text)
  (declaredV : v.declaration? = some text)

include declaredU declaredV

theorem storage_eq_of_declaration : u.storage = v.storage := by
  have told {storage : Storage} (isGlobal : storage.isGlobal = true) :
      u.storage = storage ↔ v.storage = storage :=
    (Storage.declares_iff isGlobal declaredU).symm.trans
      (Storage.declares_iff isGlobal declaredV)
  cases stored : u.storage with
  | attr => exact ((told rfl).mp stored).symm
  | uniform => exact ((told rfl).mp stored).symm
  | varying => exact ((told rfl).mp stored).symm
  | temporary =>
      cases other : v.storage with
      | temporary => rfl
      | builtin =>
          rw [declaration?, other] at declaredV
          cases declaredV
      | attr | uniform | varying =>
          rw [(told rfl).mpr other] at stored
          cases stored
  | builtin =>
      rw [declaration?, stored] at declaredU
      cases declaredU

/-- **A declaration tells its variable**, as long as names are words. -/
theorem eq_of_declaration (spelledU : IsWord u.name.toList) (spelledV : IsWord v.name.toList) :
    u = v := by
  have stored := storage_eq_of_declaration declaredU declaredV
  have same := (toList_declaration declaredU).symm.trans (toList_declaration declaredV)
  rw [stored] at same
  obtain ⟨words, same⟩ := Text.append_inj_of_kind (Declaration.isWord_word u.type).parts
    (Declaration.isWord_word v.type).parts (by decide) (by decide)
    (List.append_cancel_left same)
  obtain ⟨c, rest, suffixU, endsU⟩ := u.exists_suffix
  obtain ⟨d, more, suffixV, endsV⟩ := v.exists_suffix
  rw [suffixU, suffixV] at same
  obtain ⟨names, same⟩ :=
    Text.append_inj_of_kind spelledU.parts spelledV.parts endsU endsV (List.cons.inj same).2
  rw [← suffixU, ← suffixV] at same
  have typed : u.type = v.type := DataType.word_injective (String.toList_inj.mp words)
  have named : u.name = v.name := String.toList_inj.mp names
  have long := arrayLength_eq (String.toList_inj.mp (List.append_cancel_right same))
  cases u
  cases v
  simp_all

end Declaration

end Variable

/-! ## Declared inputs -/

/-- A source declares a variable. -/
def StageSource.DeclaresVariable (source : StageSource) (v : Variable) : Prop :=
  IsWord v.name.toList ∧ ∃ text ∈ source.declarations, v.declaration? = some text

namespace Wire.Draft

variable {V : Vocabulary} {name : String} (draft : Draft V name)

/-- Outputs that have been written are no inputs and stand for themselves. -/
theorem resolve_output {root : Variable} (output : root ∈ draft.outputs) :
    draft.graph.resolve root = root ∧ ¬ Readable V.stage root := by
  obtain ⟨written, external⟩ := List.mem_filter.mp output
  exact ⟨draft.laws.resolve_of_storage (bne_iff_ne.mp external),
    (draft.sound.writes root written).2⟩

variable {compiler : Compiler} {source : StageSource}

/-- The source of a draft declares the variables of its scheduled nodes. -/
theorem declaresVariable_iff_used [draft.Spelled] {order : List NodeId}
    (done : compiler.compileNodes draft.graph.stage draft.graph.name
      (order.filterMap draft.graph.resolvedNode?) = .ok source) {v : Variable}
    (external : v.storage ≠ .builtin) :
    source.DeclaresVariable v ↔
      v ∈ Compiler.usedVariables (order.filterMap draft.graph.resolvedNode?) := by
  have declarations := Compiler.declarations_of_compileNodes done
  constructor
  · rintro ⟨spelled, text, member, declared⟩
    rw [declarations] at member
    obtain ⟨u, listed, same⟩ := List.mem_filterMap.mp member
    have spelledU := (draft.declarable_of_used (by decide) listed).2
    rw [← Variable.eq_of_declaration same declared spelledU spelled]
    exact (Compiler.mem_variablesOf.mp listed).1
  · intro used
    have listed :=
      Compiler.mem_variablesOf.mpr ⟨used, Compiler.mem_declaredStorages.mpr external⟩
    obtain ⟨text, declared⟩ := Variable.exists_declaration external
    refine ⟨(draft.declarable_of_used (by decide) listed).2, text, ?_, declared⟩
    rw [declarations]
    exact List.mem_filterMap.mpr ⟨v, listed, declared⟩

/-- **The source of a finished draft declares the inputs that its outputs start from.** -/
theorem declaresVariable_iff [draft.Spelled] (finished : draft.Finished)
    (compiled : compiler.compile draft.graph = .ok source) {v : Variable}
    (input : Readable V.stage v) :
    source.DeclaresVariable v ↔ ∃ root ∈ draft.graph.requiredRoots,
      (draft.term root).Uses v := by
  obtain ⟨order, scheduled, done⟩ := Compiler.exists_of_compile compiled
  have external : v.storage ≠ .builtin := by
    intro builtin
    simp [Readable, builtin] at input
  rw [draft.declaresVariable_iff_used done external, mem_usedVariables]
  constructor
  · rintro ⟨node, member, reads | writes⟩
    · exact draft.exists_root_of_reader scheduled member reads input
    · exact absurd input (draft.not_readable_of_writes member writes)
  · rintro ⟨root, required, uses⟩
    obtain ⟨settled, output⟩ :=
      draft.resolve_output (draft.requiredRoots_subset_outputs finished required)
    have differs : root ≠ v := by
      rintro rfl
      exact output input
    obtain ⟨node, member, reads⟩ :=
      draft.exists_reader_of_root scheduled required settled uses differs
    exact ⟨node, member, .inl reads⟩

/-- **The text of a source tells which inputs it declares**, apart from the lengths of
arrays. -/
theorem exists_declaresVariable_of_text_eq [draft.Spelled] {W : Vocabulary} {title : String}
    (other : Draft W title) [other.Spelled] (calm : Text.Calm name) (calm' : Text.Calm title)
    {registry registry' : Registry} {source' : StageSource}
    (compiled : Compiler.compile { registry } draft.graph = .ok source)
    (compiled' : Compiler.compile { registry := registry' } other.graph = .ok source')
    (same : source.text = source'.text) {v : Variable} {qualifier : Qualifier}
    (stored : v.storage = Declaration.storageOf qualifier)
    (declares : source.DeclaresVariable v) :
    ∃ w, source'.DeclaresVariable w ∧ w.storage = v.storage ∧ w.type = v.type ∧
      w.name = v.name := by
  have external : ∀ {w : Variable}, w.storage = Declaration.storageOf qualifier →
      w.storage ≠ .builtin := by
    intro w kept
    rw [kept]
    cases qualifier <;> decide
  obtain ⟨order, _, done⟩ := Compiler.exists_of_compile compiled
  obtain ⟨order', _, done'⟩ := Compiler.exists_of_compile compiled'
  -- Both stages are found by reading the one text.
  have found := Declaration.inText_of_declares (draft.declares_text calm done [qualifier])
  have found' := Declaration.inText_of_declares (other.declares_text calm' done' [qualifier])
  rw [same, found'] at found
  have used := (draft.declaresVariable_iff_used done (external stored)).mp declares
  have listed := Compiler.mem_variablesOf.mpr
    ⟨used, Compiler.mem_declaredStorages.mpr (external stored)⟩
  have entry : { qualifier, type := v.type.word, name := v.name } ∈ v.entries [qualifier] :=
    Declaration.mem_entries.mpr ⟨List.mem_singleton_self _, stored, rfl, rfl⟩
  have member := List.mem_flatMap.mpr ⟨v, listed, entry⟩
  rw [← found] at member
  obtain ⟨w, listed', entry'⟩ := List.mem_flatMap.mp member
  obtain ⟨_, stored', typed, named⟩ := Declaration.mem_entries.mp entry'
  refine ⟨w, ?_, stored'.trans stored.symm, (DataType.word_injective typed).symm, named.symm⟩
  exact (other.declaresVariable_iff_used done' (external stored')).mpr
    (Compiler.mem_variablesOf.mp listed').1

end Wire.Draft
end ShaderLoom
