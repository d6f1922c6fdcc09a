import ShaderLoom.Proofs.Introspection
import ShaderLoom.Proofs.StreamBits

/-!
# The vertex stage reads the effective streams

The effective streams of a render state are found by a computation with bits: positions and
colors are kept if they are there, normals are needed if there is a light, and each active
texture needs its set of coordinates.  The attributes that the vertex source declares come from
the wiring instead: they are the inputs that the clip position, the size of points and the
varyings start from, once both stages have been built and everything that nothing needs has been
left out.  For geometries with positions, both give the same.

The first side is known bit by bit (`RenderState.bit_effectiveStreams`).  For the second side,
the terms of the outputs are known; apart from attributes named after streams they start from
uniforms, bones and morph targets only (`Vertex.Auxiliary`).

## Main definitions

* `Vertex.ReadsStream` — the streams that the vertex stage reads, as attributes
* `StageSource.DeclaresAttribute` — the attributes that a source declares

## Main results

* `RenderState.Wired.reads_of_used`, `RenderState.Wired.used_of_reads` — the attributes that
  scheduled nodes use
* `RenderState.declaresAttribute_iff_effectiveStreams` — the vertex stage reads the effective
  streams
-/

namespace ShaderLoom

/-! ## What outputs start from -/

namespace Vertex

/-- Uniforms, the attributes of bones, and morph targets. -/
def Auxiliary (v : Variable) : Prop :=
  v.storage = .uniform ∨ v.name ∈ ["Weights", "Bones"] ∨ '_' ∈ v.name.toList

/-- Terms that start from nothing that is a stream. -/
def IsAside (t : Term) : Prop :=
  ∀ v, t.Uses v → Auxiliary v

/-- Terms that start from a quantity, and from no other stream. -/
def StartsFrom (quantity : Quantity) (t : Term) : Prop :=
  t.Uses quantity.raw ∧ ∀ v, t.Uses v → v = quantity.raw ∨ Auxiliary v

theorem isAside_uniform (type : DataType) (name : String) : IsAside (.uniform type name) := by
  intro v uses
  rw [Term.uses_input.mp uses]
  exact .inl rfl

theorem isAside_target (stream : String) (index : Nat) (type : DataType) :
    IsAside (.attr type s!"{stream}_{index}") := by
  intro v uses
  rw [Term.uses_input.mp uses]
  refine .inr (.inr ?_)
  have spelled : s!"{stream}_{index}".toList =
      stream.toList ++ '_' :: (toString index).toList := by
    simp [String.toList_append, toString]
  rw [spelled]
  exact List.mem_append_right _ List.mem_cons_self

theorem isAside_weightsTerm (stream : String) : IsAside (weightsTerm stream) := by
  rw [weightsTerm]
  split
  · intro v uses
    obtain ⟨argument, member, uses⟩ := Term.uses_apply.mp uses
    rw [List.mem_singleton.mp member] at uses
    exact isAside_uniform _ _ v uses
  · exact isAside_uniform _ _

theorem isAside_boneTerm (state : RenderState) : IsAside (boneTerm state) := by
  intro v uses
  have leaves : v = { name := "Weights", type := .vec4, storage := .attr } ∨
      v = { name := "Bones", type := .vec4, storage := .attr } ∨ v = palette state := by
    simpa [boneTerm, Term.attr] using uses
  rcases leaves with rfl | rfl | rfl
  · exact .inr (.inl (by decide))
  · exact .inr (.inl (by decide))
  · exact .inl rfl

theorem startsFrom_raw (quantity : Quantity) : StartsFrom quantity (.input quantity.raw) :=
  ⟨.input, fun _ uses => .inl (Term.uses_input.mp uses)⟩

/-- An operation starts from a quantity if one of its arguments does and the others are
aside. -/
theorem startsFrom_apply {quantity : Quantity} {arguments : List (String × Term)}
    (some : ∃ argument ∈ arguments, StartsFrom quantity argument.2)
    (all : ∀ argument ∈ arguments, StartsFrom quantity argument.2 ∨ IsAside argument.2)
    (operation : Operation) (slot : String) (type : DataType) :
    StartsFrom quantity (.apply operation arguments slot type) := by
  obtain ⟨argument, member, starts⟩ := some
  refine ⟨.argument member starts.1, fun v uses => ?_⟩
  obtain ⟨other, among, uses⟩ := Term.uses_apply.mp uses
  rcases all other among with starts | aside
  · exact starts.2 v uses
  · exact .inr (aside v uses)

theorem startsFrom_second {quantity : Quantity} {first second : Term} (aside : IsAside first)
    (starts : StartsFrom quantity second) (operation : Operation) (a b slot : String)
    (type : DataType) :
    StartsFrom quantity (.apply operation [(a, first), (b, second)] slot type) := by
  refine startsFrom_apply ⟨_, List.mem_cons_of_mem _ List.mem_cons_self, starts⟩ ?_
    operation slot type
  exact List.forall_mem_cons.mpr ⟨.inr aside, List.forall_mem_singleton.mpr (.inl starts)⟩

theorem startsFrom_single {quantity : Quantity} {t : Term} (starts : StartsFrom quantity t)
    (operation : Operation) (name slot : String) (type : DataType) :
    StartsFrom quantity (.apply operation [(name, t)] slot type) :=
  startsFrom_apply ⟨_, List.mem_cons_self, starts⟩ (List.forall_mem_singleton.mpr (.inl starts))
    operation slot type

variable (state : RenderState)

theorem startsFrom_morphTerm (quantity : Quantity) :
    StartsFrom quantity (morphTerm state quantity) := by
  rw [morphTerm]
  split
  · exact startsFrom_raw quantity
  · refine startsFrom_apply ⟨_, List.mem_cons_self, startsFrom_raw quantity⟩ ?_ _ _ _
    refine List.forall_mem_cons.mpr ⟨.inl (startsFrom_raw quantity),
      List.forall_mem_cons.mpr ⟨.inr (isAside_weightsTerm _), ?_⟩⟩
    intro target member
    obtain ⟨index, _, rfl⟩ := List.mem_map.mp member
    exact .inr (isAside_target _ index _)

theorem startsFrom_skinTerm (quantity : Quantity) :
    StartsFrom quantity (skinTerm state quantity) := by
  rw [skinTerm]
  split
  · exact startsFrom_second (isAside_boneTerm state)
      (startsFrom_morphTerm state quantity) _ _ _ _ _
  · exact startsFrom_morphTerm state quantity

theorem startsFrom_handedTerm {direction : Term} (starts : StartsFrom .tangent direction) :
    StartsFrom .tangent (handedTerm direction) := by
  have unit : StartsFrom .tangent (.normalized direction .vec3) :=
    startsFrom_single starts _ _ _ _
  refine startsFrom_apply ⟨_, List.mem_cons_self, unit⟩ ?_ _ _ _
  exact List.forall_mem_cons.mpr ⟨.inl unit,
    List.forall_mem_singleton.mpr (.inl (startsFrom_raw .tangent))⟩

theorem startsFrom_localTerm (quantity : Quantity) :
    StartsFrom quantity (localTerm state quantity) := by
  have skinned := startsFrom_skinTerm state quantity
  cases quantity with
  | vertex => exact skinned
  | normal =>
      rw [localTerm]
      split
      · exact startsFrom_single skinned _ _ _ _
      · exact startsFrom_raw .normal
  | tangent =>
      rw [localTerm]
      split
      · exact startsFrom_handedTerm skinned
      · exact startsFrom_raw .tangent

/-- **A quantity in some space starts from its attribute**, and from no other stream. -/
theorem startsFrom_spaceTerm (space : Space) (quantity : Quantity) :
    StartsFrom quantity (spaceTerm state space quantity) := by
  have moved : ∀ {t : Term}, StartsFrom quantity t →
      StartsFrom quantity (directionTerm space t) :=
    fun starts => startsFrom_second (isAside_uniform _ _) starts _ _ _ _ _
  have placed := startsFrom_localTerm state quantity
  cases quantity with
  | vertex => exact startsFrom_second (isAside_uniform _ _) placed _ _ _ _ _
  | normal => exact startsFrom_single (moved placed) _ _ _ _
  | tangent => exact startsFrom_handedTerm (moved placed)

/-- The clip position starts from the position. -/
theorem startsFrom_positionTerm : StartsFrom .vertex (positionTerm state) := by
  rw [positionTerm]
  split
  · refine startsFrom_apply ⟨_, List.mem_cons_self, startsFrom_raw .vertex⟩ ?_ _ _ _
    exact List.forall_mem_cons.mpr ⟨.inl (startsFrom_raw .vertex), List.forall_mem_cons.mpr
      ⟨.inr (isAside_uniform _ _), List.forall_mem_singleton.mpr (.inr (isAside_uniform _ _))⟩⟩
  · have placed := startsFrom_spaceTerm state .view .vertex
    exact startsFrom_second (isAside_uniform _ _) placed _ _ _ _ _

/-- The size of points starts from no stream. -/
theorem isAside_pointSizeTerm : IsAside (pointSizeTerm state) := by
  intro v uses
  obtain ⟨argument, member, uses⟩ := Term.uses_apply.mp uses
  rw [List.mem_singleton.mp member] at uses
  dsimp only at uses
  split at uses
  · exact isAside_uniform _ _ v uses
  · exact absurd uses Term.not_uses_literal

/-- The streams that the vertex stage reads, as attributes: positions always, normals for
lights, colors if there are any, and the coordinates of active textures.  Tangents are never
read. -/
inductive ReadsStream : Variable → Prop
  | vertex : ReadsStream Quantity.vertex.raw
  | normal (lit : state.activeLights ≠ []) : ReadsStream Quantity.normal.raw
  | color (colored : state.streams.contains Streams.color = true) :
    ReadsStream { name := "Color", type := .vec4, storage := .attr }
  | texcoord {texture : Texture} (active : texture ∈ state.activeTextures) :
    ReadsStream
      { name := s!"TexCoord{texture.texcoord.toNat}", type := .vec2, storage := .attr }

variable {state}

/-- What varyings start from. -/
theorem uses_of_carried {v w : Variable} (demands : Fragment.Demands state w) {t : Term}
    (carried : varyingTerm? state w.name = some t) (uses : t.Uses v) :
    ReadsStream state v ∨ Auxiliary v := by
  -- A copy starts from what is copied.
  have copied : ∀ {space : Space} {quantity : Quantity} {type : DataType},
      ReadsStream state quantity.raw →
      (copyTerm (spaceTerm state space quantity) type).Uses v →
        ReadsStream state v ∨ Auxiliary v := by
    intro space quantity type reads uses
    have starts :=
      startsFrom_single (startsFrom_spaceTerm state space quantity) .assign "in" "out" type
    rcases starts.2 v uses with rfl | aside
    · exact .inl reads
    · exact .inr aside
  cases demands with
  | vertexColor colored =>
      cases carried
      have leaves : v = { name := "uArrayColorEnabled", type := .float, storage := .uniform } ∨
          v = { name := "Color", type := .vec4, storage := .attr } := by
        simpa [vertexColorTerm, Term.attr, Term.uniform] using uses
      rcases leaves with rfl | rfl
      · exact .inr (.inl rfl)
      · exact .inl (.color colored)
  | @texcoord texture active =>
      rw [varyingTerm?_of_texcoordSet? (texcoordSet?_eq texture.texcoord)] at carried
      cases carried
      obtain ⟨argument, member, uses⟩ := Term.uses_apply.mp uses
      rw [List.mem_singleton.mp member] at uses
      rw [Term.uses_input.mp uses]
      exact .inl (.texcoord active)
  | viewNormal lit =>
      cases carried
      exact copied (.normal lit) uses
  | viewVertex =>
      cases carried
      exact copied .vertex uses
  | modelVertex =>
      cases carried
      exact copied .vertex uses

end Vertex

namespace RenderState
namespace Wired

open Wire Vertex

variable {state : RenderState} {name : String} (wired : state.Wired name) {v : Variable}

/-- Outputs start from streams that are read, and from nothing else that is a stream. -/
theorem uses_of_output {root : Variable} (output : root ∈ wired.vertex.outputs)
    (uses : (wired.vertex.term root).Uses v) : ReadsStream state v ∨ Auxiliary v := by
  have complete := wired.vertexComplete
  rw [complete.outputs] at output
  rcases List.mem_append.mp output with builtin | varying
  · rcases List.mem_cons.mp builtin with rfl | clip
    · rw [complete.size.2] at uses
      exact .inr (isAside_pointSizeTerm state v uses)
    · rw [List.mem_singleton.mp clip, complete.position.2] at uses
      rcases (startsFrom_positionTerm state).2 v uses with rfl | aside
      · exact .inl .vertex
      · exact .inr aside
  · obtain ⟨t, carried, holds⟩ := (complete.varyings root varying).2
    rw [holds.2] at uses
    exact uses_of_carried (Fragment.demands_of_mem_varyings wired.fragment varying) carried uses

/-- Every stream that is read is needed by some output. -/
theorem exists_root_of_reads (reads : ReadsStream state v) :
    ∃ root ∈ wired.vertex.graph.requiredRoots, root.storage ≠ .attr ∧
      wired.vertex.graph.resolve root = root ∧ (wired.vertex.term root).Uses v := by
  have complete := wired.vertexComplete
  have settled : ∀ {root : Variable}, root.storage ≠ .temporary →
      wired.vertex.graph.resolve root = root :=
    fun external => wired.vertex.laws.resolve_of_storage external
  -- A varying that the fragment stage needs carries its term to a root.
  have carried : ∀ {w : Variable} {t : Term}, Fragment.Demands state w →
      varyingTerm? state w.name = some t → t.Uses v →
        ∃ root ∈ wired.vertex.graph.requiredRoots, root.storage ≠ .attr ∧
          wired.vertex.graph.resolve root = root ∧ (wired.vertex.term root).Uses v := by
    intro w t demands named uses
    have varies : w.storage = .varying := congrArg Variable.storage demands.interface.eq_varying
    have external : w.storage ≠ .temporary := by
      rw [varies]
      decide
    obtain ⟨root, t', carries, holds⟩ :=
      complete.varyings w (wired.mem_varyings_of_demands demands)
    rw [named] at carries
    cases carries
    refine ⟨w, wired.vertex.mem_requiredRoots external (.inr root), ?_, settled external, ?_⟩
    · rw [varies]
      decide
    · rw [holds.2]
      exact uses
  cases reads with
  | vertex =>
      refine ⟨clipPosition, wired.clipPosition_required, by decide, settled (by decide), ?_⟩
      rw [complete.position.2]
      exact (startsFrom_positionTerm state).1
  | normal lit =>
      refine carried (.viewNormal lit) rfl ?_
      exact (startsFrom_single (startsFrom_spaceTerm state .view .normal) _ _ _ _).1
  | color colored =>
      exact carried (.vertexColor colored) rfl
        (.argument (List.mem_cons_of_mem _ List.mem_cons_self) .input)
  | @texcoord texture active =>
      exact carried (.texcoord active)
        (varyingTerm?_of_texcoordSet? (texcoordSet?_eq texture.texcoord))
        (.argument List.mem_cons_self .input)

/-- **The attributes that scheduled nodes use** are streams that the stage reads, and the
attributes of bones and morph targets. -/
theorem reads_of_used {order : List NodeId}
    (scheduled : wired.vertex.graph.schedule = .ok order) (attr : v.storage = .attr)
    (used : v ∈ Compiler.usedVariables (order.filterMap wired.vertex.graph.resolvedNode?)) :
    ReadsStream state v ∨ Auxiliary v := by
  have input : Readable .vertex v := .inl attr
  obtain ⟨node, member, reads | writes⟩ := mem_usedVariables.mp used
  · obtain ⟨root, required, uses⟩ :=
      wired.vertex.exists_root_of_reader scheduled member reads input
    exact wired.uses_of_output
      (wired.vertex.requiredRoots_subset_outputs wired.vertexFinished required) uses
  · exact absurd input (wired.vertex.not_readable_of_writes member writes)

/-- Scheduled nodes use all streams that the stage reads. -/
theorem used_of_reads {order : List NodeId}
    (scheduled : wired.vertex.graph.schedule = .ok order) (reads : ReadsStream state v) :
    v ∈ Compiler.usedVariables (order.filterMap wired.vertex.graph.resolvedNode?) := by
  have attr : v.storage = .attr := by cases reads <;> rfl
  obtain ⟨root, required, other, settled, uses⟩ := wired.exists_root_of_reads reads
  have differs : root ≠ v := by
    rintro rfl
    exact other attr
  obtain ⟨node, member, reads⟩ :=
    wired.vertex.exists_reader_of_root scheduled required settled uses differs
  exact mem_usedVariables.mpr ⟨node, member, .inl reads⟩

end Wired
end RenderState

/-! ## Attributes of a source -/

/-- Whether a source declares an attribute of a name. -/
def StageSource.DeclaresAttribute (source : StageSource) (name : String) : Prop :=
  ∃ v : Variable, v.storage = .attr ∧ v.name = name ∧
    ∃ text ∈ source.declarations, v.declaration? = some text

/-- A declaration tells the name of its attribute. -/
theorem Variable.name_eq_of_declaration {u v : Variable}
    (spelledU : Declaration.IsWord u.name.toList) (spelledV : Declaration.IsWord v.name.toList)
    {text : String} (declaredU : u.declaration? = some text)
    (declaredV : v.declaration? = some text) (attr : v.storage = .attr) :
    u.storage = .attr ∧ u.name = v.name := by
  have stored : u.storage = .attr := (Storage.declares_iff rfl declaredU).mp
    ((Storage.declares_iff rfl declaredV).mpr attr)
  have read : ∀ {w : Variable}, Declaration.IsWord w.name.toList → w.declaration? = some text →
      Declaration.inText [.attr] text = w.entries [.attr] := by
    intro w spelled declared
    have announced : Declaration.Announces [.attr] text.toList (w.entries [.attr]) :=
      Declaration.announces_declaration spelled declared 0
    exact Declaration.inText_of_declares announced.declares
  have same := (read spelledU declaredU).symm.trans (read spelledV declaredV)
  rw [Variable.entries, Variable.entries, stored, attr] at same
  injection same with same
  injection same with _ _ named
  exact ⟨stored, named⟩

namespace Vertex

/-- Names of attributes that are neither for bones nor for morph targets. -/
structure IsStreamName (name : String) : Prop where
  spelled : Declaration.IsWord name.toList
  plain : '_' ∉ name.toList
  other : name ∉ ["Weights", "Bones"]

instance (name : String) : Decidable (IsStreamName name) :=
  decidable_of_iff ((name.toList ≠ [] ∧ name.toList.all Node.isSlotPart = true) ∧
      '_' ∉ name.toList ∧ name ∉ ["Weights", "Bones"])
    ⟨fun all => ⟨⟨all.1.1, List.all_eq_true.mp all.1.2⟩, all.2.1, all.2.2⟩,
      fun all => ⟨⟨all.spelled.1, List.all_eq_true.mpr all.spelled.2⟩, all.plain, all.other⟩⟩

theorem toList_texcoord (n : Nat) :
    s!"TexCoord{n}".toList = "TexCoord".toList ++ Nat.toDigits 10 n := by
  rw [← Nat.toList_repr]
  exact String.toList_append

theorem opening_texcoord (n : Nat) : Wire.opening s!"TexCoord{n}" = ['T', 'e'] := by
  rw [Wire.opening, toList_texcoord]
  rfl

theorem texcoord_injective {m n : Nat} (same : s!"TexCoord{m}" = s!"TexCoord{n}") : m = n := by
  have digits := congrArg String.toList same
  rw [toList_texcoord, toList_texcoord] at digits
  exact Text.toDigits_inj (List.append_cancel_left digits)

theorem isStreamName_texcoord (n : Nat) : IsStreamName s!"TexCoord{n}" where
  spelled := by
    have letters : "TexCoord".toList.all Node.isSlotPart = true := rfl
    have parts := Text.all_isSlotPart_append letters (Text.all_isSlotPart_toString n)
    refine ⟨?_, List.all_eq_true.mp parts⟩
    rw [toList_texcoord]
    exact List.cons_ne_nil _ _
  plain := by
    rw [toList_texcoord]
    intro member
    rcases List.mem_append.mp member with letter | digit
    · revert letter
      decide
    · exact absurd (Text.isDigit_of_mem_toDigits digit) (by decide)
  other := by
    intro member
    have others : ∀ name ∈ ["Weights", "Bones"], Wire.opening name ≠ ['T', 'e'] := by decide
    exact others _ member (opening_texcoord n)

end Vertex

namespace RenderState

open Wire Vertex Compiler

/-- **The vertex source declares the streams that the stage reads.** -/
theorem Wired.declaresAttribute_iff {state : RenderState} {name : String}
    (wired : state.Wired name) {compiler : Compiler} {source : StageSource}
    (compiled : compiler.compile wired.vertex.graph = .ok source) {stream : String}
    (named : IsStreamName stream) :
    source.DeclaresAttribute stream ↔ ∃ v, ReadsStream state v ∧ v.name = stream := by
  obtain ⟨order, scheduled, done⟩ := exists_of_compile compiled
  have declarations := declarations_of_compileNodes done
  constructor
  · rintro ⟨v, attr, rfl, text, member, declared⟩
    rw [declarations] at member
    obtain ⟨u, listed, same⟩ := List.mem_filterMap.mp member
    have spelled := (wired.vertex.declarable_of_used (by decide) listed).2
    obtain ⟨stored, sameName⟩ :=
      Variable.name_eq_of_declaration spelled named.spelled same declared attr
    refine ⟨u, ?_, sameName⟩
    rcases wired.reads_of_used scheduled stored (mem_variablesOf.mp listed).1 with reads | aside
    · exact reads
    · rcases aside with uniform | bones | target
      · rw [stored] at uniform
        cases uniform
      · exact absurd (sameName ▸ bones) named.other
      · exact absurd (sameName ▸ target) named.plain
  · rintro ⟨v, reads, rfl⟩
    have attr : v.storage = .attr := by cases reads <;> rfl
    have external : v.storage ≠ .builtin := by
      rw [attr]
      decide
    obtain ⟨text, declared⟩ := Variable.exists_declaration external
    refine ⟨v, attr, rfl, text, ?_, declared⟩
    rw [declarations]
    exact List.mem_filterMap.mpr ⟨v, mem_variablesOf.mpr
      ⟨wired.used_of_reads scheduled reads, mem_declaredStorages.mpr external⟩, declared⟩

/-! ## Both sides -/

/-- The attributes that hold the named streams. -/
def streamAttributes : List (String × Streams) :=
  [("Vertex", Streams.position), ("Normal", Streams.normal), ("Tangent", Streams.tangent),
    ("Color", Streams.color), ("TexCoord0", Streams.texcoord0),
    ("TexCoord1", Streams.texcoord1), ("TexCoord2", Streams.texcoord2),
    ("TexCoord3", Streams.texcoord3)]

/-- The name of the attribute that holds the stream of a bit. -/
def attributeAt? (k : Nat) : Option String :=
  streamAttributes[k]?.map Prod.fst

theorem attributeAt?_texcoord {n : Nat} (small : n ≤ 3) :
    attributeAt? (n + 4) = some s!"TexCoord{n}" := by
  have listed : ∀ n < 4, attributeAt? (n + 4) = some s!"TexCoord{n}" := by decide
  exact listed n (Nat.lt_succ_of_le small)

theorem attributeAt?_injective {j k : Nat} {stream : String}
    (first : attributeAt? j = some stream) (second : attributeAt? k = some stream) : j = k := by
  have distinct : (streamAttributes.map Prod.fst).Nodup := by decide
  rw [attributeAt?, ← List.getElem?_map] at first second
  obtain ⟨boundJ, atJ⟩ := List.getElem?_eq_some_iff.mp first
  obtain ⟨boundK, atK⟩ := List.getElem?_eq_some_iff.mp second
  exact distinct.getElem_inj_iff.mp (atJ.trans atK.symm)

section Both

variable {state : RenderState}

/-- What is read is effective. -/
theorem exists_bit_of_reads (present : state.streams.contains Streams.position = true)
    {v : Variable} (reads : ReadsStream state v) :
    ∃ k, state.effectiveStreams.bit k = true ∧ attributeAt? k = some v.name := by
  cases reads with
  | vertex =>
      have kept : state.streams.bit 0 = true := (Streams.contains_flag rfl).mp present
      exact ⟨0, (bit_effectiveStreams 0).mpr (.inl ⟨kept, .inl rfl⟩), rfl⟩
  | normal lit => exact ⟨1, (bit_effectiveStreams 1).mpr (.inr (.inl ⟨lit, rfl⟩)), rfl⟩
  | color colored =>
      have kept : state.streams.bit 3 = true := (Streams.contains_flag rfl).mp colored
      exact ⟨3, (bit_effectiveStreams 3).mpr (.inl ⟨kept, .inr rfl⟩), rfl⟩
  | @texcoord texture active =>
      exact ⟨_, (bit_effectiveStreams _).mpr (.inr (.inr ⟨texture, active, rfl⟩)),
        attributeAt?_texcoord (texcoord_le_of_active active)⟩

/-- What is effective is read. -/
theorem exists_reads_of_bit {k : Nat} (effective : state.effectiveStreams.bit k = true) :
    ∃ v, ReadsStream state v ∧ attributeAt? k = some v.name := by
  rcases (bit_effectiveStreams k).mp effective with
    ⟨kept, rfl | rfl⟩ | ⟨lit, rfl⟩ | ⟨texture, active, rfl⟩
  · exact ⟨_, .vertex, rfl⟩
  · exact ⟨_, .color ((Streams.contains_flag rfl).mpr kept), rfl⟩
  · exact ⟨_, .normal lit, rfl⟩
  · exact ⟨_, .texcoord active, attributeAt?_texcoord (texcoord_le_of_active active)⟩

theorem reads_iff_bit (present : state.streams.contains Streams.position = true) {k : Nat}
    {stream : String} (named : attributeAt? k = some stream) :
    (∃ v, ReadsStream state v ∧ v.name = stream) ↔ state.effectiveStreams.bit k = true := by
  constructor
  · rintro ⟨v, reads, rfl⟩
    obtain ⟨j, effective, same⟩ := exists_bit_of_reads present reads
    rw [attributeAt?_injective named same]
    exact effective
  · intro effective
    obtain ⟨v, reads, same⟩ := exists_reads_of_bit effective
    exact ⟨v, reads, Option.some.inj (same.symm.trans named)⟩

/-- Texture coordinates are not read beyond the fourth set. -/
theorem not_readsStream_texcoord {n : Nat} (large : 3 < n) {v : Variable}
    (reads : ReadsStream state v) : v.name ≠ s!"TexCoord{n}" := by
  have opens : Wire.opening s!"TexCoord{n}" = ['T', 'e'] := opening_texcoord n
  intro same
  rw [← same] at opens
  cases reads with
  | vertex => revert opens; decide
  | normal => revert opens; decide
  | color => revert opens; decide
  | @texcoord texture active =>
      have bound := texcoord_le_of_active active
      rw [texcoord_injective same] at bound
      omega

/-- **The vertex stage reads the effective streams.**  For every valid render state of a
geometry with positions, the shaders can be generated with the built-in snippets; and with any
snippets, if they are generated, the vertex source declares the attribute of a named stream if
and only if the stream is effective.  Effective streams all have names, and texture coordinates
are never declared beyond the fourth set. -/
theorem declaresAttribute_iff_effectiveStreams (valid : state.validate = .ok ())
    (present : state.streams.contains Streams.position = true) (name : String) :
    (∀ registry settings, ∃ sources,
      Compiler.generate { registry, settings } state name = .ok sources) ∧
    (∀ compiler sources, Compiler.generate compiler state name = .ok sources →
      (∀ entry ∈ streamAttributes, sources.vertex.DeclaresAttribute entry.1 ↔
        state.effectiveStreams.contains entry.2 = true) ∧
      ∀ n, 3 < n → ¬ sources.vertex.DeclaresAttribute s!"TexCoord{n}") ∧
    state.effectiveStreams.unnamedBits = 0 := by
  obtain ⟨wired⟩ := state.nonempty_wired valid name
  refine ⟨fun registry settings => exists_generate rfl valid name, ?_,
    unnamedBits_effectiveStreams⟩
  intro compiler sources generated
  rw [wired.generate_eq] at generated
  have compiled := (compile_of_compileStages generated).1
  constructor
  · intro entry listed
    obtain ⟨k, bound, found⟩ := List.mem_iff_getElem.mp listed
    have named : attributeAt? k = some entry.1 := by
      rw [attributeAt?, List.getElem?_eq_getElem bound, found]
      rfl
    have single : ∀ (k : Nat) (bound : k < streamAttributes.length),
        streamAttributes[k].2.bits.toNat = 1 <<< k := by decide
    have streamName : ∀ entry ∈ streamAttributes, IsStreamName entry.1 := by decide
    rw [wired.declaresAttribute_iff compiled (streamName entry listed),
      reads_iff_bit present named, ← found, Streams.contains_flag (single k bound)]
  · intro n large declares
    obtain ⟨v, reads, same⟩ :=
      (wired.declaresAttribute_iff compiled (isStreamName_texcoord n)).mp declares
    exact not_readsStream_texcoord large reads same

end Both

/-- A render state whose geometry has all streams, and bits that mean nothing. -/
def overfull : RenderState :=
  { lavish with streams := ⟨0xF00000FF⟩ }

/-- Of eight streams, four are effective: tangents are there and are not read, and of the
texture coordinates only the third set is. -/
theorem declaresAttribute_iff_effectiveStreams_overfull : overfull.validate = .ok () ∧
    overfull.streams.contains Streams.position = true ∧
    overfull.effectiveStreams.text = "POSITION | NORMAL | COLOR | TEXCOORD2" ∧
    ∃ sources, Compiler.generate {} overfull "overfull" = .ok sources ∧
      sources.vertex.DeclaresAttribute "Normal" ∧ ¬ sources.vertex.DeclaresAttribute "Tangent" ∧
      sources.vertex.DeclaresAttribute "TexCoord2" ∧
      ¬ sources.vertex.DeclaresAttribute "TexCoord3" ∧
      ¬ sources.vertex.DeclaresAttribute "TexCoord4" := by
  have valid : overfull.validate = .ok () := rfl
  have present : overfull.streams.contains Streams.position = true := by decide
  obtain ⟨generates, declares, _⟩ :=
    declaresAttribute_iff_effectiveStreams valid present "overfull"
  obtain ⟨sources, generated⟩ := generates {} {}
  obtain ⟨agree, bounded⟩ := declares _ _ generated
  refine ⟨valid, present, by decide +kernel, sources, generated, ?_, ?_, ?_, ?_, ?_⟩
  · exact (agree ("Normal", Streams.normal) (by decide)).mpr (by decide)
  · exact fun declared =>
      absurd ((agree ("Tangent", Streams.tangent) (by decide)).mp declared) (by decide)
  · exact (agree ("TexCoord2", Streams.texcoord2) (by decide)).mpr (by decide)
  · exact fun declared =>
      absurd ((agree ("TexCoord3", Streams.texcoord3) (by decide)).mp declared) (by decide)
  · exact bounded 4 (by decide)

end RenderState
end ShaderLoom
