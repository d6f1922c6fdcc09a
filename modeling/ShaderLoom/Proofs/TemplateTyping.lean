import ShaderLoom.Template.Basic

/-!
# Shapes of template values

Filling in a template can fail: a name may have no value, a loop may run over something that has
no items, a text may be no number.  Whether this can happen is decided ahead of time from the
shapes of the values that a context gives to names.

A template that is well shaped can be filled in from every context whose values have the given
shapes (`pieces_of_wellShaped`).  The check is computable, so that for a given template it is a
calculation.

## Main definitions

* `Template.Shape`, `Template.Shape.Admits` — what is known about a value
* `Template.Fits` — a context gives values of known shapes to names
* `Template.Expression.shape?` — the shape of the value of an expression
* `Template.wellShaped` — the check

## Main results

* `Template.Expression.evaluate_of_shape?` — an expression with a shape has a value of that
  shape
* `Template.pieces_of_wellShaped` — well-shaped templates can be filled in
-/

namespace ShaderLoom

/-- A step that succeeds on every item of a list succeeds on the list, with the results of the
items. -/
theorem exists_mapM_eq_ok {α β ε : Type} {step : α → Except ε β} :
    ∀ {items : List α}, (∀ item ∈ items, ∃ result, step item = .ok result) →
      ∃ results, items.mapM step = .ok results ∧
        ∀ result ∈ results, ∃ item ∈ items, step item = .ok result := by
  intro items
  induction items with
  | nil => intro _; exact ⟨[], rfl, List.forall_mem_nil _⟩
  | cons item rest ih =>
      intro succeeds
      obtain ⟨result, first⟩ := succeeds item List.mem_cons_self
      obtain ⟨results, others, origin⟩ := ih fun other member =>
        succeeds other (List.mem_cons_of_mem _ member)
      refine ⟨result :: results, ?_, ?_⟩
      · rw [List.mapM_cons, first, others]
        rfl
      · refine List.forall_mem_cons.mpr ⟨⟨item, List.mem_cons_self, first⟩, ?_⟩
        intro other member
        obtain ⟨source, among, gives⟩ := origin other member
        exact ⟨source, List.mem_cons_of_mem _ among, gives⟩

namespace Template

/-! ## Shapes -/

/-- What is known about a value. -/
inductive Shape where
  /-- Any data. -/
  | datum
  /-- A list. -/
  | list
  /-- A text that writes an integer that a range can have. -/
  | numeral
  /-- An integer that a range can have. -/
  | integer
  /-- The state of a loop. -/
  | progress
  deriving DecidableEq

/-- Whether a range can have this many elements. -/
def InRange (n : Int) : Prop :=
  ¬ (n < Int64.minValue.toInt ∨ Value.maxRange < n)

theorem inRange_ofNat {n : Nat} (few : n ≤ Value.maxRange) : InRange (Int.ofNat n) := by
  have least : Int64.minValue.toInt < 0 := by decide
  have bound : Int.ofNat n ≤ Value.maxRange := Int.ofNat_le.mpr few
  have positive : 0 ≤ Int.ofNat n := Int.natCast_nonneg n
  rw [InRange]
  omega

/-- The values of a shape. -/
def Shape.Admits : Shape → Value → Prop
  | datum, value => ∃ document, value = .data document
  | list, value => ∃ items, value = .data (.list items)
  | numeral, value =>
    ∃ text n, value = .data (.text text) ∧ Text.readInteger text.toList = some n ∧ InRange n
  | integer, value => ∃ n, value = .data (.integer n) ∧ InRange n
  | progress, value => ∃ index rounds, value = .progress index rounds

/-- Every value of a known shape can be put into a text. -/
theorem Shape.Admits.render {shape : Shape} {value : Value} (admits : shape.Admits value) :
    ∃ text, value.render = .ok text := by
  have data : ∀ document, ∃ text, (Value.data document).render = .ok text := by
    intro document
    cases document <;> exact ⟨_, rfl⟩
  cases shape with
  | datum => obtain ⟨document, rfl⟩ := admits; exact data document
  | list => obtain ⟨items, rfl⟩ := admits; exact data _
  | numeral => obtain ⟨text, n, rfl, _⟩ := admits; exact data _
  | integer => obtain ⟨n, rfl, _⟩ := admits; exact data _
  | progress => obtain ⟨index, rounds, rfl⟩ := admits; exact ⟨_, rfl⟩

/-- The shapes of the values of names. -/
abbrev Shapes := List (String × Shape)

/-- A context gives names values of their shapes, and leaves ranges their meaning. -/
structure Fits (context : Context) (shapes : Shapes) : Prop where
  admits : ∀ name shape, shapes.lookup name = some shape →
    ∃ value, context.lookup name = some value ∧ shape.Admits value
  range : context.lookup "range" = none

theorem Fits.nil : Fits [] [] := by
  refine ⟨?_, rfl⟩
  intro name shape found
  cases found

/-- One more name with a value of its shape. -/
theorem Fits.cons {context : Context} {shapes : Shapes} (fits : Fits context shapes)
    {name : String} {shape : Shape} {value : Value} (admits : shape.Admits value)
    (free : name ≠ "range") : Fits ((name, value) :: context) ((name, shape) :: shapes) := by
  refine ⟨?_, ?_⟩
  · intro other expected found
    rw [List.lookup_cons] at found ⊢
    cases same : other == name with
    | true =>
        rw [same] at found
        cases found
        exact ⟨value, rfl, admits⟩
    | false =>
        rw [same] at found
        exact fits.admits other expected found
  · rw [List.lookup_cons]
    have different : ("range" == name) = false := beq_false_of_ne (Ne.symm free)
    rw [different]
    exact fits.range

/-! ## Expressions -/

/-- The shape of the value of an expression, if it is sure to have one. -/
def Expression.shape? (shapes : Shapes) : Expression → Option Shape
  | name n => shapes.lookup n
  | text _ => some .datum
  | number _ => some .datum
  | truth _ => some .datum
  | null => some .datum
  | equal left right =>
    if (left.shape? shapes).isSome && (right.shape? shapes).isSome then some .datum else none
  | toInteger operand => if operand.shape? shapes = some .numeral then some .integer else none
  | range operand => if operand.shape? shapes = some .integer then some .list else none

/-- **An expression with a shape has a value of that shape.** -/
theorem Expression.evaluate_of_shape? {context : Context} {shapes : Shapes}
    (fits : Fits context shapes) : ∀ {expression : Expression} {shape : Shape},
      expression.shape? shapes = some shape →
        ∃ value, expression.evaluate context = .ok (some value) ∧ shape.Admits value := by
  intro expression
  induction expression with
  | name n =>
      intro shape found
      obtain ⟨value, given, admits⟩ := fits.admits n shape found
      refine ⟨value, ?_, admits⟩
      rw [evaluate, Context.value?, given]
  | text value =>
      intro shape found
      cases found
      exact ⟨_, rfl, _, rfl⟩
  | number value =>
      intro shape found
      cases found
      exact ⟨_, rfl, _, rfl⟩
  | truth value =>
      intro shape found
      cases found
      exact ⟨_, rfl, _, rfl⟩
  | null =>
      intro shape found
      cases found
      exact ⟨_, rfl, _, rfl⟩
  | equal left right ihLeft ihRight =>
      intro shape found
      rw [shape?] at found
      split at found
      · rename_i both
        cases found
        rw [Bool.and_eq_true, Option.isSome_iff_exists, Option.isSome_iff_exists] at both
        obtain ⟨⟨shapeLeft, foundLeft⟩, shapeRight, foundRight⟩ := both
        obtain ⟨valueLeft, evaluatesLeft, _⟩ := ihLeft foundLeft
        obtain ⟨valueRight, evaluatesRight, _⟩ := ihRight foundRight
        refine ⟨.data (.bool (valueLeft.equals valueRight)), ?_, _, rfl⟩
        rw [evaluate, evaluatesLeft, evaluatesRight]
        rfl
      · cases found
  | toInteger operand ih =>
      intro shape found
      rw [shape?] at found
      split at found
      · rename_i numeral
        cases found
        obtain ⟨value, evaluates, text, n, rfl, reads, inRange⟩ := ih numeral
        refine ⟨.data (.integer n), ?_, n, rfl, inRange⟩
        rw [evaluate, evaluates]
        change (do return some (Value.data (.integer (← Value.toInteger _)))) = _
        rw [Value.toInteger, reads]
        rfl
      · cases found
  | range operand ih =>
      intro shape found
      rw [shape?] at found
      split at found
      · rename_i integer
        cases found
        obtain ⟨value, evaluates, n, rfl, inRange⟩ := ih integer
        refine ⟨.data (.list ((List.range n.toNat).map fun (i : Nat) => .integer i)),
          ?_, _, rfl⟩
        rw [evaluate, evaluates]
        change (do
          if (context.lookup "range").isSome then Except.error TemplateFault.invalidOperation
          return some (Value.data (.list (← Value.range (.data (.integer n)))))) = _
        rw [fits.range, Value.range, if_neg inRange]
        rfl
      · cases found

theorem Expression.force_of_shape? {context : Context} {shapes : Shapes}
    (fits : Fits context shapes) {expression : Expression} {shape : Shape}
    (found : expression.shape? shapes = some shape) :
    ∃ value, expression.force context = .ok value ∧ shape.Admits value := by
  obtain ⟨value, evaluates, admits⟩ := evaluate_of_shape? fits found
  refine ⟨value, ?_, admits⟩
  rw [force, evaluates]
  rfl

/-! ## Templates -/

/-- Whether a template can be filled in wherever names have values of the given shapes. -/
def wellShaped (shapes : Shapes) : Template → Bool
  | done => true
  | text _ rest => rest.wellShaped shapes
  | emit expression rest => (expression.shape? shapes).isSome && rest.wellShaped shapes
  | choose condition yes no rest =>
    (condition.shape? shapes).isSome && yes.wellShaped shapes && no.wellShaped shapes &&
      rest.wellShaped shapes
  | loop name source body rest =>
    source.shape? shapes == some .list && name != "range" &&
      body.wellShaped ((name, .datum) :: ("loop", .progress) :: shapes) &&
      rest.wellShaped shapes

/-- **Well-shaped templates can be filled in.** -/
theorem pieces_of_wellShaped {template : Template} :
    ∀ {context : Context} {shapes : Shapes}, Fits context shapes →
      template.wellShaped shapes = true → ∃ pieces, template.pieces context = .ok pieces := by
  induction template with
  | done =>
      intro context shapes _ _
      exact ⟨[], rfl⟩
  | text value rest ih =>
      intro context shapes fits shaped
      obtain ⟨pieces, filled⟩ := ih fits shaped
      refine ⟨String.ofList value :: pieces, ?_⟩
      rw [Template.pieces, filled]
      rfl
  | emit expression rest ih =>
      intro context shapes fits shaped
      rw [wellShaped, Bool.and_eq_true, Option.isSome_iff_exists] at shaped
      obtain ⟨⟨shape, found⟩, shapedRest⟩ := shaped
      obtain ⟨value, forced, admits⟩ := Expression.force_of_shape? fits found
      obtain ⟨text, rendered⟩ := admits.render
      obtain ⟨pieces, filled⟩ := ih fits shapedRest
      refine ⟨text :: pieces, ?_⟩
      rw [Template.pieces, forced, filled]
      change (do return (← value.render) :: pieces) = _
      rw [rendered]
      rfl
  | choose condition yes no rest ihYes ihNo ihRest =>
      intro context shapes fits shaped
      rw [wellShaped, Bool.and_eq_true, Bool.and_eq_true, Bool.and_eq_true,
        Option.isSome_iff_exists] at shaped
      obtain ⟨⟨⟨⟨shape, found⟩, shapedYes⟩, shapedNo⟩, shapedRest⟩ := shaped
      obtain ⟨value, forced, _⟩ := Expression.force_of_shape? fits found
      obtain ⟨piecesYes, filledYes⟩ := ihYes fits shapedYes
      obtain ⟨piecesNo, filledNo⟩ := ihNo fits shapedNo
      obtain ⟨pieces, filled⟩ := ihRest fits shapedRest
      refine ⟨(if value.isTrue then piecesYes else piecesNo) ++ pieces, ?_⟩
      rw [Template.pieces, forced, filledYes, filledNo, filled]
      change (do
        let chosen ← if value.isTrue then Except.ok piecesYes else Except.ok piecesNo
        return chosen ++ pieces) = _
      cases value.isTrue <;> rfl
  | loop name source body rest ihBody ihRest =>
      intro context shapes fits shaped
      rw [wellShaped, Bool.and_eq_true, Bool.and_eq_true, Bool.and_eq_true, beq_iff_eq,
        bne_iff_ne] at shaped
      obtain ⟨⟨⟨found, free⟩, shapedBody⟩, shapedRest⟩ := shaped
      obtain ⟨value, forced, items, rfl⟩ := Expression.force_of_shape? fits found
      obtain ⟨pieces, filled⟩ := ihRest fits shapedRest
      have rounds : ∀ entry ∈ items.zipIdx, ∃ pieces, body.pieces
          ((name, .data entry.1) :: ("loop", .progress entry.2 items.length) :: context) =
            .ok pieces := by
        intro entry _
        -- Neither the item nor the progress of the loop hides the name `range`.
        have loop : Fits (("loop", .progress entry.2 items.length) :: context)
            (("loop", .progress) :: shapes) := fits.cons ⟨_, _, rfl⟩ (by decide)
        have item : Shape.datum.Admits (.data entry.1) := ⟨_, rfl⟩
        exact ihBody (loop.cons item free) shapedBody
      obtain ⟨results, filledRounds, _⟩ := exists_mapM_eq_ok rounds
      refine ⟨results.flatten ++ pieces, ?_⟩
      rw [Template.pieces, forced, filled]
      change (do
        let rounds ← items.zipIdx.mapM fun (entry : Document × Nat) => body.pieces
          ((name, .data entry.1) :: ("loop", .progress entry.2 items.length) :: context)
        return rounds.flatten ++ pieces) = _
      rw [filledRounds]
      rfl

theorem render_of_wellShaped {template : Template} {context : Context} {shapes : Shapes}
    (fits : Fits context shapes) (shaped : template.wellShaped shapes = true) :
    ∃ text, template.render context = .ok text := by
  obtain ⟨pieces, filled⟩ := pieces_of_wellShaped fits shaped
  refine ⟨String.join pieces, ?_⟩
  rw [render, filled]
  rfl

end Template
end ShaderLoom
