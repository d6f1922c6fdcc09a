import ShaderLoom.Template.Segment

/-!
# Templates

A template is a text with blanks to fill in, choices between parts, and parts that are repeated
for each item of a list.

Each part carries what comes after it, so a template is a list whose items can hold templates.
Nesting is recovered from the flat list of segments from right to left: the end of a construct
is then met first, and what has been collected since is its body.

## Main Definitions

* `Template` — the parts of a template
* `Template.parse` — the template that a text writes
* `Template.render` — the template filled in from a context
-/

namespace ShaderLoom

open Template in
/-- A template: its first part and the rest. -/
inductive Template where
  | done
  | text (value : List Char) (rest : Template)
  | emit (expression : Expression) (rest : Template)
  | choose (condition : Expression) (yes no rest : Template)
  | loop (name : String) (source : Expression) (body rest : Template)
  deriving DecidableEq, Repr, Inhabited

namespace Template

/-! ## Reading -/

/-- A construct whose end has been met and whose start has not, with what comes after it. -/
inductive Frame where
  | loop (after : Template)
  /-- A choice with the part for the case that no condition so far holds; `bare` says that no
  branch has been met yet. -/
  | choice (bare : Bool) (no after : Template)

/-- What has been read from the right: the parts at the current level and the open
constructs. -/
structure Reading where
  current : Template := .done
  frames : List Frame := []

/-- Adds the segment to the left of what has been read. -/
def Reading.attach (reading : Reading) : Segment → Option Reading
  | .text value => some { reading with current := .text value reading.current }
  | .emit e => some { reading with current := .emit e reading.current }
  | .statement .endFor => some { frames := .loop reading.current :: reading.frames }
  | .statement .endIf => some { frames := .choice true .done reading.current :: reading.frames }
  | .statement .otherwise =>
    match reading.frames with
    | .choice true _ after :: frames =>
      some { frames := .choice false reading.current after :: frames }
    | _ => none
  | .statement (.elseIf condition) =>
    match reading.frames with
    | .choice _ no after :: frames =>
      some
        { frames := .choice false (.choose condition reading.current no .done) after :: frames }
    | _ => none
  | .statement (.ifThen condition) =>
    match reading.frames with
    | .choice _ no after :: frames =>
      some { current := .choose condition reading.current no after, frames }
    | _ => none
  | .statement (.forEach name source) =>
    match reading.frames with
    | .loop after :: frames =>
        some { current := .loop name source reading.current after, frames }
    | _ => none

/-- Reads segments from right to left. -/
def Reading.ofSegments : List Segment → Option Reading
  | [] => some {}
  | segment :: rest => do (← Reading.ofSegments rest).attach segment

/-- The template that a list of segments makes up, if every construct is complete. -/
def ofSegments? (segments : List Segment) : Option Template := do
  let reading ← Reading.ofSegments segments
  guard reading.frames.isEmpty
  return reading.current

/-- A text without one given last character. -/
def dropLast (last : Char) (text : List Char) : List Char :=
  match text.reverse with
  | c :: rest => if c = last then rest.reverse else text
  | [] => []

/-- The deepest nesting of a template. -/
def maxDepth : Nat := 150

/-- The template that a text without a final line end writes. -/
def ofText? (text : List Char) : Option Template := do
  let segments ← Segment.scan text
  guard (Segment.deepest 0 segments ≤ maxDepth)
  ofSegments? segments

/-- The template that a text writes.  A final newline belongs to the file, not to the
template. -/
def parse (source : String) : Except TemplateFault Template :=
  match ofText? (dropLast '\r' (dropLast '\n' source.toList)) with
  | some template => .ok template
  | none => .error .malformed

/-! ## Filling in -/

/-- The pieces of text that a template gives in a context. -/
def pieces : Template → Context → Except TemplateFault (List String)
  | done, _ => .ok []
  | text value rest, context => do
    return String.ofList value :: (← rest.pieces context)
  | emit expression rest, context => do
    let value ← (← expression.force context).render
    return value :: (← rest.pieces context)
  | choose condition yes no rest, context => do
    let value ← condition.force context
    let chosen ← if value.isTrue then yes.pieces context else no.pieces context
    return chosen ++ (← rest.pieces context)
  | loop name source body rest, context => do
    let items ← (← source.force context).items
    let count := items.length
    let rounds ← items.zipIdx.mapM fun (item, index) =>
      body.pieces ((name, .data item) :: ("loop", .progress index count) :: context)
    return rounds.flatten ++ (← rest.pieces context)

/-- The text that a template gives in a context. -/
def render (template : Template) (context : Context) : Except TemplateFault String := do
  return String.join (← template.pieces context)

end Template
end ShaderLoom
