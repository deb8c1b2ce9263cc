/-!
# Templates

A template is a text with placeholders such as `${name}`.  It is read from left to right: where
`${` is followed by at least one character other than `}` before the next `}`, everything up to
that `}` is a placeholder, and otherwise one character stands for itself.  What is put in the place
of a placeholder is not read again.

Renders the placeholders of `FormatStringDecorator`.

Main statements: the parts of a template, written out, are the template.
-/

namespace LogSearch.Template

/-- A part of a template. -/
inductive Segment
  | char (c : Char)
  | placeholder (name : List Char)
deriving Repr, DecidableEq

/-- The name and the rest when a text starts with a placeholder. -/
def placeholder? (cs : List Char) : Option (List Char × List Char) :=
  match cs with
  | '$' :: '\x7b' :: r =>
    let name := r.takeWhile (· != '\x7d')
    match name, r.dropWhile (· != '\x7d') with
    | _ :: _, _ :: rest => some (name, rest)
    | _, _ => none
  | _ => none

/-- What a placeholder is made of. -/
theorem eq_of_placeholder? {cs name rest : List Char} (h : placeholder? cs = some (name, rest)) :
    cs = '$' :: '\x7b' :: name ++ '\x7d' :: rest := by
  unfold placeholder? at h
  split at h
  · rename_i r
    dsimp only at h
    split at h
    · rename_i n hd x t hn hr
      obtain ⟨hname, hrest⟩ := Prod.mk.inj (Option.some.inj h)
      have hx : x = '\x7d' := by
        have := List.head?_dropWhile_not (· != '\x7d') r
        rw [hr] at this
        simpa using this
      have happ := List.takeWhile_append_dropWhile (p := (· != '\x7d')) (l := r)
      rw [hr] at happ
      subst hx
      rw [← hname, ← hrest, List.cons_append, List.cons_append, happ]
    · cases h
  · cases h

theorem length_lt_of_placeholder? {cs name rest : List Char}
    (h : placeholder? cs = some (name, rest)) : rest.length < cs.length := by
  rw [eq_of_placeholder? h]
  simp only [List.length_cons, List.length_append, List.cons_append]
  omega

/-- The parts of a template. -/
def segments (cs : List Char) : List Segment :=
  match _h : placeholder? cs with
  | some (name, rest) => .placeholder name :: segments rest
  | none =>
    match cs with
    | [] => []
    | c :: r => .char c :: segments r
termination_by cs.length
decreasing_by
  · exact length_lt_of_placeholder? _h
  · simp

/-- A part of a template as it is written. -/
def Segment.written : Segment → List Char
  | .char c => [c]
  | .placeholder name => '$' :: '\x7b' :: name ++ ['\x7d']

/-- The names of the placeholders of a template, in order. -/
def names (cs : List Char) : List String :=
  (segments cs).filterMap fun
    | .char _ => none
    | .placeholder name => some (String.ofList name)

/-- A template with a text in the place of each placeholder. -/
def render (fill : String → String) (cs : List Char) : String :=
  String.ofList ((segments cs).flatMap fun
    | .char c => [c]
    | .placeholder name => (fill (String.ofList name)).toList)

/-- The parts of a template, written out, are the template. -/
theorem flatMap_written_segments (cs : List Char) : (segments cs).flatMap Segment.written = cs := by
  fun_induction segments cs with
  | case1 cs name rest h ih =>
    rw [List.flatMap_cons, ih, eq_of_placeholder? h]
    simp [Segment.written]
  | case2 => rfl
  | case3 c r _ ih => rw [List.flatMap_cons, ih]; rfl

end LogSearch.Template
