/-!
# The segments of an expression text

A text is a sequence of literal runs, escapes `\$` and placeholders `${inner}`. A
placeholder ends at the first closing brace after its opening. Writing the segments
of a text gives the text back.
-/
namespace LayeredConfig

inductive Segment where
  | literal (text : List Char)
  /-- A backslash and a dollar, which stand for a dollar. -/
  | escape
  | placeholder (inner : List Char)
deriving DecidableEq, Repr

namespace Segment

/-- A placeholder with its delimiters. -/
def raw (inner : List Char) : List Char :=
  '$' :: '{' :: (inner ++ ['}'])

def write : Segment → List Char
  | .literal text => text
  | .escape => ['\\', '$']
  | .placeholder inner => raw inner

def writeAll (segments : List Segment) : List Char :=
  segments.flatMap write

/-! ## Schemes -/

def isSchemeChar (c : Char) : Bool :=
  c.isAlphanum || c == '_' || c == '-'

/-- The scheme before the first colon and the expression after it, if what stands before
the colon can be a scheme. -/
def splitScheme? (inner : List Char) : Option (List Char × List Char) :=
  let scheme := inner.takeWhile (· != ':')
  match inner.dropWhile (· != ':') with
  | ':' :: expression =>
    if !scheme.isEmpty && scheme.all isSchemeChar then some (scheme, expression) else none
  | _ => none

/-! ## Parsing -/

/-- The bytes a text takes in UTF-8. -/
def byteLength : List Char → Nat
  | [] => 0
  | c :: cs => c.utf8Size + byteLength cs

/-- Put a character in front of the segments, into a literal that stands there. -/
def consChar (c : Char) : List Segment → List Segment
  | .literal text :: segments => .literal (c :: text) :: segments
  | segments => .literal [c] :: segments

/-- The segments of a text that starts at byte `position` of the whole; fails with the
position of a placeholder that is never closed. -/
def parseFrom (position : Nat) : List Char → Except Nat (List Segment)
  | [] => .ok []
  | '\\' :: '$' :: rest => (parseFrom (position + 2) rest).map (.escape :: ·)
  | '$' :: '{' :: rest =>
    let inner := rest.takeWhile (· != '}')
    match _h : rest.dropWhile (· != '}') with
    | _ :: rest' =>
      let width := 3 + byteLength inner
      (parseFrom (position + width) rest').map (.placeholder inner :: ·)
    | [] => .error position
  | c :: rest => (parseFrom (position + c.utf8Size) rest).map (consChar c)
termination_by cs => cs.length
decreasing_by
  · simp only [List.length_cons]
    omega
  · have := (List.dropWhile_sublist (l := rest) (· != '}')).length_le
    simp only [_h, List.length_cons] at this ⊢
    omega
  · simp only [List.length_cons]
    omega

def parse (text : List Char) : Except Nat (List Segment) :=
  parseFrom 0 text

/-! ## Writing what was parsed -/

@[simp] theorem writeAll_cons (s : Segment) (ss : List Segment) :
    writeAll (s :: ss) = s.write ++ writeAll ss := rfl

theorem writeAll_consChar (c : Char) (ss : List Segment) :
    writeAll (consChar c ss) = c :: writeAll ss := by
  unfold consChar
  split <;> simp [write]

theorem writeAll_of_parseFrom {position : Nat} {cs : List Char} {segments : List Segment}
    (h : parseFrom position cs = .ok segments) : writeAll segments = cs := by
  fun_induction parseFrom position cs generalizing segments with
  | case1 =>
    cases h
    rfl
  | case2 position rest ih =>
    cases hr : parseFrom (position + 2) rest with
    | error e => simp [hr, Except.map] at h
    | ok ss =>
      simp only [hr, Except.map, Except.ok.injEq] at h
      simp [← h, ih hr, write]
  | case3 position rest inner c rest' hd width =>
    rename_i ih
    cases hr : parseFrom (position + width) rest' with
    | error e => simp [hr, Except.map] at h
    | ok ss =>
      simp only [hr, Except.map, Except.ok.injEq] at h
      have hne : c = '}' := by
        have := List.head?_dropWhile_not (p := (· != '}')) rest
        simpa [hd] using this
      have hsplit := List.takeWhile_append_dropWhile (p := (· != '}')) (l := rest)
      rw [hd] at hsplit
      subst hne
      simp [← h, ih hr, write, raw, inner, hsplit]
  | case4 => cases h
  | case5 position c rest _ _ ih =>
    cases hr : parseFrom (position + c.utf8Size) rest with
    | error e => simp [hr, Except.map] at h
    | ok ss =>
      simp only [hr, Except.map, Except.ok.injEq] at h
      rw [← h, writeAll_consChar, ih hr]

theorem writeAll_of_parse {text : List Char} {segments : List Segment}
    (h : parse text = .ok segments) : writeAll segments = text :=
  writeAll_of_parseFrom h

/-! ## A cheap test -/

/-- The text holds the opening of a placeholder or an escape. -/
def needsEvaluation : List Char → Bool
  | '\\' :: '$' :: _ => true
  | '$' :: '{' :: _ => true
  | _ :: rest => needsEvaluation rest
  | [] => false

end Segment

end LayeredConfig
