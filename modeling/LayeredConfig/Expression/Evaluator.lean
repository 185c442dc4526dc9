import LayeredConfig.Arrangement
import LayeredConfig.Error
import LayeredConfig.Expression.Resolver
import LayeredConfig.Expression.Segment

/-!
# Evaluation of expressions

One pass replaces each placeholder that a resolver answers by the answer, as it is,
and keeps all else. Passes follow until one changes nothing; the text is then rendered.
A bound on the passes stops references that go in circles or grow.
-/
namespace LayeredConfig

structure Evaluator where
  /-- In the order in which they are asked. -/
  resolvers : List Resolver
  unresolved : Unresolved
  maxPasses : Nat

namespace Evaluator

/-! ## Building -/

structure Builder where
  /-- In the order of registration. -/
  resolvers : List Resolver := []
  unresolved : Unresolved := .mask
  maxPasses : Nat := 10

namespace Builder

def withResolver (b : Builder) (r : Resolver) : Builder :=
  { b with resolvers := b.resolvers ++ [r] }

def withDefaultResolvers (b : Builder) (vars : StringMap String) : Builder :=
  (b.withResolver .configuration).withResolver (.environment vars)

def build (b : Builder) : Except Error Evaluator :=
  if b.resolvers.isEmpty then .error .missingResolver
  else if b.maxPasses = 0 then .error (.config "max_passes must be greater than 0")
  else .ok ⟨arrange Resolver.precedes b.resolvers, b.unresolved, b.maxPasses⟩

end Builder

/-! ## Resolving one placeholder -/

/-- The first answer of the resolvers, each asked only if those before had none. -/
def firstAnswer (expression : String) (lookup : Lookup) :
    List Resolver → Journaled (Option String)
  | [] => pure none
  | r :: rs => do
    match ← r.resolve expression lookup with
    | some answer => pure (some answer)
    | none => firstAnswer expression lookup rs

/-- The resolver that the inner text names by its scheme, and the expression left for it. -/
def named? (ev : Evaluator) (inner : List Char) : Option (Resolver × List Char) := do
  let (scheme, expression) ← Segment.splitScheme? inner
  let r ← ev.resolvers.find? (·.scheme == .ofList scheme)
  return (r, expression)

/-- A resolver that is named is the only one asked. -/
def answer (ev : Evaluator) (lookup : Lookup) (inner : List Char) : Journaled (Option String) :=
  match ev.named? inner with
  | some (r, expression) => r.resolve (.ofList expression) lookup
  | none => firstAnswer (.ofList inner) lookup ev.resolvers

/-! ## One pass -/

def answerSegment (ev : Evaluator) (lookup : Lookup) : Segment → Journaled (Option String)
  | .placeholder inner => ev.answer lookup inner
  | _ => pure none

/-- The text after one pass, and whether any placeholder was answered. -/
def substitute (ev : Evaluator) (lookup : Lookup) : List Segment → Journaled (List Char × Bool)
  | [] => pure ([], false)
  | segment :: segments => do
    let found ← ev.answerSegment lookup segment
    let (text, any) ← ev.substitute lookup segments
    match found with
    | some value => pure (value.toList ++ text, true)
    | none => pure (segment.write ++ text, any)

/-! ## Rendering -/

def renderSegment (policy : Unresolved) : Segment → Except Error (List Char)
  | .literal text => .ok text
  | .escape => .ok ['$']
  | .placeholder inner =>
    match policy with
    | .mask => .ok ('[' :: (Segment.raw inner ++ [']']))
    | .empty => .ok []
    | .fail => .error (.unresolvedExpression (.ofList (Segment.raw inner)))

def render (policy : Unresolved) : List Segment → Except Error (List Char)
  | [] => .ok []
  | segment :: segments => do
    let text ← renderSegment policy segment
    return text ++ (← render policy segments)

/-! ## Pass after pass -/

def passLine (pass : Nat) (current next : List Char) : String :=
  let before := String.ofList current
  let after := String.ofList next
  s!"Expression pass {pass}: '{before}' -> '{after}'"

/-- Passes until the text settles, `left` of them at most; `pass` is the number of the next. -/
def settle (ev : Evaluator) (lookup : Lookup) (whole : List Char) :
    Nat → Nat → List Char → Journaled (Except Error (List Char))
  | 0, _, _ => pure (.error (.expressionLoop (.ofList whole) ev.maxPasses))
  | left + 1, pass, current =>
    match Segment.parse current with
    | .error position => pure (.error (.expressionFormat (.ofList current) position))
    | .ok segments => do
      let (next, resolvedAny) ← ev.substitute lookup segments
      if next = current then
        if resolvedAny then pure (.error (.expressionLoop (.ofList whole) pass))
        else pure (render ev.unresolved segments)
      else
        Journaled.debug (passLine pass current next)
        settle ev lookup whole left (pass + 1) next

/-- All passes on a text, whether it needs any or not. -/
def run (ev : Evaluator) (lookup : Lookup) (text : List Char) :
    Journaled (Except Error (List Char)) :=
  ev.settle lookup text ev.maxPasses 1 text

def evaluate (ev : Evaluator) (lookup : Lookup) (text : String) :
    Journaled (Except Error String) :=
  if Segment.needsEvaluation text.toList then do
    return (← ev.run lookup text.toList).map String.ofList
  else pure (.ok text)

/-! ## Description -/

def description (ev : Evaluator) : String :=
  Text.record "ExpressionEvaluator"
    [("resolvers", Text.quotedList (ev.resolvers.map (·.scheme))),
     ("unresolved", ev.unresolved.name),
     ("max_passes", toString ev.maxPasses)]

end Evaluator

end LayeredConfig
