import LayeredConfig.Pattern.Automaton

/-!
# Automata for choices of words

A choice between words, which are given by their bytes, is read along the tree of the words. A
word that comes before others in the choice takes precedence over those it is the beginning of.
So where a word ends within the tree, the words after it begin a new bundle of ways on, and the
end stands between the two bundles.
-/
namespace LayeredConfig.Pattern.Automaton

abbrev Word : Type := List UInt8

/-- The words up to each one that is at its end, and those after the last of these. -/
def bundles : List Word → List (List Word)
  | [] => [[]]
  | [] :: rest => [] :: bundles rest
  | word :: rest =>
    match bundles rest with
    | [] => [[word]]
    | bundle :: more => (word :: bundle) :: more

/-- Leave out words that are at their end at once, but for one. -/
def dropEnded : List Word → List Word
  | [] :: [] :: rest => dropEnded ([] :: rest)
  | words => words

def heads (bundle : List Word) : List UInt8 :=
  (bundle.filterMap List.head?).eraseDups

/-- What is left of the words that begin with the given byte. -/
def after (byte : UInt8) (bundle : List Word) : List Word :=
  bundle.filterMap fun
    | b :: rest => if b = byte then some rest else none
    | [] => none

/-- The states of a tree of words of at most `depth` bytes, and the bytes that their ways on
take: at each node a state with jumps to its bundles and to the end between them, and for each
bundle a state that reads a byte. A leaf is the end itself. -/
def treeSize : Nat → List Word → Nat × Nat
  | 0, _ => (0, 0)
  | depth + 1, words =>
    if words.all List.isEmpty then (0, 0)
    else
      let bundles := bundles (dropEnded words)
      let filled := bundles.filter (!·.isEmpty)
      let jumps := filled.length + (bundles.length - 1)
      filled.foldl (fun (states, ways) bundle =>
        let heads := heads bundle
        let branches := if heads.length = 1 then 0 else branchSize * heads.length
        heads.foldl (fun (states, ways) byte =>
          let child := treeSize depth (after byte bundle)
          (states + child.1, ways + child.2)) (states + 1, ways + branches))
        (1, jumpSize * jumps)

/-- The part of an automaton that reads one of the words: their tree, after its end. -/
def treePlan (words : List Word) : Plan :=
  let depth := (words.map List.length).foldr max 0
  let (states, ways) := treeSize depth words
  .add (states + 1) ways

end LayeredConfig.Pattern.Automaton
