import LayeredConfig.Pattern.Form

/-!
# Patterns that are a few words

A form that matches some words and nothing else is found by a search for the words, without an
automaton. Only a few short words are collected, from sets with few members and repetitions of
few rounds. A part that nothing matches has no words, however often it is repeated.
-/
namespace LayeredConfig.Pattern

namespace Words

def mostMembers : Nat := 10

def mostRounds : Nat := 10

/-- The bytes that a word may have while words are collected. -/
def longest : Nat := 100

/-- The words that there may be while they are collected. -/
def most : Nat := 250

def few? (words : List String) : Option (List String) :=
  if words.length ≤ most && words.all (·.utf8ByteSize ≤ longest) then some words else none

/-- Each of the words with each of the others after it. -/
def followed (words : List String) (others : Option (List String)) : Option (List String) :=
  if words.isEmpty then some []
  else do
    let others ← others
    few? (words.flatMap fun w => others.map (w ++ ·))

def repeated (once : Option (List String)) : (rounds : Nat) → Option (List String)
  | 0 => some [""]
  | rounds + 1 => do followed (← once) (repeated once rounds)

/-- The words that do not begin with a word before them. -/
def leading (words : List String) : List String :=
  words.foldl (fun kept w =>
    if kept.any fun v : String => w.startsWith v then kept else kept ++ [w]) []

def commonStart (words : List String) : List Char :=
  match words.map String.toList with
  | [] => []
  | w :: rest => rest.foldl (fun s v => ((s.zip v).takeWhile fun (c, d) => c = d).map Prod.fst) w

/-- Whether a character is so frequent in texts that it is not worth looking for it alone. -/
def isFrequent (c : Char) : Bool :=
  128 ≤ c.toNat || " \n\r(),-./0129:_abcdefghilmnoprstuvxy|".contains c

/-- Whether the words are what is looked for. Short pieces of them are looked for instead if
they are many and long, and what they have in common if it is long or not frequent. -/
def areSearched (words : List String) : Bool :=
  let words := leading words
  !words.isEmpty && !words.contains "" &&
    (words.length ≤ 10 || words.all (·.utf8ByteSize ≤ 4) || words.any (·.utf8ByteSize ≤ 2)) &&
    (words.length = 1 || match commonStart words with
      | [] => true
      | c :: cs => isFrequent c && cs.length < 4)

end Words

namespace Form

/-- Whether neither groups nor assertions are parts of the form. -/
def isPlain : Form → Bool
  | look _ => false
  | group _ _ => false
  | repeated _ _ _ a => a.isPlain
  | seq a b => a.isPlain && b.isPlain
  | alt a b => a.isPlain && b.isPlain
  | _ => true

/-- The words that the form matches, if they are few. -/
def words? : Form → Option (List String)
  | empty => some [""]
  | text cs => Words.few? [.ofList cs]
  | chars _ members =>
    if members.size ≤ Words.mostMembers then
      some (members.points.map fun n => .singleton (.ofNat n))
    else none
  | look _ => some [""]
  | repeated least most reluctant a =>
    let once := a.words?
    match least, most with
    | 0, some 1 => do
      let words ← once
      Words.few? (if reluctant then "" :: words else words ++ [""])
    | 0, _ => if once == some [] then some [""] else none
    | least, most =>
      if once == some [] then some []
      else if most == some least && least ≤ Words.mostRounds then Words.repeated once least
      else none
  | group _ a => a.words?
  | seq a b => do Words.followed (← a.words?) b.words?
  | alt a b => do Words.few? ((← a.words?) ++ (← b.words?))

/-- Whether the form is found by a search for words. -/
def isWordSearch (f : Form) : Bool :=
  f.isPlain && f.words?.any Words.areSearched

end Form

end LayeredConfig.Pattern
