import LayeredConfig.Text.Ranges

/-!
# Encoded characters

UTF-8 writes a character as one to four bytes. The characters of a set fall into few
sequences of byte ranges, each of which stands for all combinations of its bytes.
-/
namespace LayeredConfig.Text

/-- A sequence of byte ranges. -/
abbrev ByteSequence : Type := List (Nat × Nat)

/-- The sequences for the characters from `first` to `last`, if these take `count` bytes after
the first one; the first byte is the sum of `lead` and the bits that it carries. A byte after
it carries six bits. -/
def byteSequences (lead : Nat) : Nat → Nat → Nat → List ByteSequence
  | 0, first, last => [[(lead + first, lead + last)]]
  | count + 1, first, last =>
    let block := Nat.pow 64 (count + 1)
    let within (head first last : Nat) : List ByteSequence :=
      (byteSequences 0x80 count first last).map ((lead + head, lead + head) :: ·)
    let a := first / block
    let b := last / block
    if a = b then within a (first % block) (last % block)
    else
      let start := if first % block = 0 then a else a + 1
      let stop := if last % block = block - 1 then b + 1 else b
      (if start = a then [] else within a (first % block) (block - 1))
        ++ (if start < stop then
            [(lead + start, lead + (stop - 1)) :: List.replicate (count + 1) (0x80, 0xBF)]
          else [])
        ++ (if stop = b then within b 0 (last % block) else [])

/-- The characters `first` to `last` that take `count` bytes after the first one, and what the
first byte of each adds to the bits that it carries: entries `(first, last, lead, count)`. -/
def encodings : List (Nat × Nat × Nat × Nat) :=
  [(0, 0x7F, 0, 0), (0x80, 0x7FF, 0xC0, 1), (0x800, 0xD7FF, 0xE0, 2), (0xE000, 0xFFFF, 0xE0, 2),
   (0x10000, 0x10FFFF, 0xF0, 3)]

/-- The byte sequences for the characters of a set, in ascending order. -/
def Ranges.encoded (rs : Ranges) : List ByteSequence :=
  rs.flatMap fun r => encodings.flatMap fun (first, last, lead, count) =>
    let first := max r.1 first
    let last := min r.2 last
    if first ≤ last then byteSequences lead count first last else []

end LayeredConfig.Text
