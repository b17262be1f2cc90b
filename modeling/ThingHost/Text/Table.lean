import ThingHost.Text.Digits
import ThingHost.Text.Split

/-! Properties of characters, written down as tables. A table is a text of hexadecimal code points with
    blanks between its words, so it can be compared with the standard that it comes from. -/

namespace ThingHost
namespace Text
namespace Table

/-- The words of a table. -/
def words (table : String) : List (List Char) :=
  (splitOn ' ' (table.toList.map fun c => if c = '\n' then ' ' else c)).filter (!·.isEmpty)

/-- The code point that a word is. -/
def code (word : List Char) : Nat := (Digits.read? 16 word).getD 0

/-! ### Sets -/

/-- A set of characters, as ranges with both ends. -/
abbrev Ranges := List (Nat × Nat)

/-- A range: a code point, or the first and the last with a dash between them. -/
def range (word : List Char) : Nat × Nat :=
  match splitOn '-' word with
  | [first, last] => (code first, code last)
  | _ => (code word, code word)

/-- The set that a table of ranges is. -/
def ranges (table : String) : Ranges := (words table).map range

/-- The character is in the set. -/
def has (set : Ranges) (c : Char) : Bool := set.any fun (first, last) => first ≤ c.toNat && c.toNat ≤ last

/-! ### Values -/

/-- The keys that stand before colons, each with the words up to the next one. -/
def sections (key : Nat) (reversed : List (List Char)) : List (List Char) → List (Nat × List (List Char))
  | [] => [(key, reversed.reverse)]
  | word :: rest =>
    if word.getLast? = some ':' then (key, reversed.reverse) :: sections (code word.dropLast) [] rest
    else sections key (word :: reversed) rest

/-- The characters that a word is, which are joined by plus signs. -/
def chars (word : List Char) : List Char := (splitOn '+' word).map fun c => Char.ofNat (code c)

/-- Characters with the texts that they are mapped to. A key is the first of a run of characters, whose
    texts follow one after another. -/
def images (table : String) : List (Char × List Char) :=
  (sections 0 [] (words table)).flatMap fun (first, run) =>
    run.zipIdx.map fun (word, n) => (Char.ofNat (first + n), chars word)

end Table
end Text
end ThingHost
