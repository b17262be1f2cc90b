/-! The name of a Thing as it stands in a URL: the lower-case letters a to z and the digits of the name,
    every run of other characters between them written as one dash. -/

namespace ThingHost
namespace Slug

/-- The characters a slug keeps. -/
def keeps (c : Char) : Bool := ('a' ≤ c && c ≤ 'z') || ('0' ≤ c && c ≤ '9')

/-- The lower case of a character. Besides A to Z only two characters have a letter from a to z in
    their lower case: the Kelvin sign, and the capital I with a dot, whose dot becomes a mark of its own.
    The lower case of every other character is outside of a to z, as is the character itself. -/
def lower (c : Char) : List Char :=
  if c = '\u212A' then ['k']
  else if c = '\u0130' then ['i', '\u0307']
  else [c.toLower]

/-- Writes the kept characters. A dash stands for the characters left out since the last kept one,
    and only once another one follows: `started` says that one is written, `gap` that some were left
    out. -/
def compact (started gap : Bool) : List Char → List Char
  | [] => []
  | c :: rest =>
    if keeps c then (if started && gap then ['-', c] else [c]) ++ compact true false rest
    else compact started true rest

/-- The slug of a name. -/
def ofName (name : String) : String :=
  String.ofList (compact false false (name.toList.flatMap lower))

end Slug
end ThingHost
