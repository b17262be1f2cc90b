import ThingHost.Text.Composed
import ThingHost.Text.Percent
import ThingHost.Url.Domain.Direction
import ThingHost.Url.Domain.Joiner
import ThingHost.Url.Domain.Mapping
import ThingHost.Url.Punycode

/-! Domains: labels between full stops, in any script. A domain is compared in one form, in which two
    spellings of the same name are one, and a label of other scripts can also be spelt in ASCII. -/

namespace ThingHost
namespace Url
namespace Domain

/-! ### Labels -/

/-- What the characters of a text stand for, if a domain can have all of them. -/
def mapped? (text : List Char) : Option (List Char) := (text.mapM image?).map List.flatten

/-- A label of other scripts: it has no stop, does not start with a mark, has joiners only where they
    make a difference, and keeps to one direction. Where there is a joiner, its place decides. -/
def isLabel (label : List Char) : Bool :=
  !label.contains '.' && !label.head?.any Text.isMark &&
    (firstJoiner? [] label).getD (keepsDirection label)

/-- The start of a label that is spelt in ASCII. -/
def spellingMark : List Char := ['x', 'n', '-', '-']

/-- A label that is spelt in ASCII has to spell a label in the form in which it is compared. -/
def isSpelling (code : List Char) : Bool :=
  if spellingMark.isPrefixOf code then false
  else
    match Punycode.decode? code with
    | none => false
    | some chars =>
      let label := chars.map Char.ofNat
      chars.all (·.isValidChar) && !label.isEmpty && mapped? label = some label &&
        Text.composed label = label && isLabel label

def isAscii (text : List Char) : Bool := text.all (·.toNat < 0x80)

/-- Whether a part of a domain is a label, or empty. -/
def isPart (part : List Char) : Bool :=
  if spellingMark.isPrefixOf part then isAscii part && isSpelling (part.drop spellingMark.length)
  else isAscii part || isLabel part

/-! ### Domains -/

/-- Characters that no host has. -/
def isForbiddenInHost (c : Char) : Bool :=
  ['\x00', '\t', '\n', '\r', ' ', '#', '/', ':', '<', '>', '?', '@', '[', '\\', ']', '^', '|'].contains c

/-- Characters that no domain has. -/
def isForbidden (c : Char) : Bool :=
  isForbiddenInHost c || c.toNat < 0x20 || c = '%' || c.toNat = 0x7F

/-- The form in which a domain is compared, if it is one. -/
def canonical? (domain : List Char) : Option (List Char) := do
  let text := Text.composed (← mapped? domain)
  if text.isEmpty || text.any isForbidden || !(Text.splitOn '.' text).all isPart then none else text

end Domain
end Url
end ThingHost
