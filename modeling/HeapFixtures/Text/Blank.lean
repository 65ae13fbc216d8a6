/-
# Blanks

The characters of all scripts that leave nothing but room: spaces, tabulators and the ends
of lines, paragraphs and pages.
-/

namespace HeapFixtures
namespace Text

def isBlank (c : Char) : Bool :=
  (9 ≤ c.toNat && c.toNat ≤ 13) || (0x2000 ≤ c.toNat && c.toNat ≤ 0x200A) ||
    [0x20, 0x85, 0xA0, 0x1680, 0x2028, 0x2029, 0x202F, 0x205F, 0x3000].contains c.toNat

end Text
end HeapFixtures
