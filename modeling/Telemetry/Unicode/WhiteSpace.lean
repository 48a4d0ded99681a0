import Telemetry.Unicode.CodePoints

/-!
# White space

The characters of the `White_Space` property. The set is written out, since readers ask for it at
every character.
-/

namespace Telemetry.Unicode

/-- Characters that separate words or lines. -/
def whiteSpace : CodePoints :=
  ⟨[⟨0x9, 0xD⟩, ⟨0x20, 0x20⟩, ⟨0x85, 0x85⟩, ⟨0xA0, 0xA0⟩, ⟨0x1680, 0x1680⟩, ⟨0x2000, 0x200A⟩,
    ⟨0x2028, 0x2029⟩, ⟨0x202F, 0x202F⟩, ⟨0x205F, 0x205F⟩, ⟨0x3000, 0x3000⟩]⟩

/-- Whether the character is white space. -/
def isBlank (c : Char) : Bool := whiteSpace.containsChar c

end Telemetry.Unicode
