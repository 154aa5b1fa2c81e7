import PluginForms.Text.Marks
import PluginForms.Text.Unassigned

/-!
The characters that domains know: those of Unicode 17 and the ones of Unicode 18
that are listed here, with a few marks that changed between the two.
-/

namespace PluginForms.Url.Domain

/-- Added characters that are no marks. -/
def addedRanges : List (Nat × Nat) :=
  [(0x558, 0x558), (0x58b, 0x58b), (0x208f, 0x208f), (0x209d, 0x209f), (0x20c2, 0x20c4),
   (0x2e5e, 0x2e60), (0xa7dd, 0xa7e2), (0xab6c, 0xab6c), (0x107bb, 0x107bb), (0x10ec8, 0x10ecb),
   (0x11b0a, 0x11b0a), (0x12550, 0x12686), (0x16d80, 0x16da9), (0x18e00, 0x191ff),
   (0x1b125, 0x1b125), (0x1d127, 0x1d127), (0x1d250, 0x1d28f), (0x1d6a6, 0x1d6a6),
   (0x1df95, 0x1df95), (0x1dfd4, 0x1dfd4), (0x1f6d9, 0x1f6d9), (0x1f7f1, 0x1f7f1),
   (0x1fa8b, 0x1fa8c), (0x1fac9, 0x1fac9), (0x1facc, 0x1facc), (0x1fadd, 0x1fadd),
   (0x1faeb, 0x1faeb), (0x1faf9, 0x1fafa), (0x3d000, 0x3fc3f)]

/-- Added nonspacing marks. -/
def addedMarkRanges : List (Nat × Nat) :=
  [(0x5c8, 0x5c9), (0xb53, 0xb54), (0x1ade, 0x1adf), (0x1aec, 0x1aef), (0x10ef0, 0x10ef9)]

/-- Marks that have become spacing ones. -/
def spacedMarks : List Nat := [0x1b3a, 0x1b3c, 0x1b42]

def isAssigned (c : Char) : Bool :=
  !Text.isUnassigned c || Text.within addedRanges c || Text.within addedMarkRanges c

def isNonspacing (c : Char) : Bool :=
  (Text.isNonspacing c && !spacedMarks.contains c.toNat) || Text.within addedMarkRanges c

def isMark (c : Char) : Bool := Text.isMark c || Text.within addedMarkRanges c

end PluginForms.Url.Domain
