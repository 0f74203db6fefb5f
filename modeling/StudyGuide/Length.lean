/-!
Lengths on a page, in points of 1/72 inch. They are binary floating-point numbers of 32 bits, and
every operation rounds, so the order of operations is part of a layout.
-/

set_option autoImplicit false
set_option relaxedAutoImplicit false

namespace StudyGuide

abbrev Length := Float32

namespace Length

/-- The larger of two lengths; a length that is no number gives way to the other. -/
def larger (a b : Length) : Length := if a < b then b else if a == a then a else b

/-- The smaller of two lengths; a length that is no number gives way to the other. -/
def smaller (a b : Length) : Length := if b < a then b else if a == a then a else b

def toMillimetres (points : Length) : Length := points * 25.4 / 72.0

def ofMillimetres (millimetres : Length) : Length := millimetres * 2.834646

/-- A length as a page shows it: pages are measured in whole steps of millimetres and back. -/
def onPage (points : Length) : Length := ofMillimetres (toMillimetres points)

end Length

end StudyGuide
